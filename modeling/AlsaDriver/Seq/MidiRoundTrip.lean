import AlsaDriver.Seq.MidiParser

namespace AlsaDriver.Seq

namespace SndMidiEvent

variable {dev : SndMidiEvent} {m : SeqMemory}

def decodeAll (dev : SndMidiEvent) (m : SeqMemory) : List SndSeqEvent → Option (List Byte)
  | [] => some []
  | ev :: rest =>
    match dev.decode m ev with
    | none => none
    | some (bytes, dev) => (decodeAll dev m rest).map (bytes ++ ·)

def noteTypes : List Nat := [SNDRV_SEQ_EVENT_NOTEOFF, SNDRV_SEQ_EVENT_NOTEON, SNDRV_SEQ_EVENT_KEYPRESS]

/-- The data of the event, which only a `SYSEX` has. -/
def sysexData (m : SeqMemory) (ev : SndSeqEvent) : List Byte := m.expandVarEvent ev.data.ext

def midiFields (m : SeqMemory) (ev : SndSeqEvent) : SndSeqEvent :=
  let blank := blankEvent.data
  { blankEvent with
    type := ev.type
    flags := ev.flags &&& SNDRV_SEQ_EVENT_LENGTH_MASK
    data :=
      if ev.type ∈ noteTypes then
        { blank with channel := ev.data.channel, note := ev.data.note, velocity := ev.data.velocity }
      else if ev.type = SNDRV_SEQ_EVENT_CONTROLLER then
        { blank with channel := ev.data.channel, param := ev.data.param, value := ev.data.value }
      else if ev.type ∈ [SNDRV_SEQ_EVENT_PGMCHANGE, SNDRV_SEQ_EVENT_CHANPRESS, SNDRV_SEQ_EVENT_PITCHBEND] then
        { blank with channel := ev.data.channel, value := ev.data.value }
      else if ev.type ∈ [SNDRV_SEQ_EVENT_QFRAME, SNDRV_SEQ_EVENT_SONGPOS, SNDRV_SEQ_EVENT_SONGSEL] then
        { blank with value := ev.data.value }
      else if ev.type = SNDRV_SEQ_EVENT_SYSEX then
        { blank with ext := .kernel (sysexData m ev).length (sysexData m ev) }
      else blank }

/-- A `SYSEX` event with the given data. -/
def sysexFields (data : List Byte) : SndSeqEvent :=
  { blankEvent with
    type := SNDRV_SEQ_EVENT_SYSEX
    flags := SNDRV_SEQ_EVENT_LENGTH_VARIABLE
    data := { blankEvent.data with ext := .kernel data.length data } }

inductive MidiEventOk (m : SeqMemory) (ev : SndSeqEvent) : Prop where
  | note (type : ev.type ∈ noteTypes) (fixed : ev.flags &&& SNDRV_SEQ_EVENT_LENGTH_MASK = SNDRV_SEQ_EVENT_LENGTH_FIXED)
      (channel : ev.data.channel < 16) (note : ev.data.note < 128) (velocity : ev.data.velocity < 128)
  | controller (type : ev.type = SNDRV_SEQ_EVENT_CONTROLLER)
      (fixed : ev.flags &&& SNDRV_SEQ_EVENT_LENGTH_MASK = SNDRV_SEQ_EVENT_LENGTH_FIXED)
      (channel : ev.data.channel < 16) (param : ev.data.param < 128) (low : 0 ≤ ev.data.value)
      (high : ev.data.value < 128)
  | program (type : ev.type ∈ [SNDRV_SEQ_EVENT_PGMCHANGE, SNDRV_SEQ_EVENT_CHANPRESS])
      (fixed : ev.flags &&& SNDRV_SEQ_EVENT_LENGTH_MASK = SNDRV_SEQ_EVENT_LENGTH_FIXED)
      (channel : ev.data.channel < 16) (low : 0 ≤ ev.data.value) (high : ev.data.value < 128)
  | pitchbend (type : ev.type = SNDRV_SEQ_EVENT_PITCHBEND)
      (fixed : ev.flags &&& SNDRV_SEQ_EVENT_LENGTH_MASK = SNDRV_SEQ_EVENT_LENGTH_FIXED)
      (channel : ev.data.channel < 16) (low : -8192 ≤ ev.data.value) (high : ev.data.value < 8192)
  | common (type : ev.type ∈ [SNDRV_SEQ_EVENT_QFRAME, SNDRV_SEQ_EVENT_SONGSEL])
      (fixed : ev.flags &&& SNDRV_SEQ_EVENT_LENGTH_MASK = SNDRV_SEQ_EVENT_LENGTH_FIXED)
      (low : 0 ≤ ev.data.value) (high : ev.data.value < 128)
  | songpos (type : ev.type = SNDRV_SEQ_EVENT_SONGPOS)
      (fixed : ev.flags &&& SNDRV_SEQ_EVENT_LENGTH_MASK = SNDRV_SEQ_EVENT_LENGTH_FIXED)
      (low : 0 ≤ ev.data.value) (high : ev.data.value < 16384)
  | bare (type : ev.type = SNDRV_SEQ_EVENT_TUNE_REQUEST ∨ ev.type ∈ realTimeEvents)
      (fixed : ev.flags &&& SNDRV_SEQ_EVENT_LENGTH_MASK = SNDRV_SEQ_EVENT_LENGTH_FIXED)
  | sysex (type : ev.type = SNDRV_SEQ_EVENT_SYSEX)
      (variable_ : ev.flags &&& SNDRV_SEQ_EVENT_LENGTH_MASK = SNDRV_SEQ_EVENT_LENGTH_VARIABLE) (body : List Byte)
      (data : sysexData m ev = 0xf0 :: body ++ [0xf7]) (inner : ∀ c ∈ body, c < 0x80)

/-- What comes back for one event: itself, or a `SYSEX` in chunks that are all full but the last. -/
def Returned (bufsize : Nat) (m : SeqMemory) (ev : SndSeqEvent) (outs : List SndSeqEvent) : Prop :=
  if ev.type = SNDRV_SEQ_EVENT_SYSEX then
    ∃ chunks last, (chunks ++ [last]).flatten = sysexData m ev ∧ (∀ c ∈ chunks, c.length = bufsize) ∧
      last ≠ [] ∧ last.length ≤ bufsize ∧ outs.map (midiFields m) = (chunks ++ [last]).map sysexFields
  else outs.map (midiFields m) = [midiFields m ev]

theorem low7_toNat (x : Int) : (low7 x).toNat = (x % 128).toNat := by
  have mask : (0x7f : Byte).toNat = 2 ^ 7 - 1 := rfl
  rw [low7, BitVec.toNat_and, mask, Nat.and_two_pow_sub_one_eq_mod, BitVec.toNat_ofInt]
  omega

theorem low7_lt (x : Int) : low7 x < 0x80 := by
  have value := low7_toNat x
  rw [BitVec.lt_def, value]
  have bound : (0x80 : Byte).toNat = 128 := rfl
  omega

theorem and7_eq {c : Byte} (low : c < 128) : c &&& 0x7f = c := by
  revert c
  decide

theorem data_byte {c : Byte} (low : c < 0x80) : c &&& 0x80 = 0 ∧ ¬ MIDI_CMD_COMMON_CLOCK ≤ c ∧
    c ≠ MIDI_CMD_COMMON_SYSEX_END := by
  revert c
  decide

structure Synced (lastcmd : Byte) (dev : SndMidiEvent) : Prop where
  size : 3 ≤ dev.bufsize
  length : dev.buf.length = dev.bufsize
  closed : dev.type ≠ ST_SYSEX
  running : lastcmd < 0xf0 → bufAt dev.buf 0 = lastcmd ∧ dev.type = ((lastcmd >>> 4) &&& 0x07).toNat ∧ dev.qlen = 0

section Steps

variable {c : Byte} {ev : SndSeqEvent}

def newType (c : Byte) : Nat := if c &&& 0xf0 = 0xf0 then (c &&& 0x0f).toNat + ST_SPECIAL else ((c >>> 4) &&& 0x07).toNat

theorem storeByte_command (size : 3 ≤ dev.bufsize) (command : c &&& 0x80 ≠ 0) (closed : dev.type ≠ ST_SYSEX) :
    dev.storeByte c =
      some { dev with
        buf := dev.buf.set 0 c
        type := newType c
        read := 1
        qlen := (statusEvent (newType c)).qlen } := by
  rw [storeByte, if_pos ⟨command, Or.inr closed⟩, setBuf_inside (by omega)]
  rfl

def appended (dev : SndMidiEvent) (c : Byte) : SndMidiEvent :=
  { dev with
    buf := dev.buf.set dev.read c
    read := dev.read + 1
    qlen := dev.qlen - 1 }

theorem storeByte_more (data : c < 0x80) (more : 0 < dev.qlen) (other : dev.type ≠ ST_SYSEX)
    (inside : dev.read < dev.bufsize) : dev.storeByte c = some (dev.appended c) := by
  obtain ⟨plain, -, -⟩ := data_byte data
  rw [storeByte, if_neg (fun command => command.1 plain), if_pos more, setBuf_inside inside]
  simp [other, appended]

theorem storeByte_running (size : 3 ≤ dev.bufsize) (data : c < 0x80) (done : dev.qlen = 0) :
    dev.storeByte c =
      some { dev with
        buf := dev.buf.set 1 c
        qlen := (statusEvent dev.type).qlen - 1
        read := 2 } := by
  obtain ⟨plain, -, -⟩ := data_byte data
  rw [storeByte, if_neg (fun command => command.1 plain), if_neg (by omega), setBuf_inside (by omega)]
  rfl

theorem encodeByte_of_store {dev' : SndMidiEvent} (ev : SndSeqEvent) (low : ¬ MIDI_CMD_COMMON_CLOCK ≤ c)
    (stored : dev.storeByte c = some dev') : dev.encodeByte c ev = some (dev'.finishByte c ev) := by
  rw [encodeByte, if_neg low, stored]
  rfl

theorem finishByte_open (more : dev.qlen ≠ 0) (other : dev.type ≠ ST_SYSEX) :
    dev.finishByte c ev = (false, dev, ev) := by
  rw [finishByte, if_neg more, if_neg other]

def message (dev : SndMidiEvent) (ev : SndSeqEvent) : SndSeqEvent :=
  (statusEvent dev.type).encodeData dev.buf
    ({ ev with type := (statusEvent dev.type).event }.setLength SNDRV_SEQ_EVENT_LENGTH_FIXED)

def settle (dev : SndMidiEvent) : SndMidiEvent := if ST_SPECIAL ≤ dev.type then { dev with type := ST_INVALID } else dev

theorem finishByte_done (done : dev.qlen = 0) : dev.finishByte c ev = (true, dev.settle, dev.message ev) := by
  rw [finishByte, if_pos done]
  rfl

theorem take_set {pre buf : List Byte} (inside : pre.length < buf.length) (start : buf.take pre.length = pre) :
    (buf.set pre.length c).take (pre.length + 1) = pre ++ [c] := by
  rw [List.take_add_one, List.take_set_of_le (Nat.le_refl _), start]
  simp [inside]

/-- A message of type `type` whose bytes are at the front of the buffer. -/
structure Complete (dev : SndMidiEvent) (type : Nat) (bytes : List Byte) : Prop where
  size : 3 ≤ dev.bufsize
  length : dev.buf.length = dev.bufsize
  done : dev.qlen = 0
  type : dev.type = type
  front : dev.buf.take bytes.length = bytes

theorem collect (dev : SndMidiEvent) (pre : List Byte) {data : List Byte} (size : 3 ≤ dev.bufsize)
    (length : dev.buf.length = dev.bufsize) (other : dev.type ≠ ST_SYSEX) (read : dev.read = pre.length)
    (front : dev.buf.take pre.length = pre) (count : dev.qlen = data.length) (some_ : data ≠ [])
    (room : pre.length + data.length ≤ dev.bufsize) (low : ∀ c ∈ data, c < 0x80) :
    ∃ dev', Complete dev' dev.type (pre ++ data) ∧
      dev.encodeStream data ev = some ([dev'.message ev], dev'.settle, dev'.message ev) := by
  induction data generalizing dev pre with
  | nil => exact absurd rfl some_
  | cons c rest ih =>
    have plain := low c (List.mem_cons_self ..)
    obtain ⟨-, below, -⟩ := data_byte plain
    rw [List.length_cons] at count room
    have stored := storeByte_more plain (by omega) other (by omega)
    have first := encodeByte_of_store ev below stored
    have begun : (dev.appended c).buf.take (pre.length + 1) = pre ++ [c] := by
      rw [appended, read]
      exact take_set (by omega) front
    have longer : (dev.appended c).buf.length = dev.bufsize := by simpa [appended] using length
    have left : (dev.appended c).qlen = rest.length := by
      rw [appended]
      dsimp only
      omega
    cases rest with
    | nil =>
      refine ⟨dev.appended c, ⟨size, longer, left, rfl, by simpa using begun⟩, ?_⟩
      rw [finishByte_done left] at first
      rw [encodeStream_cons first]
      rfl
    | cons d rest =>
      rw [List.length_cons] at left room
      have same : (dev.appended c).type ≠ ST_SYSEX := other
      rw [finishByte_open (by omega) same] at first
      obtain ⟨dev', complete, stream⟩ := ih (dev.appended c) (pre ++ [c]) size longer other (by simp [appended, read])
        (by simpa using begun) left (by simp) (by simpa [appended, Nat.add_assoc, Nat.add_comm 1] using room)
        (fun e inside => low e (List.mem_cons_of_mem _ inside))
      rw [List.append_assoc] at complete
      refine ⟨dev', complete, ?_⟩
      rw [encodeStream_cons first, stream]
      rfl

variable (ev) in
theorem command_message {data : List Byte} (size : 3 ≤ dev.bufsize) (length : dev.buf.length = dev.bufsize)
    (closed : dev.type ≠ ST_SYSEX) (command : c &&& 0x80 ≠ 0) (below : ¬ MIDI_CMD_COMMON_CLOCK ≤ c)
    (other : newType c ≠ ST_SYSEX) (count : (statusEvent (newType c)).qlen = data.length)
    (low : ∀ c ∈ data, c < 0x80) :
    ∃ dev', Complete dev' (newType c) (c :: data) ∧
      dev.encodeStream (c :: data) ev = some ([dev'.message ev], dev'.settle, dev'.message ev) := by
  have bound := statusEvent_qlen (newType c)
  have first := encodeByte_of_store ev below (storeByte_command size command closed)
  set begun : SndMidiEvent :=
    { dev with
      buf := dev.buf.set 0 c
      type := newType c
      read := 1
      qlen := (statusEvent (newType c)).qlen } with begunIs
  have longer : begun.buf.length = begun.bufsize := by simpa [begunIs] using length
  have front : begun.buf.take 1 = [c] := by
    have start := take_set (c := c) (by simp; omega : ([] : List Byte).length < dev.buf.length) rfl
    simpa [begunIs] using start
  have left : begun.qlen = data.length := count
  by_cases none_ : data = []
  · subst none_
    refine ⟨begun, ⟨size, longer, left, rfl, front⟩, ?_⟩
    rw [finishByte_done left] at first
    rw [encodeStream_cons first]
    rfl
  · have positive := List.length_pos_iff.mpr none_
    have same : begun.type ≠ ST_SYSEX := other
    rw [finishByte_open (by omega) same] at first
    have room : [c].length + data.length ≤ begun.bufsize := by
      have same : begun.bufsize = dev.bufsize := rfl
      simp only [List.length_cons, List.length_nil]
      omega
    obtain ⟨dev', complete, stream⟩ := collect begun [c] size longer other rfl front left none_ room low
    refine ⟨dev', complete, ?_⟩
    rw [encodeStream_cons first, stream]
    rfl

variable (ev) in
theorem running_message {data : List Byte} (synced : Synced c dev) (channel : c < 0xf0) (some_ : data ≠ [])
    (count : (statusEvent dev.type).qlen = data.length) (low : ∀ c ∈ data, c < 0x80) :
    ∃ dev', Complete dev' dev.type (c :: data) ∧
      dev.encodeStream data ev = some ([dev'.message ev], dev'.settle, dev'.message ev) := by
  obtain ⟨size, length, other, running⟩ := synced
  obtain ⟨first, -, done⟩ := running channel
  have bound := statusEvent_qlen dev.type
  cases data with
  | nil => exact absurd rfl some_
  | cons a rest =>
    have plain := low a (List.mem_cons_self ..)
    obtain ⟨-, below, -⟩ := data_byte plain
    have byte := encodeByte_of_store ev below (storeByte_running size plain done)
    set begun : SndMidiEvent :=
      { dev with
        buf := dev.buf.set 1 a
        qlen := (statusEvent dev.type).qlen - 1
        read := 2 } with begunIs
    have longer : begun.buf.length = begun.bufsize := by simpa [begunIs] using length
    have status : dev.buf.take [c].length = [c] := by
      cases buf : dev.buf with
      | nil =>
        rw [buf] at length
        simp at length
        omega
      | cons b rest =>
        rw [buf] at first
        simpa [bufAt] using first
    have front : begun.buf.take 2 = [c, a] := by
      have start := take_set (c := a) (by simp; omega : [c].length < dev.buf.length) status
      simpa [begunIs] using start
    rw [List.length_cons] at count
    have left : begun.qlen = rest.length := by
      rw [begunIs]
      dsimp only
      omega
    by_cases none_ : rest = []
    · subst none_
      refine ⟨begun, ⟨size, longer, left, rfl, front⟩, ?_⟩
      rw [finishByte_done left] at byte
      rw [encodeStream_cons byte]
      rfl
    · have positive := List.length_pos_iff.mpr none_
      have same : begun.type ≠ ST_SYSEX := other
      rw [finishByte_open (by omega) same] at byte
      have room : [c, a].length + rest.length ≤ begun.bufsize := by
        have same : begun.bufsize = dev.bufsize := rfl
        simp only [List.length_cons, List.length_nil]
        omega
      obtain ⟨dev', complete, stream⟩ := collect begun [c, a] size longer other rfl front left none_ room
        (fun e inside => low e (List.mem_cons_of_mem _ inside))
      refine ⟨dev', complete, ?_⟩
      rw [encodeStream_cons byte, stream]
      rfl

end Steps

section Table

variable {ev : SndSeqEvent} {type : Nat}

def commandByte (type : Nat) (ev : SndSeqEvent) : Byte :=
  if ST_SPECIAL ≤ type then 0xf0 + BitVec.ofNat 8 (type - ST_SPECIAL)
  else 0x80 ||| (BitVec.ofNat 8 type <<< 4) ||| (ev.data.channel &&& 0x0f)

theorem decode_message (dev : SndMidiEvent) (some_ : ev.type ≠ SNDRV_SEQ_EVENT_NONE) (found : findType ev.type = some type)
    (other : commandByte type ev ≠ MIDI_CMD_COMMON_SYSEX) :
    dev.decode m ev =
      if commandByte type ev &&& 0xf0 = 0xf0 ∨ dev.lastcmd ≠ commandByte type ev ∨ dev.nostat then
        some (commandByte type ev :: (statusEvent type).decodeData ev, { dev with lastcmd := commandByte type ev })
      else some ((statusEvent type).decodeData ev, dev) := by
  rw [decode, if_neg some_, found]
  exact if_neg other

theorem voice_command {type : Nat} (voice : type < 7) (c : Byte) :
    newType (0x80 ||| (BitVec.ofNat 8 type <<< 4) ||| (c &&& 0x0f)) = type ∧
      (0x80 ||| (BitVec.ofNat 8 type <<< 4) ||| (c &&& 0x0f) : Byte) &&& 0x80 ≠ 0 ∧
      (0x80 ||| (BitVec.ofNat 8 type <<< 4) ||| (c &&& 0x0f) : Byte) < 0xf0 ∧
      (0x80 ||| (BitVec.ofNat 8 type <<< 4) ||| (c &&& 0x0f) : Byte) &&& 0x0f = c &&& 0x0f := by
  interval_cases type <;> revert c <;> decide

theorem voice_byte {c : Byte} (voice : c < 0xf0) :
    ¬ MIDI_CMD_COMMON_CLOCK ≤ c ∧ c ≠ MIDI_CMD_COMMON_SYSEX ∧ c &&& 0xf0 ≠ 0xf0 := by
  revert c
  decide

theorem newType_voice {c : Byte} (voice : c < 0xf0) : newType c = ((c >>> 4) &&& 0x07).toNat := by
  rw [newType, if_neg (voice_byte voice).2.2]

theorem common_command {type : Nat} (low : ST_SPECIAL < type) (high : type < 15) :
    newType (0xf0 + BitVec.ofNat 8 (type - ST_SPECIAL)) = type ∧
      (0xf0 + BitVec.ofNat 8 (type - ST_SPECIAL) : Byte) &&& 0x80 ≠ 0 ∧
      (0xf0 + BitVec.ofNat 8 (type - ST_SPECIAL) : Byte) &&& 0xf0 = 0xf0 ∧
      ¬ MIDI_CMD_COMMON_CLOCK ≤ (0xf0 + BitVec.ofNat 8 (type - ST_SPECIAL) : Byte) ∧
      (0xf0 + BitVec.ofNat 8 (type - ST_SPECIAL) : Byte) ≠ MIDI_CMD_COMMON_SYSEX ∧
      ¬ (0xf0 + BitVec.ofNat 8 (type - ST_SPECIAL) : Byte) < 0xf0 := by
  have special : ST_SPECIAL = 8 := rfl
  rw [special] at low ⊢
  interval_cases type <;> decide

theorem bufAt_front (bytes : List Byte) {buf : List Byte} (front : buf.take bytes.length = bytes) {i : Nat} (inside : i < bytes.length) :
    bufAt buf i = bufAt bytes i := by
  have same : (buf.take bytes.length).getD i 0 = buf.getD i 0 := by
    rw [List.getD_eq_getElem?_getD, List.getD_eq_getElem?_getD, List.getElem?_take_of_lt inside]
  rw [bufAt, ← same, front, bufAt]

structure Coded (m : SeqMemory) (ev : SndSeqEvent) (type : Nat) : Prop where
  some_ : ev.type ≠ SNDRV_SEQ_EVENT_NONE
  found : findType ev.type = some type
  known : type < 7 ∨ ST_SPECIAL < type ∧ type < 15
  count : (statusEvent type).qlen = ((statusEvent type).decodeData ev).length
  voiced : type < 7 → (statusEvent type).decodeData ev ≠ []
  low : ∀ c ∈ (statusEvent type).decodeData ev, c < 0x80
  fields : ∀ (buf : List Byte) (out : SndSeqEvent), buf.take ((statusEvent type).decodeData ev).length.succ =
      commandByte type ev :: (statusEvent type).decodeData ev →
    midiFields m ((statusEvent type).encodeData buf
      ({ out with type := (statusEvent type).event }.setLength SNDRV_SEQ_EVENT_LENGTH_FIXED)) = midiFields m ev

theorem setLength_flags (out : SndSeqEvent) {length : Byte}
    (inside : length &&& SNDRV_SEQ_EVENT_LENGTH_MASK = length) :
    (out.setLength length).flags &&& SNDRV_SEQ_EVENT_LENGTH_MASK = length := by
  have masks : ∀ flags : Byte, (flags &&& ~~~SNDRV_SEQ_EVENT_LENGTH_MASK) &&& SNDRV_SEQ_EVENT_LENGTH_MASK = 0 := by decide
  show ((out.flags &&& ~~~SNDRV_SEQ_EVENT_LENGTH_MASK) ||| length) &&& SNDRV_SEQ_EVENT_LENGTH_MASK = length
  rw [BitVec.and_or_distrib_right, masks, inside]
  simp

theorem and15_eq {c : Byte} (low : c < 16) : c &&& 0x0f = c := by
  revert c
  decide

theorem bufAt_voice {buf data : List Byte} (voice : type < 7) (channel : ev.data.channel < 16)
    (front : buf.take data.length.succ = commandByte type ev :: data) : bufAt buf 0 &&& 0x0f = ev.data.channel := by
  have special : ¬ ST_SPECIAL ≤ type := by
    rw [ST_SPECIAL]
    omega
  rw [bufAt_front (commandByte type ev :: data) front (i := 0) (Nat.succ_pos _)]
  show commandByte type ev &&& 0x0f = ev.data.channel
  rw [commandByte, if_neg special, (voice_command voice ev.data.channel).2.2.2, and15_eq channel]

theorem bufAt_data {buf data : List Byte} (front : buf.take data.length.succ = commandByte type ev :: data) {i : Nat}
    (inside : i < data.length) : bufAt buf (i + 1) = bufAt data i :=
  bufAt_front (commandByte type ev :: data) front (Nat.succ_lt_succ inside)

theorem Coded.of_entry {data : List Byte} (event : (statusEvent type).event = ev.type) (some_ : ev.type ≠ SNDRV_SEQ_EVENT_NONE)
    (found : findType ev.type = some type) (known : type < 7 ∨ ST_SPECIAL < type ∧ type < 15)
    (bytes : (statusEvent type).decodeData ev = data) (count : (statusEvent type).qlen = data.length)
    (voiced : type < 7 → data ≠ []) (low : ∀ c ∈ data, c < 0x80)
    (fields : ∀ (buf : List Byte) (out : SndSeqEvent), buf.take data.length.succ = commandByte type ev :: data →
      out.type = ev.type → out.flags &&& SNDRV_SEQ_EVENT_LENGTH_MASK = SNDRV_SEQ_EVENT_LENGTH_FIXED →
      midiFields m ((statusEvent type).encodeData buf out) = midiFields m ev) : Coded m ev type := by
  subst bytes
  refine ⟨some_, found, known, count, voiced, low, ?_⟩
  intro buf out front
  exact fields buf _ front event (setLength_flags _ rfl)

theorem coded_note (types : ev.type ∈ noteTypes)
    (fixed : ev.flags &&& SNDRV_SEQ_EVENT_LENGTH_MASK = SNDRV_SEQ_EVENT_LENGTH_FIXED)
    (channel : ev.data.channel < 16) (note : ev.data.note < 128) (velocity : ev.data.velocity < 128) :
    ∃ type, Coded m ev type := by
  have entry : ∃ type, type < 3 ∧ (statusEvent type).event = ev.type ∧ findType ev.type = some type := by
    simp only [noteTypes, List.mem_cons, List.not_mem_nil, or_false] at types
    rcases types with type | type | type
    · exact ⟨0, by decide, type.symm, type ▸ rfl⟩
    · exact ⟨1, by decide, type.symm, type ▸ rfl⟩
    · exact ⟨2, by decide, type.symm, type ▸ rfl⟩
  obtain ⟨type, few, event, found⟩ := entry
  have data : (statusEvent type).decodeData ev = [ev.data.note, ev.data.velocity] := by
    have same : noteDecode ev = [ev.data.note, ev.data.velocity] := by
      rw [noteDecode, and7_eq note, and7_eq velocity]
    rw [← same]
    interval_cases type <;> rfl
  have encode : ∀ buf out, (statusEvent type).encodeData buf out = noteEvent buf out := by
    interval_cases type <;> exact fun _ _ => rfl
  have count : (statusEvent type).qlen = 2 := by
    interval_cases type <;> rfl
  refine ⟨type, .of_entry event ?_ found (Or.inl (by omega)) data count (fun _ => List.cons_ne_nil _ _)
    (List.forall_mem_cons.mpr ⟨note, List.forall_mem_singleton.mpr velocity⟩) ?_⟩
  · intro none_
    rw [none_] at types
    exact absurd types (by decide)
  · intro buf out front same flags
    have first := bufAt_voice (by omega) channel front
    have second : bufAt buf 1 = ev.data.note := bufAt_data front (Nat.succ_pos 1)
    have third : bufAt buf 2 = ev.data.velocity := bufAt_data front (Nat.lt_succ_self 1)
    rw [encode]
    simp only [midiFields, noteEvent, setChannel, same, if_pos types, flags, fixed, first, second, third]

theorem low7_value {x : Int} (low : 0 ≤ x) (high : x < 128) : ((low7 x).toNat : Int) = x := by
  rw [low7_toNat]
  omega

theorem low7_pair {x : Int} (low : 0 ≤ x) (high : x < 16384) :
    ((low7 (x / 128)).toNat * 128 + (low7 x).toNat : Int) = x := by
  rw [low7_toNat, low7_toNat]
  omega

theorem coded_controller (type : ev.type = SNDRV_SEQ_EVENT_CONTROLLER)
    (fixed : ev.flags &&& SNDRV_SEQ_EVENT_LENGTH_MASK = SNDRV_SEQ_EVENT_LENGTH_FIXED)
    (channel : ev.data.channel < 16) (param : ev.data.param < 128) (low : 0 ≤ ev.data.value)
    (high : ev.data.value < 128) : Coded m ev 3 := by
  refine .of_entry type.symm (by rw [type]; decide) (by rw [type]; decide) (Or.inl (by decide))
    (rfl : _ = twoParamDecode ev) rfl (fun _ => List.cons_ne_nil _ _)
    (List.forall_mem_cons.mpr ⟨low7_lt _, List.forall_mem_singleton.mpr (low7_lt _)⟩) ?_
  intro buf out front same flags
  have first := bufAt_voice (by decide) channel front
  have second : bufAt buf 1 = low7 ev.data.param := bufAt_data front (Nat.succ_pos 1)
  have third : bufAt buf 2 = low7 ev.data.value := bufAt_data front (Nat.lt_succ_self 1)
  have number : (low7 ev.data.param).toNat = ev.data.param := by
    have value := low7_value (x := ev.data.param) (by omega) (by omega)
    omega
  show midiFields m (twoParamCtrlEvent buf out) = midiFields m ev
  simp only [midiFields, twoParamCtrlEvent, setChannel, same, type, flags, fixed, first, second, third, number,
    low7_value low high]
  rfl

theorem coded_program (types : ev.type ∈ [SNDRV_SEQ_EVENT_PGMCHANGE, SNDRV_SEQ_EVENT_CHANPRESS])
    (fixed : ev.flags &&& SNDRV_SEQ_EVENT_LENGTH_MASK = SNDRV_SEQ_EVENT_LENGTH_FIXED)
    (channel : ev.data.channel < 16) (low : 0 ≤ ev.data.value) (high : ev.data.value < 128) :
    ∃ type, Coded m ev type := by
  have oneParam {type : Nat} (voice : type < 7) (event : (statusEvent type).event = ev.type)
      (some_ : ev.type ≠ SNDRV_SEQ_EVENT_NONE) (found : findType ev.type = some type)
      (bytes : (statusEvent type).decodeData ev = oneParamDecode ev) (count : (statusEvent type).qlen = 1)
      (encode : ∀ buf out, (statusEvent type).encodeData buf out = oneParamCtrlEvent buf out) : Coded m ev type := by
    refine .of_entry event some_ found (Or.inl voice) bytes count (fun _ => List.cons_ne_nil _ _)
      (List.forall_mem_singleton.mpr (low7_lt _)) ?_
    intro buf out front same flags
    have first := bufAt_voice voice channel front
    have second : bufAt buf 1 = low7 ev.data.value := bufAt_data front Nat.one_pos
    rw [encode]
    simp only [List.mem_cons, List.not_mem_nil, or_false] at types
    rcases types with type | type <;>
      simp only [midiFields, oneParamCtrlEvent, setValue, setChannel, same, type, flags, fixed, first, second,
        low7_value low high] <;> rfl
  simp only [List.mem_cons, List.not_mem_nil, or_false] at types
  rcases types with type | type
  · exact ⟨4, oneParam (by decide) type.symm (by rw [type]; decide) (by rw [type]; decide) rfl rfl (fun _ _ => rfl)⟩
  · exact ⟨5, oneParam (by decide) type.symm (by rw [type]; decide) (by rw [type]; decide) rfl rfl (fun _ _ => rfl)⟩

theorem coded_pitchbend (type : ev.type = SNDRV_SEQ_EVENT_PITCHBEND)
    (fixed : ev.flags &&& SNDRV_SEQ_EVENT_LENGTH_MASK = SNDRV_SEQ_EVENT_LENGTH_FIXED)
    (channel : ev.data.channel < 16) (low : -8192 ≤ ev.data.value) (high : ev.data.value < 8192) : Coded m ev 6 := by
  refine .of_entry type.symm (by rw [type]; decide) (by rw [type]; decide) (Or.inl (by decide))
    (rfl : _ = pitchbendDecode ev) rfl (fun _ => List.cons_ne_nil _ _)
    (List.forall_mem_cons.mpr ⟨low7_lt _, List.forall_mem_singleton.mpr (low7_lt _)⟩) ?_
  intro buf out front same flags
  have first := bufAt_voice (by decide) channel front
  have second : bufAt buf 1 = low7 (ev.data.value + 8192) := bufAt_data front (Nat.succ_pos 1)
  have third : bufAt buf 2 = low7 ((ev.data.value + 8192) / 128) := bufAt_data front (Nat.lt_succ_self 1)
  have value : ((low7 ((ev.data.value + 8192) / 128)).toNat * 128 + (low7 (ev.data.value + 8192)).toNat - 8192 : Int) =
      ev.data.value := by
    rw [low7_pair (by omega) (by omega)]
    omega
  show midiFields m (pitchbendCtrlEvent buf out) = midiFields m ev
  simp only [midiFields, pitchbendCtrlEvent, setValue, setChannel, same, type, flags, fixed, first, second, third, value]
  rfl

theorem coded_common (types : ev.type ∈ [SNDRV_SEQ_EVENT_QFRAME, SNDRV_SEQ_EVENT_SONGSEL])
    (fixed : ev.flags &&& SNDRV_SEQ_EVENT_LENGTH_MASK = SNDRV_SEQ_EVENT_LENGTH_FIXED)
    (low : 0 ≤ ev.data.value) (high : ev.data.value < 128) : ∃ type, Coded m ev type := by
  have oneParam {type : Nat} (common : ST_SPECIAL < type ∧ type < 15) (event : (statusEvent type).event = ev.type)
      (some_ : ev.type ≠ SNDRV_SEQ_EVENT_NONE) (found : findType ev.type = some type)
      (bytes : (statusEvent type).decodeData ev = oneParamDecode ev) (count : (statusEvent type).qlen = 1)
      (encode : ∀ buf out, (statusEvent type).encodeData buf out = oneParamEvent buf out) : Coded m ev type := by
    refine .of_entry event some_ found (Or.inr common) bytes count (fun _ => List.cons_ne_nil _ _)
      (List.forall_mem_singleton.mpr (low7_lt _)) ?_
    intro buf out front same flags
    have second : bufAt buf 1 = low7 ev.data.value := bufAt_data front Nat.one_pos
    rw [encode]
    simp only [List.mem_cons, List.not_mem_nil, or_false] at types
    rcases types with type | type <;>
      simp only [midiFields, oneParamEvent, setValue, same, type, flags, fixed, second, low7_value low high] <;> rfl
  simp only [List.mem_cons, List.not_mem_nil, or_false] at types
  rcases types with type | type
  · exact ⟨9, oneParam (by decide) type.symm (by rw [type]; decide) (by rw [type]; decide) rfl rfl (fun _ _ => rfl)⟩
  · exact ⟨11, oneParam (by decide) type.symm (by rw [type]; decide) (by rw [type]; decide) rfl rfl (fun _ _ => rfl)⟩

theorem coded_songpos (type : ev.type = SNDRV_SEQ_EVENT_SONGPOS)
    (fixed : ev.flags &&& SNDRV_SEQ_EVENT_LENGTH_MASK = SNDRV_SEQ_EVENT_LENGTH_FIXED)
    (low : 0 ≤ ev.data.value) (high : ev.data.value < 16384) : Coded m ev 10 := by
  refine .of_entry type.symm (by rw [type]; decide) (by rw [type]; decide) (Or.inr (by decide))
    (rfl : _ = songposDecode ev) rfl (fun _ => List.cons_ne_nil _ _)
    (List.forall_mem_cons.mpr ⟨low7_lt _, List.forall_mem_singleton.mpr (low7_lt _)⟩) ?_
  intro buf out front same flags
  have second : bufAt buf 1 = low7 ev.data.value := bufAt_data front (Nat.succ_pos 1)
  have third : bufAt buf 2 = low7 (ev.data.value / 128) := bufAt_data front (Nat.lt_succ_self 1)
  show midiFields m (songposEvent buf out) = midiFields m ev
  simp only [midiFields, songposEvent, setValue, same, type, flags, fixed, second, third, low7_pair low high]
  rfl

theorem coded_tuneRequest (type : ev.type = SNDRV_SEQ_EVENT_TUNE_REQUEST)
    (fixed : ev.flags &&& SNDRV_SEQ_EVENT_LENGTH_MASK = SNDRV_SEQ_EVENT_LENGTH_FIXED) : Coded m ev 14 := by
  refine .of_entry type.symm (by rw [type]; decide) (by rw [type]; decide) (Or.inr (by decide)) (rfl : _ = []) rfl
    (fun voice => absurd voice (by decide)) (fun _ inside => absurd inside List.not_mem_nil) ?_
  intro buf out _ same flags
  show midiFields m out = midiFields m ev
  simp only [midiFields, same, type, flags, fixed]
  rfl

end Table

end SndMidiEvent

end AlsaDriver.Seq
