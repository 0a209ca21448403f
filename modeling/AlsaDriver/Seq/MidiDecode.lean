import AlsaDriver.Lib.Words
import AlsaDriver.Seq.MidiEvent
import AlsaDriver.Seq.ExternalData
import AlsaDriver.Seq.Ports

namespace AlsaDriver.Seq

open Words

def MIDI_CMD_CONTROL : Byte := 0xb0

/-- `snd_seq_expand_var_event` into a kernel buffer; `readable` tells whether `copy_from_user` succeeds. -/
def SeqMemory.sndSeqExpandVarEvent (m : SeqMemory) (readable : Bool) (count : Int) (ev : SndSeqEvent) :
    Except Int (List Byte) :=
  if ¬ ev.isVariable then .error (-EINVAL)
  else if count < ev.data.ext.len then .error (-EAGAIN)
  else
    match ev.data.ext with
    | .user _ _ => if readable then .ok (m.expandVarEvent ev.data.ext) else .error (-EFAULT)
    | _ => .ok (m.expandVarEvent ev.data.ext)

def statusByte (type : Nat) (ev : SndSeqEvent) : Byte :=
  if ST_SPECIAL ≤ type then 0xf0 + BitVec.ofNat 8 (type - ST_SPECIAL)
  else 0x80 ||| (BitVec.ofNat 8 type <<< 4) ||| (ev.data.channel &&& 0x0f)

def controlByte (ev : SndSeqEvent) : Byte := MIDI_CMD_CONTROL ||| (ev.data.channel &&& 0x0f)

def cbytesNrpn : List Byte := [0x63, 0x62, 0x06, 0x26]

def cbytesRpn : List Byte := [0x65, 0x64, 0x06, 0x26]

theorem SeqMemory.expandVarEventInto_kernel (m : SeqMemory) (source target : Nat → Bool) (ev : SndSeqEvent) (count : Int) :
    (∀ err, m.sndSeqExpandVarEvent (!source ev.data.ext.len) count ev = .error err →
      m.sndSeqExpandVarEventInto source target ev count true 0 = (err, [])) ∧
    ∀ bytes, m.sndSeqExpandVarEvent (!source ev.data.ext.len) count ev = .ok bytes →
      m.sndSeqExpandVarEventInto source target ev count true 0 = (ev.getVarLen, bytes) := by
  by_cases variable_ : ev.isVariable = true
  · have length := getVarLen_variable variable_
    have aligned : alignedLen ev.getVarLen 0 = ev.data.ext.len := length
    have nonneg : ¬ ev.getVarLen < 0 := by omega
    have into : m.sndSeqExpandVarEventInto source target ev count true 0 =
        m.sndSeqExpandVarEventInto source (fun _ => false) ev count true 0 := rfl
    rw [sndSeqExpandVarEvent, if_neg (not_not.mpr variable_)]
    by_cases short : count < ev.data.ext.len
    · rw [if_pos short, sndSeqExpandVarEventInto]
      dsimp only
      rw [if_neg nonneg, aligned, if_pos short]
      exact ⟨fun err failed => by cases failed; rfl, fun bytes done => by cases done⟩
    rw [if_neg short]
    have kept (inside : ev.data.ext.isUser = false) :
        m.sndSeqExpandVarEventInto source target ev count true 0 = (ev.getVarLen, m.expandVarEvent ev.data.ext) := by
      rw [into, expandInto_enough variable_ inside source true (by rw [aligned]; exact not_lt.mp short), aligned, length]
    cases ext : ev.data.ext with
    | user len buf =>
      have expanded : m.sndSeqExpandVarEventInto source target ev count true 0 =
          if source len = true then (-EFAULT, []) else (ev.getVarLen, buf.take len) := by
        rw [sndSeqExpandVarEventInto]
        dsimp only
        rw [if_neg nonneg, aligned, if_neg short, length, ext]
        rfl
      rw [expanded]
      by_cases fault : source len = true
      · simp [fault, SndSeqExt.len]
      · simp [fault, SndSeqExt.len, SeqMemory.expandVarEvent]
    | kernel len buf =>
      rw [ext] at kept
      exact ⟨fun err failed => (by cases failed), fun bytes done => by cases done; exact kept rfl⟩
    | chained len ptr =>
      rw [ext] at kept
      exact ⟨fun err failed => (by cases failed), fun bytes done => by cases done; exact kept rfl⟩
  · have fixed : ev.getVarLen = -EINVAL := if_neg variable_
    rw [sndSeqExpandVarEvent, if_pos variable_, sndSeqExpandVarEventInto, fixed]
    exact ⟨fun err failed => by cases failed; rfl, fun bytes done => by cases done⟩

namespace SndMidiEvent

variable (dev : SndMidiEvent) (count : Int) (ev : SndSeqEvent)

/-- The events of `status_event`, other than SysEx. -/
def decodeStatus (type : Nat) : Except Int (List Byte) × SndMidiEvent :=
  let cmd := statusByte type ev
  let data := (statusEvent type).decodeData ev
  if cmd &&& 0xf0 = 0xf0 ∨ dev.lastcmd ≠ cmd ∨ dev.nostat then
    let dev := { dev with lastcmd := cmd }
    if count < (statusEvent type).qlen + 1 then (.error (-ENOMEM), dev) else (.ok (cmd :: data), dev)
  else if count < (statusEvent type).qlen then (.error (-ENOMEM), dev)
  else (.ok data, dev)

def extraDecodeCtrl14 : Except Int (List Byte) × SndMidiEvent :=
  let cmd := controlByte ev
  if ev.data.param < 0x20 then
    let high := [BitVec.ofNat 8 ev.data.param, low7 (ev.data.value / 128)]
    let low := [BitVec.ofNat 8 (ev.data.param + 0x20), low7 ev.data.value]
    let rest := high ++ (if dev.nostat then [cmd] else []) ++ low
    if count < 4 then (.error (-ENOMEM), dev)
    else if dev.nostat ∧ count < 6 then (.error (-ENOMEM), dev)
    else if cmd ≠ dev.lastcmd ∨ dev.nostat then
      if count < 5 then (.error (-ENOMEM), dev) else (.ok (cmd :: rest), { dev with lastcmd := cmd })
    else (.ok rest, dev)
  else
    let data := [low7 ev.data.param, low7 ev.data.value]
    if count < 2 then (.error (-ENOMEM), dev)
    else if cmd ≠ dev.lastcmd ∨ dev.nostat then
      if count < 3 then (.error (-ENOMEM), dev) else (.ok (cmd :: data), { dev with lastcmd := cmd })
    else (.ok data, dev)

def extraDecodeXrpn : Except Int (List Byte) × SndMidiEvent :=
  let cmd := controlByte ev
  let bytes := [low7 (ev.data.param / 128), low7 ev.data.param, low7 (ev.data.value / 128), low7 ev.data.value]
  let cbytes := if ev.type = SNDRV_SEQ_EVENT_NONREGPARAM then cbytesNrpn else cbytesRpn
  if count < 8 then (.error (-ENOMEM), dev)
  else if dev.nostat ∧ count < 12 then (.error (-ENOMEM), dev)
  else if cmd ≠ dev.lastcmd ∧ ¬ dev.nostat then
    if count < 9 then (.error (-ENOMEM), dev)
    else (.ok (cmd :: (cbytes.zip bytes).flatMap fun pair => [pair.1, pair.2]), { dev with lastcmd := cmd })
  else if dev.nostat then
    (.ok ((cbytes.zip bytes).flatMap fun pair => [cmd, pair.1, pair.2]), { dev with lastcmd := cmd })
  else (.ok ((cbytes.zip bytes).flatMap fun pair => [pair.1, pair.2]), dev)

/-- The table `extra_event`, whose decoders take the size as an `int`. -/
def extraDecode : Option (Except Int (List Byte) × SndMidiEvent) :=
  if ev.type = SNDRV_SEQ_EVENT_CONTROL14 then some (dev.extraDecodeCtrl14 (toSigned 32 count) ev)
  else if ev.type = SNDRV_SEQ_EVENT_NONREGPARAM ∨ ev.type = SNDRV_SEQ_EVENT_REGPARAM then
    some (dev.extraDecodeXrpn (toSigned 32 count) ev)
  else none

/-- `snd_midi_event_decode`, with the bytes that it writes in place of their number. -/
def sndMidiEventDecode (m : SeqMemory) (readable : Bool) : Except Int (List Byte) × SndMidiEvent :=
  if ev.type = SNDRV_SEQ_EVENT_NONE then (.error (-ENOENT), dev)
  else
    match findType ev.type with
    | some type =>
      if statusByte type ev = MIDI_CMD_COMMON_SYSEX then
        (m.sndSeqExpandVarEvent readable (toSigned 32 count) ev, dev.resetDecode)
      else dev.decodeStatus count ev type
    | none => (dev.extraDecode count ev).getD (.error (-ENOENT), dev)

end SndMidiEvent

def FailureKeeps (m : SeqMemory) (readable : Bool) (dev : SndMidiEvent) (count : Int) (ev : SndSeqEvent) : Prop :=
  ∀ err dev', dev.sndMidiEventDecode count ev m readable = (.error err, dev') →
    dev'.lastcmd = dev.lastcmd ∧ ∀ readable' count', (dev'.sndMidiEventDecode count' ev m readable').1 =
      (dev.sndMidiEventDecode count' ev m readable').1

def statusLeft (type : Nat) (ev : SndSeqEvent) : Byte :=
  if statusByte type ev = MIDI_CMD_COMMON_SYSEX then 0xff else statusByte type ev

def MessageFits (readable : Bool) (count : Int) (ev : SndSeqEvent) (type : Nat) : Prop :=
  if statusByte type ev = MIDI_CMD_COMMON_SYSEX then
    ev.isVariable = true ∧ (ev.data.ext.len : Int) ≤ toSigned 32 count ∧
      ∀ len buf, ev.data.ext = .user len buf → readable = true
  else (statusEvent type).qlen + 1 ≤ count

def DecodeKept (readable : Bool) (dev : SndMidiEvent) (count : Int) (ev : SndSeqEvent) : Prop :=
  ∀ type, ev.type ≠ SNDRV_SEQ_EVENT_NONE → SndMidiEvent.findType ev.type = some type →
    dev.lastcmd = statusLeft type ev ∨ MessageFits readable count ev type

namespace SndMidiEvent

variable {dev : SndMidiEvent} {count : Int} {ev : SndSeqEvent} {m : SeqMemory} {readable : Bool}

theorem extraDecodeCtrl14_keeps {err : Int} {dev' : SndMidiEvent}
    (failed : dev.extraDecodeCtrl14 count ev = (.error err, dev')) : dev' = dev := by
  unfold extraDecodeCtrl14 at failed
  dsimp only at failed
  split_ifs at failed <;> first | exact (Prod.mk.inj failed).2.symm | cases failed

theorem extraDecodeXrpn_keeps {err : Int} {dev' : SndMidiEvent}
    (failed : dev.extraDecodeXrpn count ev = (.error err, dev')) : dev' = dev := by
  unfold extraDecodeXrpn at failed
  dsimp only at failed
  split_ifs at failed <;> first | exact (Prod.mk.inj failed).2.symm | cases failed

theorem extraDecode_keeps {err : Int} {dev' : SndMidiEvent}
    (failed : (dev.extraDecode count ev).getD (.error (-ENOENT), dev) = (.error err, dev')) : dev' = dev := by
  unfold extraDecode at failed
  split_ifs at failed
  · exact extraDecodeCtrl14_keeps failed
  · exact extraDecodeXrpn_keeps failed
  · exact (Prod.mk.inj failed).2.symm

theorem sndSeqExpandVarEvent_fails_iff : (∃ err, m.sndSeqExpandVarEvent readable count ev = .error err) ↔
    ¬ (ev.isVariable = true ∧ (ev.data.ext.len : Int) ≤ count ∧ ∀ len buf, ev.data.ext = .user len buf → readable = true) := by
  unfold SeqMemory.sndSeqExpandVarEvent
  split
  · rename_i fixed
    exact ⟨fun _ whole => fixed whole.1, fun _ => ⟨_, rfl⟩⟩
  rename_i variable_
  split
  · rename_i short
    exact ⟨fun _ whole => absurd whole.2.1 (not_le.mpr short), fun _ => ⟨_, rfl⟩⟩
  rename_i long
  rw [not_not] at variable_
  rw [not_lt] at long
  cases ext : ev.data.ext with
  | user len buf =>
    rw [ext] at long
    cases readable with
    | true => exact iff_of_false (by rintro ⟨_, wrong⟩; cases wrong) (not_not.mpr ⟨variable_, long, fun _ _ _ => rfl⟩)
    | false => exact ⟨fun _ whole => Bool.noConfusion (whole.2.2 len buf rfl), fun _ => ⟨_, rfl⟩⟩
  | kernel len buf =>
    rw [ext] at long
    exact iff_of_false (by rintro ⟨_, wrong⟩; cases wrong)
      (not_not.mpr ⟨variable_, long, fun _ _ wrong => SndSeqExt.noConfusion wrong⟩)
  | chained len ptr =>
    rw [ext] at long
    exact iff_of_false (by rintro ⟨_, wrong⟩; cases wrong)
      (not_not.mpr ⟨variable_, long, fun _ _ wrong => SndSeqExt.noConfusion wrong⟩)

theorem decode_status_left (dev : SndMidiEvent) (count : Int) (m : SeqMemory) (readable : Bool) {type : Nat}
    (event : ev.type ≠ SNDRV_SEQ_EVENT_NONE) (entry : findType ev.type = some type) :
    (dev.sndMidiEventDecode count ev m readable).2 = { dev with lastcmd := statusLeft type ev } := by
  rw [sndMidiEventDecode, if_neg event, entry]
  dsimp only
  unfold statusLeft
  split
  · rfl
  · unfold decodeStatus
    dsimp only
    split
    · split <;> rfl
    · rename_i running
      rw [not_or, not_or, not_not] at running
      rw [← running.2.1]
      split <;> rfl

theorem decode_status_fails_iff {type : Nat} (event : ev.type ≠ SNDRV_SEQ_EVENT_NONE)
    (entry : findType ev.type = some type) (changes : dev.lastcmd ≠ statusLeft type ev) :
    (∃ err, (dev.sndMidiEventDecode count ev m readable).1 = .error err) ↔ ¬ MessageFits readable count ev type := by
  rw [sndMidiEventDecode, if_neg event, entry]
  dsimp only
  unfold statusLeft at changes
  unfold MessageFits
  split
  · exact sndSeqExpandVarEvent_fails_iff
  · rename_i status
    rw [if_neg status] at changes
    unfold decodeStatus
    dsimp only
    rw [if_pos (Or.inr (Or.inl changes))]
    split
    · rename_i short
      exact ⟨fun _ => not_le.mpr short, fun _ => ⟨_, rfl⟩⟩
    · rename_i long
      exact iff_of_false (by rintro ⟨_, wrong⟩; cases wrong) (not_not.mpr (not_lt.mp long))

theorem decode_extra_keeps {err : Int} {dev' : SndMidiEvent}
    (entry : ev.type ≠ SNDRV_SEQ_EVENT_NONE → findType ev.type = none)
    (failed : dev.sndMidiEventDecode count ev m readable = (.error err, dev')) : dev' = dev := by
  unfold sndMidiEventDecode at failed
  split at failed
  · exact (Prod.mk.inj failed).2.symm
  · rename_i event
    rw [entry event] at failed
    exact extraDecode_keeps failed

theorem failureKeeps_of_same
    (same : ∀ err dev', dev.sndMidiEventDecode count ev m readable = (.error err, dev') → dev' = dev) :
    FailureKeeps m readable dev count ev := by
  intro err dev' failed
  obtain rfl := same err dev' failed
  exact ⟨rfl, fun _ _ => rfl⟩

end SndMidiEvent

open SndMidiEvent

theorem decode_failure_keeps_iff (m : SeqMemory) (readable : Bool) (dev : SndMidiEvent) (count : Int)
    (ev : SndSeqEvent) : FailureKeeps m readable dev count ev ↔ DecodeKept readable dev count ev := by
  constructor
  · intro keeps type event entry
    by_cases same : dev.lastcmd = statusLeft type ev
    · exact Or.inl same
    · refine Or.inr (not_not.mp fun short => ?_)
      obtain ⟨err, failed⟩ := (decode_status_fails_iff (m := m) event entry same).mpr short
      have left := decode_status_left dev count m readable event entry
      have kept := (keeps err _ (Prod.ext failed left)).1
      exact same kept.symm
  · intro kept
    refine failureKeeps_of_same fun err dev' failed => ?_
    by_cases event : ev.type = SNDRV_SEQ_EVENT_NONE
    · exact decode_extra_keeps (fun other => absurd event other) failed
    · cases entry : findType ev.type with
      | none => exact decode_extra_keeps (fun _ => entry) failed
      | some type =>
        have left := decode_status_left dev count m readable event entry
        rw [failed] at left
        dsimp only at left
        by_cases changes : dev.lastcmd = statusLeft type ev
        · rw [left, ← changes]
        · have fits := (kept type event entry).resolve_left changes
          have short := (decode_status_fails_iff (m := m) event entry changes).mp ⟨err, by rw [failed]⟩
          exact absurd fits short

section Example

def freshDecoder : SndMidiEvent := SndMidiEvent.new 0 false fun _ => 0

def middleC : SndSeqEvent :=
  { blankEvent with
    type := SNDRV_SEQ_EVENT_NOTEON, data := { blankEvent.data with note := 60, velocity := 64 } }

theorem retry_loses_status : ¬ FailureKeeps emptyMemory true freshDecoder 2 middleC ∧
    (freshDecoder.sndMidiEventDecode 3 middleC emptyMemory true).1 = .ok [0x90, 60, 64] ∧
    ((freshDecoder.sndMidiEventDecode 2 middleC emptyMemory true).2.sndMidiEventDecode 3 middleC emptyMemory true).1 =
      .ok [60, 64] := by
  refine ⟨fun keeps => ?_, rfl, rfl⟩
  have kept := (keeps (-ENOMEM) { freshDecoder with lastcmd := 0x90 } rfl).1
  exact absurd kept (by decide)

end Example

end AlsaDriver.Seq
