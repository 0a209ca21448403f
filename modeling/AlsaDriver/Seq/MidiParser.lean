import Mathlib.Data.List.GetD
import Mathlib.Tactic.IntervalCases
import AlsaDriver.Seq.MidiEvent

namespace AlsaDriver.Seq

namespace SndMidiEvent

def encodeStream (dev : SndMidiEvent) : List Byte → SndSeqEvent →
    Option (List SndSeqEvent × SndMidiEvent × SndSeqEvent)
  | [], ev => some ([], dev, ev)
  | c :: rest, ev =>
    match dev.encodeByte c ev with
    | none => none
    | some (done, dev, ev) =>
      (encodeStream dev rest ev).map fun out => (if done then ev :: out.1 else out.1, out.2)

def encodeAll (dev : SndMidiEvent) : Nat → List Byte → SndSeqEvent →
    Option (List SndSeqEvent × SndMidiEvent × SndSeqEvent)
  | 0, _, ev => some ([], dev, ev)
  | fuel + 1, bytes, ev =>
    if bytes = [] then some ([], dev, ev)
    else
      match dev.encode bytes ev with
      | none => none
      | some (taken, dev, ev) =>
        (encodeAll dev fuel (bytes.drop taken) ev).map fun out =>
          (if ev.type ≠ SNDRV_SEQ_EVENT_NONE then ev :: out.1 else out.1, out.2)

def encodeCuts (dev : SndMidiEvent) : List (List Byte) → SndSeqEvent →
    Option (List SndSeqEvent × SndMidiEvent × SndSeqEvent)
  | [], ev => some ([], dev, ev)
  | piece :: rest, ev =>
    match dev.encodeAll piece.length piece ev with
    | none => none
    | some (events, dev, ev) => (encodeCuts dev rest ev).map fun out => (events ++ out.1, out.2)

inductive EncoderReachable : SndMidiEvent → Prop where
  | reset (dev : SndMidiEvent) (size : 3 ≤ dev.bufsize) (length : dev.buf.length = dev.bufsize) :
    EncoderReachable dev.resetEncode
  | byte {dev dev' : SndMidiEvent} {c : Byte} {ev ev' : SndSeqEvent} {done : Bool} (before : EncoderReachable dev)
    (step : dev.encodeByte c ev = some (done, dev', ev')) : EncoderReachable dev'

structure EncoderInv (dev : SndMidiEvent) : Prop where
  size : 3 ≤ dev.bufsize
  length : dev.buf.length = dev.bufsize
  known : dev.type < 16
  sysex : dev.type = ST_SYSEX → dev.qlen = 1 ∧ dev.read < dev.bufsize
  short : dev.type ≠ ST_SYSEX → dev.read ≤ 3
  three : dev.type ≠ ST_SYSEX → dev.read = 3 → dev.qlen = 0
  open_ : dev.type ≠ ST_SYSEX → 0 < dev.qlen → dev.read + dev.qlen ≤ 3 ∧ 0 < (statusEvent dev.type).qlen

theorem EncoderInv.read_le {dev : SndMidiEvent} (inv : EncoderInv dev) : dev.read ≤ dev.bufsize := by
  have size := inv.size
  by_cases sysex : dev.type = ST_SYSEX
  · exact Nat.le_of_lt (inv.sysex sysex).2
  · have short := inv.short sysex
    omega

theorem EncoderInv.read_full {dev : SndMidiEvent} (inv : EncoderInv dev) (full : dev.bufsize ≤ dev.read) :
    dev.bufsize = 3 ∧ dev.qlen = 0 := by
  have size := inv.size
  have other : dev.type ≠ ST_SYSEX := by
    intro sysex
    have room := (inv.sysex sysex).2
    omega
  have short := inv.short other
  exact ⟨by omega, inv.three other (by omega)⟩

theorem statusEvent_qlen (type : Nat) : (statusEvent type).qlen ≤ 2 := by
  by_cases known : type < 24
  · interval_cases type <;> decide
  · have default : statusEvent type = invalidEvent := by
      apply List.getD_eq_default
      exact Nat.le_of_not_lt known
    rw [default]
    decide

theorem statusEvent_sysex : (statusEvent ST_SYSEX).qlen = 1 := rfl

theorem setBuf_inside {dev : SndMidiEvent} {i : Nat} (inside : i < dev.bufsize) (c : Byte) :
    dev.setBuf i c = some { dev with buf := dev.buf.set i c } := if_pos inside

structure Stored (dev : SndMidiEvent) : Prop where
  size : 3 ≤ dev.bufsize
  length : dev.buf.length = dev.bufsize
  known : dev.type < 16
  sysex : dev.type = ST_SYSEX → dev.qlen = 1 ∧ dev.read ≤ dev.bufsize
  short : dev.type ≠ ST_SYSEX → dev.read ≤ 3
  three : dev.type ≠ ST_SYSEX → dev.read = 3 → dev.qlen = 0
  open_ : dev.type ≠ ST_SYSEX → 0 < dev.qlen → dev.read + dev.qlen ≤ 3
  defined : dev.type ≠ ST_SYSEX → 0 ≤ dev.qlen → 0 ≤ (statusEvent dev.type).qlen ∧
    (0 < dev.qlen → 0 < (statusEvent dev.type).qlen)

theorem newType_lt {c : Byte} (low : ¬ MIDI_CMD_COMMON_CLOCK ≤ c) :
    (if c &&& 0xf0 = 0xf0 then (c &&& 0x0f).toNat + ST_SPECIAL else ((c >>> 4) &&& 0x07).toNat) < 16 := by
  revert c
  decide

theorem EncoderInv.store {dev : SndMidiEvent} (inv : EncoderInv dev) {c : Byte} (low : ¬ MIDI_CMD_COMMON_CLOCK ≤ c) :
    ∃ dev', dev.storeByte c = some dev' ∧ Stored dev' := by
  have size := inv.size
  have length := inv.length
  unfold storeByte
  split
  · -- a new command
    rw [setBuf_inside (by omega)]
    refine ⟨_, rfl, ?_⟩
    have known := newType_lt low
    set type := if c &&& 0xf0 = 0xf0 then (c &&& 0x0f).toNat + ST_SPECIAL else ((c >>> 4) &&& 0x07).toNat
    have bound := statusEvent_qlen type
    refine ⟨size, by simpa using length, known, ?_, ?_, ?_, ?_, ?_⟩ <;> dsimp only
    · intro sysex
      exact ⟨by rw [sysex, statusEvent_sysex], by omega⟩
    · omega
    · omega
    · omega
    · exact fun _ positive => ⟨positive, id⟩
  · split
    · rename_i more
      by_cases sysex : dev.type = ST_SYSEX
      · have room := (inv.sysex sysex).2
        have one := (inv.sysex sysex).1
        rw [setBuf_inside (by omega)]
        refine ⟨_, rfl, ?_⟩
        refine ⟨size, by simpa using length, inv.known, ?_, ?_, ?_, ?_, ?_⟩ <;> simp [sysex, one]
        omega
      · obtain ⟨rest, defined⟩ := inv.open_ sysex more
        rw [setBuf_inside (by omega)]
        refine ⟨_, rfl, ?_⟩
        refine ⟨size, by simpa using length, inv.known, ?_, ?_, ?_, ?_, ?_⟩ <;> simp [sysex] <;> omega
    · rename_i done
      have other : dev.type ≠ ST_SYSEX := by
        intro sysex
        have one := (inv.sysex sysex).1
        omega
      have bound := statusEvent_qlen dev.type
      rw [setBuf_inside (by omega)]
      refine ⟨_, rfl, ?_⟩
      refine ⟨size, by simpa using length, inv.known, ?_, ?_, ?_, ?_, ?_⟩ <;> simp [other] <;> omega

theorem Stored.finish {dev : SndMidiEvent} (stored : Stored dev) (c : Byte) (ev : SndSeqEvent) :
    EncoderInv (dev.finishByte c ev).2.1 := by
  obtain ⟨size, length, known, sysex, short, three, open_, defined⟩ := stored
  unfold finishByte
  split
  · rename_i zero
    have other : dev.type ≠ ST_SYSEX := by
      intro same
      have one := (sysex same).1
      omega
    dsimp only
    split
    · refine ⟨size, length, ?_, ?_, ?_, ?_, ?_⟩ <;> simp [ST_SYSEX, ST_SPECIAL, ST_INVALID, zero, short other]
    · exact ⟨size, length, known, fun same => absurd same other, short, three, fun _ more => by omega⟩
  · split
    · rename_i same
      have one := (sysex same).1
      split
      · dsimp only
        split
        · refine ⟨size, length, known, ?_, ?_, ?_, ?_⟩ <;> simp [same, one]
          omega
        · refine ⟨size, length, ?_, ?_, ?_, ?_, ?_⟩ <;> simp [resetEncode, ST_SYSEX, ST_SPECIAL, ST_INVALID]
      · rename_i unfinished
        refine ⟨size, length, known, fun _ => ⟨one, ?_⟩, fun other => absurd same other, fun other => absurd same other,
          fun other => absurd same other⟩
        exact Nat.lt_of_not_le (not_or.mp unfinished).2
    · rename_i other
      refine ⟨size, length, known, fun same => absurd same other, short, three, fun _ more => ?_⟩
      change 0 < dev.qlen at more
      exact ⟨open_ other more, (defined other (by omega)).2 more⟩

theorem EncoderInv.encodeByte {dev : SndMidiEvent} (inv : EncoderInv dev) (c : Byte) (ev : SndSeqEvent) :
    ∃ out, dev.encodeByte c ev = some out ∧ EncoderInv out.2.1 := by
  unfold SndMidiEvent.encodeByte
  split
  · exact ⟨_, rfl, inv⟩
  · rename_i low
    obtain ⟨dev', stored, after⟩ := inv.store low
    rw [stored]
    exact ⟨_, rfl, after.finish c ev⟩

theorem EncoderReachable.inv {dev : SndMidiEvent} (reachable : EncoderReachable dev) : EncoderInv dev := by
  induction reachable with
  | reset dev size length =>
    refine ⟨size, length, ?_, ?_, ?_, ?_, ?_⟩ <;> simp [resetEncode, ST_SYSEX, ST_SPECIAL, ST_INVALID]
  | byte before step ih =>
    obtain ⟨out, same, inv⟩ := ih.encodeByte _ _
    rw [step] at same
    cases same
    exact inv

def erase (ev : SndSeqEvent) : SndSeqEvent := { ev with type := 0 }.setLength 0

theorem setLength_erase (ev : SndSeqEvent) (type : Nat) (length : Byte) :
    { erase ev with type := type }.setLength length = { ev with type := type }.setLength length := by
  simp [erase, SndSeqEvent.setLength, BitVec.and_assoc]

theorem setLength_congr {ev ev' : SndSeqEvent} (same : erase ev = erase ev') (type : Nat) (length : Byte) :
    { ev with type := type }.setLength length = { ev' with type := type }.setLength length := by
  rw [← setLength_erase ev, ← setLength_erase ev', same]

theorem erase_setLength (ev : SndSeqEvent) (type : Nat) (length : Byte)
    (mask : length &&& ~~~SNDRV_SEQ_EVENT_LENGTH_MASK = 0) :
    erase ({ ev with type := type }.setLength length) = erase ev := by
  have kept : (ev.flags &&& ~~~SNDRV_SEQ_EVENT_LENGTH_MASK ||| length) &&& ~~~SNDRV_SEQ_EVENT_LENGTH_MASK =
      ev.flags &&& ~~~SNDRV_SEQ_EVENT_LENGTH_MASK := by
    rw [BitVec.and_comm, BitVec.and_or_distrib_left, BitVec.and_comm _ length, mask,
      BitVec.and_comm _ (ev.flags &&& _), BitVec.and_assoc, BitVec.and_self]
    exact BitVec.or_zero
  simp [erase, SndSeqEvent.setLength, kept]

def realTimeEvents : List Nat :=
  [SNDRV_SEQ_EVENT_CLOCK, SNDRV_SEQ_EVENT_START, SNDRV_SEQ_EVENT_CONTINUE, SNDRV_SEQ_EVENT_STOP,
    SNDRV_SEQ_EVENT_SENSING, SNDRV_SEQ_EVENT_RESET]

def isRealTime (ev : SndSeqEvent) : Bool := decide (ev.type ∈ realTimeEvents)

theorem statusEvent_ordinary {type : Nat} (known : type < 16) (defined : 0 ≤ (statusEvent type).qlen) :
    (statusEvent type).event ∉ realTimeEvents ∧ (statusEvent type).event ≠ SNDRV_SEQ_EVENT_NONE := by
  revert defined
  interval_cases type <;> decide

theorem encodeData_type {type : Nat} (known : type < 16) (buf : List Byte) (ev : SndSeqEvent) :
    ((statusEvent type).encodeData buf ev).type = ev.type := by
  interval_cases type <;> rfl

theorem finishByte_congr (dev : SndMidiEvent) (c : Byte) {ev ev' : SndSeqEvent} (same : erase ev = erase ev') :
    (dev.finishByte c ev = (false, (dev.finishByte c ev).2.1, ev) ∧
        dev.finishByte c ev' = (false, (dev.finishByte c ev).2.1, ev')) ∨
      ((dev.finishByte c ev).1 = true ∧ dev.finishByte c ev = dev.finishByte c ev') := by
  have fixed := setLength_congr same (statusEvent dev.type).event SNDRV_SEQ_EVENT_LENGTH_FIXED
  have variable_ := setLength_congr same SNDRV_SEQ_EVENT_SYSEX SNDRV_SEQ_EVENT_LENGTH_VARIABLE
  unfold finishByte
  split
  · right
    refine ⟨rfl, ?_⟩
    dsimp only
    rw [fixed]
  · split
    · split
      · right
        refine ⟨rfl, ?_⟩
        have sysex (ev : SndSeqEvent) (ext : SndSeqExt) :
            { ev.setLength SNDRV_SEQ_EVENT_LENGTH_VARIABLE with
              type := SNDRV_SEQ_EVENT_SYSEX
              data := { (ev.setLength SNDRV_SEQ_EVENT_LENGTH_VARIABLE).data with ext := ext } } =
            let ev := { ev with type := SNDRV_SEQ_EVENT_SYSEX }.setLength SNDRV_SEQ_EVENT_LENGTH_VARIABLE
            { ev with data := { ev.data with ext := ext } } := rfl
        dsimp only
        rw [sysex, sysex ev', variable_]
      · exact Or.inl ⟨rfl, rfl⟩
    · exact Or.inl ⟨rfl, rfl⟩

theorem Stored.ordinary {dev : SndMidiEvent} (stored : Stored dev) {c : Byte} {ev : SndSeqEvent}
    (done : (dev.finishByte c ev).1 = true) :
    isRealTime (dev.finishByte c ev).2.2 = false ∧ (dev.finishByte c ev).2.2.type ≠ SNDRV_SEQ_EVENT_NONE := by
  unfold finishByte at done ⊢
  split
  · rename_i zero
    have known := stored.known
    have other : dev.type ≠ ST_SYSEX := by
      intro same
      have one := (stored.sysex same).1
      omega
    obtain ⟨ordinary, some_⟩ := statusEvent_ordinary known (stored.defined other (by omega)).1
    dsimp only
    rw [isRealTime, encodeData_type known]
    exact ⟨decide_eq_false ordinary, some_⟩
  · rename_i more
    rw [if_neg more] at done
    split
    · rename_i sysex
      rw [if_pos sysex] at done
      split
      · exact ⟨by simp [isRealTime, realTimeEvents, SNDRV_SEQ_EVENT_SYSEX, SNDRV_SEQ_EVENT_CLOCK, SNDRV_SEQ_EVENT_START,
            SNDRV_SEQ_EVENT_CONTINUE, SNDRV_SEQ_EVENT_STOP, SNDRV_SEQ_EVENT_SENSING, SNDRV_SEQ_EVENT_RESET],
          by simp [SNDRV_SEQ_EVENT_SYSEX, SNDRV_SEQ_EVENT_NONE]⟩
      · rename_i more
        rw [if_neg more] at done
        cases done
    · rename_i other
      rw [if_neg other] at done
      cases done

/-- The event of a real-time byte; the undefined ones have type `NONE`. -/
def realTimeEvent (c : Byte) (ev : SndSeqEvent) : SndSeqEvent :=
  { ev with type := (statusEvent (ST_SPECIAL + (c - 0xf0).toNat)).event }.setLength SNDRV_SEQ_EVENT_LENGTH_FIXED

def definedRealTime (c : Byte) : Bool := (statusEvent (ST_SPECIAL + (c - 0xf0).toNat)).event != SNDRV_SEQ_EVENT_NONE

theorem encodeByte_realTime (dev : SndMidiEvent) {c : Byte} (high : MIDI_CMD_COMMON_CLOCK ≤ c) (ev : SndSeqEvent) :
    dev.encodeByte c ev = some (definedRealTime c, dev, realTimeEvent c ev) := if_pos high

theorem isRealTime_realTimeEvent {c : Byte} (high : MIDI_CMD_COMMON_CLOCK ≤ c) (ev : SndSeqEvent) :
    isRealTime (realTimeEvent c ev) = definedRealTime c := by
  have table : ∀ c : Byte, MIDI_CMD_COMMON_CLOCK ≤ c →
      decide ((statusEvent (ST_SPECIAL + (c - 0xf0).toNat)).event ∈ realTimeEvents) = definedRealTime c := by decide
  exact table c high

theorem erase_realTimeEvent (c : Byte) (ev : SndSeqEvent) : erase (realTimeEvent c ev) = erase ev :=
  erase_setLength ev _ _ (by decide)

theorem EncoderInv.encodeByte_low {dev : SndMidiEvent} (inv : EncoderInv dev) {c : Byte}
    (low : ¬ MIDI_CMD_COMMON_CLOCK ≤ c) {ev ev' : SndSeqEvent} (same : erase ev = erase ev') :
    ∃ dev', EncoderInv dev' ∧
      (dev.encodeByte c ev = some (false, dev', ev) ∧ dev.encodeByte c ev' = some (false, dev', ev') ∨
        ∃ out, isRealTime out = false ∧ out.type ≠ SNDRV_SEQ_EVENT_NONE ∧
          dev.encodeByte c ev = some (true, dev', out) ∧ dev.encodeByte c ev' = some (true, dev', out)) := by
  obtain ⟨mid, stored, after⟩ := inv.store low
  have unfolded (ev : SndSeqEvent) : dev.encodeByte c ev = some (mid.finishByte c ev) := by
    rw [SndMidiEvent.encodeByte, if_neg low, stored]
    rfl
  refine ⟨_, after.finish c ev, ?_⟩
  rw [unfolded, unfolded]
  rcases finishByte_congr mid c same with ⟨first, second⟩ | ⟨done, equal⟩
  · left
    exact ⟨congrArg some first, congrArg some second⟩
  · right
    obtain ⟨ordinary, some_⟩ := after.ordinary done
    refine ⟨_, ordinary, some_, ?_, ?_⟩
    · rw [← done]
    · rw [← done, equal]

theorem encodeStream_cons {dev dev' : SndMidiEvent} {c : Byte} {rest : List Byte} {ev ev' : SndSeqEvent} {done : Bool}
    (first : dev.encodeByte c ev = some (done, dev', ev')) :
    dev.encodeStream (c :: rest) ev =
      (dev'.encodeStream rest ev').map fun out => (if done then ev' :: out.1 else out.1, out.2) := by
  rw [encodeStream, first]

theorem encodeStream_append (dev : SndMidiEvent) (before after : List Byte) (ev : SndSeqEvent) :
    dev.encodeStream (before ++ after) ev =
      (dev.encodeStream before ev).bind fun out =>
        (out.2.1.encodeStream after out.2.2).map fun later => (out.1 ++ later.1, later.2) := by
  induction before generalizing dev ev with
  | nil => simp [encodeStream]
  | cons c rest ih =>
    cases first : dev.encodeByte c ev with
    | none => simp [encodeStream, first]
    | some out =>
      obtain ⟨done, dev', ev'⟩ := out
      rw [List.cons_append, encodeStream_cons first, encodeStream_cons first, ih]
      cases dev'.encodeStream rest ev' with
      | none => rfl
      | some out =>
        cases done <;> simp [Function.comp_def]

theorem EncoderInv.encodeStream {dev : SndMidiEvent} (inv : EncoderInv dev) (bytes : List Byte) {ev ev' : SndSeqEvent}
    (same : erase ev = erase ev') :
    ∃ events dev' last last', dev.encodeStream bytes ev = some (events, dev', last) ∧
      dev.encodeStream bytes ev' = some (events, dev', last') ∧ erase last = erase last' ∧ EncoderInv dev' := by
  induction bytes generalizing dev ev ev' with
  | nil => exact ⟨[], dev, ev, ev', rfl, rfl, same, inv⟩
  | cons c rest ih =>
    by_cases high : MIDI_CMD_COMMON_CLOCK ≤ c
    · have equal : erase (realTimeEvent c ev) = erase (realTimeEvent c ev') := by
        rw [erase_realTimeEvent, erase_realTimeEvent, same]
      obtain ⟨events, dev', last, last', first, second, agree, after⟩ := ih inv equal
      have event : realTimeEvent c ev = realTimeEvent c ev' := setLength_congr same _ _
      rw [encodeStream_cons (encodeByte_realTime dev high ev), encodeStream_cons (encodeByte_realTime dev high ev'),
        first, second, event]
      exact ⟨_, dev', last, last', rfl, rfl, agree, after⟩
    · obtain ⟨dev', next, ⟨first, second⟩ | ⟨out, -, -, first, second⟩⟩ := inv.encodeByte_low high same
      · obtain ⟨events, dev'', last, last', later, later', agree, after⟩ := ih next same
        rw [encodeStream_cons first, encodeStream_cons second, later, later']
        exact ⟨_, dev'', last, last', rfl, rfl, agree, after⟩
      · obtain ⟨events, dev'', last, -, later, -, -, after⟩ := ih next (rfl : erase out = erase out)
        rw [encodeStream_cons first, encodeStream_cons second, later]
        exact ⟨_, dev'', last, last, rfl, rfl, rfl, after⟩

theorem EncoderInv.encodeStream_filter {dev : SndMidiEvent} (inv : EncoderInv dev) (bytes : List Byte)
    {ev ev' : SndSeqEvent} (same : erase ev = erase ev') :
    ∃ events dev' last last', dev.encodeStream bytes ev = some (events, dev', last) ∧
      dev.encodeStream (bytes.filter fun c => ¬ MIDI_CMD_COMMON_CLOCK ≤ c) ev' =
        some (events.filter fun ev => !isRealTime ev, dev', last') := by
  induction bytes generalizing dev ev ev' with
  | nil => exact ⟨[], dev, ev, ev', rfl, rfl⟩
  | cons c rest ih =>
    by_cases high : MIDI_CMD_COMMON_CLOCK ≤ c
    · have equal : erase (realTimeEvent c ev) = erase ev' := (erase_realTimeEvent c ev).trans same
      obtain ⟨events, dev', last, last', first, second⟩ := ih inv equal
      rw [encodeStream_cons (encodeByte_realTime dev high ev), first, List.filter_cons_of_neg (by simp [high]), second]
      refine ⟨_, dev', last, last', rfl, ?_⟩
      cases defined : definedRealTime c with
      | false => rfl
      | true =>
        have clock := isRealTime_realTimeEvent high ev
        simp [clock, defined]
    · rw [List.filter_cons_of_pos (by simpa using high)]
      obtain ⟨dev', next, ⟨first, second⟩ | ⟨out, ordinary, -, first, second⟩⟩ := inv.encodeByte_low high same
      · obtain ⟨events, dev'', last, last', later, later'⟩ := ih next same
        rw [encodeStream_cons first, encodeStream_cons second, later, later']
        exact ⟨_, dev'', last, last', rfl, rfl⟩
      · obtain ⟨events, dev'', last, last', later, later'⟩ := ih next (rfl : erase out = erase out)
        rw [encodeStream_cons first, encodeStream_cons second, later, later']
        refine ⟨_, dev'', last, last', rfl, ?_⟩
        simp [ordinary]

theorem realTimeEvent_type (c : Byte) (ev : SndSeqEvent) :
    definedRealTime c = true ↔ (realTimeEvent c ev).type ≠ SNDRV_SEQ_EVENT_NONE := by
  simp [definedRealTime, realTimeEvent, SndSeqEvent.setLength]

theorem EncoderInv.encodeLoop {dev : SndMidiEvent} (inv : EncoderInv dev) (bytes : List Byte) {ev : SndSeqEvent}
    (cleared : ev.type = SNDRV_SEQ_EVENT_NONE) :
    ∃ rest dev' last, dev.encodeLoop bytes ev = some (rest, dev', last) ∧ EncoderInv dev' ∧
      ((∃ taken, taken ≠ [] ∧ bytes = taken ++ rest ∧ last.type ≠ SNDRV_SEQ_EVENT_NONE ∧
          dev.encodeStream taken ev = some ([last], dev', last)) ∨
        rest = [] ∧ last.type = SNDRV_SEQ_EVENT_NONE ∧ dev.encodeStream bytes ev = some ([], dev', last)) := by
  induction bytes generalizing dev ev with
  | nil => exact ⟨[], dev, ev, rfl, inv, Or.inr ⟨rfl, cleared, rfl⟩⟩
  | cons c rest ih =>
    have goOn {dev' : SndMidiEvent} {ev' : SndSeqEvent} (next : EncoderInv dev')
        (cleared' : ev'.type = SNDRV_SEQ_EVENT_NONE) (first : dev.encodeByte c ev = some (false, dev', ev')) :
        ∃ rest' dev'' last, dev.encodeLoop (c :: rest) ev = some (rest', dev'', last) ∧ EncoderInv dev'' ∧
          ((∃ taken, taken ≠ [] ∧ c :: rest = taken ++ rest' ∧ last.type ≠ SNDRV_SEQ_EVENT_NONE ∧
              dev.encodeStream taken ev = some ([last], dev'', last)) ∨
            rest' = [] ∧ last.type = SNDRV_SEQ_EVENT_NONE ∧
              dev.encodeStream (c :: rest) ev = some ([], dev'', last)) := by
      obtain ⟨rest', dev'', last, loop, after, outcome⟩ := ih next cleared'
      refine ⟨rest', dev'', last, by rw [SndMidiEvent.encodeLoop, first]; exact loop, after, ?_⟩
      rcases outcome with ⟨taken, -, split, some_, stream⟩ | ⟨all, none_, stream⟩
      · left
        refine ⟨c :: taken, by simp, by rw [split, List.cons_append], some_, ?_⟩
        rw [encodeStream_cons first, stream]
        rfl
      · right
        refine ⟨all, none_, ?_⟩
        rw [encodeStream_cons first, stream]
        rfl
    have stop {dev' : SndMidiEvent} {ev' : SndSeqEvent} (next : EncoderInv dev')
        (some_ : ev'.type ≠ SNDRV_SEQ_EVENT_NONE) (first : dev.encodeByte c ev = some (true, dev', ev')) :
        ∃ rest' dev'' last, dev.encodeLoop (c :: rest) ev = some (rest', dev'', last) ∧ EncoderInv dev'' ∧
          ((∃ taken, taken ≠ [] ∧ c :: rest = taken ++ rest' ∧ last.type ≠ SNDRV_SEQ_EVENT_NONE ∧
              dev.encodeStream taken ev = some ([last], dev'', last)) ∨
            rest' = [] ∧ last.type = SNDRV_SEQ_EVENT_NONE ∧
              dev.encodeStream (c :: rest) ev = some ([], dev'', last)) := by
      refine ⟨rest, dev', ev', by rw [SndMidiEvent.encodeLoop, first], next, Or.inl ⟨[c], by simp, rfl, some_, ?_⟩⟩
      rw [encodeStream_cons first]
      rfl
    by_cases high : MIDI_CMD_COMMON_CLOCK ≤ c
    · have first := encodeByte_realTime dev high ev
      have type := realTimeEvent_type c ev
      cases defined : definedRealTime c with
      | true =>
        rw [defined] at first
        exact stop inv (type.mp defined) first
      | false =>
        rw [defined] at first
        apply goOn inv _ first
        by_contra some_
        rw [type.mpr some_] at defined
        cases defined
    · obtain ⟨dev', next, ⟨first, -⟩ | ⟨out, -, some_, first, -⟩⟩ := inv.encodeByte_low high (rfl : erase ev = erase ev)
      · exact goOn next cleared first
      · exact stop next some_ first

theorem EncoderInv.encodeAll {dev : SndMidiEvent} (inv : EncoderInv dev) {fuel : Nat} {bytes : List Byte}
    (enough : bytes.length ≤ fuel) {ev ev' : SndSeqEvent} (same : erase ev = erase ev') :
    ∃ events dev' last last', dev.encodeAll fuel bytes ev = some (events, dev', last) ∧
      dev.encodeStream bytes ev' = some (events, dev', last') ∧ erase last = erase last' ∧ EncoderInv dev' := by
  induction fuel generalizing dev bytes ev ev' with
  | zero =>
    have empty : bytes = [] := List.eq_nil_of_length_eq_zero (Nat.le_zero.mp enough)
    subst empty
    exact ⟨[], dev, ev, ev', rfl, rfl, same, inv⟩
  | succ fuel ih =>
    by_cases empty : bytes = []
    · subst empty
      exact ⟨[], dev, ev, ev', rfl, rfl, same, inv⟩
    · have start : erase { ev with type := SNDRV_SEQ_EVENT_NONE } = erase ev' := same
      obtain ⟨rest, dev', last, loop, next, outcome⟩ :=
        inv.encodeLoop bytes (rfl : ({ ev with type := SNDRV_SEQ_EVENT_NONE } : SndSeqEvent).type = _)
      have call : dev.encode bytes ev = some (bytes.length - rest.length, dev', last) := by
        rw [SndMidiEvent.encode, loop]
        rfl
      rw [SndMidiEvent.encodeAll, if_neg empty, call]
      dsimp only
      rcases outcome with ⟨taken, some_taken, split, some_, stream⟩ | ⟨all, none_, stream⟩
      · have drop : bytes.drop (bytes.length - rest.length) = rest := by
          rw [split, List.length_append, Nat.add_sub_cancel, List.drop_left]
        have shorter : rest.length ≤ fuel := by
          have some_length := List.length_pos_iff.mpr some_taken
          rw [split, List.length_append] at enough
          omega
        obtain ⟨first, mid, lastMid, lastMid', one, two, agreeMid, -⟩ := inv.encodeStream taken start
        rw [stream] at one
        cases one
        obtain ⟨events, dev'', end_, end', calls, bytes', agree, after⟩ := ih next shorter agreeMid
        rw [drop, calls, split, encodeStream_append, two]
        refine ⟨_, dev'', end_, end', rfl, ?_, agree, after⟩
        dsimp only [Option.bind_some]
        rw [bytes']
        simp [some_]
      · obtain ⟨first, mid, lastMid, lastMid', one, two, agreeMid, -⟩ := inv.encodeStream bytes start
        rw [stream] at one
        cases one
        have drop : bytes.drop (bytes.length - rest.length) = [] := by
          rw [all, List.length_nil, Nat.sub_zero, List.drop_length]
        have left : ([] : List Byte).length ≤ fuel := Nat.zero_le fuel
        obtain ⟨events, dev'', end_, end', calls, bytes', agree, after⟩ := ih next left agreeMid
        cases bytes'
        rw [drop, calls]
        refine ⟨[], _, end_, _, ?_, two, agree, after⟩
        simp [none_]

theorem EncoderInv.encodeCuts {dev : SndMidiEvent} (inv : EncoderInv dev) (pieces : List (List Byte))
    {ev ev' : SndSeqEvent} (same : erase ev = erase ev') :
    ∃ events dev' last last', dev.encodeCuts pieces ev = some (events, dev', last) ∧
      dev.encodeStream pieces.flatten ev' = some (events, dev', last') := by
  induction pieces generalizing dev ev ev' with
  | nil => exact ⟨[], dev, ev, ev', rfl, rfl⟩
  | cons piece rest ih =>
    obtain ⟨first, dev', mid, mid', calls, bytes, agree, next⟩ := inv.encodeAll (Nat.le_refl piece.length) same
    obtain ⟨events, dev'', last, last', later, later'⟩ := ih next agree
    rw [SndMidiEvent.encodeCuts, calls, List.flatten_cons, encodeStream_append, bytes]
    dsimp only [Option.bind_some]
    rw [later, later']
    exact ⟨_, dev'', last, last', rfl, rfl⟩

/-- The parser on any stream from any reachable state. -/
theorem encoder_robust {dev : SndMidiEvent} (reachable : EncoderReachable dev) (bytes : List Byte) (ev : SndSeqEvent) :
    ∃ events dev' last, dev.encodeStream bytes ev = some (events, dev', last) ∧
      dev'.read ≤ dev'.bufsize ∧ (dev'.bufsize ≤ dev'.read → dev'.bufsize = 3 ∧ dev'.qlen = 0) ∧
      (∃ dev'' last'', dev.encodeStream (bytes.filter fun c => ¬ MIDI_CMD_COMMON_CLOCK ≤ c) ev =
        some (events.filter fun ev => !isRealTime ev, dev'', last'')) ∧
      (∀ before c after, bytes = before ++ c :: after → MIDI_CMD_COMMON_CLOCK ≤ c →
        ∃ first mid lastMid later, dev.encodeStream before ev = some (first, mid, lastMid) ∧
          mid.encodeStream after (realTimeEvent c lastMid) = some (later, dev', last) ∧
          events = first ++ (if definedRealTime c then [realTimeEvent c lastMid] else []) ++ later) ∧
      (∀ pieces, pieces.flatten = bytes → ∃ dev'' last'', dev.encodeCuts pieces ev = some (events, dev'', last'')) := by
  have inv := reachable.inv
  have self : erase ev = erase ev := rfl
  obtain ⟨events, dev', last, -, stream, -, -, after⟩ := inv.encodeStream bytes self
  refine ⟨events, dev', last, stream, after.read_le, after.read_full, ?_, ?_, ?_⟩
  · obtain ⟨events', _, _, last'', same, filtered⟩ := inv.encodeStream_filter bytes self
    rw [stream] at same
    cases same
    exact ⟨_, last'', filtered⟩
  · intro before c rest split high
    obtain ⟨first, mid, lastMid, -, start, -, -, next⟩ := inv.encodeStream before self
    obtain ⟨later, end_, lastEnd, -, finish, -, -, -⟩ :=
      next.encodeStream rest (rfl : erase (realTimeEvent c lastMid) = _)
    rw [split, encodeStream_append, start] at stream
    dsimp only [Option.bind_some] at stream
    rw [encodeStream_cons (encodeByte_realTime mid high lastMid), finish] at stream
    cases stream
    refine ⟨first, mid, lastMid, later, start, finish, ?_⟩
    cases definedRealTime c <;> simp
  · intro pieces cut
    obtain ⟨events', dev'', last'', _, calls, whole⟩ := inv.encodeCuts pieces self
    rw [cut, stream] at whole
    cases whole
    exact ⟨dev', last'', calls⟩

theorem encoder_robust_noteOn :
    ∃ events dev' last, (new 3 false fun _ => 0).encodeStream [0x90, 0xf8, 0x3c, 0x40] blankEvent =
        some (events, dev', last) ∧
      dev'.read ≤ dev'.bufsize := by
  obtain ⟨events, dev', last, stream, le, -⟩ := encoder_robust
    (.reset (new 3 false fun _ => 0) (Nat.le_refl 3) rfl) [0x90, 0xf8, 0x3c, 0x40] blankEvent
  exact ⟨events, dev', last, stream, le⟩

/-- After a message of three bytes a buffer of three is full. -/
theorem read_reaches_bufsize :
    ¬ ∀ dev, EncoderReachable dev → ∀ bytes ev events dev' last,
      dev.encodeStream bytes ev = some (events, dev', last) → dev'.read < dev'.bufsize := by
  intro below
  have full := below _ (.reset (new 3 false fun _ => 0) (Nat.le_refl 3) rfl) [0x90, 0x3c, 0x40] blankEvent _ _ _ rfl
  exact absurd full (by decide)

end SndMidiEvent

end AlsaDriver.Seq
