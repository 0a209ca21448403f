import Mathlib.Algebra.GroupWithZero.Nat
import AlsaDriver.Rawmidi.OutputRuns

namespace AlsaDriver.Rawmidi

open Ring Words SndRawmidiRuntime

def EIO : Int := 5
def ENOMEM : Int := 12
def EBUSY : Int := 16
def EINVAL : Int := 22
def ERESTARTSYS : Int := 512

structure SndRawmidiParams where
  bufferSize : Nat
  availMin : Nat
  noActiveSensing : Bool

structure ParamStream where
  sub : SndRawmidiSubstream
  useCount : Nat
  availMin : Nat
  activeSensing : Bool

/-- What happens while an output substream drains: the driver's acknowledgements, whether the wait ends
    at its time limit, and whether a signal is pending. -/
structure DrainOutcome where
  acks : List Nat
  timedOut : Bool
  signal : Bool

instance (size : Nat) : Decidable (BufferSize size) := inferInstanceAs (Decidable (_ ∧ _))

namespace ParamStream

variable (s : ParamStream)

def runtime : SndRawmidiRuntime := s.sub.runtime

def setRuntime (r : SndRawmidiRuntime) : ParamStream := { s with sub := { s.sub with runtime := r } }

def sndRawmidiDropOutput : ParamStream :=
  s.setRuntime { s.runtime with applPtr := 0, hwPtr := 0, avail := s.runtime.bufferSize }

def acked (acks : List Nat) : ParamStream := { s with sub := acks.foldl SndRawmidiSubstream.sndRawmidiTransmitAck s.sub }

/-- `snd_rawmidi_drain_output`: a pending signal leaves the pointers as they are. -/
def sndRawmidiDrainOutput (drain : DrainOutcome) : Int × ParamStream :=
  let s := s.acked drain.acks
  let err := if drain.signal then -ERESTARTSYS else 0
  let err := if s.runtime.avail < s.runtime.bufferSize ∧ drain.timedOut = true then - EIO else err
  if err ≠ -ERESTARTSYS then (err, s.sndRawmidiDropOutput) else (err, s)

def sndRawmidiDrainInput : ParamStream :=
  s.setRuntime { s.runtime with applPtr := 0, hwPtr := 0, avail := 0 }

/-- `krealloc` keeps the bytes that both buffers have. -/
def reallocated (size : Nat) (newbuf : Nat → Byte) : Nat → Byte := fun i =>
  if i < min s.runtime.bufferSize size then s.runtime.buffer i else newbuf i

/-- The part of `snd_rawmidi_output_params` behind the drain; `newbuf` is what `krealloc` finds in new
    memory, if there is some. -/
def resizeOutput (params : SndRawmidiParams) (newbuf : Option (Nat → Byte)) : Int × ParamStream :=
  if sized : BufferSize params.bufferSize then
    if params.availMin < 1 ∨ params.bufferSize < params.availMin then (-EINVAL, s)
    else if params.bufferSize ≠ s.runtime.bufferSize then
      match newbuf with
      | none => (-ENOMEM, s)
      | some newbuf =>
        (0, { s.setRuntime { s.runtime with
                buffer := s.reallocated params.bufferSize newbuf
                bufferSize := params.bufferSize
                avail := params.bufferSize
                sized := sized } with
              availMin := params.availMin
              activeSensing := !params.noActiveSensing })
    else (0, { s with availMin := params.availMin, activeSensing := !params.noActiveSensing })
  else (-EINVAL, s)

def sndRawmidiOutputParams (params : SndRawmidiParams) (drain : DrainOutcome) (newbuf : Option (Nat → Byte)) :
    Int × ParamStream :=
  if s.sub.append = true ∧ 1 < s.useCount then (-EBUSY, s)
  else (s.sndRawmidiDrainOutput drain).2.resizeOutput params newbuf

def resizeInput (params : SndRawmidiParams) (newbuf : Option (Nat → Byte)) : Int × ParamStream :=
  if sized : BufferSize params.bufferSize then
    if params.availMin < 1 ∨ params.bufferSize < params.availMin then (-EINVAL, s)
    else if params.bufferSize ≠ s.runtime.bufferSize then
      match newbuf with
      | none => (-ENOMEM, s)
      | some newbuf =>
        (0, { s.setRuntime { s.runtime with
                buffer := s.reallocated params.bufferSize newbuf
                bufferSize := params.bufferSize
                sized := sized } with
              availMin := params.availMin })
    else (0, { s with availMin := params.availMin })
  else (-EINVAL, s)

def sndRawmidiInputParams (params : SndRawmidiParams) (newbuf : Option (Nat → Byte)) : Int × ParamStream :=
  s.sndRawmidiDrainInput.resizeInput params newbuf

end ParamStream

inductive ParamsCall where
  | output (params : SndRawmidiParams) (drain : DrainOutcome) (newbuf : Option (Nat → Byte))
  | input (params : SndRawmidiParams) (newbuf : Option (Nat → Byte))

namespace ParamStream

variable (s : ParamStream)

def call : ParamsCall → Int × ParamStream
  | .output params drain newbuf => s.sndRawmidiOutputParams params drain newbuf
  | .input params newbuf => s.sndRawmidiInputParams params newbuf

/-- The pointers are inside the buffer, and `avail` agrees with them. -/
def Ring : ParamsCall → Prop
  | .output .. => s.runtime.OutputRing
  | .input .. => s.runtime.InputRing

def Buffered : ParamsCall → List Byte
  | .output .. => s.runtime.pending
  | .input .. => s.runtime.waiting

structure Same (s s' : ParamStream) (call : ParamsCall) : Prop where
  data : s'.Buffered call = s.Buffered call
  appl : s'.runtime.applPtr = s.runtime.applPtr
  hw : s'.runtime.hwPtr = s.runtime.hwPtr
  bufferSize : s'.runtime.bufferSize = s.runtime.bufferSize
  availMin : s'.availMin = s.availMin
  activeSensing : s'.activeSensing = s.activeSensing

structure Right (call : ParamsCall) : Prop where
  ring : (s.call call).2.Ring call
  unchanged : (s.call call).1 < 0 → Same s (s.call call).2 call

def AcksPending : ParamsCall → Prop
  | .output _ drain _ => s.runtime.avail + drain.acks.sum ≤ s.runtime.bufferSize
  | .input .. => True

def Refused (params : SndRawmidiParams) (newbuf : Option (Nat → Byte)) : Prop :=
  ¬ BufferSize params.bufferSize ∨ params.availMin < 1 ∨ params.bufferSize < params.availMin ∨
    params.bufferSize ≠ s.runtime.bufferSize ∧ newbuf = none

def Resets (drain : DrainOutcome) : Prop :=
  drain.signal = false ∨ s.runtime.avail + drain.acks.sum < s.runtime.bufferSize ∧ drain.timedOut = true

instance (params : SndRawmidiParams) (newbuf : Option (Nat → Byte)) : Decidable (s.Refused params newbuf) :=
  @instDecidableOr _ _ inferInstance (@instDecidableOr _ _ inferInstance (@instDecidableOr _ _ inferInstance
    (@instDecidableAnd _ _ inferInstance (decidable_of_iff (newbuf.isNone = true) Option.isNone_iff_eq_none))))

instance (drain : DrainOutcome) : Decidable (s.Resets drain) := inferInstanceAs (Decidable (_ ∨ _))

/-- A request is refused when there is nothing that the drain would change, and a buffer is resized
    behind a drain that was reset, or that left the pointers together in the new buffer. -/
def Quiet : ParamsCall → Prop
  | .output params drain newbuf => s.sub.append = true ∧ 1 < s.useCount ∨
    (s.Refused params newbuf → if s.Resets drain then s.runtime.hwPtr = 0 ∧ s.runtime.avail = s.runtime.bufferSize
      else drain.acks.sum = 0) ∧
    (¬ s.Refused params newbuf → params.bufferSize ≠ s.runtime.bufferSize → ¬ s.Resets drain →
      s.runtime.applPtr = (s.runtime.hwPtr + drain.acks.sum) % s.runtime.bufferSize ∧
        s.runtime.applPtr < params.bufferSize)
  | .input params newbuf => s.Refused params newbuf → s.runtime.applPtr = 0 ∧ s.runtime.avail = 0

variable {s} {params : SndRawmidiParams} {newbuf : Option (Nat → Byte)} {drain : DrainOutcome}

theorem acked_runtime (acks : List Nat) : (s.acked acks).runtime = acks.foldl SndRawmidiRuntime.ack s.runtime := by
  rw [acked, runtime, runtime]
  generalize s.sub = sub
  induction acks generalizing sub with
  | nil => rfl
  | cons count rest ih => exact ih _

theorem foldl_ack {r : SndRawmidiRuntime} (ring : r.OutputRing) (acks : List Nat) (few : r.avail + acks.sum ≤ r.bufferSize) :
    acks.foldl SndRawmidiRuntime.ack r =
      { r with hwPtr := (r.hwPtr + acks.sum) % r.bufferSize, avail := r.avail + acks.sum } := by
  induction acks generalizing r with
  | nil =>
    have hw : (r.hwPtr + 0) % r.bufferSize = r.hwPtr := Nat.mod_eq_of_lt ring.hw
    rw [List.sum_nil, hw]
    rfl
  | cons count rest ih =>
    rw [List.sum_cons] at few
    obtain ⟨ring', -⟩ := ring.ack (show count ≤ r.bufferSize - r.avail by omega)
    rw [ack_eq (by omega)] at ring'
    have fits : r.avail + count + rest.sum ≤ r.bufferSize := by omega
    rw [List.foldl_cons, ack_eq (by omega), ih ring' fits, List.sum_cons]
    simp only [Nat.mod_add_mod, Nat.add_assoc]

theorem drainOutput_eq (ring : s.runtime.OutputRing) (few : s.runtime.avail + drain.acks.sum ≤ s.runtime.bufferSize) :
    (s.sndRawmidiDrainOutput drain).2 =
      if s.Resets drain then (s.acked drain.acks).sndRawmidiDropOutput else s.acked drain.acks := by
  have runtime := (acked_runtime drain.acks).trans (foldl_ack ring drain.acks few)
  have left : (s.acked drain.acks).runtime.avail < (s.acked drain.acks).runtime.bufferSize ↔
      s.runtime.avail + drain.acks.sum < s.runtime.bufferSize := by rw [runtime]
  rw [sndRawmidiDrainOutput]
  by_cases late : (s.acked drain.acks).runtime.avail < (s.acked drain.acks).runtime.bufferSize ∧ drain.timedOut = true
  · have resets : s.Resets drain := .inr ⟨left.mp late.1, late.2⟩
    rw [if_pos late, if_pos resets]
    rfl
  · rw [if_neg late]
    by_cases signal : drain.signal = true
    · have stays : ¬ s.Resets drain := by
        rintro (quiet | late')
        · exact Bool.noConfusion (signal.symm.trans quiet)
        · exact late ⟨left.mpr late'.1, late'.2⟩
      rw [if_pos signal, if_neg stays]
      rfl
    · have resets : s.Resets drain := .inl (Bool.eq_false_of_not_eq_true signal)
      rw [if_neg signal, if_pos resets]
      rfl

theorem EINVAL_neg : -EINVAL < 0 := by decide

theorem ENOMEM_neg : -ENOMEM < 0 := by decide

theorem resizeOutput_refused (refused : s.Refused params newbuf) :
    (s.resizeOutput params newbuf).1 < 0 ∧ (s.resizeOutput params newbuf).2 = s := by
  unfold resizeOutput
  split
  · rename_i sized
    split
    · exact ⟨EINVAL_neg, rfl⟩
    · rename_i good
      rcases refused with bad | low | high | ⟨other, rfl⟩
      · exact absurd sized bad
      · exact absurd (.inl low) good
      · exact absurd (.inr high) good
      · rw [if_pos other]
        exact ⟨ENOMEM_neg, rfl⟩
  · exact ⟨EINVAL_neg, rfl⟩

theorem resizeOutput_done (granted : ¬ s.Refused params newbuf) :
    (s.resizeOutput params newbuf).1 = 0 ∧ (s.resizeOutput params newbuf).2.runtime.bufferSize = params.bufferSize ∧
      (s.resizeOutput params newbuf).2.runtime.applPtr = s.runtime.applPtr ∧
      (s.resizeOutput params newbuf).2.runtime.hwPtr = s.runtime.hwPtr ∧
      (s.resizeOutput params newbuf).2.runtime.avail =
        if params.bufferSize = s.runtime.bufferSize then s.runtime.avail else params.bufferSize := by
  rw [Refused, not_or, not_or, not_or, not_not] at granted
  obtain ⟨sized, low, high, memory⟩ := granted
  rw [resizeOutput, dif_pos sized, if_neg (not_or.mpr ⟨low, high⟩)]
  by_cases same : params.bufferSize = s.runtime.bufferSize
  · rw [if_neg (not_not.mpr same), if_pos same]
    exact ⟨rfl, same.symm, rfl, rfl, rfl⟩
  · cases newbuf with
    | none => exact absurd ⟨same, rfl⟩ memory
    | some newbuf =>
      rw [if_pos same, if_neg same]
      exact ⟨rfl, rfl, rfl, rfl, rfl⟩

theorem resizeInput_refused (refused : s.Refused params newbuf) :
    (s.resizeInput params newbuf).1 < 0 ∧ (s.resizeInput params newbuf).2 = s := by
  unfold resizeInput
  split
  · rename_i sized
    split
    · exact ⟨EINVAL_neg, rfl⟩
    · rename_i good
      rcases refused with bad | low | high | ⟨other, rfl⟩
      · exact absurd sized bad
      · exact absurd (.inl low) good
      · exact absurd (.inr high) good
      · rw [if_pos other]
        exact ⟨ENOMEM_neg, rfl⟩
  · exact ⟨EINVAL_neg, rfl⟩

theorem resizeInput_done (granted : ¬ s.Refused params newbuf) :
    (s.resizeInput params newbuf).1 = 0 ∧ (s.resizeInput params newbuf).2.runtime.applPtr = s.runtime.applPtr ∧
      (s.resizeInput params newbuf).2.runtime.hwPtr = s.runtime.hwPtr ∧
      (s.resizeInput params newbuf).2.runtime.avail = s.runtime.avail := by
  rw [Refused, not_or, not_or, not_or, not_not] at granted
  obtain ⟨sized, low, high, memory⟩ := granted
  rw [resizeInput, dif_pos sized, if_neg (not_or.mpr ⟨low, high⟩)]
  by_cases same : params.bufferSize = s.runtime.bufferSize
  · rw [if_neg (not_not.mpr same)]
    exact ⟨rfl, rfl, rfl, rfl⟩
  · cases newbuf with
    | none => exact absurd ⟨same, rfl⟩ memory
    | some newbuf =>
      rw [if_pos same]
      exact ⟨rfl, rfl, rfl, rfl⟩

theorem refused_congr {s' : ParamStream} (size : s'.runtime.bufferSize = s.runtime.bufferSize) :
    s'.Refused params newbuf ↔ s.Refused params newbuf := by rw [Refused, Refused, size]

theorem same_drained_iff (ring : s.runtime.OutputRing) (few : s.runtime.avail + drain.acks.sum ≤ s.runtime.bufferSize) :
    Same s (s.sndRawmidiDrainOutput drain).2 (.output params drain newbuf) ↔
      if s.Resets drain then s.runtime.hwPtr = 0 ∧ s.runtime.avail = s.runtime.bufferSize else drain.acks.sum = 0 := by
  have runtime := (acked_runtime drain.acks).trans (foldl_ack ring drain.acks few)
  have room := ring.avail
  rw [drainOutput_eq ring few]
  split
  · constructor
    · intro same
      refine ⟨same.hw.symm, ?_⟩
      have length := congrArg List.length same.data
      have none : (s.acked drain.acks).sndRawmidiDropOutput.runtime.pending.length = 0 := by
        rw [length_pending]
        exact Nat.sub_self _
      have some_ : s.runtime.pending.length = s.runtime.bufferSize - s.runtime.avail := length_pending
      simp only [Buffered] at length
      omega
    · rintro ⟨hw, avail⟩
      have appl : s.runtime.applPtr = 0 := by
        rw [ring.appl, hw, avail, Nat.sub_self, Nat.add_zero, Nat.zero_mod]
      have size : (s.acked drain.acks).sndRawmidiDropOutput.runtime.bufferSize = s.runtime.bufferSize := by
        show (s.acked drain.acks).runtime.bufferSize = _
        rw [runtime]
      have empty : s.runtime.pending = [] := by
        rw [← List.length_eq_zero_iff, length_pending, avail, Nat.sub_self]
      have empty' : (s.acked drain.acks).sndRawmidiDropOutput.runtime.pending = [] := by
        rw [← List.length_eq_zero_iff, length_pending]
        exact Nat.sub_self _
      exact ⟨empty'.trans empty.symm, appl.symm, hw.symm, size, rfl, rfl⟩
  · constructor
    · intro same
      have length := congrArg List.length same.data
      simp only [Buffered, length_pending, runtime] at length
      omega
    · intro none
      have hw : (s.runtime.hwPtr + 0) % s.runtime.bufferSize = s.runtime.hwPtr := Nat.mod_eq_of_lt ring.hw
      have kept : (s.acked drain.acks).runtime = s.runtime := by
        rw [runtime, none, hw]
        rfl
      refine ⟨?_, ?_, ?_, ?_, rfl, rfl⟩
      · rw [Buffered, Buffered, kept]
      · rw [kept]
      · rw [kept]
      · rw [kept]

theorem drained_ring (ring : s.runtime.OutputRing) (few : s.runtime.avail + drain.acks.sum ≤ s.runtime.bufferSize) :
    (s.sndRawmidiDrainOutput drain).2.runtime.OutputRing ∧
      (s.sndRawmidiDrainOutput drain).2.runtime.bufferSize = s.runtime.bufferSize ∧
      (s.sndRawmidiDrainOutput drain).2.runtime.applPtr = (if s.Resets drain then 0 else s.runtime.applPtr) ∧
      (s.sndRawmidiDrainOutput drain).2.runtime.hwPtr =
        if s.Resets drain then 0 else (s.runtime.hwPtr + drain.acks.sum) % s.runtime.bufferSize := by
  have runtime := (acked_runtime drain.acks).trans (foldl_ack ring drain.acks few)
  rw [drainOutput_eq ring few]
  split
  · have size : (s.acked drain.acks).runtime.bufferSize = s.runtime.bufferSize := by rw [runtime]
    refine ⟨⟨le_refl _, ?_, ?_⟩, size, rfl, rfl⟩
    · exact (s.acked drain.acks).runtime.size_pos
    · show 0 = (0 + ((s.acked drain.acks).runtime.bufferSize - (s.acked drain.acks).runtime.bufferSize)) % _
      rw [Nat.sub_self, Nat.add_zero, Nat.zero_mod]
  · rw [runtime]
    refine ⟨⟨few, Nat.mod_lt _ s.runtime.size_pos, ?_⟩, rfl, rfl, rfl⟩
    show s.runtime.applPtr = ((s.runtime.hwPtr + drain.acks.sum) % s.runtime.bufferSize +
      (s.runtime.bufferSize - (s.runtime.avail + drain.acks.sum))) % s.runtime.bufferSize
    rw [Nat.mod_add_mod, ring.appl]
    congr 1
    omega

theorem emptyRing_iff {r : SndRawmidiRuntime} (empty : r.avail = r.bufferSize) :
    r.OutputRing ↔ r.applPtr = r.hwPtr ∧ r.applPtr < r.bufferSize := by
  have none : r.bufferSize - r.avail = 0 := by rw [empty, Nat.sub_self]
  constructor
  · intro ring
    have appl : r.applPtr = (r.hwPtr + 0) % r.bufferSize := by rw [← none, ring.appl]
    have hw : (r.hwPtr + 0) % r.bufferSize = r.hwPtr := Nat.mod_eq_of_lt ring.hw
    exact ⟨appl.trans hw, ring.appl_lt⟩
  · rintro ⟨appl, inside⟩
    have hw : r.hwPtr < r.bufferSize := appl ▸ inside
    refine ⟨le_of_eq empty, hw, ?_⟩
    rw [none, Nat.add_zero, Nat.mod_eq_of_lt hw, appl]

theorem outputRing_congr {r r' : SndRawmidiRuntime} (ring : r.OutputRing) (size : r'.bufferSize = r.bufferSize)
    (appl : r'.applPtr = r.applPtr) (hw : r'.hwPtr = r.hwPtr) (avail : r'.avail = r.avail) : r'.OutputRing where
  avail := by rw [avail, size]; exact ring.avail
  hw := by rw [hw, size]; exact ring.hw
  appl := by rw [appl, hw, size, avail]; exact ring.appl

theorem granted_pos (granted : ¬ s.Refused params newbuf) : 0 < params.bufferSize := by
  have sized : BufferSize params.bufferSize := not_not.mp fun bad => granted (.inl bad)
  exact Nat.lt_of_lt_of_le (by decide) sized.1

theorem output_right_iff (ring : s.runtime.OutputRing) (few : s.runtime.avail + drain.acks.sum ≤ s.runtime.bufferSize) :
    s.Right (.output params drain newbuf) ↔ s.Quiet (.output params drain newbuf) := by
  by_cases busy : s.sub.append = true ∧ 1 < s.useCount
  · have whole : s.call (.output params drain newbuf) = (-EBUSY, s) := if_pos busy
    refine iff_of_true ⟨?_, fun _ => ?_⟩ (.inl busy)
    · rw [whole]
      exact ring
    · rw [whole]
      exact ⟨rfl, rfl, rfl, rfl, rfl, rfl⟩
  have whole : s.call (.output params drain newbuf) = (s.sndRawmidiDrainOutput drain).2.resizeOutput params newbuf :=
    if_neg busy
  obtain ⟨ring', size, appl, hw⟩ := drained_ring ring few
  have refused : (s.sndRawmidiDrainOutput drain).2.Refused params newbuf ↔ s.Refused params newbuf := refused_congr size
  have quiet : s.Quiet (.output params drain newbuf) ↔ _ := or_iff_right busy
  rw [quiet]
  by_cases no : s.Refused params newbuf
  · obtain ⟨fails, stays⟩ := resizeOutput_refused (refused.mpr no)
    have same_iff : Same s (s.sndRawmidiDrainOutput drain).2 (.output params drain newbuf) ↔ _ := same_drained_iff ring few
    rw [forall_prop_of_true no, ← same_iff, and_iff_left fun yes => absurd no yes]
    constructor
    · intro right
      have same := right.unchanged (by rw [whole]; exact fails)
      rwa [whole, stays] at same
    · intro same
      refine ⟨?_, fun _ => ?_⟩
      · rw [whole, stays]
        exact ring'
      · rw [whole, stays]
        exact same
  · obtain ⟨done, size', appl', hw', avail'⟩ := resizeOutput_done (mt refused.mp no)
    have passes : s.Right (.output params drain newbuf) ↔
        ((s.sndRawmidiDrainOutput drain).2.resizeOutput params newbuf).2.runtime.OutputRing := by
      rw [← whole]
      refine ⟨fun right => right.ring, fun ring => ⟨ring, fun fails => ?_⟩⟩
      rw [whole, done] at fails
      exact absurd fails (lt_irrefl 0)
    rw [passes, forall_prop_of_true no, and_iff_right fun yes => absurd yes no]
    by_cases same : params.bufferSize = s.runtime.bufferSize
    · refine iff_of_true ?_ fun other => absurd same other
      rw [if_pos (same.trans size.symm)] at avail'
      exact outputRing_congr ring' (size'.trans (same.trans size.symm)) appl' hw' avail'
    · rw [if_neg (size ▸ same)] at avail'
      rw [forall_prop_of_true same, emptyRing_iff (avail'.trans size'.symm), appl', hw', size', appl, hw]
      by_cases resets : s.Resets drain
      · rw [if_pos resets, if_pos resets]
        exact iff_of_true ⟨rfl, granted_pos no⟩ fun stays => absurd resets stays
      · rw [if_neg resets, if_neg resets, forall_prop_of_true resets]

theorem same_dropped_iff :
    Same s s.sndRawmidiDrainInput (.input params newbuf) ↔
      s.runtime.applPtr = 0 ∧ s.runtime.hwPtr = 0 ∧ s.runtime.avail = 0 := by
  have length : s.runtime.waiting.length = s.runtime.avail := length_window
  have none : s.sndRawmidiDrainInput.runtime.waiting = [] := List.length_eq_zero_iff.mp length_window
  constructor
  · intro same
    have data : s.sndRawmidiDrainInput.runtime.waiting = s.runtime.waiting := same.data
    refine ⟨same.appl.symm, same.hw.symm, ?_⟩
    rw [← length, ← data, none]
    rfl
  · rintro ⟨appl, hw, avail⟩
    have data : s.runtime.waiting = [] := List.length_eq_zero_iff.mp (length.trans avail)
    exact ⟨none.trans data.symm, appl.symm, hw.symm, rfl, rfl, rfl⟩

theorem inputRing_reset {r : SndRawmidiRuntime} (appl : r.applPtr = 0) (hw : r.hwPtr = 0) (avail : r.avail = 0) :
    r.InputRing where
  avail := by rw [avail]; exact Nat.zero_le _
  appl := by rw [appl]; exact r.size_pos
  hw := by rw [hw, appl, avail, Nat.add_zero, Nat.zero_mod]

theorem input_right_iff (ring : s.runtime.InputRing) :
    s.Right (.input params newbuf) ↔ s.Quiet (.input params newbuf) := by
  have whole : s.call (.input params newbuf) = s.sndRawmidiDrainInput.resizeInput params newbuf := rfl
  have refused : s.sndRawmidiDrainInput.Refused params newbuf ↔ s.Refused params newbuf := refused_congr rfl
  by_cases no : s.Refused params newbuf
  · obtain ⟨fails, stays⟩ := resizeInput_refused (refused.mpr no)
    have passes : s.Right (.input params newbuf) ↔ Same s s.sndRawmidiDrainInput (.input params newbuf) := by
      rw [← stays, ← whole]
      refine ⟨fun right => right.unchanged (by rw [whole]; exact fails), fun same => ⟨?_, fun _ => same⟩⟩
      rw [whole, stays]
      exact inputRing_reset rfl rfl rfl
    rw [Quiet, forall_prop_of_true no, passes, same_dropped_iff]
    constructor
    · exact fun reset => ⟨reset.1, reset.2.2⟩
    · rintro ⟨appl, avail⟩
      refine ⟨appl, ?_, avail⟩
      rw [ring.hw, appl, avail, Nat.add_zero, Nat.zero_mod]
  · obtain ⟨done, appl, hw, avail⟩ := resizeInput_done (mt refused.mp no)
    refine iff_of_true ⟨?_, fun fails => ?_⟩ fun yes => absurd yes no
    · rw [whole]
      exact inputRing_reset appl hw avail
    · rw [whole, done] at fails
      exact absurd fails (lt_irrefl 0)

/-- When a request keeps the ring valid, and fails without a trace. -/
theorem params_right_iff (s : ParamStream) (call : ParamsCall) (ring : s.Ring call) (acks : s.AcksPending call) :
    s.Right call ↔ s.Quiet call := by
  cases call with
  | output params drain newbuf => exact output_right_iff ring acks
  | input params newbuf => exact input_right_iff ring

theorem bufferSize_page : BufferSize 4096 := ⟨by decide, by decide⟩

def used : ParamStream where
  sub := ⟨true, false, 0, ⟨fun _ => 0, 4096, 4096, 100, 100, 0, bufferSize_page⟩⟩
  useCount := 1
  availMin := 1
  activeSensing := true

theorem used_ring : used.runtime.OutputRing := ⟨le_refl _, by decide, by decide⟩

theorem params_right_drained :
    used.Right (.output ⟨32, 1, false⟩ ⟨[], false, false⟩ (some fun _ => 0)) ↔
      used.Quiet (.output ⟨32, 1, false⟩ ⟨[], false, false⟩ (some fun _ => 0)) :=
  params_right_iff used _ used_ring (le_refl _)

/-- A signal stops the drain, and the pointers stay behind the end of the new buffer. -/
theorem interrupted_shrinks : ¬ ∀ (s : ParamStream) (call : ParamsCall), s.Ring call → s.AcksPending call →
    s.Right call := by
  intro right
  have ring := (right used (.output ⟨32, 1, false⟩ ⟨[], false, true⟩ (some fun _ => 0)) used_ring (le_refl _)).ring
  have inside : (100 : Nat) < 32 := OutputRing.hw ring
  exact absurd inside (by decide)

end ParamStream

end AlsaDriver.Rawmidi
