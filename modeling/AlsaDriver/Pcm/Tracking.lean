import AlsaDriver.Lib.Runs
import AlsaDriver.Pcm.RingInv

namespace AlsaDriver.Pcm

open Runs RingCounter PcmRuntime

variable {cfg : PcmConfig} {hz : Nat} {rt : PcmRuntime} {inInterrupt : Bool} {pointer jiffies : Nat}

def ringBase (cfg : PcmConfig) (rt : PcmRuntime) (pos : Nat) : Nat :=
  if rt.hwPtrBase + pos < rt.hwPtr then nextBase cfg rt.hwPtrBase else rt.hwPtrBase

def DoubleCount (cfg : PcmConfig) (rt : PcmRuntime) (inInterrupt : Bool) (pos jiffies : Nat) : Prop :=
  inInterrupt = true ∧ rt.hwPtr ≤ rt.hwPtrBase + pos ∧ rt.hwPtrBase + pos < rt.hwPtrInterrupt + cfg.periodSize ∧
    rt.hwPtrBufferJiffies / 2 < ulong (jiffies - rt.hwPtrJiffies)

theorem ringBase_isBase (base : IsBase cfg rt.hwPtrBase) (pos : Nat) : IsBase cfg (ringBase cfg rt pos) := by
  unfold ringBase
  split
  · exact base.next
  · exact base

theorem seenBase_eq (inv : RingInv cfg rt) (inInterrupt : Bool) (jiffies : Nat) {pos : Nat} (inside : pos < cfg.bufferSize) :
    rt.seenBase cfg inInterrupt pos jiffies = ringBase cfg rt pos ∨
      (DoubleCount cfg rt inInterrupt pos jiffies ∧
        rt.seenBase cfg inInterrupt pos jiffies = nextBase cfg rt.hwPtrBase) := by
  have room := cfg.boundary_room
  have small := cfg.period_lt
  have interrupt := inv.interrupt
  have word := inv.base.pointer inside
  have expected : ulong (rt.hwPtrInterrupt + cfg.periodSize) = rt.hwPtrInterrupt + cfg.periodSize := by
    have exact := ulong_of_range (x := rt.hwPtrInterrupt + cfg.periodSize) (by omega) (by omega)
    omega
  unfold seenBase ringBase
  simp only [word, expected]
  by_cases passed : rt.hwPtrBase + pos < rt.hwPtr
  · left
    simp only [passed, if_true, ite_self]
  · by_cases guessed : inInterrupt = true ∧ rt.hwPtrBase + pos < rt.hwPtrInterrupt + cfg.periodSize ∧
        rt.hwPtrBufferJiffies / 2 < ulong (jiffies - rt.hwPtrJiffies)
    · right
      rw [if_pos guessed]
      exact ⟨⟨guessed.1, by omega, guessed.2.1, guessed.2.2⟩, rfl⟩
    · left
      simp only [passed, guessed, if_false]

theorem ringBase_delta (inv : RingInv cfg rt) {pos : Nat} (inside : pos < cfg.bufferSize) :
    0 ≤ rt.hwPtrDelta cfg (ringBase cfg rt pos + pos) ∧ rt.hwPtrDelta cfg (ringBase cfg rt pos + pos) < cfg.bufferSize := by
  have room := cfg.boundary_room
  have large := cfg.boundary_large
  have small := cfg.buffer_lt
  have fits := inv.base.room
  have low := inv.base_le
  have high := inv.inside
  unfold hwPtrDelta ringBase
  rw [nextBase_eq inv.base.2]
  unfold nextPass
  split
  · split
    · have wrapped := slong_of_range (x := (0 + pos : Nat) - rt.hwPtr) (by omega) (by omega)
      simp only [wrapped]
      split
      · rw [slong_of_range (by omega) (by omega)]
        omega
      · omega
    · have ahead := slong_of_range (x := (rt.hwPtrBase + cfg.bufferSize + pos : Nat) - rt.hwPtr) (by omega) (by omega)
      simp only [ahead]
      split <;> omega
  · have ahead := slong_of_range (x := (rt.hwPtrBase + pos : Nat) - rt.hwPtr) (by omega) (by omega)
    simp only [ahead]
    split <;> omega

theorem updateHwPtr0_tracks (hz : Nat) (inv : RingInv cfg rt) (wakeups : cfg.noPeriodWakeup = false)
    (real : pointer ≠ SNDRV_PCM_POS_XRUN) (single : ¬ DoubleCount cfg rt inInterrupt (seenPos cfg pointer) jiffies) :
    rt.updateHwPtr0 cfg hz inInterrupt pointer jiffies =
      some (rt.storeHwPtr cfg inInterrupt (ringBase cfg rt (seenPos cfg pointer))
        (ringBase cfg rt (seenPos cfg pointer) + seenPos cfg pointer) jiffies) := by
  have inside := seenPos_lt cfg pointer
  have small := cfg.buffer_lt
  have smallPeriod := cfg.period_lt
  have positive := cfg.period_pos
  obtain same | ⟨double, -⟩ := seenBase_eq inv inInterrupt jiffies inside
  · obtain ⟨low, high⟩ := ringBase_delta inv inside
    have word := ulong_of_range low (by omega)
    have limit := ulong_of_range (x := cfg.bufferSize + cfg.periodSize) (by omega) (by omega)
    unfold updateHwPtr0
    dsimp only
    rw [if_neg real, wakeups, if_neg Bool.false_ne_true, same, (ringBase_isBase inv.base _).pointer inside,
      if_neg (by omega)]
  · exact absurd double single

theorem nextBase_ne {base : Nat} (isBase : IsBase cfg base) : nextBase cfg base ≠ base := by
  have positive := cfg.buffer_pos
  have large := cfg.boundary_large
  have small := cfg.buffer_lt
  rw [nextBase_eq isBase.2]
  unfold nextPass
  split <;> omega

theorem doubleCount_delta (inv : RingInv cfg rt) {pos : Nat} (inside : pos < cfg.bufferSize)
    (ahead : rt.hwPtr ≤ rt.hwPtrBase + pos) :
    rt.hwPtrDelta cfg (nextBase cfg rt.hwPtrBase + pos) = rt.hwPtrBase + pos - rt.hwPtr + cfg.bufferSize := by
  have room := cfg.boundary_room
  have large := cfg.boundary_large
  have small := cfg.buffer_lt
  have fits := inv.base.room
  have low := inv.base_le
  have high := inv.inside
  have positive := cfg.buffer_pos
  unfold hwPtrDelta
  rw [nextBase_eq inv.base.2]
  unfold nextPass
  by_cases last : cfg.boundary ≤ rt.hwPtrBase + cfg.bufferSize
  · have wrapped := slong_of_range (x := (0 + pos : Nat) - rt.hwPtr) (by omega) (by omega)
    simp only [last, if_true, wrapped]
    split
    · rw [slong_of_range (by omega) (by omega)]
      omega
    · omega
  · simp only [last, if_false]
    have ahead := slong_of_range (x := (rt.hwPtrBase + cfg.bufferSize + pos : Nat) - rt.hwPtr) (by omega) (by omega)
    simp only [ahead]
    split <;> omega

theorem storeHwPtr_hwPtr (cfg : PcmConfig) (rt : PcmRuntime) (inInterrupt : Bool) (hwBase newHwPtr jiffies : Nat) :
    (rt.storeHwPtr cfg inInterrupt hwBase newHwPtr jiffies).2.hwPtr = newHwPtr := by
  unfold storeHwPtr
  split
  · assumption
  · obtain ⟨next, same⟩ := updateState_eq cfg (rt.moved cfg inInterrupt hwBase newHwPtr jiffies)
    rw [same]
    rfl

theorem updateHwPtr0_double (hz : Nat) (inv : RingInv cfg rt) (wakeups : cfg.noPeriodWakeup = false)
    (real : pointer ≠ SNDRV_PCM_POS_XRUN) (double : DoubleCount cfg rt inInterrupt (seenPos cfg pointer) jiffies) :
    ∃ out, rt.updateHwPtr0 cfg hz inInterrupt pointer jiffies = some out ∧
      out.2.hwPtr ≠ rt.hwPtrBase + seenPos cfg pointer := by
  obtain ⟨on, ahead, early, late⟩ := double
  have inside := seenPos_lt cfg pointer
  have small := cfg.buffer_lt
  have smallPeriod := cfg.period_lt
  have positive := cfg.period_pos
  have interrupt := inv.interrupt
  have room := cfg.boundary_room
  have high := inv.inside
  have other := nextBase_ne inv.base
  have seen : rt.seenBase cfg inInterrupt (seenPos cfg pointer) jiffies = nextBase cfg rt.hwPtrBase := by
    have word := inv.base.pointer inside
    have expected : ulong (rt.hwPtrInterrupt + cfg.periodSize) = rt.hwPtrInterrupt + cfg.periodSize := by
      have exact := ulong_of_range (x := rt.hwPtrInterrupt + cfg.periodSize) (by omega) (by omega)
      omega
    unfold seenBase
    simp only [word, expected]
    rw [if_pos ⟨on, early, late⟩]
  have delta := doubleCount_delta inv inside ahead
  have word := ulong_of_range (x := rt.hwPtrBase + seenPos cfg pointer - rt.hwPtr + cfg.bufferSize) (by omega)
    (by omega)
  have limit := ulong_of_range (x := cfg.bufferSize + cfg.periodSize) (by omega) (by omega)
  unfold updateHwPtr0
  dsimp only
  rw [if_neg real, wakeups, if_neg Bool.false_ne_true, seen, inv.base.next.pointer inside, delta]
  split
  · -- the way is too long to be believed: the old pointer stays
    refine ⟨_, rfl, ?_⟩
    dsimp only
    omega
  · refine ⟨_, rfl, ?_⟩
    rw [storeHwPtr_hwPtr]
    omega

structure DeviceCall where
  interrupt : Bool
  io : DeviceTime
  total : Nat

structure TrackedStream where
  rt : PcmRuntime
  total : Nat
  jiffies : Nat
  interruptTotal : Nat

def trackedCall (cfg : PcmConfig) (hz : Nat) (s : TrackedStream) (call : DeviceCall) : TrackedStream where
  rt :=
    (if call.interrupt then s.rt.periodElapsed cfg hz call.io.pointer call.io.jiffies
      else (s.rt.updateHwPtr cfg hz call.io.pointer call.io.jiffies).map Prod.snd).getD s.rt
  total := call.total
  jiffies := call.io.jiffies
  interruptTotal := if call.interrupt then call.total else s.interruptTotal

structure Device (cfg : PcmConfig) (hz : Nat) (s : TrackedStream) (call : DeviceCall) : Prop where
  forward : s.total ≤ call.total
  short : call.total < s.total + cfg.bufferSize
  valid : call.io.pointer < cfg.bufferSize
  seen : seenPos cfg call.io.pointer = call.total % cfg.bufferSize
  period : call.interrupt = true → s.interruptTotal / cfg.periodSize < call.total / cfg.periodSize
  time : ulong (call.io.jiffies - s.jiffies) * cfg.rate ≤ (call.total - s.total) * hz + cfg.rate
  stopped : s.rt.running cfg = false → call.total = s.total

structure Started (cfg : PcmConfig) (hz : Nat) (s : TrackedStream) : Prop where
  started : ∃ rt : PcmRuntime, rt.hwPtr = 0 ∧ rt.hwPtrBase = 0 ∧ rt.hwPtrInterrupt = 0 ∧
    rt.applPtr < cfg.boundary ∧ s.rt = rt.postStart cfg hz s.jiffies .running
  total : s.total = 0
  interruptTotal : s.interruptTotal = 0

/-- An interrupt whose position has not passed the end of the ring finds the expected pointer
    reached, or comes within half a buffer time after the pointer moved. -/
def InterruptFits (cfg : PcmConfig) (s : TrackedStream) (call : DeviceCall) : Prop :=
  call.interrupt = true → s.rt.running cfg = true →
    s.rt.hwPtr ≤ s.rt.hwPtrBase + call.total % cfg.bufferSize →
      s.rt.hwPtrInterrupt + cfg.periodSize ≤ s.rt.hwPtrBase + call.total % cfg.bufferSize ∨
        ulong (call.io.jiffies - s.rt.hwPtrJiffies) ≤ s.rt.hwPtrBufferJiffies / 2

structure TrackInv (cfg : PcmConfig) (s : TrackedStream) : Prop where
  ring : RingInv cfg s.rt
  tracks : s.rt.hwPtr = s.total % cfg.boundary

theorem Started.inv {s : TrackedStream} (started : Started cfg hz s) : TrackInv cfg s := by
  obtain ⟨⟨rt, hw, base, interrupt, appl, same⟩, total, -⟩ := started
  have positive := cfg.buffer_pos
  have large := cfg.boundary_large
  refine ⟨⟨?_, ?_, ?_, ?_, ?_⟩, ?_⟩ <;> rw [same]
  · simp only [postStart, base]
    exact .zero
  · simp only [postStart, base, hw, Nat.le_refl]
  · simp only [postStart, base, hw]
    omega
  · simp only [postStart, interrupt]
    omega
  · exact appl
  · simp only [postStart, hw, total, Nat.zero_mod]

section Device

variable {s : TrackedStream} {call : DeviceCall}

theorem ringBase_tracks (inv : TrackInv cfg s) (device : Device cfg hz s call) :
    ringBase cfg s.rt (call.total % cfg.bufferSize) + call.total % cfg.bufferSize = call.total % cfg.boundary := by
  have positive := cfg.buffer_pos
  have large := cfg.boundary_large
  obtain ⟨⟨isBase, low, high, -, -⟩, tracks⟩ := inv
  obtain ⟨passes, limit⟩ := cfg.boundary_dvd
  have somePasses : 0 < passes := by
    apply Nat.pos_of_ne_zero
    rintro rfl
    omega
  have base : s.rt.hwPtrBase = passStart cfg.bufferSize passes s.total := by
    obtain ⟨⟨a, aligned⟩, -⟩ := isBase
    have split := mod_pass cfg.bufferSize passes s.total
    have inside := Nat.mod_lt s.total positive
    rw [← limit, ← tracks] at split
    have left : s.rt.hwPtr / cfg.bufferSize = a := by
      apply Nat.div_eq_of_lt_le
      · rw [Nat.mul_comm]
        omega
      · rw [Nat.mul_comm, Nat.mul_succ]
        omega
    have right : s.rt.hwPtr / cfg.bufferSize = s.total / cfg.bufferSize % passes := by
      rw [split, passStart, Nat.mul_add_div positive, Nat.div_eq_of_lt inside, Nat.add_zero]
    rw [aligned, passStart, ← left, right]
  have step := counter_step positive somePasses device.forward device.short
  rw [← limit, ← tracks, ← base] at step
  rw [step, ringBase, nextBase_eq isBase.2]
  split <;> rfl

theorem Device.real (device : Device cfg hz s call) : call.io.pointer ≠ SNDRV_PCM_POS_XRUN := by
  have valid := device.valid
  have small := cfg.buffer_lt
  unfold SNDRV_PCM_POS_XRUN
  omega

theorem trackedCall_updated {out : Int × PcmRuntime} (active : call.interrupt = true → s.rt.running cfg = true)
    (updated : s.rt.updateHwPtr0 cfg hz call.interrupt call.io.pointer call.io.jiffies = some out) :
    (trackedCall cfg hz s call).rt = out.2 := by
  cases interrupt : call.interrupt with
  | false =>
    rw [interrupt] at updated
    simp [trackedCall, interrupt, updateHwPtr, updated]
  | true =>
    rw [interrupt] at updated
    simp [trackedCall, interrupt, periodElapsed, active interrupt, updated]

theorem trackedCall_ignored (interrupt : call.interrupt = true) (stopped : s.rt.running cfg = false) :
    (trackedCall cfg hz s call).rt = s.rt := by
  simp [trackedCall, interrupt, periodElapsed, stopped]

theorem not_doubleCount_iff (active : call.interrupt = true → s.rt.running cfg = true) :
    ¬ DoubleCount cfg s.rt call.interrupt (call.total % cfg.bufferSize) call.io.jiffies ↔ InterruptFits cfg s call := by
  unfold DoubleCount InterruptFits
  constructor
  · intro single interrupt _ ahead
    by_cases expected : s.rt.hwPtrInterrupt + cfg.periodSize ≤ s.rt.hwPtrBase + call.total % cfg.bufferSize
    · exact Or.inl expected
    · right
      by_contra late
      exact single ⟨interrupt, ahead, by omega, by omega⟩
  · rintro fits ⟨interrupt, ahead, early, late⟩
    have choice := fits interrupt (active interrupt) ahead
    omega

theorem trackedCall_iff (wakeups : cfg.noPeriodWakeup = false) (inv : TrackInv cfg s) (device : Device cfg hz s call) :
    (trackedCall cfg hz s call).rt.hwPtr = call.total % cfg.boundary ↔ InterruptFits cfg s call := by
  by_cases active : call.interrupt = true → s.rt.running cfg = true
  · have place := ringBase_tracks inv device
    rw [← not_doubleCount_iff active, ← device.seen]
    rw [← device.seen] at place
    by_cases double : DoubleCount cfg s.rt call.interrupt (seenPos cfg call.io.pointer) call.io.jiffies
    · obtain ⟨out, updated, elsewhere⟩ := updateHwPtr0_double hz inv.ring wakeups device.real double
      have same : ringBase cfg s.rt (seenPos cfg call.io.pointer) = s.rt.hwPtrBase := by
        unfold ringBase
        rw [if_neg (Nat.not_lt.mpr double.2.1)]
      rw [same] at place
      rw [trackedCall_updated active updated, ← place]
      exact iff_of_false elsewhere (not_not.mpr double)
    · have updated := updateHwPtr0_tracks hz inv.ring wakeups device.real double
      rw [trackedCall_updated active updated, storeHwPtr_hwPtr]
      exact iff_of_true place double
  · rw [Classical.not_imp, Bool.not_eq_true] at active
    obtain ⟨interrupt, stopped⟩ := active
    rw [trackedCall_ignored interrupt stopped, device.stopped stopped]
    refine iff_of_true inv.tracks ?_
    intro _ running
    rw [stopped] at running
    cases running

theorem trackedCall_ring (inv : RingInv cfg s.rt) : RingInv cfg (trackedCall cfg hz s call).rt := by
  unfold trackedCall
  dsimp only
  split
  · cases elapsed : s.rt.periodElapsed cfg hz call.io.pointer call.io.jiffies with
    | none => exact inv
    | some rt =>
      unfold periodElapsed at elapsed
      split at elapsed
      · obtain ⟨out, updated, rfl⟩ := Option.map_eq_some_iff.mp elapsed
        exact inv.updateHwPtr0 updated
      · exact Option.some.inj elapsed ▸ inv
  · cases updated : s.rt.updateHwPtr cfg hz call.io.pointer call.io.jiffies with
    | none => exact inv
    | some out =>
      have kept : RingInv cfg out.2 := inv.updateHwPtr0 updated
      exact kept

end Device

/-- The pointer follows the device through every run of polls and interrupts exactly if every
    interrupt fits. -/
theorem trackedRun_iff {s : TrackedStream} {calls : List DeviceCall} (wakeups : cfg.noPeriodWakeup = false)
    (started : Started cfg hz s) (device : Throughout (trackedCall cfg hz) (fun s call _ => Device cfg hz s call) s calls) :
    Throughout (trackedCall cfg hz) (fun _ _ s' => s'.rt.hwPtr = s'.total % cfg.boundary) s calls ↔
      Throughout (trackedCall cfg hz) (fun s call _ => InterruptFits cfg s call) s calls := by
  refine throughout_iff (TrackInv cfg) _ _ ?_ ?_ started.inv device
  · intro s call inv device
    exact trackedCall_iff wakeups inv device
  · intro s call inv device fits
    exact ⟨trackedCall_ring inv.ring, (trackedCall_iff wakeups inv device).mpr fits⟩

section BeforeWrap

theorem interruptPtr_eq {newHwPtr : Nat} (ahead : rt.hwPtrInterrupt ≤ newHwPtr) (below : newHwPtr < cfg.boundary) :
    rt.interruptPtr cfg newHwPtr =
      rt.hwPtrInterrupt + (newHwPtr - rt.hwPtrInterrupt - (newHwPtr - rt.hwPtrInterrupt) % cfg.periodSize) := by
  have room := cfg.boundary_room
  have cast : ((newHwPtr - rt.hwPtrInterrupt : Nat) : Int) = newHwPtr - rt.hwPtrInterrupt := by omega
  have part := Nat.mod_le (newHwPtr - rt.hwPtrInterrupt) cfg.periodSize
  have way := slong_of_range (x := newHwPtr - rt.hwPtrInterrupt) (by omega) (by omega)
  have word : ulong ((newHwPtr : Int) - rt.hwPtrInterrupt) = newHwPtr - rt.hwPtrInterrupt := by
    have exact := ulong_of_range (x := newHwPtr - rt.hwPtrInterrupt) (by omega) (by omega)
    omega
  have forward : ¬ (newHwPtr : Int) - rt.hwPtrInterrupt < 0 := by omega
  unfold interruptPtr
  simp only [way, forward, if_false, word]
  rw [slong_of_range (by omega) (by omega)]
  have sum := ulong_of_range (x := rt.hwPtrInterrupt + ((newHwPtr : Int) - rt.hwPtrInterrupt -
    ((newHwPtr - rt.hwPtrInterrupt) % cfg.periodSize : Nat))) (by omega) (by omega)
  rw [if_neg (by omega)]
  omega

structure EarlyInv (cfg : PcmConfig) (s : TrackedStream) : Prop extends TrackInv cfg s where
  below : s.total < cfg.boundary
  aligned : cfg.periodSize ∣ s.rt.hwPtrInterrupt
  reported : s.rt.hwPtrInterrupt ≤ s.interruptTotal
  earlier : s.interruptTotal ≤ s.total

variable {s : TrackedStream} {call : DeviceCall}

theorem EarlyInv.fits (inv : EarlyInv cfg s) (device : Device cfg hz s call) (below : call.total < cfg.boundary) :
    InterruptFits cfg s call := by
  intro interrupt _ ahead
  left
  have place := ringBase_tracks inv.toTrackInv device
  rw [ringBase, if_neg (Nat.not_lt.mpr ahead), Nat.mod_eq_of_lt below] at place
  rw [place]
  obtain ⟨a, expected⟩ := inv.aligned
  have crossed := device.period interrupt
  have reported : a ≤ s.interruptTotal / cfg.periodSize := by
    rw [Nat.le_div_iff_mul_le cfg.period_pos, Nat.mul_comm, ← expected]
    exact inv.reported
  have next : a + 1 ≤ call.total / cfg.periodSize := by omega
  rw [Nat.le_div_iff_mul_le cfg.period_pos, Nat.mul_comm, Nat.mul_succ] at next
  rwa [expected]

theorem storeHwPtr_interrupt (cfg : PcmConfig) (rt : PcmRuntime) (inInterrupt : Bool) (hwBase newHwPtr jiffies : Nat) :
    (rt.storeHwPtr cfg inInterrupt hwBase newHwPtr jiffies).2.hwPtrInterrupt = rt.hwPtrInterrupt ∨
      inInterrupt = true ∧ (rt.storeHwPtr cfg inInterrupt hwBase newHwPtr jiffies).2.hwPtrInterrupt =
        rt.interruptPtr cfg newHwPtr := by
  unfold storeHwPtr
  split
  · exact Or.inl rfl
  · obtain ⟨next, same⟩ := updateState_eq cfg (rt.moved cfg inInterrupt hwBase newHwPtr jiffies)
    rw [same]
    cases inInterrupt with
    | false => exact Or.inl rfl
    | true => exact Or.inr ⟨rfl, rfl⟩

theorem EarlyInv.next (wakeups : cfg.noPeriodWakeup = false) (inv : EarlyInv cfg s) (device : Device cfg hz s call)
    (below : call.total < cfg.boundary) : EarlyInv cfg (trackedCall cfg hz s call) := by
  have fits := inv.fits device below
  have tracks := (trackedCall_iff wakeups inv.toTrackInv device).mpr fits
  have forward := device.forward
  have earlier := inv.earlier
  have reported := inv.reported
  have moves : (trackedCall cfg hz s call).rt.hwPtrInterrupt = s.rt.hwPtrInterrupt ∨
      call.interrupt = true ∧ (trackedCall cfg hz s call).rt.hwPtrInterrupt = s.rt.interruptPtr cfg call.total := by
    by_cases active : call.interrupt = true → s.rt.running cfg = true
    · have place := ringBase_tracks inv.toTrackInv device
      have single := (not_doubleCount_iff active).mpr fits
      rw [← device.seen] at place single
      have updated := updateHwPtr0_tracks hz inv.ring wakeups device.real single
      rw [trackedCall_updated active updated, place, Nat.mod_eq_of_lt below]
      exact storeHwPtr_interrupt cfg s.rt call.interrupt _ call.total call.io.jiffies
    · rw [Classical.not_imp, Bool.not_eq_true] at active
      left
      rw [trackedCall_ignored active.1 active.2]
  have interruptTotal : (trackedCall cfg hz s call).interruptTotal =
      if call.interrupt then call.total else s.interruptTotal := rfl
  refine ⟨⟨trackedCall_ring inv.ring, tracks⟩, below, ?_, ?_, ?_⟩
  · obtain same | ⟨-, moved⟩ := moves
    · rw [same]
      exact inv.aligned
    · rw [moved, interruptPtr_eq (by omega) below]
      exact Nat.dvd_add inv.aligned (Nat.dvd_sub_mod _)
  · rw [interruptTotal]
    obtain same | ⟨interrupt, moved⟩ := moves
    · rw [same]
      split <;> omega
    · rw [moved, interruptPtr_eq (by omega) below, if_pos interrupt]
      omega
  · rw [interruptTotal]
    have total : (trackedCall cfg hz s call).total = call.total := rfl
    rw [total]
    split <;> omega

theorem Started.early (started : Started cfg hz s) : EarlyInv cfg s := by
  have large := cfg.boundary_large
  have inv := started.inv
  obtain ⟨⟨rt, -, -, interrupt, -, same⟩, total, interruptTotal⟩ := started
  have zero : s.rt.hwPtrInterrupt = 0 := by
    rw [same]
    exact interrupt
  refine ⟨inv, ?_, ?_, ?_, ?_⟩
  · omega
  · rw [zero]
    exact Nat.dvd_zero _
  · omega
  · omega

theorem interruptFits_before_wrap {calls : List DeviceCall} (wakeups : cfg.noPeriodWakeup = false)
    (started : Started cfg hz s)
    (device : Throughout (trackedCall cfg hz) (fun s call _ => Device cfg hz s call ∧ call.total < cfg.boundary) s calls) :
    Throughout (trackedCall cfg hz) (fun s call _ => InterruptFits cfg s call) s calls := by
  have run := device.invariant (EarlyInv cfg) started.early fun s call inv holds => inv.next wakeups holds.1 holds.2
  exact run.mono fun s call s' holds => holds.2.1.fits holds.1.1 holds.1.2

end BeforeWrap

section Passes

variable {rt0 : PcmRuntime}

structure FreeRunning (cfg : PcmConfig) (rt : PcmRuntime) : Prop where
  wakeups : cfg.noPeriodWakeup = false
  unaligned : cfg.minAlign = 1
  ring : 1 < cfg.bufferSize
  endless : cfg.boundary ≤ cfg.stopThreshold
  state : rt.state = .running
  interrupt : rt.hwPtrInterrupt < cfg.boundary
  appl : rt.applPtr < cfg.boundary

/-- A running stream `pos` frames behind the start of the pass that `total` is in. -/
def runningAt (cfg : PcmConfig) (rt : PcmRuntime) (total pos : Nat) : PcmRuntime :=
  { rt with hwPtr := total % cfg.boundary + pos, hwPtrBase := total % cfg.boundary }

theorem isBase_mod {total : Nat} (aligned : cfg.bufferSize ∣ total) : IsBase cfg (total % cfg.boundary) := by
  have large := cfg.boundary_large
  exact ⟨(Nat.dvd_mod_iff cfg.boundary_dvd).mpr aligned, Nat.mod_lt _ (by omega)⟩

theorem nextBase_mod {total : Nat} (aligned : cfg.bufferSize ∣ total) :
    nextBase cfg (total % cfg.boundary) = (total + cfg.bufferSize) % cfg.boundary := by
  have isBase := isBase_mod aligned
  have room := isBase.room
  have positive := cfg.buffer_pos
  rw [nextBase_eq isBase.2, ← Nat.mod_add_mod total cfg.boundary cfg.bufferSize]
  unfold nextPass
  split
  · have full : total % cfg.boundary + cfg.bufferSize = cfg.boundary := by omega
    rw [full, Nat.mod_self]
  · exact (Nat.mod_eq_of_lt (by omega)).symm

theorem updateState_endless (free : FreeRunning cfg rt) (hw : rt.hwPtr < cfg.boundary) :
    rt.updateState cfg = (0, rt) := by
  obtain ⟨playback, capture⟩ := avail_lt hw free.appl
  have endless := free.endless
  have below : rt.avail cfg < cfg.boundary := by
    unfold PcmRuntime.avail
    split <;> assumption
  unfold updateState
  rw [free.state, if_neg (by decide), if_neg (by omega)]

theorem runningAt_inv (free : FreeRunning cfg rt0) {total pos : Nat} (aligned : cfg.bufferSize ∣ total)
    (inside : pos < cfg.bufferSize) : RingInv cfg (runningAt cfg rt0 total pos) := by
  refine ⟨isBase_mod aligned, ?_, ?_, free.interrupt, free.appl⟩
  · exact Nat.le_add_right _ _
  · exact Nat.add_lt_add_left inside _

theorem seenPos_unaligned (unaligned : cfg.minAlign = 1) {pointer : Nat} (inside : pointer < cfg.bufferSize) :
    seenPos cfg pointer = pointer := by
  simp only [seenPos, Nat.not_le.mpr inside, if_false, unaligned, Nat.mod_one, Nat.sub_zero]

theorem poll_runningAt (free : FreeRunning cfg rt0) {total pos pointer next : Nat} (aligned : cfg.bufferSize ∣ total)
    (inside : pos < cfg.bufferSize) (shown : pointer < cfg.bufferSize) (differs : pos ≠ pointer)
    (alignedNext : cfg.bufferSize ∣ next) (base : ringBase cfg (runningAt cfg rt0 total pos) pointer = next % cfg.boundary) :
    (runningAt cfg rt0 total pos).updateHwPtr cfg hz pointer rt0.hwPtrJiffies =
      some (0, runningAt cfg rt0 next pointer) := by
  have inv := runningAt_inv free aligned inside
  have later := runningAt_inv free alignedNext shown
  have small := cfg.buffer_lt
  have real : pointer ≠ SNDRV_PCM_POS_XRUN := by
    unfold SNDRV_PCM_POS_XRUN
    omega
  have single : ¬ DoubleCount cfg (runningAt cfg rt0 total pos) false (seenPos cfg pointer) rt0.hwPtrJiffies := by
    rintro ⟨on, -⟩
    cases on
  have updated := updateHwPtr0_tracks hz inv free.wakeups real single
  rw [seenPos_unaligned free.unaligned shown, base] at updated
  have moves : (runningAt cfg rt0 total pos).hwPtr ≠ next % cfg.boundary + pointer := by
    intro same
    obtain ⟨a, here⟩ := (isBase_mod aligned).1
    obtain ⟨b, there⟩ := (isBase_mod alignedNext).1
    have sum : total % cfg.boundary + pos = next % cfg.boundary + pointer := same
    rw [here, there] at sum
    have places := congrArg (· % cfg.bufferSize) sum
    simp only [Nat.mul_add_mod, Nat.mod_eq_of_lt inside, Nat.mod_eq_of_lt shown] at places
    exact differs places
  have freeNext : FreeRunning cfg (runningAt cfg rt0 next pointer) :=
    ⟨free.wakeups, free.unaligned, free.ring, free.endless, free.state, free.interrupt, free.appl⟩
  have stored : (runningAt cfg rt0 total pos).moved cfg false (next % cfg.boundary) (next % cfg.boundary + pointer)
      rt0.hwPtrJiffies = runningAt cfg rt0 next pointer := rfl
  rw [updateHwPtr, updated, storeHwPtr, if_neg moves, stored, updateState_endless freeNext later.hw]

theorem polls_runningAt (hz : Nat) (free : FreeRunning cfg rt0) {total : Nat} (aligned : cfg.bufferSize ∣ total) :
    (runningAt cfg rt0 total 0).updateHwPtr cfg hz 1 rt0.hwPtrJiffies = some (0, runningAt cfg rt0 total 1) ∧
      (runningAt cfg rt0 total 1).updateHwPtr cfg hz 0 rt0.hwPtrJiffies =
        some (0, runningAt cfg rt0 (total + cfg.bufferSize) 0) := by
  have ring := free.ring
  constructor
  · apply poll_runningAt free aligned (by omega) ring (by decide) aligned
    have ahead : ¬ total % cfg.boundary + 1 < total % cfg.boundary + 0 := by omega
    exact if_neg ahead
  · apply poll_runningAt free aligned ring (by omega) (by decide) (Nat.dvd_add aligned (Nat.dvd_refl _))
    have behind : total % cfg.boundary + 0 < total % cfg.boundary + 1 := by omega
    rw [ringBase, ← nextBase_mod aligned]
    exact if_pos behind

/-- The polls of `n` passes over the ring from `total` on, all in the same jiffy. -/
def passCalls (cfg : PcmConfig) (jiffies : Nat) : Nat → Nat → List DeviceCall
  | 0, _ => []
  | n + 1, total =>
    { interrupt := false, io := ⟨1, jiffies⟩, total := total + 1 } ::
      { interrupt := false, io := ⟨0, jiffies⟩, total := total + cfg.bufferSize } ::
        passCalls cfg jiffies n (total + cfg.bufferSize)

def streamAt (cfg : PcmConfig) (rt : PcmRuntime) (total pos : Nat) : TrackedStream where
  rt := runningAt cfg rt total pos
  total := total + pos
  jiffies := rt.hwPtrJiffies
  interruptTotal := 0

theorem passCalls_run (hz : Nat) (free : FreeRunning cfg rt0) (n : Nat) {total : Nat} (aligned : cfg.bufferSize ∣ total) :
    (passCalls cfg rt0.hwPtrJiffies n total).foldl (trackedCall cfg hz) (streamAt cfg rt0 total 0) =
        streamAt cfg rt0 (total + n * cfg.bufferSize) 0 ∧
      Throughout (trackedCall cfg hz) (fun s call _ => Device cfg hz s call) (streamAt cfg rt0 total 0)
        (passCalls cfg rt0.hwPtrJiffies n total) := by
  induction n generalizing total with
  | zero => simp [passCalls, Throughout]
  | succ n ih =>
    have ring := free.ring
    have state := free.state
    obtain ⟨first, second⟩ := polls_runningAt hz free aligned
    have place : total % cfg.bufferSize = 0 := Nat.mod_eq_zero_of_dvd aligned
    have running (total pos : Nat) : (runningAt cfg rt0 total pos).running cfg = true := by
      simp [PcmRuntime.running, runningAt, state]
    have middle : trackedCall cfg hz (streamAt cfg rt0 total 0)
        { interrupt := false, io := ⟨1, rt0.hwPtrJiffies⟩, total := total + 1 } = streamAt cfg rt0 total 1 := by
      simp [trackedCall, streamAt, first]
    have last : trackedCall cfg hz (streamAt cfg rt0 total 1)
        { interrupt := false, io := ⟨0, rt0.hwPtrJiffies⟩, total := total + cfg.bufferSize } =
          streamAt cfg rt0 (total + cfg.bufferSize) 0 := by
      simp [trackedCall, streamAt, second]
    obtain ⟨end', device⟩ := ih (Nat.dvd_add aligned (Nat.dvd_refl _))
    simp only [passCalls, List.foldl_cons, Throughout, middle, last]
    refine ⟨?_, ?_, ?_, device⟩
    · rw [end', Nat.succ_mul, Nat.add_assoc, Nat.add_comm cfg.bufferSize]
    · refine ⟨?_, ?_, ring, ?_, ?_, ?_, ?_⟩
      · simp [streamAt]
      · simpa [streamAt] using ring
      · rw [seenPos_unaligned free.unaligned ring, Nat.add_mod, place]
        simp [Nat.mod_eq_of_lt ring]
      · simp
      · simp [streamAt, Words.toUnsigned]
      · simp [streamAt, running]
    · refine ⟨?_, ?_, ?_, ?_, ?_, ?_, ?_⟩
      · simp [streamAt]
        omega
      · simp [streamAt]
      · dsimp only
        omega
      · rw [seenPos_unaligned free.unaligned (by dsimp only; omega)]
        simp [place]
      · simp
      · simp [streamAt, Words.toUnsigned]
      · simp [streamAt, running]

end Passes

section Example

def wrapConfig : PcmConfig where
  stream := .capture
  rate := 8000
  periodSize := 1024
  bufferSize := 1024
  minAlign := 1
  noPeriodWakeup := false
  infoPause := true
  startThreshold := 1
  stopThreshold := 2 ^ 63
  rate_pos := by decide
  period_pos := by decide
  buffer_pos := by decide
  align_pos := Nat.one_pos
  rate_lt := by decide
  period_lt := by decide
  buffer_lt := by decide

def startedRuntime : PcmRuntime :=
  { state := .prepared, suspendedState := .open, hwPtr := 0, hwPtrBase := 0, hwPtrInterrupt := 0, hwPtrJiffies := 0,
    hwPtrBufferJiffies := 0, applPtr := 0, availMin := 1024, twake := 0 : PcmRuntime }.postStart wrapConfig 1000 0
      .running

theorem startedRuntime_started : Started wrapConfig 1000 (streamAt wrapConfig startedRuntime 0 0) := by
  refine ⟨⟨_, ?_, ?_, ?_, ?_, rfl⟩, rfl, rfl⟩ <;> decide

theorem trackedRun_iff_halfway :
    Throughout (trackedCall wrapConfig 1000) (fun _ _ s' => s'.rt.hwPtr = s'.total % wrapConfig.boundary)
        (streamAt wrapConfig startedRuntime 0 0) [⟨false, ⟨512, 64⟩, 512⟩] ↔
      Throughout (trackedCall wrapConfig 1000) (fun s call _ => InterruptFits wrapConfig s call)
        (streamAt wrapConfig startedRuntime 0 0) [⟨false, ⟨512, 64⟩, 512⟩] :=
  trackedRun_iff rfl startedRuntime_started
    ⟨⟨by decide, by decide, by decide, by decide, by decide, by decide, by decide⟩, trivial⟩

theorem startedRuntime_free : FreeRunning wrapConfig startedRuntime := by
  refine ⟨rfl, rfl, ?_, ?_, rfl, ?_, ?_⟩ <;> decide

def wrapCalls : List DeviceCall :=
  passCalls wrapConfig 0 (2 ^ 52) 0 ++ [⟨true, ⟨528, 66⟩, 2 ^ 62 + 528⟩]

/-- The interrupt adds a buffer that the device has not played. -/
theorem interrupt_after_wrap :
    Started wrapConfig 1000 (streamAt wrapConfig startedRuntime 0 0) ∧
      Throughout (trackedCall wrapConfig 1000) (fun s call _ => Device wrapConfig 1000 s call)
        (streamAt wrapConfig startedRuntime 0 0) wrapCalls ∧
      ¬ Throughout (trackedCall wrapConfig 1000) (fun _ _ s' => s'.rt.hwPtr = s'.total % wrapConfig.boundary)
        (streamAt wrapConfig startedRuntime 0 0) wrapCalls := by
  obtain ⟨reached, device⟩ := passCalls_run 1000 startedRuntime_free (2 ^ 52) (Nat.dvd_zero _)
  have jiffies : startedRuntime.hwPtrJiffies = 0 := rfl
  have total : 0 + 2 ^ 52 * wrapConfig.bufferSize = 2 ^ 62 := by decide
  rw [jiffies] at reached device
  rw [total] at reached
  refine ⟨startedRuntime_started, ?_, ?_⟩
  · rw [wrapCalls, throughout_append, reached]
    exact ⟨device, ⟨by decide, by decide, by decide, by decide, by decide, by decide, by decide⟩, trivial⟩
  · rw [wrapCalls, throughout_append, reached]
    rintro ⟨-, tracks, -⟩
    exact absurd tracks (by decide)

end Example

end AlsaDriver.Pcm
