import Mathlib.Tactic.Set
import AlsaDriver.Lib.RingCounter
import AlsaDriver.Lib.Words
import AlsaDriver.Pcm.State

namespace AlsaDriver.Pcm

open Words

/-- `unsigned long`, `snd_pcm_uframes_t`. -/
abbrev ulong (x : Int) : Nat := toUnsigned 64 x

/-- `long`, `snd_pcm_sframes_t`. -/
abbrev slong (x : Int) : Int := toSigned 64 x

def LONG_MAX : Nat := 2 ^ 63 - 1

theorem slong_of_range {x : Int} (low : -2 ^ 63 ≤ x) (high : x < 2 ^ 63) : slong x = x := toSigned_of_range low high

theorem ulong_of_range {x : Int} (low : 0 ≤ x) (high : x < 2 ^ 64) : (ulong x : Int) = x := toUnsigned_of_range low high

theorem slong_of_high {x : Int} (low : 2 ^ 63 ≤ x) (high : x < 2 ^ 64) : slong x = x - 2 ^ 64 := by
  have shifted : slong x = slong (x - 2 ^ 64) := by
    have period : (x - 2 ^ 64).bmod (2 ^ 64) = x.bmod (2 ^ 64) := Int.sub_bmod_right x (2 ^ 64)
    exact period.symm
  rw [shifted, slong_of_range (by omega) (by omega)]

structure PcmConfig where
  stream : StreamDirection
  rate : Nat
  periodSize : Nat
  bufferSize : Nat
  minAlign : Nat
  noPeriodWakeup : Bool
  infoPause : Bool
  startThreshold : Nat
  stopThreshold : Nat
  rate_pos : 0 < rate
  period_pos : 0 < periodSize
  buffer_pos : 0 < bufferSize
  align_pos : 0 < minAlign
  rate_lt : rate < 2 ^ 32
  period_lt : periodSize < 2 ^ 32
  buffer_lt : bufferSize < 2 ^ 32

def boundaryLoop (bufferSize : Nat) : Nat → Nat → Nat
  | 0, boundary => boundary
  | fuel + 1, boundary =>
    if boundary * 2 ≤ LONG_MAX - bufferSize then boundaryLoop bufferSize fuel (boundary * 2) else boundary

namespace PcmConfig

variable (cfg : PcmConfig)

def boundary : Nat := boundaryLoop cfg.bufferSize 64 cfg.bufferSize

theorem boundaryLoop_spec {bufferSize : Nat} (positive : 0 < bufferSize) (fuel : Nat) {k : Nat}
    (enough : 64 ≤ k + fuel) (fits : bufferSize * 2 ^ k ≤ LONG_MAX - bufferSize) :
    ∃ n, boundaryLoop bufferSize fuel (bufferSize * 2 ^ k) = bufferSize * 2 ^ n ∧ k ≤ n ∧
      bufferSize * 2 ^ n ≤ LONG_MAX - bufferSize ∧ LONG_MAX - bufferSize < bufferSize * 2 ^ n * 2 := by
  induction fuel generalizing k with
  | zero =>
    have large : 2 ^ 64 ≤ 2 ^ k := Nat.pow_le_pow_right (by decide) (by omega)
    have above : 2 ^ k ≤ bufferSize * 2 ^ k := Nat.le_mul_of_pos_left _ positive
    unfold LONG_MAX at fits
    omega
  | succ fuel ih =>
    unfold boundaryLoop
    split
    · rename_i again
      have double : bufferSize * 2 ^ k * 2 = bufferSize * 2 ^ (k + 1) := by rw [Nat.pow_succ, Nat.mul_assoc]
      rw [double] at again ⊢
      obtain ⟨n, result, more, below, last⟩ := ih (k := k + 1) (by omega) again
      exact ⟨n, result, by omega, below, last⟩
    · exact ⟨k, rfl, Nat.le_refl k, fits, by omega⟩

theorem boundary_spec : ∃ n, cfg.boundary = cfg.bufferSize * 2 ^ n ∧
    cfg.boundary ≤ LONG_MAX - cfg.bufferSize ∧ LONG_MAX - cfg.bufferSize < cfg.boundary * 2 := by
  have positive := cfg.buffer_pos
  have small := cfg.buffer_lt
  have fits : cfg.bufferSize * 2 ^ 0 ≤ LONG_MAX - cfg.bufferSize := by
    unfold LONG_MAX
    omega
  obtain ⟨n, result, -, below, last⟩ := boundaryLoop_spec positive 64 (Nat.le_refl _) fits
  rw [Nat.pow_zero, Nat.mul_one] at result
  unfold boundary
  rw [result]
  exact ⟨n, rfl, below, last⟩

theorem boundary_dvd : cfg.bufferSize ∣ cfg.boundary := by
  obtain ⟨n, result, -⟩ := cfg.boundary_spec
  exact ⟨2 ^ n, result⟩

theorem boundary_room : cfg.boundary + cfg.bufferSize < 2 ^ 63 := by
  obtain ⟨n, -, below, -⟩ := cfg.boundary_spec
  have small := cfg.buffer_lt
  unfold LONG_MAX at below
  omega

theorem boundary_large : 2 ^ 61 < cfg.boundary := by
  obtain ⟨n, -, -, last⟩ := cfg.boundary_spec
  have small := cfg.buffer_lt
  unfold LONG_MAX at last
  omega

end PcmConfig

structure PcmRuntime where
  state : SndPcmState
  suspendedState : SndPcmState
  hwPtr : Nat
  hwPtrBase : Nat
  hwPtrInterrupt : Nat
  hwPtrJiffies : Nat
  hwPtrBufferJiffies : Nat
  applPtr : Nat
  availMin : Nat
  twake : Nat
  deriving DecidableEq, Repr

namespace PcmRuntime

variable (cfg : PcmConfig) (rt : PcmRuntime)

def playbackAvail : Nat :=
  let avail := slong (rt.hwPtr + cfg.bufferSize - rt.applPtr)
  let avail :=
    if avail < 0 then slong (avail + cfg.boundary)
    else if cfg.boundary ≤ ulong avail then slong (avail - cfg.boundary)
    else avail
  ulong avail

def captureAvail : Nat :=
  let avail := slong (rt.hwPtr - rt.applPtr)
  let avail := if avail < 0 then slong (avail + cfg.boundary) else avail
  ulong avail

def playbackHwAvail : Int := slong (cfg.bufferSize - rt.playbackAvail cfg)

def captureHwAvail : Int := slong (cfg.bufferSize - rt.captureAvail cfg)

def avail : Nat :=
  match cfg.stream with
  | .playback => rt.playbackAvail cfg
  | .capture => rt.captureAvail cfg

def running : Bool :=
  rt.state == .running || (rt.state == .draining && cfg.stream == .playback)

/-- `snd_pcm_stop` on an unlinked substream, whose trigger cannot fail. -/
def stop (state : SndPcmState) : PcmRuntime := if rt.state = .open then rt else { rt with state := state }

theorem stop_eq (state : SndPcmState) : ∃ next, rt.stop state = { rt with state := next } := by
  unfold stop
  split
  · exact ⟨rt.state, rfl⟩
  · exact ⟨state, rfl⟩

variable {cfg rt}

theorem playbackAvail_eq (hw : rt.hwPtr < cfg.boundary) (appl : rt.applPtr < cfg.boundary) :
    (rt.playbackAvail cfg : Int) = ((rt.hwPtr : Int) + cfg.bufferSize - rt.applPtr) % cfg.boundary := by
  have room := cfg.boundary_room
  have large := cfg.boundary_large
  have small := cfg.buffer_lt
  have first := slong_of_range (x := rt.hwPtr + cfg.bufferSize - rt.applPtr) (by omega) (by omega)
  unfold playbackAvail
  simp only [first]
  split
  · rw [slong_of_range (by omega) (by omega), ulong_of_range (by omega) (by omega), ← Int.add_emod_right,
      Int.emod_eq_of_lt (by omega) (by omega)]
  · have word := ulong_of_range (x := rt.hwPtr + cfg.bufferSize - rt.applPtr) (by omega) (by omega)
    split
    · rw [slong_of_range (by omega) (by omega), ulong_of_range (by omega) (by omega), ← Int.sub_emod_right,
        Int.emod_eq_of_lt (by omega) (by omega)]
    · rw [word, Int.emod_eq_of_lt (by omega) (by omega)]

theorem captureAvail_eq (hw : rt.hwPtr < cfg.boundary) (appl : rt.applPtr < cfg.boundary) :
    (rt.captureAvail cfg : Int) = ((rt.hwPtr : Int) - rt.applPtr) % cfg.boundary := by
  have room := cfg.boundary_room
  have first := slong_of_range (x := rt.hwPtr - rt.applPtr) (by omega) (by omega)
  unfold captureAvail
  simp only [first]
  split
  · rw [slong_of_range (by omega) (by omega), ulong_of_range (by omega) (by omega), ← Int.add_emod_right,
      Int.emod_eq_of_lt (by omega) (by omega)]
  · rw [ulong_of_range (by omega) (by omega), Int.emod_eq_of_lt (by omega) (by omega)]

theorem avail_lt (hw : rt.hwPtr < cfg.boundary) (appl : rt.applPtr < cfg.boundary) :
    rt.playbackAvail cfg < cfg.boundary ∧ rt.captureAvail cfg < cfg.boundary := by
  have large := cfg.boundary_large
  have playback := playbackAvail_eq hw appl
  have capture := captureAvail_eq hw appl
  have below (x : Int) := Int.emod_lt_of_pos x (b := cfg.boundary) (by omega)
  have first := below ((rt.hwPtr : Int) + cfg.bufferSize - rt.applPtr)
  have second := below ((rt.hwPtr : Int) - rt.applPtr)
  omega

end PcmRuntime

end AlsaDriver.Pcm
