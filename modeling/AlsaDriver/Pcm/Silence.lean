import Mathlib
import AlsaDriver.Lib.Ring
import AlsaDriver.Pcm.Runtime
import AlsaDriver.Lib.Runs

namespace AlsaDriver.Pcm

open Ring

/-- The `new_hw_ptr` of a call that does not follow the hardware pointer. -/
def ULONG_MAX : Nat := 2 ^ 64 - 1

universe u

variable {α : Type u}

/-- The silence fields of the runtime and the frames of the DMA buffer. `written` holds the frames as
    the application left them, `lag` counts those it is ahead of the hardware (negative behind an
    underrun), and `since` those it has passed since the last call. -/
structure SilenceStream (α : Type u) where
  rt : PcmRuntime
  silenceStart : Nat
  silenceFilled : Nat
  silenceThreshold : Nat
  silenceSize : Nat
  ring : Nat → α
  written : Nat → α
  lag : Int
  since : Nat

namespace SilenceStream

variable (cfg : PcmConfig) (silence : α) (s : SilenceStream α)

/-- The first part of `snd_pcm_playback_silence` in threshold mode: the start goes to the application pointer. -/
def alignSilence : SilenceStream α :=
  if s.silenceStart ≠ s.rt.applPtr then
    let n := slong ((s.rt.applPtr : Int) - s.silenceStart)
    let n := if n < 0 then slong (n + cfg.boundary) else n
    { s with
      silenceFilled := if ulong n < s.silenceFilled then ulong ((s.silenceFilled : Int) - ulong n) else 0
      silenceStart := s.rt.applPtr
      since := 0 }
  else { s with since := 0 }

def thresholdFrames : Nat :=
  if cfg.bufferSize ≤ s.silenceFilled then 0
  else
    let noiseDist := slong (s.rt.playbackHwAvail cfg + s.silenceFilled)
    if (s.silenceThreshold : Int) ≤ noiseDist then 0
    else
      let frames := ulong (s.silenceThreshold - noiseDist)
      if s.silenceSize < frames then s.silenceSize else frames

def followHw (newHwPtr : Nat) : SilenceStream α :=
  if newHwPtr = ULONG_MAX then
    let avail := s.rt.playbackHwAvail cfg
    let avail : Int := if cfg.bufferSize < ulong avail then cfg.bufferSize else avail
    let filled := if 0 < avail then ulong avail else 0
    { s with silenceFilled := filled, silenceStart := ulong (s.rt.hwPtr + filled) % cfg.boundary }
  else
    let ofs := s.rt.hwPtr
    let frames := ulong ((newHwPtr : Int) - ofs)
    let frames := if slong frames < 0 then ulong (frames + cfg.boundary) else frames
    let filled := ulong ((s.silenceFilled : Int) - frames)
    if slong filled < 0 then { s with silenceFilled := 0, silenceStart := newHwPtr }
    else { s with silenceFilled := filled, silenceStart := ofs }

def silenceLoop : Nat → Nat → Nat → SilenceStream α → SilenceStream α
  | 0, _, _, s => s
  | turns + 1, ofs, frames, s =>
    if frames = 0 then s
    else
      let transfer := if cfg.bufferSize < ofs + frames then cfg.bufferSize - ofs else frames
      silenceLoop turns 0 (frames - transfer)
        { s with
          ring := copyIn s.ring ofs (List.replicate transfer silence)
          silenceFilled := s.silenceFilled + transfer }

def fillSilence (frames : Nat) : SilenceStream α :=
  if cfg.bufferSize < frames then s
  else if frames = 0 then s
  else silenceLoop cfg silence frames (s.silenceStart % cfg.bufferSize) frames s

def playbackSilence (newHwPtr : Nat) : SilenceStream α :=
  if s.silenceSize < cfg.boundary then
    let s := s.alignSilence cfg
    s.fillSilence cfg silence (s.thresholdFrames cfg)
  else
    let s := s.followHw cfg newHwPtr
    s.fillSilence cfg silence (ulong ((cfg.bufferSize : Int) - s.silenceFilled))

def put (frame : Option α) : SilenceStream α :=
  let pos := s.rt.applPtr % cfg.bufferSize
  let value := frame.getD (s.ring pos)
  let applPtr := s.rt.applPtr + 1
  { s with
    rt := { s.rt with applPtr := if cfg.boundary ≤ applPtr then applPtr - cfg.boundary else applPtr }
    ring := Function.update s.ring pos value
    written := Function.update s.written pos value
    lag := s.lag + 1
    since := s.since + 1 }

def advance (data : List (Option α)) : SilenceStream α :=
  (data.take (s.rt.playbackAvail cfg)).foldl (put cfg) s

/-- The place of a hardware pointer that has come `frames` further. -/
def newHwPtr (frames : Nat) : Nat := (s.rt.hwPtr + frames) % cfg.boundary

/-- The end of `snd_pcm_update_hw_ptr0`. -/
def updateHwPtr (frames : Nat) : SilenceStream α :=
  let ptr := s.newHwPtr cfg frames
  if s.rt.hwPtr = ptr then { s with lag := s.lag - frames }
  else
    let s := if cfg.stream = .playback ∧ 0 < s.silenceSize then s.playbackSilence cfg silence ptr else s
    { s with rt := { s.rt with hwPtr := ptr }, lag := s.lag - frames }

/-- The checks of `snd_pcm_sw_params` on the silence parameters. -/
def swParamsValid (threshold size : Nat) : Bool :=
  if cfg.boundary ≤ size then threshold == 0 else decide (size ≤ threshold) && decide (threshold ≤ cfg.bufferSize)

def swParams (threshold size : Nat) : SilenceStream α :=
  if ¬ swParamsValid cfg threshold size then s
  else
    let s := { s with silenceThreshold := threshold, silenceSize := size }
    if s.rt.running cfg ∧ cfg.stream = .playback ∧ 0 < size then s.playbackSilence cfg silence ULONG_MAX else s

def doReset (hwPtr : Nat) : SilenceStream α :=
  let ptr := hwPtr % cfg.bufferSize
  { s with
    rt := { s.rt with hwPtr := ptr, applPtr := ptr }
    silenceStart := ptr
    silenceFilled := 0
    lag := 0
    since := 0 }

def reset (hwPtr : Nat) : SilenceStream α :=
  let s := s.doReset cfg hwPtr
  if cfg.stream = .playback ∧ 0 < s.silenceSize then s.playbackSilence cfg silence ULONG_MAX else s

end SilenceStream

inductive SilenceOp (α : Type u)
  | advance (data : List (Option α))
  | update (frames : Nat)
  | silence
  | swParams (threshold size : Nat)
  | reset (hwPtr : Nat)
  | become (state : SndPcmState)

namespace SilenceStream

variable (cfg : PcmConfig) (silence : α)

def exec (s : SilenceStream α) : SilenceOp α → SilenceStream α
  | .advance data => s.advance cfg data
  | .update frames => s.updateHwPtr cfg silence frames
  | .silence => s.playbackSilence cfg silence ULONG_MAX
  | .swParams threshold size => s.swParams cfg silence threshold size
  | .reset hwPtr => s.reset cfg silence hwPtr
  | .become state => { s with rt := { s.rt with state := state } }

end SilenceStream

end AlsaDriver.Pcm

namespace AlsaDriver.Pcm

open Ring Runs

universe u

variable {α : Type u}

namespace SilenceStream

variable (cfg : PcmConfig) (silence : α) (s : SilenceStream α)

def Silent : Prop :=
  ∀ j, s.since ≤ j → j < s.silenceFilled → s.ring ((s.silenceStart + j) % cfg.bufferSize) = silence

def Unspoiled : Prop :=
  ∀ j : Nat, (j : Int) < s.lag →
    s.ring ((s.rt.hwPtr + j) % cfg.bufferSize) = s.written ((s.rt.hwPtr + j) % cfg.bufferSize)

structure Inv : Prop where
  hw : s.rt.hwPtr < cfg.boundary
  appl : s.rt.applPtr < cfg.boundary
  start : s.silenceStart < cfg.boundary
  filled : s.silenceFilled ≤ cfg.bufferSize
  size : s.silenceSize ≤ s.silenceThreshold
  threshold : s.silenceThreshold ≤ cfg.bufferSize
  room : s.lag ≤ cfg.bufferSize
  ahead : ((s.rt.hwPtr : Int) + s.lag) % cfg.boundary = s.rt.applPtr
  passed : (s.silenceStart + s.since) % cfg.boundary = s.rt.applPtr
  silent : s.Silent cfg silence
  unspoiled : s.Unspoiled cfg

variable {cfg silence s}

theorem mod_boundary (n : Nat) : n % cfg.boundary % cfg.bufferSize = n % cfg.bufferSize :=
  Nat.mod_mod_of_dvd n cfg.boundary_dvd

theorem boundary_pos (cfg : PcmConfig) : 0 < cfg.boundary := by
  have large := cfg.boundary_large
  omega

theorem place_behind {a b : Nat} (same : a % cfg.boundary = b) (j : Nat) :
    (b + j) % cfg.bufferSize = (a + j) % cfg.bufferSize := by
  rw [← same, Nat.add_mod, mod_boundary, ← Nat.add_mod]

theorem place_ahead {hw appl : Nat} {lag : Int} (ahead : ((hw : Int) + lag) % cfg.boundary = appl) (forward : 0 ≤ lag) :
    (hw + lag.toNat) % cfg.boundary = appl := by
  have whole : (lag.toNat : Int) = lag := Int.toNat_of_nonneg forward
  apply Int.ofNat.inj
  show (((hw + lag.toNat) % cfg.boundary : Nat) : Int) = appl
  rw [Int.natCast_emod, Int.natCast_add, whole, ahead]

theorem Inv.avail (inv : s.Inv cfg silence) :
    (s.rt.playbackAvail cfg : Int) = ((cfg.bufferSize : Int) - s.lag) % cfg.boundary := by
  rw [PcmRuntime.playbackAvail_eq inv.hw inv.appl, ← inv.ahead, Int.sub_emod_emod]
  congr 1
  omega

theorem Inv.avail_le (inv : s.Inv cfg silence) : s.lag + s.rt.playbackAvail cfg ≤ cfg.bufferSize := by
  have room := inv.room
  obtain ⟨free, freed⟩ := Int.eq_ofNat_of_zero_le (show 0 ≤ (cfg.bufferSize : Int) - s.lag by omega)
  have avail := inv.avail
  rw [freed, ← Int.natCast_emod] at avail
  have below := Nat.mod_le free cfg.boundary
  omega

theorem Inv.hwAvail (inv : s.Inv cfg silence) :
    s.rt.playbackHwAvail cfg = (cfg.bufferSize : Int) - s.rt.playbackAvail cfg := by
  have low := (PcmRuntime.avail_lt inv.hw inv.appl).1
  have room := cfg.boundary_room
  exact slong_of_range (by omega) (by omega)

theorem Inv.lag_le_hwAvail (inv : s.Inv cfg silence) : s.lag ≤ s.rt.playbackHwAvail cfg := by
  have below := inv.avail_le
  have avail := inv.hwAvail
  omega

/-- What a fill of `frames` frames from `ofs` on does. -/
structure Fills (cfg : PcmConfig) (silence : α) (ofs frames : Nat) (s s' : SilenceStream α) : Prop where
  only : s' = { s with ring := s'.ring, silenceFilled := s.silenceFilled + frames }
  inside : ∀ i, i < frames → s'.ring ((ofs + i) % cfg.bufferSize) = silence
  outside : ∀ p, p < cfg.bufferSize → (∀ i, i < frames → (ofs + i) % cfg.bufferSize ≠ p) → s'.ring p = s.ring p

theorem silenceLoop_fills {turns ofs frames : Nat} (enough : frames ≤ turns) (begins : ofs < cfg.bufferSize)
    (fits : frames ≤ cfg.bufferSize) :
    Fills cfg silence ofs frames s (s.silenceLoop cfg silence turns ofs frames) := by
  induction turns generalizing s ofs frames with
  | zero =>
    obtain rfl := Nat.le_zero.mp enough
    exact ⟨rfl, fun i wrong => absurd wrong (Nat.not_lt_zero i), fun p below away => rfl⟩
  | succ turns ih =>
    unfold silenceLoop
    split
    · rename_i done
      subst done
      exact ⟨rfl, fun i wrong => absurd wrong (Nat.not_lt_zero i), fun p below away => rfl⟩
    rename_i some
    generalize sized : (if cfg.bufferSize < ofs + frames then cfg.bufferSize - ofs else frames) = transfer
    have bounds : 0 < transfer ∧ transfer ≤ frames ∧ ofs + transfer ≤ cfg.bufferSize ∧
        (transfer = frames ∨ ofs + transfer = cfg.bufferSize) := by
      rw [← sized]
      split <;> omega
    obtain ⟨positive, part, straight, last⟩ := bounds
    have rest := ih (s := { s with
        ring := copyIn s.ring ofs (List.replicate transfer silence), silenceFilled := s.silenceFilled + transfer })
      (show frames - transfer ≤ turns by omega) cfg.buffer_pos (by omega)
    -- behind the first piece the ring goes on at its start
    have around (i : Nat) (behind : transfer ≤ i) (below : i < frames) :
        (0 + (i - transfer)) % cfg.bufferSize = (ofs + i) % cfg.bufferSize := by
      have split : ofs + i = cfg.bufferSize + (0 + (i - transfer)) := by omega
      rw [split, Nat.add_mod_left]
    have direct (i : Nat) (below : i < transfer) : (ofs + i) % cfg.bufferSize = ofs + i := Nat.mod_eq_of_lt (by omega)
    refine ⟨?_, fun i below => ?_, fun p below away => ?_⟩
    · have total : s.silenceFilled + transfer + (frames - transfer) = s.silenceFilled + frames := by omega
      rw [rest.only]
      dsimp only
      rw [total]
    · by_cases first : i < transfer
      · by_cases again : ∃ k, k < frames - transfer ∧ (0 + k) % cfg.bufferSize = (ofs + i) % cfg.bufferSize
        · obtain ⟨k, small, same⟩ := again
          rw [← same]
          exact rest.inside k small
        · rw [rest.outside _ (Nat.mod_lt _ cfg.buffer_pos) fun k small same => again ⟨k, small, same⟩, direct i first]
          have placed : i < (List.replicate transfer silence).length := by rwa [List.length_replicate]
          exact (copyIn_inside placed).trans (List.getElem_replicate ..)
      · rw [← around i (by omega) below]
        exact rest.inside (i - transfer) (by omega)
    · rw [rest.outside p below fun k small => ?_]
      · by_cases before : p < ofs
        · exact copyIn_before before
        · apply copyIn_behind
          rw [List.length_replicate]
          by_contra touched
          have hit := away (p - ofs) (by omega)
          rw [direct _ (by omega)] at hit
          omega
      · have moved := around (k + transfer) (by omega) (by omega)
        rw [Nat.add_sub_cancel] at moved
        rw [moved]
        exact away (k + transfer) (by omega)

theorem place_differs {i j : Nat} (start : Nat) (before : i < j) (near : j < i + cfg.bufferSize) :
    (start + i) % cfg.bufferSize ≠ (start + j) % cfg.bufferSize := by
  intro same
  have divides : cfg.bufferSize ∣ start + j - (start + i) := (Nat.modEq_iff_dvd' (by omega)).mp same
  have short := Nat.le_of_dvd (by omega) divides
  omega

theorem wrap_applPtr {applPtr : Nat} (below : applPtr < cfg.boundary) :
    (if cfg.boundary ≤ applPtr + 1 then applPtr + 1 - cfg.boundary else applPtr + 1) = (applPtr + 1) % cfg.boundary := by
  split
  · rw [Nat.mod_eq_sub_mod (by omega), Nat.mod_eq_of_lt (by omega)]
  · rw [Nat.mod_eq_of_lt (by omega)]

theorem Inv.put (inv : s.Inv cfg silence) (free : s.lag + 1 ≤ cfg.bufferSize) (frame : Option α) :
    (s.put cfg frame).Inv cfg silence := by
  have positive := boundary_pos cfg
  unfold SilenceStream.put
  dsimp only
  rw [wrap_applPtr inv.appl]
  refine ⟨inv.hw, Nat.mod_lt _ positive, inv.start, inv.filled, inv.size, inv.threshold, free, ?_, ?_,
    fun j behind below => ?_, fun j pending => ?_⟩
  · have ahead := inv.ahead
    show ((s.rt.hwPtr : Int) + (s.lag + 1)) % cfg.boundary = (((s.rt.applPtr + 1) % cfg.boundary : Nat) : Int)
    rw [← Int.add_assoc, ← Int.emod_add_emod, ahead]
    rfl
  · show (s.silenceStart + (s.since + 1)) % cfg.boundary = (s.rt.applPtr + 1) % cfg.boundary
    rw [← Nat.add_assoc, ← Nat.mod_add_mod, inv.passed]
  · have filled := inv.filled
    have here : s.rt.applPtr % cfg.bufferSize = (s.silenceStart + s.since) % cfg.bufferSize := by
      rw [← inv.passed, mod_boundary]
    have after : s.since < j := behind
    have inside : j < s.silenceFilled := below
    have apart : (s.silenceStart + s.since) % cfg.bufferSize ≠ (s.silenceStart + j) % cfg.bufferSize :=
      place_differs s.silenceStart after (by omega)
    dsimp only
    rw [here, Function.update_of_ne apart.symm]
    exact inv.silent j (Nat.le_of_lt after) inside
  · dsimp only
    by_cases here : (s.rt.hwPtr + j) % cfg.bufferSize = s.rt.applPtr % cfg.bufferSize
    · rw [here, Function.update_self, Function.update_self]
    · rw [Function.update_of_ne here, Function.update_of_ne here]
      apply inv.unspoiled j
      by_contra behind
      have last : (j : Int) = s.lag := by
        have bound : (j : Int) < s.lag + 1 := pending
        omega
      have there := place_ahead inv.ahead (by omega)
      rw [← last, Int.toNat_natCast] at there
      exact here (by rw [← there, mod_boundary])

theorem Inv.puts {data : List (Option α)} (inv : s.Inv cfg silence) (free : s.lag + data.length ≤ cfg.bufferSize) :
    (data.foldl (SilenceStream.put cfg) s).Inv cfg silence := by
  induction data generalizing s with
  | nil => exact inv
  | cons frame rest ih =>
    have long : ((frame :: rest).length : Int) = rest.length + 1 := rfl
    have next : (s.put cfg frame).lag = s.lag + 1 := rfl
    exact ih (inv.put (by omega) frame) (by omega)

theorem Inv.advance (inv : s.Inv cfg silence) (data : List (Option α)) : (s.advance cfg data).Inv cfg silence := by
  have room := inv.avail_le
  apply inv.puts
  have short := List.length_take_le (s.rt.playbackAvail cfg) data
  omega

def Recent (cfg : PcmConfig) (s : SilenceStream α) : Prop := s.silenceFilled = 0 ∨ s.since < cfg.boundary

theorem Inv.alignSilence_eq (inv : s.Inv cfg silence) (recent : s.Recent cfg) :
    s.alignSilence cfg =
      { s with silenceFilled := s.silenceFilled - s.since, silenceStart := s.rt.applPtr, since := 0 } := by
  have room := cfg.boundary_room
  have small := cfg.buffer_lt
  have filled := inv.filled
  have start := inv.start
  have appl := inv.appl
  have passed := inv.passed
  have distance : s.since < cfg.boundary →
      s.silenceStart + s.since = s.rt.applPtr ∨ s.silenceStart + s.since = s.rt.applPtr + cfg.boundary := by
    intro near
    by_cases wraps : s.silenceStart + s.since < cfg.boundary
    · rw [Nat.mod_eq_of_lt wraps] at passed
      exact Or.inl passed
    · rw [Nat.mod_eq_sub_mod (by omega), Nat.mod_eq_of_lt (by omega)] at passed
      omega
  unfold alignSilence
  split
  · have first := slong_of_range (x := (s.rt.applPtr : Int) - s.silenceStart) (by omega) (by omega)
    dsimp only
    rw [first]
    generalize counted : (if (s.rt.applPtr : Int) - s.silenceStart < 0 then
      slong ((s.rt.applPtr : Int) - s.silenceStart + cfg.boundary) else (s.rt.applPtr : Int) - s.silenceStart) = n
    have bounds : 0 ≤ n ∧ n < cfg.boundary ∧ (s.since < cfg.boundary → n = s.since) := by
      rw [← counted]
      split
      · rw [slong_of_range (by omega) (by omega)]
        omega
      · omega
    obtain ⟨low, high, same⟩ := bounds
    have word := ulong_of_range low (by omega)
    have left : (if ulong n < s.silenceFilled then ulong ((s.silenceFilled : Int) - ulong n) else 0) =
        s.silenceFilled - s.since := by
      split
      · have some : s.since < cfg.boundary := by
          rcases recent with empty | near
          · omega
          · exact near
        have rest := ulong_of_range (x := (s.silenceFilled : Int) - ulong n) (by omega) (by omega)
        have equal := same some
        omega
      · rcases recent with empty | near
        · omega
        · have equal := same near
          omega
    rw [left]
  · rename_i there
    have there := Decidable.not_not.mp there
    have left : s.silenceFilled - s.since = s.silenceFilled := by
      rcases recent with empty | near
      · omega
      · have far := distance near
        omega
    rw [left, ← there]

theorem Inv.alignSilence (inv : s.Inv cfg silence) (recent : s.Recent cfg) : (s.alignSilence cfg).Inv cfg silence := by
  rw [inv.alignSilence_eq recent]
  refine ⟨inv.hw, inv.appl, inv.appl, Nat.le_trans (Nat.sub_le _ _) inv.filled, inv.size, inv.threshold, inv.room,
    inv.ahead, Nat.mod_eq_of_lt inv.appl, fun j _ below => ?_, inv.unspoiled⟩
  dsimp only at below ⊢
  have counted := inv.silent (s.since + j) (Nat.le_add_right ..) (by omega)
  rwa [← Nat.add_assoc, ← place_behind inv.passed j] at counted

theorem Inv.thresholdFrames_eq (inv : s.Inv cfg silence) :
    s.thresholdFrames cfg =
      if (cfg.bufferSize : Int) ≤ s.silenceFilled ∨ (s.silenceThreshold : Int) ≤ s.rt.playbackHwAvail cfg + s.silenceFilled then 0
      else min s.silenceSize (s.silenceThreshold - (s.rt.playbackHwAvail cfg + s.silenceFilled)).toNat := by
  have room := cfg.boundary_room
  have small := cfg.buffer_lt
  have filled := inv.filled
  have threshold := inv.threshold
  have avail := inv.hwAvail
  have low := (PcmRuntime.avail_lt inv.hw inv.appl).1
  have noise := slong_of_range (x := s.rt.playbackHwAvail cfg + s.silenceFilled) (by omega) (by omega)
  unfold thresholdFrames
  dsimp only
  rw [noise]
  split
  · rw [if_pos (Or.inl (by omega))]
  split
  · rename_i quiet
    rw [if_pos (Or.inr quiet)]
  · rename_i loud
    have word := ulong_of_range (x := s.silenceThreshold - (s.rt.playbackHwAvail cfg + s.silenceFilled)) (by omega) (by omega)
    have missing : ¬((cfg.bufferSize : Int) ≤ s.silenceFilled ∨
        (s.silenceThreshold : Int) ≤ s.rt.playbackHwAvail cfg + s.silenceFilled) := by omega
    rw [if_neg missing]
    split <;> omega

theorem Inv.thresholdFrames_le (inv : s.Inv cfg silence) :
    s.thresholdFrames cfg ≤ cfg.bufferSize ∧ s.lag + s.thresholdFrames cfg ≤ cfg.bufferSize := by
  have size := inv.size
  have threshold := inv.threshold
  have room := inv.room
  have behind := inv.lag_le_hwAvail
  rw [inv.thresholdFrames_eq]
  split <;> omega

theorem Inv.filled_unspoiled (inv : s.Inv cfg silence) {frames : Nat} {s' : SilenceStream α}
    (fills : Fills cfg silence (s.rt.applPtr % cfg.bufferSize) frames s s') (free : s.lag + frames ≤ cfg.bufferSize) :
    s'.Unspoiled cfg := by
  intro j pending
  have kept : s'.rt = s.rt ∧ s'.written = s.written ∧ s'.lag = s.lag := by
    rw [fills.only]
    exact ⟨rfl, rfl, rfl⟩
  obtain ⟨rt, written, lag⟩ := kept
  rw [lag] at pending
  rw [rt, written, fills.outside _ (Nat.mod_lt _ cfg.buffer_pos) fun i small same => ?_]
  · exact inv.unspoiled j pending
  · have there := place_ahead inv.ahead (by omega)
    rw [Nat.mod_add_mod, place_behind there, Nat.add_assoc] at same
    have apart : (s.rt.hwPtr + j) % cfg.bufferSize ≠ (s.rt.hwPtr + (s.lag.toNat + i)) % cfg.bufferSize :=
      place_differs s.rt.hwPtr (by omega) (by omega)
    exact apart same.symm

theorem Inv.fillSilence (inv : s.Inv cfg silence) (start : s.silenceStart = s.rt.applPtr)
    {frames : Nat} (fits : frames ≤ cfg.bufferSize) (free : s.lag + frames ≤ cfg.bufferSize)
    (clear : s.silenceFilled = 0 ∨ frames = 0) : (s.fillSilence cfg silence frames).Inv cfg silence := by
  unfold SilenceStream.fillSilence
  rw [if_neg (Nat.not_lt.mpr fits)]
  split
  · exact inv
  rename_i some
  have empty : s.silenceFilled = 0 := clear.resolve_right some
  have fills : Fills cfg silence (s.silenceStart % cfg.bufferSize) frames s
      (s.silenceLoop cfg silence frames (s.silenceStart % cfg.bufferSize) frames) :=
    silenceLoop_fills (Nat.le_refl _) (Nat.mod_lt _ cfg.buffer_pos) fits
  generalize s.silenceLoop cfg silence frames (s.silenceStart % cfg.bufferSize) frames = s' at fills ⊢
  have unspoiled := inv.filled_unspoiled (start ▸ fills) free
  have inside := fills.inside
  rw [fills.only] at unspoiled ⊢
  refine ⟨inv.hw, inv.appl, inv.start, ?_, inv.size, inv.threshold, inv.room, inv.ahead, inv.passed,
    fun j _ below => ?_, unspoiled⟩
  · show s.silenceFilled + frames ≤ cfg.bufferSize
    omega
  · dsimp only at below ⊢
    have here := inside j (by omega)
    rwa [Nat.mod_add_mod] at here

structure Spares (cfg : PcmConfig) (s : SilenceStream α) : Prop where
  recent : s.Recent cfg
  clear : s.silenceFilled ≤ s.since ∨ s.silenceSize = 0 ∨ s.since + cfg.bufferSize ≤ s.silenceFilled ∨
    (s.since : Int) + s.silenceThreshold ≤ s.rt.playbackHwAvail cfg + s.silenceFilled

theorem Inv.playbackSilence (inv : s.Inv cfg silence) (mode : s.silenceSize < cfg.boundary) (spares : s.Spares cfg)
    (newHwPtr : Nat) : (s.playbackSilence cfg silence newHwPtr).Inv cfg silence := by
  unfold SilenceStream.playbackSilence
  rw [if_pos mode]
  dsimp only
  have aligned := inv.alignSilence spares.recent
  obtain ⟨fits, free⟩ := aligned.thresholdFrames_le
  have frames := aligned.thresholdFrames_eq
  have clear := spares.clear
  rw [inv.alignSilence_eq spares.recent] at aligned fits free frames ⊢
  apply aligned.fillSilence rfl fits free
  rw [frames]
  dsimp only
  split
  · exact Or.inr rfl
  · omega

theorem Inv.withSwParams (inv : s.Inv cfg silence) {threshold size : Nat} (low : size ≤ threshold)
    (high : threshold ≤ cfg.bufferSize) :
    { s with silenceThreshold := threshold, silenceSize := size : SilenceStream α }.Inv cfg silence :=
  ⟨inv.hw, inv.appl, inv.start, inv.filled, low, high, inv.room, inv.ahead, inv.passed, inv.silent, inv.unspoiled⟩

theorem Inv.become (inv : s.Inv cfg silence) (state : SndPcmState) :
    { s with rt := { s.rt with state := state } : SilenceStream α }.Inv cfg silence :=
  ⟨inv.hw, inv.appl, inv.start, inv.filled, inv.size, inv.threshold, inv.room, inv.ahead, inv.passed, inv.silent,
    inv.unspoiled⟩

theorem Inv.moved (inv : s.Inv cfg silence) (frames : Nat) :
    { s with rt := { s.rt with hwPtr := s.newHwPtr cfg frames }, lag := s.lag - frames : SilenceStream α }.Inv cfg
      silence := by
  have room := inv.room
  refine ⟨Nat.mod_lt _ (boundary_pos cfg), inv.appl, inv.start, inv.filled, inv.size, inv.threshold, ?_, ?_, inv.passed,
    inv.silent, fun j pending => ?_⟩
  · show s.lag - frames ≤ cfg.bufferSize
    omega
  · show (((s.newHwPtr cfg frames : Nat) : Int) + (s.lag - frames)) % cfg.boundary = s.rt.applPtr
    rw [← inv.ahead, newHwPtr, Int.natCast_emod, Int.emod_add_emod, Int.natCast_add]
    congr 1
    omega
  · dsimp only at pending ⊢
    have later := inv.unspoiled (frames + j) (by omega)
    have place : (s.newHwPtr cfg frames + j) % cfg.bufferSize = (s.rt.hwPtr + (frames + j)) % cfg.bufferSize := by
      unfold newHwPtr
      rw [place_behind rfl, Nat.add_assoc]
    rw [place]
    exact later

theorem Inv.doReset (inv : s.Inv cfg silence) (hwPtr : Nat) : (s.doReset cfg hwPtr).Inv cfg silence := by
  have inside := Nat.mod_lt hwPtr cfg.buffer_pos
  have below : hwPtr % cfg.bufferSize < cfg.boundary :=
    Nat.lt_of_lt_of_le inside (Nat.le_of_dvd (boundary_pos cfg) cfg.boundary_dvd)
  refine ⟨below, below, below, Nat.zero_le _, inv.size, inv.threshold, Int.natCast_nonneg _, ?_, Nat.mod_eq_of_lt below,
    fun j _ wrong => absurd wrong (Nat.not_lt_zero j), fun j wrong => absurd wrong (Int.not_lt.mpr (Int.natCast_nonneg j))⟩
  show ((hwPtr % cfg.bufferSize : Nat) + (0 : Int)) % cfg.boundary = (hwPtr % cfg.bufferSize : Nat)
  rw [Int.add_zero, ← Int.natCast_emod, Nat.mod_eq_of_lt below]

theorem silenceLoop_frame (turns ofs frames : Nat) (s : SilenceStream α) :
    (s.silenceLoop cfg silence turns ofs frames).rt = s.rt ∧
      (s.silenceLoop cfg silence turns ofs frames).silenceSize = s.silenceSize := by
  induction turns generalizing ofs frames s with
  | zero => exact ⟨rfl, rfl⟩
  | succ turns ih =>
    unfold silenceLoop
    split
    · exact ⟨rfl, rfl⟩
    · exact ih _ _ _

theorem fillSilence_frame (cfg : PcmConfig) (silence : α) (frames : Nat) (s : SilenceStream α) :
    (s.fillSilence cfg silence frames).rt = s.rt ∧ (s.fillSilence cfg silence frames).silenceSize = s.silenceSize := by
  unfold SilenceStream.fillSilence
  split
  · exact ⟨rfl, rfl⟩
  split
  · exact ⟨rfl, rfl⟩
  · exact silenceLoop_frame _ _ _ s

theorem followHw_only (newHwPtr : Nat) (s : SilenceStream α) :
    ∃ start filled, s.followHw cfg newHwPtr = { s with silenceStart := start, silenceFilled := filled } := by
  unfold followHw
  split
  · exact ⟨_, _, rfl⟩
  · dsimp only
    generalize ulong ((s.silenceFilled : Int) - _) = filled
    split
    · exact ⟨_, _, rfl⟩
    · exact ⟨_, _, rfl⟩

theorem playbackSilence_frame (newHwPtr : Nat) :
    (s.playbackSilence cfg silence newHwPtr).rt = s.rt ∧
      (s.playbackSilence cfg silence newHwPtr).silenceSize = s.silenceSize := by
  have align : (s.alignSilence cfg).rt = s.rt ∧ (s.alignSilence cfg).silenceSize = s.silenceSize := by
    unfold SilenceStream.alignSilence
    split <;> exact ⟨rfl, rfl⟩
  have follow : (s.followHw cfg newHwPtr).rt = s.rt ∧ (s.followHw cfg newHwPtr).silenceSize = s.silenceSize := by
    obtain ⟨start, filled, same⟩ := followHw_only newHwPtr s
    rw [same]
    exact ⟨rfl, rfl⟩
  unfold SilenceStream.playbackSilence
  dsimp only
  split
  · obtain ⟨rt, size⟩ := fillSilence_frame cfg silence ((s.alignSilence cfg).thresholdFrames cfg)
      (s.alignSilence cfg)
    exact ⟨rt.trans align.1, size.trans align.2⟩
  · obtain ⟨rt, size⟩ := fillSilence_frame cfg silence
      (ulong ((cfg.bufferSize : Int) - (s.followHw cfg newHwPtr).silenceFilled)) (s.followHw cfg newHwPtr)
    exact ⟨rt.trans follow.1, size.trans follow.2⟩

/-- The state in which a step calls `snd_pcm_playback_silence`. -/
def entered (cfg : PcmConfig) (s : SilenceStream α) : SilenceOp α → Option (SilenceStream α)
  | .update frames => if s.rt.hwPtr ≠ s.newHwPtr cfg frames ∧ cfg.stream = .playback ∧ 0 < s.silenceSize then some s else none
  | .silence => some s
  | .swParams threshold size =>
    if swParamsValid cfg threshold size ∧ s.rt.running cfg ∧ cfg.stream = .playback ∧ 0 < size then
      some { s with silenceThreshold := threshold, silenceSize := size }
    else none
  | .reset hwPtr => if cfg.stream = .playback ∧ 0 < s.silenceSize then some (s.doReset cfg hwPtr) else none
  | _ => none

def Clear (cfg : PcmConfig) (s : SilenceStream α) (op : SilenceOp α) : Prop := ∀ c ∈ s.entered cfg op, c.Spares cfg

/-- The state behind `SNDRV_PCM_IOCTL_PREPARE`. -/
structure Prepared (cfg : PcmConfig) (s : SilenceStream α) : Prop where
  hw : s.rt.hwPtr < cfg.boundary
  appl : s.rt.applPtr = s.rt.hwPtr
  start : s.silenceStart = s.rt.hwPtr
  filled : s.silenceFilled = 0
  size : s.silenceSize ≤ s.silenceThreshold
  threshold : s.silenceThreshold ≤ cfg.bufferSize
  lag : s.lag = 0
  since : s.since = 0

theorem Prepared.inv (prepared : s.Prepared cfg) : s.Inv cfg silence := by
  have hw := prepared.hw
  have start := prepared.start
  have filled := prepared.filled
  have lag := prepared.lag
  refine ⟨hw, by rwa [prepared.appl], by rwa [start], by omega, prepared.size, prepared.threshold, by omega, ?_, ?_,
    fun j _ wrong => by omega, fun j wrong => by omega⟩
  · rw [lag, prepared.appl, Int.add_zero, ← Int.natCast_emod, Nat.mod_eq_of_lt hw]
  · rw [prepared.since, start, prepared.appl, Nat.add_zero, Nat.mod_eq_of_lt hw]

theorem Inv.size_lt (inv : s.Inv cfg silence) : s.silenceSize < cfg.boundary := by
  have size := inv.size
  have threshold := inv.threshold
  have large := cfg.boundary_large
  have small := cfg.buffer_lt
  omega

theorem Inv.exec (inv : s.Inv cfg silence) {op : SilenceOp α} (clear : s.Clear cfg op)
    (mode : (s.exec cfg silence op).silenceSize < cfg.boundary) : (s.exec cfg silence op).Inv cfg silence := by
  cases op with
  | advance data => exact inv.advance data
  | become state => exact inv.become state
  | silence => exact inv.playbackSilence inv.size_lt (clear s rfl) _
  | update frames =>
    show (s.updateHwPtr cfg silence frames).Inv cfg silence
    unfold updateHwPtr
    dsimp only
    split
    · rename_i same
      have moved := inv.moved frames
      rwa [← same] at moved
    rename_i moves
    split
    · rename_i calls
      have spares := clear s (Option.mem_def.mpr (if_pos ⟨moves, calls⟩))
      have moved := (inv.playbackSilence inv.size_lt spares (s.newHwPtr cfg frames)).moved frames
      have same : (s.playbackSilence cfg silence (s.newHwPtr cfg frames)).newHwPtr cfg frames = s.newHwPtr cfg frames := by
        unfold newHwPtr
        rw [(playbackSilence_frame _).1]
      rwa [same] at moved
    · exact inv.moved frames
  | swParams threshold size =>
    show (s.swParams cfg silence threshold size).Inv cfg silence
    change (s.swParams cfg silence threshold size).silenceSize < cfg.boundary at mode
    unfold SilenceStream.swParams at mode ⊢
    dsimp only at mode ⊢
    split
    · exact inv
    rename_i checked
    have checked := Decidable.not_not.mp checked
    rw [if_neg (not_not_intro checked)] at mode
    have bounds (threshold_mode : size < cfg.boundary) : size ≤ threshold ∧ threshold ≤ cfg.bufferSize := by
      unfold swParamsValid at checked
      rw [if_neg (Nat.not_le.mpr threshold_mode), Bool.and_eq_true, decide_eq_true_eq, decide_eq_true_eq] at checked
      exact checked
    split
    · rename_i calls
      rw [if_pos calls, (playbackSilence_frame _).2] at mode
      obtain ⟨low, high⟩ := bounds mode
      exact (inv.withSwParams low high).playbackSilence mode (clear _ (Option.mem_def.mpr (if_pos ⟨checked, calls⟩))) _
    · rename_i calls
      rw [if_neg calls] at mode
      obtain ⟨low, high⟩ := bounds mode
      exact inv.withSwParams low high
  | reset hwPtr =>
    show (s.reset cfg silence hwPtr).Inv cfg silence
    have reset := inv.doReset hwPtr
    unfold SilenceStream.reset
    dsimp only
    split
    · rename_i calls
      exact reset.playbackSilence reset.size_lt (clear _ (Option.mem_def.mpr (if_pos calls))) _
    · exact reset

instance instDecidableRecent : Decidable (s.Recent cfg) := inferInstanceAs (Decidable (_ ∨ _))

instance instDecidableSpares : Decidable (s.Spares cfg) :=
  decidable_of_iff (_ ∧ _) ⟨fun both => ⟨both.1, both.2⟩, fun spares => ⟨spares.recent, spares.clear⟩⟩

instance instDecidableClear (op : SilenceOp α) : Decidable (s.Clear cfg op) :=
  inferInstanceAs (Decidable (∀ c ∈ s.entered cfg op, c.Spares cfg))

theorem silence_bookkeeping (prepared : s.Prepared cfg) (ops : List (SilenceOp α))
    (run : Throughout (exec cfg silence) (fun s op s' => s'.silenceSize < cfg.boundary ∧ s.Clear cfg op) s ops) :
    Throughout (exec cfg silence) (fun _ _ s' => s'.Silent cfg silence ∧ s'.Unspoiled cfg) s ops :=
  run.steps (Inv cfg silence) prepared.inv fun s op inv step => by
    have next := inv.exec step.2 step.1
    exact ⟨⟨next.silent, next.unspoiled⟩, next⟩

end SilenceStream

section Example

open SilenceStream

theorem period_of_four : 0 < 4 := by decide

def eightFrames : PcmConfig where
  stream := .playback
  rate := 11025
  periodSize := 4
  bufferSize := 8
  minAlign := 1
  noPeriodWakeup := false
  infoPause := true
  startThreshold := 1
  stopThreshold := 8
  rate_pos := by decide
  period_pos := period_of_four
  buffer_pos := by decide
  align_pos := Nat.one_pos
  rate_lt := by decide
  period_lt := by decide
  buffer_lt := by decide

/-- A prepared stream whose buffer holds the noise `1`. -/
def noisyStream : SilenceStream Nat where
  rt :=
    { state := .prepared, suspendedState := .open, hwPtr := 0, hwPtrBase := 0, hwPtrInterrupt := 0, hwPtrJiffies := 0,
      hwPtrBufferJiffies := 0, applPtr := 0, availMin := 1, twake := 0 }
  silenceStart := 0
  silenceFilled := 0
  silenceThreshold := 8
  silenceSize := 8
  ring := fun _ => 1
  written := fun _ => 1
  lag := 0
  since := 0

theorem noisyStream_prepared : noisyStream.Prepared eightFrames := by
  refine ⟨?_, rfl, rfl, rfl, Nat.le_refl _, Nat.le_refl _, rfl, rfl⟩
  decide

/-- The application writes four frames, the hardware plays two of them, and then frames are missing
    behind those that are still silent. -/
def topUp : List (SilenceOp Nat) :=
  [.silence, .advance (List.replicate 4 (some 2)), .silence, .update 2, .silence]

/-- The last call counts six frames from place 4 as silent, of which place 0 holds what was played. -/
theorem played_counted_silent :
    noisyStream.Prepared eightFrames ∧
      Throughout (exec eightFrames 0) (fun _ _ s' => s'.silenceSize < eightFrames.boundary) noisyStream topUp ∧
      ¬ Throughout (exec eightFrames 0) (fun _ _ s' => s'.Silent eightFrames 0 ∧ s'.Unspoiled eightFrames)
        noisyStream topUp := by
  refine ⟨noisyStream_prepared, by decide, fun run => ?_⟩
  have silent := run.2.2.2.2.1.1 4
  revert silent
  decide

def catchUp : List (SilenceOp Nat) :=
  [.silence, .advance (List.replicate 4 (some 2)), .silence, .update 2, .advance (List.replicate 6 (some 3)), .update 8,
    .silence]

theorem silence_bookkeeping_catchUp :
    Throughout (exec eightFrames 0) (fun _ _ s' => s'.Silent eightFrames 0 ∧ s'.Unspoiled eightFrames)
      noisyStream catchUp :=
  silence_bookkeeping noisyStream_prepared catchUp (by decide)

end Example

end AlsaDriver.Pcm
