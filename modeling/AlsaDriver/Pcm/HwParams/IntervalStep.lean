import Mathlib.Order.Bounds.Basic
import AlsaDriver.Lib.Aligned
import AlsaDriver.Pcm.HwParams.IntervalMeet

namespace AlsaDriver.Pcm

open OpenBounds Aligned

def IsStep (i : SndInterval) (min step : UInt32) (n : Nat) : Prop := n ≡ min.toNat [MOD step.toNat] ∧ i.Contains n

/-- `snd_interval_step` leaves the interval between its first and its last step, and fails when there is none. -/
structure StepsExactly (i : SndInterval) (min step : UInt32) : Prop where
  found : (∃ n, IsStep i min step n) →
    0 ≤ (sndIntervalStep i min step).1 ∧ (∀ n, IsStep i min step n → (sndIntervalStep i min step).2.Contains n) ∧
      IsLeast {n | IsStep i min step n} (sndIntervalStep i min step).2.min.toNat ∧
      IsGreatest {n | IsStep i min step n} (sndIntervalStep i min step).2.max.toNat
  none : (¬ ∃ n, IsStep i min step n) → (sndIntervalStep i min step).1 = -EINVAL

def stepOffset (min bound : UInt32) : Int := if min.toNat ≤ bound.toNat then min.toNat else min.toNat - 2 ^ 32

theorem unsignedDifference (min bound : UInt32) : ((bound - min).toNat : Int) = bound.toNat - stepOffset min bound := by
  have less := min.toNat_lt
  have less' := bound.toNat_lt
  rw [UInt32.toNat_sub, stepOffset]
  split <;> omega

theorem stepRemainder (min step bound : UInt32) :
    (((bound - min) % step).toNat : Int) = (bound.toNat - stepOffset min bound) % step.toNat := by
  rw [UInt32.toNat_mod, ← unsignedDifference]
  rfl

section Ends

variable (i : SndInterval) (min step : UInt32)

theorem sndIntervalStepMin_eq (positive : 0 < step.toNat) : ∃ low : UInt32,
    (sndIntervalStepMin i min step).2 = { i with min := low } ∧
      (low.toNat : Int) = up i.openmin (stepOffset min i.min) step.toNat i.min.toNat % 2 ^ 32 := by
  have remainder := stepRemainder min step i.min
  have rest : ((i.min - min) % step).toNat < step.toNat := by
    rw [UInt32.toNat_mod]
    exact Nat.mod_lt _ positive
  have bound := i.min.toNat_lt
  unfold sndIntervalStepMin up
  dsimp only
  rw [← remainder]
  split
  · rename_i moves
    have moves : (((i.min - min) % step).toNat : Int) ≠ 0 ∨ i.openmin = true := by
      rw [Bool.or_eq_true, bne_iff_ne, ne_eq, ← UInt32.toNat_inj, UInt32.toNat_zero] at moves
      exact_mod_cast moves
    refine ⟨_, rfl, ?_⟩
    have gap : (step - (i.min - min) % step).toNat = step.toNat - ((i.min - min) % step).toNat :=
      UInt32.toNat_sub_of_le _ _ (UInt32.le_iff_toNat_le.mpr rest.le)
    rw [if_pos moves, UInt32.toNat_add, gap]
    omega
  · rename_i still
    have still : ¬ ((((i.min - min) % step).toNat : Int) ≠ 0 ∨ i.openmin = true) := by
      rw [Bool.or_eq_true, bne_iff_ne, ne_eq, ← UInt32.toNat_inj, UInt32.toNat_zero] at still
      exact_mod_cast still
    refine ⟨i.min, rfl, ?_⟩
    rw [if_neg still]
    omega

theorem sndIntervalStepMax_eq : ∃ high : UInt32,
    (sndIntervalStepMax i min step).2 = { i with max := high } ∧
      (high.toNat : Int) = down (stepOffset min i.max) step.toNat i.max.toNat % 2 ^ 32 := by
  have remainder := stepRemainder min step i.max
  have bound := i.max.toNat_lt
  have bound' := ((i.max - min) % step).toNat_lt
  unfold sndIntervalStepMax down
  dsimp only
  rw [← remainder]
  split
  · refine ⟨_, rfl, ?_⟩
    rw [UInt32.toNat_sub]
    omega
  · rename_i still
    have zero : ((i.max - min) % step).toNat = 0 := by
      rw [Bool.or_eq_true, not_or, bne_iff_ne, ne_eq, not_not, ← UInt32.toNat_inj] at still
      exact still.1
    refine ⟨i.max, rfl, ?_⟩
    rw [zero]
    omega

theorem sndIntervalStep_cases (positive : 0 < step.toNat) : ∃ low high : UInt32,
    (low.toNat : Int) = up i.openmin (stepOffset min i.min) step.toNat i.min.toNat % 2 ^ 32 ∧
      (high.toNat : Int) = down (stepOffset min i.max) step.toNat i.max.toNat % 2 ^ 32 ∧
      (sndIntervalStep i min step).2.min = low ∧ (sndIntervalStep i min step).2.max = high ∧
      (sndIntervalStep i min step).2.openmin = i.openmin ∧ (sndIntervalStep i min step).2.openmax = i.openmax ∧
      (sndIntervalStep i min step).2.integer = i.integer ∧
      (if sndIntervalCheckempty { i with min := low, max := high } then (sndIntervalStep i min step).1 = -EINVAL
        else 0 ≤ (sndIntervalStep i min step).1 ∧ (sndIntervalStep i min step).2.empty = i.empty) := by
  obtain ⟨low, same, value⟩ := sndIntervalStepMin_eq i min step positive
  obtain ⟨high, same', value'⟩ := sndIntervalStepMax_eq { i with min := low } min step
  refine ⟨low, high, value, value', ?_⟩
  unfold sndIntervalStep
  dsimp only
  rw [same, same']
  split
  · rename_i empty
    exact ⟨rfl, rfl, rfl, rfl, rfl, rfl⟩
  · rename_i full
    refine ⟨rfl, rfl, rfl, rfl, rfl, ?_, rfl⟩
    dsimp only
    split <;> decide

end Ends

def StepAligns (i : SndInterval) (min step : UInt32) : Prop := min.toNat ≤ i.min.toNat ∨ step.toNat ∣ 2 ^ 32

/-- No number that the interval admits is aligned the way the differences of the ends are: the
    first from the lower end on and the last up to the upper end have crossed. -/
def StepCrosses (i : SndInterval) (min step : UInt32) : Prop :=
  ∃ l u : Nat, l < 2 ^ 32 ∧
    IsLeast {n : Nat | AtLeast i.openmin i.min.toNat n ∧ (n : Int) ≡ stepOffset min i.min [ZMOD step.toNat]} l ∧
    IsGreatest {n : Nat | n ≤ i.max.toNat ∧ (n : Int) ≡ stepOffset min i.max [ZMOD step.toNat]} u ∧
    (u < l ∨ u = l ∧ (i.openmin = true ∨ i.openmax = true))

variable {i : SndInterval} {min step : UInt32} {n : Nat}

theorem stepOffset_modEq {bound : UInt32} (right : min.toNat ≤ bound.toNat ∨ step.toNat ∣ 2 ^ 32) :
    stepOffset min bound ≡ min.toNat [ZMOD step.toNat] := by
  unfold stepOffset
  split
  · rfl
  · rename_i after
    have divides : (step.toNat : Int) ∣ 2 ^ 32 := by exact_mod_cast right.resolve_left after
    refine Int.modEq_iff_dvd.mpr ?_
    rwa [sub_sub_cancel]

theorem step_dvd_of_modEq {bound : UInt32} (after : bound.toNat < min.toNat)
    (same : stepOffset min bound ≡ min.toNat [ZMOD step.toNat]) : step.toNat ∣ 2 ^ 32 := by
  have divides := Int.modEq_iff_dvd.mp same
  rw [stepOffset, if_neg (not_le.mpr after), sub_sub_cancel] at divides
  exact_mod_cast divides

theorem isStep_iff (nonempty : i.empty = false) : IsStep i min step n ↔
    (n : Int) ≡ min.toNat [ZMOD step.toNat] ∧ AtLeast i.openmin (i.min.toNat : Int) n ∧
      AtMost i.openmax (n : Int) i.max.toNat := by
  rw [Int.natCast_modEq_iff]
  constructor
  · rintro ⟨aligned, inside⟩
    have low := inside.low
    have high := inside.high
    unfold AtLeast AtMost at *
    exact ⟨aligned, by exact_mod_cast low, by exact_mod_cast high⟩
  · rintro ⟨aligned, low, high⟩
    unfold AtLeast AtMost at *
    exact ⟨aligned, ⟨by unfold AtLeast; exact_mod_cast low, by unfold AtMost; exact_mod_cast high,
      fun _ => ⟨n, (Int.cast_natCast n).symm⟩⟩, nonempty⟩

theorem stepsExactly_of_aligns (nonempty : i.empty = false) (positive : 0 < step.toNat)
    (closed : i.openmin = false) (closed' : i.openmax = false) (aligns : StepAligns i min step)
    (step' : IsStep i min step n) : StepsExactly i min step := by
  refine ⟨fun _ => ?_, fun none => absurd ⟨n, step'⟩ none⟩
  obtain ⟨low, high, lowEq, highEq, lowIs, highIs, openmin, openmax, integer, outcome⟩ :=
    sndIntervalStep_cases i min step positive
  have positive : (0 : Int) < step.toNat := by exact_mod_cast positive
  have top := i.max.toNat_lt
  have right : min.toNat ≤ i.max.toNat ∨ step.toNat ∣ 2 ^ 32 := by
    obtain ⟨-, low, high⟩ := (isStep_iff nonempty).mp step'
    have order := low.1.trans high.1
    exact aligns.imp_left fun below => by omega
  have least (k : Nat) (member : IsStep i min step k) : low.toNat ≤ k ∧ k ≤ high.toNat := by
    obtain ⟨aligned, above, below⟩ := (isStep_iff nonempty).mp member
    have first := up_le positive above (aligned.trans (stepOffset_modEq aligns).symm)
    have last := le_down positive below.1 (aligned.trans (stepOffset_modEq right).symm)
    have start := (atLeast_up i.openmin (stepOffset min i.min) i.min.toNat positive).1
    have stop := down_le (o := stepOffset min i.max) (b := i.max.toNat) positive
    have bound := below.1
    omega
  obtain ⟨aligned, above, below⟩ := (isStep_iff nonempty).mp step'
  have first := up_le positive above (aligned.trans (stepOffset_modEq aligns).symm)
  have last := le_down positive below.1 (aligned.trans (stepOffset_modEq right).symm)
  have start := atLeast_up i.openmin (stepOffset min i.min) i.min.toNat positive
  have stop := down_le (o := stepOffset min i.max) (b := i.max.toNat) positive
  have bound := below.1
  have lowEq : (low.toNat : Int) = up i.openmin (stepOffset min i.min) step.toNat i.min.toNat := by
    have lower := start.1
    omega
  have highEq : (high.toNat : Int) = down (stepOffset min i.max) step.toNat i.max.toNat := by omega
  have lowStep : IsStep i min step low.toNat := by
    refine (isStep_iff nonempty).mpr ⟨lowEq ▸ up_modEq.trans (stepOffset_modEq aligns), lowEq ▸ start, ?_⟩
    exact ⟨by omega, by simp [closed']⟩
  have highStep : IsStep i min step high.toNat := by
    refine (isStep_iff nonempty).mpr ⟨highEq ▸ down_modEq.trans (stepOffset_modEq right), ?_, ?_⟩
    · have lower := start.1
      exact ⟨by omega, by simp [closed]⟩
    · exact ⟨by omega, by simp [closed']⟩
  have full : sndIntervalCheckempty { i with min := low, max := high } = false := by
    rw [sndIntervalCheckempty_eq, decide_eq_false_iff_not, not_le]
    simp only [SndInterval.low, SndInterval.high, closed, closed', Bool.toNat_false, Bool.not_false, Bool.toNat_true]
    omega
  rw [full, if_neg Bool.false_ne_true] at outcome
  refine ⟨outcome.1, fun k member => ?_, ⟨lowIs ▸ lowStep, fun k member => ?_⟩, ⟨highIs ▸ highStep, fun k member => ?_⟩⟩
  · have between := least k member
    refine ⟨⟨?_, ?_, fun _ => ⟨k, (Int.cast_natCast k).symm⟩⟩, outcome.2.trans nonempty⟩
    · rw [lowIs, openmin, closed]
      exact ⟨by exact_mod_cast between.1, by simp⟩
    · rw [highIs, openmax, closed']
      exact ⟨by exact_mod_cast between.2, by simp⟩
  · rw [lowIs]
    exact (least k member).1
  · rw [highIs]
    exact (least k member).2

theorem stepAligns_of_found (nonempty : i.empty = false) (positive : 0 < step.toNat) (exactly : StepsExactly i min step)
    (step' : IsStep i min step n) : i.openmin = false ∧ i.openmax = false ∧ StepAligns i min step := by
  obtain ⟨low, high, lowEq, highEq, lowIs, highIs, openmin, openmax, -, -⟩ := sndIntervalStep_cases i min step positive
  obtain ⟨-, kept, least, greatest⟩ := exactly.found ⟨n, step'⟩
  have lowKept := (kept _ least.1).low
  have highKept := (kept _ greatest.1).high
  have closed : i.openmin = false := by
    rw [← openmin, ← Bool.not_eq_true]
    exact fun set => lt_irrefl _ (lowKept.2 set)
  have closed' : i.openmax = false := by
    rw [← openmax, ← Bool.not_eq_true]
    exact fun set => lt_irrefl _ (highKept.2 set)
  refine ⟨closed, closed', ?_⟩
  have positive : (0 : Int) < step.toNat := by exact_mod_cast positive
  obtain ⟨aligned, above, -⟩ := (isStep_iff nonempty).mp least.1
  rw [lowIs] at aligned above
  rcases Nat.lt_or_ge i.min.toNat min.toNat with after | before
  · refine Or.inr (step_dvd_of_modEq after ?_)
    have bound := up_le_add i.openmin (stepOffset min i.min) i.min.toNat positive
    have start := (atLeast_up i.openmin (stepOffset min i.min) i.min.toNat positive).1
    have range := step.toNat_lt
    have range' := i.min.toNat_lt
    have reached := above.1
    have same : (low.toNat : Int) = up i.openmin (stepOffset min i.min) step.toNat i.min.toNat := by omega
    exact (same ▸ up_modEq.symm : stepOffset min i.min ≡ (low.toNat : Int) [ZMOD step.toNat]).trans aligned
  · exact Or.inl before

theorem sndIntervalCheckempty_iff {j : SndInterval} : sndIntervalCheckempty j = true ↔
    j.max.toNat < j.min.toNat ∨ j.max.toNat = j.min.toNat ∧ (j.openmin = true ∨ j.openmax = true) := by
  rw [sndIntervalCheckempty_eq, decide_eq_true_eq, SndInterval.low, SndInterval.high]
  cases j.openmin <;> cases j.openmax <;> simp <;> omega

theorem sndIntervalStep_fails_iff {low high : UInt32}
    (outcome : if sndIntervalCheckempty { i with min := low, max := high } then (sndIntervalStep i min step).1 = -EINVAL
      else 0 ≤ (sndIntervalStep i min step).1 ∧ (sndIntervalStep i min step).2.empty = i.empty) :
    (sndIntervalStep i min step).1 = -EINVAL ↔
      high.toNat < low.toNat ∨ high.toNat = low.toNat ∧ (i.openmin = true ∨ i.openmax = true) := by
  have empty := sndIntervalCheckempty_iff (j := { i with min := low, max := high })
  dsimp only at empty
  rw [← empty]
  split at outcome
  · rename_i set
    exact ⟨fun _ => set, fun _ => outcome⟩
  · rename_i full
    refine ⟨fun failed => ?_, fun set => absurd set full⟩
    rw [failed] at outcome
    exact absurd outcome.1 EINVAL_failure

theorem stepEnds_fit (min : UInt32) (positive : 0 < step.toNat) (order : i.min.toNat ≤ i.max.toNat)
    (crossed : down (stepOffset min i.max) step.toNat i.max.toNat % 2 ^ 32 ≤
      up i.openmin (stepOffset min i.min) step.toNat i.min.toNat % 2 ^ 32) :
    up i.openmin (stepOffset min i.min) step.toNat i.min.toNat < 2 ^ 32 ∧
      0 ≤ down (stepOffset min i.max) step.toNat i.max.toNat := by
  have positive : (0 : Int) < step.toNat := by exact_mod_cast positive
  have range := step.toNat_lt
  have rangeMin := i.min.toNat_lt
  have rangeMax := i.max.toNat_lt
  have start := (atLeast_up i.openmin (stepOffset min i.min) i.min.toNat positive).1
  have startLe := up_le_add i.openmin (stepOffset min i.min) i.min.toNat positive
  have stop := down_le (o := stepOffset min i.max) (b := i.max.toNat) positive
  have stopLt := lt_down_add (o := stepOffset min i.max) (b := i.max.toNat) positive
  by_cases same : stepOffset min i.max = stepOffset min i.min
  · -- the two rounded ends are a multiple of the step apart
    rw [same] at stop stopLt crossed ⊢
    have next : up i.openmin (stepOffset min i.min) step.toNat i.min.toNat ≤
        down (stepOffset min i.min) step.toNat i.max.toNat + step.toNat :=
      up_le positive (AtLeast.of_lt (by omega)) (Int.add_modulus_modEq_iff.mpr down_modEq)
    have previous : up i.openmin (stepOffset min i.min) step.toNat i.min.toNat - step.toNat ≤
        down (stepOffset min i.min) step.toNat i.max.toNat :=
      le_down positive (by omega) (Int.sub_modulus_modEq_iff.mpr up_modEq)
    omega
  · have between : i.min.toNat < min.toNat ∧ min.toNat ≤ i.max.toNat := by
      unfold stepOffset at same
      split at same <;> split at same <;> omega
    have offset : (min.toNat : Int) ≤ down (stepOffset min i.max) step.toNat i.max.toNat := by
      refine le_down positive (by exact_mod_cast between.2) ?_
      rw [stepOffset, if_pos between.2]
    omega

theorem step_fails_iff_crosses (valid : sndIntervalCheckempty i = false)
    (positive : 0 < step.toNat) : (sndIntervalStep i min step).1 = -EINVAL ↔ StepCrosses i min step := by
  obtain ⟨low, high, lowEq, highEq, -, -, -, -, -, outcome⟩ := sndIntervalStep_cases i min step positive
  rw [sndIntervalStep_fails_iff outcome]
  have order : i.min.toNat ≤ i.max.toNat := by
    by_contra crossed
    exact Bool.false_ne_true (valid.symm.trans (sndIntervalCheckempty_iff.mpr (Or.inl (by omega))))
  have start := atLeast_up i.openmin (stepOffset min i.min) i.min.toNat
    (by exact_mod_cast positive : (0 : Int) < step.toNat)
  have stop := down_le (o := stepOffset min i.max) (b := i.max.toNat) (by exact_mod_cast positive : (0 : Int) < step.toNat)
  constructor
  · intro crossed
    obtain ⟨fits, fits'⟩ := stepEnds_fit min positive order (by omega)
    have positive : (0 : Int) < step.toNat := by exact_mod_cast positive
    have lower := start.1
    have range := i.max.toNat_lt
    have lowEq : (low.toNat : Int) = up i.openmin (stepOffset min i.min) step.toNat i.min.toNat := by omega
    have highEq : (high.toNat : Int) = down (stepOffset min i.max) step.toNat i.max.toNat := by omega
    rw [← lowEq] at start
    refine ⟨low.toNat, high.toNat, low.toNat_lt, ⟨⟨?_, lowEq ▸ up_modEq⟩, fun k member => ?_⟩,
      ⟨⟨by omega, highEq ▸ down_modEq⟩, fun k member => ?_⟩, crossed⟩
    · unfold AtLeast at start ⊢
      exact_mod_cast start
    · have above : AtLeast i.openmin (i.min.toNat : Int) k := by
        have above := member.1
        unfold AtLeast at above ⊢
        exact_mod_cast above
      have bound := up_le positive above member.2
      omega
    · have below : (k : Int) ≤ i.max.toNat := by exact_mod_cast member.1
      have bound := le_down positive below member.2
      omega
  · rintro ⟨l, u, fits, least, greatest, crossed⟩
    have positive : (0 : Int) < step.toNat := by exact_mod_cast positive
    have above : AtLeast i.openmin (i.min.toNat : Int) l := by
      have above := least.1.1
      unfold AtLeast at above ⊢
      exact_mod_cast above
    have lower := start.1
    have first : l = low.toNat := by
      have bound := up_le positive above least.1.2
      have lowEq : (low.toNat : Int) = up i.openmin (stepOffset min i.min) step.toNat i.min.toNat := by omega
      rw [← lowEq] at start
      have member : l ≤ low.toNat := by
        refine least.2 ⟨?_, lowEq ▸ up_modEq⟩
        unfold AtLeast at start ⊢
        exact_mod_cast start
      omega
    have last : u = high.toNat := by
      have below : (u : Int) ≤ i.max.toNat := by exact_mod_cast greatest.1.1
      have bound := le_down positive below greatest.1.2
      have range := i.max.toNat_lt
      have highEq : (high.toNat : Int) = down (stepOffset min i.max) step.toNat i.max.toNat := by omega
      have member : high.toNat ≤ u := greatest.2 ⟨by omega, highEq ▸ down_modEq⟩
      omega
    rwa [← first, ← last]

/-- Where the interval has a step, both ends must be included and be measured from the offset;
    where it has none, what the differences take for steps must leave it empty. -/
def StepFits (i : SndInterval) (min step : UInt32) : Prop :=
  (∀ n, IsStep i min step n → i.openmin = false ∧ i.openmax = false ∧ StepAligns i min step) ∧
    ((∀ n, ¬ IsStep i min step n) → StepCrosses i min step)

theorem stepsExactly_of_fits (nonempty : i.empty = false) (valid : sndIntervalCheckempty i = false)
    (positive : 0 < step.toNat) (fits : StepFits i min step) : StepsExactly i min step := by
  by_cases some : ∃ n, IsStep i min step n
  · obtain ⟨n, step'⟩ := some
    obtain ⟨closed, closed', aligns⟩ := fits.1 n step'
    exact stepsExactly_of_aligns nonempty positive closed closed' aligns step'
  · have failed := (step_fails_iff_crosses valid positive).mpr (fits.2 (not_exists.mp some))
    exact ⟨fun found => absurd found some, fun _ => failed⟩

theorem stepFits_of_exactly (nonempty : i.empty = false) (valid : sndIntervalCheckempty i = false)
    (positive : 0 < step.toNat) (exactly : StepsExactly i min step) : StepFits i min step := by
  refine ⟨fun n step' => stepAligns_of_found nonempty positive exactly step', fun none => ?_⟩
  exact (step_fails_iff_crosses valid positive).mp (exactly.none (not_exists.mpr none))

theorem sndIntervalStep_exact_iff (i : SndInterval) (min step : UInt32) (nonempty : i.empty = false)
    (valid : sndIntervalCheckempty i = false) (positive : 0 < step) : StepsExactly i min step ↔ StepFits i min step := by
  have positive : 0 < step.toNat := UInt32.lt_iff_toNat_lt.mp positive
  exact ⟨stepFits_of_exactly nonempty valid positive, stepsExactly_of_fits nonempty valid positive⟩

def threeToThirteen : SndInterval := { sndIntervalAny with min := 3, max := 13 }

theorem threeToThirteen_step : IsStep threeToThirteen 0 4 8 :=
  (isStep_iff rfl).mpr ⟨by decide, ⟨by decide, by decide⟩, ⟨by decide, by decide⟩⟩

theorem sndIntervalStep_exact_four : StepsExactly threeToThirteen 0 4 :=
  (sndIntervalStep_exact_iff threeToThirteen 0 4 rfl (by decide) (by decide)).mpr
    ⟨fun _ _ => ⟨rfl, rfl, Or.inl (by decide)⟩, fun none => absurd threeToThirteen_step (none 8)⟩

def upToFour : SndInterval := { sndIntervalAny with max := 4, openmin := true }

theorem upToFour_step : IsStep upToFour 0 4 4 :=
  (isStep_iff rfl).mpr ⟨by decide, ⟨by decide, by decide⟩, ⟨by decide, by decide⟩⟩

theorem upToFour_rejected : (sndIntervalStep upToFour 0 4).1 = -EINVAL ∧ ¬ StepsExactly upToFour 0 4 := by
  have failed : (sndIntervalStep upToFour 0 4).1 = -EINVAL := by decide
  refine ⟨failed, fun exactly => ?_⟩
  have kept := (exactly.found ⟨4, upToFour_step⟩).1
  rw [failed] at kept
  exact EINVAL_failure kept

end AlsaDriver.Pcm
