import Mathlib.Tactic.SplitIfs
import AlsaDriver.Pcm.HwParams.Interval

namespace AlsaDriver.Pcm

def SndInterval.low (i : SndInterval) : Nat := 2 * i.min.toNat + i.openmin.toNat

def SndInterval.high (i : SndInterval) : Nat := 2 * i.max.toNat + (!i.openmax).toNat

/-- `j` lies within `i` as a record: no end has moved outwards and no integer flag was dropped. -/
structure SndInterval.Within (j i : SndInterval) : Prop where
  low : i.low ≤ j.low
  high : j.high ≤ i.high
  integer : i.integer = true → j.integer = true

/-- `j` lies within `i` and an end has moved inwards or the integer flag was gained. -/
structure SndInterval.Shrinks (j i : SndInterval) : Prop extends j.Within i where
  strict : i.low < j.low ∨ j.high < i.high ∨ (i.integer = false ∧ j.integer = true)

def SndInterval.width (i : SndInterval) : Nat := (i.high - i.low) + (!i.integer).toNat

theorem SndInterval.Within.refl (i : SndInterval) : i.Within i := ⟨le_rfl, le_rfl, id⟩

theorem SndInterval.Within.trans {i j k : SndInterval} (first : k.Within j) (second : j.Within i) : k.Within i :=
  ⟨second.low.trans first.low, first.high.trans second.high, fun flag => first.integer (second.integer flag)⟩

theorem SndInterval.Shrinks.of_within {i j k : SndInterval} (first : k.Within j) (second : j.Shrinks i) :
    k.Shrinks i := by
  refine ⟨first.trans second.toWithin, ?_⟩
  have low := first.low
  have high := first.high
  rcases second.strict with raised | lowered | ⟨gained, set⟩
  · exact Or.inl (by omega)
  · exact Or.inr (Or.inl (by omega))
  · exact Or.inr (Or.inr ⟨gained, first.integer set⟩)

theorem SndInterval.Within.shrinks {i j k : SndInterval} (first : k.Shrinks j) (second : j.Within i) :
    k.Shrinks i := by
  refine ⟨first.toWithin.trans second, ?_⟩
  have low := second.low
  have high := second.high
  rcases first.strict with raised | lowered | ⟨gained, set⟩
  · exact Or.inl (by omega)
  · exact Or.inr (Or.inl (by omega))
  · refine Or.inr (Or.inr ⟨?_, set⟩)
    cases flag : i.integer
    · rfl
    · exact absurd (second.integer flag) (by simp [gained])

theorem sndIntervalCheckempty_eq (i : SndInterval) : sndIntervalCheckempty i = decide (i.high ≤ i.low) := by
  obtain ⟨min, max, openmin, openmax, integer, empty⟩ := i
  rw [Bool.eq_iff_iff]
  simp only [sndIntervalCheckempty, SndInterval.high, SndInterval.low, gt_iff_lt, UInt32.lt_iff_toNat_lt,
    ← UInt32.toNat_inj, Bool.or_eq_true, Bool.and_eq_true, decide_eq_true_eq, beq_iff_eq]
  cases openmin <;> cases openmax <;> simp <;> omega

theorem SndInterval.Within.width_le {i j : SndInterval} (within : j.Within i) : j.width ≤ i.width := by
  have low := within.low
  have high := within.high
  have flag := within.integer
  unfold SndInterval.width
  cases old : i.integer <;> cases new : j.integer <;> simp_all <;> omega

theorem SndInterval.Shrinks.width_lt {i j : SndInterval} (shrinks : j.Shrinks i)
    (nonempty : sndIntervalCheckempty j = false) : j.width < i.width := by
  rw [sndIntervalCheckempty_eq, decide_eq_false_iff_not] at nonempty
  have low := shrinks.low
  have high := shrinks.high
  have flag := shrinks.integer
  have strict := shrinks.strict
  unfold SndInterval.width
  cases old : i.integer <;> cases new : j.integer <;> simp_all <;> omega

theorem sndIntervalRefineMin_shrinks (i v : SndInterval) :
    (sndIntervalRefineMin i v).2.Within i ∧
      ((sndIntervalRefineMin i v).1 = true → (sndIntervalRefineMin i v).2.Shrinks i) := by
  unfold sndIntervalRefineMin
  split
  · rename_i below
    rw [UInt32.lt_iff_toNat_lt] at below
    have raised : i.low < 2 * v.min.toNat + v.openmin.toNat := by
      have bit := Bool.toNat_le i.openmin
      unfold SndInterval.low
      omega
    exact ⟨⟨raised.le, le_rfl, id⟩, fun _ => ⟨⟨raised.le, le_rfl, id⟩, Or.inl raised⟩⟩
  split
  · rename_i same
    simp only [Bool.and_eq_true, Bool.not_eq_true'] at same
    have raised : i.low < 2 * i.min.toNat + true.toNat := by simp [SndInterval.low, same.1.2]
    exact ⟨⟨raised.le, le_rfl, id⟩, fun _ => ⟨⟨raised.le, le_rfl, id⟩, Or.inl raised⟩⟩
  · exact ⟨.refl i, by simp⟩

theorem sndIntervalRefineMax_shrinks (i v : SndInterval) :
    (sndIntervalRefineMax i v).2.Within i ∧
      ((sndIntervalRefineMax i v).1 = true → (sndIntervalRefineMax i v).2.Shrinks i) := by
  unfold sndIntervalRefineMax
  split
  · rename_i above
    rw [gt_iff_lt, UInt32.lt_iff_toNat_lt] at above
    have lowered : 2 * v.max.toNat + (!v.openmax).toNat < i.high := by
      have bit := Bool.toNat_le (!v.openmax)
      unfold SndInterval.high
      omega
    exact ⟨⟨le_rfl, lowered.le, id⟩, fun _ => ⟨⟨le_rfl, lowered.le, id⟩, Or.inr (Or.inl lowered)⟩⟩
  split
  · rename_i same
    simp only [Bool.and_eq_true, Bool.not_eq_true'] at same
    have lowered : 2 * i.max.toNat + (!true).toNat < i.high := by simp [SndInterval.high, same.1.2]
    exact ⟨⟨le_rfl, lowered.le, id⟩, fun _ => ⟨⟨le_rfl, lowered.le, id⟩, Or.inr (Or.inl lowered)⟩⟩
  · exact ⟨.refl i, by simp⟩

theorem sndIntervalRefineInteger_shrinks (i v : SndInterval) :
    (sndIntervalRefineInteger i v).2.Within i ∧
      ((sndIntervalRefineInteger i v).1 = true → (sndIntervalRefineInteger i v).2.Shrinks i) := by
  unfold sndIntervalRefineInteger
  split
  · rename_i flags
    simp only [Bool.and_eq_true, Bool.not_eq_true'] at flags
    exact ⟨⟨le_rfl, le_rfl, fun _ => rfl⟩,
      fun _ => ⟨⟨le_rfl, le_rfl, fun _ => rfl⟩, Or.inr (Or.inr ⟨flags.1, rfl⟩)⟩⟩
  · exact ⟨.refl i, by simp⟩

theorem sndIntervalMeet_shrinks (i v : SndInterval) :
    (sndIntervalMeet i v).2.Within i ∧
      ((sndIntervalMeet i v).1 = true → (sndIntervalMeet i v).2.Shrinks i) := by
  obtain ⟨low, lowChanged⟩ := sndIntervalRefineMin_shrinks i v
  obtain ⟨high, highChanged⟩ := sndIntervalRefineMax_shrinks (sndIntervalRefineMin i v).2 v
  obtain ⟨flag, flagChanged⟩ :=
    sndIntervalRefineInteger_shrinks (sndIntervalRefineMax (sndIntervalRefineMin i v).2 v).2 v
  refine ⟨flag.trans (high.trans low), fun changed => ?_⟩
  simp only [sndIntervalMeet, Bool.or_eq_true] at changed
  rcases changed with (first | second) | third
  · exact .of_within (flag.trans high) (lowChanged first)
  · exact .of_within flag (low.shrinks (highChanged second))
  · exact (high.trans low).shrinks (flagChanged third)

def sndIntervalNormaliseWraps (i : SndInterval) : Bool :=
  i.integer && ((i.openmin && i.min == UINT_MAX) || (i.openmax && i.max == 0))

theorem sndIntervalCloseMin_within (i : SndInterval) (bound : i.openmin = true → i.min ≠ UINT_MAX) :
    (sndIntervalCloseMin i).Within i := by
  unfold sndIntervalCloseMin
  split
  · rename_i isOpen
    have other := bound isOpen
    have less := i.min.toNat_lt
    rw [ne_eq, ← UInt32.toNat_inj, show UINT_MAX.toNat = 4294967295 from rfl] at other
    have next : (i.min + 1).toNat = i.min.toNat + 1 := by
      rw [UInt32.toNat_add, UInt32.toNat_one]
      omega
    refine ⟨?_, le_rfl, id⟩
    simp only [SndInterval.low, isOpen, next, Bool.toNat_true, Bool.toNat_false]
    omega
  · exact .refl i

theorem sndIntervalCloseMax_within (i : SndInterval) (bound : i.openmax = true → i.max ≠ 0) :
    (sndIntervalCloseMax i).Within i := by
  unfold sndIntervalCloseMax
  split
  · rename_i isOpen
    have other := bound isOpen
    have less := i.max.toNat_lt
    rw [ne_eq, ← UInt32.toNat_inj, UInt32.toNat_zero] at other
    have previous : (i.max - 1).toNat = i.max.toNat - 1 := by
      rw [UInt32.toNat_sub, UInt32.toNat_one]
      omega
    refine ⟨le_rfl, ?_, id⟩
    simp only [SndInterval.high, isOpen, previous, Bool.not_true, Bool.not_false, Bool.toNat_true,
      Bool.toNat_false]
    omega
  · exact .refl i

theorem sndIntervalNormalise_within (i : SndInterval) (bounded : sndIntervalNormaliseWraps i = false) :
    (sndIntervalNormalise i).Within i := by
  unfold sndIntervalNormalise
  split
  · rename_i integer
    simp only [sndIntervalNormaliseWraps, integer, Bool.true_and, Bool.or_eq_false_iff,
      Bool.and_eq_false_imp, beq_eq_false_iff_ne] at bounded
    have kept : (sndIntervalCloseMin i).openmax = i.openmax ∧ (sndIntervalCloseMin i).max = i.max := by
      unfold sndIntervalCloseMin
      split <;> exact ⟨rfl, rfl⟩
    refine (sndIntervalCloseMax_within _ ?_).trans (sndIntervalCloseMin_within i bounded.1)
    rw [kept.1, kept.2]
    exact bounded.2
  split
  · exact ⟨le_rfl, le_rfl, fun _ => rfl⟩
  · exact .refl i

def sndIntervalRefineWraps (i v : SndInterval) : Bool := sndIntervalNormaliseWraps (sndIntervalMeet i v).2

theorem sndIntervalRefine_shrinks (i v : SndInterval) (bounded : sndIntervalRefineWraps i v = false)
    (success : 0 ≤ (sndIntervalRefine i v).1) :
    (sndIntervalRefine i v).2.Within i ∧ sndIntervalCheckempty (sndIntervalRefine i v).2 = false ∧
      ((sndIntervalRefine i v).1 ≠ 0 → (sndIntervalRefine i v).2.Shrinks i) := by
  obtain ⟨within, shrinks⟩ := sndIntervalMeet_shrinks i v
  have closed := sndIntervalNormalise_within _ bounded
  unfold sndIntervalRefine at success ⊢
  split at success
  · exact absurd success EINVAL_failure
  rename_i nonempty
  rw [if_neg nonempty]
  dsimp only at success ⊢
  split at success
  · exact absurd success EINVAL_failure
  rename_i valid
  rw [if_neg valid]
  refine ⟨closed.trans within, by simpa using valid, fun changed => ?_⟩
  have flag : (sndIntervalMeet i v).1 = true := by
    by_contra unchanged
    simp [unchanged] at changed
  exact .of_within closed (shrinks flag)

/-- `snd_interval_step` moves the lower end past the last representable value. -/
def sndIntervalStepWraps (i : SndInterval) (step : UInt32) : Bool :=
  (i.min % step != 0 || i.openmin) && UINT_MAX - i.min < step - i.min % step

/-- `snd_interval_step` reports a change on an upper end that is excluded but already aligned,
    while the lower end stays where it is. -/
def sndIntervalStepStalls (i : SndInterval) (step : UInt32) : Bool :=
  i.min % step == 0 && !i.openmin && i.max % step == 0 && i.openmax

theorem sndIntervalStepMin_shrinks (i : SndInterval) (step : UInt32) (positive : 0 < step.toNat)
    (bounded : sndIntervalStepWraps i step = false) :
    (sndIntervalStepMin i 0 step).2.Within i ∧
      ((sndIntervalStepMin i 0 step).1 = true → (sndIntervalStepMin i 0 step).2.Shrinks i) := by
  simp only [sndIntervalStepMin, UInt32.sub_zero]
  split
  · rename_i moves
    have rest : (i.min % step).toNat < step.toNat := by
      rw [UInt32.toNat_mod]
      exact Nat.mod_lt _ positive
    have gap : (step - i.min % step).toNat = step.toNat - (i.min % step).toNat :=
      UInt32.toNat_sub_of_le _ _ (UInt32.le_iff_toNat_le.mpr rest.le)
    have less := i.min.toNat_lt
    have room : (UINT_MAX - i.min).toNat = UINT_MAX.toNat - i.min.toNat := by
      refine UInt32.toNat_sub_of_le _ _ (UInt32.le_iff_toNat_le.mpr ?_)
      rw [show UINT_MAX.toNat = 4294967295 from rfl]
      omega
    simp only [sndIntervalStepWraps, moves, Bool.true_and, decide_eq_false_iff_not, UInt32.lt_iff_toNat_lt,
      gap, room, show UINT_MAX.toNat = 4294967295 from rfl] at bounded
    have raised : i.low < 2 * (i.min + (step - i.min % step)).toNat + i.openmin.toNat := by
      rw [UInt32.toNat_add, gap]
      unfold SndInterval.low
      omega
    exact ⟨⟨raised.le, le_rfl, id⟩, fun _ => ⟨⟨raised.le, le_rfl, id⟩, Or.inl raised⟩⟩
  · exact ⟨.refl i, by simp⟩

theorem sndIntervalStepMax_shrinks (i : SndInterval) (step : UInt32) :
    (sndIntervalStepMax i 0 step).2.Within i ∧
      ((sndIntervalStepMax i 0 step).1 = true → i.max % step ≠ 0 → (sndIntervalStepMax i 0 step).2.Shrinks i) := by
  have rest : (i.max % step).toNat ≤ i.max.toNat := by
    rw [UInt32.toNat_mod]
    exact Nat.mod_le _ _
  have lowered : (i.max - i.max % step).toNat = i.max.toNat - (i.max % step).toNat :=
    UInt32.toNat_sub_of_le _ _ (UInt32.le_iff_toNat_le.mpr rest)
  simp only [sndIntervalStepMax, UInt32.sub_zero]
  split
  · have within : SndInterval.Within { i with max := i.max - i.max % step } i := by
      refine ⟨le_rfl, ?_, id⟩
      simp only [SndInterval.high, lowered]
      omega
    refine ⟨within, fun _ nonzero => ⟨within, Or.inr (Or.inl ?_)⟩⟩
    have positive : 0 < (i.max % step).toNat := (ne_zero_iff_toNat _).mp nonzero
    simp only [SndInterval.high, lowered]
    omega
  · exact ⟨.refl i, by simp⟩

theorem sndIntervalStep_shrinks (i : SndInterval) (step : UInt32) (positive : 0 < step.toNat)
    (bounded : sndIntervalStepWraps i step = false) (moving : sndIntervalStepStalls i step = false)
    (success : 0 ≤ (sndIntervalStep i 0 step).1) :
    (sndIntervalStep i 0 step).2.Within i ∧ sndIntervalCheckempty (sndIntervalStep i 0 step).2 = false ∧
      ((sndIntervalStep i 0 step).1 ≠ 0 → (sndIntervalStep i 0 step).2.Shrinks i) := by
  obtain ⟨low, lowChanged⟩ := sndIntervalStepMin_shrinks i step positive bounded
  obtain ⟨high, highChanged⟩ := sndIntervalStepMax_shrinks (sndIntervalStepMin i 0 step).2 step
  have shrinks : (sndIntervalStepMin i 0 step).1 = true ∨
      (sndIntervalStepMax (sndIntervalStepMin i 0 step).2 0 step).1 = true →
      (sndIntervalStepMax (sndIntervalStepMin i 0 step).2 0 step).2.Shrinks i := by
    rintro (first | second)
    · exact .of_within high (lowChanged first)
    · by_cases first : (sndIntervalStepMin i 0 step).1 = true
      · exact .of_within high (lowChanged first)
      · have still : (i.min % step != 0 || i.openmin) = false := by
          by_contra moves
          exact first (by simp [sndIntervalStepMin, eq_true_of_ne_false moves])
        have same : (sndIntervalStepMin i 0 step).2 = i := by simp [sndIntervalStepMin, still]
        rw [same] at second highChanged ⊢
        refine highChanged second fun zero => ?_
        simp only [Bool.or_eq_false_iff, bne_eq_false_iff_eq] at still
        have closed : i.openmax = false := by
          simpa [sndIntervalStepStalls, still.1, still.2, zero] using moving
        simp [sndIntervalStepMax, zero, closed] at second
  unfold sndIntervalStep at success ⊢
  dsimp only at success ⊢
  split at success
  · exact absurd success EINVAL_failure
  rename_i valid
  rw [if_neg valid]
  refine ⟨high.trans low, by simpa using valid, fun changed => shrinks ?_⟩
  by_contra unchanged
  rw [not_or, Bool.not_eq_true, Bool.not_eq_true] at unchanged
  simp [unchanged.1, unchanged.2] at changed

end AlsaDriver.Pcm
