import Mathlib.Tactic.Linarith
import AlsaDriver.Pcm.HwParams.IntervalPoints
import AlsaDriver.Pcm.HwParams.IntervalShrink

namespace AlsaDriver.Pcm

open OpenBounds

/-- `snd_interval_refine` leaves the points that both intervals admit, fails when there are none
    and reports no change only when there is none. -/
structure RefinesExactly (i v : SndInterval) : Prop where
  points : ∀ x, (sndIntervalRefine i v).2.Contains x ↔ i.Covers x ∧ v.Covers x
  fails : (sndIntervalRefine i v).1 = -EINVAL ↔ ∀ x, ¬ (i.Covers x ∧ v.Covers x)
  unchanged : (sndIntervalRefine i v).1 = 0 → ∀ x, (sndIntervalRefine i v).2.Contains x ↔ i.Contains x

def SndInterval.ExcludesLast (i : SndInterval) : Prop :=
  (i.openmin = true ∧ i.min = UINT_MAX) ∨ (i.openmax = true ∧ i.max = 0)

instance (i : SndInterval) : Decidable i.ExcludesLast := inferInstanceAs (Decidable (_ ∨ _))

theorem le_UINT_MAX (a : UInt32) : a.toNat ≤ UINT_MAX.toNat := by
  have bound := a.toNat_lt
  rw [UINT_MAX_toNat]
  omega

theorem sndIntervalRefineMin_low_iff (i v : SndInterval) (x : ℚ) :
    AtLeast (sndIntervalRefineMin i v).2.openmin ((sndIntervalRefineMin i v).2.min.toNat : ℚ) x ↔
      AtLeast i.openmin (i.min.toNat : ℚ) x ∧ AtLeast v.openmin (v.min.toNat : ℚ) x := by
  unfold sndIntervalRefineMin
  split
  · rename_i below
    have less : (i.min.toNat : ℚ) < v.min.toNat := by exact_mod_cast UInt32.lt_iff_toNat_lt.mp below
    exact ⟨fun high => ⟨AtLeast.of_lt (less.trans_le high.1), high⟩, fun both => both.2⟩
  rename_i notBelow
  have order : (v.min.toNat : ℚ) ≤ i.min.toNat := by
    rw [UInt32.lt_iff_toNat_lt, not_lt] at notBelow
    exact_mod_cast notBelow
  split
  · rename_i same
    simp only [Bool.and_eq_true, Bool.not_eq_true', beq_iff_eq] at same
    obtain ⟨⟨equal, closed⟩, isOpen⟩ := same
    rw [equal, closed, isOpen]
    exact ⟨fun high => ⟨⟨high.1, by simp⟩, high⟩, fun both => both.2⟩
  · rename_i other
    refine ⟨fun low => ⟨low, order.trans low.1, fun isOpen => ?_⟩, fun both => both.1⟩
    rcases order.eq_or_lt with equal | less
    · have equal : i.min = v.min := UInt32.toNat_inj.mp (by exact_mod_cast equal.symm)
      simp only [equal, beq_self_eq_true, isOpen, Bool.true_and, Bool.and_true, Bool.not_eq_true', Bool.not_eq_false]
        at other
      rw [← equal]
      exact low.2 other
    · exact less.trans_le low.1

theorem sndIntervalRefineMax_high_iff (i v : SndInterval) (x : ℚ) :
    AtMost (sndIntervalRefineMax i v).2.openmax x ((sndIntervalRefineMax i v).2.max.toNat : ℚ) ↔
      AtMost i.openmax x (i.max.toNat : ℚ) ∧ AtMost v.openmax x (v.max.toNat : ℚ) := by
  unfold sndIntervalRefineMax
  split
  · rename_i above
    have less : (v.max.toNat : ℚ) < i.max.toNat := by exact_mod_cast UInt32.lt_iff_toNat_lt.mp above
    exact ⟨fun low => ⟨AtMost.of_lt (low.1.trans_lt less), low⟩, fun both => both.2⟩
  rename_i notAbove
  have order : (i.max.toNat : ℚ) ≤ v.max.toNat := by
    rw [gt_iff_lt, UInt32.lt_iff_toNat_lt, not_lt] at notAbove
    exact_mod_cast notAbove
  split
  · rename_i same
    simp only [Bool.and_eq_true, Bool.not_eq_true', beq_iff_eq] at same
    obtain ⟨⟨equal, closed⟩, isOpen⟩ := same
    rw [equal, closed, isOpen]
    exact ⟨fun low => ⟨⟨low.1, by simp⟩, low⟩, fun both => both.2⟩
  · rename_i other
    refine ⟨fun high => ⟨high, high.1.trans order, fun isOpen => ?_⟩, fun both => both.1⟩
    rcases order.eq_or_lt with equal | less
    · have equal : i.max = v.max := UInt32.toNat_inj.mp (by exact_mod_cast equal)
      simp only [equal, beq_self_eq_true, isOpen, Bool.true_and, Bool.and_true, Bool.not_eq_true', Bool.not_eq_false]
        at other
      rw [← equal]
      exact high.2 other
    · exact high.1.trans_lt less

theorem sndIntervalMeet_fields (i v : SndInterval) :
    (sndIntervalMeet i v).2 =
      { min := (sndIntervalRefineMin i v).2.min
        max := (sndIntervalRefineMax i v).2.max
        openmin := (sndIntervalRefineMin i v).2.openmin
        openmax := (sndIntervalRefineMax i v).2.openmax
        integer := i.integer || v.integer
        empty := i.empty } := by
  obtain ⟨min, max, openmin, openmax, integer, empty⟩ := i
  simp only [sndIntervalMeet, sndIntervalRefineMin, sndIntervalRefineMax, sndIntervalRefineInteger]
  cases integer <;> cases v.integer <;> split_ifs <;> simp_all

theorem sndIntervalMeet_covers_iff (i v : SndInterval) (x : ℚ) :
    (sndIntervalMeet i v).2.Covers x ↔ i.Covers x ∧ v.Covers x := by
  refine ⟨fun covers => ?_, fun both => sndIntervalMeet_covers both.1 both.2⟩
  have fields := sndIntervalMeet_fields i v
  have low := covers.low
  have high := covers.high
  have integral := covers.integral
  rw [fields] at low high integral
  obtain ⟨low, low'⟩ := (sndIntervalRefineMin_low_iff i v x).mp low
  obtain ⟨high, high'⟩ := (sndIntervalRefineMax_high_iff i v x).mp high
  exact ⟨⟨low, high, fun flag => integral (by simp [flag])⟩, ⟨low', high', fun flag => integral (by simp [flag])⟩⟩

theorem sndIntervalCloseMin_covers_iff {i : SndInterval} {x : ℚ} (integer : i.integer = true)
    (bound : i.openmin = true → i.min ≠ UINT_MAX) : (sndIntervalCloseMin i).Covers x ↔ i.Covers x := by
  refine ⟨fun covers => ?_, fun covers => sndIntervalCloseMin_covers covers integer⟩
  unfold sndIntervalCloseMin at covers
  split at covers
  · rename_i isOpen
    have next : (i.min + 1).toNat = i.min.toNat + 1 := by
      have other := bound isOpen
      have less := i.min.toNat_lt
      rw [ne_eq, ← UInt32.toNat_inj, UINT_MAX_toNat] at other
      rw [UInt32.toNat_add, UInt32.toNat_one]
      omega
    have low := covers.low.1
    rw [next] at low
    push_cast at low
    exact ⟨AtLeast.of_lt (by linarith), covers.high, covers.integral⟩
  · exact covers

theorem sndIntervalCloseMax_covers_iff {i : SndInterval} {x : ℚ} (integer : i.integer = true)
    (bound : i.openmax = true → i.max ≠ 0) : (sndIntervalCloseMax i).Covers x ↔ i.Covers x := by
  refine ⟨fun covers => ?_, fun covers => sndIntervalCloseMax_covers covers integer⟩
  unfold sndIntervalCloseMax at covers
  split at covers
  · rename_i isOpen
    have previous : (i.max - 1).toNat + 1 = i.max.toNat := by
      have positive := (ne_zero_iff_toNat _).mp (bound isOpen)
      have less := i.max.toNat_lt
      rw [UInt32.toNat_sub, UInt32.toNat_one]
      omega
    have high := covers.high.1
    have cast : (i.max.toNat : ℚ) = (i.max - 1).toNat + 1 := by exact_mod_cast previous.symm
    exact ⟨covers.low, AtMost.of_lt (by linarith), covers.integral⟩
  · exact covers

theorem sndIntervalCloseMin_high (i : SndInterval) :
    (sndIntervalCloseMin i).openmax = i.openmax ∧ (sndIntervalCloseMin i).max = i.max := by
  unfold sndIntervalCloseMin
  split <;> exact ⟨rfl, rfl⟩

theorem sndIntervalNormalise_covers_iff {i : SndInterval} {x : ℚ} (bounded : sndIntervalNormaliseWraps i = false) :
    (sndIntervalNormalise i).Covers x ↔ i.Covers x := by
  refine ⟨fun covers => ?_, sndIntervalNormalise_covers⟩
  unfold sndIntervalNormalise at covers
  split at covers
  · rename_i integer
    simp only [sndIntervalNormaliseWraps, integer, Bool.true_and, Bool.or_eq_false_iff,
      Bool.and_eq_false_imp, beq_eq_false_iff_ne] at bounded
    have kept : (sndIntervalCloseMin i).integer = true := by rwa [sndIntervalCloseMin_integer]
    obtain ⟨open', max'⟩ := sndIntervalCloseMin_high i
    refine (sndIntervalCloseMin_covers_iff integer bounded.1).mp ((sndIntervalCloseMax_covers_iff kept ?_).mp covers)
    rw [open', max']
    exact bounded.2
  split at covers
  · rename_i notInteger single
    exact ⟨covers.low, covers.high, fun flag => absurd flag notInteger⟩
  · exact covers

theorem sndIntervalCloseMin_openmin (i : SndInterval) : (sndIntervalCloseMin i).openmin = false := by
  unfold sndIntervalCloseMin
  split
  · rfl
  · rename_i closed
    simpa using closed

theorem sndIntervalCloseMax_ends (i : SndInterval) :
    (sndIntervalCloseMax i).openmin = i.openmin ∧ (sndIntervalCloseMax i).openmax = false := by
  unfold sndIntervalCloseMax
  split
  · exact ⟨rfl, rfl⟩
  · rename_i closed
    exact ⟨rfl, by simpa using closed⟩

theorem sndIntervalNormalise_closed {i : SndInterval} (integer : (sndIntervalNormalise i).integer = true) :
    (sndIntervalNormalise i).openmin = false ∧ (sndIntervalNormalise i).openmax = false := by
  by_cases flag : i.integer = true
  · rw [sndIntervalNormalise, if_pos flag]
    obtain ⟨low, high⟩ := sndIntervalCloseMax_ends (sndIntervalCloseMin i)
    exact ⟨low.trans (sndIntervalCloseMin_openmin i), high⟩
  · by_cases single : (!i.openmin && !i.openmax && i.min == i.max) = true
    · rw [sndIntervalNormalise, if_neg flag, if_pos single]
      simp only [Bool.and_eq_true, Bool.not_eq_true', beq_iff_eq] at single
      exact single.1
    · rw [sndIntervalNormalise, if_neg flag, if_neg single] at integer
      exact absurd integer flag

/-- An interval that normalisation has left and that is not empty has a point: its lower end when
    the ends are closed, and the middle otherwise. -/
theorem sndIntervalNormalise_inhabited {i : SndInterval}
    (nonempty : sndIntervalCheckempty (sndIntervalNormalise i) = false) : ∃ x, (sndIntervalNormalise i).Covers x := by
  have order : (sndIntervalNormalise i).low < (sndIntervalNormalise i).high := by
    rw [sndIntervalCheckempty_eq, decide_eq_false_iff_not] at nonempty
    omega
  unfold SndInterval.low SndInterval.high at order
  by_cases flag : (sndIntervalNormalise i).integer = true
  · have closed := sndIntervalNormalise_closed flag
    rw [closed.1, closed.2] at order
    refine ⟨((sndIntervalNormalise i).min.toNat : ℚ), ⟨le_refl _, ?_⟩, ⟨?_, ?_⟩, fun _ => ⟨_, Int.cast_natCast _ |>.symm⟩⟩
    · simp [closed.1]
    · exact_mod_cast (by simp at order; omega)
    · simp [closed.2]
  · have bits := Bool.toNat_le (!(sndIntervalNormalise i).openmax)
    rcases Nat.lt_or_ge (sndIntervalNormalise i).min.toNat (sndIntervalNormalise i).max.toNat with less | same
    · have less : ((sndIntervalNormalise i).min.toNat : ℚ) < (sndIntervalNormalise i).max.toNat := by exact_mod_cast less
      exact ⟨((sndIntervalNormalise i).min.toNat + (sndIntervalNormalise i).max.toNat) / 2,
        AtLeast.of_lt (by linarith), AtMost.of_lt (by linarith), fun set => absurd set flag⟩
    · have equal : (sndIntervalNormalise i).min.toNat = (sndIntervalNormalise i).max.toNat := by omega
      have closed : (sndIntervalNormalise i).openmin = false := by
        rw [← Bool.not_eq_true]
        intro isOpen
        rw [isOpen, Bool.toNat_true] at order
        omega
      have closed' : (sndIntervalNormalise i).openmax = false := by
        rw [← Bool.not_eq_true]
        intro isOpen
        rw [isOpen, Bool.not_true, Bool.toNat_false] at order
        omega
      refine ⟨((sndIntervalNormalise i).min.toNat : ℚ), ⟨le_refl _, ?_⟩, ⟨?_, ?_⟩, fun set => absurd set flag⟩
      · simp [closed]
      · exact_mod_cast equal.le
      · simp [closed']

section Refine

variable {i v : SndInterval}

theorem sndIntervalRefine_cases (nonempty : i.empty = false) :
    (sndIntervalCheckempty (sndIntervalNormalise (sndIntervalMeet i v).2) = true ∧
      (sndIntervalRefine i v).1 = -EINVAL ∧ (sndIntervalRefine i v).2.empty = true) ∨
    (sndIntervalCheckempty (sndIntervalNormalise (sndIntervalMeet i v).2) = false ∧
      (sndIntervalRefine i v).1 = (if (sndIntervalMeet i v).1 then 1 else 0) ∧
      (sndIntervalRefine i v).2 = sndIntervalNormalise (sndIntervalMeet i v).2) := by
  simp only [sndIntervalRefine, sndIntervalEmpty, nonempty, Bool.false_eq_true, if_false]
  split
  · rename_i empty
    exact Or.inl ⟨empty, rfl, rfl⟩
  · rename_i full
    exact Or.inr ⟨by simpa using full, rfl, rfl⟩

theorem sndIntervalMeet_unchanged (same : (sndIntervalMeet i v).1 = false) : (sndIntervalMeet i v).2 = i := by
  simp only [sndIntervalMeet, Bool.or_eq_false_iff] at same ⊢
  obtain ⟨⟨low, high⟩, flag⟩ := same
  have kept : (sndIntervalRefineMin i v).2 = i := by
    unfold sndIntervalRefineMin at low ⊢
    split_ifs at low ⊢
    rfl
  rw [kept] at high flag ⊢
  have kept : (sndIntervalRefineMax i v).2 = i := by
    unfold sndIntervalRefineMax at high ⊢
    split_ifs at high ⊢
    rfl
  rw [kept] at flag ⊢
  unfold sndIntervalRefineInteger at flag ⊢
  split_ifs at flag ⊢
  rfl

theorem refinesExactly_of_bounded (nonempty : i.empty = false) (bounded : sndIntervalRefineWraps i v = false) :
    RefinesExactly i v := by
  have covers (x : ℚ) : (sndIntervalNormalise (sndIntervalMeet i v).2).Covers x ↔ i.Covers x ∧ v.Covers x :=
    (sndIntervalNormalise_covers_iff bounded).trans (sndIntervalMeet_covers_iff i v x)
  have flag : (sndIntervalNormalise (sndIntervalMeet i v).2).empty = false := by
    rw [sndIntervalNormalise_empty, sndIntervalMeet_empty, nonempty]
  rcases sndIntervalRefine_cases (v := v) nonempty with ⟨empty, failed, none⟩ | ⟨full, result, same⟩
  · have nothing (x : ℚ) : ¬ (i.Covers x ∧ v.Covers x) := by
      intro both
      rw [sndIntervalCheckempty_of_covers ((covers x).mpr both)] at empty
      cases empty
    refine ⟨fun x => ⟨fun inside => ?_, fun both => absurd both (nothing x)⟩, ⟨fun _ => nothing, fun _ => failed⟩,
      fun zero => absurd (failed.symm.trans zero) (by decide)⟩
    rw [inside.nonempty] at none
    cases none
  · obtain ⟨x, inside⟩ := sndIntervalNormalise_inhabited full
    have points (y : ℚ) : (sndIntervalRefine i v).2.Contains y ↔ i.Covers y ∧ v.Covers y := by
      rw [same]
      exact ⟨fun there => (covers y).mp there.toCovers, fun both => ⟨(covers y).mpr both, flag⟩⟩
    refine ⟨points, ⟨fun failed => ?_, fun nothing => absurd ((covers x).mp inside) (nothing x)⟩, fun zero y => ?_⟩
    · rw [result] at failed
      split at failed <;> exact absurd failed (by decide)
    · have unchanged : (sndIntervalMeet i v).2 = i := by
        refine sndIntervalMeet_unchanged ?_
        by_contra changed
        rw [result, if_pos (by simpa using changed)] at zero
        exact absurd zero (by decide)
      have whole : (sndIntervalMeet i v).2.Covers y ↔ i.Covers y := by rw [unchanged]
      rw [points, ← sndIntervalMeet_covers_iff i v y, whole]
      exact ⟨fun there => ⟨there, nonempty⟩, fun there => there.toCovers⟩

theorem sndIntervalRefineMin_last (i v : SndInterval) :
    ((sndIntervalRefineMin i v).2.openmin = true ∧ (sndIntervalRefineMin i v).2.min = UINT_MAX) ↔
      (i.openmin = true ∧ i.min = UINT_MAX) ∨ (v.openmin = true ∧ v.min = UINT_MAX) := by
  have top := le_UINT_MAX i.min
  have top' := le_UINT_MAX v.min
  unfold sndIntervalRefineMin
  simp only [UInt32.lt_iff_toNat_lt, ← UInt32.toNat_inj]
  split
  · rename_i below
    exact ⟨fun last => Or.inr last, fun last => last.resolve_left fun first => by omega⟩
  split
  · rename_i same
    simp only [Bool.and_eq_true, Bool.not_eq_true', beq_iff_eq] at same
    obtain ⟨⟨equal, closed⟩, isOpen⟩ := same
    simp [equal, closed, isOpen]
  · rename_i notBelow other
    refine ⟨fun last => Or.inl last, fun last => last.elim id fun second => ?_⟩
    have equal : i.min = v.min := UInt32.toNat_inj.mp (by omega)
    simp only [equal, beq_self_eq_true, second.1, Bool.true_and, Bool.and_true, Bool.not_eq_true', Bool.not_eq_false]
      at other
    exact ⟨other, by rw [equal]; exact second.2⟩

theorem sndIntervalRefineMax_last (i v : SndInterval) :
    ((sndIntervalRefineMax i v).2.openmax = true ∧ (sndIntervalRefineMax i v).2.max = 0) ↔
      (i.openmax = true ∧ i.max = 0) ∨ (v.openmax = true ∧ v.max = 0) := by
  unfold sndIntervalRefineMax
  simp only [gt_iff_lt, UInt32.lt_iff_toNat_lt, ← UInt32.toNat_inj, UInt32.toNat_zero]
  split
  · rename_i above
    exact ⟨fun last => Or.inr last, fun last => last.resolve_left fun first => by omega⟩
  split
  · rename_i same
    simp only [Bool.and_eq_true, Bool.not_eq_true', beq_iff_eq] at same
    obtain ⟨⟨equal, closed⟩, isOpen⟩ := same
    simp [equal, closed, isOpen]
  · rename_i notAbove other
    refine ⟨fun last => Or.inl last, fun last => last.elim id fun second => ?_⟩
    have equal : i.max = v.max := UInt32.toNat_inj.mp (by omega)
    simp only [equal, beq_self_eq_true, second.1, Bool.true_and, Bool.and_true, Bool.not_eq_true', Bool.not_eq_false]
      at other
    exact ⟨other, by rw [equal]; exact second.2⟩

theorem sndIntervalRefineWraps_iff : sndIntervalRefineWraps i v = true ↔
    (i.integer = true ∨ v.integer = true) ∧ (i.ExcludesLast ∨ v.ExcludesLast) := by
  have low := sndIntervalRefineMin_last i v
  have high := sndIntervalRefineMax_last i v
  simp only [sndIntervalRefineWraps, sndIntervalNormaliseWraps, sndIntervalMeet_fields, Bool.and_eq_true,
    Bool.or_eq_true, beq_iff_eq, low, high, SndInterval.ExcludesLast]
  rw [or_or_or_comm]

theorem sndIntervalNormalise_wraps {i : SndInterval} (wraps : sndIntervalNormaliseWraps i = true) :
    sndIntervalCheckempty (sndIntervalNormalise i) = false := by
  obtain ⟨integer, ends⟩ := (Bool.and_eq_true _ _).mp wraps
  simp only [Bool.or_eq_true, Bool.and_eq_true, beq_iff_eq] at ends
  have normal : sndIntervalNormalise i = sndIntervalCloseMax (sndIntervalCloseMin i) := if_pos integer
  have flag : (sndIntervalNormalise i).integer = true := by
    rw [normal, sndIntervalCloseMax]
    split <;> exact (sndIntervalCloseMin_integer i).trans integer
  have closed := sndIntervalNormalise_closed flag
  obtain ⟨open', max'⟩ := sndIntervalCloseMin_high i
  rw [sndIntervalCheckempty_eq, decide_eq_false_iff_not, not_le, SndInterval.low, SndInterval.high, closed.1, closed.2]
  rcases ends with ⟨isOpen, last⟩ | ⟨isOpen, last⟩
  · have zero : (sndIntervalNormalise i).min.toNat = 0 := by
      rw [normal, sndIntervalCloseMax, sndIntervalCloseMin, if_pos isOpen, last]
      split <;> rfl
    simp [zero]
  · have top : (sndIntervalNormalise i).max.toNat = UINT_MAX.toNat := by
      rw [normal, sndIntervalCloseMax, open', if_pos isOpen, max', last]
      rfl
    have bound := le_UINT_MAX (sndIntervalNormalise i).min
    rw [top, Bool.toNat_false, Bool.not_false, Bool.toNat_true]
    omega

theorem not_refinesExactly_of_wraps (nonempty : i.empty = false) (wraps : sndIntervalRefineWraps i v = true) :
    ¬ RefinesExactly i v := by
  obtain ⟨integer, ends⟩ := (Bool.and_eq_true _ _).mp wraps
  simp only [Bool.or_eq_true, Bool.and_eq_true, beq_iff_eq] at ends
  have nothing (x : ℚ) : ¬ (i.Covers x ∧ v.Covers x) := by
    intro both
    have inside := (sndIntervalMeet_covers_iff i v x).mpr both
    rcases ends with ⟨isOpen, last⟩ | ⟨isOpen, last⟩
    · have above := inside.low.2 isOpen
      have below := inside.high.1
      have top : ((sndIntervalMeet i v).2.max.toNat : ℚ) ≤ UINT_MAX.toNat := by exact_mod_cast le_UINT_MAX _
      rw [last] at above
      linarith
    · have below := inside.high.2 isOpen
      have above := inside.low.1
      have bottom : (0 : ℚ) ≤ (sndIntervalMeet i v).2.min.toNat := Nat.cast_nonneg _
      rw [last, UInt32.toNat_zero, Nat.cast_zero] at below
      linarith
  intro refines
  have failed := refines.fails.mpr nothing
  rcases sndIntervalRefine_cases (v := v) nonempty with ⟨empty, -⟩ | ⟨-, result, -⟩
  · exact Bool.false_ne_true ((sndIntervalNormalise_wraps wraps).symm.trans empty)
  · rw [result] at failed
    split at failed <;> exact absurd failed (by decide)

end Refine

/-- A refinement is exact unless closing an end of an integer intersection would go past the last
    value. -/
theorem sndIntervalRefine_exact_iff (i v : SndInterval) (nonempty : i.empty = false) :
    RefinesExactly i v ↔ ¬ ((i.integer = true ∨ v.integer = true) ∧ (i.ExcludesLast ∨ v.ExcludesLast)) := by
  rw [← sndIntervalRefineWraps_iff]
  refine ⟨fun refines wraps => not_refinesExactly_of_wraps nonempty wraps refines, fun bounded => ?_⟩
  exact refinesExactly_of_bounded nonempty (Bool.eq_false_of_not_eq_true bounded)

def beyondLast : SndInterval where
  min := UINT_MAX
  max := UINT_MAX
  openmin := true
  openmax := false
  integer := true
  empty := false

theorem sndIntervalRefine_exact_rates :
    RefinesExactly { sndIntervalAny with max := 48000, openmax := true, integer := true }
      { sndIntervalAny with min := 8000, openmin := true } :=
  (sndIntervalRefine_exact_iff _ _ rfl).mpr (by decide)

theorem beyondLast_refined : (sndIntervalRefine beyondLast sndIntervalAny).1 = 0 ∧
    (sndIntervalRefine beyondLast sndIntervalAny).2 = { sndIntervalAny with integer := true } ∧
    ¬ RefinesExactly beyondLast sndIntervalAny :=
  ⟨by decide, by decide, not_refinesExactly_of_wraps rfl (by decide)⟩

end AlsaDriver.Pcm
