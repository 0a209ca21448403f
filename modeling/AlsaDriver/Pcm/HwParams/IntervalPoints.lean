import Mathlib.Algebra.Order.Field.Rat
import Mathlib.Tactic.Ring
import AlsaDriver.Lib.OpenBounds
import AlsaDriver.Pcm.HwParams.Interval

namespace AlsaDriver.Pcm

open OpenBounds

/-- The end points and the integer flag of `i` admit `x`, whatever its `empty` flag says. -/
structure SndInterval.Covers (i : SndInterval) (x : ℚ) : Prop where
  low : AtLeast i.openmin (i.min.toNat : ℚ) x
  high : AtMost i.openmax x (i.max.toNat : ℚ)
  integral : i.integer = true → ∃ n : ℤ, x = n

structure SndInterval.Contains (i : SndInterval) (x : ℚ) : Prop extends i.Covers x where
  nonempty : i.empty = false

@[simp] theorem sndIntervalMeet_empty (i v : SndInterval) : (sndIntervalMeet i v).2.empty = i.empty := by
  have low : (sndIntervalRefineMin i v).2.empty = i.empty := by
    unfold sndIntervalRefineMin
    split_ifs <;> rfl
  have high (j : SndInterval) : (sndIntervalRefineMax j v).2.empty = j.empty := by
    unfold sndIntervalRefineMax
    split_ifs <;> rfl
  have integer (j : SndInterval) : (sndIntervalRefineInteger j v).2.empty = j.empty := by
    unfold sndIntervalRefineInteger
    split_ifs <;> rfl
  exact (integer _).trans ((high _).trans low)

@[simp] theorem sndIntervalCloseMin_integer (i : SndInterval) :
    (sndIntervalCloseMin i).integer = i.integer := by
  unfold sndIntervalCloseMin
  split <;> rfl

@[simp] theorem sndIntervalNormalise_empty (i : SndInterval) : (sndIntervalNormalise i).empty = i.empty := by
  unfold sndIntervalNormalise sndIntervalCloseMax sndIntervalCloseMin
  split_ifs <;> rfl

theorem UINT_MAX_toNat : UINT_MAX.toNat = 4294967295 := rfl

theorem mul_toNat (a b : UInt32) : (mul a b).toNat = min (a.toNat * b.toNat) UINT_MAX.toNat := by
  unfold mul divDown
  by_cases zero : a = 0
  · simp [zero]
  · have positive := (ne_zero_iff_toNat a).mp zero
    have overflow : UINT_MAX / a < b ↔ UINT_MAX.toNat < a.toNat * b.toNat := by
      rw [UInt32.lt_iff_toNat_lt, UInt32.toNat_div, Nat.div_lt_iff_lt_mul positive, mul_comm]
    simp only [beq_iff_eq, zero, if_false, overflow]
    split
    · omega
    · rename_i bound
      rw [UInt32.toNat_mul, Nat.min_eq_left (by omega), Nat.mod_eq_of_lt]
      rw [UINT_MAX_toNat] at bound
      omega

theorem product_toNat (a b : UInt32) : (a.toUInt64 * b.toUInt64).toNat = a.toNat * b.toNat := by
  rw [UInt64.toNat_mul, UInt32.toNat_toUInt64, UInt32.toNat_toUInt64, Nat.mod_eq_of_lt]
  calc a.toNat * b.toNat < 2 ^ 32 * 2 ^ 32 := Nat.mul_lt_mul_of_lt_of_lt a.toNat_lt b.toNat_lt
    _ = 2 ^ 64 := by norm_num

theorem muldiv32_cases (a b c : UInt32) (divisor : c ≠ 0) :
    (UINT_MAX.toNat ≤ a.toNat * b.toNat / c.toNat ∧ muldiv32 a b c = (UINT_MAX, 0)) ∨
    (a.toNat * b.toNat / c.toNat < UINT_MAX.toNat ∧
      (muldiv32 a b c).1.toNat = a.toNat * b.toNat / c.toNat ∧
      (muldiv32 a b c).2.toNat = a.toNat * b.toNat % c.toNat) := by
  have saturated : a.toUInt64 * b.toUInt64 / c.toUInt64 ≥ UINT_MAX.toUInt64 ↔
      UINT_MAX.toNat ≤ a.toNat * b.toNat / c.toNat := by
    rw [ge_iff_le, UInt64.le_iff_toNat_le, UInt64.toNat_div, product_toNat, UInt32.toNat_toUInt64,
      UInt32.toNat_toUInt64]
  unfold muldiv32
  simp only [beq_iff_eq, divisor, if_false, saturated]
  split
  · rename_i large
    exact Or.inl ⟨large, rfl⟩
  · rename_i small
    have quotient : a.toNat * b.toNat / c.toNat < 2 ^ 32 := by
      rw [UINT_MAX_toNat] at small
      omega
    have remainder : a.toNat * b.toNat % c.toNat < 2 ^ 32 :=
      (Nat.mod_lt _ ((ne_zero_iff_toNat c).mp divisor)).trans c.toNat_lt
    refine Or.inr ⟨by omega, ?_, ?_⟩
    · rw [UInt64.toNat_toUInt32, UInt64.toNat_div, product_toNat, UInt32.toNat_toUInt64,
        Nat.mod_eq_of_lt quotient]
    · rw [UInt64.toNat_toUInt32, UInt64.toNat_mod, product_toNat, UInt32.toNat_toUInt64,
        Nat.mod_eq_of_lt remainder]

theorem muldiv32_lower {o : Bool} {a b c : UInt32} {z : ℚ} (divisor : c ≠ 0) (below : z < UINT_MAX.toNat)
    (bound : AtLeast o ((a.toNat * b.toNat : ℚ) / c.toNat) z) :
    AtLeast ((muldiv32 a b c).2 != 0 || o) ((muldiv32 a b c).1.toNat : ℚ) z := by
  have positive := (ne_zero_iff_toNat c).mp divisor
  have floor := atLeast_floor (K := ℚ) (a.toNat * b.toNat) c.toNat positive
  rcases muldiv32_cases a b c divisor with ⟨large, same⟩ | ⟨small, quotient, remainder⟩
  · have reached : (UINT_MAX.toNat : ℚ) ≤ z := calc
      (UINT_MAX.toNat : ℚ) ≤ ((a.toNat * b.toNat / c.toNat : Nat) : ℚ) := by exact_mod_cast large
      _ ≤ ((a.toNat * b.toNat : Nat) : ℚ) / c.toNat := floor.1
      _ = (a.toNat * b.toNat : ℚ) / c.toNat := by push_cast; ring
      _ ≤ z := bound.1
    exact absurd below (not_lt.mpr reached)
  · have flag : ((muldiv32 a b c).2 != 0) = decide (a.toNat * b.toNat % c.toNat ≠ 0) := by
      rw [← remainder]
      by_cases zero : (muldiv32 a b c).2 = 0
      · simp [zero]
      · have := (ne_zero_iff_toNat _).mp zero
        simp [zero, this.ne']
    rw [flag, quotient]
    refine floor.trans ?_
    push_cast
    exact bound

theorem muldiv32_upper {o : Bool} {a b c : UInt32} {z : ℚ} (divisor : c ≠ 0) (below : z < UINT_MAX.toNat)
    (bound : AtMost o z ((a.toNat * b.toNat : ℚ) / c.toNat)) :
    if (muldiv32 a b c).2 != 0 then AtMost true z (((muldiv32 a b c).1 + 1).toNat : ℚ)
    else AtMost o z ((muldiv32 a b c).1.toNat : ℚ) := by
  have positive := (ne_zero_iff_toNat c).mp divisor
  rcases muldiv32_cases a b c divisor with ⟨large, same⟩ | ⟨small, quotient, remainder⟩
  · rw [same]
    exact AtMost.of_lt below
  · have ceiling := lt_floor_succ (K := ℚ) (a.toNat * b.toNat) c.toNat positive
    push_cast at ceiling
    split
    · apply AtMost.of_lt
      have next : ((muldiv32 a b c).1 + 1).toNat = a.toNat * b.toNat / c.toNat + 1 := by
        rw [UINT_MAX_toNat] at small
        rw [UInt32.toNat_add, quotient, UInt32.toNat_one]
        omega
      rw [next]
      push_cast
      exact bound.1.trans_lt ceiling
    · rename_i zero
      have exact0 : a.toNat * b.toNat % c.toNat = 0 := by
        rw [← remainder]
        simpa [← UInt32.toNat_inj] using zero
      have same := div_eq_floor (K := ℚ) _ _ positive exact0
      rw [quotient, ← same]
      push_cast
      exact bound

theorem div32_eq_muldiv32 (a b : UInt32) : div32 a b = muldiv32 a 1 b := by
  by_cases zero : b = 0
  · simp [div32, muldiv32, zero]
  · have positive := (ne_zero_iff_toNat b).mp zero
    have quotient : (a / b).toNat = a.toNat * (1 : UInt32).toNat / b.toNat := by simp
    have remainder : (a % b).toNat = a.toNat * (1 : UInt32).toNat % b.toNat := by simp
    have pair : div32 a b = (a / b, a % b) := by simp [div32, zero]
    rcases muldiv32_cases a 1 b zero with ⟨large, same⟩ | ⟨_, low, rest⟩
    · have bound := a.toNat_lt
      rw [UINT_MAX_toNat, UInt32.toNat_one, mul_one, Nat.le_div_iff_mul_le positive] at large
      have one : b.toNat = 1 := by
        by_contra other
        have two : 4294967295 * 2 ≤ 4294967295 * b.toNat := Nat.mul_le_mul_left _ (by omega)
        omega
      have full : a.toNat = 4294967295 := by rw [one] at large; omega
      rw [pair, same, Prod.mk.injEq, ← UInt32.toNat_inj, ← UInt32.toNat_inj, quotient, remainder, one, full]
      decide
    · rw [pair]
      exact Prod.ext (UInt32.toNat_inj.mp (quotient.trans low.symm))
        (UInt32.toNat_inj.mp (remainder.trans rest.symm))

structure Representable (x : ℚ) : Prop where
  positive : 0 < x
  below : x < UINT_MAX.toNat

theorem SndInterval.Contains.nonneg {i : SndInterval} {x : ℚ} (inside : i.Contains x) : 0 ≤ x :=
  (Nat.cast_nonneg _).trans inside.low.1

theorem SndInterval.Contains.max_ne_zero {i : SndInterval} {x : ℚ} (inside : i.Contains x) (positive : 0 < x) :
    i.max ≠ 0 := by
  intro zero
  have high := inside.high.1
  rw [zero, UInt32.toNat_zero, Nat.cast_zero] at high
  exact absurd positive (not_lt.mpr high)

theorem sndIntervalMul_contains {a b c : SndInterval} {x y : ℚ} (left : a.Contains x) (right : b.Contains y)
    (positive : 0 < x) (positive' : 0 < y) (below : x * y < UINT_MAX.toNat) :
    (sndIntervalMul a b c).Contains (x * y) := by
  have low := left.low.mul (Nat.cast_nonneg _) positive positive' right.low
  have high := left.high.mul positive positive' right.high
  simp only [sndIntervalMul, left.nonempty, right.nonempty, Bool.or_self, Bool.false_eq_true, if_false]
  refine ⟨⟨?_, ?_, fun flags => ?_⟩, rfl⟩
  · have floor : AtLeast false ((mul a.min b.min).toNat : ℚ) ((a.min.toNat : ℚ) * b.min.toNat) := by
      refine ⟨?_, by simp⟩
      rw [mul_toNat]
      exact_mod_cast Nat.min_le_left _ _
    simpa using floor.trans low
  · dsimp only
    rw [mul_toNat]
    rcases Nat.le_total (a.max.toNat * b.max.toNat) UINT_MAX.toNat with small | large
    · rw [Nat.min_eq_left small]
      push_cast
      exact high
    · rw [Nat.min_eq_right large]
      exact AtMost.of_lt below
  · obtain ⟨first, second⟩ := (Bool.and_eq_true _ _).mp flags
    obtain ⟨m, rfl⟩ := left.integral first
    obtain ⟨n, rfl⟩ := right.integral second
    exact ⟨m * n, by push_cast; rfl⟩

theorem sndIntervalMuldivk_contains {a b c : SndInterval} {k : UInt32} {x y : ℚ} (divisor : k ≠ 0)
    (left : a.Contains x) (right : b.Contains y) (positive : 0 < x) (positive' : 0 < y)
    (below : x * y / k.toNat < UINT_MAX.toNat) : (sndIntervalMuldivk a b k c).Contains (x * y / k.toNat) := by
  have above : (0 : ℚ) < k.toNat := Nat.cast_pos.mpr ((ne_zero_iff_toNat k).mp divisor)
  have one : AtMost false (k.toNat : ℚ) k.toNat := ⟨le_rfl, by simp⟩
  have one' : AtLeast false (k.toNat : ℚ) k.toNat := ⟨le_rfl, by simp⟩
  have low := (left.low.mul (Nat.cast_nonneg _) positive positive' right.low).div
    (by positivity) (mul_pos positive positive') above one
  have high := (left.high.mul positive positive' right.high).div (mul_pos positive positive') above one'
  have upper := muldiv32_upper divisor below high
  simp only [sndIntervalMuldivk, left.nonempty, right.nonempty, Bool.or_self, Bool.false_eq_true, if_false]
  refine ⟨⟨?_, ?_, ?_⟩, ?_⟩
  · have lower := muldiv32_lower divisor below low
    simp only [Bool.or_false, ← Bool.or_assoc] at lower
    split <;> exact lower
  · split
    · rename_i remainder
      rwa [if_pos remainder] at upper
    · rename_i exact0
      rw [if_neg exact0] at upper
      simpa using upper
  · split <;> simp
  · split <;> rfl

theorem sndIntervalMulkdiv_contains {a b c : SndInterval} {k : UInt32} {x y : ℚ} (factor : k ≠ 0)
    (left : a.Contains x) (right : b.Contains y) (positive : 0 < x) (positive' : 0 < y)
    (below : x * k.toNat / y < UINT_MAX.toNat) : (sndIntervalMulkdiv a k b c).Contains (x * k.toNat / y) := by
  have above : (0 : ℚ) < k.toNat := Nat.cast_pos.mpr ((ne_zero_iff_toNat k).mp factor)
  have one : AtMost false (k.toNat : ℚ) k.toNat := ⟨le_rfl, by simp⟩
  have one' : AtLeast false (k.toNat : ℚ) k.toNat := ⟨le_rfl, by simp⟩
  have low := (left.low.mul (Nat.cast_nonneg _) positive above one').div
    (by positivity) (mul_pos positive above) positive' right.high
  have lower := muldiv32_lower (right.max_ne_zero positive') below low
  simp only [Bool.or_false, ← Bool.or_assoc] at lower
  simp only [sndIntervalMulkdiv, left.nonempty, right.nonempty, Bool.or_self, Bool.false_eq_true, if_false]
  by_cases divides : b.min > 0
  · have divisor : b.min ≠ 0 := by
      rintro zero
      rw [zero] at divides
      exact absurd divides (by decide)
    have least : (0 : ℚ) < b.min.toNat := Nat.cast_pos.mpr ((ne_zero_iff_toNat _).mp divisor)
    have high := (left.high.mul positive above one).div (mul_pos positive above) least right.low
    have upper := muldiv32_upper divisor below high
    simp only [divides, if_true]
    refine ⟨⟨?_, ?_, ?_⟩, ?_⟩
    · split <;> exact lower
    · split
      · rename_i remainder
        rwa [if_pos remainder] at upper
      · rename_i exact0
        rw [if_neg exact0] at upper
        simpa using upper
    · split <;> simp
    · split <;> rfl
  · simp only [divides, if_false]
    exact ⟨⟨lower, AtMost.of_lt below, by simp⟩, rfl⟩

theorem sndIntervalDiv_eq_mulkdiv (a b c : SndInterval) : sndIntervalDiv a b c = sndIntervalMulkdiv a 1 b c := by
  simp only [sndIntervalDiv, sndIntervalMulkdiv, div32_eq_muldiv32]

theorem sndIntervalDiv_contains {a b c : SndInterval} {x y : ℚ} (left : a.Contains x) (right : b.Contains y)
    (positive : 0 < x) (positive' : 0 < y) (below : x / y < UINT_MAX.toNat) :
    (sndIntervalDiv a b c).Contains (x / y) := by
  have scaled : x * (1 : UInt32).toNat / y = x / y := by simp
  rw [sndIntervalDiv_eq_mulkdiv, ← scaled]
  exact sndIntervalMulkdiv_contains (by decide) left right positive positive' (by rwa [scaled])

theorem sndIntervalRefineMin_covers {i v : SndInterval} {x : ℚ} (inside : i.Covers x) (other : v.Covers x) :
    (sndIntervalRefineMin i v).2.Covers x := by
  unfold sndIntervalRefineMin
  split
  · exact ⟨other.low, inside.high, inside.integral⟩
  split
  · rename_i same
    simp only [Bool.and_eq_true, beq_iff_eq] at same
    refine ⟨⟨inside.low.1, fun _ => ?_⟩, inside.high, inside.integral⟩
    rw [show i.min = v.min from same.1.1]
    exact other.low.2 same.2
  · exact inside

theorem sndIntervalRefineMax_covers {i v : SndInterval} {x : ℚ} (inside : i.Covers x) (other : v.Covers x) :
    (sndIntervalRefineMax i v).2.Covers x := by
  unfold sndIntervalRefineMax
  split
  · exact ⟨inside.low, other.high, inside.integral⟩
  split
  · rename_i same
    simp only [Bool.and_eq_true, beq_iff_eq] at same
    refine ⟨inside.low, ⟨inside.high.1, fun _ => ?_⟩, inside.integral⟩
    rw [show i.max = v.max from same.1.1]
    exact other.high.2 same.2
  · exact inside

theorem sndIntervalRefineInteger_covers {i v : SndInterval} {x : ℚ} (inside : i.Covers x) (other : v.Covers x) :
    (sndIntervalRefineInteger i v).2.Covers x := by
  unfold sndIntervalRefineInteger
  split
  · rename_i flags
    exact ⟨inside.low, inside.high, fun _ => other.integral ((Bool.and_eq_true _ _).mp flags).2⟩
  · exact inside

theorem sndIntervalMeet_covers {i v : SndInterval} {x : ℚ} (inside : i.Covers x) (other : v.Covers x) :
    (sndIntervalMeet i v).2.Covers x :=
  sndIntervalRefineInteger_covers
    (sndIntervalRefineMax_covers (sndIntervalRefineMin_covers inside other) other) other

theorem sndIntervalCloseMin_covers {i : SndInterval} {x : ℚ} (inside : i.Covers x) (integer : i.integer = true) :
    (sndIntervalCloseMin i).Covers x := by
  unfold sndIntervalCloseMin
  split
  · rename_i isOpen
    obtain ⟨n, rfl⟩ := inside.integral integer
    have above : (i.min.toNat : ℤ) < n := by exact_mod_cast inside.low.2 isOpen
    have below : n ≤ (i.max.toNat : ℤ) := by exact_mod_cast inside.high.1
    have bound := i.max.toNat_lt
    have next : (i.min + 1).toNat = i.min.toNat + 1 := by
      rw [UInt32.toNat_add, UInt32.toNat_one]
      omega
    refine ⟨⟨?_, by simp⟩, inside.high, inside.integral⟩
    rw [next]
    exact_mod_cast above
  · exact inside

theorem sndIntervalCloseMax_covers {i : SndInterval} {x : ℚ} (inside : i.Covers x) (integer : i.integer = true) :
    (sndIntervalCloseMax i).Covers x := by
  unfold sndIntervalCloseMax
  split
  · rename_i isOpen
    obtain ⟨n, rfl⟩ := inside.integral integer
    have above : (i.min.toNat : ℤ) ≤ n := by exact_mod_cast inside.low.1
    have below : n < (i.max.toNat : ℤ) := by exact_mod_cast inside.high.2 isOpen
    have bound := i.max.toNat_lt
    have previous : (i.max - 1).toNat = i.max.toNat - 1 := by
      rw [UInt32.toNat_sub, UInt32.toNat_one]
      omega
    refine ⟨inside.low, ⟨?_, by simp⟩, inside.integral⟩
    rw [previous]
    exact_mod_cast (by omega : n ≤ ((i.max.toNat - 1 : ℕ) : ℤ))
  · exact inside

theorem sndIntervalNormalise_covers {i : SndInterval} {x : ℚ} (inside : i.Covers x) :
    (sndIntervalNormalise i).Covers x := by
  unfold sndIntervalNormalise
  split
  · rename_i integer
    have kept : (sndIntervalCloseMin i).integer = true := by rwa [sndIntervalCloseMin_integer]
    exact sndIntervalCloseMax_covers (sndIntervalCloseMin_covers inside integer) kept
  split
  · rename_i single
    simp only [Bool.and_eq_true, beq_iff_eq] at single
    refine ⟨inside.low, inside.high, fun _ => ⟨i.min.toNat, ?_⟩⟩
    have high := inside.high.1
    rw [← single.2] at high
    exact le_antisymm high inside.low.1
  · exact inside

theorem sndIntervalCheckempty_of_covers {i : SndInterval} {x : ℚ} (inside : i.Covers x) :
    sndIntervalCheckempty i = false := by
  have order : i.min.toNat ≤ i.max.toNat := by exact_mod_cast inside.low.1.trans inside.high.1
  have notAbove : ¬ i.min > i.max := by
    rw [gt_iff_lt, UInt32.lt_iff_toNat_lt]
    omega
  simp only [sndIntervalCheckempty, notAbove, decide_false, Bool.false_or, Bool.and_eq_false_iff]
  by_cases same : i.min = i.max
  · right
    have high := inside.high
    rw [← same] at high
    cases low : i.openmin
    · cases top : i.openmax
      · rfl
      · exact absurd (high.2 top) (not_lt.mpr inside.low.1)
    · exact absurd (inside.low.2 low) (not_lt.mpr high.1)
  · left
    simpa using same

theorem sndIntervalRefine_contains {i v : SndInterval} {x : ℚ} (inside : i.Contains x) (other : v.Covers x) :
    0 ≤ (sndIntervalRefine i v).1 ∧ (sndIntervalRefine i v).2.Contains x := by
  have covers := sndIntervalNormalise_covers (sndIntervalMeet_covers inside.toCovers other)
  have flag : (sndIntervalNormalise (sndIntervalMeet i v).2).empty = false := by
    rw [sndIntervalNormalise_empty, sndIntervalMeet_empty, inside.nonempty]
  simp only [sndIntervalRefine, sndIntervalEmpty, inside.nonempty, Bool.false_eq_true, if_false,
    sndIntervalCheckempty_of_covers covers]
  refine ⟨?_, covers, flag⟩
  split <;> decide

end AlsaDriver.Pcm
