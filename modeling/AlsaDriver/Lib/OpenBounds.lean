import Mathlib.Algebra.Order.Field.Basic
import Mathlib.Data.Nat.Cast.Field
import Mathlib.Data.Nat.Cast.Order.Field
import Mathlib.Tactic.Positivity
import Mathlib.Tactic.GCongr

namespace OpenBounds

section Order

variable {K : Type*} [LinearOrder K]

/-- `a` bounds `x` from below, strictly when `isOpen` is set. -/
def AtLeast (isOpen : Bool) (a x : K) : Prop := a ≤ x ∧ (isOpen = true → a < x)

/-- `a` bounds `x` from above, strictly when `isOpen` is set. -/
def AtMost (isOpen : Bool) (x a : K) : Prop := x ≤ a ∧ (isOpen = true → x < a)

theorem AtLeast.of_lt {isOpen : Bool} {a x : K} (below : a < x) : AtLeast isOpen a x :=
  ⟨below.le, fun _ => below⟩

theorem AtMost.of_lt {isOpen : Bool} {a x : K} (below : x < a) : AtMost isOpen x a :=
  ⟨below.le, fun _ => below⟩

theorem AtLeast.trans {o p : Bool} {a b x : K} (first : AtLeast o a b) (second : AtLeast p b x) :
    AtLeast (o || p) a x := by
  refine ⟨first.1.trans second.1, fun isOpen => ?_⟩
  rcases (Bool.or_eq_true _ _).mp isOpen with left | right
  · exact (first.2 left).trans_le second.1
  · exact first.1.trans_lt (second.2 right)

end Order

section Field

variable {K : Type*} [Field K] [LinearOrder K] [IsStrictOrderedRing K]

theorem AtLeast.mul {o p : Bool} {a b x y : K} (nonneg : 0 ≤ a) (positive : 0 < x) (positive' : 0 < y)
    (left : AtLeast o a x) (right : AtLeast p b y) : AtLeast (o || p) (a * b) (x * y) := by
  refine ⟨(mul_le_mul_of_nonneg_left right.1 nonneg).trans
    (mul_le_mul_of_nonneg_right left.1 positive'.le), fun isOpen => ?_⟩
  rcases (Bool.or_eq_true _ _).mp isOpen with strict | strict
  · calc a * b ≤ a * y := mul_le_mul_of_nonneg_left right.1 nonneg
      _ < x * y := mul_lt_mul_of_pos_right (left.2 strict) positive'
  · rcases nonneg.eq_or_lt with zero | above
    · rw [← zero, zero_mul]
      exact mul_pos positive positive'
    · calc a * b < a * y := mul_lt_mul_of_pos_left (right.2 strict) above
        _ ≤ x * y := mul_le_mul_of_nonneg_right left.1 positive'.le

theorem AtMost.mul {o p : Bool} {a b x y : K} (positive : 0 < x) (positive' : 0 < y)
    (left : AtMost o x a) (right : AtMost p y b) : AtMost (o || p) (x * y) (a * b) := by
  have above : 0 < a := positive.trans_le left.1
  refine ⟨mul_le_mul left.1 right.1 positive'.le above.le, fun isOpen => ?_⟩
  rcases (Bool.or_eq_true _ _).mp isOpen with strict | strict
  · calc x * y < a * y := mul_lt_mul_of_pos_right (left.2 strict) positive'
      _ ≤ a * b := mul_le_mul_of_nonneg_left right.1 above.le
  · calc x * y ≤ a * y := mul_le_mul_of_nonneg_right left.1 positive'.le
      _ < a * b := mul_lt_mul_of_pos_left (right.2 strict) above

theorem AtLeast.inv {o : Bool} {y b : K} (positive : 0 < y) (bound : AtMost o y b) :
    AtLeast o b⁻¹ y⁻¹ :=
  ⟨inv_anti₀ positive bound.1, fun isOpen => inv_strictAnti₀ positive (bound.2 isOpen)⟩

theorem AtMost.inv {o : Bool} {y b : K} (positive : 0 < b) (bound : AtLeast o b y) :
    AtMost o y⁻¹ b⁻¹ :=
  ⟨inv_anti₀ positive bound.1, fun isOpen => inv_strictAnti₀ positive (bound.2 isOpen)⟩

theorem AtLeast.div {o p : Bool} {a b x y : K} (nonneg : 0 ≤ a) (positive : 0 < x) (positive' : 0 < y)
    (left : AtLeast o a x) (right : AtMost p y b) : AtLeast (o || p) (a / b) (x / y) := by
  rw [div_eq_mul_inv, div_eq_mul_inv]
  exact left.mul nonneg positive (inv_pos.mpr positive') (AtLeast.inv positive' right)

theorem AtMost.div {o p : Bool} {a b x y : K} (positive : 0 < x) (positive' : 0 < b)
    (left : AtMost o x a) (right : AtLeast p b y) : AtMost (o || p) (x / y) (a / b) := by
  rw [div_eq_mul_inv, div_eq_mul_inv]
  exact left.mul positive (inv_pos.mpr (positive'.trans_le right.1)) (AtMost.inv positive' right)

theorem atLeast_floor (n d : Nat) (positive : 0 < d) :
    AtLeast (decide (n % d ≠ 0)) ((n / d : Nat) : K) ((n : K) / d) := by
  have cast : (0 : K) < d := Nat.cast_pos.mpr positive
  refine ⟨Nat.cast_div_le, fun isOpen => ?_⟩
  have remainder : 0 < n % d := Nat.pos_of_ne_zero (of_decide_eq_true isOpen)
  rw [lt_div_iff₀ cast]
  have split := Nat.div_add_mod n d
  exact_mod_cast (by rw [mul_comm]; omega : n / d * d < n)

theorem lt_floor_succ (n d : Nat) (positive : 0 < d) : (n : K) / d < ((n / d + 1 : Nat) : K) := by
  have cast : (0 : K) < d := Nat.cast_pos.mpr positive
  rw [div_lt_iff₀ cast]
  exact_mod_cast Nat.lt_mul_of_div_lt (Nat.lt_succ_self (n / d)) positive

theorem div_eq_floor (n d : Nat) (positive : 0 < d) (exact : n % d = 0) : (n : K) / d = ((n / d : Nat) : K) :=
  (Nat.cast_div (Nat.dvd_of_mod_eq_zero exact) (Nat.cast_ne_zero.mpr positive.ne')).symm

/-- The rounded quotient bounds `x` from below, strictly unless the division is exact. -/
def FloorAtLeast (n d : Nat) (x : K) : Prop := AtLeast (decide (n % d ≠ 0)) ((n / d : Nat) : K) x

theorem floorAtLeast_of_le {n d : Nat} {x : K} (positive : 0 < d) (below : (n : K) / d ≤ x) : FloorAtLeast n d x := by
  have rounded := atLeast_floor (K := K) n d positive
  exact ⟨rounded.1.trans below, fun isOpen => (rounded.2 isOpen).trans_le below⟩

theorem FloorAtLeast.mono {n d n' d' : Nat} {x : K} (positive : 0 < d) (positive' : 0 < d')
    (below : (n : K) / d ≤ n' / d') (bound : FloorAtLeast n' d' x) : FloorAtLeast n d x := by
  by_cases exact' : n' % d' = 0
  · refine floorAtLeast_of_le positive (below.trans ?_)
    rw [div_eq_floor n' d' positive' exact']
    exact bound.1
  · have less : ((n / d : Nat) : K) < ((n' / d' + 1 : Nat) : K) :=
      (Nat.cast_div_le.trans below).trans_lt (lt_floor_succ n' d' positive')
    have floors : ((n / d : Nat) : K) ≤ ((n' / d' : Nat) : K) := by
      exact_mod_cast Nat.lt_succ_iff.mp (by exact_mod_cast less)
    exact AtLeast.of_lt (floors.trans_lt (bound.2 (decide_eq_true exact')))

/-- The quotient rounded up bounds `x` from above, strictly unless the division is exact. -/
def CeilAtMost (n d : Nat) (x : K) : Prop := AtMost (decide (n % d ≠ 0)) x ((n / d + if n % d = 0 then 0 else 1 : Nat) : K)

theorem ceilAtMost_of_le {n d : Nat} {x : K} (positive : 0 < d) (below : x ≤ (n : K) / d) : CeilAtMost n d x := by
  unfold CeilAtMost
  split
  · rename_i exact'
    rw [add_zero, ← div_eq_floor n d positive exact']
    exact ⟨below, fun isOpen => absurd exact' (of_decide_eq_true isOpen)⟩
  · exact AtMost.of_lt (below.trans_lt (lt_floor_succ n d positive))

end Field

end OpenBounds
