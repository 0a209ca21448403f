import Mathlib.Algebra.Order.Group.Unbundled.Int
import Mathlib.Data.Int.ModEq
import AlsaDriver.Lib.OpenBounds

namespace Aligned

open OpenBounds

/-- The first number from `a` on that leaves the remainder of `o` modulo `s`, past `a` itself when it is excluded. -/
def up (isOpen : Bool) (o s a : Int) : Int :=
  if (a - o) % s ≠ 0 ∨ isOpen = true then a + (s - (a - o) % s) else a

/-- The last number up to `b` that leaves the remainder of `o` modulo `s`. -/
def down (o s b : Int) : Int := b - (b - o) % s

variable {isOpen : Bool} {o s a b n : Int}

theorem down_le (positive : 0 < s) : down o s b ≤ b := by
  have nonneg := Int.emod_nonneg (b - o) positive.ne'
  unfold down
  omega

theorem lt_down_add (positive : 0 < s) : b < down o s b + s := by
  have bound := Int.emod_lt_of_pos (b - o) positive
  unfold down
  omega

theorem down_modEq : down o s b ≡ o [ZMOD s] := by
  refine Int.modEq_iff_dvd.mpr ?_
  have divides : s ∣ b - o - (b - o) % s := Int.dvd_self_sub_emod
  rw [show o - down o s b = -(b - o - (b - o) % s) by unfold down; omega]
  exact divides.neg_right

theorem le_down (positive : 0 < s) (below : n ≤ b) (aligned : n ≡ o [ZMOD s]) : n ≤ down o s b := by
  by_contra above
  have divides : s ∣ n - down o s b := Int.modEq_iff_dvd.mp (down_modEq.trans aligned.symm)
  have step := Int.le_of_dvd (by omega) divides
  have past := lt_down_add (o := o) (b := b) positive
  omega

theorem up_eq : up isOpen o s a = if (a - o) % s ≠ 0 ∨ isOpen = true then down o s a + s else down o s a := by
  unfold up down
  split
  · omega
  · rename_i still
    rw [not_or, not_not] at still
    omega

theorem up_modEq : up isOpen o s a ≡ o [ZMOD s] := by
  rw [up_eq]
  split
  · exact Int.add_modulus_modEq_iff.mpr down_modEq
  · exact down_modEq

theorem up_le_add (isOpen : Bool) (o a : Int) (positive : 0 < s) : up isOpen o s a ≤ a + s := by
  have bound := down_le (o := o) (b := a) positive
  rw [up_eq]
  split <;> omega

theorem atLeast_up (isOpen : Bool) (o a : Int) (positive : 0 < s) : AtLeast isOpen a (up isOpen o s a) := by
  have past := lt_down_add (o := o) (b := a) positive
  rw [up_eq]
  split
  · exact AtLeast.of_lt past
  · rename_i still
    rw [not_or, not_not] at still
    have same : down o s a = a := by
      unfold down
      omega
    exact ⟨same.ge, fun set => absurd set still.2⟩

theorem up_le (positive : 0 < s) (above : AtLeast isOpen a n) (aligned : n ≡ o [ZMOD s]) : up isOpen o s a ≤ n := by
  have divides : s ∣ n - down o s a := Int.modEq_iff_dvd.mp (down_modEq.trans aligned.symm)
  have low := down_le (o := o) (b := a) positive
  rw [up_eq]
  split
  · rename_i moves
    have strict : down o s a < n := by
      rcases moves with remainder | set
      · have nonneg := Int.emod_nonneg (a - o) positive.ne'
        have first := above.1
        unfold down
        omega
      · exact low.trans_lt (above.2 set)
    have step := Int.le_of_dvd (by omega) divides
    omega
  · exact low.trans above.1

end Aligned
