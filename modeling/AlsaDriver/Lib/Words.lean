import Mathlib.Algebra.Order.Ring.Int
import Mathlib.Tactic.Positivity
import Mathlib.Tactic.Ring

namespace Words

/-- The value that `x` has in an unsigned word. -/
def toUnsigned (w : Nat) (x : Int) : Nat := (x % 2 ^ w).toNat

/-- The value that `x` has in a word of two's complement. -/
def toSigned (w : Nat) (x : Int) : Int := x.bmod (2 ^ w)

variable {w : Nat}

theorem toUnsigned_cast (w : Nat) (x : Int) : (toUnsigned w x : Int) = x % 2 ^ w :=
  Int.toNat_of_nonneg (Int.emod_nonneg x (by positivity))

theorem toUnsigned_of_range {x : Int} (low : 0 ≤ x) (high : x < 2 ^ w) : (toUnsigned w x : Int) = x := by
  rw [toUnsigned_cast, Int.emod_eq_of_lt low high]

theorem toUnsigned_of_neg {x : Int} (low : -2 ^ w ≤ x) (high : x < 0) : (toUnsigned w x : Int) = x + 2 ^ w := by
  rw [toUnsigned_cast, ← Int.add_emod_right, Int.emod_eq_of_lt (by omega) (by omega)]

theorem toUnsigned_natCast {n : Nat} (high : n < 2 ^ w) : toUnsigned w n = n := by
  have cast : ((2 ^ w : Nat) : Int) = 2 ^ w := by push_cast; rfl
  have same := toUnsigned_of_range (w := w) (x := n) (by omega) (by omega)
  omega

theorem toSigned_of_range {x : Int} (low : -2 ^ w ≤ x) (high : x < 2 ^ w) : toSigned (w + 1) x = x := by
  have cast : ((2 ^ (w + 1) : Nat) : Int) = 2 * 2 ^ w := by push_cast; ring
  apply Int.bmod_eq_of_le <;> omega

theorem toSigned_high (w : Nat) (x : Int) : toSigned (w + 1) x < 2 ^ w := by
  have positive : 0 < 2 ^ (w + 1) := by positivity
  have cast : ((2 ^ (w + 1) : Nat) : Int) = 2 * 2 ^ w := by push_cast; ring
  have bound := Int.bmod_lt (x := x) positive
  unfold toSigned
  omega

end Words
