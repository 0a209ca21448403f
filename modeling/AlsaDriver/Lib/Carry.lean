import Mathlib.Algebra.Order.BigOperators.Group.List
import Mathlib.Algebra.Order.Ring.Nat

namespace Carry

variable (m : Nat)

/-- The whole parts that come out of an accumulator modulo `m`. What is left of one sum is carried into the next. -/
def quotients : Nat → List Nat → List Nat
  | _, [] => []
  | r, x :: rest => (r + x) / m :: quotients ((r + x) % m) rest

variable {m}

theorem sum_quotients {r : Nat} (fraction : r < m) (l : List Nat) : (quotients m r l).sum = (r + l.sum) / m := by
  induction l generalizing r with
  | nil => exact (Nat.div_eq_of_lt fraction).symm
  | cons x rest ih =>
    have positive : 0 < m := Nat.zero_lt_of_lt fraction
    have split : r + (x + rest.sum) = (r + x) % m + rest.sum + m * ((r + x) / m) := by
      rw [Nat.add_right_comm, Nat.mod_add_div, Nat.add_assoc]
    rw [quotients, List.sum_cons, List.sum_cons, ih (Nat.mod_lt _ positive), split, Nat.add_mul_div_left _ _ positive,
      Nat.add_comm]

theorem le_of_served {k x : Nat} {served : List Nat} (limited : ∀ n ∈ served, n ≤ k) (calls : served.length = m)
    (positive : 0 < m) (exact : served.sum = (List.replicate m x).sum / m) : x ≤ m * k := by
  have total : served.sum ≤ m * k := by
    rw [← calls]
    exact (List.sum_le_card_nsmul served k limited).trans_eq (nsmul_eq_mul _ k)
  rwa [exact, List.sum_replicate_nat, Nat.mul_div_cancel_left _ positive] at total

end Carry
