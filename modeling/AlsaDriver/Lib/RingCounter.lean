import Mathlib.Data.Nat.Init
import Mathlib.Tactic.Common

namespace RingCounter

/-- Behind the last pass over a ring of `size` follows the first. -/
def nextPass (size limit base : Nat) : Nat := if limit ≤ base + size then 0 else base + size

variable {size passes total total' : Nat}

/-- Where the pass began that a counter of `passes` passes is in. -/
def passStart (size passes total : Nat) : Nat := size * (total / size % passes)

theorem mod_pass (size passes total : Nat) :
    total % (size * passes) = passStart size passes total + total % size := by
  rw [Nat.mod_mul, Nat.add_comm, passStart]

theorem pass_step (positive : 0 < size) (forward : total ≤ total') (short : total' < total + size) :
    (total % size ≤ total' % size ∧ total' / size = total / size) ∨
      (total' % size < total % size ∧ total' / size = total / size + 1) := by
  have now := Nat.div_add_mod total size
  have later := Nat.div_add_mod total' size
  have inside := Nat.mod_lt total positive
  have inside' := Nat.mod_lt total' positive
  have low : total / size ≤ total' / size := Nat.div_le_div_right forward
  have high : total' / size ≤ total / size + 1 := by
    have next : total' / size ≤ (total + size) / size := Nat.div_le_div_right (by omega)
    rwa [Nat.add_div_right _ positive] at next
  obtain same | next : total' / size = total / size ∨ total' / size = total / size + 1 := by omega
  · left
    rw [same] at later
    omega
  · right
    rw [next, Nat.mul_add, Nat.mul_one] at later
    omega

theorem nextPass_passStart (positive : 0 < size) (some : 0 < passes) (pass : Nat) :
    nextPass size (size * passes) (size * (pass % passes)) = size * ((pass + 1) % passes) := by
  have inside := Nat.mod_lt pass some
  have next : size * (pass % passes) + size = size * (pass % passes + 1) := by rw [Nat.mul_add, Nat.mul_one]
  unfold nextPass
  rw [next, ← Nat.mod_add_mod]
  by_cases last : passes ≤ pass % passes + 1
  · have full : pass % passes + 1 = passes := by omega
    rw [full, if_pos (Nat.le_refl _), Nat.mod_self, Nat.mul_zero]
  · have short : pass % passes + 1 < passes := by omega
    have below : ¬ size * passes ≤ size * (pass % passes + 1) := by
      rw [Nat.mul_le_mul_left_iff positive]
      exact last
    rw [if_neg below, Nat.mod_eq_of_lt short]

theorem counter_step (positive : 0 < size) (some : 0 < passes) (forward : total ≤ total')
    (short : total' < total + size) :
    total' % (size * passes) =
      if passStart size passes total + total' % size < total % (size * passes) then
        nextPass size (size * passes) (passStart size passes total) + total' % size
      else passStart size passes total + total' % size := by
  rw [mod_pass size passes total', mod_pass size passes total]
  obtain ⟨ahead, same⟩ | ⟨behind, next⟩ := pass_step positive forward short
  · rw [if_neg (by omega), passStart, passStart, same]
  · rw [if_pos (by omega), passStart, passStart, nextPass_passStart positive some, next]

theorem nextPass_lt {limit base : Nat} (positive : 0 < limit) : nextPass size limit base < limit := by
  unfold nextPass
  split <;> omega

theorem nextPass_dvd {limit base : Nat} (aligned : size ∣ base) : size ∣ nextPass size limit base := by
  unfold nextPass
  split
  · exact Nat.dvd_zero size
  · exact Nat.dvd_add aligned (Nat.dvd_refl size)

end RingCounter
