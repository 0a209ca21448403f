import Mathlib.Algebra.Order.Ring.Nat
import Mathlib.Data.Nat.ModEq
import Mathlib.Tactic.Ring

namespace Digits

abbrev Byte := BitVec 8

/-- The number of `n` bytes, the most significant of them first. -/
def value : Nat → (Nat → Byte) → Nat
  | 0, _ => 0
  | n + 1, d => value n d * 256 + (d n).toNat

@[simp] theorem value_zero (d : Nat → Byte) : value 0 d = 0 := rfl

@[simp] theorem value_succ (n : Nat) (d : Nat → Byte) : value (n + 1) d = value n d * 256 + (d n).toNat := rfl

theorem value_congr {n : Nat} {d e : Nat → Byte} (same : ∀ k < n, d k = e k) : value n d = value n e := by
  induction n with
  | zero => rfl
  | succ n ih => rw [value_succ, value_succ, ih fun k small => same k (by omega), same n (by omega)]

theorem value_lt (n : Nat) (d : Nat → Byte) : value n d < 256 ^ n := by
  induction n with
  | zero => exact Nat.one_pos
  | succ n ih =>
    have byte := (d n).isLt
    rw [value_succ, Nat.pow_succ]
    omega

theorem value_add (n m : Nat) (d : Nat → Byte) :
    value (n + m) d = value n d * 256 ^ m + value m fun k => d (n + k) := by
  induction m with
  | zero => simp
  | succ m ih =>
    rw [← Nat.add_assoc, value_succ, ih, value_succ, Nat.pow_succ]
    ring

theorem value_blank {n : Nat} {d : Nat → Byte} (blank : ∀ k < n, d k = 0) : value n d = 0 := by
  induction n with
  | zero => rfl
  | succ n ih =>
    rw [value_succ, ih fun k small => blank k (by omega), blank n (by omega)]
    rfl

theorem value_mod (n m : Nat) (d : Nat → Byte) : value (n + m) d % 256 ^ m = value m fun k => d (n + k) := by
  rw [value_add, Nat.mul_comm, Nat.mul_add_mod]
  exact Nat.mod_eq_of_lt (value_lt m _)

def justify (m : Nat) (d : Nat → Byte) (k : Nat) : Byte := if k < m then d k else 0

theorem value_justify (n m : Nat) (d : Nat → Byte) : value n (justify m d) = value m d * 256 ^ n / 256 ^ m := by
  rcases Nat.le_total m n with wide | narrow
  · obtain ⟨extra, rfl⟩ := Nat.exists_eq_add_of_le wide
    have high : value m (justify m d) = value m d := value_congr fun k small => if_pos small
    have low : value extra (fun k => justify m d (m + k)) = 0 := value_blank fun k _ => if_neg (by omega)
    rw [value_add, high, low, Nat.add_zero, Nat.pow_add, Nat.mul_left_comm]
    exact (Nat.mul_div_cancel_left _ (Nat.pow_pos (by decide))).symm
  · obtain ⟨extra, rfl⟩ := Nat.exists_eq_add_of_le narrow
    have high : value n (justify (n + extra) d) = value n d := value_congr fun k small => if_pos (by omega)
    have byte := value_lt extra fun k => d (n + k)
    rw [high, value_add, Nat.pow_add, Nat.mul_comm (256 ^ n), Nat.mul_div_mul_right _ _ (Nat.pow_pos (by decide)),
      Nat.mul_comm (value n d), Nat.mul_add_div (Nat.pow_pos (by decide)), Nat.div_eq_of_lt byte, Nat.add_zero]

def flipTop (d : Nat → Byte) (k : Nat) : Byte := if k = 0 then d k ^^^ 0x80 else d k

theorem toNat_flip (b : Byte) : (b ^^^ 0x80).toNat = (b.toNat + 128) % 256 := by
  revert b
  decide

theorem value_flipTop (n : Nat) (d : Nat → Byte) :
    value (n + 1) (flipTop d) = (value (n + 1) d + 128 * 256 ^ n) % 256 ^ (n + 1) := by
  have rest (d : Nat → Byte) : value (n + 1) d = (d 0).toNat * 256 ^ n + value n fun k => d (k + 1) := by
    rw [Nat.add_comm, value_add]
    simp [Nat.add_comm]
  have low : value n (fun k => flipTop d (k + 1)) = value n fun k => d (k + 1) := value_congr fun k _ => if_neg (by omega)
  have top : (flipTop d 0).toNat = ((d 0).toNat + 128) % 256 := toNat_flip (d 0)
  have small := value_lt n fun k => d (k + 1)
  rw [rest, rest, low, top]
  generalize value n (fun k => d (k + 1)) = r at small
  have sum : (d 0).toNat * 256 ^ n + r + 128 * 256 ^ n = r + 256 ^ n * ((d 0).toNat + 128) := by ring
  rw [sum, Nat.pow_succ, Nat.mod_mul, Nat.add_mul_mod_self_left, Nat.mod_eq_of_lt small,
    Nat.add_mul_div_left _ _ (Nat.pow_pos (by decide)), Nat.div_eq_of_lt small, Nat.zero_add]
  ring

end Digits
