import Mathlib.Algebra.Order.Floor.Div
import Mathlib.Algebra.Order.Field.Rat
import Mathlib.Tactic.FieldSimp
import Mathlib.Tactic.Linarith
import Mathlib.Tactic.Positivity
import Mathlib.Tactic.Ring

namespace Pacing

/-- The events before slot `n`, where `p` events come in `q` slots and the first one at the start. -/
def due (p q n : Nat) : Nat := (n * p) ⌈/⌉ q

section due

variable {p q n i : Nat}

theorem due_le_iff (positive : 0 < q) : due p q n ≤ i ↔ n * p ≤ i * q := by
  rw [due, ceilDiv_le_iff_le_mul positive, Nat.mul_comm q]

theorem lt_due_iff (positive : 0 < q) : i < due p q n ↔ i * q < n * p := by
  rw [← not_le, due_le_iff positive, not_le]

theorem due_zero (positive : 0 < q) : due p q 0 = 0 := by
  apply Nat.le_zero.mp
  rw [due_le_iff positive, Nat.zero_mul, Nat.zero_mul]

theorem due_succ (positive : 0 < q) (sparse : p ≤ q) :
    due p q (n + 1) = if due p q n * q < (n + 1) * p then due p q n + 1 else due p q n := by
  have now := (due_le_iff positive).mp (le_refl (due p q n))
  split
  · rename_i event
    apply Nat.le_antisymm
    · rw [due_le_iff positive, Nat.succ_mul, Nat.succ_mul]
      exact Nat.add_le_add now sparse
    · exact (lt_due_iff positive).mpr event
  · rename_i quiet
    apply Nat.le_antisymm
    · exact (due_le_iff positive).mpr (not_lt.mp quiet)
    · rw [due_le_iff positive]
      have later := (due_le_iff positive).mp (le_refl (due p q (n + 1)))
      exact (Nat.mul_le_mul_right p (Nat.le_succ n)).trans later

theorem due_add_le (positive : 0 < q) (m : Nat) : due p q (n + m) ≤ due p q n + due p q m := by
  rw [due_le_iff positive, Nat.add_mul, Nat.add_mul]
  exact Nat.add_le_add ((due_le_iff positive).mp (le_refl _)) ((due_le_iff positive).mp (le_refl _))

theorem due_add_mul (positive : 0 < q) {m e : Nat} (period : m * p = e * q) (a b : Nat) :
    due p q (m * a + b) = e * a + due p q b := by
  have same : (m * a + b) * p = b * p + e * a * q := by
    calc (m * a + b) * p = m * p * a + b * p := by ring
      _ = e * q * a + b * p := by rw [period]
      _ = b * p + e * a * q := by ring
  unfold due
  rw [same, Nat.ceilDiv_eq_add_pred_div, Nat.ceilDiv_eq_add_pred_div, Nat.add_right_comm,
    Nat.add_sub_assoc (show 1 ≤ q from positive), show b * p + q + e * a * q - 1 = b * p + q - 1 + e * a * q by omega,
    Nat.add_mul_div_right _ _ positive, Nat.add_comm, Nat.add_sub_assoc (show 1 ≤ q from positive)]

end due

/-- `T` gives the times of the events, to the nearest tick, where a slot has `unit` ticks. -/
structure Rounds (p q unit : Nat) (T : Nat → Nat) : Prop where
  low : ∀ i, 2 * (i * q * unit) ≤ 2 * (T i * p) + p
  high : ∀ i, 2 * (T i * p) ≤ 2 * (i * q * unit) + p

namespace Rounds

variable {p q unit : Nat} {T : Nat → Nat}

theorem near (rounds : Rounds p q unit T) (positive : 0 < p) (i : Nat) : |(T i : ℚ) - i * q * unit / p| < 1 := by
  have scale : (0 : ℚ) < p := Nat.cast_pos.mpr positive
  have low : (2 * (i * q * unit) : ℚ) ≤ 2 * (T i * p) + p := by exact_mod_cast rounds.low i
  have high : (2 * (T i * p) : ℚ) ≤ 2 * (i * q * unit) + p := by exact_mod_cast rounds.high i
  have same : (T i : ℚ) - i * q * unit / p = (T i * p - i * q * unit) / p := by
    field_simp
  rw [same, abs_div, abs_of_pos scale, div_lt_one scale, abs_lt]
  constructor <;> linarith

theorem before_iff (rounds : Rounds p q unit T) (positive : 0 < p) (coarse : p < 2 * unit) (i n : Nat) :
    T i < unit * n ↔ i * q < n * p := by
  have low := rounds.low i
  have high := rounds.high i
  constructor
  · intro before
    by_contra late
    have step : (T i + 1) * p ≤ unit * n * p := Nat.mul_le_mul_right p before
    have scaled : n * p * unit ≤ i * q * unit := Nat.mul_le_mul_right unit (not_lt.mp late)
    have same : unit * n * p = n * p * unit := by ring
    rw [Nat.add_mul, Nat.one_mul] at step
    omega
  · intro early
    by_contra late
    have step : unit * n * p ≤ T i * p := Nat.mul_le_mul_right p (not_lt.mp late)
    have scaled : (i * q + 1) * unit ≤ n * p * unit := Nat.mul_le_mul_right unit early
    have same : unit * n * p = n * p * unit := by ring
    rw [Nat.add_mul, Nat.one_mul] at scaled
    omega

end Rounds

section generator

variable (unit : Nat) (increment next : Nat → Nat)

def advance (last phase : Nat) : Nat × Nat :=
  if last < unit then (last + increment phase, next phase) else (last - unit, phase)

/-- The generator has the offset of the event that is due at slot `n`, before this slot. -/
def Tracks (p q : Nat) (T phaseOf : Nat → Nat) (last phase : Nat) : Nat → Prop
  | 0 => last = unit ∧ phase = phaseOf 0
  | n + 1 => last + unit * n = T (due p q n) ∧ phase = phaseOf (due p q n)

variable {unit increment next} {p q : Nat} {T phaseOf : Nat → Nat}

theorem advance_tracks (rounds : Rounds p q unit T) (positive : 0 < p) (sparse : p ≤ q) (coarse : p < 2 * unit) (start : T 0 = 0)
    (grows : ∀ i, T (i + 1) = T i + unit + increment (phaseOf i)) (phases : ∀ i, next (phaseOf i) = phaseOf (i + 1))
    {last phase n : Nat} (tracks : Tracks unit p q T phaseOf last phase n) :
    Tracks unit p q T phaseOf (advance unit increment next last phase).1 (advance unit increment next last phase).2 (n + 1) := by
  have slots : 0 < q := positive.trans_le sparse
  cases n with
  | zero =>
    obtain ⟨rfl, rfl⟩ := tracks
    rw [advance, if_neg (lt_irrefl _), Tracks, due_zero slots, start]
    exact ⟨by omega, rfl⟩
  | succ n =>
    obtain ⟨time, rfl⟩ := tracks
    have event : last < unit ↔ due p q n * q < (n + 1) * p := by
      rw [← rounds.before_iff positive coarse, ← time, Nat.mul_succ]
      omega
    rw [advance, Tracks, due_succ slots sparse]
    split
    · rename_i early
      rw [if_pos (event.mp early), grows, phases, Nat.mul_succ]
      exact ⟨by dsimp only; omega, rfl⟩
    · rename_i late
      rw [if_neg fun now => late (event.mpr now), Nat.mul_succ]
      exact ⟨by dsimp only; omega, rfl⟩

end generator

end Pacing
