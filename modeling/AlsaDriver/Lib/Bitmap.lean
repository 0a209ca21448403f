import Mathlib.Data.List.Basic

namespace Bitmap

/-- The `n` bits from `s` on are clear. -/
def Run (used : Nat → Bool) (s n : Nat) : Prop := ∀ i, s ≤ i → i < s + n → used i = false

def clear (used : Nat → Bool) (amount : Nat) : Nat := (List.range amount).countP fun i => !used i

variable {used used' : Nat → Bool} {s n amount : Nat}

theorem clear_split (used : Nat → Bool) (inside : s + n ≤ amount) :
    clear used amount = (List.range' 0 s).countP (fun i => !used i) + (List.range' s n).countP (fun i => !used i) +
      (List.range' (s + n) (amount - (s + n))).countP (fun i => !used i) := by
  have whole : List.range amount = List.range' 0 s ++ List.range' s n ++ List.range' (s + n) (amount - (s + n)) := by
    have first := @List.range'_append_1 0 s n
    have second := @List.range'_append_1 0 (s + n) (amount - (s + n))
    rw [Nat.zero_add] at first second
    rw [first, second, List.range_eq_range']
    congr 1
    omega
  rw [clear, whole, List.countP_append, List.countP_append]

theorem countP_run (run : Run used s n) : (List.range' s n).countP (fun i => !used i) = n := by
  have all : ∀ i ∈ List.range' s n, (!used i) = true := by
    intro i listed
    obtain ⟨low, high⟩ := List.mem_range'_1.mp listed
    simp [run i low high]
  rw [List.countP_eq_length.mpr all, List.length_range']

theorem run_le_clear (run : Run used s n) (inside : s + n ≤ amount) : n ≤ clear used amount := by
  rw [clear_split used inside, countP_run run]
  omega

theorem clear_set (run : Run used s n) (inside : s + n ≤ amount)
    (set_ : ∀ i, used' i = (used i || (decide (s ≤ i) && decide (i < s + n)))) : clear used' amount + n = clear used amount := by
  have none_ : (List.range' s n).countP (fun i => !used' i) = 0 := by
    rw [List.countP_eq_zero]
    intro i listed
    obtain ⟨low, high⟩ := List.mem_range'_1.mp listed
    simp [set_, low, high]
  have before : (List.range' 0 s).countP (fun i => !used' i) = (List.range' 0 s).countP fun i => !used i := by
    apply List.countP_congr
    intro i listed
    have small : i < s := by simpa using (List.mem_range'_1.mp listed).2
    simp [set_, Nat.not_le.mpr small]
  have behind : (List.range' (s + n) (amount - (s + n))).countP (fun i => !used' i) =
      (List.range' (s + n) (amount - (s + n))).countP fun i => !used i := by
    apply List.countP_congr
    intro i listed
    have large := (List.mem_range'_1.mp listed).1
    simp [set_, Nat.not_lt.mpr large]
  rw [clear_split used inside, clear_split used' inside, none_, before, behind, countP_run run]
  omega

theorem clear_cleared (full : ∀ i, s ≤ i → i < s + n → used i = true) (inside : s + n ≤ amount)
    (cleared : ∀ i, used' i = (used i && !(decide (s ≤ i) && decide (i < s + n)))) :
    clear used' amount = clear used amount + n := by
  have run : Run used' s n := by
    intro i low high
    simp [cleared, low, high]
  refine (clear_set run inside ?_).symm
  intro i
  rw [cleared]
  by_cases within : s ≤ i ∧ i < s + n
  · simp [within, full i within.1 within.2]
  · have outside : (decide (s ≤ i) && decide (i < s + n)) = false := by simpa using within
    simp [outside]

end Bitmap
