import Mathlib.Logic.Basic

namespace Stores

variable {α β : Type*}

/-- `n` values are stored from address `a` on. -/
def store (m : Nat → α) (a n : Nat) (f : Nat → α) : Nat → α := fun x => if a ≤ x ∧ x < a + n then f (x - a) else m x

theorem store_inside {m : Nat → α} {a n i : Nat} (f : Nat → α) (inside : i < n) : store m a n f (a + i) = f i := by
  unfold store
  rw [if_pos ⟨Nat.le_add_right a i, Nat.add_lt_add_left inside a⟩, Nat.add_sub_cancel_left]

theorem store_outside {m : Nat → α} {a n x : Nat} (f : Nat → α) (outside : x < a ∨ a + n ≤ x) : store m a n f x = m x :=
  if_neg fun both => by omega

theorem foldl_outside {step : (Nat → α) → β → Nat → α} {x : Nat} {l : List β} {m : Nat → α}
    (outside : ∀ b ∈ l, ∀ m, step m b x = m x) : l.foldl step m x = m x := by
  induction l generalizing m with
  | nil => rfl
  | cons b rest ih =>
    rw [List.foldl_cons, ih fun b inside => outside b (List.mem_cons_of_mem _ inside), outside b List.mem_cons_self]

theorem foldl_sets {step : (Nat → α) → β → Nat → α} {x : Nat} {v : α} {l : List β} {c : β} (listed : c ∈ l)
    (outside : ∀ b ∈ l, b ≠ c → ∀ m, step m b x = m x) (sets : ∀ m, step m c x = v) (m : Nat → α) :
    l.foldl step m x = v := by
  classical
  induction l generalizing m with
  | nil => exact absurd listed List.not_mem_nil
  | cons b rest ih =>
    rw [List.foldl_cons]
    by_cases later : c ∈ rest
    · exact ih later (fun b inside => outside b (List.mem_cons_of_mem _ inside)) _
    · obtain rfl : c = b := (List.mem_cons.mp listed).resolve_right later
      rw [foldl_outside fun b inside => outside b (List.mem_cons_of_mem _ inside) fun same => later (same ▸ inside)]
      exact sets m

end Stores
