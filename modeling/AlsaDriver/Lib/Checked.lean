import Mathlib.Data.List.Basic

namespace Checked

variable {σ α β : Type*}

/-- What an access gives: nothing outside of the bounds `p`. -/
def inBounds (p : Prop) [Decidable p] (a : α) : Option α := if p then some a else none

@[simp] theorem inBounds_eq_some {p : Prop} [Decidable p] {a b : α} : inBounds p a = some b ↔ p ∧ a = b := by
  unfold inBounds
  split <;> simp [*]

theorem inBounds_of {p : Prop} [Decidable p] (inside : p) (a : α) : inBounds p a = some a := if_pos inside

theorem inBounds_none {p : Prop} [Decidable p] (outside : ¬ p) (a : α) : inBounds p a = none := if_neg outside

theorem foldlM_eq_some {f : σ → β → Option σ} {g : σ → β → σ} (P : σ → Prop) (l : List β)
    (pass : ∀ s, P s → ∀ b ∈ l, f s b = some (g s b) ∧ P (g s b)) {s : σ} (start : P s) :
    l.foldlM f s = some (l.foldl g s) ∧ P (l.foldl g s) := by
  induction l generalizing s with
  | nil => exact ⟨rfl, start⟩
  | cons b rest ih =>
    obtain ⟨first, kept⟩ := pass s start b List.mem_cons_self
    rw [List.foldlM_cons, first]
    exact ih (fun s holds b inside => pass s holds b (List.mem_cons_of_mem _ inside)) kept

theorem foldlM_isSome_iff {f : σ → β → Option σ} (P : σ → Prop) (fits : β → Prop)
    (inside : ∀ s b, P s → fits b → ∃ s', f s b = some s' ∧ P s') (outside : ∀ s b, P s → ¬ fits b → f s b = none)
    (l : List β) {s : σ} (start : P s) : (l.foldlM f s).isSome ↔ ∀ b ∈ l, fits b := by
  induction l generalizing s with
  | nil => simp
  | cons b rest ih =>
    rw [List.foldlM_cons, List.forall_mem_cons]
    by_cases good : fits b
    · obtain ⟨s', done, kept⟩ := inside s b start good
      rw [done]
      simpa [good] using ih kept
    · rw [outside s b start good]
      simp [good]

end Checked
