import Mathlib.Data.List.Basic

namespace Holders

universe u v

variable {α : Type u} {β : Type v} (holds : α → β → Prop) [∀ x p, Decidable (holds x p)]

/-- How many entries of a list hold `p`. -/
def holders (xs : List α) (p : β) : Nat := xs.countP fun x => holds x p

variable {holds} {xs ys : List α} {x : α} {p : β}

theorem holders_cons : holders holds (x :: xs) p = holders holds xs p + if holds x p then 1 else 0 := by
  simp [holders, List.countP_cons]

theorem holders_append : holders holds (xs ++ ys) p = holders holds xs p + holders holds ys p := List.countP_append

theorem holders_perm (perm : xs.Perm ys) : holders holds xs p = holders holds ys p := perm.countP_eq _

theorem holders_pos : 0 < holders holds xs p ↔ ∃ x ∈ xs, holds x p := by simp [holders, List.countP_pos_iff]

theorem apart_of_holders (once : ∀ p, holders holds xs p ≤ 1) : xs.Pairwise fun x y => ∀ p, ¬ (holds x p ∧ holds y p) := by
  induction xs with
  | nil => exact List.Pairwise.nil
  | cons x rest ih =>
    have rest_ (p : β) : holders holds rest p ≤ 1 := by
      have total := once p
      rw [holders_cons] at total
      omega
    refine List.pairwise_cons.mpr ⟨fun y inside p both => ?_, ih rest_⟩
    have total := once p
    have some_ := holders_pos.mpr ⟨y, inside, both.2⟩
    rw [holders_cons, if_pos both.1] at total
    omega

end Holders
