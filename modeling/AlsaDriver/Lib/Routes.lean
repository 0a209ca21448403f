import Mathlib.Algebra.GroupWithZero.Nat
import Mathlib.Algebra.Order.BigOperators.Group.List
import Mathlib.Algebra.BigOperators.Group.List.Basic
import Mathlib.Algebra.Order.Group.Nat
import Mathlib.Logic.Relation

namespace Routes

universe u

variable {α : Type u} (next : α → List α)

def Edge (a b : α) : Prop := b ∈ next a

/-- A goal or a cycle can be reached from `a`. -/
def Leads (goal : α → Prop) (a : α) : Prop :=
  ∃ u, Relation.ReflTransGen (Edge next) a u ∧ (goal u ∨ Relation.TransGen (Edge next) u u)

variable {next} {goal : α → Prop} {a b : α}

theorem Leads.step (edge : Edge next a b) (leads : Leads next goal b) : Leads next goal a := by
  obtain ⟨u, walk, ends⟩ := leads
  exact ⟨u, Relation.ReflTransGen.head edge walk, ends⟩

theorem Leads.cycle (cycle : Relation.TransGen (Edge next) a a) : Leads next goal a :=
  ⟨a, Relation.ReflTransGen.refl, .inr cycle⟩

theorem leads_iff : Leads next goal a ↔ goal a ∨ ∃ b ∈ next a, Leads next goal b := by
  constructor
  · rintro ⟨u, walk, ends⟩
    rcases Relation.ReflTransGen.cases_head walk with same | ⟨b, edge, rest⟩
    · rcases ends with found | cycle
      · exact .inl (same ▸ found)
      · rw [← same] at cycle
        obtain ⟨b, edge, back⟩ := Relation.TransGen.head'_iff.mp cycle
        exact .inr ⟨b, edge, a, back, .inr cycle⟩
    · exact .inr ⟨b, edge, u, rest, ends⟩
  · rintro (found | ⟨b, edge, leads⟩)
    · exact ⟨a, Relation.ReflTransGen.refl, .inl found⟩
    · exact leads.step edge

theorem leads_of_nil (none_ : next a = []) : Leads next goal a ↔ goal a := by
  rw [leads_iff, none_]
  simp

theorem countP_lt {l : List α} {p q : α → Bool} (more : ∀ x ∈ l, p x = true → q x = true) {x : α} (listed : x ∈ l)
    (without : p x = false) (with_ : q x = true) : l.countP p < l.countP q := by
  obtain ⟨before, after, rfl⟩ := List.append_of_mem listed
  have first : before.countP p ≤ before.countP q :=
    List.countP_mono_left fun y inside => more y (List.mem_append_left _ inside)
  have second : after.countP p ≤ after.countP q :=
    List.countP_mono_left fun y inside => more y (List.mem_append_right _ (List.mem_cons_of_mem _ inside))
  simp [List.countP_append, without, with_]
  omega

variable [DecidableEq α] (next)

/-- The longest walks from `a` that meet nothing twice and nothing of `avoid`, of at most `n` steps. -/
def routes : Nat → List α → α → Nat
  | 0, _, _ => 0
  | n + 1, avoid, a => ((next a).map fun b => if b ∈ a :: avoid then 1 else max 1 (routes n (a :: avoid) b)).sum

/-- What an edge to `b` stands for in this count. -/
def along (n : Nat) (avoid : List α) (b : α) : Nat := if b ∈ avoid then 1 else max 1 (routes next n avoid b)

theorem routes_succ (n : Nat) (avoid : List α) (a : α) :
    routes next (n + 1) avoid a = ((next a).map (along next n (a :: avoid))).sum := rfl

theorem one_le_along (n : Nat) (avoid : List α) (b : α) : 1 ≤ along next n avoid b := by
  unfold along
  split
  · exact Nat.le_refl 1
  · exact Nat.le_max_left ..

variable {next} {n m : Nat} {A B : List α}

theorem along_mono (ih : ∀ b, routes next n A b ≤ routes next m B b) (fewer : ∀ x ∈ B, x ∈ A) (b : α) :
    along next n A b ≤ along next m B b := by
  by_cases inside : b ∈ A
  · rw [along, if_pos inside]
    exact one_le_along ..
  · have outside : b ∉ B := fun avoided => inside (fewer b avoided)
    rw [along, along, if_neg inside, if_neg outside]
    exact max_le_max_left 1 (ih b)

theorem routes_mono (longer : n ≤ m) (fewer : ∀ x ∈ B, x ∈ A) (a : α) : routes next n A a ≤ routes next m B a := by
  induction n generalizing m A B a with
  | zero => exact Nat.zero_le _
  | succ n ih =>
    obtain ⟨m, rfl⟩ := Nat.exists_eq_add_of_lt longer
    have fewer' (x : α) (listed : x ∈ a :: B) : x ∈ a :: A := by
      rcases List.mem_cons.mp listed with same | later
      · exact same ▸ List.mem_cons_self
      · exact List.mem_cons_of_mem a (fewer x later)
    rw [routes_succ, routes_succ]
    apply List.sum_le_sum
    intro b _
    exact along_mono (fun b => ih (by omega) fewer' b) fewer' b

end Routes
