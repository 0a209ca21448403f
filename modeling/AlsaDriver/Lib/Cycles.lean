import Mathlib.Data.List.Cycle

namespace Cycles

variable {α : Type*} {R R' : α → α → Prop} {e : α} {m : List α}

theorem cycle_split (before after : List α) (e : α) :
    ((before ++ e :: after : List α) : Cycle α) = ((e :: (after ++ before) : List α) : Cycle α) := by
  apply Cycle.coe_eq_coe.mpr
  exact List.isRotated_append

theorem cycle_swap (before after : List α) : ((before ++ after : List α) : Cycle α) = ((after ++ before : List α) : Cycle α) :=
  Cycle.coe_eq_coe.mpr List.isRotated_append

theorem chain_concat (q : List α) (p : α) : Cycle.Chain R ((q ++ [p] : List α) : Cycle α) ↔ List.IsChain R (p :: (q ++ [p])) := by
  rw [← Cycle.coe_cons_eq_coe_append, Cycle.chain_coe_cons]

theorem isChain_keeps {q : List α} {p : α} (chain : List.IsChain R (q ++ [p])) (keeps : ∀ a ∈ q, ∀ b, R a b → R' a b) :
    List.IsChain R' (q ++ [p]) := by
  induction q with
  | nil => exact List.IsChain.singleton p
  | cons a rest ih =>
    rw [List.cons_append, List.isChain_cons] at chain ⊢
    refine ⟨fun b next => keeps a List.mem_cons_self b (chain.1 b next), ih chain.2 ?_⟩
    exact fun c inside => keeps c (List.mem_cons_of_mem a inside)

theorem chain_insert {q : List α} {p : α} (chain : Cycle.Chain R ((q ++ [p] : List α) : Cycle α))
    (keeps : ∀ a ∈ q, ∀ b, R a b → R' a b) (first : R' e ((q ++ [p]).headD e)) (last : R' p e) :
    Cycle.Chain R' ((e :: (q ++ [p]) : List α) : Cycle α) := by
  rw [chain_concat] at chain
  rw [Cycle.chain_coe_cons, List.isChain_cons]
  have kept := isChain_keeps (List.isChain_cons.mp chain).2 keeps
  constructor
  · intro b next
    cases q with
    | nil =>
      cases next
      exact first
    | cons a rest =>
      cases next
      exact first
  · rw [List.isChain_append]
    refine ⟨kept, List.IsChain.singleton e, ?_⟩
    simpa using last

theorem chain_erase {q : List α} {p : α} (chain : Cycle.Chain R ((e :: (q ++ [p]) : List α) : Cycle α))
    (keeps : ∀ a ∈ q, ∀ b, R a b → R' a b) (last : R' p ((q ++ [p]).headD p)) :
    Cycle.Chain R' ((q ++ [p] : List α) : Cycle α) := by
  rw [Cycle.chain_coe_cons, List.isChain_cons, List.isChain_append] at chain
  rw [chain_concat, List.isChain_cons]
  refine ⟨?_, isChain_keeps chain.2.1 keeps⟩
  intro b next
  cases q with
  | nil =>
    cases next
    exact last
  | cons a rest =>
    cases next
    exact last

theorem chain_of_mem {l : List α} (chain : Cycle.Chain R (l : Cycle α)) (keeps : ∀ a ∈ l, ∀ b ∈ l, R a b → R' a b) :
    Cycle.Chain R' (l : Cycle α) := by
  cases l with
  | nil => exact Cycle.Chain.nil R'
  | cons c rest =>
    rw [Cycle.chain_coe_cons] at chain ⊢
    have same (a : α) (listed : a ∈ c :: (rest ++ [c])) : a ∈ c :: rest := by
      simp only [List.mem_cons, List.mem_append, List.not_mem_nil, or_false] at listed ⊢
      rcases listed with first | inside | first
      · exact Or.inl first
      · exact Or.inr inside
      · exact Or.inl first
    exact chain.imp_of_mem_imp fun a b left right => keeps a (same a left) b (same b right)

end Cycles
