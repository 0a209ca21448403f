import Mathlib.Data.List.Sort
import Mathlib.Order.Basic

namespace StableQueue

universe u v

variable {α : Type u} {K : Type v} [LinearOrder K] (key : α → K) (prior : α → Bool)

def Stops (x c : α) : Prop := key x < key c ∨ key x = key c ∧ prior x = true

instance : DecidableRel (Stops key prior) := fun x c =>
  inferInstanceAs (Decidable (key x < key c ∨ key x = key c ∧ prior x = true))

def insert (x : α) (l : List α) : List α := l.orderedInsert (Stops key prior) x

/-- The order of a queue whose elements have the numbers `stamp`: by key, then by number, except that an
    element with priority goes before those that were there. -/
def Ahead (stamp : α → Nat) (a b : α) : Prop :=
  key a < key b ∨ key a = key b ∧ (stamp a < stamp b → prior b = false) ∧ (stamp b < stamp a → prior a = true)

variable {key prior} {stamp : α → Nat} {x : α} {l : List α}

theorem Ahead.key_le {a b : α} (ahead : Ahead key prior stamp a b) : key a ≤ key b := by
  rcases ahead with less | ⟨same, -⟩
  · exact le_of_lt less
  · exact le_of_eq same

variable (key prior) in
theorem insert_split (x : α) (l : List α) :
    ∃ before after, l = before ++ after ∧ insert key prior x l = before ++ x :: after ∧
      (∀ c ∈ before, ¬ Stops key prior x c) ∧ (∀ c, after.head? = some c → Stops key prior x c) := by
  induction l with
  | nil => exact ⟨[], [], rfl, rfl, by simp, by simp⟩
  | cons c rest ih =>
    by_cases stop : Stops key prior x c
    · refine ⟨[], c :: rest, rfl, List.orderedInsert_cons_of_le _ _ stop, by simp, ?_⟩
      intro d first
      cases first
      exact stop
    · obtain ⟨before, after, split, inserted, passed, stopped⟩ := ih
      refine ⟨c :: before, after, by rw [split, List.cons_append], ?_, ?_, stopped⟩
      · rw [insert, List.orderedInsert_of_not_le _ _ stop]
        exact congrArg (c :: ·) inserted
      · exact List.forall_mem_cons.mpr ⟨stop, passed⟩

theorem insert_perm (x : α) (l : List α) : (insert key prior x l).Perm (x :: l) :=
  List.perm_orderedInsert _ _ _

theorem insert_sorted (sorted : l.Pairwise fun c d => key c ≤ key d) :
    (insert key prior x l).Pairwise fun c d => key c ≤ key d := by
  obtain ⟨before, after, split, inserted, passed, stopped⟩ := insert_split key prior x l
  rw [inserted]
  rw [split] at sorted
  obtain ⟨first, second, cross⟩ := List.pairwise_append.mp sorted
  have late (d : α) (inside : d ∈ after) : key x ≤ key d := by
    cases after with
    | nil => exact absurd inside List.not_mem_nil
    | cons c rest =>
      have least : key c ≤ key d := by
        rcases List.mem_cons.mp inside with same | later
        · rw [same]
        · exact (List.pairwise_cons.mp second).1 d later
      rcases stopped c rfl with less | ⟨same, -⟩
      · exact le_trans (le_of_lt less) least
      · exact same.trans_le least
  refine List.pairwise_append.mpr ⟨first, List.pairwise_cons.mpr ⟨late, second⟩, ?_⟩
  intro c inside d there
  rcases List.mem_cons.mp there with same | old
  · subst same
    exact not_lt.mp fun less => passed c inside (Or.inl less)
  · exact cross c inside d old

theorem insert_last (plain : prior x = false) (latest : ∀ c ∈ l, key c ≤ key x) :
    insert key prior x l = l ++ [x] := by
  obtain ⟨before, after, split, inserted, -, stopped⟩ := insert_split key prior x l
  cases after with
  | nil =>
    rw [inserted, split, List.append_nil]
  | cons c rest =>
    rcases stopped c rfl with later | ⟨-, priority⟩
    · have le := latest c (by simp [split])
      exact absurd later (not_lt_of_ge le)
    · rw [plain] at priority
      cases priority

theorem insert_ahead (ordered : l.Pairwise (Ahead key prior stamp)) (newest : ∀ c ∈ l, stamp c < stamp x) :
    (insert key prior x l).Pairwise (Ahead key prior stamp) := by
  obtain ⟨before, after, split, inserted, passed, stopped⟩ := insert_split key prior x l
  rw [inserted]
  rw [split] at ordered newest
  obtain ⟨first, second, cross⟩ := List.pairwise_append.mp ordered
  apply List.pairwise_append.mpr
  refine ⟨first, List.pairwise_cons.mpr ⟨?_, second⟩, ?_⟩
  · intro d inside
    have number := newest d (List.mem_append_right _ inside)
    cases after with
    | nil => exact absurd inside List.not_mem_nil
    | cons c rest =>
      have le : key c ≤ key d := by
        rcases List.mem_cons.mp inside with same | later
        · rw [same]
        · exact ((List.pairwise_cons.mp second).1 d later).key_le
      rcases stopped c rfl with less | ⟨same, priority⟩
      · exact Or.inl (lt_of_lt_of_le less le)
      · rcases lt_or_eq_of_le le with less | equal
        · exact Or.inl (same ▸ less)
        · exact Or.inr ⟨same.trans equal, fun early => absurd early (Nat.lt_asymm number), fun _ => priority⟩
  · intro c inside d there
    rcases List.mem_cons.mp there with new | old
    · subst new
      have number := newest c (List.mem_append_left _ inside)
      have stay := passed c inside
      rcases lt_trichotomy (key c) (key d) with less | same | greater
      · exact Or.inl less
      · refine Or.inr ⟨same, fun _ => ?_, fun late => absurd late (Nat.lt_asymm number)⟩
        cases priority : prior d with
        | false => rfl
        | true => exact absurd (Or.inr ⟨same.symm, priority⟩) stay
      · exact absurd (Or.inl greater) stay
    · exact cross c inside d old

end StableQueue
