import Mathlib.Data.List.Nodup
import Mathlib.Logic.Function.Basic

namespace Extents

universe u

section

variable {α : Type u} (start len : α → Nat)

/-- Blocks in increasing order, apart from each other, between `lo` and `hi`. -/
def Stacked : Nat → List α → Nat → Prop
  | lo, [], hi => lo ≤ hi
  | lo, x :: rest, hi => lo ≤ start x ∧ Stacked (start x + len x) rest hi

def top : Nat → List α → Nat
  | lo, [] => lo
  | _, x :: rest => top (start x + len x) rest

instance instDecidableStacked : (lo : Nat) → (xs : List α) → (hi : Nat) → Decidable (Stacked start len lo xs hi)
  | lo, [], hi => inferInstanceAs (Decidable (lo ≤ hi))
  | lo, x :: rest, hi => @instDecidableAnd _ _ (Nat.decLe lo (start x)) (instDecidableStacked (start x + len x) rest hi)

variable {start len} {lo lo' hi hi' : Nat} {xs ys : List α} {b : α}

theorem top_eq (lo : Nat) (xs : List α) : top start len lo xs = xs.getLast?.elim lo fun x => start x + len x := by
  induction xs generalizing lo with
  | nil => rfl
  | cons x rest ih =>
    rw [List.getLast?_cons]
    exact (ih _).trans (by cases rest.getLast? <;> rfl)

theorem Stacked.le (stacked : Stacked start len lo xs hi) : lo ≤ hi := by
  induction xs generalizing lo with
  | nil => exact stacked
  | cons x rest ih => exact Nat.le_trans (Nat.le_trans stacked.1 (Nat.le_add_right ..)) (ih stacked.2)

theorem stacked_append : Stacked start len lo (xs ++ ys) hi ↔
    Stacked start len lo xs (top start len lo xs) ∧ Stacked start len (top start len lo xs) ys hi := by
  induction xs generalizing lo with
  | nil => exact ⟨fun stacked => ⟨Nat.le_refl lo, stacked⟩, fun both => both.2⟩
  | cons x rest ih => exact (and_congr_right fun _ => ih).trans and_assoc.symm

theorem Stacked.widen (stacked : Stacked start len lo xs hi) (below : lo' ≤ lo) (above : hi ≤ hi') :
    Stacked start len lo' xs hi' := by
  induction xs generalizing lo lo' with
  | nil => exact Nat.le_trans below (Nat.le_trans stacked above)
  | cons x rest ih => exact ⟨Nat.le_trans below stacked.1, ih stacked.2 (Nat.le_refl _)⟩

theorem Stacked.insert (stacked : Stacked start len lo (xs ++ ys) hi) (above : top start len lo xs ≤ start b)
    (below : Stacked start len (start b + len b) ys hi) : Stacked start len lo (xs ++ b :: ys) hi :=
  stacked_append.mpr ⟨(stacked_append.mp stacked).1, above, below⟩

theorem Stacked.sublist (stacked : Stacked start len lo ys hi) (part : xs.Sublist ys) : Stacked start len lo xs hi := by
  induction part generalizing lo with
  | slnil => exact stacked
  | cons y _ ih => exact (ih stacked.2).widen (Nat.le_trans stacked.1 (Nat.le_add_right ..)) (Nat.le_refl hi)
  | cons_cons y _ ih => exact ⟨stacked.1, ih stacked.2⟩

theorem Stacked.congr {start' len' : α → Nat} (stacked : Stacked start len lo xs hi)
    (same : ∀ x ∈ xs, start' x = start x ∧ len' x = len x) : Stacked start' len' lo xs hi := by
  induction xs generalizing lo with
  | nil => exact stacked
  | cons x rest ih =>
    obtain ⟨first, size⟩ := same x List.mem_cons_self
    refine ⟨first ▸ stacked.1, ?_⟩
    rw [first, size]
    exact ih stacked.2 fun y inside => same y (List.mem_cons_of_mem x inside)

theorem top_congr {start' len' : α → Nat} (same : ∀ x ∈ xs, start' x = start x ∧ len' x = len x) :
    top start' len' lo xs = top start len lo xs := by
  induction xs generalizing lo with
  | nil => rfl
  | cons x rest ih =>
    obtain ⟨first, size⟩ := same x List.mem_cons_self
    unfold top
    rw [first, size]
    exact ih fun y inside => same y (List.mem_cons_of_mem x inside)

theorem Stacked.mem (stacked : Stacked start len lo xs hi) (inside : b ∈ xs) : lo ≤ start b ∧ start b + len b ≤ hi := by
  induction xs generalizing lo with
  | nil => exact absurd inside List.not_mem_nil
  | cons x rest ih =>
    rcases List.mem_cons.mp inside with rfl | later
    · exact ⟨stacked.1, stacked.2.le⟩
    · have bounds := ih stacked.2 later
      have first := stacked.1
      omega

theorem Stacked.mem_top (stacked : Stacked start len lo (xs ++ ys) hi) (inside : b ∈ xs) :
    start b + len b ≤ top start len lo xs := ((stacked_append.mp stacked).1.mem inside).2

theorem Stacked.pairwise (stacked : Stacked start len lo xs hi) : xs.Pairwise fun x y => start x + len x ≤ start y := by
  induction xs generalizing lo with
  | nil => exact List.Pairwise.nil
  | cons x rest ih => exact List.pairwise_cons.mpr ⟨fun y inside => (stacked.2.mem inside).1, ih stacked.2⟩

theorem Stacked.nodup (stacked : Stacked start len lo xs hi) (sized : ∀ x ∈ xs, 0 < len x) : xs.Nodup := by
  apply List.Pairwise.imp_of_mem _ stacked.pairwise
  intro x y inside _ apart same
  have positive := sized x inside
  rw [← same] at apart
  omega

theorem Stacked.apart (stacked : Stacked start len lo xs hi) {x y : α} (one : x ∈ xs) (other : y ∈ xs) (ne : x ≠ y) :
    start x + len x ≤ start y ∨ start y + len y ≤ start x := by
  obtain ⟨before, after, rfl⟩ := List.mem_iff_append.mp one
  have order := List.pairwise_append.mp stacked.pairwise
  rcases List.mem_append.mp other with early | late
  · exact Or.inr (order.2.2 y early x List.mem_cons_self)
  · rcases List.mem_cons.mp late with same | later
    · exact absurd same.symm ne
    · exact Or.inl ((List.pairwise_cons.mp order.2.1).1 y later)

end

section

variable {α : Type u} [DecidableEq α]

/-- The entry in front of `b` in a list that follows `prev`. -/
def entryBefore (b : α) (prev : Option α) : List α → Option α
  | [] => none
  | x :: rest => if x = b then prev else entryBefore b (some x) rest

/-- The entry behind `b`. -/
def entryBehind (b : α) : List α → Option α
  | x :: rest => if x = b then rest.head? else entryBehind b rest
  | [] => none

variable {b : α} {xs ys : List α}

theorem entryBehind_append (fresh : b ∉ xs) : entryBehind b (xs ++ b :: ys) = ys.head? := by
  induction xs with
  | nil => exact if_pos rfl
  | cons x rest ih =>
    have other : x ≠ b := fun same => fresh (same ▸ List.mem_cons_self)
    have later : b ∉ rest := fun inside => fresh (List.mem_cons_of_mem x inside)
    exact (if_neg other).trans (ih later)

theorem entryBefore_append {prev : Option α} (fresh : b ∉ xs) :
    entryBefore b prev (xs ++ b :: ys) = xs.getLast?.or prev := by
  induction xs generalizing prev with
  | nil => exact if_pos rfl
  | cons x rest ih =>
    have other : x ≠ b := fun same => fresh (same ▸ List.mem_cons_self)
    have later : b ∉ rest := fun inside => fresh (List.mem_cons_of_mem x inside)
    have found : entryBefore b prev (x :: rest ++ b :: ys) = entryBefore b (some x) (rest ++ b :: ys) := if_neg other
    rw [found, ih later, List.getLast?_cons]
    cases rest.getLast? <;> rfl

end

theorem foldl_update {α : Type u} (f : Nat → α) (base count : Nat) (array : Nat → α) (n : Nat) :
    (List.range count).foldl (fun a i => Function.update a (base + i) (f i)) array n =
      if base ≤ n ∧ n < base + count then f (n - base) else array n := by
  induction count with
  | zero => exact (if_neg (by omega)).symm
  | succ count ih =>
    rw [List.range_succ, List.foldl_append, List.foldl_cons, List.foldl_nil]
    by_cases last : n = base + count
    · rw [if_pos (by omega), last, Function.update_self, Nat.add_sub_cancel_left]
    · rw [Function.update_of_ne last, ih]
      simp only [show base ≤ n ∧ n < base + count ↔ base ≤ n ∧ n < base + (count + 1) by omega]

end Extents
