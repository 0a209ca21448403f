import Mathlib.Data.List.Basic

namespace Delimited

variable {α : Type*} [DecidableEq α] {d : α}

def extend (c : α) : List (List α) → List (List α)
  | [] => [[c]]
  | piece :: rest => (c :: piece) :: rest

def pieces (d : α) : List α → List (List α)
  | [] => []
  | c :: rest => if c = d then [] :: pieces d rest else extend c (pieces d rest)

def first (d : α) (l : List α) : List α := l.takeWhile fun c => decide (c ≠ d)

def after (d : α) (l : List α) : List α := l.drop ((first d l).length + 1)

@[simp] theorem pieces_nil : pieces d [] = [] := rfl

@[simp] theorem first_nil : first d [] = [] := rfl

theorem first_delimiter (l : List α) : first d (d :: l) = [] := by simp [first]

theorem first_other {c : α} (other : c ≠ d) (l : List α) : first d (c :: l) = c :: first d l := by simp [first, other]

theorem pieces_eq {l : List α} (some_ : l ≠ []) : pieces d l = first d l :: pieces d (after d l) := by
  induction l with
  | nil => exact absurd rfl some_
  | cons c rest ih =>
    by_cases ends : c = d
    · subst ends
      simp [pieces, after, first_delimiter]
    · rw [pieces, if_neg ends, after, first_other ends]
      cases rest with
      | nil => simp [extend]
      | cons c' rest' => simp [ih, extend, after]

end Delimited
