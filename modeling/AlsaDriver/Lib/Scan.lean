import Mathlib.Data.List.Basic

namespace Scan

variable {α β : Type*}

def scan (found : List α → Option β) : List α → List β
  | [] => []
  | c :: rest => (found (c :: rest)).toList ++ scan found rest

variable {found : List α → Option β} {l : List α} {n : Nat}

@[simp] theorem scan_nil : scan found [] = [] := rfl

theorem scan_cons_none {c : α} (none_ : found (c :: l) = none) : scan found (c :: l) = scan found l := by
  simp [scan, none_]

theorem scan_drop (none_ : ∀ i < n, found (l.drop i) = none) : scan found l = scan found (l.drop n) := by
  induction n generalizing l with
  | zero => simp
  | succ n ih =>
    cases l with
    | nil => simp
    | cons c rest =>
      have first : found (c :: rest) = none := none_ 0 (Nat.succ_pos n)
      rw [scan_cons_none first, ih fun i small => none_ (i + 1) (Nat.succ_lt_succ small)]
      rfl

theorem scan_some {m : β} {c : α} (first : found (c :: l) = some m) (none_ : ∀ i < n, found (l.drop i) = none) :
    scan found (c :: l) = m :: scan found (l.drop n) := by
  rw [scan, first, scan_drop none_]
  simp

theorem scan_eq_nil (none_ : ∀ i < l.length, found (l.drop i) = none) : scan found l = [] := by
  rw [scan_drop none_]
  simp

end Scan
