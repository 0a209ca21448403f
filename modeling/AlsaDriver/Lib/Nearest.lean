import Mathlib.Data.List.Induction
import Mathlib.Order.Lattice

namespace Nearest

universe u v

variable {A B : Type u} {K : Type v} [LinearOrder K] (stale : A → Bool) (cost : A → K)

def pick : Option A → A → Option A
  | none, c => some c
  | some b, c => if stale b ∨ cost c < cost b then some c else some b

def current : List A → List A
  | [] => []
  | a :: l => if (a :: l).dropLast.any stale then current l else a :: l

def FirstLeast (l : List A) (c : A) : Prop :=
  ∃ before after, l = before ++ c :: after ∧ (∀ b ∈ before, cost c < cost b) ∧ ∀ b ∈ after, cost c ≤ cost b

variable {stale cost} {l : List A} {a b c d : A}

theorem FirstLeast.mem (first : FirstLeast cost l c) : c ∈ l := by
  obtain ⟨before, after, rfl, -⟩ := first
  exact List.mem_append_right _ List.mem_cons_self

theorem FirstLeast.le (first : FirstLeast cost l c) (inside : d ∈ l) : cost c ≤ cost d := by
  obtain ⟨before, after, rfl, less, least⟩ := first
  rcases List.mem_append.mp inside with early | late
  · exact le_of_lt (less d early)
  · rcases List.mem_cons.mp late with rfl | late
    · exact le_refl _
    · exact least d late

theorem FirstLeast.unique (first : FirstLeast cost l c) (first' : FirstLeast cost l d) : c = d := by
  have below := first.le first'.mem
  have above := first'.le first.mem
  obtain ⟨before, after, rfl, less, -⟩ := first
  obtain ⟨before', after', same, less', -⟩ := first'
  rcases List.append_eq_append_iff.mp same with ⟨middle, rfl, rest⟩ | ⟨middle, rfl, rest⟩
  · cases middle with
    | nil => exact (List.cons.inj rest).1
    | cons e middle =>
      obtain rfl := (List.cons.inj rest).1
      exact absurd below (not_le_of_gt (less' c (List.mem_append_right _ List.mem_cons_self)))
  · cases middle with
    | nil => exact (List.cons.inj rest).1.symm
    | cons e middle =>
      obtain rfl := (List.cons.inj rest).1
      exact absurd above (not_le_of_gt (less d (List.mem_append_right _ List.mem_cons_self)))

theorem FirstLeast.congr {cost' : A → K} (same : ∀ a ∈ l, cost a = cost' a) (first : FirstLeast cost l c) :
    FirstLeast cost' l c := by
  have here := same c first.mem
  obtain ⟨before, after, rfl, less, least⟩ := first
  refine ⟨before, after, rfl, fun b inside => ?_, fun b inside => ?_⟩
  · rw [← here, ← same b (List.mem_append_left _ inside)]
    exact less b inside
  · rw [← here, ← same b (List.mem_append_right _ (List.mem_cons_of_mem _ inside))]
    exact least b inside

theorem firstLeast_map {g : B → A} {l : List B} :
    FirstLeast cost (l.map g) c ↔ ∃ r, FirstLeast (fun r => cost (g r)) l r ∧ g r = c := by
  constructor
  · rintro ⟨before, after, split, less, least⟩
    obtain ⟨front, back, rfl, rfl, rest⟩ := List.map_eq_append_iff.mp split
    obtain ⟨r, back, rfl, rfl, rfl⟩ := List.map_eq_cons_iff.mp rest
    exact ⟨r, ⟨front, back, rfl, fun s inside => less _ (List.mem_map_of_mem inside),
      fun s inside => least _ (List.mem_map_of_mem inside)⟩, rfl⟩
  · rintro ⟨r, ⟨before, after, rfl, less, least⟩, rfl⟩
    refine ⟨before.map g, after.map g, by rw [List.map_append, List.map_cons], fun b inside => ?_, fun b inside => ?_⟩
    · obtain ⟨s, there, rfl⟩ := List.mem_map.mp inside
      exact less s there
    · obtain ⟨s, there, rfl⟩ := List.mem_map.mp inside
      exact least s there

theorem current_map {g : B → A} (l : List B) : current stale (l.map g) = (current (fun r => stale (g r)) l).map g := by
  induction l with
  | nil => rfl
  | cons r l ih =>
    have same : ((r :: l).map g).dropLast.any stale = (r :: l).dropLast.any fun r => stale (g r) := by
      rw [← List.map_dropLast, List.any_map]
      rfl
    rw [List.map_cons] at same
    rw [List.map_cons, current, current, same]
    split
    · exact ih
    · rw [List.map_cons]

theorem current_congr {stale' : A → Bool} (same : ∀ a ∈ l, stale a = stale' a) : current stale l = current stale' l := by
  induction l with
  | nil => rfl
  | cons a l ih =>
    have equal : (a :: l).dropLast.any stale = (a :: l).dropLast.any stale' := by
      rw [Bool.eq_iff_iff, List.any_eq_true, List.any_eq_true]
      exact exists_congr fun s => and_congr_right fun inside => by rw [same s (List.dropLast_subset _ inside)]
    rw [current, current, equal, ih fun b there => same b (List.mem_cons_of_mem _ there)]

theorem current_subset (inside : c ∈ current stale l) : c ∈ l := by
  induction l with
  | nil => exact inside
  | cons a l ih =>
    rw [current] at inside
    split at inside
    · exact List.mem_cons_of_mem _ (ih inside)
    · exact inside

theorem foldl_pick_concat (l : List A) (c : A) :
    (l ++ [c]).foldl (pick stale cost) none = pick stale cost (l.foldl (pick stale cost) none) c := by
  rw [List.foldl_append]
  rfl

theorem foldl_pick_mem (best : l.foldl (pick stale cost) none = some b) : b ∈ l := by
  induction l using List.reverseRecOn generalizing b with
  | nil => exact absurd best.symm (Option.some_ne_none b)
  | append_singleton l c ih =>
    rw [foldl_pick_concat] at best
    cases before : l.foldl (pick stale cost) none with
    | none =>
      rw [before] at best
      rw [← Option.some.inj best]
      exact List.mem_append_right _ List.mem_cons_self
    | some d =>
      rw [before, pick] at best
      split at best
      · rw [← Option.some.inj best]
        exact List.mem_append_right _ List.mem_cons_self
      · rw [← Option.some.inj best]
        exact List.mem_append_left _ (ih before)

variable (cost) in
theorem foldl_pick_first (fresh : ∀ s ∈ l.dropLast, ¬ stale s) (some_ : l ≠ []) :
    ∃ b, l.foldl (pick stale cost) none = some b ∧ FirstLeast cost l b := by
  induction l using List.reverseRecOn with
  | nil => exact absurd rfl some_
  | append_singleton l c ih =>
    rw [List.dropLast_concat] at fresh
    cases l with
    | nil => exact ⟨c, rfl, [], [], rfl, fun b inside => absurd inside List.not_mem_nil,
        fun b inside => absurd inside List.not_mem_nil⟩
    | cons a l =>
      obtain ⟨b, best, first⟩ := ih (fun s inside => fresh s (List.dropLast_subset _ inside)) (List.cons_ne_nil _ _)
      rw [foldl_pick_concat, best, pick]
      by_cases less : cost c < cost b
      · rw [if_pos (.inr less)]
        exact ⟨c, rfl, a :: l, [], rfl, fun d inside => lt_of_lt_of_le less (first.le inside),
          fun d inside => absurd inside List.not_mem_nil⟩
      · rw [if_neg (not_or.mpr ⟨fresh b first.mem, less⟩)]
        obtain ⟨before, after, split, lower, least⟩ := first
        refine ⟨b, rfl, before, after ++ [c], by rw [split, List.append_assoc, List.cons_append], lower, fun d inside => ?_⟩
        rcases List.mem_append.mp inside with old | new
        · exact least d old
        · rw [List.mem_singleton.mp new]
          exact not_lt.mp less

theorem foldl_pick_restart {s : A} (before after : List A) (old : stale s)
    (bottom : ∀ d ∈ before, cost d ≤ cost s → stale d) :
    (before ++ s :: c :: after).foldl (pick stale cost) none = (c :: after).foldl (pick stale cost) none := by
  have gives : ∃ b, (before ++ [s]).foldl (pick stale cost) none = some b ∧ stale b := by
    rw [foldl_pick_concat]
    cases best : before.foldl (pick stale cost) none with
    | none => exact ⟨s, rfl, old⟩
    | some b =>
      rw [pick]
      split
      · exact ⟨s, rfl, old⟩
      · rename_i keeps
        exact ⟨b, rfl, bottom b (foldl_pick_mem best) (not_lt.mp (not_or.mp keeps).2)⟩
  obtain ⟨b, best, stale'⟩ := gives
  have step : pick stale cost (some b) c = some c := if_pos (.inl stale')
  rw [List.append_cons, List.foldl_append, best, List.foldl_cons, step]
  rfl

theorem foldl_pick_current (bottom : ∀ s ∈ l, stale s → ∀ d ∈ l, cost d ≤ cost s → stale d) (some_ : l ≠ []) :
    ∃ b, l.foldl (pick stale cost) none = some b ∧ FirstLeast cost (current stale l) b := by
  induction l with
  | nil => exact absurd rfl some_
  | cons a l ih =>
    rw [current]
    split
    · rename_i some'
      have more : l ≠ [] := by
        rintro rfl
        exact absurd some' Bool.false_ne_true
      obtain ⟨b, best, first⟩ := ih (fun s inside old d there =>
        bottom s (List.mem_cons_of_mem _ inside) old d (List.mem_cons_of_mem _ there)) more
      refine ⟨b, ?_, first⟩
      rw [← best]
      obtain ⟨s, inside, old⟩ := List.any_eq_true.mp some'
      obtain ⟨init, z, whole⟩ := List.eq_nil_or_concat (a :: l) |>.resolve_left (List.cons_ne_nil _ _)
      rw [List.concat_eq_append] at whole
      rw [whole, List.dropLast_concat] at inside
      obtain ⟨before, middle, rfl⟩ := List.append_of_mem inside
      have member : s ∈ a :: l := whole ▸ List.mem_append_left _ inside
      obtain ⟨c, after, rest⟩ : ∃ c after, middle ++ [z] = c :: after :=
        List.exists_cons_of_ne_nil (List.append_ne_nil_of_right_ne_nil _ (List.cons_ne_nil _ _))
      have whole : a :: l = before ++ s :: c :: after := by rw [whole, List.append_assoc, List.cons_append, rest]
      have lower (d : A) (there : d ∈ before) : cost d ≤ cost s → stale d :=
        bottom s member old d (whole ▸ List.mem_append_left _ there)
      rw [whole, foldl_pick_restart before after old lower]
      cases before with
      | nil => rw [(List.cons.inj whole).2]
      | cons a' before =>
        rw [(List.cons.inj whole).2]
        exact (foldl_pick_restart before after old fun d there => lower d (List.mem_cons_of_mem _ there)).symm
    · rename_i none'
      exact foldl_pick_first cost (fun s inside old => none' (List.any_eq_true.mpr ⟨s, inside, old⟩)) (List.cons_ne_nil _ _)

theorem foldl_pick_least (top : ∀ s ∈ l, stale s → ∀ c ∈ l, cost c ≤ cost s) (some_ : l ≠ []) :
    ∃ b ∈ l, l.foldl (pick stale cost) none = some b ∧ ∀ c ∈ l, cost b ≤ cost c := by
  induction l using List.reverseRecOn with
  | nil => exact absurd rfl some_
  | append_singleton l c ih =>
    have here : c ∈ l ++ [c] := List.mem_append_right _ List.mem_cons_self
    cases l with
    | nil => exact ⟨c, here, rfl, fun d there => by rw [List.mem_singleton.mp there]⟩
    | cons a l =>
      obtain ⟨b, inside, best, least⟩ :=
        ih (fun s inside old d there => top s (List.mem_append_left _ inside) old d (List.mem_append_left _ there))
          (List.cons_ne_nil _ _)
      have inside' := List.mem_append_left [c] inside
      rw [foldl_pick_concat, best, pick]
      split
      · rename_i gives
        have less : cost c ≤ cost b := gives.elim (fun old => top b inside' old c here) le_of_lt
        refine ⟨c, here, rfl, fun d there => ?_⟩
        rcases List.mem_append.mp there with old | new
        · exact le_trans less (least d old)
        · rw [List.mem_singleton.mp new]
      · rename_i keeps
        refine ⟨b, inside', rfl, fun d there => ?_⟩
        rcases List.mem_append.mp there with old | new
        · exact least d old
        · rw [List.mem_singleton.mp new]
          exact not_lt.mp (not_or.mp keeps).2

end Nearest
