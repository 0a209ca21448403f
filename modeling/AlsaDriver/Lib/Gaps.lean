import AlsaDriver.Lib.Extents

namespace Extents

universe u

section

variable {α : Type u} (start len : α → Nat)

/-- No block has the place `p`. -/
def Free (xs : List α) (p : Nat) : Prop := ∀ x ∈ xs, ¬ (start x ≤ p ∧ p < start x + len x)

/-- The `n` places from `p` on lie between `lo` and `hi` and are free. -/
structure Vacant (lo : Nat) (xs : List α) (hi p n : Nat) : Prop where
  above : lo ≤ p
  below : p + n ≤ hi
  free : ∀ q, p ≤ q → q < p + n → Free start len xs q

def Vacancy (lo : Nat) (xs : List α) (hi n : Nat) : Prop := ∃ p, Vacant start len lo xs hi p n

structure Gap (lo : Nat) (xs : List α) (hi p n : Nat) : Prop where
  vacant : Vacant start len lo xs hi p n
  left : p = lo ∨ ¬ Free start len xs (p - 1)
  right : p + n = hi ∨ ¬ Free start len xs (p + n)

def gaps : Nat → List α → List (Nat × Nat)
  | _, [] => []
  | lo, x :: rest => (lo, start x - lo) :: gaps (start x + len x) rest

variable {start len} {lo hi n p : Nat} {x b : α} {xs ys rest : List α}

theorem free_cons : Free start len (x :: rest) p ↔ ¬ (start x ≤ p ∧ p < start x + len x) ∧ Free start len rest p :=
  List.forall_mem_cons

theorem Stacked.free_below (stacked : Stacked start len lo xs hi) (below : p < lo) : Free start len xs p := by
  intro x inside covers
  have first := (stacked.mem inside).1
  omega

theorem Stacked.vacant_first (stacked : Stacked start len lo (x :: rest) hi) (room : lo + n ≤ start x) :
    Vacant start len lo (x :: rest) hi lo n := by
  have bound := stacked.2.le
  refine ⟨Nat.le_refl lo, by omega, fun q _ small => ?_⟩
  apply free_cons.mpr
  exact ⟨by omega, stacked.2.free_below (by omega)⟩

theorem Stacked.vacant_cons (stacked : Stacked start len lo (x :: rest) hi) (vacant : Vacant start len (start x + len x) rest hi p n) :
    Vacant start len lo (x :: rest) hi p n := by
  have first := stacked.1
  have above := vacant.above
  refine ⟨by omega, vacant.below, fun q low high => ?_⟩
  apply free_cons.mpr
  exact ⟨by omega, vacant.free q low high⟩

theorem Vacant.side (vacant : Vacant start len lo (x :: rest) hi p n) (some_ : 0 < n) (sized : 0 < len x) :
    p + n ≤ start x ∨ Vacant start len (start x + len x) rest hi p n := by
  by_cases before : p + n ≤ start x
  · exact Or.inl before
  · refine Or.inr ⟨?_, vacant.below, fun q low high => (free_cons.mp (vacant.free q low high)).2⟩
    by_contra overlap
    by_cases early : p ≤ start x
    · exact (free_cons.mp (vacant.free (start x) early (by omega))).1 (by omega)
    · exact (free_cons.mp (vacant.free p (Nat.le_refl p) (by omega))).1 (by omega)

theorem vacancy_nil : Vacancy start len lo [] hi n ↔ lo + n ≤ hi := by
  constructor
  · rintro ⟨p, vacant⟩
    have above := vacant.above
    have below := vacant.below
    omega
  · intro room
    exact ⟨lo, Nat.le_refl lo, room, fun q _ _ x none => absurd none List.not_mem_nil⟩

theorem vacancy_cons (stacked : Stacked start len lo (x :: rest) hi) (sized : 0 < len x) :
    Vacancy start len lo (x :: rest) hi n ↔ lo + n ≤ start x ∨ Vacancy start len (start x + len x) rest hi n := by
  constructor
  · rintro ⟨p, vacant⟩
    have above := vacant.above
    by_cases some_ : 0 < n
    · rcases vacant.side some_ sized with before | behind
      · exact Or.inl (by omega)
      · exact Or.inr ⟨p, behind⟩
    · have first := stacked.1
      exact Or.inl (by omega)
  · rintro (room | ⟨p, vacant⟩)
    · exact ⟨lo, stacked.vacant_first room⟩
    · exact ⟨p, stacked.vacant_cons vacant⟩

theorem Vacancy.mono (vacancy : Vacancy start len lo xs hi n) (fewer : ∀ y ∈ ys, y ∈ xs) : Vacancy start len lo ys hi n := by
  obtain ⟨p, vacant⟩ := vacancy
  exact ⟨p, vacant.above, vacant.below, fun q low high y inside => vacant.free q low high y (fewer y inside)⟩

theorem vacancy_congr {start' len' : α → Nat} (same : ∀ x ∈ xs, start' x = start x ∧ len' x = len x) :
    Vacancy start' len' lo xs hi n ↔ Vacancy start len lo xs hi n := by
  have free (q : Nat) : Free start' len' xs q ↔ Free start len xs q := by
    apply forall₂_congr
    intro x inside
    rw [(same x inside).1, (same x inside).2]
  constructor
  · rintro ⟨p, vacant⟩
    exact ⟨p, vacant.above, vacant.below, fun q low high => (free q).mp (vacant.free q low high)⟩
  · rintro ⟨p, vacant⟩
    exact ⟨p, vacant.above, vacant.below, fun q low high => (free q).mpr (vacant.free q low high)⟩

theorem vacancy_remove (stacked : Stacked start len lo (xs ++ b :: ys) hi) (sized : ∀ x ∈ xs ++ b :: ys, 0 < len x) :
    Vacancy start len lo (xs ++ ys) hi n ↔
      Vacancy start len lo (xs ++ b :: ys) hi n ∨ top start len lo xs + n ≤ ys.head?.elim hi start := by
  induction xs generalizing lo with
  | nil =>
    have first : lo ≤ start b := stacked.1
    have whole := vacancy_cons (n := n) stacked (sized b List.mem_cons_self)
    cases ys with
    | nil =>
      have last : start b + len b ≤ hi := stacked.2
      simp only [List.nil_append, top, List.head?_nil, Option.elim_none] at whole ⊢
      rw [whole, vacancy_nil, vacancy_nil]
      omega
    | cons y rest =>
      have later : Stacked start len lo (y :: rest) hi := ⟨by have next := stacked.2.1; omega, stacked.2.2⟩
      have next : start b + len b ≤ start y := stacked.2.1
      have positive : 0 < len y := sized y (List.mem_cons_of_mem b List.mem_cons_self)
      simp only [List.nil_append, top, List.head?_cons, Option.elim_some] at whole ⊢
      rw [whole, vacancy_cons later positive, vacancy_cons stacked.2 positive]
      constructor
      · rintro (room | behind)
        · exact Or.inr room
        · exact Or.inl (Or.inr (Or.inr behind))
      · rintro ((room | room | behind) | room)
        · exact Or.inl (by omega)
        · exact Or.inl (by omega)
        · exact Or.inr behind
        · exact Or.inl room
  | cons x rest ih =>
    have positive := sized x List.mem_cons_self
    have part : Stacked start len lo (x :: (rest ++ ys)) hi := by
      apply stacked.sublist
      exact (List.Sublist.append_left (List.sublist_cons_self b ys) rest).cons_cons x
    simp only [List.cons_append, top] at stacked ⊢
    rw [vacancy_cons part positive, vacancy_cons stacked positive,
      ih stacked.2 fun y inside => sized y (List.mem_cons_of_mem x inside), or_assoc]

theorem gap_nil : Gap start len lo [] hi p n ↔ p = lo ∧ lo + n = hi := by
  have free (q : Nat) : Free start len [] q := fun x none => absurd none List.not_mem_nil
  constructor
  · intro gap
    have left := gap.left.resolve_right fun taken => taken (free _)
    have right := gap.right.resolve_right fun taken => taken (free _)
    exact ⟨left, left ▸ right⟩
  · rintro ⟨rfl, whole⟩
    exact ⟨⟨Nat.le_refl p, Nat.le_of_eq whole, fun q _ _ => free q⟩, Or.inl rfl, Or.inl whole⟩

theorem gap_cons (stacked : Stacked start len lo (x :: rest) hi) (sized : 0 < len x) (some_ : 0 < n) :
    Gap start len lo (x :: rest) hi p n ↔ (p = lo ∧ lo + n = start x) ∨ Gap start len (start x + len x) rest hi p n := by
  have first := stacked.1
  have bound := stacked.2.le
  constructor
  · intro gap
    rcases gap.vacant.side some_ sized with before | behind
    · have above := gap.vacant.above
      left
      have left : p = lo := by
        apply gap.left.resolve_right
        intro taken
        exact taken (free_cons.mpr ⟨by omega, stacked.2.free_below (by omega)⟩)
      refine ⟨left, ?_⟩
      rcases gap.right with whole | taken
      · omega
      · by_contra short
        exact taken (free_cons.mpr ⟨by omega, stacked.2.free_below (by omega)⟩)
    · have above := behind.above
      right
      refine ⟨behind, ?_, ?_⟩
      · rcases gap.left with start_ | taken
        · omega
        · by_cases here : p = start x + len x
          · exact Or.inl here
          · exact Or.inr fun free => taken (free_cons.mpr ⟨by omega, free⟩)
      · rcases gap.right with whole | taken
        · exact Or.inl whole
        · exact Or.inr fun free => taken (free_cons.mpr ⟨by omega, free⟩)
  · rintro (⟨rfl, whole⟩ | gap)
    · refine ⟨stacked.vacant_first (Nat.le_of_eq whole), Or.inl rfl, Or.inr fun free => ?_⟩
      exact (free_cons.mp free).1 (by omega)
    · refine ⟨stacked.vacant_cons gap.vacant, ?_, ?_⟩
      · rcases gap.left with here | taken
        · exact Or.inr fun free => (free_cons.mp free).1 (by omega)
        · exact Or.inr fun free => taken (free_cons.mp free).2
      · exact gap.right.imp id fun taken free => taken (free_cons.mp free).2

theorem gap_iff (stacked : Stacked start len lo xs hi) (sized : ∀ x ∈ xs, 0 < len x) (some_ : 0 < n) :
    Gap start len lo xs hi p n ↔ (p, n) ∈ gaps start len lo xs ∨ p = top start len lo xs ∧ top start len lo xs + n = hi := by
  induction xs generalizing lo with
  | nil => simp [gap_nil, gaps, top]
  | cons x rest ih =>
    have first := stacked.1
    rw [gap_cons stacked (sized x List.mem_cons_self) some_, ih stacked.2 fun y inside => sized y (List.mem_cons_of_mem x inside)]
    simp only [gaps, List.mem_cons, Prod.mk.injEq, top, ← or_assoc]
    have here : lo + n = start x ↔ n = start x - lo := by omega
    rw [here]

theorem Stacked.whole (stacked : Stacked start len lo xs hi) :
    Stacked start len lo xs (top start len lo xs) ∧ top start len lo xs ≤ hi := by
  rw [← List.append_nil xs] at stacked
  exact stacked_append.mp stacked

theorem gaps_below (stacked : Stacked start len lo xs hi) (sized : ∀ x ∈ xs, 0 < len x) (inside : (p, n) ∈ gaps start len lo xs) :
    p + n < top start len lo xs := by
  induction xs generalizing lo with
  | nil => exact absurd inside List.not_mem_nil
  | cons x rest ih =>
    have first := stacked.1
    have positive := sized x List.mem_cons_self
    have above : start x + len x ≤ top start len (start x + len x) rest := (Stacked.whole stacked.2).1.le
    rcases List.mem_cons.mp inside with here | later
    · obtain ⟨rfl, rfl⟩ := Prod.mk.inj here
      show p + (start x - p) < top start len (start x + len x) rest
      omega
    · exact ih stacked.2 (fun y member => sized y (List.mem_cons_of_mem x member)) later

end

end Extents
