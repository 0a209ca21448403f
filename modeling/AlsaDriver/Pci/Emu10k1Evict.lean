import AlsaDriver.Lib.Gaps
import AlsaDriver.Pci.Emu10k1Map

namespace AlsaDriver.Pci

open Function Extents

namespace Emu10k1

variable {c : Emu10k1Card} {e : Emu10k1} {b n : Nat}

def mappedAt (e : Emu10k1) (b : Nat) : Nat := (e.blk b).mappedPage.toNat

def pagesOf (e : Emu10k1) (b : Nat) : Nat := (e.blk b).pages

structure Placed (c : Emu10k1Card) (e : Emu10k1) : Prop where
  stacked : Stacked (mappedAt e) (pagesOf e) 0 e.mapped c.maxAlignPages
  sized : ∀ x ∈ e.mapped, 0 < (e.blk x).pages
  nonneg : ∀ x ∈ e.mapped, 0 ≤ (e.blk x).mappedPage
  order : e.order.Perm e.mapped

/-- If the blocks `gone` were not mapped, there would be `n` free pages in a row. -/
def RoomWithout (c : Emu10k1Card) (e : Emu10k1) (gone : List Nat) (n : Nat) : Prop :=
  Vacancy (mappedAt e) (pagesOf e) 0 (e.mapped.filter fun x => x ∉ gone) c.maxAlignPages n

/-- The free pages from `page` on between two mapped blocks, or at an end of the PTB, are `n`. -/
def ExactHole (c : Emu10k1Card) (e : Emu10k1) (page n : Nat) : Prop :=
  Gap (mappedAt e) (pagesOf e) 0 e.mapped c.maxAlignPages page n

theorem Mapping.placed {cleared : Prop} (mapping : Mapping c cleared e) (blocks : Blocks c e) : Placed c e := by
  refine ⟨mapping.stacked, fun x inside => ?_, fun x inside => mapping.mapped_nonneg inside, mapping.order⟩
  have pages := (blocks.paged x (mapping.live x inside)).pages
  omega

theorem Placed.nodup (placed : Placed c e) : e.mapped.Nodup := placed.stacked.nodup placed.sized

theorem roomWithout_nil : RoomWithout c e [] n ↔ Vacancy (mappedAt e) (pagesOf e) 0 e.mapped c.maxAlignPages n := by
  simp [RoomWithout]

section

variable {q : Nat} {ys rest : List Nat} {pos lo candidate : Nat} {foundPage maxSize : Int}

theorem searchMapArea_cons (start : 0 ≤ (e.blk q).mappedPage) :
    e.searchMapArea c n (q :: rest) pos lo foundPage maxSize candidate =
      if (mappedAt e q : Int) - lo = n then ((lo : Int), pos)
      else if (mappedAt e q : Int) - lo > maxSize then
        e.searchMapArea c n rest (pos + 1) (mappedAt e q + pagesOf e q : Nat) lo (mappedAt e q - lo) pos
      else e.searchMapArea c n rest (pos + 1) (mappedAt e q + pagesOf e q : Nat) foundPage maxSize candidate := by
  have first : (mappedAt e q : Int) = (e.blk q).mappedPage := Int.toNat_of_nonneg start
  have cursor : ((mappedAt e q + pagesOf e q : Nat) : Int) = (e.blk q).mappedPage + (e.blk q).pages := by
    rw [Int.natCast_add, first]
    rfl
  rw [cursor, first]
  exact if_neg (Int.not_lt.mpr start)

theorem searchMapArea_finds (stacked : Stacked (mappedAt e) (pagesOf e) lo ys c.maxAlignPages)
    (sized : ∀ x ∈ ys, 0 < (e.blk x).pages) (nonneg : ∀ x ∈ ys, 0 ≤ (e.blk x).mappedPage) (large : (n : Int) ≤ maxSize)
    (fresh : foundPage < 0 → maxSize = n) :
    0 ≤ (e.searchMapArea c n ys pos lo foundPage maxSize candidate).1 ↔
      0 ≤ foundPage ∨ Vacancy (mappedAt e) (pagesOf e) lo ys c.maxAlignPages n := by
  induction ys generalizing pos lo candidate foundPage maxSize with
  | nil =>
    rw [vacancy_nil]
    unfold searchMapArea
    have below : lo ≤ c.maxAlignPages := stacked
    by_cases room : (c.maxAlignPages : Int) - lo ≥ maxSize
    · simp only [room, if_true]
      omega
    · simp only [room, if_false]
      omega
  | cons q rest ih =>
    have positive : 0 < pagesOf e q := sized q List.mem_cons_self
    have start := nonneg q List.mem_cons_self
    have above : lo ≤ mappedAt e q := stacked.1
    have sized' (x : Nat) (inside : x ∈ rest) := sized x (List.mem_cons_of_mem q inside)
    have nonneg' (x : Nat) (inside : x ∈ rest) := nonneg x (List.mem_cons_of_mem q inside)
    rw [vacancy_cons stacked positive, searchMapArea_cons start]
    by_cases same : (mappedAt e q : Int) - lo = n
    · simp only [same, if_true]
      omega
    · rw [if_neg same]
      by_cases larger : (mappedAt e q : Int) - lo > maxSize
      · rw [if_pos larger, ih stacked.2 sized' nonneg' (by omega) (by omega)]
        have room : lo + n ≤ mappedAt e q := by omega
        simp [room]
      · rw [if_neg larger, ih stacked.2 sized' nonneg' large fresh]
        by_cases known : 0 ≤ foundPage
        · simp [known]
        · have full : ¬ lo + n ≤ mappedAt e q := by
            have limit := fresh (Int.not_le.mp known)
            omega
          simp [full]

theorem searchMapArea_exact (nonneg : ∀ x ∈ ys, 0 ≤ (e.blk x).mappedPage)
    (stacked : Stacked (mappedAt e) (pagesOf e) lo ys c.maxAlignPages) (fits : ∃ p, (p, n) ∈ gaps (mappedAt e) (pagesOf e) lo ys) :
    ∃ p : Nat, (e.searchMapArea c n ys pos lo foundPage maxSize candidate).1 = p ∧
      (p, n) ∈ gaps (mappedAt e) (pagesOf e) lo ys := by
  induction ys generalizing pos lo candidate foundPage maxSize with
  | nil =>
    obtain ⟨p, inside⟩ := fits
    exact absurd inside List.not_mem_nil
  | cons q rest ih =>
    have start := nonneg q List.mem_cons_self
    have above : lo ≤ mappedAt e q := stacked.1
    rw [searchMapArea_cons start]
    by_cases same : (mappedAt e q : Int) - lo = n
    · rw [if_pos same]
      have here : n = mappedAt e q - lo := by omega
      exact ⟨lo, rfl, here ▸ List.mem_cons_self⟩
    · rw [if_neg same]
      have later : ∃ p, (p, n) ∈ gaps (mappedAt e) (pagesOf e) (mappedAt e q + pagesOf e q) rest := by
        obtain ⟨p, inside⟩ := fits
        rcases List.mem_cons.mp inside with here | there
        · have size := (Prod.mk.inj here).2
          omega
        · exact ⟨p, there⟩
      have nonneg' (x : Nat) (inside : x ∈ rest) := nonneg x (List.mem_cons_of_mem q inside)
      split
      · obtain ⟨p, result, inside⟩ := ih nonneg' stacked.2 later
        exact ⟨p, result, List.mem_cons_of_mem _ inside⟩
      · obtain ⟨p, result, inside⟩ := ih nonneg' stacked.2 later
        exact ⟨p, result, List.mem_cons_of_mem _ inside⟩

theorem searchMapArea_last (nonneg : ∀ x ∈ ys, 0 ≤ (e.blk x).mappedPage) (sized : ∀ x ∈ ys, 0 < (e.blk x).pages)
    (stacked : Stacked (mappedAt e) (pagesOf e) lo ys c.maxAlignPages)
    (none_ : ∀ p, (p, n) ∉ gaps (mappedAt e) (pagesOf e) lo ys) (before : foundPage < lo) :
    (e.searchMapArea c n ys pos lo foundPage maxSize candidate).1 = top (mappedAt e) (pagesOf e) lo ys ↔
      maxSize ≤ (c.maxAlignPages : Int) - top (mappedAt e) (pagesOf e) lo ys ∧
        ∀ gap ∈ gaps (mappedAt e) (pagesOf e) lo ys,
          (gap.2 : Int) ≤ c.maxAlignPages - top (mappedAt e) (pagesOf e) lo ys := by
  induction ys generalizing pos lo candidate foundPage maxSize with
  | nil =>
    unfold searchMapArea
    simp only [top, gaps, List.not_mem_nil, false_imp_iff, implies_true, and_true]
    by_cases room : (c.maxAlignPages : Int) - lo ≥ maxSize
    · rw [if_pos room]
      exact iff_of_true rfl room
    · rw [if_neg room]
      exact iff_of_false (Int.ne_of_lt before) room
  | cons q rest ih =>
    have start := nonneg q List.mem_cons_self
    have positive : 0 < pagesOf e q := sized q List.mem_cons_self
    have above : lo ≤ mappedAt e q := stacked.1
    have nonneg' (x : Nat) (inside : x ∈ rest) := nonneg x (List.mem_cons_of_mem q inside)
    have sized' (x : Nat) (inside : x ∈ rest) := sized x (List.mem_cons_of_mem q inside)
    have none' (p : Nat) (inside : (p, n) ∈ gaps (mappedAt e) (pagesOf e) (mappedAt e q + pagesOf e q) rest) : False :=
      none_ p (List.mem_cons_of_mem _ inside)
    have other : (mappedAt e q : Int) - lo ≠ n := by
      intro same
      have here : n = mappedAt e q - lo := by omega
      exact none_ lo (here ▸ List.mem_cons_self)
    have size : ((mappedAt e q - lo : Nat) : Int) = (mappedAt e q : Int) - lo := by omega
    rw [searchMapArea_cons start, if_neg other]
    simp only [top, gaps, List.forall_mem_cons, size]
    by_cases larger : (mappedAt e q : Int) - lo > maxSize
    · rw [if_pos larger, ih nonneg' sized' stacked.2 none' (by omega), ← and_assoc]
      apply and_congr_left'
      omega
    · rw [if_neg larger, ih nonneg' sized' stacked.2 none' (by omega), ← and_assoc]
      apply and_congr_left'
      omega

end

def LastFits (c : Emu10k1Card) (e : Emu10k1) (n : Nat) : Prop :=
  (∃ page, ExactHole c e page n ∧ page + n = c.maxAlignPages) →
    (∃ page, ExactHole c e page n ∧ page + n < c.maxAlignPages) ∨ ∀ page m, ExactHole c e page m → m ≤ n

theorem Placed.finds (placed : Placed c e) : 0 ≤ (e.searchEmptyMapArea c n).1 ↔ RoomWithout c e [] n := by
  have scan : 0 ≤ (e.searchEmptyMapArea c n).1 ↔ 0 ≤ -ENOMEM ∨ _ :=
    searchMapArea_finds placed.stacked placed.sized placed.nonneg (Int.le_refl n) fun _ => rfl
  rw [roomWithout_nil]
  exact scan.trans (or_iff_right (by decide))

theorem Placed.takes (placed : Placed c e) (success : 0 ≤ (e.searchEmptyMapArea c n).1) :
    Vacant (mappedAt e) (pagesOf e) 0 e.mapped c.maxAlignPages (e.searchEmptyMapArea c n).1.toNat n := by
  apply @searchMapArea_hole c e (fun _ page => Vacant (mappedAt e) (pagesOf e) 0 e.mapped c.maxAlignPages page.toNat n)
    n e.mapped 0 0 _ _ _ placed.stacked placed.nonneg (Int.le_refl _)
  · intro impossible
    exact absurd impossible (by decide)
  · intro j below
    have whole := placed.stacked
    rw [← List.take_append_drop j e.mapped] at whole
    refine ⟨Nat.zero_le _, below.le, fun q low high x inside covers => ?_⟩
    rw [← List.take_append_drop j e.mapped] at inside
    rcases List.mem_append.mp inside with early | late
    · have before := whole.mem_top early
      have low : top (mappedAt e) (pagesOf e) 0 (e.mapped.take j) ≤ q := low
      omega
    · have behind : top (mappedAt e) (pagesOf e) 0 (e.mapped.take j) + n ≤ mappedAt e x := (below.mem late).1
      have high : q < top (mappedAt e) (pagesOf e) 0 (e.mapped.take j) + n := high
      omega
  · exact success

theorem Placed.exact_iff (placed : Placed c e) (some_ : 0 < n) :
    ((∃ page, ExactHole c e page n) → ∃ page : Nat, (e.searchEmptyMapArea c n).1 = page ∧ ExactHole c e page n) ↔
      LastFits c e n := by
  have hole {p m : Nat} (positive : 0 < m) : ExactHole c e p m ↔ _ := gap_iff placed.stacked placed.sized positive
  have below {p m : Nat} (inside : (p, m) ∈ gaps (mappedAt e) (pagesOf e) 0 e.mapped) :=
    gaps_below placed.stacked placed.sized inside
  have limit : top (mappedAt e) (pagesOf e) 0 e.mapped ≤ c.maxAlignPages := placed.stacked.whole.2
  by_cases inner : ∃ p, (p, n) ∈ gaps (mappedAt e) (pagesOf e) 0 e.mapped
  · have scan : ∃ p : Nat, (e.searchEmptyMapArea c n).1 = p ∧ _ := searchMapArea_exact placed.nonneg placed.stacked inner
    obtain ⟨p, result, inside⟩ := scan
    have found : ExactHole c e p n := (hole some_).mpr (Or.inl inside)
    have early := below inside
    exact iff_of_true (fun _ => ⟨p, result, found⟩) fun _ => Or.inl ⟨p, found, by omega⟩
  have none_ (p : Nat) (inside : (p, n) ∈ gaps (mappedAt e) (pagesOf e) 0 e.mapped) : False := inner ⟨p, inside⟩
  have only {p : Nat} : ExactHole c e p n ↔
      p = top (mappedAt e) (pagesOf e) 0 e.mapped ∧ top (mappedAt e) (pagesOf e) 0 e.mapped + n = c.maxAlignPages := by
    rw [hole some_]
    exact or_iff_right (none_ p)
  by_cases last : top (mappedAt e) (pagesOf e) 0 e.mapped + n = c.maxAlignPages
  · have scan : (e.searchEmptyMapArea c n).1 = top (mappedAt e) (pagesOf e) 0 e.mapped ↔
        (n : Int) ≤ c.maxAlignPages - top (mappedAt e) (pagesOf e) 0 e.mapped ∧
          ∀ gap ∈ gaps (mappedAt e) (pagesOf e) 0 e.mapped,
            (gap.2 : Int) ≤ c.maxAlignPages - top (mappedAt e) (pagesOf e) 0 e.mapped :=
      searchMapArea_last placed.nonneg placed.sized placed.stacked none_ (by decide)
    have here : ExactHole c e (top (mappedAt e) (pagesOf e) 0 e.mapped) n := only.mpr ⟨rfl, last⟩
    have taken : ((∃ page, ExactHole c e page n) →
        ∃ page : Nat, (e.searchEmptyMapArea c n).1 = page ∧ ExactHole c e page n) ↔
          (e.searchEmptyMapArea c n).1 = top (mappedAt e) (pagesOf e) 0 e.mapped := by
      constructor
      · intro prefers
        obtain ⟨page, result, exact_⟩ := prefers ⟨_, here⟩
        rw [result, (only.mp exact_).1]
      · intro result _
        exact ⟨_, result, here⟩
    apply taken.trans
    apply scan.trans
    constructor
    · rintro ⟨-, smaller⟩ _
      refine Or.inr fun page m exact_ => ?_
      by_cases positive : 0 < m
      · rcases (hole positive).mp exact_ with inside | ⟨-, whole⟩
        · have size := smaller _ inside
          dsimp only at size
          omega
        · omega
      · omega
    · intro fits
      refine ⟨by omega, fun gap inside => ?_⟩
      rcases fits ⟨_, here, last⟩ with ⟨page, exact_, early⟩ | smaller
      · obtain ⟨rfl, whole⟩ := only.mp exact_
        omega
      · by_cases positive : 0 < gap.2
        · have size := smaller gap.1 gap.2 ((hole positive).mpr (Or.inl inside))
          omega
        · omega
  · have absent (page : Nat) (exact_ : ExactHole c e page n) : False := last (only.mp exact_).2
    apply iff_of_true
    · rintro ⟨page, exact_⟩
      exact (absent page exact_).elim
    · rintro ⟨page, exact_, -⟩
      exact (absent page exact_).elim

section

variable {d : Nat}

theorem mappedAt_unmap {x : Nat} (ne : x ≠ d) : mappedAt (e.unmapMemblk c d).2 x = mappedAt e x := by
  unfold mappedAt
  rw [unmap_other ne]

theorem pagesOf_unmap {x : Nat} (ne : x ≠ d) : pagesOf (e.unmapMemblk c d).2 x = pagesOf e x := by
  unfold pagesOf
  rw [unmap_other ne]

theorem Placed.unmap (placed : Placed c e) : Placed c (e.unmapMemblk c d).2 := by
  have member {x : Nat} (inside : x ∈ (e.unmapMemblk c d).2.mapped) : x ≠ d ∧ x ∈ e.mapped :=
    placed.nodup.mem_erase_iff.mp inside
  constructor
  · apply (placed.stacked.sublist List.erase_sublist).congr
    intro x inside
    obtain ⟨ne, -⟩ := member inside
    exact ⟨mappedAt_unmap ne, pagesOf_unmap ne⟩
  · intro x inside
    obtain ⟨ne, old⟩ := member inside
    rw [unmap_other ne]
    exact placed.sized x old
  · intro x inside
    obtain ⟨ne, old⟩ := member inside
    rw [unmap_other ne]
    exact placed.nonneg x old
  · exact placed.order.erase d

theorem Placed.unmap_size (placed : Placed c e) {xs ys : List Nat} (split : e.mapped = xs ++ d :: ys) :
    (e.unmapMemblk c d).1 =
      (ys.head?.elim c.maxAlignPages (mappedAt e) : Nat) - (top (mappedAt e) (pagesOf e) 0 xs : Nat) := by
  have nodup := placed.nodup
  rw [split] at nodup
  have fresh : d ∉ xs := fun inside => (List.nodup_append.mp nodup).2.2 d inside d List.mem_cons_self rfl
  have page {x : Nat} (inside : x ∈ e.mapped) : (e.blk x).mappedPage = mappedAt e x :=
    (Int.toNat_of_nonneg (placed.nonneg x inside)).symm
  unfold unmapMemblk
  dsimp only
  rw [split, entryBefore_append fresh, entryBehind_append fresh, Option.or_none, top_eq]
  congr 1
  · cases found : ys.head? with
    | none => rfl
    | some q =>
      have inside : q ∈ e.mapped := by
        rw [split]
        exact List.mem_append_right xs (List.mem_cons_of_mem d (List.mem_of_mem_head? found))
      exact page inside
  · cases found : xs.getLast? with
    | none => rfl
    | some q =>
      have inside : q ∈ e.mapped := by
        rw [split]
        exact List.mem_append_left _ (List.mem_of_getLast? found)
      simp only [page inside, Option.elim_some, Int.natCast_add]
      rfl

theorem Placed.room_unmap (placed : Placed c e) (gone : List Nat) :
    RoomWithout c (e.unmapMemblk c d).2 gone n ↔ RoomWithout c e (d :: gone) n := by
  have erased : (e.unmapMemblk c d).2.mapped = e.mapped.erase d := rfl
  unfold RoomWithout
  rw [erased, placed.nodup.erase_eq_filter, List.filter_filter]
  have same : (e.mapped.filter fun x => decide (x ∉ gone) && (x != d)) = e.mapped.filter fun x => x ∉ d :: gone := by
    apply List.filter_congr
    intro x _
    rw [Bool.eq_iff_iff]
    simp [and_comm]
  rw [same]
  apply vacancy_congr
  intro x inside
  have ne : x ≠ d := fun equal => by simp [equal] at inside
  exact ⟨mappedAt_unmap ne, pagesOf_unmap ne⟩

theorem Placed.unmap_enough (placed : Placed c e) (inside : d ∈ e.mapped) (full : ¬ RoomWithout c e [] n) :
    (n : Int) ≤ (e.unmapMemblk c d).1 ↔ RoomWithout c (e.unmapMemblk c d).2 [] n := by
  obtain ⟨xs, ys, split⟩ := List.mem_iff_append.mp inside
  have nodup := placed.nodup
  have stacked := placed.stacked
  have sized := placed.sized
  rw [roomWithout_nil] at full
  rw [placed.room_unmap, placed.unmap_size split]
  rw [split] at nodup stacked sized full
  have others : (e.mapped.filter fun x => x ∉ [d]) = xs ++ ys := by
    have erased : e.mapped.erase d = xs ++ ys := by
      have fresh : d ∉ xs := fun early => (List.nodup_append.mp nodup).2.2 d early d List.mem_cons_self rfl
      rw [split, List.erase_append_right _ fresh, List.erase_cons_head]
    rw [← erased, placed.nodup.erase_eq_filter]
    apply List.filter_congr
    intro x _
    rw [Bool.eq_iff_iff]
    simp
  unfold RoomWithout
  rw [others, vacancy_remove stacked sized]
  simp only [full, false_or]
  omega

end

end Emu10k1

end AlsaDriver.Pci
