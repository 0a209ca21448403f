import Mathlib.Algebra.GroupWithZero.Nat
import Mathlib.Algebra.BigOperators.Group.List.Basic
import AlsaDriver.Pci.Emu10k1

namespace AlsaDriver.Pci

open Function Extents

theorem mem_pageRange {first last : Int} (positive : 0 ≤ first) {p : Nat} :
    p ∈ pageRange first last ↔ first ≤ p ∧ (p : Int) ≤ last := by
  unfold pageRange
  rw [List.mem_range'_1]
  omega

namespace PageTables

variable {c : Emu10k1Card} {t : PageTables} {p : Nat}

/-- `page_ptr_table` has as many pages as were allocated and not given back. -/
def Balanced (t : PageTables) (p : Nat) : Prop := t.gets p = t.frees p + if (t.ptr p).isSome then 1 else 0

/-- What giving back the pages `l` does to entry `p`. -/
structure Freed (t t' : PageTables) (l : List Nat) (p : Nat) : Prop where
  addr : t'.addr p = if p ∈ l then 0 else t.addr p
  ptr : t'.ptr p = if p ∈ l then none else t.ptr p
  gets : t'.gets p = t.gets p
  frees : t'.frees p = t.frees p + if p ∈ l ∧ (t.ptr p).isSome then 1 else 0

theorem freePage_freed (page p : Nat) : Freed t (t.freePage page) [page] p := by
  have member : p ∈ [page] ↔ p = page := List.mem_singleton
  constructor
  · simp only [freePage, update_apply, member]
  · simp only [freePage, update_apply, member]
  · rfl
  · simp only [freePage, member]
    by_cases same : p = page
    · subst same
      cases t.ptr p with
      | none => simp
      | some frame => simp
    · simp only [same, false_and, if_false, Nat.add_zero]
      split
      · rfl
      · exact update_of_ne same ..

theorem foldl_freed (l : List Nat) (p : Nat) : Freed t (l.foldl freePage t) l p := by
  induction l generalizing t with
  | nil => exact ⟨rfl, rfl, rfl, by simp⟩
  | cons page rest ih =>
    have first := freePage_freed (t := t) page p
    have later := ih (t := t.freePage page)
    rw [List.foldl_cons]
    constructor
    · rw [later.addr, first.addr]
      simp only [List.mem_cons, List.not_mem_nil, or_false]
      split <;> simp_all
    · rw [later.ptr, first.ptr]
      simp only [List.mem_cons, List.not_mem_nil, or_false]
      split <;> simp_all
    · rw [later.gets, first.gets]
    · rw [later.frees, first.frees, first.ptr]
      simp only [List.mem_cons, List.not_mem_nil, or_false]
      by_cases now : p = page
      · simp [now]
      · simp [now]

theorem synthFreePages_freed (first last : Int) (p : Nat) :
    Freed t (t.synthFreePages first last) (pageRange first last) p := foldl_freed ..

theorem Freed.balanced {t' : PageTables} {l : List Nat} (freed : Freed t t' l p) (before : t.Balanced p) : t'.Balanced p := by
  unfold Balanced at *
  rw [freed.gets, freed.frees, freed.ptr, before]
  by_cases member : p ∈ l
  · simp [member]
  · simp [member]

/-- What allocating the pages `l` does to entry `p`. -/
structure Got (t t' : PageTables) (l : List Nat) (p : Nat) : Prop where
  addr : p ∉ l → t'.addr p = t.addr p
  new : p ∈ l → (t'.ptr p).isSome = true
  old : p ∉ l → t'.ptr p = t.ptr p
  gets : t'.gets p = t.gets p + if p ∈ l then 1 else 0
  frees : t'.frees p = t.frees p

/-- What a loop does to entry `p` that has come from `page` to `stop` and gives everything from `first` back. -/
structure Undone (t t' : PageTables) (first page stop p : Nat) : Prop where
  addr : ¬ (first ≤ p ∧ p < stop) → t'.addr p = t.addr p
  ptr : t'.ptr p = if first ≤ p ∧ p < stop then none else t.ptr p
  gets : t'.gets p = t.gets p + if page ≤ p ∧ p < stop then 1 else 0
  frees : t'.frees p = t.frees p + if first ≤ p ∧ p < stop then 1 else 0

theorem allocPages_undone {first page : Nat} (held : ∀ p, first ≤ p → p < page → (t.ptr p).isSome = true) (p : Nat) :
    Undone t (t.synthFreePages first ((page : Int) - 1)) first page page p := by
  have freed := synthFreePages_freed (t := t) first ((page : Int) - 1) p
  have member : p ∈ pageRange first ((page : Int) - 1) ↔ first ≤ p ∧ p < page := by
    rw [mem_pageRange (Int.natCast_nonneg first)]
    omega
  have some_ : p ∈ pageRange first ((page : Int) - 1) ∧ (t.ptr p).isSome = true ↔ first ≤ p ∧ p < page := by
    rw [member]
    exact ⟨fun both => both.1, fun inside => ⟨inside, held p inside.1 inside.2⟩⟩
  constructor
  · intro outside
    rw [freed.addr, if_neg (fun inside => outside (member.mp inside))]
  · rw [freed.ptr]
    simp only [member]
  · rw [freed.gets, if_neg (by omega), Nat.add_zero]
  · rw [freed.frees]
    simp only [some_]

theorem storePage_got (page : Nat) (pfn : UInt64) (p : Nat) : Got t (t.storePage c page pfn) [page] p := by
  have member : p ∈ [page] ↔ p = page := List.mem_singleton
  unfold storePage
  by_cases same : p = page
  · constructor <;> simp [same]
  · constructor <;> simp [same]

theorem Got.cons {t' t'' : PageTables} {page : Nat} {l : List Nat} (first : Got t t' [page] p) (later : Got t' t'' l p)
    (once : page ∉ l) : Got t t'' (page :: l) p := by
  have head : p ∈ page :: l ↔ p = page ∨ p ∈ l := List.mem_cons
  have member : p ∈ [page] ↔ p = page := List.mem_singleton
  have apart : p = page → p ∉ l := fun same => same ▸ once
  constructor
  · intro outside
    rw [head, not_or] at outside
    rw [later.addr outside.2, first.addr (fun inside => outside.1 (member.mp inside))]
  · intro inside
    by_cases same : p = page
    · rw [later.old (apart same)]
      exact first.new (member.mpr same)
    · exact later.new ((head.mp inside).resolve_left same)
  · intro outside
    rw [head, not_or] at outside
    rw [later.old outside.2, first.old (fun inside => outside.1 (member.mp inside))]
  · rw [later.gets, first.gets]
    by_cases same : p = page
    · rw [if_neg (apart same), if_pos (member.mpr same), if_pos (head.mpr (Or.inl same))]
    · simp [member, head, same]
  · rw [later.frees, first.frees]

theorem allocPages_spec (tries : Nat → Option UInt64 × Option UInt64) (first n page : Nat) (earlier : first ≤ page)
    (held : ∀ p, first ≤ p → p < page → (t.ptr p).isSome = true) :
    ((allocPages c tries first (List.range' page n) t).1 = 0 ∧
      ∀ p, Got t (allocPages c tries first (List.range' page n) t).2 (List.range' page n) p) ∨
    ((allocPages c tries first (List.range' page n) t).1 = -ENOMEM ∧ ∃ stop, page ≤ stop ∧ stop < page + n ∧
      ∀ p, Undone t (allocPages c tries first (List.range' page n) t).2 first page stop p) := by
  induction n generalizing page t with
  | zero => exact Or.inl ⟨rfl, fun p => ⟨fun _ => rfl, fun inside => absurd inside List.not_mem_nil, fun _ => rfl, rfl, rfl⟩⟩
  | succ n ih =>
    rw [List.range'_succ]
    unfold allocPages
    cases allocPage c (tries page) with
    | none => exact Or.inr ⟨rfl, page, Nat.le_refl page, by omega, allocPages_undone held⟩
    | some pfn =>
      dsimp only
      have now (p : Nat) : Got t (t.storePage c page pfn) [page] p := storePage_got page pfn p
      have member (p : Nat) : p ∈ [page] ↔ p = page := List.mem_singleton
      have held' (p : Nat) (low : first ≤ p) (high : p < page + 1) : ((t.storePage c page pfn).ptr p).isSome = true := by
        by_cases same : p = page
        · exact (now p).new ((member p).mpr same)
        · rw [(now p).old (fun inside => same ((member p).mp inside))]
          exact held p low (by omega)
      rcases ih (page + 1) (by omega) held' with ⟨success, got⟩ | ⟨failure, stop, low, high, undone⟩
      · refine Or.inl ⟨success, fun p => (now p).cons (got p) ?_⟩
        rw [List.mem_range'_1]
        omega
      · refine Or.inr ⟨failure, stop, by omega, by omega, fun p => ?_⟩
        have later := undone p
        constructor
        · intro outside
          rw [later.addr outside, (now p).addr (fun inside => by have same := (member p).mp inside; omega)]
        · rw [later.ptr]
          split
          · rfl
          · exact (now p).old fun inside => by have same := (member p).mp inside; omega
        · rw [later.gets, (now p).gets]
          simp only [member]
          split <;> split <;> split <;> omega
        · rw [later.frees, (now p).frees]

theorem Got.balanced {t' : PageTables} {l : List Nat} (got : Got t t' l p) (free : p ∈ l → t.ptr p = none)
    (before : t.Balanced p) : t'.Balanced p := by
  unfold Balanced at *
  rw [got.gets, got.frees, before]
  by_cases inside : p ∈ l
  · rw [free inside, if_pos inside, if_pos (got.new inside)]
    rfl
  · rw [got.old inside, if_neg inside, Nat.add_zero]

theorem Undone.balanced {t' : PageTables} {first stop : Nat} (undone : Undone t t' first first stop p)
    (free : first ≤ p → p < stop → t.ptr p = none) (before : t.Balanced p) : t'.ptr p = t.ptr p ∧ t'.Balanced p := by
  have ptr : t'.ptr p = t.ptr p := by
    rw [undone.ptr]
    split
    · rename_i inside
      exact (free inside.1 inside.2).symm
    · rfl
  refine ⟨ptr, ?_⟩
  unfold Balanced at *
  rw [undone.gets, undone.frees, ptr, before]
  omega

/-- Entry `p` after a loop over `l` that has given back all it got. -/
structure Restored (t t' : PageTables) (l : List Nat) (p : Nat) : Prop where
  addr : p ∉ l → t'.addr p = t.addr p
  ptr : (p ∈ l → t.ptr p = none) → t'.ptr p = t.ptr p
  balanced : (p ∈ l → t.ptr p = none) → t.Balanced p → t'.Balanced p

theorem allocPages_pageRange (tries : Nat → Option UInt64 × Option UInt64) {first last : Int} (positive : 0 ≤ first) :
    ((allocPages c tries first (pageRange first last) t).1 = 0 ∧
      ∀ p, Got t (allocPages c tries first (pageRange first last) t).2 (pageRange first last) p) ∨
    ((allocPages c tries first (pageRange first last) t).1 = -ENOMEM ∧
      ∀ p, Restored t (allocPages c tries first (pageRange first last) t).2 (pageRange first last) p) := by
  obtain ⟨start, rfl⟩ := Int.eq_ofNat_of_zero_le positive
  have spec := allocPages_spec (c := c) (t := t) tries start (last + 1 - start).toNat start (Nat.le_refl start)
    (fun p low high => absurd high (Nat.not_lt.mpr low))
  have range : List.range' start (last + 1 - start).toNat = pageRange start last := rfl
  rw [range] at spec
  rcases spec with success | ⟨failure, stop, low, high, undone⟩
  · exact Or.inl success
  · refine Or.inr ⟨failure, fun p => ?_⟩
    have member (below : p < stop) (above : start ≤ p) : p ∈ pageRange (start : Int) last := by
      rw [mem_pageRange positive]
      omega
    have same := undone p
    refine ⟨fun outside => same.addr fun inside => outside (member inside.2 inside.1), fun free => ?_, fun free before => ?_⟩
    · rw [same.ptr]
      split
      · rename_i inside
        exact (free (member inside.2 inside.1)).symm
      · rfl
    · exact (same.balanced (fun above below => free (member below above)) before).2

/-- What a PCM buffer that comes to the pages `page` to `stop` does to entry `p`. -/
structure Filled (t t' : PageTables) (page stop p : Nat) : Prop where
  addr : ¬ (page ≤ p ∧ p < stop) → t'.addr p = t.addr p
  ptr : t'.ptr p = t.ptr p ∨ page ≤ p ∧ p < stop ∧ t'.ptr p = none
  gets : t'.gets p = t.gets p
  frees : t'.frees p = t.frees p

theorem fillPages_filled (addr : Nat → UInt64) (count page idx p : Nat) :
    Filled t (fillPages c addr count page idx t).2 page (page + count) p := by
  induction count generalizing page idx t with
  | zero => exact ⟨fun _ => rfl, Or.inl rfl, rfl, rfl⟩
  | succ count ih =>
    unfold fillPages
    split
    · have later := ih (page + 1) (idx + 1)
        (t := { t with addr := update t.addr page (addr idx), ptr := update t.ptr page none })
      refine ⟨fun outside => ?_, ?_, later.gets, later.frees⟩
      · have other : p ≠ page := by omega
        exact (later.addr (by omega)).trans (update_of_ne other ..)
      · rcases later.ptr with same | ⟨low, high, null⟩
        · by_cases here : p = page
          · refine Or.inr ⟨by omega, by omega, same.trans ?_⟩
            show update t.ptr page none p = none
            rw [here, update_self]
          · exact Or.inl (same.trans (update_of_ne here ..))
        · exact Or.inr ⟨by omega, by omega, null⟩
    · exact ⟨fun _ => rfl, Or.inl rfl, rfl, rfl⟩

theorem fillPages_valid (addr : Nat → UInt64) (count page idx : Nat) :
    (fillPages c addr count page idx t).1 = true ↔ ∀ i < count, c.isValidPage (addr (idx + i)) = true := by
  induction count generalizing page idx t with
  | zero => exact ⟨fun _ i small => absurd small (Nat.not_lt_zero i), fun _ => rfl⟩
  | succ count ih =>
    unfold fillPages
    by_cases valid : c.isValidPage (addr idx) = true
    · rw [if_pos valid, ih]
      constructor
      · intro later i small
        cases i with
        | zero => exact valid
        | succ i =>
          rw [show idx + (i + 1) = idx + 1 + i by omega]
          exact later i (by omega)
      · intro all i small
        rw [show idx + 1 + i = idx + (i + 1) by omega]
        exact all (i + 1) (by omega)
    · rw [if_neg valid]
      exact ⟨fun wrong => absurd wrong Bool.false_ne_true, fun all => absurd (all 0 (Nat.zero_lt_succ count)) valid⟩

theorem Filled.balanced {t' : PageTables} {page stop : Nat} (filled : Filled t t' page stop p)
    (free : page ≤ p → p < stop → t.ptr p = none) (before : t.Balanced p) : t'.ptr p = t.ptr p ∧ t'.Balanced p := by
  have ptr : t'.ptr p = t.ptr p := by
    rcases filled.ptr with same | ⟨low, high, null⟩
    · exact same
    · rw [null, free low high]
  refine ⟨ptr, ?_⟩
  unfold Balanced at *
  rw [filled.gets, filled.frees, ptr, before]

end PageTables

/-- The fields that `emu10k1_memblk_init` gives a block. -/
def newMemblk (c : Emu10k1Card) (synth : Bool) (offset size : Nat) : Memblk where
  offset := offset
  size := size
  firstPage := c.getAlignedPage offset
  lastPage := c.getAlignedPage (offset + size - 1)
  pages := c.getAlignedPage (offset + size - 1) - c.getAlignedPage offset + 1
  mappedPage := -1
  mapLocked := 0
  synth := synth

def Memblk.Covers (m : Memblk) (p : Nat) : Prop := m.firstPage ≤ p ∧ p ≤ m.lastPage

structure Memblk.Paged (c : Emu10k1Card) (m : Memblk) : Prop where
  first : m.firstPage = c.getAlignedPage m.offset
  last : m.lastPage = c.getAlignedPage (m.offset + m.size - 1)
  pages : m.pages = m.lastPage - m.firstPage + 1

theorem newMemblk_paged (c : Emu10k1Card) (synth : Bool) (offset size : Nat) : (newMemblk c synth offset size).Paged c :=
  ⟨rfl, rfl, rfl⟩

namespace Emu10k1

variable {c : Emu10k1Card} {e : Emu10k1} {b p : Nat}

/-- The blocks of `memhdr`. -/
structure Blocks (c : Emu10k1Card) (e : Emu10k1) : Prop where
  stacked : Stacked (fun b => (e.blk b).offset) (fun b => (e.blk b).size) 0 e.block c.memSize
  sized : ∀ b ∈ e.block, 0 < (e.blk b).size
  paged : ∀ b ∈ e.block, (e.blk b).Paged c
  aligned : ∀ b ∈ e.block, (e.blk b).synth = false → c.pageSize ∣ (e.blk b).offset ∧ c.pageSize ∣ (e.blk b).size
  nblocks : e.nblocks = e.block.length
  used : e.used = (e.block.map fun b => (e.blk b).size).sum

/-- Block `x` ends on no later page than `y` begins, and on an earlier one if one of them is a PCM buffer. -/
def Before (e : Emu10k1) (x y : Nat) : Prop :=
  (e.blk x).lastPage ≤ (e.blk y).firstPage ∧
    ((e.blk x).synth = false ∨ (e.blk y).synth = false → (e.blk x).lastPage < (e.blk y).firstPage)

theorem pageSize_pos (c : Emu10k1Card) : 0 < c.pageSize := Nat.two_pow_pos _

theorem Blocks.nodup (blocks : Blocks c e) : e.block.Nodup := blocks.stacked.nodup blocks.sized

theorem Blocks.first_le_last (blocks : Blocks c e) (inside : b ∈ e.block) : (e.blk b).firstPage ≤ (e.blk b).lastPage := by
  have paged := blocks.paged b inside
  have sized := blocks.sized b inside
  rw [paged.first, paged.last]
  exact Nat.div_le_div_right (by omega)

theorem Blocks.before (blocks : Blocks c e) : e.block.Pairwise (Before e) := by
  apply List.Pairwise.imp_of_mem _ blocks.stacked.pairwise
  intro x y left right apart
  have positive := pageSize_pos c
  have sized := blocks.sized x left
  unfold Before
  rw [(blocks.paged x left).last, (blocks.paged y right).first]
  unfold Emu10k1Card.getAlignedPage
  refine ⟨Nat.div_le_div_right (by omega), ?_⟩
  rintro (pcm | pcm)
  · obtain ⟨offset, size⟩ := blocks.aligned x left pcm
    obtain ⟨stop, multiple⟩ := Nat.dvd_add offset size
    have inside : (e.blk x).offset + (e.blk x).size - 1 < stop * c.pageSize := by rw [Nat.mul_comm]; omega
    have below : stop ≤ (e.blk y).offset / c.pageSize := by
      rw [Nat.le_div_iff_mul_le positive, Nat.mul_comm]
      omega
    exact Nat.lt_of_lt_of_le ((Nat.div_lt_iff_lt_mul positive).mpr inside) below
  · obtain ⟨start, multiple⟩ := (blocks.aligned y right pcm).1
    rw [multiple, Nat.mul_div_cancel_left start positive, Nat.div_lt_iff_lt_mul positive, Nat.mul_comm]
    omega

section

variable {xs ys : List Nat}

theorem Blocks.fresh (blocks : Blocks c e) (split : e.block = xs ++ b :: ys) : b ∉ xs := by
  have nodup := blocks.nodup
  rw [split] at nodup
  exact fun inside => (List.nodup_append.mp nodup).2.2 b inside b List.mem_cons_self rfl

theorem Blocks.left (blocks : Blocks c e) (split : e.block = xs ++ b :: ys) {x : Nat} (inside : x ∈ xs) :
    (e.blk x).firstPage ≤ (e.blk x).lastPage ∧ (e.blk x).lastPage ≤ (e.blk b).firstPage := by
  have order := blocks.before
  rw [split] at order
  exact ⟨blocks.first_le_last (split ▸ List.mem_append_left _ inside),
    ((List.pairwise_append.mp order).2.2 x inside b List.mem_cons_self).1⟩

theorem Blocks.right (blocks : Blocks c e) (split : e.block = xs ++ b :: ys) {y : Nat} (inside : y ∈ ys) :
    (e.blk y).firstPage ≤ (e.blk y).lastPage ∧ (e.blk b).lastPage ≤ (e.blk y).firstPage := by
  have order := blocks.before
  rw [split] at order
  exact ⟨blocks.first_le_last (split ▸ List.mem_append_right xs (List.mem_cons_of_mem b inside)),
    ((List.pairwise_cons.mp (List.pairwise_append.mp order).2.1).1 y inside).1⟩

theorem Blocks.single_low (blocks : Blocks c e) (split : e.block = xs ++ b :: ys) (p : Nat) :
    ((e.getSinglePageRange b).1 ≤ p ↔ (e.blk b).firstPage ≤ p ∧ ∀ x ∈ xs, ¬ (e.blk x).Covers p) ∧
      0 ≤ (e.getSinglePageRange b).1 := by
  have order := blocks.before
  rw [split] at order
  unfold getSinglePageRange
  dsimp only
  rw [split, entryBefore_append (blocks.fresh split), Option.or_none]
  cases last : xs.getLast? with
  | none =>
    rw [List.getLast?_eq_none_iff] at last
    simp [last]
  | some q =>
    obtain ⟨init, rfl⟩ := List.getLast?_eq_some_iff.mp last
    have final : q ∈ init ++ [q] := List.mem_append_right init List.mem_cons_self
    have neighbour := blocks.left split final
    have earlier (x : Nat) (inside : x ∈ init ++ [q]) : (e.blk x).lastPage ≤ (e.blk q).lastPage := by
      rcases List.mem_append.mp inside with early | same
      · have before := ((List.pairwise_append.mp (List.pairwise_append.mp order).1).2.2 x early q List.mem_cons_self).1
        omega
      · exact Nat.le_of_eq (congrArg (fun z => (e.blk z).lastPage) (List.mem_singleton.mp same))
    dsimp only
    constructor
    · constructor
      · intro bound
        split at bound
        · refine ⟨by omega, fun x inside covers => ?_⟩
          have limit := (blocks.left split inside).2
          have high := covers.2
          omega
        · refine ⟨by omega, fun x inside covers => ?_⟩
          have limit := earlier x inside
          have high := covers.2
          omega
      · rintro ⟨bound, free⟩
        split
        · have outside := free q final
          unfold Memblk.Covers at outside
          omega
        · omega
    · split <;> omega

theorem Blocks.single_high (blocks : Blocks c e) (split : e.block = xs ++ b :: ys) (p : Nat) :
    (p : Int) ≤ (e.getSinglePageRange b).2 ↔
      p ≤ (e.blk b).lastPage ∧ ((e.blk b).firstPage ≤ p → ∀ y ∈ ys, ¬ (e.blk y).Covers p) := by
  have order := blocks.before
  rw [split] at order
  have span := blocks.first_le_last (split ▸ List.mem_append_right xs List.mem_cons_self : b ∈ e.block)
  unfold getSinglePageRange
  dsimp only
  rw [split, entryBehind_append (blocks.fresh split)]
  cases ys with
  | nil => simp
  | cons q rest =>
    have neighbour := blocks.right split (y := q) List.mem_cons_self
    have later (y : Nat) (inside : y ∈ q :: rest) : (e.blk q).firstPage ≤ (e.blk y).firstPage := by
      rcases List.mem_cons.mp inside with same | behind
      · exact Nat.le_of_eq (congrArg (fun z => (e.blk z).firstPage) same.symm)
      · have tail := (List.pairwise_cons.mp (List.pairwise_append.mp order).2.1).2
        have before := ((List.pairwise_cons.mp tail).1 y behind).1
        omega
    dsimp only [List.head?_cons]
    constructor
    · intro bound
      split at bound
      · refine ⟨by omega, fun _ y inside covers => ?_⟩
        have limit := (blocks.right split inside).2
        have low := covers.1
        omega
      · refine ⟨by omega, fun _ y inside covers => ?_⟩
        have limit := later y inside
        have low := covers.1
        omega
    · rintro ⟨bound, free⟩
      split
      · by_cases inside : (e.blk b).firstPage ≤ p
        · have outside := free inside q List.mem_cons_self
          unfold Memblk.Covers at outside
          omega
        · omega
      · omega

theorem Blocks.mem_singlePages (blocks : Blocks c e) (split : e.block = xs ++ b :: ys) :
    p ∈ pageRange (e.getSinglePageRange b).1 (e.getSinglePageRange b).2 ↔
      (e.blk b).Covers p ∧ ∀ x ∈ xs ++ ys, ¬ (e.blk x).Covers p := by
  have low := blocks.single_low split p
  rw [mem_pageRange low.2, low.1, blocks.single_high split]
  unfold Memblk.Covers
  constructor
  · rintro ⟨⟨first, before⟩, last, behind⟩
    refine ⟨⟨first, last⟩, fun x inside => ?_⟩
    rcases List.mem_append.mp inside with early | late
    · exact before x early
    · exact behind first x late
  · rintro ⟨⟨first, last⟩, free⟩
    exact ⟨⟨first, fun x inside => free x (List.mem_append_left ys inside)⟩, last,
      fun _ y inside => free y (List.mem_append_right xs inside)⟩

end

end Emu10k1

end AlsaDriver.Pci
