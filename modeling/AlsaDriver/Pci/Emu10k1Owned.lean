import AlsaDriver.Pci.Emu10k1Blocks

namespace AlsaDriver.Pci

open Function Extents

namespace Emu10k1

variable {c : Emu10k1Card} {e e' : Emu10k1} {b p : Nat} {m : Memblk}

/-- `e` with the block `m` behind the first `pos` blocks. -/
def addBlock (e : Emu10k1) (pos b : Nat) (m : Memblk) : Emu10k1 :=
  { e with
    blk := update e.blk b m
    block := e.block.take pos ++ b :: e.block.drop pos
    nblocks := e.nblocks + 1
    used := e.used + m.size }

/-- There is room for `size` bytes from `offset` on between the first `pos` blocks and the other ones. -/
structure Fits (c : Emu10k1Card) (e : Emu10k1) (pos offset size : Nat) : Prop where
  sized : 0 < size
  above : top (fun b => (e.blk b).offset) (fun b => (e.blk b).size) 0 (e.block.take pos) ≤ offset
  below : Stacked (fun b => (e.blk b).offset) (fun b => (e.blk b).size) (offset + size) (e.block.drop pos) c.memSize

structure SameBlocks (e e' : Emu10k1) : Prop where
  block : e'.block = e.block
  nblocks : e'.nblocks = e.nblocks
  used : e'.used = e.used
  fields : ∀ b ∈ e.block, ∃ page lock, e'.blk b = { e.blk b with mappedPage := page, mapLocked := lock }

theorem SameBlocks.refl (e : Emu10k1) : SameBlocks e e := ⟨rfl, rfl, rfl, fun _ _ => ⟨_, _, rfl⟩⟩

theorem Blocks.congr (blocks : Blocks c e) (same : SameBlocks e e') : Blocks c e' := by
  have field {α : Type} (f : Memblk → α) (other : ∀ m page lock, f { m with mappedPage := page, mapLocked := lock } = f m)
      (b : Nat) (inside : b ∈ e.block) : f (e'.blk b) = f (e.blk b) := by
    obtain ⟨page, lock, equal⟩ := same.fields b inside
    rw [equal, other]
  have offset := field Memblk.offset fun _ _ _ => rfl
  have size := field Memblk.size fun _ _ _ => rfl
  have paged := field (Memblk.Paged c) fun _ _ _ => propext ⟨fun m => ⟨m.1, m.2, m.3⟩, fun m => ⟨m.1, m.2, m.3⟩⟩
  have synth := field Memblk.synth fun _ _ _ => rfl
  constructor
  · rw [same.block]
    exact blocks.stacked.congr fun b inside => ⟨offset b inside, size b inside⟩
  · intro b inside
    rw [same.block] at inside
    exact (size b inside) ▸ blocks.sized b inside
  · intro b inside
    rw [same.block] at inside
    exact (paged b inside) ▸ blocks.paged b inside
  · intro b inside pcm
    rw [same.block] at inside
    rw [offset b inside, size b inside]
    exact blocks.aligned b inside ((synth b inside).symm.trans pcm)
  · rw [same.nblocks, same.block, blocks.nblocks]
  · rw [same.used, same.block, blocks.used]
    exact congrArg List.sum (List.map_congr_left fun b inside => (size b inside).symm)

theorem Blocks.addBlock (blocks : Blocks c e) (fresh : b ∉ e.block) {pos : Nat} (fits : Fits c e pos m.offset m.size)
    (paged : m.Paged c) (aligned : m.synth = false → c.pageSize ∣ m.offset ∧ c.pageSize ∣ m.size) :
    Blocks c (e.addBlock pos b m) := by
  have other (x : Nat) (inside : x ∈ e.block) : update e.blk b m x = e.blk x :=
    update_of_ne (fun (same : x = b) => fresh (same ▸ inside)) ..
  have parts := List.take_append_drop pos e.block
  have old (x : Nat) (inside : x ∈ e.block.take pos ++ b :: e.block.drop pos) : x = b ∨ x ∈ e.block := by
    rcases List.mem_append.mp inside with early | late
    · exact Or.inr (List.mem_of_mem_take early)
    · exact (List.mem_cons.mp late).imp id List.mem_of_mem_drop
  have all {P : Memblk → Prop} (new : P m) (kept : ∀ x ∈ e.block, P (e.blk x)) (x : Nat)
      (inside : x ∈ e.block.take pos ++ b :: e.block.drop pos) : P (update e.blk b m x) := by
    rcases old x inside with same | member
    · rw [same, update_self]
      exact new
    · rw [other x member]
      exact kept x member
  constructor
  · have unchanged (x : Nat) (inside : x ∈ e.block) : (update e.blk b m x).offset = (e.blk x).offset ∧
        (update e.blk b m x).size = (e.blk x).size := by
      rw [other x inside]
      exact ⟨rfl, rfl⟩
    have placed := blocks.stacked.congr unchanged
    rw [← parts] at placed
    have new : update e.blk b m b = m := update_self ..
    refine placed.insert ?_ ?_
    · rw [top_congr fun x inside => unchanged x (List.mem_of_mem_take inside), new]
      exact fits.above
    · rw [new]
      exact fits.below.congr fun x inside => unchanged x (List.mem_of_mem_drop inside)
  · exact all (P := fun m => 0 < m.size) fits.sized blocks.sized
  · exact all paged blocks.paged
  · exact all (P := fun m => m.synth = false → c.pageSize ∣ m.offset ∧ c.pageSize ∣ m.size) aligned blocks.aligned
  · show e.nblocks + 1 = (e.block.take pos ++ b :: e.block.drop pos).length
    rw [blocks.nblocks, List.length_append, List.length_cons, ← Nat.add_assoc, ← List.length_append, parts]
  · show e.used + m.size = ((e.block.take pos ++ b :: e.block.drop pos).map fun x => (update e.blk b m x).size).sum
    have sizes (l : List Nat) (part : ∀ x ∈ l, x ∈ e.block) : (l.map fun x => (update e.blk b m x).size) =
        l.map fun x => (e.blk x).size := List.map_congr_left fun x inside => congrArg Memblk.size (other x (part x inside))
    rw [List.map_append, List.map_cons, update_self, sizes _ fun x => List.mem_of_mem_take,
      sizes _ fun x => List.mem_of_mem_drop, List.sum_append, List.sum_cons, blocks.used]
    have total : (e.block.map fun x => (e.blk x).size).sum = ((e.block.take pos).map fun x => (e.blk x).size).sum +
        ((e.block.drop pos).map fun x => (e.blk x).size).sum := by
      rw [← List.sum_append, ← List.map_append, parts]
    omega

theorem sndUtilMemFree_addBlock {pos : Nat} (fresh : b ∉ e.block) :
    SameBlocks e ((e.addBlock pos b m).sndUtilMemFree b) := by
  have other (x : Nat) (inside : x ∈ e.block) : update e.blk b m x = e.blk x :=
    update_of_ne (fun (same : x = b) => fresh (same ▸ inside)) ..
  refine ⟨?_, Nat.add_sub_cancel .., ?_, fun x inside => ⟨_, _, other x inside⟩⟩
  · show (e.block.take pos ++ b :: e.block.drop pos).erase b = e.block
    rw [List.erase_append_right _ fun inside => fresh (List.mem_of_mem_take inside), List.erase_cons_head,
      List.take_append_drop]
  · show e.used + m.size - (update e.blk b m b).size = e.used
    rw [update_self, Nat.add_sub_cancel]

theorem Blocks.sndUtilMemFree (blocks : Blocks c e) (inside : b ∈ e.block) : Blocks c (e.sndUtilMemFree b) := by
  have part : (e.block.erase b).Sublist e.block := List.erase_sublist
  refine ⟨blocks.stacked.sublist part, fun x member => blocks.sized x (part.subset member),
    fun x member => blocks.paged x (part.subset member), fun x member => blocks.aligned x (part.subset member), ?_, ?_⟩
  · show e.nblocks - 1 = (e.block.erase b).length
    rw [List.length_erase_of_mem inside, blocks.nblocks]
  · show e.used - (e.blk b).size = ((e.block.erase b).map fun x => (e.blk x).size).sum
    have total := ((List.perm_cons_erase inside).map fun x => (e.blk x).size).sum_eq
    rw [List.map_cons, List.sum_cons] at total
    rw [blocks.used, total, Nat.add_sub_cancel_left]

theorem utilMemSearch_fits {units hi pos lo k : Nat} {ys : List Nat}
    (stacked : Stacked (fun b => (e.blk b).offset) (fun b => (e.blk b).size) lo ys hi)
    (found : e.utilMemSearch units hi ys pos lo = some k) : ∃ j, k = pos + j ∧
      Stacked (fun b => (e.blk b).offset) (fun b => (e.blk b).size)
        (top (fun b => (e.blk b).offset) (fun b => (e.blk b).size) lo (ys.take j) + units) (ys.drop j) hi := by
  induction ys generalizing pos lo with
  | nil =>
    simp only [utilMemSearch] at found
    split at found
    · cases found
    · cases found
      have below : lo ≤ hi := stacked
      exact ⟨0, rfl, show lo + units ≤ hi by omega⟩
  | cons q rest ih =>
    have above : lo ≤ (e.blk q).offset := stacked.1
    simp only [utilMemSearch] at found
    split at found
    · cases found
      exact ⟨0, rfl, show lo + units ≤ (e.blk q).offset by omega, stacked.2⟩
    · obtain ⟨j, place, room⟩ := ih stacked.2 found
      exact ⟨j + 1, by omega, room⟩

theorem searchPages_fits (blocks : Blocks c e) {psize pos lo page k found : Nat} {ys : List Nat} (part : ∀ x ∈ ys, x ∈ e.block)
    (stacked : Stacked (fun b => (e.blk b).offset) (fun b => (e.blk b).size) lo ys c.memSize) (cursor : lo ≤ page * c.pageSize)
    (result : e.searchPages psize c.maxCachePages ys pos page = some (k, found)) : ∃ j, k = pos + j ∧
      top (fun b => (e.blk b).offset) (fun b => (e.blk b).size) lo (ys.take j) ≤ found * c.pageSize ∧
      Stacked (fun b => (e.blk b).offset) (fun b => (e.blk b).size) (found * c.pageSize + psize * c.pageSize)
        (ys.drop j) c.memSize := by
  have positive := pageSize_pos c
  induction ys generalizing pos lo page with
  | nil =>
    simp only [searchPages] at result
    split at result
    · cases result
    · cases result
      refine ⟨0, rfl, cursor, ?_⟩
      show found * c.pageSize + psize * c.pageSize ≤ c.maxCachePages * c.pageSize
      rw [← Nat.add_mul]
      exact Nat.mul_le_mul_right _ (by omega)
  | cons q rest ih =>
    have paged := blocks.paged q (part q List.mem_cons_self)
    have sized := blocks.sized q (part q List.mem_cons_self)
    simp only [searchPages] at result
    split at result
    · rename_i room
      cases result
      refine ⟨0, rfl, cursor, ?_, stacked.2⟩
      rw [paged.first, Emu10k1Card.getAlignedPage, Nat.le_div_iff_mul_le positive] at room
      rw [← Nat.add_mul]
      exact room
    · have passed : (e.blk q).offset + (e.blk q).size ≤ ((e.blk q).lastPage + 1) * c.pageSize := by
        rw [paged.last, Emu10k1Card.getAlignedPage]
        have below := Nat.lt_mul_of_div_lt (Nat.lt_add_one (((e.blk q).offset + (e.blk q).size - 1) / c.pageSize)) positive
        omega
      obtain ⟨j, place, above, below⟩ := ih (fun x inside => part x (List.mem_cons_of_mem q inside)) stacked.2 passed result
      exact ⟨j + 1, by omega, above, below⟩

/-- `psize` whole pages that no block has a part of. -/
def Room (c : Emu10k1Card) (e : Emu10k1) (psize : Nat) : Prop :=
  ∃ page, page + psize ≤ c.maxCachePages ∧ ∀ b ∈ e.block, (e.blk b).lastPage < page ∨ page + psize ≤ (e.blk b).firstPage

theorem searchPages_none {psize pos page hole : Nat} {ys : List Nat} (behind : page ≤ hole)
    (inside : hole + psize ≤ c.maxCachePages)
    (free : ∀ b ∈ ys, (e.blk b).lastPage < hole ∨ hole + psize ≤ (e.blk b).firstPage) :
    e.searchPages psize c.maxCachePages ys pos page ≠ none := by
  induction ys generalizing pos page with
  | nil =>
    unfold searchPages
    rw [if_neg (by omega)]
    exact Option.some_ne_none _
  | cons q rest ih =>
    unfold searchPages
    split
    · exact Option.some_ne_none _
    · have here := free q List.mem_cons_self
      exact ih (by omega) fun b later => free b (List.mem_cons_of_mem q later)

theorem Fits.room (blocks : Blocks c e) {pos page psize : Nat} (fits : Fits c e pos (page * c.pageSize) (psize * c.pageSize)) :
    Room c e psize := by
  have positive := pageSize_pos c
  have parts := List.take_append_drop pos e.block
  have placed := blocks.stacked
  rw [← parts] at placed
  have limit := fits.below.le
  rw [← Nat.add_mul] at limit
  refine ⟨page, Nat.le_of_mul_le_mul_right limit positive, fun b inside => ?_⟩
  have paged := blocks.paged b inside
  have sized := blocks.sized b inside
  rw [paged.first, paged.last]
  unfold Emu10k1Card.getAlignedPage
  rw [← parts] at inside
  rcases List.mem_append.mp inside with early | late
  · have before := placed.mem_top early
    have above := fits.above
    exact Or.inl ((Nat.div_lt_iff_lt_mul positive).mpr (by omega))
  · have behind := (fits.below.mem late).1
    rw [← Nat.add_mul] at behind
    exact Or.inr ((Nat.le_div_iff_mul_le positive).mpr behind)

theorem searchPages_room (blocks : Blocks c e) {psize : Nat} (some_ : 0 < psize) :
    Room c e psize ↔ e.searchPages psize c.maxCachePages e.block 0 0 ≠ none := by
  constructor
  · rintro ⟨hole, inside, free⟩
    exact searchPages_none (Nat.zero_le hole) inside free
  · intro found
    obtain ⟨⟨k, page⟩, result⟩ := Option.ne_none_iff_exists'.mp found
    obtain ⟨j, -, above, below⟩ := searchPages_fits blocks (fun x inside => inside) blocks.stacked (Nat.zero_le _) result
    exact Fits.room blocks ⟨Nat.mul_pos some_ (pageSize_pos c), above, below⟩

theorem memblkNew_init {units pos offset : Nat} {synth : Bool} (f : Memblk → Memblk)
    (place : ∀ m, (f m).size = m.size ∧ (f m).synth = synth)
    (where_ : ∀ m, m.offset = (e.block.take pos).getLast?.elim 0 (fun p => (e.blk p).offset + (e.blk p).size) →
      (f m).offset = offset) :
    ((e.sndUtilMemblkNew units pos (some b)).2.modify b f).emu10k1MemblkInit c b =
      e.addBlock pos b (newMemblk c synth offset units) := by
  have size := fun m => (place m).1
  have kind := fun m => (place m).2
  unfold sndUtilMemblkNew modify emu10k1MemblkInit modify addBlock newMemblk
  simp only [update_self, update_idem, size, kind]
  rw [where_ _ rfl]

theorem sndUtilMemAlloc_cases (blocks : Blocks c e) (size : Int) (kmalloc : Option Nat) :
    e.sndUtilMemAlloc c size kmalloc = (none, e) ∨ ∃ b pos offset units e', kmalloc = some b ∧ Fits c e pos offset units ∧
      e.sndUtilMemAlloc c size kmalloc = (some b, e') ∧
      (e'.modify b fun m => { m with synth := true }).emu10k1MemblkInit c b = e.addBlock pos b (newMemblk c true offset units) := by
  unfold sndUtilMemAlloc
  by_cases positive : size ≤ 0
  · exact Or.inl (if_pos positive)
  · rw [if_neg positive]
    generalize amount : (if size.toNat % 2 = 1 then size.toNat + 1 else size.toNat) = units
    have some_ : 0 < units := by
      rw [← amount]
      split <;> omega
    dsimp only
    by_cases large : units > c.memSize
    · exact Or.inl (if_pos large)
    · rw [if_neg large]
      cases search : e.utilMemSearch units c.memSize e.block 0 0 with
      | none => exact Or.inl rfl
      | some pos =>
        cases kmalloc with
        | none => exact Or.inl rfl
        | some b =>
          obtain ⟨j, place, below⟩ := utilMemSearch_fits blocks.stacked search
          rw [Nat.zero_add] at place
          subst place
          refine Or.inr ⟨b, pos, _, units, _, rfl, ⟨some_, Nat.le_refl _, below⟩, rfl, ?_⟩
          apply memblkNew_init
          · exact fun m => ⟨rfl, rfl⟩
          · intro m offset
            rw [top_eq]
            exact offset

/-- The whole pages that `search_empty` looks for. -/
def psize (c : Emu10k1Card) (size : Nat) : Nat := c.getAlignedPage (size + c.pageSize - 1)

theorem psize_pos {size : Nat} (some_ : 0 < size) : 0 < psize c size :=
  Nat.div_pos (by omega) (pageSize_pos c)

theorem searchEmpty_cases (blocks : Blocks c e) (size : Nat) (some_ : 0 < size) (kmalloc : Option Nat) :
    (e.searchEmpty c size kmalloc = (none, e) ∧ (kmalloc = none ∨ ¬ Room c e (psize c size))) ∨
      ∃ b pos page, kmalloc = some b ∧ Fits c e pos (page * c.pageSize) (psize c size * c.pageSize) ∧
        e.searchEmpty c size kmalloc =
          (some b, e.addBlock pos b (newMemblk c false (page * c.pageSize) (psize c size * c.pageSize))) := by
  have positive := psize_pos (c := c) some_
  unfold searchEmpty
  dsimp only
  cases search : e.searchPages (c.getAlignedPage (size + c.pageSize - 1)) c.maxCachePages e.block 0 0 with
  | none => exact Or.inl ⟨rfl, Or.inr fun room => (searchPages_room blocks positive).mp room search⟩
  | some found =>
    obtain ⟨pos, page⟩ := found
    cases kmalloc with
    | none => exact Or.inl ⟨rfl, Or.inl rfl⟩
    | some b =>
      obtain ⟨j, place, above, below⟩ :=
        searchPages_fits blocks (fun x inside => inside) blocks.stacked (Nat.zero_le _) search
      rw [Nat.zero_add] at place
      subst place
      refine Or.inr ⟨b, pos, page, rfl, ⟨Nat.mul_pos positive (pageSize_pos c), above, below⟩, ?_⟩
      refine congrArg (Prod.mk (some b)) (memblkNew_init _ ?_ ?_)
      · exact fun m => ⟨rfl, rfl⟩
      · exact fun m _ => rfl

structure Remapped (e e' : Emu10k1) : Prop where
  block : e'.block = e.block
  nblocks : e'.nblocks = e.nblocks
  used : e'.used = e.used
  tables : e'.tables = e.tables
  reserved : e'.reserved = e.reserved
  fields : ∀ b, ∃ page, e'.blk b = { e.blk b with mappedPage := page }

theorem Remapped.refl (e : Emu10k1) : Remapped e e := ⟨rfl, rfl, rfl, rfl, rfl, fun _ => ⟨_, rfl⟩⟩

theorem Remapped.trans {e'' : Emu10k1} (first : Remapped e e') (second : Remapped e' e'') : Remapped e e'' := by
  refine ⟨second.block.trans first.block, second.nblocks.trans first.nblocks, second.used.trans first.used,
    second.tables.trans first.tables, second.reserved.trans first.reserved, ?_⟩
  intro b
  obtain ⟨page, same⟩ := first.fields b
  obtain ⟨page', same'⟩ := second.fields b
  exact ⟨page', by rw [same', same]⟩

theorem Remapped.same (remapped : Remapped e e') : SameBlocks e e' := by
  refine ⟨remapped.block, remapped.nblocks, remapped.used, fun b _ => ?_⟩
  obtain ⟨page, equal⟩ := remapped.fields b
  exact ⟨page, _, equal⟩

theorem modify_mappedPage (page : Int) (x : Nat) :
    ∃ page', (e.modify b fun m => { m with mappedPage := page }).blk x = { e.blk x with mappedPage := page' } := by
  by_cases same : x = b
  · exact ⟨page, by rw [same]; exact update_self ..⟩
  · exact ⟨_, update_of_ne same ..⟩

theorem mapMemblk_remapped : Remapped e (e.mapMemblk c b).2 := by
  unfold mapMemblk
  dsimp only
  split
  · exact Remapped.refl e
  · exact ⟨rfl, rfl, rfl, rfl, rfl, modify_mappedPage _⟩

theorem unmapMemblk_remapped : Remapped e (e.unmapMemblk c b).2 := ⟨rfl, rfl, rfl, rfl, rfl, modify_mappedPage _⟩

theorem unmapOldest_remapped (l : List Nat) (err : Int) : Remapped e (unmapOldest c b l err e).2 := by
  induction l generalizing e with
  | nil => exact Remapped.refl e
  | cons deleted rest ih =>
    unfold unmapOldest
    dsimp only
    split
    · exact ih
    · split
      · exact unmapMemblk_remapped.trans mapMemblk_remapped
      · exact unmapMemblk_remapped.trans ih

theorem memblkMap_remapped : Remapped e (e.sndEmu10k1MemblkMap c b).2 := by
  unfold sndEmu10k1MemblkMap
  dsimp only
  split
  · exact ⟨rfl, rfl, rfl, rfl, rfl, fun _ => ⟨_, rfl⟩⟩
  · split
    · exact mapMemblk_remapped.trans (unmapOldest_remapped _ _)
    · exact mapMemblk_remapped

/-- A synth block has a part of page `p`. -/
def Owned (e : Emu10k1) (p : Nat) : Prop := ∃ b ∈ e.block, (e.blk b).synth = true ∧ (e.blk b).Covers p

/-- Entry `p` of `page_ptr_table` has a page just when a synth block has a part of it. -/
structure Owns (e : Emu10k1) (p : Nat) : Prop where
  ptr : (e.tables.ptr p).isSome = true ↔ e.Owned p
  balanced : e.tables.Balanced p

theorem SameBlocks.owned (same : SameBlocks e e') : e'.Owned p ↔ e.Owned p := by
  have fields (b : Nat) (inside : b ∈ e.block) : (e'.blk b).synth = (e.blk b).synth ∧ ((e'.blk b).Covers p ↔ (e.blk b).Covers p) := by
    obtain ⟨page, lock, equal⟩ := same.fields b inside
    rw [equal]
    exact ⟨rfl, Iff.rfl⟩
  unfold Owned
  rw [same.block]
  constructor
  · rintro ⟨b, inside, synth, covers⟩
    obtain ⟨kind, pages⟩ := fields b inside
    exact ⟨b, inside, kind ▸ synth, pages.mp covers⟩
  · rintro ⟨b, inside, synth, covers⟩
    obtain ⟨kind, pages⟩ := fields b inside
    exact ⟨b, inside, kind.trans synth, pages.mpr covers⟩

theorem Owns.congr (owns : Owns e p) (same : SameBlocks e e') (ptr : e'.tables.ptr p = e.tables.ptr p)
    (balanced : e'.tables.Balanced p) : Owns e' p :=
  ⟨by rw [ptr, same.owned]; exact owns.ptr, balanced⟩

theorem Blocks.covers_pcm (blocks : Blocks c e) {x y : Nat} (one : x ∈ e.block) (other : y ∈ e.block)
    (pcm : (e.blk x).synth = false) (left : (e.blk x).Covers p) (right : (e.blk y).Covers p) : x = y := by
  by_contra ne
  obtain ⟨before, after, split⟩ := List.mem_iff_append.mp one
  have order := blocks.before
  rw [split] at order other
  have parts := List.pairwise_append.mp order
  have low := left.1
  have high := left.2
  have low' := right.1
  have high' := right.2
  rcases List.mem_append.mp other with early | late
  · have apart := (parts.2.2 y early x List.mem_cons_self).2 (Or.inr pcm)
    omega
  · rcases List.mem_cons.mp late with same | later
    · exact ne same.symm
    · have apart := ((List.pairwise_cons.mp parts.2.1).1 y later).2 (Or.inl pcm)
      omega

end Emu10k1

end AlsaDriver.Pci
