import AlsaDriver.Pci.Emu10k1Owned

namespace AlsaDriver.Pci

open Function Extents

namespace Emu10k1Card

variable {c : Emu10k1Card} {page n : Nat} {ptb : Nat → UInt32}

/-- The entry `n` of a page whose memory begins at `addr`. -/
def pageEntry (c : Emu10k1Card) (addr : UInt64) (n : Nat) : UInt32 :=
  ptbEntry (addr + UInt64.ofNat (n % c.unitPages * emuPageSize)) n

theorem unitPages_pos (c : Emu10k1Card) : 0 < c.unitPages := Nat.two_pow_pos _

theorem entry_of_page : page * c.unitPages ≤ n ∧ n < page * c.unitPages + c.unitPages ↔ n / c.unitPages = page := by
  rw [Nat.div_eq_iff (unitPages_pos c)]
  have positive := unitPages_pos c
  omega

theorem setPtbEntry_apply (addr : UInt64) :
    c.setPtbEntry page addr ptb n = if n / c.unitPages = page then c.pageEntry addr n else ptb n := by
  unfold setPtbEntry
  rw [foldl_update (fun i => ptbEntry (addr + UInt64.ofNat (i * emuPageSize)) (page * c.unitPages + i))]
  simp only [entry_of_page]
  split
  · rename_i same
    have place := Nat.div_add_mod n c.unitPages
    rw [same, Nat.mul_comm] at place
    have offset : n - page * c.unitPages = n % c.unitPages := by omega
    rw [offset, place]
    rfl
  · rfl

theorem setSilentPtb_apply : c.setSilentPtb page ptb n =
    if n / c.unitPages = page then ptbEntry c.silentPage n else ptb n := by
  unfold setSilentPtb
  rw [foldl_update (fun i => ptbEntry c.silentPage (page * c.unitPages + i))]
  simp only [entry_of_page]
  split
  · rename_i same
    have bounds := entry_of_page.mpr same
    rw [show page * c.unitPages + (n - page * c.unitPages) = n by omega]
  · rfl

end Emu10k1Card

namespace Emu10k1

variable {c : Emu10k1Card} {cleared : Prop} {e e' : Emu10k1} {b x n : Nat}

theorem fillPtb_apply (count pg page : Nat) (ptb : Nat → UInt32) : e.fillPtb c count pg page ptb n =
    if page ≤ n / c.unitPages ∧ n / c.unitPages < page + count then
      c.pageEntry (e.tables.addr (pg + (n / c.unitPages - page))) n else ptb n := by
  induction count generalizing pg page ptb with
  | zero => exact (if_neg (by omega)).symm
  | succ count ih =>
    unfold fillPtb
    rw [ih, Emu10k1Card.setPtbEntry_apply]
    by_cases first : n / c.unitPages = page
    · rw [if_neg (by omega), if_pos first, if_pos (by omega), first, Nat.sub_self, Nat.add_zero]
    · rw [if_neg first]
      by_cases later : page + 1 ≤ n / c.unitPages ∧ n / c.unitPages < page + 1 + count
      · rw [if_pos later, if_pos (by omega), show pg + 1 + (n / c.unitPages - (page + 1)) = pg + (n / c.unitPages - page) by omega]
      · rw [if_neg later, if_neg (by omega)]

theorem clearPtb_apply (count mpage : Nat) (ptb : Nat → UInt32) : clearPtb c count mpage ptb n =
    if mpage ≤ n / c.unitPages ∧ n / c.unitPages < mpage + count then Emu10k1Card.ptbEntry c.silentPage n else ptb n := by
  induction count generalizing mpage ptb with
  | zero => exact (if_neg (by omega)).symm
  | succ count ih =>
    unfold clearPtb
    rw [ih, Emu10k1Card.setSilentPtb_apply]
    by_cases first : n / c.unitPages = mpage
    · rw [if_neg (by omega), if_pos first, if_pos (by omega)]
    · rw [if_neg first]
      simp only [show mpage + 1 ≤ n / c.unitPages ∧ n / c.unitPages < mpage + 1 + count ↔
        mpage ≤ n / c.unitPages ∧ n / c.unitPages < mpage + (count + 1) by omega]

/-- Entry `n` of the PTB belongs to a page that the block is mapped to. -/
def Spans (c : Emu10k1Card) (e : Emu10k1) (b n : Nat) : Prop :=
  (e.blk b).mappedPage ≤ (n / c.unitPages : Nat) ∧ ((n / c.unitPages : Nat) : Int) < (e.blk b).mappedPage + (e.blk b).pages

instance (c : Emu10k1Card) (e : Emu10k1) (b n : Nat) : Decidable (Spans c e b n) := inferInstanceAs (Decidable (_ ∧ _))

/-- The page table, once it has been cleared, and the two lists of mapped blocks. The entries of the reserved page are
    silent. -/
structure Mapping (c : Emu10k1Card) (cleared : Prop) (e : Emu10k1) : Prop where
  stacked : Stacked (fun b => (e.blk b).mappedPage.toNat) (fun b => (e.blk b).pages) 0 e.mapped c.maxAlignPages
  live : ∀ b ∈ e.mapped, b ∈ e.block
  mapped : ∀ b ∈ e.block, b ∈ e.mapped ↔ 0 ≤ (e.blk b).mappedPage
  order : e.order.Perm e.mapped
  shows : ∀ b ∈ e.mapped, e.reserved ≠ some b → ∀ n, Spans c e b n → e.ptb n =
    c.pageEntry (e.tables.addr ((e.blk b).firstPage + (n / c.unitPages - (e.blk b).mappedPage.toNat))) n
  silent : cleared → ∀ n < maxPages, (∀ b ∈ e.mapped, e.reserved ≠ some b → ¬ Spans c e b n) →
    e.ptb n = Emu10k1Card.ptbEntry c.silentPage n
  reserved : ∀ r, e.reserved = some r → r ∈ e.block ∧ (e.blk r).mapLocked ≠ 0

def KeepsLocked (e e' : Emu10k1) : Prop :=
  ∀ x ∈ e.mapped, (e.blk x).mapLocked ≠ 0 → x ∈ e'.mapped ∧ (e'.blk x).mappedPage = (e.blk x).mappedPage

theorem KeepsLocked.refl (e : Emu10k1) : KeepsLocked e e := fun _ inside _ => ⟨inside, rfl⟩

theorem KeepsLocked.trans {e'' : Emu10k1} (first : KeepsLocked e e') (second : KeepsLocked e' e'')
    (locks : ∀ x ∈ e.mapped, (e'.blk x).mapLocked = (e.blk x).mapLocked) : KeepsLocked e e'' := by
  intro x inside locked
  obtain ⟨inside', same⟩ := first x inside locked
  obtain ⟨inside'', same'⟩ := second x inside' (by rw [locks x inside]; exact locked)
  exact ⟨inside'', same'.trans same⟩

theorem Remapped.locks (remapped : Remapped e e') (x : Nat) : (e'.blk x).mapLocked = (e.blk x).mapLocked := by
  obtain ⟨page, same⟩ := remapped.fields x
  rw [same]

theorem Mapping.mapped_nonneg (mapping : Mapping c cleared e) (inside : b ∈ e.mapped) : 0 ≤ (e.blk b).mappedPage :=
  (mapping.mapped b (mapping.live b inside)).mp inside

theorem Mapping.nodup (mapping : Mapping c cleared e) (blocks : Blocks c e) : e.mapped.Nodup := by
  apply mapping.stacked.nodup
  intro x inside
  have pages := (blocks.paged x (mapping.live x inside)).pages
  omega

theorem Mapping.apart (mapping : Mapping c cleared e) {x y : Nat} (one : x ∈ e.mapped) (other : y ∈ e.mapped) (ne : x ≠ y)
    (left : Spans c e x n) (right : Spans c e y n) : False := by
  have first := mapping.mapped_nonneg one
  have second := mapping.mapped_nonneg other
  unfold Spans at left right
  rcases mapping.stacked.apart one other ne with before | behind
  · omega
  · omega

theorem searchMapArea_hole {Q : Nat → Int → Prop} {npages : Nat} {ys : List Nat} {pos lo candidate : Nat}
    {foundPage maxSize : Int}
    (stacked : Stacked (fun b => (e.blk b).mappedPage.toNat) (fun b => (e.blk b).pages) lo ys c.maxAlignPages)
    (mapped : ∀ b ∈ ys, 0 ≤ (e.blk b).mappedPage) (large : (npages : Int) ≤ maxSize)
    (old : 0 ≤ foundPage → Q candidate foundPage)
    (new : ∀ j, Stacked (fun b => (e.blk b).mappedPage.toNat) (fun b => (e.blk b).pages)
        (top (fun b => (e.blk b).mappedPage.toNat) (fun b => (e.blk b).pages) lo (ys.take j) + npages) (ys.drop j)
        c.maxAlignPages →
      Q (pos + j) (top (fun b => (e.blk b).mappedPage.toNat) (fun b => (e.blk b).pages) lo (ys.take j) : Nat))
    (success : 0 ≤ (e.searchMapArea c npages ys pos lo foundPage maxSize candidate).1) :
    Q (e.searchMapArea c npages ys pos lo foundPage maxSize candidate).2
      (e.searchMapArea c npages ys pos lo foundPage maxSize candidate).1 := by
  induction ys generalizing pos lo candidate foundPage maxSize with
  | nil =>
    unfold searchMapArea at success ⊢
    by_cases room : (c.maxAlignPages : Int) - lo ≥ maxSize
    · rw [if_pos room]
      have below : lo ≤ c.maxAlignPages := stacked
      exact new 0 (show lo + npages ≤ c.maxAlignPages by omega)
    · rw [if_neg room] at success ⊢
      exact old success
  | cons q rest ih =>
    have nonneg := mapped q List.mem_cons_self
    have above : lo ≤ (e.blk q).mappedPage.toNat := stacked.1
    have cursor : (((e.blk q).mappedPage.toNat + (e.blk q).pages : Nat) : Int) = (e.blk q).mappedPage + (e.blk q).pages := by
      omega
    have mapped' (b : Nat) (inside : b ∈ rest) := mapped b (List.mem_cons_of_mem q inside)
    have here (room : (npages : Int) ≤ (e.blk q).mappedPage - lo) : Q pos lo :=
      new 0 ⟨show lo + npages ≤ (e.blk q).mappedPage.toNat by omega, stacked.2⟩
    have new' (j : Nat) := Nat.add_right_comm pos j 1 ▸ new (j + 1)
    unfold searchMapArea at success ⊢
    dsimp only at success ⊢
    rw [if_neg (Int.not_lt.mpr nonneg)] at success ⊢
    by_cases exact_ : (e.blk q).mappedPage - lo = npages
    · rw [if_pos exact_]
      exact here (by omega)
    · rw [if_neg exact_] at success ⊢
      rw [← cursor] at success ⊢
      by_cases larger : (e.blk q).mappedPage - lo > maxSize
      · rw [if_pos larger] at success ⊢
        exact ih stacked.2 mapped' (by omega) (fun _ => here (by omega)) new' success
      · rw [if_neg larger] at success ⊢
        exact ih stacked.2 mapped' large old new' success

/-- There is a hole of `npages` pages from `page` on behind the first `next` mapped blocks. -/
structure Hole (c : Emu10k1Card) (e : Emu10k1) (npages next : Nat) (page : Int) : Prop where
  above : (top (fun b => (e.blk b).mappedPage.toNat) (fun b => (e.blk b).pages) 0 (e.mapped.take next) : Int) = page
  below : Stacked (fun b => (e.blk b).mappedPage.toNat) (fun b => (e.blk b).pages) (page.toNat + npages)
    (e.mapped.drop next) c.maxAlignPages

theorem Mapping.hole (mapping : Mapping c cleared e) (npages : Nat) (success : 0 ≤ (e.searchEmptyMapArea c npages).1) :
    Hole c e npages (e.searchEmptyMapArea c npages).2 (e.searchEmptyMapArea c npages).1 := by
  apply @searchMapArea_hole c e (Hole c e npages) npages e.mapped 0 0 _ _ _ mapping.stacked (fun b => mapping.mapped_nonneg)
    (Int.le_refl _)
  · intro impossible
    exact absurd impossible (by decide)
  · intro j below
    rw [Nat.zero_add]
    exact ⟨rfl, below⟩
  · exact success

theorem spans_congr (same : e'.blk x = e.blk x) : Spans c e' x n ↔ Spans c e x n := by
  unfold Spans
  rw [same]

theorem Blocks.page_count (blocks : Blocks c e) (inside : b ∈ e.block) :
    (e.blk b).lastPage + 1 - (e.blk b).firstPage = (e.blk b).pages := by
  have span := blocks.first_le_last inside
  have pages := (blocks.paged b inside).pages
  omega

/-- `e` with the block `b` mapped to `page`, behind the first `next` mapped blocks. -/
def mapAt (c : Emu10k1Card) (e : Emu10k1) (b next page : Nat) : Emu10k1 :=
  { e.modify b fun m => { m with mappedPage := page } with
    mapped := e.mapped.take next ++ b :: e.mapped.drop next
    order := e.order ++ [b]
    ptb := e.fillPtb c ((e.blk b).lastPage + 1 - (e.blk b).firstPage) (e.blk b).firstPage page e.ptb }

section

variable {next page : Nat}

theorem mapAt_self : (mapAt c e b next page).blk b = { e.blk b with mappedPage := page } := update_self ..

theorem mapAt_other (ne : x ≠ b) : (mapAt c e b next page).blk x = e.blk x := update_of_ne ne ..

theorem mem_mapAt : x ∈ (mapAt c e b next page).mapped ↔ x = b ∨ x ∈ e.mapped := by
  show x ∈ e.mapped.take next ++ b :: e.mapped.drop next ↔ _
  rw [List.perm_middle.mem_iff, List.take_append_drop, List.mem_cons]

theorem spans_mapAt : Spans c (mapAt c e b next page) b n ↔
    page ≤ n / c.unitPages ∧ n / c.unitPages < page + (e.blk b).pages := by
  unfold Spans
  rw [mapAt_self]
  dsimp only
  omega

theorem mapAt_stacked (mapping : Mapping c cleared e) (fresh : b ∉ e.mapped) (hole : Hole c e (e.blk b).pages next page) :
    Stacked (fun x => ((mapAt c e b next page).blk x).mappedPage.toNat) (fun x => ((mapAt c e b next page).blk x).pages) 0
      (mapAt c e b next page).mapped c.maxAlignPages := by
  have same (x : Nat) (member : x ∈ e.mapped) :
      ((mapAt c e b next page).blk x).mappedPage.toNat = (e.blk x).mappedPage.toNat ∧
        ((mapAt c e b next page).blk x).pages = (e.blk x).pages := by
    rw [mapAt_other fun (same : x = b) => fresh (same ▸ member)]
    exact ⟨rfl, rfl⟩
  have placed := mapping.stacked.congr same
  rw [← List.take_append_drop next e.mapped] at placed
  refine placed.insert ?_ ?_
  · rw [top_congr fun x early => same x (List.mem_of_mem_take early), mapAt_self]
    have above := hole.above
    show _ ≤ (page : Int).toNat
    omega
  · rw [mapAt_self]
    exact hole.below.congr fun x late => same x (List.mem_of_mem_drop late)

theorem Mapping.mapAt (mapping : Mapping c cleared e) (blocks : Blocks c e) (inside : b ∈ e.block) (out : (e.blk b).mappedPage < 0)
    (other : e.reserved ≠ some b) (hole : Hole c e (e.blk b).pages next page) : Mapping c cleared (mapAt c e b next page) := by
  have fresh : b ∉ e.mapped := fun member => absurd (mapping.mapped_nonneg member) (Int.not_le.mpr out)
  have ne (x : Nat) (member : x ∈ e.mapped) : x ≠ b := fun same => fresh (same ▸ member)
  have stacked := mapAt_stacked mapping fresh hole
  have word (n : Nat) : (Emu10k1.mapAt c e b next page).ptb n = if Spans c (Emu10k1.mapAt c e b next page) b n then
      c.pageEntry (e.tables.addr ((e.blk b).firstPage + (n / c.unitPages - page))) n else e.ptb n := by
    simp only [spans_mapAt, ← blocks.page_count inside]
    exact fillPtb_apply ..
  have apart (x : Nat) (member : x ∈ e.mapped) (n : Nat) (spans : Spans c (Emu10k1.mapAt c e b next page) x n) :
      ¬ Spans c (Emu10k1.mapAt c e b next page) b n := by
    intro both
    rw [spans_congr (mapAt_other (ne x member))] at spans
    rw [spans_mapAt] at both
    have start := mapping.mapped_nonneg member
    have order := stacked.apart (mem_mapAt.mpr (Or.inl rfl)) (mem_mapAt.mpr (Or.inr member)) (ne x member).symm
    simp only [mapAt_self, mapAt_other (ne x member)] at order
    unfold Spans at spans
    omega
  constructor
  · exact stacked
  · intro x member
    rcases mem_mapAt.mp member with same | old
    · exact same ▸ inside
    · exact mapping.live x old
  · intro x live
    rw [mem_mapAt]
    by_cases same : x = b
    · rw [same, mapAt_self]
      exact ⟨fun _ => Int.natCast_nonneg page, fun _ => Or.inl rfl⟩
    · rw [mapAt_other same, ← mapping.mapped x live]
      exact ⟨fun either => either.resolve_left same, Or.inr⟩
  · show (e.order ++ [b]).Perm (e.mapped.take next ++ b :: e.mapped.drop next)
    have front := (List.perm_append_singleton b e.order).trans (mapping.order.cons b)
    have middle : (e.mapped.take next ++ b :: e.mapped.drop next).Perm (b :: (e.mapped.take next ++ e.mapped.drop next)) :=
      List.perm_middle
    rw [List.take_append_drop] at middle
    exact front.trans middle.symm
  · intro x member free n spans
    rcases mem_mapAt.mp member with same | old
    · subst same
      rw [word, if_pos spans, mapAt_self]
      rfl
    · rw [word, if_neg (apart x old n spans), mapAt_other (ne x old)]
      exact mapping.shows x old free n ((spans_congr (mapAt_other (ne x old))).mp spans)
  · intro ready n small outside
    rw [word, if_neg (outside b (mem_mapAt.mpr (Or.inl rfl)) other)]
    apply mapping.silent ready n small
    intro x member free spans
    exact outside x (mem_mapAt.mpr (Or.inr member)) free ((spans_congr (mapAt_other (ne x member))).mpr spans)
  · intro r held
    obtain ⟨live, locked⟩ := mapping.reserved r held
    refine ⟨live, ?_⟩
    rw [mapAt_other fun (same : r = b) => other (same ▸ held)]
    exact locked

end

theorem mapMemblk_cases (mapping : Mapping c cleared e) :
    ((e.mapMemblk c b).1 < 0 ∧ (e.mapMemblk c b).2 = e) ∨
      ∃ next, ∃ page : Nat, Hole c e (e.blk b).pages next page ∧ e.mapMemblk c b = (0, mapAt c e b next page) := by
  have found := mapping.hole (e.blk b).pages
  unfold mapMemblk
  dsimp only
  generalize e.searchEmptyMapArea c (e.blk b).pages = result at found ⊢
  obtain ⟨page, next⟩ := result
  dsimp only at found ⊢
  by_cases full : page < 0
  · rw [if_pos full]
    exact Or.inl ⟨full, rfl⟩
  · have hole := found (Int.not_lt.mp full)
    obtain ⟨page, rfl⟩ := Int.eq_ofNat_of_zero_le (Int.not_lt.mp full)
    rw [if_neg full]
    exact Or.inr ⟨next, page, hole, rfl⟩

theorem Mapping.mapMemblk (mapping : Mapping c cleared e) (blocks : Blocks c e) (inside : b ∈ e.block)
    (out : (e.blk b).mappedPage < 0) (other : e.reserved ≠ some b) :
    Mapping c cleared (e.mapMemblk c b).2 ∧ KeepsLocked e (e.mapMemblk c b).2 ∧
      ((e.mapMemblk c b).1 < 0 → (e.mapMemblk c b).2 = e) := by
  rcases mapMemblk_cases (b := b) mapping with ⟨_, same⟩ | ⟨next, page, hole, result⟩
  · rw [same]
    exact ⟨mapping, KeepsLocked.refl e, fun _ => rfl⟩
  · rw [result]
    refine ⟨mapping.mapAt blocks inside out other hole, fun x member _ => ?_, fun wrong => absurd wrong (Int.lt_irrefl 0)⟩
    have ne : x ≠ b := fun same => absurd (mapping.mapped_nonneg (same ▸ member)) (Int.not_le.mpr out)
    exact ⟨mem_mapAt.mpr (Or.inr member), by rw [mapAt_other ne]⟩

section

theorem unmap_self : (e.unmapMemblk c b).2.blk b = { e.blk b with mappedPage := -1 } := update_self ..

theorem unmap_other (ne : x ≠ b) : (e.unmapMemblk c b).2.blk x = e.blk x := update_of_ne ne ..

theorem Mapping.unmapMemblk (mapping : Mapping c cleared e) (blocks : Blocks c e) (inside : b ∈ e.mapped)
    (other : e.reserved ≠ some b) : Mapping c cleared (e.unmapMemblk c b).2 := by
  have nodup := mapping.nodup blocks
  have member (x : Nat) : x ∈ (e.unmapMemblk c b).2.mapped ↔ x ≠ b ∧ x ∈ e.mapped := nodup.mem_erase_iff
  have start := mapping.mapped_nonneg inside
  have word (n : Nat) : (e.unmapMemblk c b).2.ptb n =
      if Spans c e b n then Emu10k1Card.ptbEntry c.silentPage n else e.ptb n := by
    have spans : Spans c e b n ↔ (e.blk b).mappedPage.toNat ≤ n / c.unitPages ∧
        n / c.unitPages < (e.blk b).mappedPage.toNat + (e.blk b).pages := by
      unfold Spans
      omega
    simp only [spans, ← blocks.page_count (mapping.live b inside)]
    exact clearPtb_apply ..
  constructor
  · apply (mapping.stacked.sublist List.erase_sublist).congr
    intro x member'
    rw [unmap_other ((member x).mp member').1]
    exact ⟨rfl, rfl⟩
  · exact fun x member' => mapping.live x ((member x).mp member').2
  · intro x live
    rw [member]
    by_cases same : x = b
    · rw [same, unmap_self]
      exact ⟨fun wrong => absurd rfl wrong.1, fun wrong => absurd wrong (show ¬ (0 : Int) ≤ -1 by decide)⟩
    · rw [unmap_other same, ← mapping.mapped x live]
      exact ⟨fun both => both.2, fun old => ⟨same, old⟩⟩
  · exact mapping.order.erase b
  · intro x member' free n spans
    obtain ⟨ne, old⟩ := (member x).mp member'
    rw [spans_congr (unmap_other ne)] at spans
    rw [word, if_neg (fun both => mapping.apart old inside ne spans both), unmap_other ne]
    exact mapping.shows x old free n spans
  · intro ready n small outside
    rw [word]
    split
    · rfl
    · rename_i apart
      apply mapping.silent ready n small
      intro x old free spans
      have ne : x ≠ b := fun same => apart (same ▸ spans)
      exact outside x ((member x).mpr ⟨ne, old⟩) free ((spans_congr (unmap_other ne)).mpr spans)
  · intro r held
    obtain ⟨live, locked⟩ := mapping.reserved r held
    refine ⟨live, ?_⟩
    rw [unmap_other fun (same : r = b) => other (same ▸ held)]
    exact locked

theorem unmap_keepsLocked (mapping : Mapping c cleared e) (blocks : Blocks c e) (free : (e.blk b).mapLocked = 0) :
    KeepsLocked e (e.unmapMemblk c b).2 := by
  intro x inside locked
  have ne : x ≠ b := fun same => locked (same ▸ free)
  exact ⟨(mapping.nodup blocks).mem_erase_iff.mpr ⟨ne, inside⟩, by rw [unmap_other ne]⟩

end

theorem Mapping.unmapOldest (mapping : Mapping c cleared e) (blocks : Blocks c e) {l : List Nat} (nodup : l.Nodup)
    (old : ∀ x ∈ l, x ∈ e.mapped) (inside : b ∈ e.block) (out : (e.blk b).mappedPage < 0) (other : e.reserved ≠ some b)
    (err : Int) : Mapping c cleared (Emu10k1.unmapOldest c b l err e).2 ∧ KeepsLocked e (Emu10k1.unmapOldest c b l err e).2 ∧
      ((Emu10k1.unmapOldest c b l err e).1 < 0 → ((Emu10k1.unmapOldest c b l err e).2.blk b).mappedPage < 0) := by
  induction l generalizing e with
  | nil => exact ⟨mapping, KeepsLocked.refl e, fun _ => out⟩
  | cons d rest ih =>
    obtain ⟨fresh, nodup⟩ := List.nodup_cons.mp nodup
    have mapped := old d List.mem_cons_self
    unfold Emu10k1.unmapOldest
    by_cases locked : (e.blk d).mapLocked ≠ 0
    · rw [if_pos locked]
      exact ih mapping blocks nodup (fun x member => old x (List.mem_cons_of_mem d member)) inside out other
    · rw [if_neg locked]
      have free := of_not_not locked
      have unreserved : e.reserved ≠ some d := fun held => (mapping.reserved d held).2 free
      have mapping' := mapping.unmapMemblk blocks mapped unreserved
      have remapped : Remapped e (e.unmapMemblk c d).2 := unmapMemblk_remapped
      have blocks' := blocks.congr remapped.same
      have keeps := unmap_keepsLocked mapping blocks free
      have ne : b ≠ d := fun same => absurd (mapping.mapped_nonneg mapped) (Int.not_le.mpr (same ▸ out))
      have out' : ((e.unmapMemblk c d).2.blk b).mappedPage < 0 := by
        rw [unmap_other ne]
        exact out
      dsimp only
      split
      · obtain ⟨result, kept, same⟩ := mapping'.mapMemblk blocks' inside out' other
        refine ⟨result, keeps.trans kept fun x _ => remapped.locks x, fun full => ?_⟩
        rw [same full]
        exact out'
      · have still (x : Nat) (member : x ∈ rest) : x ∈ (e.unmapMemblk c d).2.mapped :=
          (mapping.nodup blocks).mem_erase_iff.mpr ⟨fun same => fresh (same ▸ member), old x (List.mem_cons_of_mem d member)⟩
        obtain ⟨result, kept, left⟩ := ih mapping' blocks' nodup still inside out' other
        exact ⟨result, keeps.trans kept fun x _ => remapped.locks x, left⟩

theorem Mapping.memblkMap (mapping : Mapping c cleared e) (blocks : Blocks c e) (inside : b ∈ e.block) (other : e.reserved ≠ some b) :
    Mapping c cleared (e.sndEmu10k1MemblkMap c b).2 ∧ KeepsLocked e (e.sndEmu10k1MemblkMap c b).2 ∧
      ((e.sndEmu10k1MemblkMap c b).1 < 0 → ((e.sndEmu10k1MemblkMap c b).2.blk b).mappedPage < 0) := by
  unfold sndEmu10k1MemblkMap
  by_cases already : (e.blk b).mappedPage ≥ 0
  · rw [if_pos already]
    have member := (mapping.mapped b inside).mpr already
    refine ⟨⟨mapping.stacked, mapping.live, mapping.mapped, ?_, mapping.shows, mapping.silent, mapping.reserved⟩,
      fun x old _ => ⟨old, rfl⟩, fun wrong => absurd wrong (Int.lt_irrefl 0)⟩
    have back := (List.perm_append_singleton b (e.order.erase b)).trans
      (List.perm_cons_erase (mapping.order.mem_iff.mpr member)).symm
    exact back.trans mapping.order
  · rw [if_neg already]
    have out := Int.not_le.mp already
    obtain ⟨mapping', kept, same⟩ := mapping.mapMemblk blocks inside out other
    dsimp only
    split
    · rename_i full
      rw [same full]
      have nodup := mapping.order.nodup_iff.mpr (mapping.nodup blocks)
      exact mapping.unmapOldest blocks nodup (fun x => mapping.order.mem_iff.mp) inside out other _
    · rename_i success
      exact ⟨mapping', kept, fun full => absurd full success⟩

theorem Mapping.frame (mapping : Mapping c cleared e) (blocks : Blocks c e) (mapped : e'.mapped = e.mapped) (order : e'.order = e.order)
    (ptb : e'.ptb = e.ptb) (reserved : e'.reserved = e.reserved)
    (fields : ∀ x ∈ e.mapped, (e'.blk x).mappedPage = (e.blk x).mappedPage ∧ (e'.blk x).pages = (e.blk x).pages ∧
      (e'.blk x).firstPage = (e.blk x).firstPage)
    (live : ∀ x ∈ e.mapped, x ∈ e'.block) (out : ∀ x ∈ e'.block, x ∉ e.mapped → (e'.blk x).mappedPage < 0)
    (addr : ∀ x ∈ e.mapped, ∀ p, (e.blk x).Covers p → e'.tables.addr p = e.tables.addr p)
    (held : ∀ r, e.reserved = some r → r ∈ e'.block ∧ (e'.blk r).mapLocked ≠ 0) : Mapping c cleared e' := by
  have spans (x n : Nat) (inside : x ∈ e.mapped) : Spans c e' x n ↔ Spans c e x n := by
    obtain ⟨page, pages, -⟩ := fields x inside
    unfold Spans
    rw [page, pages]
  constructor
  · rw [mapped]
    apply mapping.stacked.congr
    intro x inside
    obtain ⟨page, pages, -⟩ := fields x inside
    exact ⟨congrArg Int.toNat page, pages⟩
  · rw [mapped]
    exact live
  · intro x inside
    rw [mapped]
    constructor
    · intro old
      rw [(fields x old).1]
      exact mapping.mapped_nonneg old
    · intro nonneg
      by_contra fresh
      exact absurd nonneg (Int.not_le.mpr (out x inside fresh))
  · rw [order, mapped]
    exact mapping.order
  · intro x inside free n span
    rw [mapped] at inside
    rw [reserved] at free
    obtain ⟨page, pages, first⟩ := fields x inside
    have span := (spans x n inside).mp span
    have count := blocks.page_count (mapping.live x inside)
    have start := mapping.mapped_nonneg inside
    rw [ptb, mapping.shows x inside free n span, page, first, addr x inside]
    unfold Spans at span
    unfold Memblk.Covers
    omega
  · intro ready n small outside
    rw [ptb]
    apply mapping.silent ready n small
    intro x inside free span
    exact outside x (mapped ▸ inside) (reserved ▸ free) ((spans x n inside).mpr span)
  · intro r old
    exact held r (reserved ▸ old)

end Emu10k1

end AlsaDriver.Pci
