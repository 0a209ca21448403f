import AlsaDriver.Pci.Emu10k1Map

namespace AlsaDriver.Pci

open Function Extents

namespace Emu10k1

variable {c : Emu10k1Card} {cleared : Prop} {e e' : Emu10k1} {b p : Nat}

/-- `e` with the block `m` added and the tables `t`. -/
def addWith (e : Emu10k1) (pos b : Nat) (m : Memblk) (t : PageTables) : Emu10k1 := { e.addBlock pos b m with tables := t }

/-- The pages of its own of the block `b` when it has been added. -/
def ownPages (e : Emu10k1) (pos b : Nat) (m : Memblk) : Int × Int := (e.addBlock pos b m).getSinglePageRange b

theorem synthAlloc_cases (blocks : Blocks c e) (size : UInt32) (kmalloc : Option Nat)
    (tries : Nat → Option UInt64 × Option UInt64) :
    e.sndEmu10k1SynthAlloc c size kmalloc tries = (none, e) ∨
      ∃ b pos m err t, kmalloc = some b ∧ Fits c e pos m.offset m.size ∧ m = newMemblk c true m.offset m.size ∧
        PageTables.allocPages c tries (e.ownPages pos b m).1 (pageRange (e.ownPages pos b m).1 (e.ownPages pos b m).2) e.tables =
          (err, t) ∧
        e.sndEmu10k1SynthAlloc c size kmalloc tries =
          if err ≠ 0 then (none, (e.addWith pos b m t).sndUtilMemFree b)
          else (some b, ((e.addWith pos b m t).sndEmu10k1MemblkMap c b).2) := by
  unfold sndEmu10k1SynthAlloc
  rcases sndUtilMemAlloc_cases blocks size.toInt32.toInt kmalloc with null | ⟨b, pos, offset, units, e', address, fits, found, new⟩
  · rw [null]
    exact Or.inl rfl
  · rw [found]
    refine Or.inr ⟨b, pos, newMemblk c true offset units, _, _, address, fits, rfl, rfl, ?_⟩
    dsimp only
    unfold synthAllocPages
    dsimp only
    rw [new]
    rfl

def pcmPages (c : Emu10k1Card) (dmaBytes periodSize bufferSize : Nat) : Nat :=
  psize c (dmaBytes + if periodSize ≥ bufferSize then c.delayPcmIrq * 2 else 0)

theorem allocPages_cases (blocks : Blocks c e) (dmaBytes periodSize bufferSize : Nat) (kmalloc : Option Nat)
    (sgbuf : Nat → UInt64) :
    (e.sndEmu10k1AllocPages c dmaBytes periodSize bufferSize kmalloc sgbuf = (none, e) ∧
      (dmaBytes = 0 ∨ dmaBytes ≥ maxPages * emuPageSize ∨ kmalloc = none ∨
        ¬ Room c e (pcmPages c dmaBytes periodSize bufferSize))) ∨
      ((dmaBytes ≠ 0 ∧ dmaBytes < maxPages * emuPageSize) ∧ Room c e (pcmPages c dmaBytes periodSize bufferSize) ∧
        ∃ b pos m page, kmalloc = some b ∧ Fits c e pos m.offset m.size ∧
          m = newMemblk c false (page * c.pageSize) (pcmPages c dmaBytes periodSize bufferSize * c.pageSize) ∧
          e.sndEmu10k1AllocPages c dmaBytes periodSize bufferSize kmalloc sgbuf =
            (e.addBlock pos b m).storePcm c b (pcmPageAddr c dmaBytes sgbuf)) := by
  unfold sndEmu10k1AllocPages
  by_cases bad : dmaBytes = 0 ∨ dmaBytes ≥ maxPages * emuPageSize
  · exact Or.inl ⟨if_pos bad, bad.imp id Or.inl⟩
  · rw [if_neg bad]
    obtain ⟨some_, small⟩ := not_or.mp bad
    dsimp only
    rcases searchEmpty_cases blocks (dmaBytes + if periodSize ≥ bufferSize then c.delayPcmIrq * 2 else 0) (by omega)
      kmalloc with ⟨null, why⟩ | ⟨b, pos, page, address, fits, found⟩
    · rw [null]
      exact Or.inl ⟨rfl, Or.inr (Or.inr why)⟩
    · rw [found]
      exact Or.inr ⟨⟨some_, Nat.not_le.mp small⟩, fits.room blocks, b, pos, _, page, address, fits, rfl, rfl⟩

section

variable {pos : Nat} {m : Memblk} {t : PageTables}

theorem addWith_other (fresh : b ∉ e.block) {x : Nat} (inside : x ∈ e.block) : (e.addWith pos b m t).blk x = e.blk x :=
  update_of_ne (fun (same : x = b) => fresh (same ▸ inside)) ..

theorem mem_addWith {x : Nat} : x ∈ (e.addWith pos b m t).block ↔ x = b ∨ x ∈ e.block := by
  show x ∈ e.block.take pos ++ b :: e.block.drop pos ↔ _
  rw [List.perm_middle.mem_iff, List.take_append_drop, List.mem_cons]

theorem addWith_new : (e.addWith pos b m t).blk b = m := update_self ..

theorem owned_addWith (fresh : b ∉ e.block) :
    (e.addWith pos b m t).Owned p ↔ (m.synth = true ∧ m.Covers p) ∨ e.Owned p := by
  unfold Owned
  constructor
  · rintro ⟨x, inside, synth, covers⟩
    rcases mem_addWith.mp inside with rfl | old
    · rw [addWith_new] at synth covers
      exact Or.inl ⟨synth, covers⟩
    · rw [addWith_other fresh old] at synth covers
      exact Or.inr ⟨x, old, synth, covers⟩
  · rintro (new | ⟨x, old, synth, covers⟩)
    · exact ⟨b, mem_addWith.mpr (Or.inl rfl), by rw [addWith_new]; exact new.1, by rw [addWith_new]; exact new.2⟩
    · rw [← addWith_other fresh old] at synth covers
      exact ⟨x, mem_addWith.mpr (Or.inr old), synth, covers⟩

theorem Blocks.addWith (blocks : Blocks c e) (fresh : b ∉ e.block) (fits : Fits c e pos m.offset m.size)
    (paged : m.Paged c) (aligned : m.synth = false → c.pageSize ∣ m.offset ∧ c.pageSize ∣ m.size) (t : PageTables) :
    Blocks c (e.addWith pos b m t) :=
  (blocks.addBlock fresh fits paged aligned).congr ⟨rfl, rfl, rfl, fun _ _ => ⟨_, _, rfl⟩⟩

theorem addBlock_split (pos b : Nat) (m : Memblk) :
    (e.addBlock pos b m).block = e.block.take pos ++ b :: e.block.drop pos := rfl

theorem Blocks.allocOwn (blocks : Blocks c (e.addBlock pos b m)) (tries : Nat → Option UInt64 × Option UInt64) {err : Int}
    (alloc : PageTables.allocPages c tries (e.ownPages pos b m).1 (pageRange (e.ownPages pos b m).1 (e.ownPages pos b m).2)
      e.tables = (err, t)) :
    (err = 0 ∧ ∀ p, PageTables.Got e.tables t (pageRange (e.ownPages pos b m).1 (e.ownPages pos b m).2) p) ∨
      (err = -ENOMEM ∧ ∀ p, PageTables.Restored e.tables t (pageRange (e.ownPages pos b m).1 (e.ownPages pos b m).2) p) := by
  have positive : 0 ≤ (e.ownPages pos b m).1 := (blocks.single_low (addBlock_split pos b m) 0).2
  have spec := @PageTables.allocPages_pageRange c e.tables tries _ (e.ownPages pos b m).2 positive
  rw [alloc] at spec
  exact spec

theorem mem_ownPages (blocks : Blocks c (e.addBlock pos b m)) (fresh : b ∉ e.block) :
    p ∈ pageRange (e.ownPages pos b m).1 (e.ownPages pos b m).2 ↔ m.Covers p ∧ ∀ x ∈ e.block, ¬ (e.blk x).Covers p := by
  unfold ownPages
  rw [blocks.mem_singlePages (addBlock_split pos b m), List.take_append_drop]
  have new : (e.addBlock pos b m).blk b = m := update_self ..
  rw [new]
  refine and_congr_right fun _ => forall₂_congr fun x inside => ?_
  have same : (e.addBlock pos b m).blk x = e.blk x := addWith_other (t := e.tables) fresh inside
  rw [same]

theorem owned_of_covers (blocks : Blocks c (e.addBlock pos b m)) (fresh : b ∉ e.block) (covers : m.Covers p)
    (shared : ¬ ∀ x ∈ e.block, ¬ (e.blk x).Covers p) : e.Owned p := by
  push Not at shared
  obtain ⟨x, inside, both⟩ := shared
  have same : (e.addBlock pos b m).blk x = e.blk x := addWith_other (t := e.tables) fresh inside
  have new : (e.addBlock pos b m).blk b = m := update_self ..
  refine ⟨x, inside, ?_, both⟩
  by_contra pcm
  have equal := blocks.covers_pcm (x := x) (y := b) (mem_addWith (t := e.tables).mpr (Or.inr inside))
    (mem_addWith (t := e.tables).mpr (Or.inl rfl)) (by rw [same]; exact Bool.not_eq_true _ ▸ pcm) (by rw [same]; exact both)
    (by rw [new]; exact covers)
  exact fresh (equal ▸ inside)

theorem Owns.null (owns : Owns e p) (free : ¬ e.Owned p) : e.tables.ptr p = none := by
  rw [← Option.not_isSome_iff_eq_none]
  exact fun some_ => free (owns.ptr.mp some_)

theorem Owns.synthAdded (owns : Owns e p) (blocks : Blocks c (e.addBlock pos b m)) (fresh : b ∉ e.block) (synth : m.synth = true)
    (got : PageTables.Got e.tables t (pageRange (e.ownPages pos b m).1 (e.ownPages pos b m).2) p) :
    Owns (e.addWith pos b m t) p := by
  have own := mem_ownPages (p := p) blocks fresh
  have balanced := got.balanced (fun inside => owns.null fun ⟨x, old, _, covers⟩ => (own.mp inside).2 x old covers)
    owns.balanced
  refine ⟨?_, balanced⟩
  rw [owned_addWith fresh]
  show (t.ptr p).isSome = true ↔ _
  by_cases inside : p ∈ pageRange (e.ownPages pos b m).1 (e.ownPages pos b m).2
  · exact ⟨fun _ => Or.inl ⟨synth, (own.mp inside).1⟩, fun _ => got.new inside⟩
  · rw [got.old inside, owns.ptr]
    refine ⟨Or.inr, fun either => either.elim (fun new => ?_) id⟩
    exact owned_of_covers blocks fresh new.2 fun alone => inside (own.mpr ⟨new.2, alone⟩)

end

structure Inv (c : Emu10k1Card) (cleared : Prop) (e : Emu10k1) : Prop where
  blocks : Blocks c e
  mapping : Mapping c cleared e

theorem Inv.addWith (inv : Inv c cleared e) {pos : Nat} {m : Memblk} {t : PageTables} (fresh : b ∉ e.block)
    (fits : Fits c e pos m.offset m.size) (paged : m.Paged c)
    (aligned : m.synth = false → c.pageSize ∣ m.offset ∧ c.pageSize ∣ m.size) (out : m.mappedPage < 0)
    (addr : ∀ p, (∃ x ∈ e.block, (e.blk x).Covers p) → t.addr p = e.tables.addr p) : Inv c cleared (e.addWith pos b m t) := by
  refine ⟨inv.blocks.addWith fresh fits paged aligned t, ?_⟩
  refine inv.mapping.frame inv.blocks rfl rfl rfl rfl ?_ ?_ ?_ ?_ ?_
  · intro x inside
    rw [addWith_other fresh (inv.mapping.live x inside)]
    exact ⟨rfl, rfl, rfl⟩
  · exact fun x inside => mem_addWith.mpr (Or.inr (inv.mapping.live x inside))
  · intro x inside unmapped
    rcases mem_addWith.mp inside with rfl | old
    · rw [addWith_new]
      exact out
    · rw [addWith_other fresh old]
      exact Int.not_le.mp fun nonneg => unmapped ((inv.mapping.mapped x old).mpr nonneg)
  · exact fun x inside p covers => addr p ⟨x, inv.mapping.live x inside, covers⟩
  · intro r held
    obtain ⟨live, locked⟩ := inv.mapping.reserved r held
    rw [addWith_other fresh live]
    exact ⟨mem_addWith.mpr (Or.inr live), locked⟩

theorem Inv.sndUtilMemFree (inv : Inv c cleared e) (inside : b ∈ e.block) (out : b ∉ e.mapped) (other : e.reserved ≠ some b) :
    Inv c cleared (e.sndUtilMemFree b) := by
  have member (x : Nat) : x ∈ (e.sndUtilMemFree b).block ↔ x ≠ b ∧ x ∈ e.block := inv.blocks.nodup.mem_erase_iff
  refine ⟨inv.blocks.sndUtilMemFree inside, ?_⟩
  refine inv.mapping.frame inv.blocks rfl rfl rfl rfl ?_ ?_ ?_ ?_ ?_
  · exact fun x _ => ⟨rfl, rfl, rfl⟩
  · exact fun x mapped => (member x).mpr ⟨fun same => out (same ▸ mapped), inv.mapping.live x mapped⟩
  · intro x live unmapped
    exact Int.not_le.mp fun nonneg => unmapped ((inv.mapping.mapped x ((member x).mp live).2).mpr nonneg)
  · exact fun _ _ _ _ => rfl
  · intro r held
    obtain ⟨live, locked⟩ := inv.mapping.reserved r held
    exact ⟨(member r).mpr ⟨fun same => other (same ▸ held), live⟩, locked⟩

theorem Inv.setTables (inv : Inv c cleared e) {t : PageTables}
    (addr : ∀ p, (∃ x ∈ e.mapped, (e.blk x).Covers p) → t.addr p = e.tables.addr p) : Inv c cleared { e with tables := t } := by
  refine ⟨inv.blocks.congr ⟨rfl, rfl, rfl, fun _ _ => ⟨_, _, rfl⟩⟩, ?_⟩
  refine inv.mapping.frame inv.blocks rfl rfl rfl rfl ?_ ?_ ?_ ?_ ?_
  · exact fun x _ => ⟨rfl, rfl, rfl⟩
  · exact inv.mapping.live
  · exact fun x live unmapped => Int.not_le.mp fun nonneg => unmapped ((inv.mapping.mapped x live).mpr nonneg)
  · exact fun x inside p covers => addr p ⟨x, inside, covers⟩
  · exact inv.mapping.reserved

theorem modify_lock (f : UInt32 → UInt32) (x : Nat) : ∃ lock,
    (e.modify b fun m => { m with mapLocked := f m.mapLocked }).blk x = { e.blk x with mapLocked := lock } := by
  by_cases same : x = b
  · exact ⟨f (e.blk b).mapLocked, by rw [same]; exact update_self ..⟩
  · exact ⟨_, update_of_ne same ..⟩

theorem sameBlocks_lock (f : UInt32 → UInt32) : SameBlocks e (e.modify b fun m => { m with mapLocked := f m.mapLocked }) := by
  refine ⟨rfl, rfl, rfl, fun x _ => ?_⟩
  obtain ⟨lock, same⟩ := modify_lock (e := e) (b := b) f x
  exact ⟨_, lock, same⟩

theorem Inv.setLock (inv : Inv c cleared e) (other : e.reserved ≠ some b) (f : UInt32 → UInt32) :
    Inv c cleared (e.modify b fun m => { m with mapLocked := f m.mapLocked }) := by
  refine ⟨inv.blocks.congr (sameBlocks_lock f), ?_⟩
  refine inv.mapping.frame inv.blocks rfl rfl rfl rfl ?_ ?_ ?_ ?_ ?_
  · intro x _
    obtain ⟨lock, same⟩ := modify_lock (e := e) (b := b) f x
    rw [same]
    exact ⟨rfl, rfl, rfl⟩
  · exact inv.mapping.live
  · intro x live unmapped
    obtain ⟨lock, same⟩ := modify_lock (e := e) (b := b) f x
    rw [same]
    exact Int.not_le.mp fun nonneg => unmapped ((inv.mapping.mapped x live).mpr nonneg)
  · exact fun _ _ _ _ => rfl
  · intro r held
    obtain ⟨live, locked⟩ := inv.mapping.reserved r held
    refine ⟨live, ?_⟩
    have same : (e.modify b fun m => { m with mapLocked := f m.mapLocked }).blk r = e.blk r :=
      update_of_ne (fun (same : r = b) => other (same ▸ held)) ..
    rw [same]
    exact locked

theorem Inv.memblkMap (inv : Inv c cleared e) (inside : b ∈ e.block) (other : e.reserved ≠ some b) :
    Inv c cleared (e.sndEmu10k1MemblkMap c b).2 :=
  ⟨inv.blocks.congr memblkMap_remapped.same, (inv.mapping.memblkMap inv.blocks inside other).1⟩

theorem Inv.unmapMemblk (inv : Inv c cleared e) (inside : b ∈ e.mapped) (other : e.reserved ≠ some b) :
    Inv c cleared (e.unmapMemblk c b).2 :=
  ⟨inv.blocks.congr unmapMemblk_remapped.same, inv.mapping.unmapMemblk inv.blocks inside other⟩

structure Once (e e' : Emu10k1) (p : Nat) : Prop where
  same : (e.Owned p ↔ e'.Owned p) → e'.tables.gets p = e.tables.gets p ∧ e'.tables.frees p = e.tables.frees p
  first : ¬ e.Owned p → e'.Owned p → e'.tables.gets p = e.tables.gets p + 1 ∧ e'.tables.frees p = e.tables.frees p
  last : e.Owned p → ¬ e'.Owned p → e'.tables.gets p = e.tables.gets p ∧ e'.tables.frees p = e.tables.frees p + 1

structure Unchanged (e e' : Emu10k1) : Prop where
  blocks : SameBlocks e e'
  ptr : ∀ p, Owns e p → e'.tables.ptr p = e.tables.ptr p

theorem Unchanged.refl (e : Emu10k1) : Unchanged e e := ⟨SameBlocks.refl e, fun _ _ => rfl⟩

structure Effect (c : Emu10k1Card) (cleared : Prop) (e e' : Emu10k1) : Prop where
  inv : Inv c cleared e'
  reserved : e'.reserved = e.reserved
  owns : ∀ p, Owns e p → Owns e' p

theorem Effect.refl (inv : Inv c cleared e) : Effect c cleared e e := ⟨inv, rfl, fun _ => id⟩

theorem Effect.trans {e'' : Emu10k1} (first : Effect c cleared e e') (second : Effect c cleared e' e'') : Effect c cleared e e'' :=
  ⟨second.inv, second.reserved.trans first.reserved, fun p owns => second.owns p (first.owns p owns)⟩

theorem Remapped.effect (remapped : Remapped e e') (inv : Inv c cleared e') : Effect c cleared e e' := by
  refine ⟨inv, remapped.reserved, fun p owns => ?_⟩
  have tables := remapped.tables
  exact owns.congr remapped.same (by rw [tables]) (by rw [tables]; exact owns.balanced)

section

variable {pos : Nat} {m : Memblk} {t : PageTables}

theorem own_iff (blocks : Blocks c (e.addBlock pos b m)) (fresh : b ∉ e.block) (synth : m.synth = true) :
    p ∈ pageRange (e.ownPages pos b m).1 (e.ownPages pos b m).2 ↔ ¬ e.Owned p ∧ (e.addWith pos b m t).Owned p := by
  rw [mem_ownPages blocks fresh, owned_addWith fresh]
  constructor
  · rintro ⟨covers, alone⟩
    exact ⟨fun ⟨x, inside, _, both⟩ => alone x inside both, Or.inl ⟨synth, covers⟩⟩
  · rintro ⟨free, new | old⟩
    · refine ⟨new.2, ?_⟩
      by_contra shared
      exact free (owned_of_covers blocks fresh new.2 shared)
    · exact absurd old free

theorem addWith_keepsLocked (mapping : Mapping c cleared e) (fresh : b ∉ e.block) : KeepsLocked e (e.addWith pos b m t) :=
  fun x inside _ => ⟨inside, by rw [addWith_other fresh (mapping.live x inside)]⟩

theorem addWith_freed (fresh : b ∉ e.block) (remapped : Remapped (e.addWith pos b m t) e') :
    SameBlocks e (e'.sndUtilMemFree b) := by
  have back : SameBlocks e ((e.addBlock pos b m).sndUtilMemFree b) := sndUtilMemFree_addBlock fresh
  obtain ⟨page, size⟩ := remapped.fields b
  refine ⟨?_, ?_, ?_, fun x inside => ?_⟩
  · show e'.block.erase b = e.block
    rw [remapped.block]
    exact back.block
  · show e'.nblocks - 1 = e.nblocks
    rw [remapped.nblocks]
    exact back.nblocks
  · show e'.used - (e'.blk b).size = e.used
    rw [remapped.used, size]
    exact back.used
  · obtain ⟨page', same⟩ := remapped.fields x
    rw [addWith_other fresh inside] at same
    exact ⟨page', _, same⟩

end

theorem Inv.synthAdded (inv : Inv c cleared e) {pos : Nat} {m : Memblk} {t : PageTables} (fresh : b ∉ e.block)
    (other : e.reserved ≠ some b) (fits : Fits c e pos m.offset m.size) (new : m = newMemblk c true m.offset m.size)
    (got : ∀ p, PageTables.Got e.tables t (pageRange (e.ownPages pos b m).1 (e.ownPages pos b m).2) p) :
    Effect c cleared e ((e.addWith pos b m t).sndEmu10k1MemblkMap c b).2 ∧
      KeepsLocked e ((e.addWith pos b m t).sndEmu10k1MemblkMap c b).2 ∧
      ∀ p, Once e ((e.addWith pos b m t).sndEmu10k1MemblkMap c b).2 p := by
  have paged : m.Paged c := new ▸ newMemblk_paged c true m.offset m.size
  have synth : m.synth = true := by rw [new]; rfl
  have out : m.mappedPage < 0 := by rw [new]; exact (by decide : (-1 : Int) < 0)
  have aligned : m.synth = false → c.pageSize ∣ m.offset ∧ c.pageSize ∣ m.size :=
    fun pcm => absurd (synth.symm.trans pcm) (by decide)
  have added := inv.blocks.addBlock fresh fits paged aligned
  have addr (p : Nat) (shared : ∃ x ∈ e.block, (e.blk x).Covers p) : t.addr p = e.tables.addr p := by
    obtain ⟨x, inside, covers⟩ := shared
    exact (got p).addr fun own => ((mem_ownPages added fresh).mp own).2 x inside covers
  have inv' := inv.addWith fresh fits paged aligned out addr
  have here : b ∈ (e.addWith pos b m t).block := mem_addWith.mpr (Or.inl rfl)
  have remapped : Remapped (e.addWith pos b m t) ((e.addWith pos b m t).sndEmu10k1MemblkMap c b).2 := memblkMap_remapped
  have first : Effect c cleared e (e.addWith pos b m t) :=
    ⟨inv', rfl, fun p owns => owns.synthAdded added fresh synth (got p)⟩
  refine ⟨first.trans (remapped.effect (inv'.memblkMap here other)), ?_, fun p => ?_⟩
  · apply (addWith_keepsLocked inv.mapping fresh).trans (inv'.mapping.memblkMap inv'.blocks here other).2.1
    intro x inside
    rw [addWith_other fresh (inv.mapping.live x inside)]
  · have own := own_iff (p := p) (t := t) added fresh synth
    have counts := got p
    constructor
    all_goals rw [remapped.same.owned, remapped.tables]
    · intro same
      have outside : p ∉ pageRange (e.ownPages pos b m).1 (e.ownPages pos b m).2 :=
        fun inside => (own.mp inside).1 (same.mpr (own.mp inside).2)
      refine ⟨?_, counts.frees⟩
      have gets := counts.gets
      rw [if_neg outside] at gets
      exact gets
    · intro free owned
      have gets := counts.gets
      rw [if_pos (own.mpr ⟨free, owned⟩)] at gets
      exact ⟨gets, counts.frees⟩
    · intro owned free
      exact absurd ((owned_addWith fresh).mpr (Or.inr owned)) free

theorem Inv.takenBack {pos : Nat} {m : Memblk} {t : PageTables} (fresh : b ∉ e.block)
    (other : e.reserved ≠ some b) (remapped : Remapped (e.addWith pos b m t) e') (inv' : Inv c cleared e') (keeps : KeepsLocked e e')
    (out : (e'.blk b).mappedPage < 0) (ptr : ∀ p, Owns e p → t.ptr p = e.tables.ptr p ∧ t.Balanced p) :
    Effect c cleared e (e'.sndUtilMemFree b) ∧ KeepsLocked e (e'.sndUtilMemFree b) ∧ Unchanged e (e'.sndUtilMemFree b) := by
  have same : SameBlocks e (e'.sndUtilMemFree b) := addWith_freed fresh remapped
  have here : b ∈ e'.block := remapped.block ▸ mem_addWith.mpr (Or.inl rfl)
  have unmapped : b ∉ e'.mapped := fun inside => absurd (inv'.mapping.mapped_nonneg inside) (Int.not_le.mpr out)
  have tables : (e'.sndUtilMemFree b).tables = t := remapped.tables
  have unreserved : e'.reserved ≠ some b := remapped.reserved ▸ other
  refine ⟨⟨inv'.sndUtilMemFree here unmapped unreserved, remapped.reserved, fun p owns => ?_⟩, keeps, same, fun p owns => ?_⟩
  · exact owns.congr same (tables ▸ (ptr p owns).1) (tables ▸ (ptr p owns).2)
  · exact tables ▸ (ptr p owns).1

theorem Inv.synthAlloc (inv : Inv c cleared e) (size : UInt32) {kmalloc : Option Nat} (fresh : ∀ b, kmalloc = some b → b ∉ e.block)
    (tries : Nat → Option UInt64 × Option UInt64) :
    Effect c cleared e (e.sndEmu10k1SynthAlloc c size kmalloc tries).2 ∧
      KeepsLocked e (e.sndEmu10k1SynthAlloc c size kmalloc tries).2 ∧
      ((e.sndEmu10k1SynthAlloc c size kmalloc tries).1 = none → Unchanged e (e.sndEmu10k1SynthAlloc c size kmalloc tries).2) ∧
      ((e.sndEmu10k1SynthAlloc c size kmalloc tries).1 ≠ none → ∀ p, Once e (e.sndEmu10k1SynthAlloc c size kmalloc tries).2 p) := by
  rcases synthAlloc_cases inv.blocks size kmalloc tries with null | ⟨b, pos, m, err, t, address, fits, new, alloc, result⟩
  · rw [null]
    exact ⟨Effect.refl inv, KeepsLocked.refl e, fun _ => Unchanged.refl e, fun wrong => absurd rfl wrong⟩
  · have fresh := fresh b address
    have other : e.reserved ≠ some b := fun held => fresh (inv.mapping.reserved b held).1
    have paged : m.Paged c := new ▸ newMemblk_paged c true m.offset m.size
    have synth : m.synth = true := by rw [new]; rfl
    have out : m.mappedPage < 0 := by rw [new]; exact (by decide : (-1 : Int) < 0)
    have aligned : m.synth = false → c.pageSize ∣ m.offset ∧ c.pageSize ∣ m.size :=
      fun pcm => absurd (synth.symm.trans pcm) (by decide)
    have added := inv.blocks.addBlock fresh fits paged aligned
    rw [result]
    rcases added.allocOwn tries alloc with ⟨success, got⟩ | ⟨failure, restored⟩
    · rw [if_neg (not_not.mpr success)]
      obtain ⟨effect, keeps, once⟩ := inv.synthAdded fresh other fits new got
      exact ⟨effect, keeps, fun wrong => absurd wrong (Option.some_ne_none b), fun _ => once⟩
    · have nonzero : err ≠ 0 := by
        rw [show err = -ENOMEM from failure]
        decide
      rw [if_pos nonzero]
      have own (p : Nat) := mem_ownPages (p := p) added fresh
      have addr (p : Nat) (shared : ∃ x ∈ e.block, (e.blk x).Covers p) : t.addr p = e.tables.addr p := by
        obtain ⟨x, inside, covers⟩ := shared
        exact (restored p).addr fun inside' => ((own p).mp inside').2 x inside covers
      have free (p : Nat) (owns : Owns e p) (inside : p ∈ pageRange (e.ownPages pos b m).1 (e.ownPages pos b m).2) :
          e.tables.ptr p = none := owns.null fun ⟨x, old, _, covers⟩ => ((own p).mp inside).2 x old covers
      obtain ⟨effect, keeps, unchanged⟩ := Inv.takenBack fresh other (Remapped.refl (e.addWith pos b m t))
        (inv.addWith fresh fits paged aligned out addr) (addWith_keepsLocked inv.mapping fresh) (by rw [addWith_new]; exact out)
        fun p owns => ⟨(restored p).ptr (free p owns), (restored p).balanced (free p owns) owns.balanced⟩
      exact ⟨effect, keeps, fun _ => unchanged, fun wrong => absurd rfl wrong⟩

theorem storePcm_cases {pos : Nat} {m : Memblk} {addr : Nat → UInt64} {valid : Bool} {t : PageTables}
    (filled : PageTables.fillPages c addr (m.lastPage + 1 - m.firstPage) m.firstPage 0 e.tables = (valid, t)) :
    (e.addBlock pos b m).storePcm c b addr =
      if valid then
        if ((e.addWith pos b { m with mapLocked := 1 } t).sndEmu10k1MemblkMap c b).1 < 0 then
          (none, ((e.addWith pos b { m with mapLocked := 1 } t).sndEmu10k1MemblkMap c b).2.sndUtilMemFree b)
        else (some b, ((e.addWith pos b { m with mapLocked := 1 } t).sndEmu10k1MemblkMap c b).2)
      else (none, e.addWith pos b m t) := by
  have new : (e.addBlock pos b m).blk b = m := update_self ..
  have locked : ({ e.addBlock pos b m with tables := t }.modify b fun m => { m with mapLocked := 1 }) =
      e.addWith pos b { m with mapLocked := 1 } t := by
    unfold modify addWith addBlock
    simp only [update_self, update_idem]
  unfold storePcm
  dsimp only
  rw [new]
  have tables : (e.addBlock pos b m).tables = e.tables := rfl
  rw [tables, filled]
  dsimp only
  rw [locked]
  rfl

theorem pcm_pages (c : Emu10k1Card) (page : Nat) {count : Nat} (some_ : 0 < count) :
    (newMemblk c false (page * c.pageSize) (count * c.pageSize)).firstPage = page ∧
      (newMemblk c false (page * c.pageSize) (count * c.pageSize)).lastPage + 1 = page + count := by
  have positive := pageSize_pos c
  have first : page * c.pageSize / c.pageSize = page := Nat.mul_div_cancel page positive
  have last : (page * c.pageSize + count * c.pageSize - 1) / c.pageSize = page + count - 1 := by
    cases count with
    | zero => exact absurd some_ (Nat.lt_irrefl 0)
    | succ k =>
      rw [← Nat.add_mul, Nat.div_eq_iff positive, show page + (k + 1) - 1 = page + k by omega]
      have step : (page + (k + 1)) * c.pageSize = (page + k) * c.pageSize + c.pageSize := by
        rw [← Nat.add_assoc, Nat.succ_mul]
      omega
  refine ⟨first, ?_⟩
  show (page * c.pageSize + count * c.pageSize - 1) / c.pageSize + 1 = page + count
  omega

/-- Every address that `snd_emu10k1_alloc_pages` comes to look at is valid. -/
def PcmValid (c : Emu10k1Card) (e : Emu10k1) (dmaBytes periodSize bufferSize : Nat) (kmalloc : Option Nat)
    (sgbuf : Nat → UInt64) : Prop :=
  dmaBytes ≠ 0 → dmaBytes < maxPages * emuPageSize → kmalloc ≠ none →
    Room c e (pcmPages c dmaBytes periodSize bufferSize) →
      ∀ i < pcmPages c dmaBytes periodSize bufferSize, c.isValidPage (pcmPageAddr c dmaBytes sgbuf i) = true

section

variable {pos : Nat} {m : Memblk} {t : PageTables}

theorem Blocks.pcmFilled (blocks : Blocks c (e.addBlock pos b m)) (fresh : b ∉ e.block) (pcm : m.synth = false)
    (filled : ∀ p, PageTables.Filled e.tables t m.firstPage (m.lastPage + 1) p) :
    (∀ p, (∃ x ∈ e.block, (e.blk x).Covers p) → t.addr p = e.tables.addr p) ∧
      ∀ p, Owns e p → t.ptr p = e.tables.ptr p ∧ t.Balanced p := by
  have new : (e.addBlock pos b m).blk b = m := update_self ..
  have alone (p : Nat) (low : m.firstPage ≤ p) (high : p < m.lastPage + 1) (x : Nat) (inside : x ∈ e.block) :
      ¬ (e.blk x).Covers p := by
    intro covers
    have same : (e.addBlock pos b m).blk x = e.blk x := addWith_other (t := e.tables) fresh inside
    have equal := blocks.covers_pcm (x := b) (y := x) (p := p) (mem_addWith (t := e.tables).mpr (Or.inl rfl))
      (mem_addWith (t := e.tables).mpr (Or.inr inside)) (by rw [new]; exact pcm)
      (by rw [new]; exact ⟨low, Nat.le_of_lt_succ high⟩) (by rw [same]; exact covers)
    exact fresh (equal ▸ inside)
  constructor
  · rintro p ⟨x, inside, covers⟩
    exact (filled p).addr fun own => alone p own.1 own.2 x inside covers
  · intro p owns
    apply (filled p).balanced _ owns.balanced
    exact fun low high => owns.null fun ⟨x, inside, _, covers⟩ => alone p low high x inside covers

theorem Inv.pcmAdded (inv : Inv c cleared e) (fresh : b ∉ e.block) (fits : Fits c e pos m.offset m.size) (paged : m.Paged c)
    (pcm : m.synth = false) (aligned : c.pageSize ∣ m.offset ∧ c.pageSize ∣ m.size) (out : m.mappedPage < 0)
    (filled : ∀ p, PageTables.Filled e.tables t m.firstPage (m.lastPage + 1) p) :
    Effect c cleared e (e.addWith pos b m t) ∧ ∀ p, Owns e p → t.ptr p = e.tables.ptr p ∧ t.Balanced p := by
  have added := inv.blocks.addBlock fresh fits paged fun _ => aligned
  obtain ⟨addr, ptr⟩ := added.pcmFilled fresh pcm filled
  refine ⟨⟨inv.addWith fresh fits paged (fun _ => aligned) out addr, rfl, fun p owns => ?_⟩, ptr⟩
  obtain ⟨same, balanced⟩ := ptr p owns
  refine ⟨?_, balanced⟩
  rw [owned_addWith fresh, pcm]
  show (t.ptr p).isSome = true ↔ _
  rw [same, owns.ptr]
  exact ⟨Or.inr, fun either => either.elim (fun wrong => absurd wrong.1 Bool.false_ne_true) id⟩

theorem Once.of_counts (owned : e'.Owned p ↔ e.Owned p) (gets : e'.tables.gets p = e.tables.gets p)
    (frees : e'.tables.frees p = e.tables.frees p) : Once e e' p :=
  ⟨fun _ => ⟨gets, frees⟩, fun free new => absurd (owned.mp new) free, fun old free => absurd (owned.mpr old) free⟩

theorem owned_pcm (fresh : b ∉ e.block) (pcm : m.synth = false) : (e.addWith pos b m t).Owned p ↔ e.Owned p := by
  rw [owned_addWith fresh, pcm]
  exact ⟨fun either => either.elim (fun wrong => absurd wrong.1 Bool.false_ne_true) id, Or.inr⟩

end

theorem Inv.allocPages (inv : Inv c cleared e) (dmaBytes periodSize bufferSize : Nat) {kmalloc : Option Nat}
    (fresh : ∀ b, kmalloc = some b → b ∉ e.block) (sgbuf : Nat → UInt64) :
    Effect c cleared e (e.sndEmu10k1AllocPages c dmaBytes periodSize bufferSize kmalloc sgbuf).2 ∧
      KeepsLocked e (e.sndEmu10k1AllocPages c dmaBytes periodSize bufferSize kmalloc sgbuf).2 ∧
      (∀ p, Once e (e.sndEmu10k1AllocPages c dmaBytes periodSize bufferSize kmalloc sgbuf).2 p) ∧
      (PcmValid c e dmaBytes periodSize bufferSize kmalloc sgbuf →
        (e.sndEmu10k1AllocPages c dmaBytes periodSize bufferSize kmalloc sgbuf).1 = none →
          Unchanged e (e.sndEmu10k1AllocPages c dmaBytes periodSize bufferSize kmalloc sgbuf).2) ∧
      (¬ PcmValid c e dmaBytes periodSize bufferSize kmalloc sgbuf →
        (e.sndEmu10k1AllocPages c dmaBytes periodSize bufferSize kmalloc sgbuf).1 = none ∧
          (e.sndEmu10k1AllocPages c dmaBytes periodSize bufferSize kmalloc sgbuf).2.block ≠ e.block) := by
  rcases allocPages_cases inv.blocks dmaBytes periodSize bufferSize kmalloc sgbuf with
    ⟨null, why⟩ | ⟨⟨some_, small⟩, room, b, pos, m, page, address, fits, new, result⟩
  · rw [null]
    refine ⟨Effect.refl inv, KeepsLocked.refl e, fun p => Once.of_counts Iff.rfl rfl rfl, fun _ _ => Unchanged.refl e,
      fun invalid => ?_⟩
    exfalso
    apply invalid
    intro some_ small address room
    rcases why with none_ | large | fails | full
    · exact absurd none_ some_
    · exact absurd small (Nat.not_lt.mpr large)
    · exact absurd fails address
    · exact absurd room full
  · have fresh := fresh b address
    have other : e.reserved ≠ some b := fun held => fresh (inv.mapping.reserved b held).1
    have some_pages : 0 < pcmPages c dmaBytes periodSize bufferSize := psize_pos (by omega)
    obtain ⟨first, last⟩ := pcm_pages c page some_pages
    rw [← new] at first last
    have count : m.lastPage + 1 - m.firstPage = pcmPages c dmaBytes periodSize bufferSize := by omega
    have paged : m.Paged c := new ▸ newMemblk_paged c false _ _
    have pcm : m.synth = false := by rw [new]; rfl
    have out : m.mappedPage < 0 := by rw [new]; exact (by decide : (-1 : Int) < 0)
    have aligned : c.pageSize ∣ m.offset ∧ c.pageSize ∣ m.size := by
      rw [new]
      exact ⟨Nat.dvd_mul_left .., Nat.dvd_mul_left ..⟩
    have filled := PageTables.fillPages_filled (c := c) (t := e.tables) (pcmPageAddr c dmaBytes sgbuf)
      (m.lastPage + 1 - m.firstPage) m.firstPage 0
    have valid := PageTables.fillPages_valid (c := c) (t := e.tables) (pcmPageAddr c dmaBytes sgbuf)
      (m.lastPage + 1 - m.firstPage) m.firstPage 0
    rw [show m.firstPage + (m.lastPage + 1 - m.firstPage) = m.lastPage + 1 by omega] at filled
    generalize fill : PageTables.fillPages c (pcmPageAddr c dmaBytes sgbuf) (m.lastPage + 1 - m.firstPage) m.firstPage 0
      e.tables = stored at filled valid
    obtain ⟨good, t⟩ := stored
    simp only [count, Nat.zero_add] at valid
    rw [result, storePcm_cases fill]
    cases good with
    | false =>
      rw [if_neg Bool.false_ne_true]
      obtain ⟨effect, -⟩ := inv.pcmAdded fresh fits paged pcm aligned out filled
      refine ⟨effect, addWith_keepsLocked inv.mapping fresh, fun p => Once.of_counts (owned_pcm fresh pcm) (filled p).gets
        (filled p).frees, fun passes => ?_, fun _ => ⟨rfl, fun same => ?_⟩⟩
      · have all := passes some_ small (by rw [address]; exact Option.some_ne_none b) room
        exact absurd (valid.mpr all) Bool.false_ne_true
      · have inside : b ∈ (e.addWith pos b m t).block := mem_addWith.mpr (Or.inl rfl)
        rw [same] at inside
        exact fresh inside
    | true =>
      rw [if_pos rfl]
      obtain ⟨effect, ptr⟩ := inv.pcmAdded (m := { m with mapLocked := 1 }) (t := t) fresh fits ⟨paged.1, paged.2, paged.3⟩ pcm
        aligned out filled
      have here : b ∈ (e.addWith pos b { m with mapLocked := 1 } t).block := mem_addWith.mpr (Or.inl rfl)
      have remapped : Remapped (e.addWith pos b { m with mapLocked := 1 } t)
        ((e.addWith pos b { m with mapLocked := 1 } t).sndEmu10k1MemblkMap c b).2 := memblkMap_remapped
      have inv' := effect.inv.memblkMap here other
      obtain ⟨-, kept, left⟩ := effect.inv.mapping.memblkMap effect.inv.blocks here other
      have added : KeepsLocked e (e.addWith pos b { m with mapLocked := 1 } t) := addWith_keepsLocked inv.mapping fresh
      have keeps := added.trans kept fun x inside => by rw [addWith_other fresh (inv.mapping.live x inside)]
      have passed : PcmValid c e dmaBytes periodSize bufferSize kmalloc sgbuf := fun _ _ _ _ => valid.mp rfl
      have tables := remapped.tables
      by_cases full : ((e.addWith pos b { m with mapLocked := 1 } t).sndEmu10k1MemblkMap c b).1 < 0
      · rw [if_pos full]
        obtain ⟨effect', keeps', unchanged⟩ := Inv.takenBack fresh other remapped inv' keeps (left full) ptr
        refine ⟨effect', keeps', fun p => Once.of_counts unchanged.blocks.owned ?_ ?_, fun _ _ => unchanged,
          fun invalid => absurd passed invalid⟩
        · exact (congrFun (congrArg PageTables.gets tables) p).trans (filled p).gets
        · exact (congrFun (congrArg PageTables.frees tables) p).trans (filled p).frees
      · rw [if_neg full]
        refine ⟨effect.trans (remapped.effect inv'), keeps, fun p => Once.of_counts ?_ ?_ ?_,
          fun _ wrong => absurd wrong (Option.some_ne_none b), fun invalid => absurd passed invalid⟩
        · rw [remapped.same.owned]
          exact owned_pcm fresh pcm
        · exact (congrFun (congrArg PageTables.gets tables) p).trans (filled p).gets
        · exact (congrFun (congrArg PageTables.frees tables) p).trans (filled p).frees

theorem Inv.released (inv : Inv c cleared e) (inside : b ∈ e.block) (out : b ∉ e.mapped) (other : e.reserved ≠ some b) :
    Effect c cleared e ((e.synthFreePages b).sndUtilMemFree b) ∧ ∀ p, Owns e p → Once e ((e.synthFreePages b).sndUtilMemFree b) p := by
  obtain ⟨xs, ys, split⟩ := List.mem_iff_append.mp inside
  have own (p : Nat) := inv.blocks.mem_singlePages (p := p) split
  generalize range : pageRange (e.getSinglePageRange b).1 (e.getSinglePageRange b).2 = l at own
  have freed (p : Nat) : PageTables.Freed e.tables (e.synthFreePages b).tables l p :=
    range ▸ PageTables.synthFreePages_freed _ _ p
  have nodup := inv.blocks.nodup
  have member (x : Nat) : x ∈ xs ++ ys ↔ x ≠ b ∧ x ∈ e.block := by
    have fresh := inv.blocks.fresh split
    have order := inv.blocks.nodup
    rw [split] at order
    have late := (List.nodup_cons.mp (List.nodup_append.mp order).2.1).1
    rw [split, List.mem_append, List.mem_append, List.mem_cons]
    constructor
    · rintro (early | behind)
      · exact ⟨fun same => fresh (same ▸ early), Or.inl early⟩
      · exact ⟨fun same => late (same ▸ behind), Or.inr (Or.inr behind)⟩
    · rintro ⟨ne, early | same | behind⟩
      · exact Or.inl early
      · exact absurd same ne
      · exact Or.inr behind
  have owned (p : Nat) : ((e.synthFreePages b).sndUtilMemFree b).Owned p ↔
      ∃ x ∈ xs ++ ys, (e.blk x).synth = true ∧ (e.blk x).Covers p := by
    have erased (x : Nat) : x ∈ e.block.erase b ↔ x ∈ xs ++ ys := by rw [nodup.mem_erase_iff, member]
    exact exists_congr fun x => and_congr_left fun _ => erased x
  have kept (p : Nat) (outside : p ∉ l) : ((e.synthFreePages b).sndUtilMemFree b).Owned p ↔ e.Owned p := by
    rw [owned]
    constructor
    · rintro ⟨x, both, rest⟩
      exact ⟨x, ((member x).mp both).2, rest⟩
    · rintro ⟨x, live, synth, covers⟩
      by_cases same : x = b
      · subst same
        have shared : ¬ ∀ y ∈ xs ++ ys, ¬ (e.blk y).Covers p := fun alone => outside ((own p).mpr ⟨covers, alone⟩)
        push Not at shared
        obtain ⟨y, rest, both⟩ := shared
        refine ⟨y, rest, ?_, both⟩
        by_contra pcm
        have equal := inv.blocks.covers_pcm ((member y).mp rest).2 live (Bool.not_eq_true _ ▸ pcm) both covers
        exact ((member y).mp rest).1 equal
      · exact ⟨x, (member x).mpr ⟨same, live⟩, synth, covers⟩
  have gone (p : Nat) (single : p ∈ l) : ¬ ((e.synthFreePages b).sndUtilMemFree b).Owned p := by
    rw [owned]
    rintro ⟨x, rest, -, covers⟩
    exact ((own p).mp single).2 x rest covers
  refine ⟨⟨?_, rfl, fun p owns => ⟨?_, (freed p).balanced owns.balanced⟩⟩, fun p owns => ?_⟩
  · refine Inv.sndUtilMemFree (e := e.synthFreePages b) (inv.setTables ?_) inside out other
    rintro p ⟨x, mapped, covers⟩
    have ne : x ≠ b := fun same => out (same ▸ mapped)
    have outside : p ∉ l := fun single =>
      ((own p).mp single).2 x ((member x).mpr ⟨ne, inv.mapping.live x mapped⟩) covers
    exact (freed p).addr.trans (if_neg outside)
  · show ((e.synthFreePages b).tables.ptr p).isSome = true ↔ _
    rw [(freed p).ptr]
    by_cases single : p ∈ l
    · rw [if_pos single]
      exact ⟨fun wrong => absurd wrong Bool.false_ne_true, fun wrong => absurd wrong (gone p single)⟩
    · rw [if_neg single, kept p single]
      exact owns.ptr
  · have gets : ((e.synthFreePages b).sndUtilMemFree b).tables.gets p = e.tables.gets p := (freed p).gets
    have frees : ((e.synthFreePages b).sndUtilMemFree b).tables.frees p = _ := (freed p).frees
    constructor
    · intro same
      refine ⟨gets, frees.trans ?_⟩
      rw [if_neg, Nat.add_zero]
      rintro ⟨single, some_⟩
      exact gone p single (same.mp (owns.ptr.mp some_))
    · intro free new
      by_cases single : p ∈ l
      · exact absurd new (gone p single)
      · exact absurd ((kept p single).mp new) free
    · intro old free
      have single : p ∈ l := by
        by_contra outside
        exact free ((kept p outside).mpr old)
      exact ⟨gets, frees.trans (by rw [if_pos ⟨single, owns.ptr.mpr old⟩])⟩

theorem Inv.synthFree (inv : Inv c cleared e) (inside : b ∈ e.block) (other : e.reserved ≠ some b) :
    Effect c cleared e (e.sndEmu10k1SynthFree c b) ∧ (∀ p, Owns e p → Once e (e.sndEmu10k1SynthFree c b) p) ∧
      ∀ x ∈ e.mapped, x ≠ b → x ∈ (e.sndEmu10k1SynthFree c b).mapped ∧
        ((e.sndEmu10k1SynthFree c b).blk x).mappedPage = (e.blk x).mappedPage := by
  unfold sndEmu10k1SynthFree
  by_cases mapped : (e.blk b).mappedPage ≥ 0
  · rw [if_pos mapped]
    have member := (inv.mapping.mapped b inside).mpr mapped
    have nodup := inv.mapping.nodup inv.blocks
    have remapped : Remapped e (e.unmapMemblk c b).2 := unmapMemblk_remapped
    have inv' := inv.unmapMemblk member other
    have out : b ∉ (e.unmapMemblk c b).2.mapped := fun wrong => (nodup.mem_erase_iff.mp wrong).1 rfl
    obtain ⟨effect, once⟩ := inv'.released inside out other
    refine ⟨(remapped.effect inv').trans effect, fun p owns => ?_, fun x old ne => ?_⟩
    · have step := once p ((remapped.effect inv').owns p owns)
      have owned := remapped.same.owned (p := p)
      exact ⟨fun same => step.same (owned.trans same), fun free new => step.first (fun old => free (owned.mp old)) new,
        fun old free => step.last (owned.mpr old) free⟩
    · exact ⟨nodup.mem_erase_iff.mpr ⟨ne, old⟩, congrArg Memblk.mappedPage (unmap_other (c := c) ne)⟩
  · rw [if_neg mapped]
    have out : b ∉ e.mapped := fun member => mapped (inv.mapping.mapped_nonneg member)
    obtain ⟨effect, once⟩ := inv.released inside out other
    exact ⟨effect, once, fun x old _ => ⟨old, rfl⟩⟩

end Emu10k1

end AlsaDriver.Pci
