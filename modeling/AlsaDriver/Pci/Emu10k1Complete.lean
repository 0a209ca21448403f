import AlsaDriver.Pci.Emu10k1Evict
import AlsaDriver.Pci.Emu10k1Runs

namespace AlsaDriver.Pci

open Function Extents Runs

namespace Emu10k1

variable {c : Emu10k1Card} {cleared : Prop} {e e' : Emu10k1} {b d n : Nat} {l gone : List Nat} {err : Int}

/-- The blocks of `l` that are not locked. -/
def unlocked (e : Emu10k1) (l : List Nat) : List Nat := l.filter fun x => (e.blk x).mapLocked = 0

/-- `snd_emu10k1_memblk_map` unmaps the first blocks of `l` that are not locked, as many as make room for `b`. -/
structure Evicts (c : Emu10k1Card) (e : Emu10k1) (b : Nat) (l gone : List Nat) (err : Int) (e' : Emu10k1) : Prop where
  oldest : gone <+: unlocked e l
  needed : ∀ part, part <+: gone → part ≠ gone → ¬ RoomWithout c e part (e.blk b).pages
  enough : err = 0 ↔ RoomWithout c e gone (e.blk b).pages
  failed : err ≠ 0 → err < 0 ∧ gone = unlocked e l
  mapped : ∀ x, x ∈ e'.mapped ↔ (x ∈ e.mapped ∧ x ∉ gone) ∨ (x = b ∧ err = 0)
  order : e'.order = (e.order.filter fun x => x ∉ gone) ++ if err = 0 then [b] else []
  kept : ∀ x, x ≠ b → x ∉ gone → e'.blk x = e.blk x
  page : 0 ≤ (e'.blk b).mappedPage ↔ err = 0

theorem mapMemblk_room (placed : Placed c e) (room : RoomWithout c e [] (e.blk b).pages) :
    ∃ next page, e.mapMemblk c b = (0, mapAt c e b next page) := by
  have success := placed.finds.mpr room
  unfold mapMemblk
  dsimp only
  generalize e.searchEmptyMapArea c (e.blk b).pages = result at success ⊢
  obtain ⟨page, next⟩ := result
  obtain ⟨page, rfl⟩ := Int.eq_ofNat_of_zero_le success
  exact ⟨next, page, if_neg (Int.not_lt.mpr success)⟩

theorem mapMemblk_full (placed : Placed c e) (full : ¬ RoomWithout c e [] (e.blk b).pages) :
    (e.mapMemblk c b).1 < 0 ∧ (e.mapMemblk c b).2 = e := by
  have fails : (e.searchEmptyMapArea c (e.blk b).pages).1 < 0 := Int.not_le.mp (mt placed.finds.mp full)
  unfold mapMemblk
  dsimp only
  rw [if_pos fails]
  exact ⟨fails, rfl⟩

theorem filter_none (l : List Nat) : (l.filter fun x => x ∉ ([] : List Nat)) = l := by simp

theorem evicts_room {next page : Nat} (room : RoomWithout c e [] (e.blk b).pages) :
    Evicts c e b l [] 0 (mapAt c e b next page) := by
  constructor
  · exact List.nil_prefix
  · intro part front other
    exact absurd (List.prefix_nil.mp front) other
  · exact iff_of_true rfl room
  · exact fun wrong => absurd rfl wrong
  · intro x
    rw [mem_mapAt]
    simp [or_comm]
  · rw [filter_none, if_pos rfl]
    rfl
  · exact fun x ne _ => mapAt_other ne
  · rw [mapAt_self]
    exact iff_of_true (Int.natCast_nonneg page) rfl

theorem evicts_full (out : (e.blk b).mappedPage < 0) (full : ¬ RoomWithout c e [] (e.blk b).pages) (negative : err < 0) :
    Evicts c e b [] [] err e := by
  have nonzero : err ≠ 0 := Int.ne_of_lt negative
  constructor
  · exact List.nil_prefix
  · intro part front other
    exact absurd (List.prefix_nil.mp front) other
  · exact iff_of_false nonzero full
  · exact fun _ => ⟨negative, rfl⟩
  · simp [nonzero]
  · rw [filter_none, if_neg nonzero, List.append_nil]
  · exact fun x _ _ => rfl
  · exact iff_of_false (Int.not_le.mpr out) nonzero

theorem Evicts.skip (evicts : Evicts c e b l gone err e') (locked : (e.blk d).mapLocked ≠ 0) :
    Evicts c e b (d :: l) gone err e' := by
  have same : unlocked e (d :: l) = unlocked e l := List.filter_cons_of_neg (by simpa using locked)
  have oldest := evicts.oldest
  have failed := evicts.failed
  rw [← same] at oldest failed
  exact ⟨oldest, evicts.needed, evicts.enough, failed, evicts.mapped, evicts.order, evicts.kept, evicts.page⟩

theorem Evicts.cons (placed : Placed c e) (ne : b ≠ d) (free : (e.blk d).mapLocked = 0)
    (full : ¬ RoomWithout c e [] (e.blk b).pages) (evicts : Evicts c (e.unmapMemblk c d).2 b l gone err e') :
    Evicts c e b (d :: l) (d :: gone) err e' := by
  have pages : ((e.unmapMemblk c d).2.blk b).pages = (e.blk b).pages := by rw [unmap_other ne]
  have locks (x : Nat) : ((e.unmapMemblk c d).2.blk x).mapLocked = (e.blk x).mapLocked := unmapMemblk_remapped.locks x
  have list : unlocked e (d :: l) = d :: unlocked (e.unmapMemblk c d).2 l := by
    unfold unlocked
    simp only [locks]
    exact List.filter_cons_of_pos (by simpa using free)
  have room (part : List Nat) : RoomWithout c (e.unmapMemblk c d).2 part (e.blk b).pages ↔ _ := placed.room_unmap part
  have member (x : Nat) : x ∈ (e.unmapMemblk c d).2.mapped ↔ x ≠ d ∧ x ∈ e.mapped := placed.nodup.mem_erase_iff
  constructor
  · rw [list]
    exact (List.prefix_cons_inj d).mpr evicts.oldest
  · intro part front other
    cases part with
    | nil => exact full
    | cons first rest =>
      obtain ⟨rfl, later⟩ := List.cons_prefix_cons.mp front
      rw [← room, ← pages]
      exact evicts.needed rest later fun same => other (same ▸ rfl)
  · rw [← room, ← pages]
    exact evicts.enough
  · intro failed
    obtain ⟨negative, all⟩ := evicts.failed failed
    rw [list, all]
    exact ⟨negative, rfl⟩
  · intro x
    rw [evicts.mapped, member]
    simp only [List.mem_cons, not_or]
    tauto
  · rw [evicts.order]
    have erased : (e.unmapMemblk c d).2.order = e.order.erase d := rfl
    rw [erased, (placed.order.nodup_iff.mpr placed.nodup).erase_eq_filter, List.filter_filter]
    congr 1
    apply List.filter_congr
    intro x _
    rw [Bool.eq_iff_iff]
    simp [and_comm]
  · intro x other outside
    obtain ⟨apart, outside⟩ := not_or.mp fun inside => outside (List.mem_cons.mpr inside)
    rw [evicts.kept x other outside, unmap_other apart]
  · exact evicts.page

theorem unmapOldest_evicts (placed : Placed c e) (old : ∀ x ∈ l, x ∈ e.mapped) (nodup : l.Nodup) (fresh : b ∉ e.mapped)
    (out : (e.blk b).mappedPage < 0) (full : ¬ RoomWithout c e [] (e.blk b).pages) (negative : err < 0) :
    ∃ gone, Evicts c e b l gone (unmapOldest c b l err e).1 (unmapOldest c b l err e).2 := by
  induction l generalizing e with
  | nil => exact ⟨[], evicts_full out full negative⟩
  | cons d rest ih =>
    obtain ⟨once, nodup⟩ := List.nodup_cons.mp nodup
    have inside := old d List.mem_cons_self
    have old' (x : Nat) (member : x ∈ rest) := old x (List.mem_cons_of_mem d member)
    unfold unmapOldest
    by_cases locked : (e.blk d).mapLocked ≠ 0
    · rw [if_pos locked]
      obtain ⟨gone, evicts⟩ := ih placed old' nodup fresh out full
      exact ⟨gone, evicts.skip locked⟩
    rw [if_neg locked]
    dsimp only
    have ne : b ≠ d := fun same => fresh (same ▸ inside)
    have free := of_not_not locked
    have placed' : Placed c (e.unmapMemblk c d).2 := placed.unmap
    have block : (e.unmapMemblk c d).2.blk b = e.blk b := unmap_other ne
    have enough := placed.unmap_enough inside full
    rw [block]
    by_cases large : (e.unmapMemblk c d).1 ≥ (e.blk b).pages
    · rw [if_pos large]
      have room : RoomWithout c (e.unmapMemblk c d).2 [] ((e.unmapMemblk c d).2.blk b).pages := by
        rw [block]
        exact enough.mp large
      obtain ⟨next, page, result⟩ := mapMemblk_room placed' room
      rw [result]
      exact ⟨[d], (evicts_room room).cons placed ne free full⟩
    · rw [if_neg large]
      have fresh' : b ∉ (e.unmapMemblk c d).2.mapped := fun member => fresh (List.mem_of_mem_erase member)
      have still (x : Nat) (member : x ∈ rest) : x ∈ (e.unmapMemblk c d).2.mapped :=
        placed.nodup.mem_erase_iff.mpr ⟨fun same => once (same ▸ member), old' x member⟩
      obtain ⟨gone, evicts⟩ := ih placed' still nodup fresh' (by rw [block]; exact out)
        (by rw [block]; exact fun room => large (enough.mpr room))
      exact ⟨d :: gone, evicts.cons placed ne free full⟩

theorem memblkMap_evicts (placed : Placed c e) (fresh : b ∉ e.mapped) (out : (e.blk b).mappedPage < 0) :
    ∃ gone, Evicts c e b e.order gone (e.sndEmu10k1MemblkMap c b).1 (e.sndEmu10k1MemblkMap c b).2 := by
  unfold sndEmu10k1MemblkMap
  rw [if_neg (Int.not_le.mpr out)]
  dsimp only
  by_cases room : RoomWithout c e [] (e.blk b).pages
  · obtain ⟨next, page, result⟩ := mapMemblk_room placed room
    rw [result, if_neg (Int.lt_irrefl 0)]
    exact ⟨[], evicts_room room⟩
  · obtain ⟨negative, same⟩ := mapMemblk_full placed room
    rw [if_pos negative, same]
    have nodup := placed.order.nodup_iff.mpr placed.nodup
    exact unmapOldest_evicts placed (fun x => placed.order.mem_iff.mp) nodup fresh out room negative

structure Complete (c : Emu10k1Card) (e : Emu10k1) (b : Nat) : Prop where
  succeeds : (e.sndEmu10k1MemblkMap c b).1 = 0 ↔
    Vacancy (mappedAt e) (pagesOf e) 0 (e.mapped.filter fun x => (e.blk x).mapLocked ≠ 0) c.maxAlignPages (e.blk b).pages
  evicts : ∃ gone, Evicts c e b e.order gone (e.sndEmu10k1MemblkMap c b).1 (e.sndEmu10k1MemblkMap c b).2
  finds : 0 ≤ (e.searchEmptyMapArea c (e.blk b).pages).1 ↔ RoomWithout c e [] (e.blk b).pages
  takes : 0 ≤ (e.searchEmptyMapArea c (e.blk b).pages).1 → Vacant (mappedAt e) (pagesOf e) 0 e.mapped c.maxAlignPages
    (e.searchEmptyMapArea c (e.blk b).pages).1.toNat (e.blk b).pages
  prefers : (∃ page, ExactHole c e page (e.blk b).pages) →
    ∃ page : Nat, (e.searchEmptyMapArea c (e.blk b).pages).1 = page ∧ ExactHole c e page (e.blk b).pages

theorem Evicts.succeeds (evicts : Evicts c e b e.order gone err e') (placed : Placed c e) : err = 0 ↔
    Vacancy (mappedAt e) (pagesOf e) 0 (e.mapped.filter fun x => (e.blk x).mapLocked ≠ 0) c.maxAlignPages (e.blk b).pages := by
  constructor
  · intro success
    apply (evicts.enough.mp success).mono
    intro x inside
    obtain ⟨mapped, locked⟩ := List.mem_filter.mp inside
    refine List.mem_filter.mpr ⟨mapped, decide_eq_true fun early => ?_⟩
    have free := (List.mem_filter.mp (evicts.oldest.subset early)).2
    exact of_decide_eq_true locked (of_decide_eq_true free)
  · intro room
    by_contra failed
    obtain ⟨-, all⟩ := evicts.failed failed
    apply mt evicts.enough.mpr failed
    apply room.mono
    intro x inside
    obtain ⟨mapped, outside⟩ := List.mem_filter.mp inside
    refine List.mem_filter.mpr ⟨mapped, decide_eq_true fun free => of_decide_eq_true outside ?_⟩
    rw [all]
    exact List.mem_filter.mpr ⟨placed.order.mem_iff.mpr mapped, decide_eq_true free⟩

theorem Placed.complete_iff (placed : Placed c e) (fresh : b ∉ e.mapped) (out : (e.blk b).mappedPage < 0)
    (sized : 0 < (e.blk b).pages) : Complete c e b ↔ LastFits c e (e.blk b).pages := by
  rw [← placed.exact_iff sized]
  constructor
  · exact fun complete => complete.prefers
  · intro prefers
    obtain ⟨gone, evicts⟩ := memblkMap_evicts placed fresh out
    exact ⟨evicts.succeeds placed, ⟨gone, evicts⟩, placed.finds, placed.takes, prefers⟩

def Reordered (e e' : Emu10k1) (last : Option Nat) : Prop :=
  ∃ rest, rest.Sublist e.order ∧ e'.order = rest ++ last.toList ∧ ∀ b, last = some b → b ∉ rest

theorem reordered_none (fewer : e'.order.Sublist e.order) : Reordered e e' none :=
  ⟨e'.order, fewer, (List.append_nil _).symm, fun b wrong => absurd wrong.symm (Option.some_ne_none b)⟩

theorem Evicts.reordered (evicts : Evicts c e b l gone err e') (fresh : b ∉ e.order) :
    Reordered e e' (if err = 0 then some b else none) := by
  refine ⟨e.order.filter fun x => x ∉ gone, List.filter_sublist, ?_, ?_⟩
  · rw [evicts.order]
    congr 1
    split <;> rfl
  · intro x last inside
    have same : x = b := by
      split at last
      · exact (Option.some.inj last).symm
      · exact absurd last.symm (Option.some_ne_none x)
    exact fresh (same ▸ (List.mem_filter.mp inside).1)

theorem Placed.congr (placed : Placed c e) (mapped : e'.mapped = e.mapped) (order : e'.order = e.order)
    (same : ∀ x ∈ e.mapped, e'.blk x = e.blk x) : Placed c e' := by
  constructor
  · rw [mapped]
    apply placed.stacked.congr
    intro x inside
    simp [mappedAt, pagesOf, same x inside]
  · rw [mapped]
    intro x inside
    rw [same x inside]
    exact placed.sized x inside
  · rw [mapped]
    intro x inside
    rw [same x inside]
    exact placed.nonneg x inside
  · rw [mapped, order]
    exact placed.order

def target (c : Emu10k1Card) (e : Emu10k1) : MemOp → Option Nat
  | .synthAlloc size kmalloc tries => (e.sndEmu10k1SynthAlloc c size kmalloc tries).1
  | .allocPages dmaBytes periodSize bufferSize kmalloc sgbuf =>
    (e.sndEmu10k1AllocPages c dmaBytes periodSize bufferSize kmalloc sgbuf).1
  | .memblkMap b => some b
  | .synthFree _ | .freePages _ | .lock _ | .unlock _ => none

def mappedResult (result : Option Nat × Emu10k1) : Option Nat := result.1.filter fun b => 0 ≤ (result.2.blk b).mappedPage

def maps (c : Emu10k1Card) (e : Emu10k1) (op : MemOp) : Option Nat := mappedResult (target c e op, exec c e op)

theorem mappedResult_eq (page : 0 ≤ (e'.blk b).mappedPage ↔ err = 0) :
    mappedResult (some b, e') = if err = 0 then some b else none := by
  unfold mappedResult
  rw [Option.filter_some]
  simp only [decide_eq_true_eq, page]

section

variable (pos : Nat) {m : Memblk} (t : PageTables)

theorem addWith_placed (inv : Inv c cleared e) (fresh : b ∉ e.block) : Placed c (e.addWith pos b m t) :=
  (inv.mapping.placed inv.blocks).congr rfl rfl fun _ inside => addWith_other fresh (inv.mapping.live _ inside)

theorem addWith_evicts (inv : Inv c cleared e) (fresh : b ∉ e.block) (out : m.mappedPage < 0) :
    b ∉ e.order ∧ ∃ gone, Evicts c (e.addWith pos b m t) b e.order gone
      ((e.addWith pos b m t).sndEmu10k1MemblkMap c b).1 ((e.addWith pos b m t).sndEmu10k1MemblkMap c b).2 := by
  have unmapped : b ∉ e.mapped := fun inside => fresh (inv.mapping.live b inside)
  refine ⟨fun inside => unmapped (inv.mapping.order.mem_iff.mp inside), ?_⟩
  apply memblkMap_evicts (addWith_placed pos t inv fresh) unmapped
  rw [addWith_new]
  exact out

end

theorem Inv.memblkMap_reordered (inv : Inv c cleared e) :
    Reordered e (e.sndEmu10k1MemblkMap c b).2 (mappedResult (some b, (e.sndEmu10k1MemblkMap c b).2)) := by
  have placed := inv.mapping.placed inv.blocks
  by_cases mapped : 0 ≤ (e.blk b).mappedPage
  · have result : e.sndEmu10k1MemblkMap c b = (0, { e with order := e.order.erase b ++ [b] }) := if_pos mapped
    have page : 0 ≤ (e.blk b).mappedPage ↔ (0 : Int) = 0 := iff_of_true mapped rfl
    have last : mappedResult (some b, { e with order := e.order.erase b ++ [b] }) = some b := mappedResult_eq page
    rw [result, last]
    refine ⟨e.order.erase b, List.erase_sublist, rfl, fun x same member => ?_⟩
    rw [← Option.some.inj same] at member
    exact ((placed.order.nodup_iff.mpr placed.nodup).mem_erase_iff.mp member).1 rfl
  · have fresh : b ∉ e.mapped := fun member => mapped (placed.nonneg b member)
    obtain ⟨gone, evicts⟩ := memblkMap_evicts placed fresh (Int.not_le.mp mapped)
    rw [mappedResult_eq evicts.page]
    exact evicts.reordered fun member => fresh (placed.order.mem_iff.mp member)

theorem Inv.synthAlloc_reordered (inv : Inv c cleared e) (size : UInt32) {kmalloc : Option Nat}
    (tries : Nat → Option UInt64 × Option UInt64) (fresh : ∀ b, kmalloc = some b → b ∉ e.block) :
    Reordered e (e.sndEmu10k1SynthAlloc c size kmalloc tries).2 (mappedResult (e.sndEmu10k1SynthAlloc c size kmalloc tries)) := by
  rcases synthAlloc_cases inv.blocks size kmalloc tries with null | ⟨b, pos, m, err, t, address, fits, new, alloc, result⟩
  · rw [null]
    exact reordered_none (List.Sublist.refl _)
  · rw [result]
    by_cases failed : err ≠ 0
    · rw [if_pos failed]
      exact reordered_none (List.Sublist.refl _)
    · rw [if_neg failed]
      have out : m.mappedPage < 0 := by rw [new]; exact (by decide : (-1 : Int) < 0)
      obtain ⟨unmapped, gone, evicts⟩ := addWith_evicts pos t inv (fresh b address) out
      rw [mappedResult_eq evicts.page]
      exact evicts.reordered unmapped

theorem Inv.allocPages_reordered (inv : Inv c cleared e) (dmaBytes periodSize bufferSize : Nat) {kmalloc : Option Nat}
    (sgbuf : Nat → UInt64) (fresh : ∀ b, kmalloc = some b → b ∉ e.block) :
    Reordered e (e.sndEmu10k1AllocPages c dmaBytes periodSize bufferSize kmalloc sgbuf).2
      (mappedResult (e.sndEmu10k1AllocPages c dmaBytes periodSize bufferSize kmalloc sgbuf)) := by
  rcases allocPages_cases inv.blocks dmaBytes periodSize bufferSize kmalloc sgbuf with
    ⟨null, -⟩ | ⟨-, -, b, pos, m, page, address, fits, new, result⟩
  · rw [null]
    exact reordered_none (List.Sublist.refl _)
  · generalize fill : PageTables.fillPages c (pcmPageAddr c dmaBytes sgbuf) (m.lastPage + 1 - m.firstPage) m.firstPage 0
      e.tables = stored
    obtain ⟨good, t⟩ := stored
    rw [result, storePcm_cases fill]
    cases good with
    | false => exact reordered_none (List.Sublist.refl _)
    | true =>
      rw [if_pos rfl]
      have out : m.mappedPage < 0 := by rw [new]; exact (by decide : (-1 : Int) < 0)
      have locked : { m with mapLocked := 1 }.mappedPage < 0 := out
      obtain ⟨unmapped, gone, evicts⟩ := addWith_evicts pos t inv (fresh b address) locked
      have moved := evicts.reordered unmapped
      split
      · rename_i negative
        rw [if_neg (Int.ne_of_lt negative)] at moved
        exact moved
      · rename_i success
        have zero := by_contra fun failed => success (evicts.failed failed).1
        rw [mappedResult_eq evicts.page]
        exact moved

theorem synthFree_order : (e.sndEmu10k1SynthFree c b).order.Sublist e.order := by
  unfold sndEmu10k1SynthFree
  split
  · exact List.erase_sublist
  · exact List.Sublist.refl _

theorem Inv.reordered (inv : Inv c cleared e) (op : MemOp) (proper : Proper e op) : Reordered e (Emu10k1.exec c e op) (maps c e op) := by
  cases op with
  | synthAlloc size kmalloc tries => exact inv.synthAlloc_reordered size tries proper
  | allocPages dmaBytes periodSize bufferSize kmalloc sgbuf =>
    exact inv.allocPages_reordered dmaBytes periodSize bufferSize sgbuf proper
  | memblkMap b => exact inv.memblkMap_reordered
  | lock b => exact reordered_none (List.Sublist.refl _)
  | unlock b => exact reordered_none (List.Sublist.refl _)
  | synthFree b => exact reordered_none synthFree_order
  | freePages b => exact reordered_none synthFree_order

structure Clocked where
  emu : Emu10k1
  calls : Nat
  stamp : Nat → Nat

namespace Clocked

def exec (c : Emu10k1Card) (s : Clocked) (op : MemOp) : Clocked where
  emu := Emu10k1.exec c s.emu op
  calls := s.calls + 1
  stamp := (maps c s.emu op).elim s.stamp fun b => update s.stamp b s.calls

structure Ordered (s : Clocked) : Prop where
  past : ∀ b ∈ s.emu.order, s.stamp b < s.calls
  sorted : s.emu.order.Pairwise fun x y => s.stamp x < s.stamp y

theorem ordered_exec {s : Clocked} {op : MemOp} (ordered : s.Ordered)
    (reordered : Reordered s.emu (Emu10k1.exec c s.emu op) (maps c s.emu op)) : (s.exec c op).Ordered := by
  obtain ⟨rest, part, order, fresh⟩ := reordered
  have sorted := ordered.sorted.sublist part
  have past (x : Nat) (inside : x ∈ rest) := ordered.past x (part.subset inside)
  have list : (s.exec c op).emu.order = rest ++ (maps c s.emu op).toList := order
  cases last : maps c s.emu op with
  | none =>
    have stamp : (s.exec c op).stamp = s.stamp := by simp [exec, last]
    rw [last, Option.toList_none, List.append_nil] at list
    constructor
    · intro x inside
      rw [list] at inside
      rw [stamp]
      exact Nat.lt_succ_of_lt (past x inside)
    · rw [list, stamp]
      exact sorted
  | some b =>
    have stamp : (s.exec c op).stamp = update s.stamp b s.calls := by simp [exec, last]
    have old (x : Nat) (inside : x ∈ rest) : update s.stamp b s.calls x = s.stamp x :=
      update_of_ne (fun (same : x = b) => fresh b last (same ▸ inside)) ..
    rw [last, Option.toList_some] at list
    constructor
    · intro x inside
      rw [list] at inside
      rw [stamp]
      show _ < s.calls + 1
      rcases List.mem_append.mp inside with early | here
      · rw [old x early]
        exact Nat.lt_succ_of_lt (past x early)
      · rw [List.mem_singleton.mp here, update_self]
        exact Nat.lt_succ_self _
    · rw [list, stamp, List.pairwise_append]
      refine ⟨?_, List.pairwise_singleton .., fun x early y here => ?_⟩
      · apply sorted.imp_of_mem
        intro x y left right before
        rw [old x left, old y right]
        exact before
      · rw [old x early, List.mem_singleton.mp here, update_self]
        exact past x early

def start (c : Emu10k1Card) (boot : Boot) : Clocked := ⟨boot.created c, 1, fun _ => 0⟩

theorem ordered_start (c : Emu10k1Card) (boot : Boot) : (start c boot).Ordered := by
  obtain ⟨rest, part, order, -⟩ := (boot.fresh_inv c).synthAlloc_reordered 4096 boot.tries
    (show ∀ b, boot.kmalloc = some b → b ∉ boot.fresh.block from fun b _ => List.not_mem_nil)
  have none_ : rest = [] := List.sublist_nil.mp part
  have same : (boot.created c).order = (boot.fresh.sndEmu10k1SynthAlloc c 4096 boot.kmalloc boot.tries).2.order := by
    show (sndEmu10k1Create ..).order = _
    unfold sndEmu10k1Create
    dsimp only
    split <;> rfl
  have list : (start c boot).emu.order = _ := same.trans order
  rw [none_, List.nil_append] at list
  constructor
  · exact fun _ _ => Nat.zero_lt_one
  · rw [list]
    cases mappedResult (boot.fresh.sndEmu10k1SynthAlloc c 4096 boot.kmalloc boot.tries) with
    | none => exact List.Pairwise.nil
    | some b => exact List.pairwise_singleton ..

theorem run {s : Clocked} {ops : List MemOp} (inv : Inv c cleared s.emu) (ordered : s.Ordered)
    (proper : Throughout (exec c) (fun s op _ => Proper s.emu op) s ops) :
    Inv c cleared (ops.foldl (exec c) s).emu ∧ (ops.foldl (exec c) s).Ordered := by
  induction ops generalizing s with
  | nil => exact ⟨inv, ordered⟩
  | cons op rest ih =>
    apply ih (inv.exec op proper.1).1.inv _ proper.2
    exact ordered_exec ordered (inv.reordered op proper.1)

end Clocked

/-- Mapping a block is complete, and evicts by age, in every run; an exact fit behind the last block is preferred just
    when no larger hole comes before it. -/
theorem mapping_complete_iff (c : Emu10k1Card) :
    (∀ boot ops, Throughout (Clocked.exec c) (fun s op _ => Proper s.emu op) (Clocked.start c boot) ops →
      Placed c (ops.foldl (Clocked.exec c) (Clocked.start c boot)).emu ∧
        (ops.foldl (Clocked.exec c) (Clocked.start c boot)).Ordered) ∧
      ∀ e b, Placed c e → b ∉ e.mapped → (e.blk b).mappedPage < 0 → 0 < (e.blk b).pages →
        (Complete c e b ↔ LastFits c e (e.blk b).pages) := by
  constructor
  · intro boot ops proper
    obtain ⟨inv, ordered⟩ := Clocked.run (boot.created_inv c).1 (Clocked.ordered_start c boot) proper
    exact ⟨inv.mapping.placed inv.blocks, ordered⟩
  · exact fun e b placed fresh out sized => placed.complete_iff fresh out sized

def tight : Emu10k1 where
  blk := fun b =>
    if b = 0 then ⟨0, 4096, 0, 0, 1, 0, 1, true⟩
    else if b = 1 then ⟨12288, 33538048, 3, 8190, 8188, 3, 1, false⟩
    else ⟨4096, 4096, 1, 1, 1, -1, 1, false⟩
  block := [0, 2, 1]
  nblocks := 3
  used := 33546240
  mapped := [0, 1]
  order := [0, 1]
  ptb := fun _ => 0
  tables := ⟨fun _ => 0, fun _ => none, fun _ => 0, fun _ => 0⟩
  reserved := some 0

theorem tight_placed : Placed smallCard tight := ⟨by decide, by decide, by decide, List.Perm.refl _⟩

theorem mapping_complete_small :
    (Placed smallCard (smallRun.foldl (Clocked.exec smallCard) (Clocked.start smallCard smallBoot)).emu ∧
      (smallRun.foldl (Clocked.exec smallCard) (Clocked.start smallCard smallBoot)).Ordered) ∧
      (Complete smallCard tight 2 ↔ LastFits smallCard tight 1) :=
  ⟨(mapping_complete_iff smallCard).1 smallBoot smallRun (by decide +kernel),
    (mapping_complete_iff smallCard).2 tight 2 tight_placed (by decide) (by decide) (by decide)⟩

/-- The one page behind the large block is just enough, and the first of the two free pages is taken. -/
theorem last_hole_passed : ¬ ∀ (c : Emu10k1Card) (e : Emu10k1) (b : Nat), Placed c e → b ∉ e.mapped →
    (e.blk b).mappedPage < 0 → 0 < (e.blk b).pages → Complete c e b := by
  intro all
  have complete := all smallCard tight 2 tight_placed (by decide) (by decide) (by decide)
  have hole (p : Nat) : ExactHole smallCard tight p 1 ↔ _ :=
    gap_iff tight_placed.stacked tight_placed.sized (p := p) (by decide)
  obtain ⟨page, result, exact_⟩ := complete.prefers ⟨8191, (hole 8191).mpr (by decide)⟩
  have first : (tight.searchEmptyMapArea smallCard 1).1 = 1 := by decide
  have taken : page = 1 := Int.ofNat.inj (result.symm.trans first)
  rw [taken] at exact_
  exact absurd ((hole 1).mp exact_) (by decide)

end Emu10k1

end AlsaDriver.Pci
