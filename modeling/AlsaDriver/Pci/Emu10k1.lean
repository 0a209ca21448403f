import Mathlib.Algebra.GroupWithZero.Nat
import Mathlib.Logic.Function.Basic
import AlsaDriver.Lib.Extents

namespace AlsaDriver.Pci

open Function Extents

def ENOMEM : Int := 12

def emuPageSize : Nat := 4096

def maxPages : Nat := 8192

/-- What the kernel configuration and `snd_emu10k1_create` fix: pages of `2 ^ (12 + unitShift)` bytes. -/
structure Emu10k1Card where
  unitShift : Nat
  maxCachePages : Nat
  dmaMask : UInt64
  silentPage : UInt64
  delayPcmIrq : Nat

namespace Emu10k1Card

variable (c : Emu10k1Card)

def unitPages : Nat := 2 ^ c.unitShift

def pageShift : Nat := 12 + c.unitShift

def pageSize : Nat := 2 ^ c.pageShift

def maxAlignPages : Nat := maxPages / c.unitPages

def getAlignedPage (offset : Nat) : Nat := offset / c.pageSize

def alignedPageOffset (page : Nat) : Nat := page * c.pageSize

/-- `memhdr->size` -/
def memSize : Nat := c.maxCachePages * c.pageSize

/-- The word that `__set_ptb_entry` stores in entry `page`. -/
def ptbEntry (addr : UInt64) (page : Nat) : UInt32 := ((addr <<< 1) ||| UInt64.ofNat page).toUInt32

def setPtbEntry (page : Nat) (addr : UInt64) (ptb : Nat → UInt32) : Nat → UInt32 :=
  (List.range c.unitPages).foldl
    (fun t i => update t (page * c.unitPages + i)
      (ptbEntry (addr + UInt64.ofNat (i * emuPageSize)) (page * c.unitPages + i))) ptb

def setSilentPtb (page : Nat) (ptb : Nat → UInt32) : Nat → UInt32 :=
  (List.range c.unitPages).foldl
    (fun t i => update t (page * c.unitPages + i) (ptbEntry c.silentPage (page * c.unitPages + i))) ptb

def isValidPage (addr : UInt64) : Bool := addr &&& ~~~ c.dmaMask = 0 ∧ addr &&& 4095 = 0

end Emu10k1Card

/-- `struct snd_emu10k1_memblk`. `synth` is no field of it: it tells which of the two allocators made the block. -/
structure Memblk where
  offset : Nat
  size : Nat
  firstPage : Nat
  lastPage : Nat
  pages : Nat
  mappedPage : Int
  mapLocked : UInt32
  synth : Bool

/-- `page_addr_table` and `page_ptr_table`. `gets` and `frees` count the pages that were allocated for an entry
    and the ones that were given back from it. -/
structure PageTables where
  addr : Nat → UInt64
  ptr : Nat → Option UInt64
  gets : Nat → Nat
  frees : Nat → Nat

/-- The memory part of `struct snd_emu10k1`. A block is named by its address, and lists of blocks are lists of
    addresses. -/
structure Emu10k1 where
  blk : Nat → Memblk
  block : List Nat
  nblocks : Nat
  used : Nat
  mapped : List Nat
  order : List Nat
  ptb : Nat → UInt32
  tables : PageTables
  reserved : Option Nat

/-- The pages of a loop from `first` to `last`. -/
def pageRange (first last : Int) : List Nat := List.range' first.toNat (last + 1 - first).toNat

namespace PageTables

variable (c : Emu10k1Card) (t : PageTables)

/-- The loop of `snd_emu10k1_alloc_pages` that stores `count` page addresses; it stops at an invalid one. -/
def fillPages (addr : Nat → UInt64) : (count page idx : Nat) → PageTables → Bool × PageTables
  | 0, _, _, t => (true, t)
  | count + 1, page, idx, t =>
    if c.isValidPage (addr idx) then
      fillPages addr count (page + 1) (idx + 1)
        { t with addr := update t.addr page (addr idx), ptr := update t.ptr page none }
    else (false, t)

/-- One page of `__synth_free_pages`; `free_page` does nothing with a null pointer. -/
def freePage (page : Nat) : PageTables where
  addr := update t.addr page 0
  ptr := update t.ptr page none
  gets := t.gets
  frees := if t.ptr page = none then t.frees else update t.frees page (t.frees page + 1)

def synthFreePages (first last : Int) : PageTables := (pageRange first last).foldl freePage t

/-- The page frame that the two tries of `synth_alloc_pages` end with. -/
def allocPage (tries : Option UInt64 × Option UInt64) : Option UInt64 :=
  match tries.1 with
  | none => tries.2
  | some pfn => if pfn &&& ~~~ (c.dmaMask >>> UInt64.ofNat c.pageShift) ≠ 0 then tries.2 else some pfn

/-- The page frame `pfn` goes into entry `page` of both tables. -/
def storePage (page : Nat) (pfn : UInt64) : PageTables where
  addr := update t.addr page (pfn <<< UInt64.ofNat c.pageShift)
  ptr := update t.ptr page (some pfn)
  gets := update t.gets page (t.gets page + 1)
  frees := t.frees

/-- The loop of `synth_alloc_pages` from `first` on; `tries page` are the page frames that the kernel offers. -/
def allocPages (tries : Nat → Option UInt64 × Option UInt64) (first : Int) : List Nat → PageTables → Int × PageTables
  | [], t => (0, t)
  | page :: rest, t =>
    match allocPage c (tries page) with
    | none => (-ENOMEM, t.synthFreePages first (page - 1))
    | some pfn => allocPages tries first rest (t.storePage c page pfn)

end PageTables

namespace Emu10k1

variable (c : Emu10k1Card) (e : Emu10k1) (b : Nat)

def modify (f : Memblk → Memblk) : Emu10k1 := { e with blk := update e.blk b (f (e.blk b)) }

/-- `__snd_util_memblk_new` behind the first `pos` blocks; `kmalloc` is the address that it gets, if any. -/
def sndUtilMemblkNew (units pos : Nat) (kmalloc : Option Nat) : Option Nat × Emu10k1 :=
  match kmalloc with
  | none => (none, e)
  | some b =>
    let offset := (e.block.take pos).getLast?.elim 0 fun p => (e.blk p).offset + (e.blk p).size
    (some b, { e.modify b fun m => { m with offset := offset, size := units } with
      block := e.block.take pos ++ b :: e.block.drop pos
      nblocks := e.nblocks + 1
      used := e.used + units })

/-- The search of `__snd_util_mem_alloc`: the number of blocks in front of the first gap that is large enough. -/
def utilMemSearch (units memSize : Nat) : List Nat → (pos prevOffset : Nat) → Option Nat
  | [], pos, prevOffset => if memSize - prevOffset < units then none else some pos
  | p :: rest, pos, prevOffset =>
    if (e.blk p).offset - prevOffset ≥ units then some pos
    else utilMemSearch units memSize rest (pos + 1) ((e.blk p).offset + (e.blk p).size)

def sndUtilMemAlloc (size : Int) (kmalloc : Option Nat) : Option Nat × Emu10k1 :=
  if size ≤ 0 then (none, e)
  else
    let units := if size.toNat % 2 = 1 then size.toNat + 1 else size.toNat
    if units > c.memSize then (none, e)
    else match e.utilMemSearch units c.memSize e.block 0 0 with
      | none => (none, e)
      | some pos => e.sndUtilMemblkNew units pos kmalloc

def sndUtilMemFree : Emu10k1 :=
  { e with block := e.block.erase b, nblocks := e.nblocks - 1, used := e.used - (e.blk b).size }

def emu10k1MemblkInit : Emu10k1 :=
  e.modify b fun m =>
    let first := c.getAlignedPage m.offset
    let last := c.getAlignedPage (m.offset + m.size - 1)
    { m with mappedPage := -1, mapLocked := 0, firstPage := first, lastPage := last, pages := last - first + 1 }

/-- The scan of `search_empty_map_area` over the mapped blocks behind the first `pos`: a page and the place in
    the mapped list for a block there. -/
def searchMapArea (npages : Int) : List Nat → (pos : Nat) → (page foundPage maxSize : Int) → (candidate : Nat) → Int × Nat
  | [], pos, page, foundPage, maxSize, candidate =>
    if c.maxAlignPages - page ≥ maxSize then (page, pos) else (foundPage, candidate)
  | p :: rest, pos, page, foundPage, maxSize, candidate =>
    let m := e.blk p
    if m.mappedPage < 0 then searchMapArea npages rest (pos + 1) page foundPage maxSize candidate
    else if m.mappedPage - page = npages then (page, pos)
    else if m.mappedPage - page > maxSize then
      searchMapArea npages rest (pos + 1) (m.mappedPage + m.pages) page (m.mappedPage - page) pos
    else searchMapArea npages rest (pos + 1) (m.mappedPage + m.pages) foundPage maxSize candidate

def searchEmptyMapArea (npages : Nat) : Int × Nat :=
  e.searchMapArea c npages e.mapped 0 0 (-ENOMEM) npages e.mapped.length

/-- The loop of `map_memblk` that fills `count` pages of the PTB from `page` on. -/
def fillPtb : (count pg page : Nat) → (ptb : Nat → UInt32) → Nat → UInt32
  | 0, _, _, ptb => ptb
  | count + 1, pg, page, ptb => fillPtb count (pg + 1) (page + 1) (c.setPtbEntry page (e.tables.addr pg) ptb)

/-- The loop of `unmap_memblk` that clears `count` pages of the PTB from `mpage` on. -/
def clearPtb : (count mpage : Nat) → (ptb : Nat → UInt32) → Nat → UInt32
  | 0, _, ptb => ptb
  | count + 1, mpage, ptb => clearPtb count (mpage + 1) (c.setSilentPtb mpage ptb)

def mapMemblk : Int × Emu10k1 :=
  let m := e.blk b
  let (page, next) := e.searchEmptyMapArea c m.pages
  if page < 0 then (page, e)
  else (0, { e.modify b fun m => { m with mappedPage := page } with
    mapped := e.mapped.take next ++ b :: e.mapped.drop next
    order := e.order ++ [b]
    ptb := e.fillPtb c (m.lastPage + 1 - m.firstPage) m.firstPage page.toNat e.ptb })

def unmapMemblk : Int × Emu10k1 :=
  let m := e.blk b
  let startPage : Int := match entryBefore b none e.mapped with
    | some q => (e.blk q).mappedPage + (e.blk q).pages
    | none => 0
  let endPage : Int := match entryBehind b e.mapped with
    | some q => (e.blk q).mappedPage
    | none => c.maxAlignPages
  (endPage - startPage, { e.modify b fun m => { m with mappedPage := -1 } with
    mapped := e.mapped.erase b
    order := e.order.erase b
    ptb := clearPtb c (m.lastPage + 1 - m.firstPage) m.mappedPage.toNat e.ptb })

/-- The loop of `snd_emu10k1_memblk_map` over the rest of the order list, from the oldest block on. -/
def unmapOldest (b : Nat) : List Nat → Int → Emu10k1 → Int × Emu10k1
  | [], err, e => (err, e)
  | deleted :: rest, err, e =>
    if (e.blk deleted).mapLocked ≠ 0 then unmapOldest b rest err e
    else
      let (size, e) := e.unmapMemblk c deleted
      if size ≥ (e.blk b).pages then e.mapMemblk c b else unmapOldest b rest err e

def sndEmu10k1MemblkMap : Int × Emu10k1 :=
  if (e.blk b).mappedPage ≥ 0 then (0, { e with order := e.order.erase b ++ [b] })
  else
    let (err, e) := e.mapMemblk c b
    if err < 0 then unmapOldest c b e.order err e else (err, e)

/-- The search of `search_empty`: the place of the new block and its first page. -/
def searchPages (psize maxCachePages : Nat) : List Nat → (pos page : Nat) → Option (Nat × Nat)
  | [], pos, page => if page + psize > maxCachePages then none else some (pos, page)
  | p :: rest, pos, page =>
    if page + psize ≤ (e.blk p).firstPage then some (pos, page)
    else searchPages psize maxCachePages rest (pos + 1) ((e.blk p).lastPage + 1)

def searchEmpty (size : Nat) (kmalloc : Option Nat) : Option Nat × Emu10k1 :=
  let psize := c.getAlignedPage (size + c.pageSize - 1)
  match e.searchPages psize c.maxCachePages e.block 0 0 with
  | none => (none, e)
  | some (pos, page) =>
    match e.sndUtilMemblkNew (psize * c.pageSize) pos kmalloc with
    | (none, e) => (none, e)
    | (some b, e) =>
      let e := e.modify b fun m => { m with offset := c.alignedPageOffset page, synth := false }
      (some b, e.emu10k1MemblkInit c b)

/-- The address of the page `idx` of a PCM buffer; `sgbuf` is `snd_pcm_sgbuf_get_addr`. -/
def pcmPageAddr (dmaBytes : Nat) (sgbuf : Nat → UInt64) (idx : Nat) : UInt64 :=
  if idx * c.pageSize ≥ dmaBytes then c.silentPage else sgbuf (idx * c.pageSize)

/-- The half of `snd_emu10k1_alloc_pages` that stores the addresses of the new block and maps it. -/
def storePcm (addr : Nat → UInt64) : Option Nat × Emu10k1 :=
  let m := e.blk b
  let (valid, t) := PageTables.fillPages c addr (m.lastPage + 1 - m.firstPage) m.firstPage 0 e.tables
  let e := { e with tables := t }
  if valid then
    let (err, e) := (e.modify b fun m => { m with mapLocked := 1 }).sndEmu10k1MemblkMap c b
    if err < 0 then (none, e.sndUtilMemFree b) else (some b, e)
  else (none, e)

def sndEmu10k1AllocPages (dmaBytes periodSize bufferSize : Nat) (kmalloc : Option Nat) (sgbuf : Nat → UInt64) :
    Option Nat × Emu10k1 :=
  if dmaBytes = 0 ∨ dmaBytes ≥ maxPages * emuPageSize then (none, e)
  else
    let idx := if periodSize ≥ bufferSize then c.delayPcmIrq * 2 else 0
    match e.searchEmpty c (dmaBytes + idx) kmalloc with
    | (none, e) => (none, e)
    | (some b, e) => e.storePcm c b (pcmPageAddr c dmaBytes sgbuf)

def getSinglePageRange : Int × Int :=
  let m := e.blk b
  let first : Int := match entryBefore b none e.block with
    | some q => if (e.blk q).lastPage = m.firstPage then m.firstPage + 1 else m.firstPage
    | none => m.firstPage
  let last : Int := match entryBehind b e.block with
    | some q => if (e.blk q).firstPage = m.lastPage then m.lastPage - 1 else m.lastPage
    | none => m.lastPage
  (first, last)

def synthAllocPages (tries : Nat → Option UInt64 × Option UInt64) : Int × Emu10k1 :=
  let e := e.emu10k1MemblkInit c b
  let (first, last) := e.getSinglePageRange b
  let (err, t) := PageTables.allocPages c tries first (pageRange first last) e.tables
  (err, { e with tables := t })

def synthFreePages : Emu10k1 :=
  let (first, last) := e.getSinglePageRange b
  { e with tables := e.tables.synthFreePages first last }

def sndEmu10k1SynthAlloc (size : UInt32) (kmalloc : Option Nat) (tries : Nat → Option UInt64 × Option UInt64) :
    Option Nat × Emu10k1 :=
  match e.sndUtilMemAlloc c size.toInt32.toInt kmalloc with
  | (none, e) => (none, e)
  | (some b, e) =>
    match (e.modify b fun m => { m with synth := true }).synthAllocPages c b tries with
    | (err, e) =>
      if err ≠ 0 then (none, e.sndUtilMemFree b) else (some b, (e.sndEmu10k1MemblkMap c b).2)

def sndEmu10k1SynthFree : Emu10k1 :=
  let e := if (e.blk b).mappedPage ≥ 0 then (e.unmapMemblk c b).2 else e
  (e.synthFreePages b).sndUtilMemFree b

/-- The memory part of `snd_emu10k1_create`: `blk`, `ptb`, `addr` and `ptr` are what fresh memory holds. The silent
    page goes into the PTB after the reserved page has been mapped. -/
def sndEmu10k1Create (blk : Nat → Memblk) (ptb : Nat → UInt32) (addr : Nat → UInt64) (ptr : Nat → Option UInt64)
    (kmalloc : Option Nat) (tries : Nat → Option UInt64 × Option UInt64) : Emu10k1 :=
  let fresh : Emu10k1 := ⟨blk, [], 0, 0, [], [], ptb, ⟨addr, ptr, fun _ => 0, fun _ => 0⟩, none⟩
  let (reserved, e) := fresh.sndEmu10k1SynthAlloc c 4096 kmalloc tries
  let e := match reserved with
    | some b => e.modify b fun m => { m with mapLocked := 1 }
    | none => e
  { e with
    reserved := reserved
    ptb := fun idx => if idx < maxPages then Emu10k1Card.ptbEntry c.silentPage idx else e.ptb idx }

end Emu10k1

end AlsaDriver.Pci
