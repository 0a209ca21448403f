import Mathlib
import AlsaDriver.Memory.SgTable

namespace AlsaDriver.Memory

def EINVAL : Int := 22

def maxAllocPages : Nat := 32
def sgbufTblAlign : Nat := 32

def getOrder (size : Nat) : Nat := Nat.clog 2 ((size + 4095) / 4096)

/-- `dma_alloc_coherent`, by the request and the number of its attempt: the buffer and its bus address, which is the address
    of a page. An order that has failed for a request fails for it again. -/
structure PageAllocator where
  give : Nat → Nat → Nat → Option (Nat × Nat)
  aligned : ∀ request n order area addr, give request n order = some (area, addr) → addr % 4096 = 0
  again : ∀ request n order, give request n order = none → give request (n + 1) order = none

instance : Inhabited PageAllocator where
  default :=
    { give := fun request _ order => if order ≤ 1 then some (request + 1, 8192 * request) else none
      aligned := by
        intro request n order area addr given
        split at given
        · cases given
          omega
        · cases given
      again := fun _ _ _ refused => refused }

structure Block where
  area : Nat
  addr : Nat
  order : Nat
deriving DecidableEq

inductive Resource where
  | pages (block : Block)
  | sgbuf
  | table
  | pageTable
  | mapping
deriving DecidableEq

inductive MemEvent where
  | got (resource : Resource)
  | gave (resource : Resource)

structure Mem where
  requests : Nat
  log : List MemEvent

structure SndSgBuf where
  size : Nat
  pages : Nat
  tblsize : Nat
  hasTable : Bool
  table : List SndSgPage
  hasPageTable : Bool
  pageTable : List Nat

/-- `mapped` is for an `area`, `sgbuf` is the private data. -/
structure SndDmaBuffer where
  mapped : Bool
  sgbuf : Option SndSgBuf

section order

theorem getOrder_pow (o : Nat) : getOrder (4096 <<< o) = o := by
  have count : (4096 <<< o + 4095) / 4096 = 2 ^ o := by
    rw [Nat.shiftLeft_eq]
    omega
  rw [getOrder, count, Nat.clog_pow 2 o (by decide)]

theorem le_getOrder (size : Nat) : size ≤ 4096 <<< getOrder size := by
  have pages := Nat.le_pow_clog (b := 2) (by decide) ((size + 4095) / 4096)
  rw [Nat.shiftLeft_eq, getOrder]
  omega

theorem getOrder_lt {size o : Nat} (some_ : o < getOrder size) : 4096 <<< o < size := by
  by_contra small
  have fits : (size + 4095) / 4096 ≤ 2 ^ o := by
    rw [Nat.shiftLeft_eq] at small
    omega
  have below := Nat.clog_le_of_le_pow fits
  rw [getOrder] at some_
  omega

theorem shift_pred (o : Nat) : (4096 <<< (o + 1)) >>> 1 = 4096 <<< o := by
  rw [Nat.shiftLeft_eq, Nat.shiftLeft_eq, Nat.shiftRight_eq_div_pow, pow_succ]
  omega

theorem getOrder_half {size : Nat} (large : pageSize < size) (whole : size = pageSize <<< getOrder size) :
    getOrder (size >>> 1) + 1 = getOrder size := by
  obtain ⟨o, order⟩ : ∃ o, getOrder size = o := ⟨_, rfl⟩
  rw [order] at whole
  cases o with
  | zero =>
    simp [whole] at large
  | succ o =>
    have half : size >>> 1 = 4096 <<< o := by
      rw [whole]
      exact shift_pred o
    rw [half, getOrder_pow, order]

end order

namespace PageAllocator

variable (a : PageAllocator) (request : Nat)

/-- `snd_dma_alloc_pages_fallback` for pages of a device: the bytes, the buffer and the bus address. -/
def sndDmaAllocPagesFallback (n size : Nat) : Option (Nat × Nat × Nat) :=
  match a.give request n (getOrder size) with
  | some (area, addr) => some (size, area, addr)
  | none =>
    if large : size ≤ pageSize then none
    else
      if whole : size = pageSize <<< getOrder size then sndDmaAllocPagesFallback (n + 1) (size >>> 1)
      else sndDmaAllocPagesFallback (n + 1) (pageSize <<< getOrder size)
termination_by 2 * getOrder size + if size = pageSize <<< getOrder size then 0 else 1
decreasing_by
  · have half := getOrder_half (Nat.lt_of_not_le large) whole
    rw [if_pos whole]
    split <;> omega
  · have same : getOrder (pageSize <<< getOrder size) = getOrder size := getOrder_pow _
    rw [same, if_neg whole]
    simp

variable {a request}

def Granted (a : PageAllocator) (request most : Nat) (answer : Nat × Nat × Nat) : Prop :=
  0 < answer.1 ∧ answer.1 ≤ most ∧ 4096 ∣ answer.1 ∧ ∃ n, a.give request n (getOrder answer.1) = some answer.2

theorem fallback_whole (o n : Nat) :
    ∀ answer ∈ a.sndDmaAllocPagesFallback request n (4096 <<< o), Granted a request (4096 <<< o) answer := by
  have pages : ∀ o, 0 < 4096 <<< o ∧ 4096 ∣ 4096 <<< o := by
    intro o
    rw [Nat.shiftLeft_eq]
    exact ⟨Nat.mul_pos (by decide) (Nat.two_pow_pos o), Nat.dvd_mul_right _ _⟩
  induction o generalizing n with
  | zero =>
    rw [sndDmaAllocPagesFallback]
    cases given : a.give request n (getOrder (4096 <<< 0)) with
    | some block =>
      intro answer same
      cases same
      exact ⟨(pages 0).1, Nat.le_refl _, (pages 0).2, n, given⟩
    | none => simp [pageSize]
  | succ o ih =>
    rw [sndDmaAllocPagesFallback]
    cases given : a.give request n (getOrder (4096 <<< (o + 1))) with
    | some block =>
      intro answer same
      cases same
      exact ⟨(pages _).1, Nat.le_refl _, (pages _).2, n, given⟩
    | none =>
      have large : ¬ 4096 <<< (o + 1) ≤ pageSize := by
        have half := (pages o).1
        rw [Nat.shiftLeft_eq] at half ⊢
        rw [pageSize, pow_succ]
        omega
      have whole : 4096 <<< (o + 1) = pageSize <<< getOrder (4096 <<< (o + 1)) := by
        rw [getOrder_pow]
        rfl
      simp only [dif_neg large, dif_pos whole]
      rw [shift_pred]
      intro answer same
      obtain ⟨pos, le, rest⟩ := ih (n + 1) answer same
      refine ⟨pos, le.trans ?_, rest⟩
      rw [Nat.shiftLeft_eq, Nat.shiftLeft_eq, pow_succ]
      omega

theorem fallback_granted (a : PageAllocator) (request : Nat) {size : Nat} (some_ : 0 < size) (pages : 4096 ∣ size) (n : Nat) :
    ∀ answer ∈ a.sndDmaAllocPagesFallback request n size, Granted a request size answer := by
  by_cases whole : size = pageSize <<< getOrder size
  · rw [whole]
    exact fallback_whole _ n
  · rw [sndDmaAllocPagesFallback]
    cases given : a.give request n (getOrder size) with
    | some block =>
      intro answer same
      cases same
      exact ⟨some_, Nat.le_refl _, pages, n, given⟩
    | none =>
      have order := getOrder_pow (getOrder size)
      have refused := a.again request n _ given
      by_cases large : size ≤ pageSize
      · simp [large]
      · simp only [dif_neg large, dif_neg whole]
        rw [sndDmaAllocPagesFallback]
        have above := le_getOrder size
        have large' : ¬ pageSize <<< getOrder size ≤ pageSize := by
          have above' : size ≤ pageSize <<< getOrder size := above
          omega
        have whole' : pageSize <<< getOrder size = pageSize <<< getOrder (pageSize <<< getOrder size) := by
          rw [show getOrder (pageSize <<< getOrder size) = getOrder size from order]
        have refused' : a.give request (n + 1) (getOrder (pageSize <<< getOrder size)) = none := by
          rw [show getOrder (pageSize <<< getOrder size) = getOrder size from order]
          exact refused
        rw [refused']
        simp only [dif_neg large', dif_pos whole']
        obtain ⟨o, at_o⟩ : ∃ o, getOrder size = o := ⟨_, rfl⟩
        rw [at_o] at large' ⊢
        cases o with
        | zero => exact absurd (Nat.le_refl _) large'
        | succ o =>
          have half : (pageSize <<< (o + 1)) >>> 1 = 4096 <<< o := shift_pred o
          rw [half]
          intro answer same
          obtain ⟨pos, le, rest⟩ := fallback_whole o (n + 1 + 1) answer same
          have below : 4096 <<< o < size := getOrder_lt (by omega)
          exact ⟨pos, le.trans below.le, rest⟩

end PageAllocator

/-- The entries of the table for a piece of `chunk` pages, with the mark at its head. -/
def newPages (area addr chunk : Nat) : List SndSgPage :=
  (List.range chunk).map fun i => ⟨area + i * pageSize, if i = 0 then addr ||| chunk else addr + i * pageSize⟩

inductive Outcome where
  | whole
  | short
  | failed
deriving DecidableEq

def allocLoop (a : PageAllocator) (resSize : Bool) : Nat → Nat → Nat → SndSgBuf → Mem → Option (Outcome × SndSgBuf × Mem)
  | 0, pages, _, sg, mem => if pages = 0 then some (.whole, sg, mem) else none
  | fuel + 1, pages, maxpages, sg, mem =>
    if pages = 0 then some (.whole, sg, mem)
    else
      let chunk := if maxpages < pages then maxpages else pages
      match a.sndDmaAllocPagesFallback mem.requests 0 (chunk <<< pageShift) with
      | none =>
        let mem := { mem with requests := mem.requests + 1 }
        if sg.pages = 0 then some (.failed, sg, mem)
        else if resSize then some (.short, sg, mem)
        else some (.failed, sg, mem)
      | some (bytes, area, addr) =>
        let chunk := bytes >>> pageShift
        allocLoop a resSize fuel ((pages + 2 ^ 32 - chunk) % 2 ^ 32) (if chunk < maxpages then chunk else maxpages)
          { sg with
            table := sg.table ++ newPages area addr chunk
            pageTable := sg.pageTable ++ (newPages area addr chunk).map SndSgPage.buf
            pages := sg.pages + chunk }
          ⟨mem.requests + 1, mem.log ++ [.got (.pages ⟨area, addr, getOrder bytes⟩)]⟩

/-- The blocks that the loop of `snd_free_sgbuf_pages` frees. -/
def heads (table : List SndSgPage) : List Block :=
  table.filterMap fun page =>
    if page.addr % 4096 = 0 then none
    else some ⟨page.buf, pageMask page.addr, getOrder ((page.addr % 4096) <<< pageShift)⟩

def sndFreeSgbufPages (dmab : SndDmaBuffer) (mem : Mem) : Int × SndDmaBuffer × Mem :=
  match dmab.sgbuf with
  | none => (-EINVAL, dmab, mem)
  | some sg =>
    let unmapped := if dmab.mapped then [Resource.mapping] else []
    let table := if sg.hasTable then [Resource.table] else []
    let pageTable := if sg.hasPageTable then [Resource.pageTable] else []
    let freed := unmapped ++ (heads (sg.table.take sg.pages)).map Resource.pages ++ table ++ pageTable ++ [.sgbuf]
    (0, ⟨false, none⟩, { mem with log := mem.log ++ freed.map .gave })

structure SgRequest where
  size : Nat
  resSize : Bool
  sgbufOk : Bool
  tableOk : Bool
  pageTableOk : Bool
  mapOk : Bool
  fits : size < 2 ^ 31

def sndSgbufAlignedPages (size : Nat) : Nat := (size + pageSize - 1) >>> pageShift

def Mem.take (mem : Mem) (resource : Resource) : Mem := { mem with log := mem.log ++ [.got resource] }

/-- The way out of `snd_malloc_sgbuf_pages` with `_failed`. -/
def sgbufFailed (sg : SndSgBuf) (mem : Mem) : SndDmaBuffer × Mem := (sndFreeSgbufPages ⟨false, some sg⟩ mem).2

/-- `none` is a loop that has not ended after as many turns as there are pages. -/
def sndMallocSgbufPages (a : PageAllocator) (r : SgRequest) (mem : Mem) : Option (SndDmaBuffer × Mem) :=
  if r.sgbufOk = false then some (⟨false, none⟩, mem)
  else
    let mem := mem.take .sgbuf
    let pages := sndSgbufAlignedPages r.size
    let tblsize := (pages + (sgbufTblAlign - 1)) / sgbufTblAlign * sgbufTblAlign
    let sg : SndSgBuf := ⟨0, 0, tblsize, false, [], false, []⟩
    if r.tableOk = false then some (sgbufFailed sg mem)
    else
      let mem := mem.take .table
      let sg := { sg with hasTable := true }
      if r.pageTableOk = false then some (sgbufFailed sg mem)
      else
        let mem := mem.take .pageTable
        let sg := { sg with hasPageTable := true }
        (allocLoop a r.resSize pages pages maxAllocPages sg mem).map fun (outcome, sg, mem) =>
          if outcome = .failed then sgbufFailed sg mem
          else
            let sg := { sg with size := if outcome = .short then sg.pages * pageSize else r.size }
            if r.mapOk = false then sgbufFailed sg mem else (⟨true, some sg⟩, mem.take .mapping)

abbrev Grants := List (Block × Nat)

def Grants.table (grants : Grants) : List SndSgPage := grants.flatMap fun grant => newPages grant.1.area grant.1.addr grant.2

def Grants.addresses (grants : Grants) : List Nat :=
  grants.flatMap fun grant => (List.range grant.2).map fun i => grant.1.addr + i * pageSize

def Grants.Sound (grants : Grants) : Prop :=
  ∀ grant ∈ grants, 0 < grant.2 ∧ grant.2 ≤ maxAllocPages ∧ grant.1.addr % 4096 = 0 ∧
    grant.1.order = getOrder (grant.2 <<< pageShift)

section tables

theorem pageMask_eq (addr : Nat) : pageMask addr = addr / 4096 * 4096 := by
  simp [pageMask, pageShift, Nat.shiftLeft_eq, Nat.shiftRight_eq_div_pow]

theorem mark_eq {addr chunk : Nat} (aligned : addr % 4096 = 0) (small : chunk < 4096) : addr ||| chunk = addr + chunk := by
  have whole : 2 ^ 12 * (addr / 4096) = addr := by omega
  have add := Nat.two_pow_add_eq_or_of_lt (i := 12) small (addr / 4096)
  rw [whole] at add
  exact add.symm

theorem length_newPages (area addr chunk : Nat) : (newPages area addr chunk).length = chunk := by simp [newPages]

theorem newPages_heads (area : Nat) {addr chunk : Nat} (aligned : addr % 4096 = 0) (pos : 0 < chunk) (small : chunk < 4096) :
    heads (newPages area addr chunk) = [⟨area, addr, getOrder (chunk <<< pageShift)⟩] := by
  obtain ⟨rest, rfl⟩ := Nat.exists_eq_add_of_le' pos
  have mark := mark_eq aligned small
  have first : (addr + (rest + 1)) % 4096 = rest + 1 := by omega
  have none_ : ∀ i, (addr + (i + 1) * pageSize) % 4096 = 0 := by
    intro i
    rw [pageSize]
    omega
  rw [newPages, List.range_succ_eq_map, List.map_cons, List.map_map, heads, List.filterMap_cons]
  simp only [if_true, mark, first, Nat.succ_ne_zero, if_false]
  have later : List.filterMap (fun page : SndSgPage => if page.addr % 4096 = 0 then none
      else some (⟨page.buf, pageMask page.addr, getOrder ((page.addr % 4096) <<< pageShift)⟩ : Block))
      ((List.range rest).map ((fun i => (⟨area + i * pageSize,
        if i = 0 then addr + (rest + 1) else addr + i * pageSize⟩ : SndSgPage)) ∘ Nat.succ)) = [] := by
    simp [none_]
  rw [later, pageMask_eq]
  congr 2
  omega

theorem newPages_addresses {area addr chunk : Nat} (aligned : addr % 4096 = 0) (small : chunk < 4096) :
    (newPages area addr chunk).map (fun page => pageMask page.addr) = (List.range chunk).map fun i => addr + i * pageSize := by
  rw [newPages, List.map_map]
  apply List.map_congr_left
  intro i inside
  simp only [Function.comp, pageMask_eq, pageSize]
  split
  · rename_i first
    rw [mark_eq aligned small, first]
    omega
  · omega

theorem Grants.Sound.small {grants : Grants} (sound : grants.Sound) {grant : Block × Nat} (inside : grant ∈ grants) : grant.2 < 4096 := by
  have most := (sound grant inside).2.1
  rw [maxAllocPages] at most
  omega

theorem Grants.Sound.heads {grants : Grants} (sound : grants.Sound) : heads grants.table = grants.map Prod.fst := by
  induction grants with
  | nil => rfl
  | cons grant rest ih =>
    have small := sound.small (List.mem_cons_self ..)
    obtain ⟨⟨pos, most, aligned, order⟩, others⟩ := List.forall_mem_cons.mp sound
    rw [Grants.table, List.flatMap_cons, Memory.heads, List.filterMap_append]
    have first := newPages_heads grant.1.area aligned pos small
    rw [Memory.heads] at first
    rw [first, ← order]
    exact congrArg (grant.1 :: ·) (ih others)

theorem Grants.Sound.addresses {grants : Grants} (sound : grants.Sound) :
    grants.table.map (fun page => pageMask page.addr) = grants.addresses := by
  rw [Grants.table, List.map_flatMap]
  unfold Grants.addresses
  induction grants with
  | nil => rfl
  | cons grant rest ih =>
    have small := sound.small (List.mem_cons_self ..)
    obtain ⟨⟨pos, most, aligned, order⟩, others⟩ := List.forall_mem_cons.mp sound
    rw [List.flatMap_cons, List.flatMap_cons, newPages_addresses aligned small, ih others]

end tables

structure Filled (pages : Nat) (sg : SndSgBuf) (mem : Mem) (grants : Grants) (sg' : SndSgBuf) (mem' : Mem) : Prop where
  sound : grants.Sound
  le : grants.table.length ≤ pages
  log : mem'.log = mem.log ++ grants.map fun grant => .got (.pages grant.1)
  sgbuf : sg' = { sg with
    table := sg.table ++ grants.table
    pageTable := sg.pageTable ++ grants.table.map SndSgPage.buf
    pages := sg.pages + grants.table.length }

theorem Filled.none_ {pages : Nat} {sg : SndSgBuf} {mem mem' : Mem} (same : mem'.log = mem.log) :
    Filled pages sg mem [] sg mem' where
  sound := by
    intro grant inside
    cases inside
  le := Nat.zero_le _
  log := by simp [same]
  sgbuf := by simp [Grants.table]

theorem allocLoop_spec (a : PageAllocator) (resSize : Bool) (fuel pages maxpages : Nat) (sg : SndSgBuf) (mem : Mem)
    (enough : pages ≤ fuel) (narrow : pages < 2 ^ 32) (some_ : 0 < maxpages) (most : maxpages ≤ maxAllocPages) :
    ∃ outcome grants sg' mem', allocLoop a resSize fuel pages maxpages sg mem = some (outcome, sg', mem') ∧
      Filled pages sg mem grants sg' mem' ∧ (outcome = .whole → grants.table.length = pages) ∧
      (outcome = .short → resSize = true ∧ 0 < sg'.pages ∧ grants.table.length < pages) := by
  induction fuel generalizing pages maxpages sg mem with
  | zero =>
    have done : pages = 0 := Nat.le_zero.mp enough
    refine ⟨.whole, [], sg, mem, ?_, .none_ rfl, fun _ => done.symm, fun other => ?_⟩
    · simp [allocLoop, done]
    · cases other
  | succ fuel ih =>
    by_cases done : pages = 0
    · refine ⟨.whole, [], sg, mem, ?_, .none_ rfl, fun _ => done.symm, fun other => ?_⟩
      · simp [allocLoop, done]
      · cases other
    · have chunk : (if maxpages < pages then maxpages else pages) ≤ pages ∧
          0 < (if maxpages < pages then maxpages else pages) ∧
          (if maxpages < pages then maxpages else pages) ≤ maxAllocPages := by
        split <;> omega
      rw [allocLoop, if_neg done]
      dsimp only
      generalize (if maxpages < pages then maxpages else pages) = asked at chunk
      have bytes : asked <<< pageShift = asked * 4096 := by simp [pageShift, Nat.shiftLeft_eq]
      have granted := PageAllocator.fallback_granted a mem.requests (show 0 < asked <<< pageShift by omega) (by rw [bytes]; exact Nat.dvd_mul_left _ _) 0
      cases answer : a.sndDmaAllocPagesFallback mem.requests 0 (asked <<< pageShift) with
      | none =>
        dsimp only
        by_cases first : sg.pages = 0
        · refine ⟨.failed, [], sg, _, if_pos first, .none_ rfl, fun other => ?_, fun other => ?_⟩ <;> cases other
        · cases resSize with
          | false =>
            refine ⟨.failed, [], sg, _, if_neg first, .none_ rfl, fun other => ?_, fun other => ?_⟩ <;> cases other
          | true =>
            refine ⟨.short, [], sg, _, if_neg first, .none_ rfl, fun other => ?_, fun _ => ⟨rfl, ?_, ?_⟩⟩
            · cases other
            · exact Nat.pos_of_ne_zero first
            · exact Nat.pos_of_ne_zero done
      | some got =>
        obtain ⟨n, area, addr⟩ := got
        obtain ⟨pos, le, ⟨k, rfl⟩, attempt, given⟩ := granted _ answer
        dsimp only at pos le given ⊢
        have count : (4096 * k) >>> pageShift = k := by
          simp [pageShift, Nat.shiftRight_eq_div_pow]
        have order : k <<< pageShift = 4096 * k := by
          rw [pageShift, Nat.shiftLeft_eq]
          omega
        have left : (pages + 2 ^ 32 - k) % 2 ^ 32 = pages - k := by
          have apart : pages + 2 ^ 32 - k = pages - k + 2 ^ 32 := by omega
          rw [apart, Nat.add_mod_right, Nat.mod_eq_of_lt (by omega)]
        have sound : Grants.Sound [(⟨area, addr, getOrder (4096 * k)⟩, k)] := by
          intro grant inside
          rw [List.mem_singleton.mp inside]
          refine ⟨by omega, by omega, a.aligned _ _ _ _ _ given, ?_⟩
          rw [order]
        rw [count, left]
        obtain ⟨outcome, grants, sg', mem', runs, filled, whole, short⟩ := ih
          (pages - k) (if k < maxpages then k else maxpages)
          { sg with
            table := sg.table ++ newPages area addr k
            pageTable := sg.pageTable ++ (newPages area addr k).map SndSgPage.buf
            pages := sg.pages + k }
          ⟨mem.requests + 1, mem.log ++ [.got (.pages ⟨area, addr, getOrder (4096 * k)⟩)]⟩
          (by omega) (by omega) (by split <;> omega) (by split <;> omega)
        have length : Grants.table ((⟨area, addr, getOrder (4096 * k)⟩, k) :: grants) = newPages area addr k ++ grants.table := by
          simp [Grants.table]
        have le' := filled.le
        refine ⟨outcome, (⟨area, addr, getOrder (4096 * k)⟩, k) :: grants, sg', mem', runs, ?_, fun all => ?_, fun cut => ?_⟩
        · constructor
          · exact List.forall_mem_cons.mpr ⟨sound _ (List.mem_singleton_self _), filled.sound⟩
          · rw [length, List.length_append, length_newPages]
            omega
          · rw [filled.log, List.append_assoc]
            rfl
          · rw [filled.sgbuf, length]
            simp [length_newPages, Nat.add_assoc]
        · have rest := whole all
          rw [length, List.length_append, length_newPages]
          omega
        · obtain ⟨res, some', less⟩ := short cut
          rw [length, List.length_append, length_newPages]
          exact ⟨res, some', by omega⟩

def Returned (before after : Mem) : Prop :=
  ∃ got gave : List Resource, after.log = before.log ++ got.map .got ++ gave.map .gave ∧ gave.Perm got

structure Laid (sg : SndSgBuf) (grants : Grants) : Prop where
  pages : sg.pages = sg.table.length
  room : sg.pages ≤ sg.tblsize
  pageTable : sg.pageTable = sg.table.map SndSgPage.buf
  blocks : heads sg.table = grants.map Prod.fst
  addresses : sg.table.map (fun page => pageMask page.addr) = grants.addresses
  inside : ∀ grant ∈ grants, 0 < grant.2 ∧ grant.2 ≤ 2 ^ grant.1.order

theorem Grants.Sound.inside {grants : Grants} (sound : grants.Sound) :
    ∀ grant ∈ grants, 0 < grant.2 ∧ grant.2 ≤ 2 ^ grant.1.order := by
  intro grant inside
  obtain ⟨pos, -, -, order⟩ := sound grant inside
  have above := le_getOrder (grant.2 <<< pageShift)
  rw [← order, Nat.shiftLeft_eq, Nat.shiftLeft_eq, pageShift] at above
  exact ⟨pos, by omega⟩

def SndSgBuf.resources (sg : SndSgBuf) (grants : Grants) : List Resource :=
  [Resource.sgbuf] ++ (if sg.hasTable then [Resource.table] else []) ++
    (if sg.hasPageTable then [Resource.pageTable] else []) ++ (grants.map Prod.fst).map Resource.pages

structure Held (mem : Mem) (sg : SndSgBuf) (grants : Grants) (mem' : Mem) : Prop where
  sound : grants.Sound
  table : sg.table = grants.table
  pages : sg.pages = sg.table.length
  log : mem'.log = mem.log ++ (sg.resources grants).map .got

section free

variable {mem mem' : Mem} {sg : SndSgBuf} {grants : Grants} {pages tblsize : Nat}

theorem Held.none_ (empty : sg.table = []) (pages : sg.pages = 0) (log : mem'.log = mem.log ++ (sg.resources []).map .got) :
    Held mem sg [] mem' where
  sound := by
    intro grant inside
    cases inside
  table := empty
  pages := by rw [pages, empty, List.length_nil]
  log := log

theorem Filled.held (filled : Filled pages ⟨0, 0, tblsize, true, [], true, []⟩
    (((mem.take .sgbuf).take .table).take .pageTable) grants sg mem') (size : Nat) :
    Held mem { sg with size := size } grants mem' := by
  refine ⟨filled.sound, ?_, ?_, ?_⟩
  · rw [filled.sgbuf]
    rfl
  · rw [filled.sgbuf]
    simp
  · rw [filled.sgbuf, filled.log]
    simp [Mem.take, SndSgBuf.resources]

theorem Held.laid (held : Held mem sg grants mem') (room : sg.pages ≤ sg.tblsize)
    (pageTable : sg.pageTable = sg.table.map SndSgPage.buf) : Laid sg grants := by
  constructor
  · exact held.pages
  · exact room
  · exact pageTable
  · rw [held.table]
    exact held.sound.heads
  · rw [held.table]
    exact held.sound.addresses
  · exact held.sound.inside

theorem Held.free (held : Held mem sg grants mem') (mapped : Bool) :
    Returned mem (sndFreeSgbufPages ⟨mapped, some sg⟩
      { mem' with log := mem'.log ++ (if mapped then [Resource.mapping] else []).map .got }).2.2 := by
  have blocks : heads (sg.table.take sg.pages) = grants.map Prod.fst := by
    rw [held.pages, List.take_length, held.table]
    exact held.sound.heads
  have log : (sndFreeSgbufPages ⟨mapped, some sg⟩
      { mem' with log := mem'.log ++ (if mapped then [Resource.mapping] else []).map .got }).2.2.log =
      mem.log ++ (sg.resources grants ++ if mapped then [Resource.mapping] else []).map .got ++
        ((if mapped then [Resource.mapping] else []) ++ (grants.map Prod.fst).map Resource.pages ++
          (if sg.hasTable then [Resource.table] else []) ++ (if sg.hasPageTable then [Resource.pageTable] else []) ++
          [Resource.sgbuf]).map .gave := by
    simp only [sndFreeSgbufPages, blocks, held.log, List.map_append, List.append_assoc]
  refine ⟨_, _, log, ?_⟩
  rw [List.perm_iff_count]
  intro resource
  simp only [SndSgBuf.resources, List.count_append]
  omega

theorem Held.failed (held : Held mem sg grants mem') : Returned mem (sgbufFailed sg mem').2 := by
  have freed := held.free false
  have same : ({ mem' with log := mem'.log ++ (if false = true then [Resource.mapping] else []).map .got } : Mem) = mem' := by
    simp
  rw [same] at freed
  exact freed

end free

/-- What `snd_malloc_sgbuf_pages` leaves: a buffer that is laid out and that `snd_free_sgbuf_pages` gives back, or nothing. -/
structure Settles (r : SgRequest) (mem : Mem) (dmab : SndDmaBuffer) (mem' : Mem) : Prop where
  nothing : dmab.sgbuf = none → dmab.mapped = false ∧ Returned mem mem'
  buffer : ∀ sg, dmab.sgbuf = some sg → dmab.mapped = true ∧ (∃ grants, Laid sg grants) ∧
    (sg.pages = sndSgbufAlignedPages r.size ∧ sg.size = r.size ∨
      r.resSize = true ∧ 0 < sg.pages ∧ sg.pages < sndSgbufAlignedPages r.size ∧ sg.size = sg.pages * pageSize) ∧
    Returned mem (sndFreeSgbufPages dmab mem').2.2

theorem Settles.failed {r : SgRequest} {mem mem' : Mem} {sg : SndSgBuf} (grants : Grants) (held : Held mem sg grants mem') :
    Settles r mem (sgbufFailed sg mem').1 (sgbufFailed sg mem').2 where
  nothing := fun _ => ⟨rfl, held.failed⟩
  buffer := by
    intro sg' some_
    cases some_

/-- Neither a failure nor a buffer that is freed loses memory, however the allocations of the kernel answer. -/
theorem sndMallocSgbufPages_settles (a : PageAllocator) (r : SgRequest) (mem : Mem) :
    ∃ dmab mem', sndMallocSgbufPages a r mem = some (dmab, mem') ∧ Settles r mem dmab mem' := by
  have fits := r.fits
  have pages_eq : sndSgbufAlignedPages r.size = (r.size + 4095) / 4096 := by
    simp [sndSgbufAlignedPages, pageSize, pageShift, Nat.shiftRight_eq_div_pow]
  unfold sndMallocSgbufPages
  by_cases noSgbuf : r.sgbufOk = false
  · rw [if_pos noSgbuf]
    refine ⟨_, _, rfl, fun _ => ⟨rfl, [], [], by simp, .nil⟩, fun sg some_ => ?_⟩
    cases some_
  rw [if_neg noSgbuf]
  dsimp only
  by_cases noTable : r.tableOk = false
  · rw [if_pos noTable]
    refine ⟨_, _, rfl, Settles.failed [] (.none_ rfl rfl ?_)⟩
    simp [Mem.take, SndSgBuf.resources]
  rw [if_neg noTable]
  by_cases noPageTable : r.pageTableOk = false
  · rw [if_pos noPageTable]
    refine ⟨_, _, rfl, Settles.failed [] (.none_ rfl rfl ?_)⟩
    simp [Mem.take, SndSgBuf.resources]
  rw [if_neg noPageTable]
  obtain ⟨outcome, grants, sg, mem', runs, filled, whole, short⟩ := allocLoop_spec a r.resSize
    (sndSgbufAlignedPages r.size) (sndSgbufAlignedPages r.size) maxAllocPages
    ⟨0, 0, (sndSgbufAlignedPages r.size + (sgbufTblAlign - 1)) / sgbufTblAlign * sgbufTblAlign, true, [], true, []⟩
    (((mem.take .sgbuf).take .table).take .pageTable) (Nat.le_refl _) (by omega) (by decide) (Nat.le_refl _)
  have le := filled.le
  have sgbuf := filled.sgbuf
  rw [runs, Option.map_some]
  dsimp only
  by_cases failed : outcome = .failed
  · rw [if_pos failed]
    exact ⟨_, _, rfl, Settles.failed grants (filled.held sg.size)⟩
  rw [if_neg failed]
  by_cases noMap : r.mapOk = false
  · rw [if_pos noMap]
    exact ⟨_, _, rfl, Settles.failed grants (filled.held _)⟩
  rw [if_neg noMap]
  refine ⟨_, _, rfl, ?_⟩
  constructor
  · intro none_
    cases none_
  · intro sg' same
    cases same
    have held := filled.held (if outcome = .short then sg.pages * pageSize else r.size)
    refine ⟨rfl, ⟨grants, held.laid ?_ ?_⟩, ?_, held.free true⟩
    · rw [sgbuf]
      simp only [Nat.zero_add, sgbufTblAlign]
      omega
    · rw [sgbuf]
      simp
    · cases outcome with
      | failed => exact absurd rfl failed
      | whole =>
        left
        constructor
        · rw [sgbuf]
          simpa using whole rfl
        · simp
      | short =>
        right
        obtain ⟨res, some_, less⟩ := short rfl
        refine ⟨res, some_, ?_, by simp⟩
        rw [sgbuf]
        simpa using less

end AlsaDriver.Memory
