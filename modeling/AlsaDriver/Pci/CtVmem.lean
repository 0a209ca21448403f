import Mathlib.Algebra.GroupWithZero.Nat
import Mathlib.Logic.Function.Basic
import Mathlib.Data.List.TakeWhile
import AlsaDriver.Lib.Holders
import AlsaDriver.Lib.Extents
import AlsaDriver.Lib.Runs

namespace AlsaDriver.Pci

open Function

def CT_PAGE_SIZE : Nat := 4096

def CT_PAGE_SHIFT : Nat := 12

def CT_PTP_NUM : Nat := 4

/-- `CT_ADDRS_PER_PAGE`, where a pointer takes `pointer` bytes. -/
def ctAddrsPerPage (pointer : Nat) : Nat := CT_PAGE_SIZE / pointer * CT_PAGE_SIZE

/-- `CT_PAGE_ALIGN` of an unsigned int -/
def ctPageAlign (addr : Nat) : Nat := (addr + (CT_PAGE_SIZE - 1)) % 2 ^ 32 / CT_PAGE_SIZE * CT_PAGE_SIZE

structure CtVmBlock where
  addr : Nat
  size : Nat
deriving DecidableEq

/-- `struct ct_vm`. `ptp` are the entries of its page table pages, which lie behind each other. -/
structure CtVm where
  ptp : Nat → UInt64
  size : Nat
  unused : List CtVmBlock
  used : List CtVmBlock

namespace CtVm

variable (vm : CtVm)

/-- `kzalloc` tells whether memory for a new block was found. The block that is returned is the first one of `used`. -/
def getVmBlock (size : Nat) (kzalloc : Bool) : Option CtVmBlock × CtVm :=
  let size := ctPageAlign size
  if size > vm.size then (none, vm)
  else
    let before := vm.unused.takeWhile fun entry => entry.size < size
    match vm.unused.dropWhile fun entry => entry.size < size with
    | [] => (none, vm)
    | entry :: behind =>
      if entry.size = size then
        (some entry, { vm with unused := before ++ behind, used := entry :: vm.used, size := vm.size - size })
      else if kzalloc then
        (some ⟨entry.addr, size⟩, { vm with
          unused := before ++ ⟨entry.addr + size, entry.size - size⟩ :: behind
          used := ⟨entry.addr, size⟩ :: vm.used
          size := vm.size - size })
      else (none, vm)

/-- The loop of `put_vm_block` that merges `entry` into the blocks in front of it, the nearest one first. -/
def mergeBack : List CtVmBlock → CtVmBlock → List CtVmBlock → List CtVmBlock
  | [], entry, behind => entry :: behind
  | preEnt :: pre, entry, behind =>
    if preEnt.addr + preEnt.size > entry.addr then pre.reverse ++ preEnt :: entry :: behind
    else mergeBack pre ⟨preEnt.addr, preEnt.size + entry.size⟩ behind

/-- The list `unused` after `put_vm_block` of a block with its size aligned. -/
def putUnused (block : CtVmBlock) : List CtVmBlock :=
  let before := vm.unused.takeWhile fun entry => entry.addr < block.addr + block.size
  match vm.unused.dropWhile fun entry => entry.addr < block.addr + block.size with
  | [] => mergeBack before.reverse block []
  | entry :: behind =>
    if block.addr + block.size = entry.addr then mergeBack before.reverse ⟨block.addr, entry.size + block.size⟩ behind
    else mergeBack before.reverse block (entry :: behind)

def putVmBlock (block : CtVmBlock) : CtVm :=
  let aligned : CtVmBlock := ⟨block.addr, ctPageAlign block.size⟩
  { vm with unused := vm.putUnused aligned, used := vm.used.erase block, size := vm.size + aligned.size }

/-- The entries of `pages` pages from `start` on; `sgbuf` is `snd_pcm_sgbuf_get_addr`. -/
def fillPtp (start pages : Nat) (sgbuf : Nat → UInt64) : Nat → UInt64 :=
  (List.range pages).foldl (fun ptp i => update ptp (start + i) (sgbuf (i <<< CT_PAGE_SHIFT))) vm.ptp

def ctVmMap (size : Nat) (kzalloc : Bool) (sgbuf : Nat → UInt64) : Option CtVmBlock × CtVm :=
  match vm.getVmBlock size kzalloc with
  | (none, vm) => (none, vm)
  | (some block, vm) =>
    (some ⟨block.addr, size⟩, { vm with
      ptp := vm.fillPtp (block.addr >>> CT_PAGE_SHIFT) (block.size >>> CT_PAGE_SHIFT) sgbuf
      used := ⟨block.addr, size⟩ :: vm.used.tail })

def ctVmUnmap (block : CtVmBlock) : CtVm := vm.putVmBlock block

/-- `ct_vm_create`, when all page table pages could be allocated. -/
def ctVmCreate (pointer : Nat) (ptp : Nat → UInt64) (kzalloc : Bool) : CtVm where
  ptp := ptp
  size := ctAddrsPerPage pointer * CT_PTP_NUM
  unused := if kzalloc then [⟨0, ctAddrsPerPage pointer * CT_PTP_NUM⟩] else []
  used := []

end CtVm

end AlsaDriver.Pci

namespace AlsaDriver.Pci

open Function Holders Runs Extents

/-- The block has a part of the device page `p`. -/
def CtVmBlock.Covers (b : CtVmBlock) (p : Nat) : Prop := b.addr ≤ p * CT_PAGE_SIZE ∧ p * CT_PAGE_SIZE < b.addr + b.size

instance (b : CtVmBlock) (p : Nat) : Decidable (b.Covers p) := inferInstanceAs (Decidable (_ ∧ _))

/-- The blocks that have a part of the page `p`. -/
def sharers (l : List CtVmBlock) (p : Nat) : Nat := holders CtVmBlock.Covers l p

namespace CtVm

variable {total size : Nat} {vm : CtVm} {b entry : CtVmBlock} {before behind after : List CtVmBlock}

/-- The device pages below `total` are in one block each. -/
structure Space (total : Nat) (vm : CtVm) : Prop where
  once : ∀ p, sharers (vm.unused ++ vm.used) p = if p * CT_PAGE_SIZE < total then 1 else 0
  sorted : vm.unused.Pairwise fun a b => a.addr + a.size < b.addr
  size : vm.size = (vm.unused.map CtVmBlock.size).sum

structure Inv (total : Nat) (vm : CtVm) : Prop where
  space : Space total vm
  free : ∀ b ∈ vm.unused, CT_PAGE_SIZE ∣ b.addr ∧ CT_PAGE_SIZE ∣ b.size ∧ 0 < b.size
  live : ∀ b ∈ vm.used, CT_PAGE_SIZE ∣ b.addr ∧ 0 < b.size
  sum : vm.size + (vm.used.map fun b => ctPageAlign b.size).sum = total

theorem ctPageAlign_eq (small : size + CT_PAGE_SIZE ≤ 2 ^ 32) :
    ctPageAlign size = (size + (CT_PAGE_SIZE - 1)) / CT_PAGE_SIZE * CT_PAGE_SIZE := by
  unfold ctPageAlign CT_PAGE_SIZE at *
  rw [Nat.mod_eq_of_lt (by omega)]

theorem ctPageAlign_dvd (size : Nat) : CT_PAGE_SIZE ∣ ctPageAlign size := Nat.dvd_mul_left ..

theorem ctPageAlign_pos (small : size + CT_PAGE_SIZE ≤ 2 ^ 32) (some_ : 0 < size) : 0 < ctPageAlign size := by
  rw [ctPageAlign_eq small]
  unfold CT_PAGE_SIZE at *
  omega

theorem covers_aligned {addr p : Nat} (small : size + CT_PAGE_SIZE ≤ 2 ^ 32) (page : CT_PAGE_SIZE ∣ addr) :
    CtVmBlock.Covers ⟨addr, ctPageAlign size⟩ p ↔ CtVmBlock.Covers ⟨addr, size⟩ p := by
  obtain ⟨start, rfl⟩ := page
  unfold CtVmBlock.Covers
  dsimp only
  rw [ctPageAlign_eq small]
  unfold CT_PAGE_SIZE
  omega

theorem sharers_cons {l : List CtVmBlock} {p : Nat} : sharers (b :: l) p = sharers l p + if b.Covers p then 1 else 0 := holders_cons

theorem sharers_append {l l' : List CtVmBlock} {p : Nat} : sharers (l ++ l') p = sharers l p + sharers l' p := holders_append

theorem covers_split {addr first second p : Nat} :
    (if CtVmBlock.Covers ⟨addr, first + second⟩ p then 1 else 0) =
      (if CtVmBlock.Covers ⟨addr, first⟩ p then 1 else 0) + if CtVmBlock.Covers ⟨addr + first, second⟩ p then 1 else 0 := by
  have whole : CtVmBlock.Covers ⟨addr, first + second⟩ p ↔
      CtVmBlock.Covers ⟨addr, first⟩ p ∨ CtVmBlock.Covers ⟨addr + first, second⟩ p := by
    unfold CtVmBlock.Covers
    dsimp only
    omega
  have apart : ¬ (CtVmBlock.Covers ⟨addr, first⟩ p ∧ CtVmBlock.Covers ⟨addr + first, second⟩ p) := by
    unfold CtVmBlock.Covers
    dsimp only
    omega
  by_cases left : CtVmBlock.Covers ⟨addr, first⟩ p
  · have right : ¬ CtVmBlock.Covers ⟨addr + first, second⟩ p := fun both => apart ⟨left, both⟩
    simp [whole, left, right]
  · simp [whole, left]

theorem covers_join {p : Nat} (adjacent : b.addr + b.size = entry.addr) :
    (if CtVmBlock.Covers ⟨b.addr, b.size + entry.size⟩ p then 1 else 0) =
      (if b.Covers p then 1 else 0) + if entry.Covers p then 1 else 0 := by
  rw [covers_split, adjacent]

/-- The block that is taken from the unused block `entry` leaves `rest` of it. -/
def restOf (entry : CtVmBlock) (size : Nat) : List CtVmBlock :=
  if entry.size = size then [] else [⟨entry.addr + size, entry.size - size⟩]

theorem getVmBlock_cases (vm : CtVm) (size : Nat) (kzalloc : Bool) :
    vm.getVmBlock size kzalloc = (none, vm) ∨
      ∃ before entry behind, vm.unused = before ++ entry :: behind ∧ ctPageAlign size ≤ entry.size ∧
        ctPageAlign size ≤ vm.size ∧ vm.getVmBlock size kzalloc = (some ⟨entry.addr, ctPageAlign size⟩, { vm with
          unused := before ++ (restOf entry (ctPageAlign size) ++ behind)
          used := ⟨entry.addr, ctPageAlign size⟩ :: vm.used
          size := vm.size - ctPageAlign size }) := by
  unfold getVmBlock
  dsimp only
  by_cases large : ctPageAlign size > vm.size
  · exact Or.inl (if_pos large)
  rw [if_neg large]
  have parts := List.takeWhile_append_dropWhile (p := fun entry : CtVmBlock => decide (entry.size < ctPageAlign size)) (l := vm.unused)
  have head := List.head?_dropWhile_not (fun entry : CtVmBlock => decide (entry.size < ctPageAlign size)) vm.unused
  generalize vm.unused.takeWhile _ = before at parts ⊢
  generalize vm.unused.dropWhile _ = rest at parts head ⊢
  cases rest with
  | nil => exact Or.inl rfl
  | cons entry behind =>
    have enough : ctPageAlign size ≤ entry.size := by simpa using head
    dsimp only
    by_cases same : entry.size = ctPageAlign size
    · rw [if_pos same]
      refine Or.inr ⟨before, entry, behind, parts.symm, enough, Nat.not_lt.mp large, ?_⟩
      rw [restOf, if_pos same, ← same]
      rfl
    · rw [if_neg same]
      cases kzalloc with
      | false => exact Or.inl rfl
      | true =>
        refine Or.inr ⟨before, entry, behind, parts.symm, enough, Nat.not_lt.mp large, ?_⟩
        rw [restOf, if_neg same]
        rfl

def joinNext (block : CtVmBlock) : List CtVmBlock → CtVmBlock × List CtVmBlock
  | [] => (block, [])
  | entry :: behind =>
    if block.addr + block.size = entry.addr then (⟨block.addr, entry.size + block.size⟩, behind) else (block, entry :: behind)

theorem putUnused_cases (vm : CtVm) (block : CtVmBlock) : ∃ before after, vm.unused = before ++ after ∧
    (∀ x ∈ before, x.addr < block.addr + block.size) ∧ (∀ x ∈ after.head?, block.addr + block.size ≤ x.addr) ∧
      vm.putUnused block = mergeBack before.reverse (joinNext block after).1 (joinNext block after).2 := by
  unfold putUnused
  dsimp only
  have parts := List.takeWhile_append_dropWhile (p := fun entry : CtVmBlock => decide (entry.addr < block.addr + block.size))
    (l := vm.unused)
  have early (x : CtVmBlock)
      (inside : x ∈ vm.unused.takeWhile fun entry : CtVmBlock => decide (entry.addr < block.addr + block.size)) :
      x.addr < block.addr + block.size := by
    have passed := List.mem_takeWhile_imp inside
    exact of_decide_eq_true passed
  have head := List.head?_dropWhile_not (fun entry : CtVmBlock => decide (entry.addr < block.addr + block.size)) vm.unused
  generalize vm.unused.takeWhile _ = before at parts early ⊢
  generalize vm.unused.dropWhile _ = after at parts head ⊢
  refine ⟨before, after, parts.symm, early, ?_, ?_⟩
  · intro x first
    rw [Option.mem_def] at first
    rw [first] at head
    simpa using head
  · cases after with
    | nil => rfl
    | cons entry behind =>
      dsimp only [joinNext]
      split <;> rfl

theorem Inv.size_le (inv : Inv total vm) (inside : b ∈ vm.used) : b.size < total + CT_PAGE_SIZE := by
  obtain ⟨⟨start, page⟩, some_⟩ := inv.live b inside
  have covers : b.Covers ((b.addr + b.size - 1) / CT_PAGE_SIZE) := by
    unfold CtVmBlock.Covers CT_PAGE_SIZE at *
    omega
  have held : 0 < sharers (vm.unused ++ vm.used) ((b.addr + b.size - 1) / CT_PAGE_SIZE) :=
    holders_pos.mpr ⟨b, List.mem_append_right _ inside, covers⟩
  rw [inv.space.once] at held
  split at held
  · unfold CT_PAGE_SIZE at *
    omega
  · omega

theorem Space.apart (space : Space total vm) {p : Nat} (free : entry ∈ vm.unused) (live : b ∈ vm.used) (left : entry.Covers p)
    (right : b.Covers p) : False := by
  have one : 0 < sharers vm.unused p := holders_pos.mpr ⟨entry, free, left⟩
  have other : 0 < sharers vm.used p := holders_pos.mpr ⟨b, live, right⟩
  have once := space.once p
  rw [sharers_append] at once
  split at once <;> omega

theorem restOf_sharers {p : Nat} (enough : size ≤ entry.size) :
    (if entry.Covers p then 1 else 0) = (if CtVmBlock.Covers ⟨entry.addr, size⟩ p then 1 else 0) + sharers (restOf entry size) p := by
  unfold restOf
  by_cases same : entry.size = size
  · rw [if_pos same, ← same]
    rfl
  · rw [if_neg same, sharers_cons]
    have none_ : sharers [] p = 0 := rfl
    rw [none_, Nat.zero_add, ← covers_split, Nat.add_sub_cancel' enough]

theorem mem_restOf {r : CtVmBlock} (inside : r ∈ restOf entry size) :
    r = ⟨entry.addr + size, entry.size - size⟩ ∧ entry.size ≠ size := by
  unfold restOf at inside
  split at inside
  · exact absurd inside List.not_mem_nil
  · exact ⟨List.mem_singleton.mp inside, by assumption⟩

theorem restOf_sum (entry : CtVmBlock) (size : Nat) : ((restOf entry size).map CtVmBlock.size).sum = entry.size - size := by
  unfold restOf
  split
  · simp [*]
  · simp

theorem fillPtp_apply (start pages : Nat) (sgbuf : Nat → UInt64) (n : Nat) :
    vm.fillPtp start pages sgbuf n =
      if start ≤ n ∧ n < start + pages then sgbuf ((n - start) <<< CT_PAGE_SHIFT) else vm.ptp n :=
  foldl_update (fun i => sgbuf (i <<< CT_PAGE_SHIFT)) start pages vm.ptp n

theorem Inv.take (inv : Inv total vm) (small : total + 2 * CT_PAGE_SIZE ≤ 2 ^ 32) (some_ : 0 < size)
    (fits : size ≤ vm.size) (ptp : Nat → UInt64) (split : vm.unused = before ++ entry :: behind)
    (enough : ctPageAlign size ≤ entry.size) (room : ctPageAlign size ≤ vm.size) :
    Inv total ⟨ptp, vm.size - ctPageAlign size, before ++ (restOf entry (ctPageAlign size) ++ behind),
      ⟨entry.addr, size⟩ :: vm.used⟩ := by
  have bound := inv.sum
  have word : size + CT_PAGE_SIZE ≤ 2 ^ 32 := by
    unfold CT_PAGE_SIZE at *
    omega
  have entry_ := inv.free entry (by rw [split]; exact List.mem_append_right _ List.mem_cons_self)
  have sorted := inv.space.sorted
  have sizes := inv.space.size
  have once := inv.space.once
  rw [split] at sorted sizes once
  obtain ⟨front, back, across⟩ := List.pairwise_append.mp sorted
  obtain ⟨next, back⟩ := List.pairwise_cons.mp back
  have positive := ctPageAlign_pos word some_
  refine ⟨⟨fun p => ?_, ?_, ?_⟩, fun x inside => ?_, fun x inside => ?_, ?_⟩
  · have whole := once p
    have parts := restOf_sharers (p := p) enough
    have same : (if CtVmBlock.Covers ⟨entry.addr, size⟩ p then 1 else 0) =
        if CtVmBlock.Covers ⟨entry.addr, ctPageAlign size⟩ p then 1 else 0 := by
      simp only [covers_aligned word entry_.1]
    simp only [sharers_append, sharers_cons] at whole ⊢
    rw [same]
    omega
  · refine List.pairwise_append.mpr ⟨front, List.pairwise_append.mpr ⟨?_, back, ?_⟩, ?_⟩
    · unfold restOf
      split
      · exact List.Pairwise.nil
      · exact List.pairwise_singleton ..
    · intro r here y later
      obtain ⟨rfl, -⟩ := mem_restOf here
      have apart := next y later
      dsimp only
      omega
    · intro x early y late
      have apart := across x early entry List.mem_cons_self
      rcases List.mem_append.mp late with here | later
      · obtain ⟨rfl, -⟩ := mem_restOf here
        dsimp only
        omega
      · exact across x early y (List.mem_cons_of_mem entry later)
  · simp only [List.map_append, List.sum_append, List.map_cons, List.sum_cons, restOf_sum] at sizes ⊢
    omega
  · rcases List.mem_append.mp inside with early | late
    · exact inv.free x (by rw [split]; exact List.mem_append_left _ early)
    rcases List.mem_append.mp late with here | later
    · obtain ⟨rfl, other⟩ := mem_restOf here
      have page := ctPageAlign_dvd size
      exact ⟨Nat.dvd_add entry_.1 page, Nat.dvd_sub entry_.2.1 page, by dsimp only; omega⟩
    · exact inv.free x (by rw [split]; exact List.mem_append_right _ (List.mem_cons_of_mem entry later))
  · rcases List.mem_cons.mp inside with rfl | old
    · exact ⟨entry_.1, some_⟩
    · exact inv.live x old
  · simp only [List.map_cons, List.sum_cons]
    omega

theorem Inv.map (inv : Inv total vm) (small : total + 2 * CT_PAGE_SIZE ≤ 2 ^ 32) (some_ : 0 < size) (fits : size ≤ vm.size)
    (kzalloc : Bool) (sgbuf : Nat → UInt64) : Inv total (vm.ctVmMap size kzalloc sgbuf).2 ∧
      ∀ b ∈ vm.used, ∀ p, b.Covers p → (vm.ctVmMap size kzalloc sgbuf).2.ptp p = vm.ptp p := by
  unfold ctVmMap
  rcases getVmBlock_cases vm size kzalloc with none_ | ⟨before, entry, behind, split, enough, room, result⟩
  · rw [none_]
    exact ⟨inv, fun _ _ _ _ => rfl⟩
  · rw [result]
    refine ⟨inv.take small some_ fits _ split enough room, fun b live p covers => ?_⟩
    dsimp only
    rw [fillPtp_apply]
    apply if_neg
    intro inside
    have member : entry ∈ vm.unused := by
      rw [split]
      exact List.mem_append_right _ List.mem_cons_self
    obtain ⟨⟨start, page⟩, -, -⟩ := inv.free entry member
    apply inv.space.apart member live _ covers
    obtain ⟨count, align⟩ := ctPageAlign_dvd size
    rw [align] at inside enough
    simp only [page, CT_PAGE_SHIFT, CT_PAGE_SIZE, Nat.shiftRight_eq_div_pow] at inside
    unfold CtVmBlock.Covers CT_PAGE_SIZE at *
    omega

theorem Inv.word (inv : Inv total vm) (small : total + 2 * CT_PAGE_SIZE ≤ 2 ^ 32) (inside : b ∈ vm.used) :
    b.size + CT_PAGE_SIZE ≤ 2 ^ 32 := by
  have bound := inv.size_le inside
  unfold CT_PAGE_SIZE at *
  omega

theorem Inv.below (inv : Inv total vm) (small : total + 2 * CT_PAGE_SIZE ≤ 2 ^ 32) (live : b ∈ vm.used) (free : entry ∈ vm.unused)
    (before : entry.addr < b.addr + ctPageAlign b.size) : entry.addr + entry.size ≤ b.addr := by
  by_contra overlap
  obtain ⟨⟨start, page⟩, some_⟩ := inv.live b live
  obtain ⟨⟨first, page'⟩, ⟨pages, size⟩, positive⟩ := inv.free entry free
  rw [ctPageAlign_eq (inv.word small live)] at before
  by_cases early : first ≤ start
  · apply inv.space.apart (p := start) free live
    · unfold CtVmBlock.Covers CT_PAGE_SIZE at *
      omega
    · unfold CtVmBlock.Covers CT_PAGE_SIZE at *
      omega
  · apply inv.space.apart (p := first) free live
    · unfold CtVmBlock.Covers CT_PAGE_SIZE at *
      omega
    · unfold CtVmBlock.Covers CT_PAGE_SIZE at *
      omega

structure Joined (block : CtVmBlock) (after : List CtVmBlock) (entry : CtVmBlock) (behind : List CtVmBlock) : Prop where
  addr : entry.addr = block.addr
  larger : block.size ≤ entry.size
  part : ∀ x ∈ behind, x ∈ after
  pages : CT_PAGE_SIZE ∣ block.size → (∀ x ∈ after, CT_PAGE_SIZE ∣ x.size) → CT_PAGE_SIZE ∣ entry.size
  sharers : ∀ p, sharers (entry :: behind) p = AlsaDriver.Pci.sharers (block :: after) p
  sum : ((entry :: behind).map CtVmBlock.size).sum = ((block :: after).map CtVmBlock.size).sum
  sorted : (entry :: behind).Pairwise fun a b => a.addr + a.size < b.addr

theorem joinNext_joined {block : CtVmBlock} (sorted : after.Pairwise fun a b => a.addr + a.size < b.addr)
    (head : ∀ x ∈ after.head?, block.addr + block.size ≤ x.addr) :
    Joined block after (joinNext block after).1 (joinNext block after).2 := by
  cases after with
  | nil => exact ⟨rfl, Nat.le_refl _, fun _ => id, fun page _ => page, fun _ => rfl, rfl, List.pairwise_singleton ..⟩
  | cons next behind =>
    have edge := head next rfl
    obtain ⟨apart, rest⟩ := List.pairwise_cons.mp sorted
    unfold joinNext
    dsimp only
    by_cases same : block.addr + block.size = next.addr
    · rw [if_pos same]
      refine ⟨rfl, Nat.le_add_left .., fun _ => List.mem_cons_of_mem next, ?_, fun p => ?_, ?_, ?_⟩
      · intro page pages
        exact Nat.dvd_add (pages next List.mem_cons_self) page
      · have parts := covers_join (p := p) same
        simp only [sharers_cons, Nat.add_comm next.size]
        omega
      · simp only [List.map_cons, List.sum_cons]
        omega
      · refine List.pairwise_cons.mpr ⟨fun y later => ?_, rest⟩
        have far := apart y later
        dsimp only
        omega
    · rw [if_neg same]
      refine ⟨rfl, Nat.le_refl _, fun _ => id, fun page _ => page, fun _ => rfl, rfl, List.pairwise_cons.mpr ⟨fun y inside => ?_, sorted⟩⟩
      show block.addr + block.size < y.addr
      rcases List.mem_cons.mp inside with here | later
      · subst here
        omega
      · have far := apart y later
        omega

def JoinsBelow (vm : CtVm) (b : CtVmBlock) : Prop := ∀ entry ∈ vm.unused, entry.addr < b.addr → entry.addr + entry.size = b.addr

instance (vm : CtVm) (b : CtVmBlock) : Decidable (JoinsBelow vm b) := inferInstanceAs (Decidable (∀ entry ∈ vm.unused, _ → _))

/-- What the search of `put_vm_block` finds for a used block. -/
structure Place (vm : CtVm) (b : CtVmBlock) (before after : List CtVmBlock) (entry : CtVmBlock) (behind : List CtVmBlock) : Prop where
  parts : vm.unused = before ++ after
  early : ∀ x ∈ before, x.addr < b.addr ∧ x.addr + x.size ≤ b.addr
  late : ∀ x ∈ after, b.addr < x.addr
  joined : Joined ⟨b.addr, ctPageAlign b.size⟩ after entry behind
  result : vm.putUnused ⟨b.addr, ctPageAlign b.size⟩ = mergeBack before.reverse entry behind

theorem Inv.place (inv : Inv total vm) (small : total + 2 * CT_PAGE_SIZE ≤ 2 ^ 32) (live : b ∈ vm.used) :
    ∃ before after entry behind, Place vm b before after entry behind := by
  obtain ⟨before, after, parts, early, head, result⟩ := putUnused_cases vm ⟨b.addr, ctPageAlign b.size⟩
  have positive := ctPageAlign_pos (inv.word small live) (inv.live b live).2
  have sorted := inv.space.sorted
  rw [parts] at sorted
  have back := (List.pairwise_append.mp sorted).2.1
  refine ⟨before, after, _, _, parts, fun x inside => ?_, fun x inside => ?_, joinNext_joined back head, result⟩
  · have member : x ∈ vm.unused := by
      rw [parts]
      exact List.mem_append_left _ inside
    have low := inv.below small live member (early x inside)
    have size := (inv.free x member).2.2
    omega
  · cases after with
    | nil => exact absurd inside List.not_mem_nil
    | cons next rest =>
      have edge := head next rfl
      dsimp only at edge
      rcases List.mem_cons.mp inside with here | later
      · subst here
        omega
      · have far := (List.pairwise_cons.mp back).1 x later
        omega

theorem sharers_erase (live : b ∈ vm.used) (p : Nat) : sharers vm.used p = sharers (vm.used.erase b) p + if b.Covers p then 1 else 0 :=
  (holders_perm (List.perm_cons_erase live)).trans sharers_cons

theorem Inv.put (inv : Inv total vm) (live : b ∈ vm.used) {list : List CtVmBlock}
    (sharers_ : ∀ p, sharers list p = sharers vm.unused p + if b.Covers p then 1 else 0)
    (sum : (list.map CtVmBlock.size).sum = (vm.unused.map CtVmBlock.size).sum + ctPageAlign b.size)
    (sorted : list.Pairwise fun a b => a.addr + a.size < b.addr)
    (free : ∀ b ∈ list, CT_PAGE_SIZE ∣ b.addr ∧ CT_PAGE_SIZE ∣ b.size ∧ 0 < b.size) :
    Inv total ⟨vm.ptp, vm.size + ctPageAlign b.size, list, vm.used.erase b⟩ := by
  refine ⟨⟨fun p => ?_, sorted, ?_⟩, free, fun x inside => inv.live x (List.mem_of_mem_erase inside), ?_⟩
  · have once := inv.space.once p
    have erased := sharers_erase live p
    have now := sharers_ p
    dsimp only
    rw [sharers_append] at once ⊢
    omega
  · rw [sum, ← inv.space.size]
  · have whole := inv.sum
    have erased := ((List.perm_cons_erase live).map fun b => ctPageAlign b.size).sum_nat
    simp only [List.map_cons, List.sum_cons] at erased
    dsimp only
    omega

theorem Inv.unmap (inv : Inv total vm) (small : total + 2 * CT_PAGE_SIZE ≤ 2 ^ 32) (live : b ∈ vm.used) (joins : JoinsBelow vm b) :
    Inv total (vm.ctVmUnmap b) := by
  obtain ⟨before, after, entry, behind, place⟩ := inv.place small live
  have joined := place.joined
  have page := inv.live b live
  have positive := ctPageAlign_pos (inv.word small live) page.2
  have aligned (p : Nat) : (if CtVmBlock.Covers ⟨b.addr, ctPageAlign b.size⟩ p then 1 else 0) = if b.Covers p then 1 else 0 := by
    simp only [covers_aligned (inv.word small live) page.1]
  have free (x : CtVmBlock) (inside : x ∈ behind) : CT_PAGE_SIZE ∣ x.addr ∧ CT_PAGE_SIZE ∣ x.size ∧ 0 < x.size := by
    apply inv.free
    rw [place.parts]
    exact List.mem_append_right _ (joined.part x inside)
  have pages : CT_PAGE_SIZE ∣ entry.size := by
    apply joined.pages (ctPageAlign_dvd _)
    intro x inside
    refine (inv.free x ?_).2.1
    rw [place.parts]
    exact List.mem_append_right _ inside
  have larger : ctPageAlign b.size ≤ entry.size := joined.larger
  have addr : entry.addr = b.addr := joined.addr
  have sum := joined.sum
  simp only [List.map_cons, List.sum_cons] at sum
  have ends (x : CtVmBlock) (inside : x ∈ before) : x.addr + x.size = b.addr := by
    refine joins x ?_ (place.early x inside).1
    rw [place.parts]
    exact List.mem_append_left _ inside
  have sorted := inv.space.sorted
  rw [place.parts] at sorted
  unfold ctVmUnmap putVmBlock
  dsimp only
  rw [place.result]
  have parts := place.parts
  rcases before with _ | ⟨first, _ | ⟨second, rest⟩⟩
  · apply inv.put live
    · intro p
      have same := joined.sharers p
      have one := aligned p
      rw [parts]
      simp only [List.reverse_nil, mergeBack, List.nil_append, sharers_cons] at same ⊢
      omega
    · rw [parts]
      simp only [List.reverse_nil, mergeBack, List.nil_append, List.map_cons, List.sum_cons]
      omega
    · exact joined.sorted
    · intro x inside
      rcases List.mem_cons.mp inside with here | later
      · subst here
        exact ⟨addr ▸ page.1, pages, by omega⟩
      · exact free x later
  · have edge := ends first List.mem_cons_self
    have first_ := inv.free first (by rw [parts]; exact List.mem_cons_self)
    have merged : mergeBack [first].reverse entry behind = ⟨first.addr, first.size + entry.size⟩ :: behind := by
      have adjacent : ¬ first.addr + first.size > entry.addr := by omega
      simp only [List.reverse_singleton, mergeBack, adjacent, if_false]
    rw [merged]
    apply inv.put live
    · intro p
      have same := joined.sharers p
      have one := aligned p
      have two := covers_join (p := p) (edge.trans addr.symm)
      rw [parts]
      simp only [List.singleton_append, sharers_cons] at same ⊢
      omega
    · rw [parts]
      simp only [List.singleton_append, List.map_cons, List.sum_cons]
      omega
    · refine List.pairwise_cons.mpr ⟨fun y later => ?_, (List.pairwise_cons.mp joined.sorted).2⟩
      have far := (List.pairwise_cons.mp joined.sorted).1 y later
      dsimp only
      omega
    · intro x inside
      rcases List.mem_cons.mp inside with here | later
      · subst here
        exact ⟨first_.1, Nat.dvd_add first_.2.1 pages, by dsimp only; omega⟩
      · exact free x later
  · -- two unused blocks cannot end at the same address
    have one := ends first List.mem_cons_self
    have two := ends second (List.mem_cons_of_mem first List.mem_cons_self)
    have apart := (List.pairwise_cons.mp sorted).1 second List.mem_cons_self
    omega

theorem mergeBack_first (first : CtVmBlock) {rev : List CtVmBlock} (below : ∀ x ∈ rev ++ [first], x.addr + x.size ≤ entry.addr)
    (sorted : (rev ++ [first]).Pairwise fun x y => y.addr + y.size ≤ x.addr) :
    ∃ size, mergeBack (rev ++ [first]) entry behind = ⟨first.addr, size⟩ :: behind ∧ first.size + entry.size ≤ size := by
  induction rev generalizing entry with
  | nil =>
    have edge := below first List.mem_cons_self
    exact ⟨_, if_neg (Nat.not_lt.mpr edge), Nat.le_refl _⟩
  | cons pre rest ih =>
    have edge := below pre List.mem_cons_self
    obtain ⟨apart, sorted⟩ := List.pairwise_cons.mp sorted
    have joined : ∀ x ∈ rest ++ [first], x.addr + x.size ≤ (⟨pre.addr, pre.size + entry.size⟩ : CtVmBlock).addr := apart
    obtain ⟨size, result, larger⟩ := ih joined sorted
    refine ⟨size, ?_, ?_⟩
    · rw [← result]
      exact if_neg (Nat.not_lt.mpr edge)
    · dsimp only at larger
      omega

theorem Inv.unmap_shares (inv : Inv total vm) (small : total + 2 * CT_PAGE_SIZE ≤ 2 ^ 32) (live : b ∈ vm.used)
    (gap : ¬ JoinsBelow vm b) : ¬ Space total (vm.ctVmUnmap b) := by
  intro space
  obtain ⟨before, after, entry, behind, place⟩ := inv.place small live
  have addr : entry.addr = b.addr := place.joined.addr
  have larger : ctPageAlign b.size ≤ entry.size := place.joined.larger
  have positive := ctPageAlign_pos (inv.word small live) (inv.live b live).2
  have sorted := inv.space.sorted
  rw [place.parts] at sorted
  have front := (List.pairwise_append.mp sorted).1
  unfold JoinsBelow at gap
  push Not at gap
  obtain ⟨stray, free, low, ends⟩ := gap
  have inside : stray ∈ before := by
    rw [place.parts] at free
    apply (List.mem_append.mp free).resolve_right
    intro late
    have above := place.late stray late
    omega
  cases before with
  | nil => exact absurd inside List.not_mem_nil
  | cons first rest =>
    have first_ := inv.free first (by rw [place.parts]; exact List.mem_cons_self)
    obtain ⟨apart, front⟩ := List.pairwise_cons.mp front
    -- no block in front of the freed one begins where the first one ends
    have short : first.addr + first.size < b.addr := by
      rcases List.mem_cons.mp inside with here | later
      · have bound := (place.early stray inside).2
        subst here
        omega
      · have far := apart stray later
        omega
    obtain ⟨size, merged, sum⟩ : ∃ size, mergeBack (first :: rest).reverse entry behind = ⟨first.addr, size⟩ :: behind ∧
        first.size + entry.size ≤ size := by
      rw [List.reverse_cons]
      apply mergeBack_first
      · intro x member
        have early := (place.early x (by simpa [or_comm] using member)).2
        omega
      · rw [← List.reverse_cons, List.pairwise_reverse]
        apply List.Pairwise.imp _ (List.pairwise_cons.mpr ⟨apart, front⟩)
        intro x y far
        omega
    have list : (vm.ctVmUnmap b).unused = ⟨first.addr, size⟩ :: behind := by
      rw [← merged, ← place.result]
      rfl
    obtain ⟨⟨start, page⟩, ⟨pages, length⟩, some_⟩ := first_
    have covers : CtVmBlock.Covers ⟨first.addr, size⟩ (start + pages) := by
      unfold CtVmBlock.Covers CT_PAGE_SIZE at *
      dsimp only
      omega
    have now := space.once (start + pages)
    have once := inv.space.once (start + pages)
    rw [list, List.cons_append, sharers_cons, if_pos covers, sharers_append] at now
    have used : sharers (vm.ctVmUnmap b).used (start + pages) = sharers vm.used (start + pages) := by
      have erased := sharers_erase live (start + pages)
      have outside : ¬ b.Covers (start + pages) := by
        unfold CtVmBlock.Covers CT_PAGE_SIZE at *
        omega
      rw [if_neg outside] at erased
      exact erased.symm
    have unused : sharers vm.unused (start + pages) = 0 := by
      apply Nat.eq_zero_of_not_pos
      intro held
      obtain ⟨x, member, both⟩ := holders_pos.mp held
      unfold CtVmBlock.Covers at both
      rw [place.parts] at member
      rcases List.mem_append.mp member with early | late
      · rcases List.mem_cons.mp early with here | later
        · subst here
          unfold CT_PAGE_SIZE at *
          omega
        · have far := apart x later
          unfold CT_PAGE_SIZE at *
          omega
      · have above := place.late x late
        unfold CT_PAGE_SIZE at *
        omega
    rw [sharers_append, unused] at once
    rw [used] at now
    by_cases inside_ : (start + pages) * CT_PAGE_SIZE < total
    · rw [if_pos inside_] at once now
      omega
    · rw [if_neg inside_] at now
      omega

theorem Inv.unmap_iff (inv : Inv total vm) (small : total + 2 * CT_PAGE_SIZE ≤ 2 ^ 32) (live : b ∈ vm.used) :
    Space total (vm.ctVmUnmap b) ↔ JoinsBelow vm b := by
  constructor
  · intro space
    by_contra gap
    exact inv.unmap_shares small live gap space
  · exact fun joins => (inv.unmap small live joins).space

inductive CtVmOp where
  | map (size : Nat) (kzalloc : Bool) (sgbuf : Nat → UInt64)
  | unmap (block : CtVmBlock)

def exec (vm : CtVm) : CtVmOp → CtVm
  | .map size kzalloc sgbuf => (vm.ctVmMap size kzalloc sgbuf).2
  | .unmap block => vm.ctVmUnmap block

def Proper (vm : CtVm) : CtVmOp → Prop
  | .map size _ _ => size ≤ vm.size
  | .unmap block => block ∈ vm.used

instance (vm : CtVm) : (op : CtVmOp) → Decidable (Proper vm op)
  | .map size _ _ => inferInstanceAs (Decidable (size ≤ vm.size))
  | .unmap block => inferInstanceAs (Decidable (block ∈ vm.used))

def Sound (vm : CtVm) : CtVmOp → Prop
  | .map size _ _ => 0 < size
  | .unmap block => JoinsBelow vm block

instance (vm : CtVm) : (op : CtVmOp) → Decidable (Sound vm op)
  | .map size _ _ => inferInstanceAs (Decidable (0 < size))
  | .unmap block => inferInstanceAs (Decidable (JoinsBelow vm block))

/-- After a step the address space is as it should be, no two blocks share a page, and the page table entries of the
    blocks that stay in use are as before. -/
structure Kept (total : Nat) (vm vm' : CtVm) : Prop where
  space : Space total vm'
  apart : (vm'.unused ++ vm'.used).Pairwise fun a b => ∀ p, ¬ (a.Covers p ∧ b.Covers p)
  entries : ∀ b ∈ vm.used, b ∈ vm'.used → ∀ p, b.Covers p → vm'.ptp p = vm.ptp p

theorem Space.pairwise (space : Space total vm) : (vm.unused ++ vm.used).Pairwise fun a b => ∀ p, ¬ (a.Covers p ∧ b.Covers p) := by
  apply apart_of_holders
  intro p
  have once := space.once p
  unfold sharers at once
  rw [once]
  split <;> omega

theorem Inv.exec (inv : Inv total vm) (small : total + 2 * CT_PAGE_SIZE ≤ 2 ^ 32) {op : CtVmOp} (proper : Proper vm op)
    (sound : Sound vm op) : Inv total (vm.exec op) ∧ Kept total vm (vm.exec op) := by
  cases op with
  | map size kzalloc sgbuf =>
    obtain ⟨inv', entries⟩ := inv.map small sound proper kzalloc sgbuf
    exact ⟨inv', inv'.space, inv'.space.pairwise, fun b live _ => entries b live⟩
  | unmap block =>
    have inv' := inv.unmap small proper sound
    exact ⟨inv', inv'.space, inv'.space.pairwise, fun _ _ _ _ _ => rfl⟩

def space (pointer : Nat) : Nat := ctAddrsPerPage pointer * CT_PTP_NUM

theorem space_small (pointer : Nat) : space pointer + 2 * CT_PAGE_SIZE ≤ 2 ^ 32 := by
  have entries : CT_PAGE_SIZE / pointer ≤ CT_PAGE_SIZE := Nat.div_le_self ..
  unfold space ctAddrsPerPage CT_PTP_NUM CT_PAGE_SIZE at *
  omega

theorem create_inv {pointer : Nat} (some_ : 0 < space pointer) (ptp : Nat → UInt64) :
    Inv (space pointer) (ctVmCreate pointer ptp true) := by
  have page : CT_PAGE_SIZE ∣ space pointer := Nat.dvd_mul_right_of_dvd (Nat.dvd_mul_left ..) CT_PTP_NUM
  refine ⟨⟨fun p => ?_, List.pairwise_singleton .., ?_⟩, fun b inside => ?_, fun b none_ => absurd none_ List.not_mem_nil, rfl⟩
  · show sharers [⟨0, space pointer⟩] p = _
    rw [sharers_cons]
    simp [CtVmBlock.Covers, sharers, holders]
  · show space pointer = ([⟨0, space pointer⟩].map CtVmBlock.size).sum
    simp
  · rw [List.mem_singleton.mp inside]
    exact ⟨Nat.dvd_zero .., page, some_⟩

/-- The device address space in every run in which the first block could be allocated, no mapping is empty and no freed
    block is joined to one that does not touch it. -/
theorem address_space (pointer : Nat) (some_ : 0 < space pointer) (ptp : Nat → UInt64) (kzalloc : Bool) (ops : List CtVmOp)
    (proper : Throughout exec (fun vm op _ => Proper vm op) (ctVmCreate pointer ptp kzalloc) ops) (created : kzalloc = true)
    (sound : Throughout exec (fun vm op _ => Sound vm op) (ctVmCreate pointer ptp kzalloc) ops) :
    Space (space pointer) (ctVmCreate pointer ptp kzalloc) ∧
      Throughout exec (fun vm _ vm' => Kept (space pointer) vm vm') (ctVmCreate pointer ptp kzalloc) ops := by
  subst created
  have start := create_inv some_ ptp
  refine ⟨start.space, ?_⟩
  apply Throughout.steps (Inv (space pointer)) start (proper.and sound)
  intro vm op inv both
  exact (inv.exec (space_small pointer) both.1 both.2).symm

def threePages : List CtVmOp :=
  [.map 4096 true fun _ => 1, .map 100 true fun _ => 2, .map 4096 true fun _ => 3, .unmap ⟨4096, 100⟩, .unmap ⟨0, 4096⟩]

theorem address_space_three : Space (space 8) (ctVmCreate 8 (fun _ => 0) true) ∧
    Throughout exec (fun vm _ vm' => Kept (space 8) vm vm') (ctVmCreate 8 (fun _ => 0) true) threePages :=
  address_space 8 (by decide) (fun _ => 0) true threePages (by decide) rfl (by decide)

/-- The first and the third of four pages are given back: the second one, still in use, is counted as unused. -/
theorem gap_closed : ¬ ∀ (pointer : Nat) (ptp : Nat → UInt64) (ops : List CtVmOp), 0 < space pointer →
    Throughout exec (fun vm op _ => Proper vm op) (ctVmCreate pointer ptp true) ops →
      Throughout exec (fun vm _ vm' => Kept (space pointer) vm vm') (ctVmCreate pointer ptp true) ops := by
  intro all
  have run := all 8 (fun _ => 0) [.map 4096 true fun _ => 0, .map 4096 true fun _ => 0, .map 4096 true fun _ => 0,
    .map 4096 true fun _ => 0, .unmap ⟨0, 4096⟩, .unmap ⟨8192, 4096⟩] (by decide) (by decide)
  have once := run.2.2.2.2.2.1.space.once 1
  exact absurd once (by decide)

end CtVm

end AlsaDriver.Pci
