import AlsaDriver.Lib.Runs
import AlsaDriver.Pci.Emu10k1Calls

namespace AlsaDriver.Pci

open Function Extents Runs

inductive MemOp where
  | synthAlloc (size : UInt32) (kmalloc : Option Nat) (tries : Nat → Option UInt64 × Option UInt64)
  | synthFree (b : Nat)
  | allocPages (dmaBytes periodSize bufferSize : Nat) (kmalloc : Option Nat) (sgbuf : Nat → UInt64)
  | freePages (b : Nat)
  | memblkMap (b : Nat)
  | lock (b : Nat)
  | unlock (b : Nat)

def MemOp.Frees : MemOp → Nat → Prop
  | .synthFree b, x => x = b
  | .freePages b, x => x = b
  | _, _ => False

namespace Emu10k1

def exec (c : Emu10k1Card) (e : Emu10k1) : MemOp → Emu10k1
  | .synthAlloc size kmalloc tries => (e.sndEmu10k1SynthAlloc c size kmalloc tries).2
  | .synthFree b => e.sndEmu10k1SynthFree c b
  | .allocPages dmaBytes periodSize bufferSize kmalloc sgbuf =>
    (e.sndEmu10k1AllocPages c dmaBytes periodSize bufferSize kmalloc sgbuf).2
  | .freePages b => e.sndEmu10k1SynthFree c b
  | .memblkMap b => (e.sndEmu10k1MemblkMap c b).2
  | .lock b => e.modify b fun m => { m with mapLocked := m.mapLocked + 1 }
  | .unlock b => e.modify b fun m => { m with mapLocked := if m.mapLocked > 0 then m.mapLocked - 1 else m.mapLocked }

def Fails (c : Emu10k1Card) (e : Emu10k1) : MemOp → Prop
  | .synthAlloc size kmalloc tries => (e.sndEmu10k1SynthAlloc c size kmalloc tries).1 = none
  | .allocPages dmaBytes periodSize bufferSize kmalloc sgbuf =>
    (e.sndEmu10k1AllocPages c dmaBytes periodSize bufferSize kmalloc sgbuf).1 = none
  | _ => False

/-- `kmalloc` gives memory that no block is in, and a client passes a block that has not been freed and is not the
    reserved page of the driver. -/
def Proper (e : Emu10k1) : MemOp → Prop
  | .synthAlloc _ kmalloc _ => ∀ b, kmalloc = some b → b ∉ e.block
  | .allocPages _ _ _ kmalloc _ => ∀ b, kmalloc = some b → b ∉ e.block
  | .synthFree b | .freePages b | .memblkMap b | .lock b | .unlock b => b ∈ e.block ∧ e.reserved ≠ some b

instance (e : Emu10k1) : (kmalloc : Option Nat) → Decidable (∀ b, kmalloc = some b → b ∉ e.block)
  | none => .isTrue fun b wrong => absurd wrong.symm (Option.some_ne_none b)
  | some b => decidable_of_iff (b ∉ e.block) ⟨fun free _ same => Option.some.inj same ▸ free, fun free => free b rfl⟩

instance (e : Emu10k1) : (op : MemOp) → Decidable (Proper e op)
  | .synthAlloc _ kmalloc _ => inferInstanceAs (Decidable (∀ b, kmalloc = some b → b ∉ e.block))
  | .allocPages _ _ _ kmalloc _ => inferInstanceAs (Decidable (∀ b, kmalloc = some b → b ∉ e.block))
  | .synthFree _ | .freePages _ | .memblkMap _ | .lock _ | .unlock _ => inferInstanceAs (Decidable (_ ∧ _))

def Valid (c : Emu10k1Card) (e : Emu10k1) : MemOp → Prop
  | .allocPages dmaBytes periodSize bufferSize kmalloc sgbuf => PcmValid c e dmaBytes periodSize bufferSize kmalloc sgbuf
  | _ => True

variable {c : Emu10k1Card} {cleared : Prop} {e e' : Emu10k1} {b p : Nat}

theorem setLock_step (inv : Inv c cleared e) (other : e.reserved ≠ some b) (f : UInt32 → UInt32) :
    Effect c cleared e (e.modify b fun m => { m with mapLocked := f m.mapLocked }) ∧
      (∀ x ∈ e.mapped, x ∈ (e.modify b fun m => { m with mapLocked := f m.mapLocked }).mapped ∧
        ((e.modify b fun m => { m with mapLocked := f m.mapLocked }).blk x).mappedPage = (e.blk x).mappedPage) ∧
      ∀ p, Once e (e.modify b fun m => { m with mapLocked := f m.mapLocked }) p := by
  have same : SameBlocks e (e.modify b fun m => { m with mapLocked := f m.mapLocked }) := sameBlocks_lock f
  refine ⟨⟨inv.setLock other f, rfl, fun p owns => owns.congr same rfl owns.balanced⟩, fun x inside => ⟨inside, ?_⟩,
    fun p => Once.of_counts same.owned rfl rfl⟩
  obtain ⟨lock, equal⟩ := modify_lock (e := e) (b := b) f x
  rw [equal]

theorem Inv.exec (inv : Inv c cleared e) (op : MemOp) (proper : Proper e op) :
    Effect c cleared e (exec c e op) ∧
      (∀ x ∈ e.mapped, (e.blk x).mapLocked ≠ 0 → ¬ op.Frees x →
        x ∈ (Emu10k1.exec c e op).mapped ∧ ((Emu10k1.exec c e op).blk x).mappedPage = (e.blk x).mappedPage) ∧
      (Valid c e op → Fails c e op → Unchanged e (Emu10k1.exec c e op)) ∧
      (¬ Valid c e op → Fails c e op ∧ (Emu10k1.exec c e op).block ≠ e.block) ∧
      (¬ Fails c e op → ∀ p, Owns e p → Once e (Emu10k1.exec c e op) p) := by
  cases op with
  | synthAlloc size kmalloc tries =>
    obtain ⟨effect, keeps, null, once⟩ := inv.synthAlloc size proper tries
    exact ⟨effect, fun x inside locked _ => keeps x inside locked, fun _ => null, fun wrong => absurd trivial wrong,
      fun success p _ => once success p⟩
  | synthFree b =>
    obtain ⟨effect, once, keeps⟩ := inv.synthFree proper.1 proper.2
    exact ⟨effect, fun x inside _ other => keeps x inside other, fun _ wrong => absurd wrong id,
      fun wrong => absurd trivial wrong, fun _ => once⟩
  | allocPages dmaBytes periodSize bufferSize kmalloc sgbuf =>
    obtain ⟨effect, keeps, once, null, leak⟩ := inv.allocPages dmaBytes periodSize bufferSize proper sgbuf
    exact ⟨effect, fun x inside locked _ => keeps x inside locked, null, leak, fun _ p _ => once p⟩
  | freePages b =>
    obtain ⟨effect, once, keeps⟩ := inv.synthFree proper.1 proper.2
    exact ⟨effect, fun x inside _ other => keeps x inside other, fun _ wrong => absurd wrong id,
      fun wrong => absurd trivial wrong, fun _ => once⟩
  | memblkMap b =>
    have remapped : Remapped e (e.sndEmu10k1MemblkMap c b).2 := memblkMap_remapped
    have keeps := (inv.mapping.memblkMap inv.blocks proper.1 proper.2).2.1
    have tables := remapped.tables
    exact ⟨remapped.effect (inv.memblkMap proper.1 proper.2), fun x inside locked _ => keeps x inside locked,
      fun _ wrong => absurd wrong id, fun wrong => absurd trivial wrong,
      fun _ p _ => Once.of_counts remapped.same.owned (congrFun (congrArg PageTables.gets tables) p)
        (congrFun (congrArg PageTables.frees tables) p)⟩
  | lock b =>
    obtain ⟨effect, keeps, once⟩ := setLock_step inv proper.2 fun l => l + 1
    exact ⟨effect, fun x inside _ _ => keeps x inside, fun _ wrong => absurd wrong id, fun wrong => absurd trivial wrong,
      fun _ p _ => once p⟩
  | unlock b =>
    obtain ⟨effect, keeps, once⟩ := setLock_step inv proper.2 fun l => if l > 0 then l - 1 else l
    exact ⟨effect, fun x inside _ _ => keeps x inside, fun _ wrong => absurd wrong id, fun wrong => absurd trivial wrong,
      fun _ p _ => once p⟩

theorem Inv.clear (inv : Inv c cleared e) {r : Option Nat} (only : ∀ x ∈ e.block, r = some x)
    (held : ∀ b, r = some b → b ∈ e.block ∧ (e.blk b).mapLocked ≠ 0) : Inv c True { e with
      reserved := r
      ptb := fun idx => if idx < maxPages then Emu10k1Card.ptbEntry c.silentPage idx else e.ptb idx } := by
  have mapping := inv.mapping
  refine ⟨inv.blocks.congr ⟨rfl, rfl, rfl, fun _ _ => ⟨_, _, rfl⟩⟩, ⟨mapping.stacked, mapping.live, mapping.mapped, mapping.order,
    fun x inside other => absurd (only x (mapping.live x inside)) other, fun _ n small _ => if_pos small, held⟩⟩

/-- What `snd_emu10k1_create` gets from the kernel: what fresh memory holds, and the reserved page. -/
structure Boot where
  blk : Nat → Memblk
  ptb : Nat → UInt32
  addr : Nat → UInt64
  ptr : Nat → Option UInt64
  kmalloc : Option Nat
  tries : Nat → Option UInt64 × Option UInt64

namespace Boot

variable (boot : Boot)

/-- The state in which `snd_emu10k1_create` allocates the reserved page. -/
def fresh : Emu10k1 := ⟨boot.blk, [], 0, 0, [], [], boot.ptb, ⟨boot.addr, boot.ptr, fun _ => 0, fun _ => 0⟩, none⟩

def created (c : Emu10k1Card) : Emu10k1 :=
  sndEmu10k1Create c boot.blk boot.ptb boot.addr boot.ptr boot.kmalloc boot.tries

theorem fresh_inv (c : Emu10k1Card) : Inv c False boot.fresh := by
  refine ⟨⟨Nat.zero_le _, ?_, ?_, ?_, rfl, rfl⟩, ⟨Nat.zero_le _, ?_, ?_, List.Perm.refl _, ?_, fun wrong => wrong.elim, ?_⟩⟩
  · exact fun b inside => absurd inside List.not_mem_nil
  · exact fun b inside => absurd inside List.not_mem_nil
  · exact fun b inside => absurd inside List.not_mem_nil
  · exact fun b inside => absurd inside List.not_mem_nil
  · exact fun b inside => absurd inside List.not_mem_nil
  · exact fun b inside => absurd inside List.not_mem_nil
  · exact fun r wrong => absurd wrong.symm (Option.some_ne_none r)

theorem reserved_alloc (c : Emu10k1Card) (b : Nat)
    (found : (boot.fresh.sndEmu10k1SynthAlloc c 4096 boot.kmalloc boot.tries).1 = some b) :
    (boot.fresh.sndEmu10k1SynthAlloc c 4096 boot.kmalloc boot.tries).2.block = [b] ∧
      ∀ p, (boot.fresh.sndEmu10k1SynthAlloc c 4096 boot.kmalloc boot.tries).2.Owned p →
        Owns (boot.fresh.sndEmu10k1SynthAlloc c 4096 boot.kmalloc boot.tries).2 p := by
  have inv := boot.fresh_inv c
  rcases synthAlloc_cases inv.blocks 4096 boot.kmalloc boot.tries with
    null | ⟨b', pos, m, err, t, address, fits, new, alloc, result⟩
  · rw [null] at found
    exact absurd found.symm (Option.some_ne_none b)
  · rw [result] at found ⊢
    have out : b' ∉ boot.fresh.block := List.not_mem_nil
    have paged : m.Paged c := new ▸ newMemblk_paged c true m.offset m.size
    have synth : m.synth = true := by rw [new]; rfl
    have added := inv.blocks.addBlock out fits paged fun pcm => absurd (synth.symm.trans pcm) (by decide)
    have spec := added.allocOwn boot.tries alloc
    by_cases failed : err ≠ 0
    · rw [if_pos failed] at found
      exact absurd found.symm (Option.some_ne_none b)
    · rw [if_neg failed] at found ⊢
      have remapped : Remapped (boot.fresh.addWith pos b' m t) ((boot.fresh.addWith pos b' m t).sndEmu10k1MemblkMap c b').2 :=
        memblkMap_remapped
      obtain ⟨-, got⟩ | ⟨wrong, -⟩ := spec
      · constructor
        · rw [remapped.block]
          show boot.fresh.block.take pos ++ b' :: boot.fresh.block.drop pos = [b]
          rw [show boot.fresh.block = [] from rfl, List.take_nil, List.drop_nil, Option.some.inj found]
          rfl
        · intro p owned
          have tables := remapped.tables
          have inside := (own_iff (p := p) (t := t) added out synth).mpr
            ⟨fun ⟨x, inside, _⟩ => absurd inside List.not_mem_nil, remapped.same.owned.mp owned⟩
          have held := (got p).new inside
          have gets := (got p).gets
          rw [if_pos inside] at gets
          refine ⟨⟨fun _ => owned, fun _ => by rw [tables]; exact held⟩, ?_⟩
          rw [tables]
          unfold PageTables.Balanced
          show t.gets p = t.frees p + if (t.ptr p).isSome = true then 1 else 0
          rw [if_pos held, gets, (got p).frees]
          rfl
      · have zero : err = 0 := of_not_not failed
        exact absurd (zero.symm.trans wrong) (by decide)

theorem created_inv (c : Emu10k1Card) : Inv c True (boot.created c) ∧
    ∀ p, (boot.ptr p ≠ none → (boot.created c).Owned p) → Owns (boot.created c) p := by
  have inv := boot.fresh_inv c
  obtain ⟨effect, -, null, -⟩ := inv.synthAlloc 4096
    (show ∀ b, boot.kmalloc = some b → b ∉ boot.fresh.block from fun b _ => List.not_mem_nil) boot.tries
  have single := boot.reserved_alloc c
  have reserved := effect.reserved
  have empty (p : Nat) (free : boot.ptr p = none) : Owns boot.fresh p := by
    refine ⟨⟨fun wrong => ?_, fun ⟨x, inside, _⟩ => absurd inside List.not_mem_nil⟩, ?_⟩
    · have free : boot.fresh.tables.ptr p = none := free
      rw [free] at wrong
      exact absurd wrong Bool.false_ne_true
    · show (0 : Nat) = 0 + if (boot.ptr p).isSome then 1 else 0
      rw [free]
      rfl
  unfold created sndEmu10k1Create
  dsimp only
  rw [show (⟨boot.blk, [], 0, 0, [], [], boot.ptb, ⟨boot.addr, boot.ptr, fun _ => 0, fun _ => 0⟩, none⟩ : Emu10k1) =
    boot.fresh from rfl]
  generalize boot.fresh.sndEmu10k1SynthAlloc c 4096 boot.kmalloc boot.tries = r at effect null single reserved
  obtain ⟨found, e⟩ := r
  cases found with
  | none =>
    have same := null rfl
    have block : e.block = [] := same.blocks.block
    refine ⟨effect.inv.clear ?_ ?_, fun p known => ?_⟩
    · rw [block]
      exact fun x inside => absurd inside List.not_mem_nil
    · exact fun b wrong => absurd wrong.symm (Option.some_ne_none b)
    · have free : boot.ptr p = none := by
        by_contra garbage
        obtain ⟨x, inside, -⟩ := known garbage
        rw [show _ = e.block from rfl, block] at inside
        exact absurd inside List.not_mem_nil
      have owns := effect.owns p (empty p free)
      exact ⟨owns.ptr, owns.balanced⟩
  | some b =>
    obtain ⟨block, held⟩ := single b rfl
    have other : e.reserved ≠ some b := by
      rw [show e.reserved = none from reserved]
      exact (Option.some_ne_none b).symm
    have inv' := effect.inv.setLock other fun _ => 1
    have same : SameBlocks e (e.modify b fun m => { m with mapLocked := 1 }) := sameBlocks_lock fun _ => 1
    refine ⟨inv'.clear ?_ ?_, fun p known => ?_⟩
    · intro x inside
      have inside : x ∈ e.block := inside
      rw [block] at inside
      rw [List.mem_singleton.mp inside]
    · intro x found
      cases found
      refine ⟨show b ∈ e.block from block ▸ List.mem_cons_self, ?_⟩
      show (update e.blk b { e.blk b with mapLocked := 1 } b).mapLocked ≠ 0
      rw [update_self]
      exact (by decide : (1 : UInt32) ≠ 0)
    · have owns : Owns e p := by
        by_cases owned : e.Owned p
        · exact held p owned
        · apply effect.owns p (empty p _)
          by_contra garbage
          exact owned (same.owned.mp (known garbage))
      have kept : Owns (e.modify b fun m => { m with mapLocked := 1 }) p := owns.congr same rfl owns.balanced
      exact ⟨kept.ptr, kept.balanced⟩

end Boot

/-- The lists of mapped blocks and the PTB; the block `exempt` does not show in the PTB. -/
structure PageTable (c : Emu10k1Card) (exempt : Option Nat) (e : Emu10k1) : Prop where
  increasing : e.mapped.Pairwise fun x y => (e.blk x).mappedPage + (e.blk x).pages ≤ (e.blk y).mappedPage
  inside : ∀ b ∈ e.mapped, 0 ≤ (e.blk b).mappedPage ∧ (e.blk b).mappedPage + (e.blk b).pages ≤ c.maxAlignPages
  mapped : ∀ b, b ∈ e.mapped ↔ b ∈ e.block ∧ 0 ≤ (e.blk b).mappedPage
  ordered : ∀ b, b ∈ e.order ↔ b ∈ e.mapped
  once : e.mapped.Nodup ∧ e.order.Nodup
  shows : ∀ b ∈ e.mapped, exempt ≠ some b → ∀ i < (e.blk b).pages, ∀ k < c.unitPages,
    e.ptb (((e.blk b).mappedPage.toNat + i) * c.unitPages + k) =
      Emu10k1Card.ptbEntry (e.tables.addr ((e.blk b).firstPage + i) + UInt64.ofNat (k * emuPageSize))
        (((e.blk b).mappedPage.toNat + i) * c.unitPages + k)
  silent : ∀ n < maxPages, (∀ b ∈ e.mapped, exempt ≠ some b → ¬ Spans c e b n) →
    e.ptb n = Emu10k1Card.ptbEntry c.silentPage n

theorem Inv.pageTable (inv : Inv c True e) : PageTable c e.reserved e := by
  have mapping := inv.mapping
  have nodup := mapping.nodup inv.blocks
  refine ⟨?_, fun b inside => ?_, fun b => ⟨fun inside => ?_, fun both => (mapping.mapped b both.1).mpr both.2⟩,
    fun b => mapping.order.mem_iff, ⟨nodup, mapping.order.nodup_iff.mpr nodup⟩, ?_, mapping.silent trivial⟩
  · apply List.Pairwise.imp_of_mem _ mapping.stacked.pairwise
    intro x y left right apart
    have first := mapping.mapped_nonneg left
    have second := mapping.mapped_nonneg right
    omega
  · have start := mapping.mapped_nonneg inside
    have bounds := mapping.stacked.mem inside
    omega
  · exact ⟨mapping.live b inside, mapping.mapped_nonneg inside⟩
  · intro b inside free i small k below
    have start := mapping.mapped_nonneg inside
    have page : (((e.blk b).mappedPage.toNat + i) * c.unitPages + k) / c.unitPages = (e.blk b).mappedPage.toNat + i := by
      rw [Nat.mul_comm, Nat.mul_add_div (Emu10k1Card.unitPages_pos c), Nat.div_eq_of_lt below, Nat.add_zero]
    have offset : (((e.blk b).mappedPage.toNat + i) * c.unitPages + k) % c.unitPages = k := by
      rw [Nat.mul_comm, Nat.mul_add_mod, Nat.mod_eq_of_lt below]
    have span : Spans c e b (((e.blk b).mappedPage.toNat + i) * c.unitPages + k) := by
      unfold Spans
      rw [page]
      omega
    rw [mapping.shows b inside free _ span, page, Nat.add_sub_cancel_left]
    unfold Emu10k1Card.pageEntry
    rw [offset]

structure LeftAlone (c : Emu10k1Card) (e e' : Emu10k1) : Prop where
  block : e'.block = e.block
  places : ∀ b ∈ e.block, (e'.blk b).offset = (e.blk b).offset ∧ (e'.blk b).size = (e.blk b).size
  pages : ∀ p < c.maxCachePages, (e'.tables.ptr p).isSome = (e.tables.ptr p).isSome

/-- The blocks of `memhdr` and the pages that are allocated for them. -/
structure SampleMemory (c : Emu10k1Card) (e : Emu10k1) : Prop where
  sorted : e.block.Pairwise fun x y => (e.blk x).offset + (e.blk x).size ≤ (e.blk y).offset
  inside : ∀ b ∈ e.block, 0 < (e.blk b).size ∧ (e.blk b).offset + (e.blk b).size ≤ c.memSize
  used : e.used = (e.block.map fun b => (e.blk b).size).sum
  nblocks : e.nblocks = e.block.length
  owned : ∀ p < c.maxCachePages, (e.tables.ptr p).isSome = true ↔ e.Owned p
  counts : ∀ p < c.maxCachePages, e.tables.gets p = e.tables.frees p + if (e.tables.ptr p).isSome then 1 else 0

theorem Inv.sampleMemory (inv : Inv c cleared e) (owns : ∀ p < c.maxCachePages, Owns e p) : SampleMemory c e :=
  ⟨inv.blocks.stacked.pairwise, fun b inside => ⟨inv.blocks.sized b inside, (inv.blocks.stacked.mem inside).2⟩,
    inv.blocks.used, inv.blocks.nblocks, fun p small => (owns p small).ptr, fun p small => (owns p small).balanced⟩

theorem Unchanged.leftAlone (unchanged : Unchanged e e') (owns : ∀ p < c.maxCachePages, Owns e p) : LeftAlone c e e' := by
  refine ⟨unchanged.blocks.block, fun b inside => ?_, fun p small => by rw [unchanged.ptr p (owns p small)]⟩
  obtain ⟨page, lock, same⟩ := unchanged.blocks.fields b inside
  rw [same]
  exact ⟨rfl, rfl⟩

theorem run_inv {ops : List MemOp} (inv : Inv c cleared e)
    (proper : Throughout (Emu10k1.exec c) (fun e op _ => Proper e op) e ops) :
    Effect c cleared e (ops.foldl (Emu10k1.exec c) e) := by
  induction ops generalizing e with
  | nil => exact Effect.refl inv
  | cons op rest ih =>
    have step := (inv.exec op proper.1).1
    exact step.trans (ih step.inv proper.2)

/-- In every run of the clients' calls, the mapped blocks are apart, in order and shown in the PTB, all but the reserved
    page of the driver, and a locked block stays where it is mapped until it is freed. -/
theorem page_table (c : Emu10k1Card) (boot : Boot) (ops : List MemOp)
    (proper : Throughout (Emu10k1.exec c) (fun e op _ => Proper e op) (boot.created c) ops) :
    PageTable c (boot.created c).reserved (ops.foldl (Emu10k1.exec c) (boot.created c)) ∧
      Throughout (Emu10k1.exec c) (fun e op e' => ∀ x ∈ e.mapped, (e.blk x).mapLocked ≠ 0 → ¬ op.Frees x →
        x ∈ e'.mapped ∧ (e'.blk x).mappedPage = (e.blk x).mappedPage) (boot.created c) ops := by
  have start := (boot.created_inv c).1
  have final := run_inv start proper
  refine ⟨final.reserved ▸ final.inv.pageTable, ?_⟩
  apply Throughout.steps (Inv c True) start proper
  intro e op inv allowed
  obtain ⟨effect, locked, -⟩ := inv.exec op allowed
  exact ⟨locked, effect.inv⟩

def smallCard : Emu10k1Card := ⟨0, 8, 0xffffffff, 0x1000, 2⟩

/-- Page `p` gets the page frame `p + 2`. -/
def smallBoot : Boot where
  blk := fun _ => ⟨0, 0, 0, 0, 0, -1, 0, false⟩
  ptb := fun _ => 0
  addr := fun _ => 0
  ptr := fun _ => none
  kmalloc := some 0
  tries := fun p => (some (UInt64.ofNat (p + 2)), none)

def smallRun : List MemOp :=
  [.allocPages 8192 1024 2048 (some 1) fun ofs => UInt64.ofNat (0x10000 + ofs), .synthAlloc 100 (some 2) smallBoot.tries,
    .lock 2, .memblkMap 2, .freePages 1]

theorem page_table_small :
    PageTable smallCard (smallBoot.created smallCard).reserved
        (smallRun.foldl (Emu10k1.exec smallCard) (smallBoot.created smallCard)) ∧
      Throughout (Emu10k1.exec smallCard) (fun e op e' => ∀ x ∈ e.mapped, (e.blk x).mapLocked ≠ 0 → ¬ op.Frees x →
        x ∈ e'.mapped ∧ (e'.blk x).mappedPage = (e.blk x).mappedPage) (smallBoot.created smallCard) smallRun :=
  page_table smallCard smallBoot smallRun (by decide +kernel)

/-- The reserved page is mapped, and its entry in the PTB is the silent page. -/
theorem reserved_silent : ¬ ∀ (c : Emu10k1Card) (boot : Boot) (ops : List MemOp),
    Throughout (Emu10k1.exec c) (fun e op _ => Proper e op) (boot.created c) ops →
      PageTable c none (ops.foldl (Emu10k1.exec c) (boot.created c)) := by
  intro all
  have shown := (all smallCard smallBoot [] trivial).shows 0 (by decide +kernel) (by decide) 0 (by decide +kernel) 0 (by decide)
  exact absurd shown (by decide +kernel)

/-- Every run keeps the block list and the owned pages; a call that returns a null pointer leaves them alone just when
    it has not come to an invalid address of a PCM buffer. -/
theorem sample_memory (c : Emu10k1Card) (boot : Boot)
    (null : ∀ p < c.maxCachePages, boot.ptr p ≠ none → (boot.created c).Owned p) (ops : List MemOp)
    (proper : Throughout (Emu10k1.exec c) (fun e op _ => Proper e op) (boot.created c) ops) :
    SampleMemory c (ops.foldl (Emu10k1.exec c) (boot.created c)) ∧
      Throughout (Emu10k1.exec c) (fun e op e' => ((Fails c e op → LeftAlone c e e') ↔ Valid c e op) ∧
        (¬ Fails c e op → ∀ p < c.maxCachePages, Once e e' p)) (boot.created c) ops := by
  obtain ⟨start, owns⟩ := boot.created_inv c
  have final := run_inv start proper
  have held (p : Nat) (small : p < c.maxCachePages) : Owns (boot.created c) p := owns p (null p small)
  refine ⟨final.inv.sampleMemory fun p small => final.owns p (held p small), ?_⟩
  apply Throughout.steps (fun e => Inv c True e ∧ ∀ p < c.maxCachePages, Owns e p) ⟨start, held⟩ proper
  rintro e op ⟨inv, held⟩ allowed
  obtain ⟨effect, -, unchanged, leak, once⟩ := inv.exec op allowed
  refine ⟨⟨⟨fun alone => ?_, fun valid fails => (unchanged valid fails).leftAlone held⟩,
    fun success p small => once success p (held p small)⟩, effect.inv, fun p small => effect.owns p (held p small)⟩
  by_contra invalid
  obtain ⟨fails, changed⟩ := leak invalid
  exact changed (alone fails).block

theorem sample_memory_small :
    SampleMemory smallCard (smallRun.foldl (Emu10k1.exec smallCard) (smallBoot.created smallCard)) ∧
      Throughout (Emu10k1.exec smallCard) (fun e op e' =>
        ((Fails smallCard e op → LeftAlone smallCard e e') ↔ Valid smallCard e op) ∧
          (¬ Fails smallCard e op → ∀ p < smallCard.maxCachePages, Once e e' p)) (smallBoot.created smallCard) smallRun :=
  sample_memory smallCard smallBoot (fun _ _ garbage => absurd rfl garbage) smallRun (by decide +kernel)

/-- A PCM buffer with an address above the DMA mask stays in the block list. -/
theorem invalid_page_leaks : ¬ ∀ (c : Emu10k1Card) (boot : Boot), (∀ p, boot.ptr p = none) → ∀ op,
    Proper (boot.created c) op → Fails c (boot.created c) op →
      LeftAlone c (boot.created c) (Emu10k1.exec c (boot.created c) op) := by
  intro all
  have alone := all smallCard smallBoot (fun _ => rfl) (.allocPages 4096 1024 2048 (some 1) fun _ => 0x100000000)
    (by decide +kernel) (by decide +kernel : (sndEmu10k1AllocPages smallCard (smallBoot.created smallCard) 4096 1024 2048 (some 1)
      fun _ => 0x100000000).1 = none)
  exact absurd alone.block (by decide +kernel)

end Emu10k1

end AlsaDriver.Pci
