import AlsaDriver.Lib.Words
import AlsaDriver.Lib.Runs

namespace AlsaDriver.Info

open Words

abbrev Byte := BitVec 8

def EIO : Int := 5
def ENOMEM : Int := 12
def EFAULT : Int := 14
def EINVAL : Int := 22

def PAGE_SIZE : Nat := 4096

/-- `PAGE_ALIGN` of an `unsigned int`. -/
def pageAlign (n : Nat) : Nat := (n + (PAGE_SIZE - 1)) % 2 ^ 32 / PAGE_SIZE * PAGE_SIZE

/-- What `krealloc` returns for no bytes. -/
def ZERO_SIZE_PTR : Nat := 16

/-- `bytes` are those allocated at `buffer`. -/
structure InfoBuffer where
  buffer : Nat
  bytes : List Byte
  curr : Nat
  size : Nat
  len : Nat
  stop : Bool
  error : Int

namespace InfoBuffer

variable (b : InfoBuffer)

/-- `resize_info_buffer`; `nbuf` is where `krealloc` finds memory, if it does. -/
def resizeInfoBuffer (nsize : Nat) (nbuf : Option Nat) : Option InfoBuffer :=
  let nsize := pageAlign (nsize % 2 ^ 32)
  if nsize = 0 then some { b with buffer := ZERO_SIZE_PTR, bytes := [], len := nsize }
  else nbuf.map fun nbuf =>
    { b with buffer := nbuf, bytes := b.bytes.take nsize ++ List.replicate (nsize - b.bytes.length) 0, len := nsize }

def covers (pos : Nat) (data : List Byte) : Bool := data.length == 0 || decide (pos + data.length ≤ b.bytes.length)

def copyIn (pos : Nat) (data : List Byte) : InfoBuffer :=
  if b.covers pos data then { b with bytes := b.bytes.take pos ++ data ++ b.bytes.drop (pos + data.length) } else b

end InfoBuffer

/-- An open text entry; `overrun` tells that a byte was copied outside of the buffer. -/
structure InfoFile where
  fPos : Int
  wbuffer : Option InfoBuffer
  overrun : Bool

/-- A write at a position, or at that of the file: `readable` are the bytes up to a fault, `nbuf` is for `krealloc`. -/
structure InfoWrite where
  at_ : Option Int
  count : Nat
  readable : List Byte
  nbuf : Option Nat

namespace InfoWrite

variable (w : InfoWrite) (f : InfoFile)

def pos : Int := w.at_.getD f.fPos

/-- The checks at the start of `snd_info_entry_write`, with a `long` of 64 bits. -/
def accepted : Bool :=
  !(decide (w.pos f < 0) || toSigned 64 (w.pos f) != w.pos f || decide (w.count ≥ 2 ^ 63)) &&
    !decide (toUnsigned 64 (w.pos f + w.count) < toUnsigned 64 (w.pos f))

/-- `pos + count`, as it is compared. -/
def next : Nat := toUnsigned 64 (w.pos f + w.count)

def faults : Bool := decide (w.readable.length < w.count)

def data : List Byte := w.readable.take w.count

def target (b : InfoBuffer) : Option InfoBuffer :=
  if w.next f ≥ b.len then b.resizeInfoBuffer (w.next f) w.nbuf else some b

end InfoWrite

namespace InfoFile

variable (f : InfoFile)

/-- The end of `snd_info_entry_write`, behind the resize. -/
def copy (w : InfoWrite) (b : InfoBuffer) : Int × InfoFile :=
  let overrun := f.overrun || !b.covers (w.pos f).toNat w.data
  let b := b.copyIn (w.pos f).toNat w.data
  if w.faults then ( -EFAULT, { f with wbuffer := some b, overrun })
  else
    (w.count,
      { wbuffer := some { b with size := w.next f % 2 ^ 32 }
        overrun
        fPos := if w.count > 0 ∧ w.at_ = none then w.pos f + w.count else f.fPos })

/-- `snd_info_entry_write` of a text entry. -/
def write (w : InfoWrite) : Int × InfoFile :=
  if w.accepted f = false then ( - EIO, f)
  else
    match f.wbuffer with
    | none => ( - EIO, f)
    | some b =>
      match w.target f b with
      | none => ( -ENOMEM, f)
      | some b => f.copy w b

/-- `snd_info_entry_llseek` of a text entry, which has no size. -/
def llseek (offset : Int) (orig : Nat) : Int × InfoFile :=
  if orig = 0 then if offset < 0 then ( -EINVAL, f) else (offset, { f with fPos := offset })
  else if orig = 1 then
    let offset := toSigned 64 (offset + f.fPos)
    if offset < 0 then ( -EINVAL, f) else (offset, { f with fPos := offset })
  else ( -EINVAL, f)

/-- `snd_info_entry_open` of a text entry for writing, with what the memory at `buffer` held. -/
def open_ (buffer : Nat) (held : Fin PAGE_SIZE → Byte) : InfoFile :=
  ⟨0, some ⟨buffer, List.ofFn held, 0, 0, PAGE_SIZE, false, 0⟩, false⟩

end InfoFile

end AlsaDriver.Info

namespace AlsaDriver.Info

open Runs Words

theorem pageAlign_le (n : Nat) : pageAlign n ≤ 2 ^ 32 - PAGE_SIZE := by
  unfold pageAlign PAGE_SIZE
  omega

theorem le_pageAlign {n : Nat} (small : n ≤ 2 ^ 32 - PAGE_SIZE) : n ≤ pageAlign n := by
  unfold pageAlign
  unfold PAGE_SIZE at *
  omega

namespace InfoBuffer

variable {b b' : InfoBuffer} {pos : Nat} {data : List Byte} {nsize : Nat} {nbuf : Option Nat}

@[simp] theorem copyIn_buffer : (b.copyIn pos data).buffer = b.buffer := by
  unfold copyIn
  split <;> rfl

@[simp] theorem copyIn_size : (b.copyIn pos data).size = b.size := by
  unfold copyIn
  split <;> rfl

@[simp] theorem copyIn_len : (b.copyIn pos data).len = b.len := by
  unfold copyIn
  split <;> rfl

theorem covers_iff : b.covers pos data = true ↔ data.length = 0 ∨ pos + data.length ≤ b.bytes.length := by
  simp [covers]

@[simp] theorem copyIn_length : (b.copyIn pos data).bytes.length = b.bytes.length := by
  unfold copyIn
  split
  · rename_i inside
    rcases covers_iff.mp inside with empty | fits
    · rw [List.length_eq_zero_iff.mp empty]
      simp
    · simp only [List.length_append, List.length_take, List.length_drop]
      omega
  · rfl

theorem resize_eq (done : b.resizeInfoBuffer nsize nbuf = some b') :
    b'.len = pageAlign (nsize % 2 ^ 32) ∧ b'.bytes.length = b'.len ∧ b'.size = b.size ∧
      (b'.len ≠ 0 → nbuf = some b'.buffer) := by
  unfold resizeInfoBuffer at done
  dsimp only at done
  split at done
  · rename_i none_
    cases done
    exact ⟨rfl, none_.symm, rfl, fun some_ => absurd none_ some_⟩
  · obtain ⟨p, found, rfl⟩ := Option.map_eq_some_iff.mp done
    refine ⟨rfl, ?_, rfl, fun _ => found⟩
    simp only [List.length_append, List.length_take, List.length_replicate]
    omega

theorem resize_none : b.resizeInfoBuffer nsize nbuf = none ↔ pageAlign (nsize % 2 ^ 32) ≠ 0 ∧ nbuf = none := by
  unfold resizeInfoBuffer
  generalize pageAlign (nsize % 2 ^ 32) = n
  by_cases none_ : n = 0
  · simp [none_]
  · simp [none_]

end InfoBuffer

namespace InfoWrite

variable {w : InfoWrite} {f : InfoFile}

theorem accepted_range (accepted : w.accepted f = true) : 0 ≤ w.pos f ∧ (w.next f : Int) = w.pos f + w.count := by
  unfold InfoWrite.accepted at accepted
  simp only [Bool.and_eq_true, Bool.not_eq_true', Bool.or_eq_false_iff, decide_eq_false_iff_not, bne_eq_false_iff_eq] at accepted
  obtain ⟨⟨⟨positive, long⟩, small⟩, -⟩ := accepted
  have below : w.pos f < 2 ^ 63 := by
    have high := toSigned_high 63 (w.pos f)
    rw [long] at high
    exact high
  exact ⟨by omega, toUnsigned_of_range (by omega) (by omega)⟩

end InfoWrite

namespace InfoFile

variable {w : InfoWrite} {f : InfoFile} {b b' : InfoBuffer}

structure Proper (f : InfoFile) : Prop where
  inside : f.overrun = false
  size : ∀ b, f.wbuffer = some b → b.size ≤ b.len ∧ b.len = b.bytes.length

def fields (f : InfoFile) : Option (Nat × Nat × Nat) := f.wbuffer.map fun b => (b.buffer, b.size, b.len)

/-- What a write that returns `ret` may do. -/
structure Wrote (f : InfoFile) (w : InfoWrite) (ret : Int) (f' : InfoFile) : Prop where
  proper : f'.Proper
  stored : 0 ≤ ret → ∀ b, f'.wbuffer = some b → w.pos f + w.count ≤ b.len
  failed : ret < 0 → f'.fields = f.fields

/-- A write that has to resize the buffer, and gets the memory for it, reaches no further than an `unsigned int` can be
    aligned; one that faults behind the resize got the buffer that it had. -/
def ResizeFits (f : InfoFile) (w : InfoWrite) (b : InfoBuffer) : Prop :=
  let nsize := pageAlign (w.next f % 2 ^ 32)
  b.len ≤ w.next f → nsize = 0 ∨ w.nbuf ≠ none →
    if w.faults then
      w.nbuf = some b.buffer ∧ nsize = b.len ∧ (w.data.length = 0 ∨ (w.pos f).toNat + w.data.length ≤ b.len)
    else w.next f ≤ 2 ^ 32 - PAGE_SIZE

theorem copy_wrote_iff (accepted : w.accepted f = true) (proper : f.Proper) (whole : b.bytes.length = b.len)
    (aligned : b.len ≤ 2 ^ 32 - PAGE_SIZE) : f.Wrote w (f.copy w b).1 (f.copy w b).2 ↔
      if w.faults then b.covers (w.pos f).toNat w.data = true ∧ some (b.buffer, b.size, b.len) = f.fields
      else w.next f ≤ b.len := by
  obtain ⟨positive, sum⟩ := w.accepted_range accepted
  have inside := proper.inside
  unfold copy
  by_cases faults : w.faults = true
  · rw [if_pos faults, if_pos faults]
    constructor
    · intro wrote
      refine ⟨by simpa [inside] using wrote.proper.inside, ?_⟩
      have same := wrote.failed (by show (-EFAULT : Int) < 0; decide)
      simpa [fields] using same
    · rintro ⟨covers, same⟩
      have size : b.size ≤ b.len := by
        obtain ⟨old, found, fields⟩ := Option.map_eq_some_iff.mp same.symm
        have fits := (proper.size old found).1
        simp only [Prod.mk.injEq] at fields
        omega
      refine ⟨⟨by simp [inside, covers], ?_⟩, fun ok => absurd ok (by show ¬ (0 : Int) ≤ -EFAULT; decide), fun _ => by simpa [fields] using same⟩
      intro b' found
      obtain rfl := Option.some.inj found
      simp [size, whole]
  · rw [if_neg faults, if_neg faults]
    have length : w.data.length = w.count := by
      have enough : w.count ≤ w.readable.length := by simpa [InfoWrite.faults] using faults
      simp [InfoWrite.data, enough]
    constructor
    · intro wrote
      have room := wrote.stored (Int.natCast_nonneg _) _ rfl
      simp only [InfoBuffer.copyIn_len] at room
      omega
    · intro room
      have covers : b.covers (w.pos f).toNat w.data = true := InfoBuffer.covers_iff.mpr (Or.inr (by omega))
      have small : w.next f % 2 ^ 32 = w.next f := Nat.mod_eq_of_lt (by unfold PAGE_SIZE at aligned; omega)
      refine ⟨⟨by simp [inside, covers], ?_⟩, fun _ => ?_, fun wrong => absurd wrong (Int.not_lt.mpr (Int.natCast_nonneg _))⟩
      · intro b' found
        obtain rfl := Option.some.inj found
        constructor
        · rw [InfoBuffer.copyIn_len, small]
          exact room
        · rw [InfoBuffer.copyIn_len, InfoBuffer.copyIn_length, whole]
      · intro b' found
        obtain rfl := Option.some.inj found
        simp only [InfoBuffer.copyIn_len]
        omega

structure Inv (f : InfoFile) : Prop extends Proper f where
  len : ∀ b, f.wbuffer = some b → 0 < b.len ∧ b.len ≤ 2 ^ 32 - PAGE_SIZE

theorem write_wrote_iff (inv : f.Inv) : f.Wrote w (f.write w).1 (f.write w).2 ↔
    (w.accepted f = true → ∀ b, f.wbuffer = some b → f.ResizeFits w b) := by
  have refused (err : Int) (negative : err < 0) : f.Wrote w err f :=
    ⟨inv.toProper, fun ok => absurd negative (Int.not_lt.mpr ok), fun _ => rfl⟩
  unfold write
  by_cases accepted : w.accepted f = false
  · rw [if_pos accepted]
    exact iff_of_true (refused ( - EIO) (by decide)) fun wrong => absurd (accepted.symm.trans wrong) (by decide)
  rw [if_neg accepted]
  have accepted : w.accepted f = true := by simpa using accepted
  cases found : f.wbuffer with
  | none => exact iff_of_true (refused ( - EIO) (by decide)) fun _ b wrong => by cases wrong
  | some b =>
    obtain ⟨size, whole⟩ := inv.size b found
    obtain ⟨some_, aligned⟩ := inv.len b found
    have only : (w.accepted f = true → ∀ b', some b = some b' → f.ResizeFits w b') ↔ f.ResizeFits w b :=
      ⟨fun all => all accepted b rfl, fun fits _ b' same => Option.some.inj same ▸ fits⟩
    rw [only]
    dsimp only
    unfold InfoWrite.target
    unfold ResizeFits
    by_cases enlarge : b.len ≤ w.next f
    · rw [if_pos enlarge]
      cases target : b.resizeInfoBuffer (w.next f) w.nbuf with
      | none =>
        obtain ⟨nonzero, failed⟩ := InfoBuffer.resize_none.mp target
        exact iff_of_true (refused (-ENOMEM) (by decide)) fun _ got => absurd got (not_or.mpr ⟨nonzero, not_not.mpr failed⟩)
      | some b' =>
        obtain ⟨nsize, whole', size', pointer⟩ := InfoBuffer.resize_eq target
        have got : pageAlign (w.next f % 2 ^ 32) = 0 ∨ w.nbuf ≠ none := by
          by_contra none_
          obtain ⟨nonzero, failed⟩ := not_or.mp none_
          have stuck : b.resizeInfoBuffer (w.next f) w.nbuf = none := InfoBuffer.resize_none.mpr ⟨nonzero, not_not.mp failed⟩
          exact absurd (target.symm.trans stuck) (Option.some_ne_none b')
        have aligned' : b'.len ≤ 2 ^ 32 - PAGE_SIZE := nsize ▸ pageAlign_le _
        simp only [enlarge, got, true_imp_iff]
        rw [copy_wrote_iff accepted inv.toProper whole' aligned', ← nsize]
        by_cases faults : w.faults = true
        · rw [if_pos faults, if_pos faults, InfoBuffer.covers_iff, whole', fields, found, Option.map_some, size']
          constructor
          · rintro ⟨covers, same⟩
            simp only [Option.some.injEq, Prod.mk.injEq] at same
            exact ⟨same.1 ▸ pointer (by omega), same.2.2, same.2.2 ▸ covers⟩
          · rintro ⟨pointer', same, covers⟩
            have buffer : b'.buffer = b.buffer := Option.some.inj ((pointer (by omega)).symm.trans pointer')
            exact ⟨same ▸ covers, by rw [buffer, same]⟩
        · rw [if_neg faults, if_neg faults]
          constructor
          · exact fun room => room.trans aligned'
          · intro small
            rw [nsize, Nat.mod_eq_of_lt (by unfold PAGE_SIZE at small; omega)]
            exact le_pageAlign small
    · rw [if_neg enlarge]
      have short : w.data.length ≤ w.count := by simp [InfoWrite.data]
      obtain ⟨positive, sum⟩ := w.accepted_range accepted
      refine iff_of_true ((copy_wrote_iff accepted inv.toProper whole.symm aligned).mpr ?_) fun wrong => absurd wrong enlarge
      split
      · refine ⟨InfoBuffer.covers_iff.mpr (Or.inr (by omega)), ?_⟩
        rw [fields, found, Option.map_some]
      · omega

theorem Inv.write (inv : f.Inv) (wrote : f.Wrote w (f.write w).1 (f.write w).2) : (f.write w).2.Inv := by
  refine ⟨wrote.proper, ?_⟩
  have fits := (write_wrote_iff inv).mp wrote
  intro b' found'
  unfold InfoFile.write at found'
  split at found'
  · exact inv.len b' found'
  rename_i accepted
  split at found'
  · exact inv.len b' found'
  rename_i b found
  split at found'
  · exact inv.len b' found'
  rename_i target done
  have len : b'.len = target.len := by
    unfold copy at found'
    split at found'
    · obtain rfl := Option.some.inj found'
      exact InfoBuffer.copyIn_len
    · obtain rfl := Option.some.inj found'
      exact InfoBuffer.copyIn_len
  rw [len]
  obtain ⟨some_, aligned⟩ := inv.len b found
  unfold InfoWrite.target at done
  split at done
  · rename_i enlarge
    obtain ⟨nsize, whole', size', pointer⟩ := InfoBuffer.resize_eq done
    refine ⟨?_, nsize ▸ pageAlign_le _⟩
    have fits : f.ResizeFits w b := fits (by simpa using accepted) b found
    by_contra none_
    have got : pageAlign (w.next f % 2 ^ 32) = 0 ∨ w.nbuf ≠ none := Or.inl (by omega)
    have room := fits enlarge got
    split at room
    · omega
    · rw [Nat.mod_eq_of_lt (by unfold PAGE_SIZE at room; omega)] at nsize
      have enough := le_pageAlign room
      omega
  · obtain rfl := Option.some.inj done
    exact ⟨some_, aligned⟩

inductive InfoOp where
  | llseek (offset : Int) (orig : Nat)
  | write (w : InfoWrite)

def exec (f : InfoFile) : InfoOp → InfoFile
  | .llseek offset orig => (f.llseek offset orig).2
  | .write w => (f.write w).2

def Safe (f : InfoFile) : InfoOp → InfoFile → Prop
  | .llseek _ _, f' => f'.Proper ∧ f'.fields = f.fields
  | .write w, f' => f.Wrote w (f.write w).1 f'

def Fits (f : InfoFile) : InfoOp → Prop
  | .llseek _ _ => True
  | .write w => w.accepted f = true → ∀ b, f.wbuffer = some b → f.ResizeFits w b

theorem llseek_wbuffer (offset : Int) (orig : Nat) :
    (f.llseek offset orig).2.wbuffer = f.wbuffer ∧ (f.llseek offset orig).2.overrun = f.overrun := by
  unfold llseek
  dsimp only
  repeat' split
  all_goals exact ⟨rfl, rfl⟩

theorem Inv.llseek (inv : f.Inv) (offset : Int) (orig : Nat) : (f.llseek offset orig).2.Inv := by
  obtain ⟨same, inside⟩ := llseek_wbuffer (f := f) offset orig
  exact ⟨⟨inside.trans inv.inside, fun b found => inv.size b (same ▸ found)⟩, fun b found => inv.len b (same ▸ found)⟩

theorem inv_open (buffer : Nat) (held : Fin PAGE_SIZE → Byte) : (open_ buffer held).Inv := by
  have fresh : ∀ b, (open_ buffer held).wbuffer = some b → b.size = 0 ∧ b.len = PAGE_SIZE ∧ b.bytes.length = PAGE_SIZE := by
    intro b found
    unfold open_ at found
    simp only [Option.some.injEq] at found
    subst found
    simp
  refine ⟨⟨rfl, fun b found => ?_⟩, fun b found => ?_⟩
  · obtain ⟨size, len, whole⟩ := fresh b found
    omega
  · obtain ⟨size, len, whole⟩ := fresh b found
    rw [len]
    unfold PAGE_SIZE
    omega

theorem input_inside_iff (buffer : Nat) (held : Fin PAGE_SIZE → Byte) (ops : List InfoOp) :
    Throughout exec Safe (open_ buffer held) ops ↔ Throughout exec (fun f op _ => f.Fits op) (open_ buffer held) ops := by
  have all : Throughout exec (fun _ _ _ => True) (open_ buffer held) ops := Throughout.of_mem fun _ _ _ => trivial
  refine throughout_iff Inv Safe Fits ?_ ?_ (inv_open buffer held) all
  · intro f op inv _
    cases op with
    | llseek offset orig =>
      obtain ⟨same, -⟩ := llseek_wbuffer (f := f) offset orig
      exact iff_of_true ⟨(inv.llseek offset orig).toProper, congrArg (Option.map _) same⟩ trivial
    | write w => exact write_wrote_iff inv
  · intro f op inv _ fits
    cases op with
    | llseek offset orig => exact inv.llseek offset orig
    | write w => exact inv.write ((write_wrote_iff inv).mpr fits)

/-- The sum of position and count keeps its low 32 bits only: the bytes go far behind a buffer of one page. -/
theorem input_leaves_buffer : ¬ ∀ (buffer : Nat) (held : Fin PAGE_SIZE → Byte) (ops : List InfoOp),
    Throughout exec Safe (open_ buffer held) ops := by
  intro all
  have run := all 0 (fun _ => 0) [.llseek (2 ^ 32) 0, .write ⟨none, 1, [0x41], some 0⟩]
  have fits := (write_wrote_iff ((inv_open 0 fun _ => 0).llseek (2 ^ 32) 0)).mp run.2.1 (by decide) _ rfl
  have far : 2 ^ 32 + 1 ≤ 2 ^ 32 - PAGE_SIZE := fits (by decide) (Or.inr (by decide))
  exact absurd far (by decide)

end InfoFile

end AlsaDriver.Info
