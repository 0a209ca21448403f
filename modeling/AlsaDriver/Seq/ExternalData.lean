import AlsaDriver.Seq.Fifo
import AlsaDriver.Seq.Ports
import AlsaDriver.Seq.VarEvent

namespace AlsaDriver.Seq

open Chains Function

/-- A `snd_seq_dump_func_t` with its private data. -/
abbrev DumpFunc (P : Type) := List Byte → P → Int × P

namespace DumpFunc

variable {P : Type} (func : DumpFunc P)

def run : List (List Byte) → P → Int × P
  | [], p => (0, p)
  | piece :: rest, p =>
    let (err, p) := func piece p
    if err < 0 then (err, p) else run rest p

end DumpFunc

def SndSeqExt.isUser : SndSeqExt → Bool
  | user _ _ => true
  | kernel _ _ | chained _ _ => false

def SndSeqEvent.getVarLen (ev : SndSeqEvent) : Int := if ev.isVariable then ev.data.ext.len else -EINVAL

def seqCopyInKernel : DumpFunc (List Byte) := fun src buf => (0, buf ++ src)

/-- `seq_copy_in_user`, which faults or not by what it has copied. -/
def seqCopyInUser (fault : Nat → Bool) : DumpFunc (List Byte) := fun src buf =>
  if fault buf.length then (-EFAULT, buf) else (0, buf ++ src)

namespace SeqMemory

variable {P : Type} (m : SeqMemory)

def dumpUser (func : DumpFunc P) (fault : Nat → Bool) : Nat → Nat → List Byte → P → Int × P
  | 0, _, _, p => (0, p)
  | _, 0, _, p => (0, p)
  | fuel + 1, len, curptr, p =>
    let size := if len < 32 then len else 32
    if fault len then (-EFAULT, p)
    else
      let (err, p) := func (curptr.take size) p
      if err < 0 then (err, p) else dumpUser func fault fuel (len - size) (curptr.drop size) p

def dumpCells (func : DumpFunc P) : Nat → Nat → Option SeqCell → P → Int × P
  | 0, _, _, p => (0, p)
  | _, 0, _, p => (0, p)
  | _, _, none, p => (0, p)
  | fuel + 1, len, some cell, p =>
    let size := chunkSize len
    let (err, p) := func ((m.chunk cell).take size) p
    if err < 0 then (err, p) else dumpCells func fuel (len - size) (m.next cell) p

def sndSeqDumpVarEvent (fault : Nat → Bool) (ev : SndSeqEvent) (func : DumpFunc P) (p : P) : Int × P :=
  if ev.getVarLen ≤ 0 then (ev.getVarLen, p)
  else
    match ev.data.ext with
    | .user len buf => dumpUser func fault len len buf p
    | .kernel len buf => func (buf.take len) p
    | .chained len ptr => m.dumpCells func len len ptr p

/-- `roundup` to an alignment, if there is one. -/
def alignedLen (len sizeAligned : Int) : Int :=
  if 0 < sizeAligned then (len + (sizeAligned - 1)) / sizeAligned * sizeAligned else len

/-- `snd_seq_expand_var_event` into a buffer, with what it leaves there. `source` and `target` are the faults
    of user memory. -/
def sndSeqExpandVarEventInto (source target : Nat → Bool) (ev : SndSeqEvent) (count : Int) (inKernel : Bool)
    (sizeAligned : Int) : Int × List Byte :=
  let len := ev.getVarLen
  if len < 0 then (len, [])
  else
    let newlen := alignedLen len sizeAligned
    if count < newlen then (-EAGAIN, [])
    else
      match ev.data.ext with
      | .user len buf =>
        if inKernel = false then (-EINVAL, [])
        else if source len then (-EFAULT, [])
        else (newlen, buf.take len)
      | _ =>
        let (err, buf) := m.sndSeqDumpVarEvent source ev (if inKernel then seqCopyInKernel else seqCopyInUser target) []
        (if err < 0 then err else newlen, buf)

/-- `snd_seq_cell_alloc`; a call that waits, with nobody else at the pool, is ended by a signal. -/
def sndSeqCellAllocWait (nonblock : Bool) (id : Nat) : Except Int (SeqCell × SeqMemory) :=
  let pool := m.pool id
  if pool.allocated ∧ pool.free = none ∧ nonblock = false ∧ pool.closing = false then .error (-ERESTARTSYS)
  else m.sndSeqCellAlloc id

/-- The loop of `snd_seq_event_dup`; a copy from user memory faults or not by the bytes that are left. -/
def dupLoopWait (nonblock : Bool) (fault : Nat → Bool) (id : Nat) (cell : SeqCell) :
    Nat → Nat → SndSeqExt → Option SeqCell → SeqMemory → Except Int SeqCell × SeqMemory
  | 0, _, _, _, m => (.ok cell, m)
  | ncells + 1, len, src, tail, m =>
    let size := chunkSize len
    match m.sndSeqCellAllocWait nonblock id with
    | .error err => (.error err, m.sndSeqCellFree cell)
    | .ok (tmp, m) =>
      let m := m.linkChunk cell tail tmp
      if src.isUser && fault len then (.error (-EFAULT), m.sndSeqCellFree cell)
      else
        let (bytes, src) := m.sourceChunk size src
        dupLoopWait nonblock fault id cell ncells (len - size) src (some tmp) (m.setChunk tmp bytes)

/-- `snd_seq_event_dup` with its waits and its faults. -/
def sndSeqEventDupWait (nonblock : Bool) (fault : Nat → Bool) (id : Nat) (ev : SndSeqEvent) :
    Except Int SeqCell × SeqMemory :=
  if (m.pool id).totalElements ≤ dupCells ev then (.error (-ENOMEM), m)
  else
    match m.sndSeqCellAllocWait nonblock id with
    | .error err => (.error err, m)
    | .ok (cell, m) =>
      if ev.isVariable then
        let extlen := ev.data.ext.len
        dupLoopWait nonblock fault id cell (dupCells ev) extlen ev.data.ext none
          (m.setEvent cell (copyOf ev extlen none))
      else (.ok cell, m.setEvent cell ev)

theorem allocWait_nonblock (id : Nat) : m.sndSeqCellAllocWait true id = m.sndSeqCellAlloc id :=
  if_neg fun waits => Bool.noConfusion waits.2.2.1

theorem dupLoopWait_nonblock (id : Nat) (cell : SeqCell) (ncells len : Nat) (src : SndSeqExt) (tail : Option SeqCell) :
    dupLoopWait true (fun _ => false) id cell ncells len src tail m = dupLoop id cell ncells len src tail m := by
  induction ncells generalizing m len src tail with
  | zero => rfl
  | succ ncells ih =>
    rw [dupLoopWait, dupLoop, allocWait_nonblock]
    cases m.sndSeqCellAlloc id with
    | error err => rfl
    | ok result =>
      dsimp only
      rw [Bool.and_false, if_neg Bool.false_ne_true, ih]

theorem sndSeqEventDupWait_nonblock (id : Nat) (ev : SndSeqEvent) :
    m.sndSeqEventDupWait true (fun _ => false) id ev = m.sndSeqEventDup id ev := by
  rw [sndSeqEventDupWait, sndSeqEventDup, allocWait_nonblock]
  by_cases few : (m.pool id).totalElements ≤ dupCells ev
  · rw [if_pos few, if_pos few]
  · rw [if_neg few, if_neg few]
    cases m.sndSeqCellAlloc id with
    | error err => rfl
    | ok result =>
      dsimp only
      rw [dupLoopWait_nonblock]

/-- Its readers get the bytes from the event: a callback is called with pieces that make them up, and a
    buffer that is large enough is filled with them. -/
structure Reproduces (m : SeqMemory) (ev : SndSeqEvent) (bytes : List Byte) : Prop where
  dump : ∃ pieces, pieces.flatten = bytes ∧ ∀ (P : Type) (fault : Nat → Bool) (func : DumpFunc P) (p : P),
    m.sndSeqDumpVarEvent fault ev func p = func.run pieces p
  expand : ∀ source count inKernel sizeAligned, alignedLen ev.getVarLen sizeAligned ≤ count →
    m.sndSeqExpandVarEventInto source (fun _ => false) ev count inKernel sizeAligned =
      (alignedLen ev.getVarLen sizeAligned, bytes)

end SeqMemory

theorem seqCopyInUser_eq : seqCopyInUser (fun _ => false) = seqCopyInKernel := rfl

namespace SeqMemory

variable {m : SeqMemory} {P : Type} {ev : SndSeqEvent} {ptr : Option SeqCell} {l : List SeqCell} {len : Nat}

def cellPieces (m : SeqMemory) : Nat → List SeqCell → List (List Byte)
  | 0, _ => []
  | _, [] => []
  | len + 1, cell :: rest => (m.chunk cell).take (chunkSize (len + 1)) :: cellPieces m (len + 1 - chunkSize (len + 1)) rest

theorem cellPieces_zero (l : List SeqCell) : m.cellPieces 0 l = [] := by
  rw [cellPieces]

theorem cellPieces_flatten (len : Nat) (l : List SeqCell) :
    (m.cellPieces len l).flatten = joinBlocks len (l.map m.chunk) := by
  induction l generalizing len with
  | nil => cases len <;> rfl
  | cons c rest ih =>
    cases len with
    | zero => exact (joinBlocks_zero _).symm
    | succ len => rw [cellPieces, List.flatten_cons, ih, List.map_cons, joinBlocks]

theorem dumpCells_eq (func : DumpFunc P) {fuel : Nat} (chain : Chain m.next ptr l) (enough : len ≤ fuel) (p : P) :
    m.dumpCells func fuel len ptr p = func.run (m.cellPieces len l) p := by
  induction fuel generalizing len ptr l p with
  | zero =>
    obtain rfl := Nat.le_zero.mp enough
    rw [dumpCells, cellPieces_zero, DumpFunc.run]
  | succ fuel ih =>
    cases len with
    | zero =>
      rw [dumpCells, cellPieces_zero, DumpFunc.run]
      exact Nat.succ_ne_zero fuel
    | succ len =>
      cases l with
      | nil =>
        obtain rfl : ptr = none := chain
        rfl
      | cons c rest =>
        obtain ⟨rfl, later⟩ := chain
        have some_ : 0 < chunkSize (len + 1) := chunkSize_pos (Nat.succ_pos len)
        rw [dumpCells, cellPieces, DumpFunc.run]
        · dsimp only
          rw [ih later (by omega)]
        · exact Nat.succ_ne_zero len

theorem dumpCells_collect (fuel len : Nat) (ptr : Option SeqCell) (buf : List Byte) :
    m.dumpCells seqCopyInKernel fuel len ptr buf = (0, buf ++ m.dumpChain fuel len ptr) := by
  induction fuel generalizing len ptr buf with
  | zero => rw [dumpCells, dumpChain, List.append_nil]
  | succ fuel ih =>
    cases len with
    | zero =>
      rw [dumpCells, dumpChain, List.append_nil]
      · exact Nat.succ_ne_zero fuel
      · exact Nat.succ_ne_zero fuel
    | succ len =>
      cases ptr with
      | none => simp [dumpCells, dumpChain]
      | some cell =>
        show m.dumpCells seqCopyInKernel fuel _ (m.next cell) (buf ++ _) = _
        rw [ih, List.append_assoc]
        rfl

theorem getVarLen_variable (variable_ : ev.isVariable = true) : ev.getVarLen = ev.data.ext.len := if_pos variable_

theorem dump_collect (variable_ : ev.isVariable = true) (inside : ev.data.ext.isUser = false) (fault : Nat → Bool) :
    m.sndSeqDumpVarEvent fault ev seqCopyInKernel [] = (0, m.expandVarEvent ev.data.ext) := by
  rw [sndSeqDumpVarEvent, getVarLen_variable variable_]
  cases ext : ev.data.ext with
  | user len buf =>
    rw [ext] at inside
    cases inside
  | kernel len buf =>
    by_cases none_ : (len : Int) ≤ 0
    · obtain rfl : len = 0 := by omega
      rfl
    · exact if_neg none_
  | chained len ptr =>
    by_cases none_ : (len : Int) ≤ 0
    · obtain rfl : len = 0 := by omega
      rfl
    · exact (if_neg none_).trans (dumpCells_collect ..)

theorem expandInto_enough (variable_ : ev.isVariable = true) (inside : ev.data.ext.isUser = false)
    (source : Nat → Bool) {count : Int} (inKernel : Bool) {sizeAligned : Int}
    (enough : alignedLen ev.getVarLen sizeAligned ≤ count) :
    m.sndSeqExpandVarEventInto source (fun _ => false) ev count inKernel sizeAligned =
      (alignedLen ev.getVarLen sizeAligned, m.expandVarEvent ev.data.ext) := by
  have length := getVarLen_variable variable_
  have copied : m.sndSeqDumpVarEvent source ev (if inKernel then seqCopyInKernel else seqCopyInUser fun _ => false) [] =
      (0, m.expandVarEvent ev.data.ext) := by
    rw [seqCopyInUser_eq, ite_self, dump_collect variable_ inside]
  rw [sndSeqExpandVarEventInto]
  dsimp only
  rw [if_neg (by omega), if_neg (Int.not_lt.mpr enough), copied]
  cases ext : ev.data.ext with
  | user len buf =>
    rw [ext] at inside
    cases inside
  | kernel len buf => rfl
  | chained len ptr => rfl

theorem dump_chained (variable_ : ev.isVariable = true) (ext : ev.data.ext = .chained len ptr)
    (chain : Chain m.next ptr l) (fault : Nat → Bool) (func : DumpFunc P) (p : P) :
    m.sndSeqDumpVarEvent fault ev func p = func.run (m.cellPieces len l) p := by
  have length : ev.getVarLen = len := by
    rw [SndSeqEvent.getVarLen, if_pos variable_, ext]
    rfl
  rw [sndSeqDumpVarEvent, length, ext]
  dsimp only
  split
  · rename_i none_
    obtain rfl : len = 0 := by omega
    rw [cellPieces_zero, DumpFunc.run]
    rfl
  · exact dumpCells_eq func chain (Nat.le_refl _) p

theorem reproduces_chained (variable_ : ev.isVariable = true) (ext : ev.data.ext = .chained len ptr)
    (chain : Chain m.next ptr l) : m.Reproduces ev (m.expandVarEvent ev.data.ext) := by
  have bytes : (m.cellPieces len l).flatten = m.expandVarEvent ev.data.ext := by
    rw [cellPieces_flatten, ext]
    exact (dumpChain_eq chain (Nat.le_refl len)).symm
  have inside : ev.data.ext.isUser = false := by
    rw [ext]
    rfl
  exact ⟨⟨_, bytes, fun _ => dump_chained variable_ ext chain⟩,
    fun source _ inKernel _ enough => expandInto_enough variable_ inside source inKernel enough⟩

end SeqMemory

end AlsaDriver.Seq
