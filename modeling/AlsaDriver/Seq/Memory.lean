import Mathlib.Logic.Function.Basic
import AlsaDriver.Seq.Event

namespace AlsaDriver.Seq

open Function

def EINVAL : Int := 22
def EAGAIN : Int := 11
def ENOMEM : Int := 12

/-- The size of `struct snd_seq_event`. -/
def SIZEOF_SND_SEQ_EVENT : Nat := 28

/-- The part of `len` bytes that fits into one cell. -/
def chunkSize (len : Nat) : Nat := if len < SIZEOF_SND_SEQ_EVENT then len else SIZEOF_SND_SEQ_EVENT

structure SndSeqPool where
  free : Option SeqCell
  allocated : Bool
  totalElements : Nat
  counter : Nat
  size : Nat
  closing : Bool
  deriving DecidableEq

structure SeqMemory where
  next : SeqCell → Option SeqCell
  event : SeqCell → SndSeqEvent
  chunk : SeqCell → List Byte
  pool : Nat → SndSeqPool

namespace SeqMemory

variable (m : SeqMemory)

def setNext (cell : SeqCell) (link : Option SeqCell) : SeqMemory := { m with next := update m.next cell link }

def setEvent (cell : SeqCell) (ev : SndSeqEvent) : SeqMemory := { m with event := update m.event cell ev }

def setChunk (cell : SeqCell) (bytes : List Byte) : SeqMemory := { m with chunk := update m.chunk cell bytes }

def setPool (id : Nat) (pool : SndSeqPool) : SeqMemory := { m with pool := update m.pool id pool }

def sndSeqPoolNew (size : Nat) : SndSeqPool := ⟨none, false, 0, 0, size, false⟩

/-- The loop of `snd_seq_pool_init`. -/
def addFreeCell (id : Nat) (m : SeqMemory) (cell : Nat) : SeqMemory :=
  (m.setNext ⟨id, cell⟩ (m.pool id).free).setPool id { m.pool id with free := some ⟨id, cell⟩ }

/-- `snd_seq_pool_init` of a pool that has no memory yet. -/
def sndSeqPoolInit (id : Nat) : SeqMemory :=
  let size := (m.pool id).size
  let filled := (List.range size).foldl (addFreeCell id) (m.setPool id { m.pool id with allocated := true, free := none })
  filled.setPool id { filled.pool id with totalElements := size }

def freeCell (id : Nat) (cell : SeqCell) : SeqMemory :=
  let pool := m.pool id
  (m.setNext cell pool.free).setPool id { pool with free := some cell, counter := pool.counter - 1 }

/-- The loop of `snd_seq_cell_free` over the chained cells; no chain is longer than its pool. -/
def freeChain (id : Nat) : Nat → Option SeqCell → SeqMemory → SeqMemory
  | _, none, m => m
  | 0, some _, m => m
  | fuel + 1, some curp, m => freeChain id fuel (m.next curp) (m.freeCell id curp)

def sndSeqCellFree (cell : SeqCell) : SeqMemory :=
  let ev := m.event cell
  let freed := m.freeCell cell.pool cell
  if ev.isVariable then
    match ev.data.ext with
    | .chained _ ptr => freeChain cell.pool (m.pool cell.pool).totalElements ptr freed
    | _ => freed
  else freed

/-- `snd_seq_cell_alloc` where it does not sleep. -/
def sndSeqCellAlloc (id : Nat) : Except Int (SeqCell × SeqMemory) :=
  let pool := m.pool id
  if ¬ pool.allocated then .error (-EINVAL)
  else if pool.closing then .error (-ENOMEM)
  else
    match pool.free with
    | none => .error (-EAGAIN)
    | some cell =>
      .ok (cell, (m.setPool id { pool with free := m.next cell, counter := pool.counter + 1 }).setNext cell none)

def sourceChunk (size : Nat) : SndSeqExt → List Byte × SndSeqExt
  | .kernel len buf => (buf.take size, .kernel len (buf.drop size))
  | .user len buf => (buf.take size, .user len (buf.drop size))
  | .chained len (some src) => (m.chunk src, .chained len (m.next src))
  | .chained len none => ([], .chained len none)

def setExtPtr (cell : SeqCell) (ptr : SeqCell) : SeqMemory :=
  let ev := m.event cell
  match ev.data.ext with
  | .chained len none => m.setEvent cell { ev with data := { ev.data with ext := .chained len (some ptr) } }
  | _ => m

def linkChunk (cell : SeqCell) (tail : Option SeqCell) (tmp : SeqCell) : SeqMemory :=
  match tail with
  | some tail => (m.setExtPtr cell tmp).setNext tail (some tmp)
  | none => m.setExtPtr cell tmp

/-- The loop of `snd_seq_event_dup` that decomposes the external data. -/
def dupLoop (id : Nat) (cell : SeqCell) :
    Nat → Nat → SndSeqExt → Option SeqCell → SeqMemory → Except Int SeqCell × SeqMemory
  | 0, _, _, _, m => (.ok cell, m)
  | ncells + 1, len, src, tail, m =>
    let size := chunkSize len
    match m.sndSeqCellAlloc id with
    | .error err => (.error err, m.sndSeqCellFree cell)
    | .ok (tmp, m) =>
      let m := m.linkChunk cell tail tmp
      let (bytes, src) := m.sourceChunk size src
      dupLoop id cell ncells (len - size) src (some tmp) (m.setChunk tmp bytes)

def dupCells (ev : SndSeqEvent) : Nat :=
  ((if ev.isVariable then ev.data.ext.len else 0) + SIZEOF_SND_SEQ_EVENT - 1) / SIZEOF_SND_SEQ_EVENT

def copyOf (ev : SndSeqEvent) (len : Nat) (ptr : Option SeqCell) : SndSeqEvent :=
  { ev with data := { ev.data with ext := .chained len ptr } }

/-- `snd_seq_event_dup`, copies from user space never faulting. -/
def sndSeqEventDup (id : Nat) (ev : SndSeqEvent) : Except Int SeqCell × SeqMemory :=
  if (m.pool id).totalElements ≤ dupCells ev then (.error (-ENOMEM), m)
  else
    match m.sndSeqCellAlloc id with
    | .error err => (.error err, m)
    | .ok (cell, m) =>
      if ev.isVariable then
        let extlen := ev.data.ext.len
        dupLoop id cell (dupCells ev) extlen ev.data.ext none (m.setEvent cell (copyOf ev extlen none))
      else (.ok cell, m.setEvent cell ev)

/-- The loop of `snd_seq_dump_var_event` over chained cells, each pass taking at least one byte. -/
def dumpChain : Nat → Nat → Option SeqCell → List Byte
  | 0, _, _ => []
  | _, 0, _ => []
  | _, _, none => []
  | fuel + 1, len, some cell =>
    let size := chunkSize len
    (m.chunk cell).take size ++ dumpChain fuel (len - size) (m.next cell)

/-- The bytes that `snd_seq_expand_var_event` copies. -/
def expandVarEvent (ext : SndSeqExt) : List Byte :=
  match ext with
  | .kernel len buf | .user len buf => buf.take len
  | .chained len ptr => dumpChain m len len ptr

def userOf (ev : SndSeqEvent) : SndSeqEvent :=
  if ev.isVariable then { ev with data := { ev.data with ext := .kernel ev.data.ext.len (m.expandVarEvent ev.data.ext) } }
  else ev

end SeqMemory

def emptyMemory : SeqMemory where
  next := fun _ => none
  event := fun _ => blankEvent
  chunk := fun _ => []
  pool := fun _ => ⟨none, false, 0, 0, 0, false⟩

end AlsaDriver.Seq
