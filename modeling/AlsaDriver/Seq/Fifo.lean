import AlsaDriver.Seq.Memory

namespace AlsaDriver.Seq

def ENOSPC : Int := 28
def ERESTARTSYS : Int := 512

structure SndSeqFifo where
  pool : Nat
  head : Option SeqCell
  tail : Option SeqCell
  cells : Int
  overflow : Nat
  deriving DecidableEq

/-- The locked section of `snd_seq_fifo_event_in`. -/
def appendCell (f : SndSeqFifo) (m : SeqMemory) (cell : SeqCell) : SndSeqFifo × SeqMemory :=
  ({ f with
      tail := some cell
      head := if f.head = none then some cell else f.head
      cells := f.cells + 1 },
    match f.tail with
    | some tail => m.setNext tail (some cell)
    | none => m)

def sndSeqFifoEventIn (f : SndSeqFifo) (m : SeqMemory) (event : SndSeqEvent) : Int × SndSeqFifo × SeqMemory :=
  match m.sndSeqEventDup f.pool event with
  | (.error err, m) => (err, if err = -ENOMEM then { f with overflow := f.overflow + 1 } else f, m)
  | (.ok cell, m) => (0, appendCell f m cell)

def fifoCellOut (f : SndSeqFifo) (m : SeqMemory) : Option SeqCell × SndSeqFifo × SeqMemory :=
  match f.head with
  | none => (none, f, m)
  | some cell =>
    (some cell, { f with
                    head := m.next cell
                    tail := if f.tail = some cell then none else f.tail
                    cells := f.cells - 1 }, m.setNext cell none)

def sndSeqFifoCellPutback (f : SndSeqFifo) (m : SeqMemory) (cell : SeqCell) : SndSeqFifo × SeqMemory :=
  ({ f with head := some cell, cells := f.cells + 1 }, m.setNext cell f.head)

/-- The draining loop of `snd_seq_fifo_clear`; no queue is longer than its pool. -/
def drainFifo : Nat → SndSeqFifo → SeqMemory → SndSeqFifo × SeqMemory
  | 0, f, m => (f, m)
  | fuel + 1, f, m =>
    match fifoCellOut f m with
    | (none, f, m) => (f, m)
    | (some cell, f, m) => drainFifo fuel f (m.sndSeqCellFree cell)

def sndSeqFifoClear (f : SndSeqFifo) (m : SeqMemory) : SndSeqFifo × SeqMemory :=
  drainFifo (m.pool f.pool).totalElements { f with overflow := 0 } m

/-- `roundup(len, align)`. -/
def roundup (len align : Nat) : Nat := (len + align - 1) / align * align

/-- `snd_seq_expand_var_event` into a user buffer of `count` bytes, with the number of bytes that it fills. -/
def sndSeqExpandVarEvent (ev : SndSeqEvent) (count : Nat) : Except Int Nat :=
  if ¬ ev.isVariable then .error (-EINVAL)
  else
    let newlen := roundup ev.data.ext.len SIZEOF_SND_SEQ_EVENT
    if count < newlen then .error (-EAGAIN)
    else
      match ev.data.ext with
      | .user _ _ => .error (-EINVAL)
      | _ => .ok newlen

/-- A call of `snd_seq_read` in its loop. -/
structure Reading where
  count : Nat
  result : Nat
  nonblock : Bool
  out : List SndSeqEvent

inductive Reader where
  | outside
  | loop (r : Reading)
  | asleep (r : Reading)
  | holding (r : Reading) (cell : SeqCell)

/-- A FIFO with its one reader, the events that went in, in the form in which they come out, and those
    that the reader got from calls without an error, both since the last clear. -/
structure FifoState where
  m : SeqMemory
  f : SndSeqFifo
  reader : Reader
  accepted : List SndSeqEvent
  returned : List SndSeqEvent

inductive FifoOp where
  | eventIn (event : SndSeqEvent)
  | read (count : Nat) (nonblock : Bool)
  | cellOut
  | copy
  | signal
  | others (m : SeqMemory)

namespace FifoState

variable (s : FifoState)

/-- The end of `snd_seq_read`, with the cell put back already. -/
def finish (r : Reading) (err : Int) : FifoState :=
  let err := if err = -EAGAIN ∧ 0 < r.result then 0 else err
  { s with reader := .outside, returned := if err < 0 then s.returned else s.returned ++ r.out }

/-- `snd_seq_fifo_cell_out` up to its end or its sleep. -/
def cellOut (r : Reading) : FifoState :=
  if r.count < SIZEOF_SND_SEQ_EVENT then s.finish r 0
  else
    match fifoCellOut s.f s.m with
    | (some cell, f, m) => { s with f := f, m := m, reader := .holding r cell }
    | (none, _, _) => if r.nonblock ∨ 0 < r.result then s.finish r (-EAGAIN) else { s with reader := .asleep r }

def copyLen (r : Reading) (ev : SndSeqEvent) : Except Int Nat :=
  if ev.isVariable then
    (sndSeqExpandVarEvent ev (r.count - SIZEOF_SND_SEQ_EVENT)).map (· + SIZEOF_SND_SEQ_EVENT)
  else .ok SIZEOF_SND_SEQ_EVENT

def copy (r : Reading) (cell : SeqCell) : FifoState :=
  match copyLen r (s.m.event cell) with
  | .ok len =>
    { s with
      m := s.m.sndSeqCellFree cell
      reader := .loop { r with
        count := r.count - len
        result := r.result + len
        out := r.out ++ [s.m.userOf (s.m.event cell)] } }
  | .error err =>
    let (f, m) := sndSeqFifoCellPutback s.f s.m cell
    { s with f := f, m := m }.finish r err

def eventIn (event : SndSeqEvent) : FifoState :=
  match sndSeqFifoEventIn s.f s.m event with
  | (err, f, m) =>
    { s with f := f, m := m, accepted := if err = 0 then s.accepted ++ [s.m.userOf event] else s.accepted }

def read (count : Nat) (nonblock : Bool) : FifoState :=
  if 0 < s.f.overflow then
    let (f, m) := sndSeqFifoClear s.f s.m
    { s with f := f, m := m, accepted := [], returned := [] }
  else { s with reader := .loop ⟨count, 0, nonblock, []⟩ }

def exec (s : FifoState) : FifoOp → FifoState
  | .eventIn event => s.eventIn event
  | .read count nonblock =>
    match s.reader with
    | .outside => s.read count nonblock
    | _ => s
  | .cellOut =>
    match s.reader with
    | .loop r | .asleep r => s.cellOut r
    | _ => s
  | .copy =>
    match s.reader with
    | .holding r cell => s.copy r cell
    | _ => s
  | .signal =>
    match s.reader with
    | .asleep r => s.finish r (-ERESTARTSYS)
    | _ => s
  | .others m => { s with m := m }

end FifoState

end AlsaDriver.Seq
