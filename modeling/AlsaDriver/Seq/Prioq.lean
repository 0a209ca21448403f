import Mathlib.Data.Prod.Lex
import AlsaDriver.Lib.Chains
import AlsaDriver.Lib.StableInsert
import AlsaDriver.Seq.Memory

namespace AlsaDriver.Seq

open Chains

structure SndSeqPrioq where
  head : Option SeqCell
  tail : Option SeqCell
  cells : Int
  deriving DecidableEq, Repr

def sndSeqPrioqNew : SndSeqPrioq := ⟨none, none, 0⟩

def compareTimestamp (a b : SndSeqEvent) : Bool :=
  if a.isTick then sndSeqCompareTickTime a.time.tick b.time.tick else sndSeqCompareRealTime a.time b.time

def compareTimestampRel (a b : SndSeqEvent) : Int :=
  if a.isTick then
    if b.time.tick < a.time.tick then 1 else if a.time.tick = b.time.tick then 0 else -1
  else if b.time.tvSec < a.time.tvSec then 1
  else if a.time.tvSec = b.time.tvSec then
    if b.time.tvNsec < a.time.tvNsec then 1 else if a.time.tvNsec = b.time.tvNsec then 0 else -1
  else -1

structure SndSeqRemoveEvents where
  removeMode : BitVec 32
  time : SndSeqTimestamp
  dest : SndSeqAddr
  channel : Byte
  type : Int
  tag : Int

def SNDRV_SEQ_REMOVE_INPUT : BitVec 32 := 0x01
def SNDRV_SEQ_REMOVE_OUTPUT : BitVec 32 := 0x02
def SNDRV_SEQ_REMOVE_DEST : BitVec 32 := 0x04
def SNDRV_SEQ_REMOVE_DEST_CHANNEL : BitVec 32 := 0x08
def SNDRV_SEQ_REMOVE_TIME_BEFORE : BitVec 32 := 0x10
def SNDRV_SEQ_REMOVE_TIME_AFTER : BitVec 32 := 0x20
def SNDRV_SEQ_REMOVE_TIME_TICK : BitVec 32 := 0x40
def SNDRV_SEQ_REMOVE_EVENT_TYPE : BitVec 32 := 0x80
def SNDRV_SEQ_REMOVE_IGNORE_OFF : BitVec 32 := 0x100
def SNDRV_SEQ_REMOVE_TAG_MATCH : BitVec 32 := 0x200

def SndSeqRemoveEvents.has (info : SndSeqRemoveEvents) (mode : BitVec 32) : Bool := info.removeMode &&& mode != 0

def prioqMatch (ev : SndSeqEvent) (client : Nat) (timestamp : Bool) : Bool :=
  if ev.source.client = client ∨ ev.dest.client = client then true
  else if ¬ timestamp then false
  else if ev.isTick then ev.time.tick != 0
  else ev.time.tvSec != 0 || ev.time.tvNsec != 0

def prioqRemoveMatch (info : SndSeqRemoveEvents) (ev : SndSeqEvent) : Bool :=
  let res :=
    if info.has SNDRV_SEQ_REMOVE_TIME_TICK then sndSeqCompareTickTime ev.time.tick info.time.tick
    else sndSeqCompareRealTime ev.time info.time
  if info.has SNDRV_SEQ_REMOVE_DEST ∧ (ev.dest.client ≠ info.dest.client ∨ ev.dest.port ≠ info.dest.port) then false
  else if info.has SNDRV_SEQ_REMOVE_DEST_CHANNEL ∧ (¬ ev.isChannelType ∨ ev.data.channel ≠ info.channel) then false
  else if info.has SNDRV_SEQ_REMOVE_TIME_AFTER ∧ ¬ res then false
  else if info.has SNDRV_SEQ_REMOVE_TIME_BEFORE ∧ res then false
  else if info.has SNDRV_SEQ_REMOVE_EVENT_TYPE ∧ (ev.type : Int) ≠ info.type then false
  else if info.has SNDRV_SEQ_REMOVE_IGNORE_OFF ∧ ev.type = SNDRV_SEQ_EVENT_NOTEOFF then false
  else if info.has SNDRV_SEQ_REMOVE_TAG_MATCH ∧ info.tag ≠ ev.tag.toNat then false
  else true

/-- The traversal of `snd_seq_prioq_cell_in`, with the previous cell and the cursor at its end; `none`
    when it gives up. -/
def findPlace (m : SeqMemory) (cell : SeqCell) : Nat → Option SeqCell → Option SeqCell →
    Option (Option SeqCell × Option SeqCell)
  | _, prev, none => some (prev, none)
  | 0, _, some _ => none
  | count + 1, prev, some cur =>
    let rel := compareTimestampRel (m.event cell) (m.event cur)
    if rel < 0 then some (prev, some cur)
    else if rel = 0 ∧ (m.event cell).isPrior then some (prev, some cur)
    else if count = 0 then none
    else findPlace m cell count (some cur) (m.next cur)

def PRIOQ_COUNT : Nat := 10000

def atTail (f : SndSeqPrioq) (m : SeqMemory) (cell : SeqCell) : Option SeqCell :=
  if (m.event cell).isPrior then none
  else f.tail.filter fun tail => compareTimestamp (m.event cell) (m.event tail)

def linkAfter (m : SeqMemory) (prev : Option SeqCell) (cell : SeqCell) : SeqMemory :=
  match prev with
  | some prev => m.setNext prev (some cell)
  | none => m

def sndSeqPrioqCellIn (f : SndSeqPrioq) (m : SeqMemory) (cell : SeqCell) : Int × SndSeqPrioq × SeqMemory :=
  match atTail f m cell with
  | some tail =>
    (0, { f with tail := some cell, cells := f.cells + 1 }, (m.setNext tail (some cell)).setNext cell none)
  | none =>
    match findPlace m cell PRIOQ_COUNT none f.head with
    | none => (-EINVAL, f, m)
    | some (prev, cur) =>
      (0, { head := if f.head = cur then some cell else f.head
            tail := if cur = none then some cell else f.tail
            cells := f.cells + 1 }, (linkAfter m prev cell).setNext cell cur)

def sndSeqPrioqCellOut (f : SndSeqPrioq) (m : SeqMemory) : Option SeqCell × SndSeqPrioq × SeqMemory :=
  match f.head with
  | none => (none, f, m)
  | some cell =>
    (some cell, { head := m.next cell, tail := if f.tail = some cell then none else f.tail, cells := f.cells - 1 },
      m.setNext cell none)

structure Removal where
  f : SndSeqPrioq
  m : SeqMemory
  prev : Option SeqCell
  freefirst : Option SeqCell
  freeprev : Option SeqCell

/-- The removal of one cell; `none` when a missing cell is written to. -/
def Removal.take (s : Removal) (cell : SeqCell) : Option Removal :=
  let next := s.m.next cell
  let unlinked : Option (SndSeqPrioq × SeqMemory) :=
    if s.f.head = some cell then some ({ s.f with head := next }, s.m)
    else s.prev.map fun prev => (s.f, s.m.setNext prev next)
  unlinked.bind fun (f, m) =>
    let f := { f with tail := if f.tail = some cell then m.next cell else f.tail, cells := f.cells - 1 }
    let m := m.setNext cell none
    if s.freefirst = none then some { s with f := f, m := m, freefirst := some cell, freeprev := some cell }
    else s.freeprev.map fun freeprev => { s with f := f, m := m.setNext freeprev (some cell), freeprev := some cell }

def removeLoop (match_ : SndSeqEvent → Bool) : Nat → Option SeqCell → Removal → Option Removal
  | _, none, s => some s
  | 0, some _, _ => none
  | fuel + 1, some cell, s =>
    let next := s.m.next cell
    if match_ (s.m.event cell) then (s.take cell).bind fun s => removeLoop match_ fuel next s
    else removeLoop match_ fuel next { s with prev := some cell }

def freeRemoved : Nat → Option SeqCell → SeqMemory → Option (List SeqCell × SeqMemory)
  | _, none, m => some ([], m)
  | 0, some _, _ => none
  | fuel + 1, some cell, m =>
    let freenext := m.next cell
    (freeRemoved fuel freenext (m.sndSeqCellFree cell)).map fun (freed, m) => (cell :: freed, m)

/-- What `snd_seq_prioq_leave` and `snd_seq_prioq_remove_events` share. -/
def removeCells (match_ : SndSeqEvent → Bool) (f : SndSeqPrioq) (m : SeqMemory) :
    Option (List SeqCell × SndSeqPrioq × SeqMemory) :=
  (removeLoop match_ f.cells.toNat f.head ⟨f, m, none, none, none⟩).bind fun s =>
    (freeRemoved f.cells.toNat s.freefirst s.m).map fun (freed, m) => (freed, s.f, m)

def sndSeqPrioqLeave (f : SndSeqPrioq) (m : SeqMemory) (client : Nat) (timestamp : Bool) :
    Option (List SeqCell × SndSeqPrioq × SeqMemory) :=
  removeCells (fun ev => prioqMatch ev client timestamp) f m

def sndSeqPrioqRemoveEvents (f : SndSeqPrioq) (m : SeqMemory) (client : Nat) (info : SndSeqRemoveEvents) :
    Option (List SeqCell × SndSeqPrioq × SeqMemory) :=
  removeCells (fun ev => ev.source.client == client && prioqRemoveMatch info ev) f m

end AlsaDriver.Seq
