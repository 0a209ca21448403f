import Mathlib.Algebra.Group.Nat.Hom
import AlsaDriver.Seq.Prioq

namespace AlsaDriver.Seq

open Function

/-- The parts of `struct snd_seq_timer` that make the time go on. -/
structure SndSeqTimer where
  running : Bool
  curTime : SndSeqRealTime
  curTick : Nat
  tickResolution : Nat
  fraction : Nat
  skew : Nat
  skewBase : Nat
  deriving DecidableEq

def sndSeqSanityRealTime (tm : SndSeqRealTime) : SndSeqRealTime :=
  ⟨(tm.tvSec + tm.tvNsec / 1000000000) % 2 ^ 32, tm.tvNsec % 1000000000⟩

def sndSeqIncRealTime (tm inc : SndSeqRealTime) : SndSeqRealTime :=
  sndSeqSanityRealTime ⟨(tm.tvSec + inc.tvSec) % 2 ^ 32, (tm.tvNsec + inc.tvNsec) % 2 ^ 32⟩

def sndSeqIncTimeNsec (tm : SndSeqRealTime) (nsec : Nat) : SndSeqRealTime :=
  sndSeqSanityRealTime ⟨tm.tvSec, (tm.tvNsec + nsec) % 2 ^ 32⟩

namespace SndSeqTimer

variable (tmr : SndSeqTimer)

def updateTick (resolution : Nat) : SndSeqTimer :=
  if 0 < tmr.tickResolution then
    let fraction := (tmr.fraction + resolution) % 2 ^ 64
    { tmr with
      curTick := (tmr.curTick + fraction / tmr.tickResolution) % 2 ^ 32
      fraction := fraction % tmr.tickResolution }
  else tmr

def skewed (resolution : Nat) : Nat :=
  if tmr.skew ≠ tmr.skewBase then
    (resolution / 2 ^ 16 * tmr.skew + resolution % 2 ^ 16 * tmr.skew % 2 ^ 64 / 2 ^ 16) % 2 ^ 64
  else resolution

/-- The locked section of `snd_seq_timer_interrupt`. -/
def advance (resolution ticks : Nat) : SndSeqTimer :=
  let resolution := tmr.skewed (resolution * ticks % 2 ^ 64)
  ({ tmr with curTime := sndSeqIncTimeNsec tmr.curTime resolution } : SndSeqTimer).updateTick resolution

end SndSeqTimer

inductive QueueKind where
  | tick
  | time
  deriving DecidableEq, Repr

/-- The prioq that `snd_seq_enqueue_event` takes. -/
def queueKind (ev : SndSeqEvent) : QueueKind := if ev.isTick then .tick else .time

def due (tmr : SndSeqTimer) (kind : QueueKind) (ev : SndSeqEvent) : Bool :=
  match kind with
  | .tick => sndSeqCompareTickTime tmr.curTick ev.time.tick
  | .time => sndSeqCompareRealTime tmr.curTime ev.time

/-- The conversion of relative time stamps in `snd_seq_enqueue_event`. -/
def absoluteTime (tmr : SndSeqTimer) (ev : SndSeqEvent) : SndSeqEvent :=
  if ev.flags &&& SNDRV_SEQ_TIME_MODE_MASK = SNDRV_SEQ_TIME_MODE_REL then
    { ev with
      time :=
        if ev.isTick then { ev.time with tvSec := (ev.time.tick + tmr.curTick) % 2 ^ 32 }
        else sndSeqIncRealTime ev.time tmr.curTime
      flags := ev.flags &&& ~~~SNDRV_SEQ_TIME_MODE_MASK }
  else ev

/-- Where a call is: not there, with a cell that goes into a queue, at the first lock, in the loop of one
    of the queues, or at the last lock. -/
inductive CheckPc where
  | outside
  | ready (cell : SeqCell)
  | enter
  | peek (kind : QueueKind)
  | compare (kind : QueueKind) (cell : SeqCell)
  | takeOut (kind : QueueKind)
  | dispatch (kind : QueueKind)
  | leave
  deriving DecidableEq

def CheckPc.behind : QueueKind → CheckPc
  | .tick => peek .time
  | .time => leave

/-- A queue with any number of callers. Every insertion has a number; `stamp` is the last one of each
    cell, and `dispatched` lists those that were dispatched. -/
structure QueueState where
  m : SeqMemory
  prioq : QueueKind → SndSeqPrioq
  timer : SndSeqTimer
  checkBlocked : Bool
  checkAgain : Bool
  pc : Nat → CheckPc
  stamp : SeqCell → Nat
  count : Nat
  dispatched : List Nat

inductive QueueOp where
  | check (i : Nat)
  | enqueue (i : Nat) (cell : SeqCell)
  | interrupt (i : Nat) (resolution ticks : Nat)
  | step (i : Nat)
  | others (m : SeqMemory)
  | control (timer : SndSeqTimer)

namespace QueueState

variable (s : QueueState)

def goto (i : Nat) (pc : CheckPc) : QueueState := { s with pc := update s.pc i pc }

def setQueue (kind : QueueKind) (f : SndSeqPrioq) (m : SeqMemory) : QueueState :=
  { s with m := m, prioq := update s.prioq kind f }

def numbered (cell : SeqCell) : QueueState := { s with stamp := update s.stamp cell s.count, count := s.count + 1 }

/-- `snd_seq_prioq_cell_in`, which an error ends. -/
def cellIn (i : Nat) (cell : SeqCell) : QueueState :=
  let kind := queueKind (s.m.event cell)
  match sndSeqPrioqCellIn (s.prioq kind) s.m cell with
  | (err, f, m) =>
    let s := s.setQueue kind f m
    if err < 0 then s.goto i .outside else (s.numbered cell).goto i .enter

/-- The first section under `check_lock`. -/
def enter (i : Nat) : QueueState :=
  if s.checkBlocked then ({ s with checkAgain := true } : QueueState).goto i .outside
  else ({ s with checkBlocked := true } : QueueState).goto i (.peek .tick)

/-- `snd_seq_prioq_cell_peek`. -/
def peek (i : Nat) (kind : QueueKind) : QueueState :=
  match (s.prioq kind).head with
  | none => s.goto i (.behind kind)
  | some cell => s.goto i (.compare kind cell)

def compare (i : Nat) (kind : QueueKind) (cell : SeqCell) : QueueState :=
  if due s.timer kind (s.m.event cell) then s.goto i (.takeOut kind) else s.goto i (.behind kind)

/-- `snd_seq_prioq_cell_out`, and the cell goes to `snd_seq_dispatch_event`. -/
def takeOut (i : Nat) (kind : QueueKind) : QueueState :=
  match sndSeqPrioqCellOut (s.prioq kind) s.m with
  | (none, f, m) => (s.setQueue kind f m).goto i (.peek kind)
  | (some cell, f, m) =>
    ({ s.setQueue kind f m with dispatched := s.dispatched ++ [s.stamp cell] } : QueueState).goto i (.dispatch kind)

/-- The last section under `check_lock`. -/
def leave (i : Nat) : QueueState :=
  if s.checkAgain then ({ s with checkAgain := false } : QueueState).goto i (.peek .tick)
  else ({ s with checkBlocked := false } : QueueState).goto i .outside

def stepCall (i : Nat) : QueueState :=
  match s.pc i with
  | .outside => s
  | .ready cell => s.cellIn i cell
  | .enter => s.enter i
  | .peek kind => s.peek i kind
  | .compare kind cell => s.compare i kind cell
  | .takeOut kind => s.takeOut i kind
  | .dispatch kind => s.goto i (.peek kind)
  | .leave => s.leave i

/-- One step of the system. A call begins only where `i` is not in one; calls that the dispatch makes are
    calls of their own. -/
def exec (s : QueueState) : QueueOp → QueueState
  | .check i => if s.pc i = .outside then s.goto i .enter else s
  | .enqueue i cell =>
    if s.pc i = .outside then
      ({ s with m := s.m.setEvent cell (absoluteTime s.timer (s.m.event cell)) } : QueueState).goto i (.ready cell)
    else s
  | .interrupt i resolution ticks =>
    if s.pc i = .outside ∧ s.timer.running then
      ({ s with timer := s.timer.advance resolution ticks } : QueueState).goto i .enter
    else s
  | .step i => s.stepCall i
  | .others m => { s with m := m }
  | .control timer => { s with timer := timer }

def new (m : SeqMemory) (timer : SndSeqTimer) : QueueState where
  m := m
  prioq := fun _ => sndSeqPrioqNew
  timer := timer
  checkBlocked := false
  checkAgain := false
  pc := fun _ => .outside
  stamp := fun _ => 0
  count := 0
  dispatched := []

def Queued (cell : SeqCell) : Prop := ∃ kind l, Chains.Chain s.m.next (s.prioq kind).head l ∧ cell ∈ l

/-- What the callers promise: the cell of an insertion is theirs alone, queued cells are left alone, and
    only interrupts change the time. -/
def Calls (s : QueueState) : QueueOp → Prop
  | .enqueue _ cell => ¬ s.Queued cell ∧ ∀ j, s.pc j ≠ .ready cell
  | .others m' => ∀ c, s.Queued c → m'.next c = s.m.next c ∧ m'.event c = s.m.event c
  | .control timer => timer.curTick = s.timer.curTick ∧ timer.curTime = s.timer.curTime
  | _ => True

end QueueState

end AlsaDriver.Seq
