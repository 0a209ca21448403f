import Mathlib.Algebra.Group.Nat.Hom
import AlsaDriver.Lib.NodeLists

namespace AlsaDriver.Timer

open NodeLists

def ENODEV : Int := 19
def ENOMEM : Int := 12
def EBUSY : Int := 16
def EINVAL : Int := 22

def SNDRV_TIMER_SCLASS_NONE : Int := 0
def SNDRV_TIMER_SCLASS_OSS_SEQUENCER : Int := 3

def ULONG_MAX : Nat := 2 ^ 64 - 1

structure SndTimerHardware where
  auto : Bool
  stop : Bool
  slave : Bool
  tasklet : Bool
  ticks : Nat

/-- `started` tells whether the hardware was started last. -/
structure SndTimer where
  hw : SndTimerHardware
  running : Int
  sticks : Nat
  change : Bool
  resched : Bool
  started : Bool

/-- An instance; `live` until it is freed. -/
structure SndTimerInstance where
  live : Bool
  slave : Bool
  running : Bool
  start : Bool
  auto : Bool
  fast : Bool
  exclusive : Bool
  timer : Option Nat
  master : Option Nat
  slaveClass : Int
  slaveId : Nat
  ticks : Nat
  cticks : Nat
  pticks : Nat

/-- The heads for the `active_list` of an instance. -/
inductive ActiveHead where
  | timer (t : Nat)
  | master (i : Nat)
  deriving DecidableEq

/-- The heads for the `ack_list` of an instance. -/
inductive AckHead where
  | fast (t : Nat)
  | slow (t : Nat)
  deriving DecidableEq

/-- The heads for the `open_list` of an instance. -/
inductive OpenHead where
  | timer (t : Nat)
  | slaves
  | master (i : Nat)
  deriving DecidableEq

structure TimerState where
  timerList : List Nat
  timers : Nat → SndTimer
  insts : Nat → SndTimerInstance
  nextInst : Nat
  active : Lists ActiveHead Nat
  ack : Lists AckHead Nat
  opened : Lists OpenHead Nat
  callbacks : List (Nat × Nat)

namespace TimerState

variable (s : TimerState)

def modTimer (t : Nat) (f : SndTimer → SndTimer) : TimerState :=
  { s with timers := Function.update s.timers t (f (s.timers t)) }

def modInst (i : Nat) (f : SndTimerInstance → SndTimerInstance) : TimerState :=
  { s with insts := Function.update s.insts i (f (s.insts i)) }

def hwStart (t : Nat) : TimerState := s.modTimer t fun tm => { tm with started := true }

def hwStop (t : Nat) : TimerState := s.modTimer t fun tm => { tm with started := false }

/-- The loop of `snd_timer_reschedule` for one instance, with the ticks so far. -/
def rescheduleStep (t : Nat) (acc : TimerState × Nat) (i : Nat) : TimerState × Nat :=
  let s := acc.1
  let s := if (s.insts i).start then
      (s.modInst i fun ti => { ti with start := false, running := true }).modTimer t fun tm =>
        { tm with running := tm.running + 1 }
    else s
  (s, if (s.insts i).running then min acc.2 (s.insts i).cticks else acc.2)

def sndTimerReschedule (t ticksLeft : Nat) : TimerState :=
  let acc := (s.active.items (.timer t)).foldl (rescheduleStep t) (s, ULONG_MAX)
  if acc.2 = ULONG_MAX then acc.1.modTimer t fun tm => { tm with resched := false }
  else
    acc.1.modTimer t fun tm =>
      let ticks := min acc.2 tm.hw.ticks
      { tm with change := tm.change || decide (ticksLeft ≠ ticks), sticks := ticks }

def sndTimerStart1 (t i sticks : Nat) : Int × TimerState :=
  let s := { s with active := s.active.moveTail i (.timer t) }
  if (s.timers t).running ≠ 0 ∧ (s.timers t).hw.slave = false then
    (1, (s.modTimer t fun tm => { tm with resched := true }).modInst i fun ti => { ti with start := true })
  else
    let s := if (s.timers t).running ≠ 0 then s else (s.modTimer t fun tm => { tm with sticks := sticks }).hwStart t
    (0, (s.modTimer t fun tm => { tm with running := tm.running + 1 }).modInst i fun ti => { ti with running := true })

def sndTimerStartSlave (i : Nat) : Int × TimerState :=
  let s := s.modInst i fun ti => { ti with running := true }
  match (s.insts i).master with
  | none => (1, s)
  | some m => (1, { s with active := s.active.addTail i (.master m) })

def sndTimerStart (i ticks : Nat) : Int × TimerState :=
  if ticks < 1 then (-EINVAL, s)
  else if (s.insts i).slave then s.sndTimerStartSlave i
  else
    match (s.insts i).timer with
    | none => (-EINVAL, s)
    | some t => (s.modInst i fun ti => { ti with ticks := ticks, cticks := ticks, pticks := 0 }).sndTimerStart1 t i ticks

/-- What `_snd_timer_stop` does with the timer when nothing runs any more. -/
def stopIdle (t : Nat) : TimerState :=
  let s := s.hwStop t
  if (s.timers t).resched then
    let s := (s.modTimer t fun tm => { tm with resched := false }).sndTimerReschedule t 0
    if (s.timers t).change then (s.modTimer t fun tm => { tm with change := false }).hwStart t else s
  else s

/-- `_snd_timer_stop`. -/
def sndTimerStop1 (i : Nat) (keepFlag : Bool) : Int × TimerState :=
  if (s.insts i).slave then (0, if keepFlag then s else s.modInst i fun ti => { ti with running := false })
  else
    match (s.insts i).timer with
    | none => (-EINVAL, s)
    | some t =>
      let s := { s with ack := s.ack.delInit i, active := s.active.delInit i }
      let s := if (s.insts i).running then
          let s := s.modTimer t fun tm => { tm with running := tm.running - 1 }
          if (s.timers t).running = 0 then s.stopIdle t else s
        else s
      (0, if keepFlag then s else s.modInst i fun ti => { ti with running := false, start := false })

def sndTimerStop (i : Nat) : Int × TimerState :=
  let stopped := s.sndTimerStop1 i false
  if stopped.1 < 0 then stopped
  else
    match (stopped.2.insts i).timer with
    | none => (-EINVAL, stopped.2)
    | some _ => (0, stopped.2.modInst i fun ti => { ti with cticks := ti.ticks, pticks := 0 })

def sndTimerContinue (i : Nat) : Int × TimerState :=
  if (s.insts i).slave then s.sndTimerStartSlave i
  else
    match (s.insts i).timer with
    | none => (-EINVAL, s)
    | some t =>
      (s.modInst i fun ti => { ti with cticks := if ti.cticks = 0 then 1 else ti.cticks, pticks := 0 }).sndTimerStart1 t i
        (s.timers t).sticks

def sndTimerPause (i : Nat) : Int × TimerState := s.sndTimerStop1 i false

/-- An instance as `snd_timer_instance_new` makes it. -/
def newInst (slave : Bool) (timer : Option Nat) (slaveClass : Int) (slaveId : Nat) : SndTimerInstance :=
  ⟨true, slave, false, false, false, false, false, timer, none, slaveClass, slaveId, 0, 0, 0⟩

def sameId (i j : Nat) : Bool :=
  (s.insts i).slaveClass == (s.insts j).slaveClass && (s.insts i).slaveId == (s.insts j).slaveId

def sndTimerCheckSlave (slave : Nat) : TimerState :=
  match (s.timerList.flatMap fun t => s.opened.items (.timer t)).find? (s.sameId slave) with
  | none => s
  | some master =>
    ({ s with opened := s.opened.moveTail slave (.master master) } : TimerState).modInst slave fun ti =>
      { ti with master := some master, timer := (s.insts master).timer }

/-- The loop of `snd_timer_check_master` for one slave. -/
def checkMasterStep (master : Nat) (s : TimerState) (slave : Nat) : TimerState :=
  if s.sameId slave master then
    let s := ({ s with opened := s.opened.moveTail slave (.master master) } : TimerState).modInst slave fun ti =>
      { ti with master := some master, timer := (s.insts master).timer }
    if (s.insts slave).running then { s with active := s.active.addTail slave (.master master) } else s
  else s

def sndTimerCheckMaster (master : Nat) : TimerState :=
  (s.opened.items .slaves).foldl (checkMasterStep master) s

def addInst (ti : SndTimerInstance) (head : OpenHead) : TimerState :=
  { s with
    insts := Function.update s.insts s.nextInst ti
    nextInst := s.nextInst + 1
    opened := s.opened.addTail s.nextInst head }

/-- `snd_timer_open` of a slave. -/
def sndTimerOpenSlave (sclass : Int) (device : Nat) (memory : Bool) : Int × TimerState :=
  if sclass ≤ SNDRV_TIMER_SCLASS_NONE ∨ SNDRV_TIMER_SCLASS_OSS_SEQUENCER < sclass then (-EINVAL, s)
  else if memory = false then (-ENOMEM, s)
  else (0, (s.addInst (newInst true none sclass device) .slaves).sndTimerCheckSlave s.nextInst)

def exclusive (t : Nat) : Bool :=
  match s.opened.items (.timer t) with
  | [] => false
  | i :: _ => (s.insts i).exclusive

/-- `snd_timer_open` of a master for the timer that `snd_timer_find` finds. -/
def sndTimerOpenMaster (t : Nat) (sclass : Int) (slaveId : Nat) (memory : Bool) : Int × TimerState :=
  if t ∉ s.timerList then (-ENODEV, s)
  else if s.exclusive t then (-EBUSY, s)
  else if memory = false then (-ENOMEM, s)
  else (0, (s.addInst (newInst false (some t) sclass slaveId) (.timer t)).sndTimerCheckMaster s.nextInst)

/-- The loop of `snd_timer_close` for one slave. -/
def closeStep (s : TimerState) (slave : Nat) : TimerState :=
  let s := (s.sndTimerStop1 slave true).2
  ({ s with opened := s.opened.moveTail slave .slaves } : TimerState).modInst slave fun ti =>
    { ti with master := none, timer := none }

/-- The links of an instance that `snd_timer_close` removes after it stopped it. -/
def closeLinks (i : Nat) : TimerState :=
  if (s.insts i).slave then { s with opened := s.opened.del i }
  else
    match (s.insts i).timer with
    | none => s
    | some _ =>
      let s := { s with opened := s.opened.del i }
      (s.opened.items (.master i)).foldl closeStep s

def sndTimerClose (i : Nat) : Int × TimerState :=
  (0, ((s.sndTimerStop i).2.closeLinks i).modInst i fun ti => { ti with live := false })

def acknowledge (head : AckHead) (i : Nat) : TimerState :=
  if s.ack.place i = .alone then { s with ack := s.ack.addTail i head } else s

def ackHead (t i : Nat) : AckHead := if (s.timers t).hw.tasklet || (s.insts i).fast then .fast t else .slow t

def expireSlave (head : AckHead) (pticks : Nat) (s : TimerState) (slave : Nat) : TimerState :=
  (s.modInst slave fun ts => { ts with pticks := pticks }).acknowledge head slave

def reload (t i : Nat) : TimerState :=
  if (s.insts i).auto then s.modInst i fun ti => { ti with cticks := ti.ticks }
  else
    let s := (s.modInst i fun ti => { ti with running := false }).modTimer t fun tm =>
      { tm with running := tm.running - 1 }
    if (s.timers t).running ≠ 0 then { s with active := s.active.del i } else s

def expire (t i : Nat) : TimerState :=
  let s := s.reload t i
  let head := s.ackHead t i
  let s := s.acknowledge head i
  (s.active.items (.master i)).foldl (expireSlave head (s.insts i).pticks) s

/-- The loop of `snd_timer_interrupt` for one instance. -/
def interruptStep (t ticksLeft : Nat) (s : TimerState) (i : Nat) : TimerState :=
  if (s.insts i).running = false then s
  else
    let s := s.modInst i fun ti =>
      { ti with pticks := (ti.pticks + ticksLeft) % 2 ^ 64, cticks := ti.cticks - ticksLeft }
    if (s.insts i).cticks ≠ 0 then s else s.expire t i

def restart (t : Nat) : TimerState :=
  if (s.timers t).running ≠ 0 then
    let s := if (s.timers t).hw.stop then (s.hwStop t).modTimer t fun tm => { tm with change := true } else s
    if (s.timers t).hw.auto = false ∨ (s.timers t).change then
      (s.modTimer t fun tm => { tm with change := false }).hwStart t
    else s
  else s.hwStop t

/-- `snd_timer_interrupt` up to its fast callbacks. -/
def sndTimerInterrupt (t ticksLeft : Nat) : TimerState :=
  let s := (s.active.items (.timer t)).foldl (interruptStep t ticksLeft) s
  let s := if (s.timers t).resched then s.sndTimerReschedule t (s.timers t).sticks else s
  s.restart t

/-- One pass of the loop of `snd_timer_tasklet`, and of the loop over the fast callbacks in
    `snd_timer_interrupt`. -/
def callback (head : AckHead) : TimerState :=
  match s.ack.items head with
  | [] => s
  | i :: _ =>
    { ({ s with ack := s.ack.delInit i } : TimerState).modInst i (fun ti => { ti with pticks := 0 }) with
      callbacks := s.callbacks ++ [(i, (s.insts i).pticks)] }

end TimerState

/-- The calls, with the loops over callbacks step by step. `flags` are the flags that the owner of an
    instance sets in it. -/
inductive TimerOp where
  | openSlave (sclass : Int) (device : Nat) (memory : Bool)
  | openMaster (t : Nat) (sclass : Int) (slaveId : Nat) (memory : Bool)
  | flags (i : Nat) (auto fast exclusive : Bool)
  | start (i ticks : Nat)
  | stop (i : Nat)
  | continue_ (i : Nat)
  | pause (i : Nat)
  | close (i : Nat)
  | interrupt (t ticksLeft : Nat)
  | callback (head : AckHead)

def TimerOp.inst : TimerOp → Option Nat
  | .flags i _ _ _ | .start i _ | .stop i | .continue_ i | .pause i | .close i => some i
  | _ => none

namespace TimerState

def call (s : TimerState) : TimerOp → TimerState
  | .openSlave sclass device memory => (s.sndTimerOpenSlave sclass device memory).2
  | .openMaster t sclass slaveId memory => (s.sndTimerOpenMaster t sclass slaveId memory).2
  | .flags i auto fast exclusive => s.modInst i fun ti => { ti with auto := auto, fast := fast, exclusive := exclusive }
  | .start i ticks => (s.sndTimerStart i ticks).2
  | .stop i => (s.sndTimerStop i).2
  | .continue_ i => (s.sndTimerContinue i).2
  | .pause i => (s.sndTimerPause i).2
  | .close i => (s.sndTimerClose i).2
  | .interrupt t ticksLeft => s.sndTimerInterrupt t ticksLeft
  | .callback head => s.callback head

def exec (s : TimerState) (op : TimerOp) : TimerState :=
  match op.inst with
  | none => s.call op
  | some i => if (s.insts i).live then s.call op else s

def init (timerList : List Nat) (hw : Nat → SndTimerHardware) : TimerState where
  timerList := timerList
  timers := fun t => ⟨hw t, 0, 0, false, false, false⟩
  insts := fun _ => ⟨false, false, false, false, false, false, false, none, none, 0, 0, 0, 0, 0⟩
  nextInst := 0
  active := Lists.empty
  ack := Lists.empty
  opened := Lists.empty
  callbacks := []

end TimerState

end AlsaDriver.Timer
