import Mathlib.Logic.Function.Basic
import Mathlib.Algebra.Group.Nat.Hom
import AlsaDriver.Lib.Ring

namespace AlsaDriver.Timer

def SNDRV_TIMER_EVENT_RESOLUTION : Nat := 0
def SNDRV_TIMER_EVENT_TICK : Nat := 1
def SNDRV_TIMER_EVENT_EARLY : Nat := 6

def filterMask : Nat := [0, 1, 2, 3, 4, 5, 7, 8, 12, 13, 14, 15, 17, 18].foldl (fun mask event => mask ||| 1 <<< event) 0

inductive SndTimerNotice where
  | start | stop | continue_ | pause
  | mstart | mstop | mcontinue | mpause | msuspend | mresume
  deriving DecidableEq

def SndTimerNotice.event : SndTimerNotice → Nat
  | .start => 2
  | .stop => 3
  | .continue_ => 4
  | .pause => 5
  | .mstart => 12
  | .mstop => 13
  | .mcontinue => 14
  | .mpause => 15
  | .msuspend => 17
  | .mresume => 18

structure SndTimerRead where
  resolution : Nat
  ticks : Nat
  deriving DecidableEq

structure SndTimerTread where
  event : Nat
  tstamp : Int × Int
  val : Nat
  deriving DecidableEq

/-- Where `snd_timer_user_read` is: it has found an entry, copied it, and brought `qhead` back into the queue. -/
inductive ReadPhase where
  | idle
  | checked
  | copied
  | wrapped
  deriving DecidableEq

/-- `got` and `tgot` are the entries that have been copied to the reader. `resizing` counts the PARAMS calls
    that may have changed the queue and have not reset it yet. -/
structure SndTimerUser where
  tread : Bool
  queueSize : Nat
  qhead : Nat
  qtail : Nat
  qused : Int
  queue : Nat → SndTimerRead
  tqueue : Nat → SndTimerTread
  lastResolution : Nat
  filter : Nat
  overrun : Nat
  phase : ReadPhase
  resizing : Nat
  got : List SndTimerRead
  tgot : List SndTimerTread

namespace SndTimerUser

variable (tu : SndTimerUser)

def prev : Nat := if tu.qtail = 0 then tu.queueSize - 1 else tu.qtail - 1

def push : SndTimerUser := { tu with qtail := (tu.qtail + 1) % tu.queueSize, qused := tu.qused + 1 }

def appendToTqueue (t : SndTimerTread) : SndTimerUser :=
  if tu.queueSize ≤ tu.qused then { tu with overrun := tu.overrun + 1 }
  else { tu with tqueue := Function.update tu.tqueue tu.qtail t }.push

def sndTimerUserInterrupt (resolution ticks : Nat) : SndTimerUser :=
  let r := tu.queue tu.prev
  if 0 < tu.qused ∧ r.resolution = resolution then
    { tu with queue := Function.update tu.queue tu.prev { r with ticks := (r.ticks + ticks) % 2 ^ 32 } }
  else if tu.queueSize ≤ tu.qused then { tu with overrun := tu.overrun + 1 }
  else { tu with queue := Function.update tu.queue tu.qtail ⟨resolution % 2 ^ 32, ticks % 2 ^ 32⟩ }.push

def sndTimerUserCcallback (event : Nat) (tstamp : Int × Int) (resolution : Nat) : SndTimerUser :=
  if tu.filter.testBit event = false ∨ tu.tread = false then tu
  else tu.appendToTqueue ⟨event, tstamp, resolution % 2 ^ 32⟩

def news (resolution : Nat) : Prop :=
  tu.filter.testBit SNDRV_TIMER_EVENT_RESOLUTION = true ∧ tu.lastResolution ≠ resolution

instance (resolution : Nat) : Decidable (tu.news resolution) := inferInstanceAs (Decidable (_ ∧ _))

/-- The time stamp of an interrupt that comes at `now`. -/
def stamp (now : Int × Int) (resolution ticks : Nat) : Int × Int :=
  if tu.lastResolution ≠ resolution ∨ 0 < ticks then now else (0, 0)

def addTicks (tstamp : Int × Int) (ticks : Nat) : SndTimerUser :=
  let r := tu.tqueue tu.prev
  if 0 < tu.qused ∧ r.event = SNDRV_TIMER_EVENT_TICK then
    { tu with tqueue := Function.update tu.tqueue tu.prev { r with tstamp := tstamp, val := (r.val + ticks) % 2 ^ 32 } }
  else tu.appendToTqueue ⟨SNDRV_TIMER_EVENT_TICK, tstamp, ticks % 2 ^ 32⟩

def sndTimerUserTinterrupt (now : Int × Int) (resolution ticks : Nat) : SndTimerUser :=
  let tstamp := tu.stamp now resolution ticks
  if tu.filter.testBit SNDRV_TIMER_EVENT_RESOLUTION = false ∧ tu.filter.testBit SNDRV_TIMER_EVENT_TICK = false then tu
  else
    let tu := if tu.news resolution then
        { tu.appendToTqueue ⟨SNDRV_TIMER_EVENT_RESOLUTION, tstamp, resolution % 2 ^ 32⟩ with lastResolution := resolution }
      else tu
    if tu.filter.testBit SNDRV_TIMER_EVENT_TICK = false then tu
    else if ticks = 0 then tu
    else tu.addTicks tstamp ticks

/-- PARAMS as far as it may change the queue; `memory` tells whether there is some, the contents of which
    are not defined. -/
def paramsQueue (size : Nat) (memory : Bool) (queue : Nat → SndTimerRead) (tqueue : Nat → SndTimerTread) : SndTimerUser :=
  if 0 < size ∧ (size < 32 ∨ 1024 < size) then tu
  else
    let tu := { tu with resizing := tu.resizing + 1 }
    if 0 < size ∧ tu.queueSize ≠ size ∧ memory = true then
      if tu.tread then { tu with queueSize := size, tqueue := tqueue } else { tu with queueSize := size, queue := queue }
    else tu

def paramsReset : SndTimerUser :=
  if tu.resizing = 0 then tu else { tu with resizing := tu.resizing - 1, qhead := 0, qtail := 0, qused := 0 }

def paramsEarly : SndTimerUser :=
  if tu.tread then tu.appendToTqueue ⟨SNDRV_TIMER_EVENT_EARLY, (0, 0), 0⟩
  else { tu with queue := Function.update tu.queue 0 ⟨0, 0⟩, qused := tu.qused + 1, qtail := tu.qtail + 1 }

def paramsFilter (filter : Nat) : SndTimerUser := if filter &&& filterMask = filter then { tu with filter := filter } else tu

def readCheck : SndTimerUser := if tu.phase = .idle ∧ tu.qused ≠ 0 then { tu with phase := .checked } else tu

def readCopy (fault : Bool) : SndTimerUser :=
  if tu.phase ≠ .checked then tu
  else if fault then { tu with qhead := tu.qhead + 1, phase := .idle }
  else if tu.tread then
    { tu with qhead := tu.qhead + 1, phase := .copied, tgot := tu.tgot ++ [tu.tqueue tu.qhead] }
  else { tu with qhead := tu.qhead + 1, phase := .copied, got := tu.got ++ [tu.queue tu.qhead] }

def readWrap : SndTimerUser :=
  if tu.phase = .copied then { tu with qhead := tu.qhead % tu.queueSize, phase := .wrapped } else tu

def readNext (more : Bool) : SndTimerUser :=
  if tu.phase = .wrapped then
    { tu with qused := tu.qused - 1, phase := if more = true ∧ tu.qused - 1 ≠ 0 then .checked else .idle }
  else tu

end SndTimerUser

inductive UserOp where
  | callback (now : Int × Int) (resolution ticks : Nat)
  | ccallback (notice : SndTimerNotice) (tstamp : Int × Int) (resolution : Nat)
  | paramsQueue (size : Nat) (memory : Bool) (queue : Nat → SndTimerRead) (tqueue : Nat → SndTimerTread)
  | paramsReset
  | paramsEarly
  | paramsFilter (filter : Nat)
  | readCheck
  | readCopy (fault : Bool)
  | readWrap
  | readNext (more : Bool)

def UserOp.isParams : UserOp → Bool
  | .paramsQueue _ _ _ _ | .paramsReset | .paramsEarly | .paramsFilter _ => true
  | _ => false

namespace SndTimerUser

variable (tu : SndTimerUser)

def exec : UserOp → SndTimerUser
  | .callback now resolution ticks =>
    if tu.tread then tu.sndTimerUserTinterrupt now resolution ticks else tu.sndTimerUserInterrupt resolution ticks
  | .ccallback notice tstamp resolution => tu.sndTimerUserCcallback notice.event tstamp resolution
  | .paramsQueue size memory queue tqueue => tu.paramsQueue size memory queue tqueue
  | .paramsReset => tu.paramsReset
  | .paramsEarly => tu.paramsEarly
  | .paramsFilter filter => tu.paramsFilter filter
  | .readCheck => tu.readCheck
  | .readCopy fault => tu.readCopy fault
  | .readWrap => tu.readWrap
  | .readNext more => tu.readNext more

def reportedEvents : UserOp → List SndTimerTread
  | .callback now resolution ticks =>
    if tu.tread = true ∧ tu.news resolution then
      [⟨SNDRV_TIMER_EVENT_RESOLUTION, tu.stamp now resolution ticks, resolution % 2 ^ 32⟩]
    else []
  | .ccallback notice tstamp resolution =>
    if tu.tread = true ∧ tu.filter.testBit notice.event = true then [⟨notice.event, tstamp, resolution % 2 ^ 32⟩] else []
  | _ => []

def reportedTicks : UserOp → Nat
  | .callback _ _ ticks => if tu.tread = true ∧ tu.filter.testBit SNDRV_TIMER_EVENT_TICK = false then 0 else ticks
  | _ => 0

def eventsOf (tu : SndTimerUser) : List UserOp → List SndTimerTread
  | [] => []
  | op :: rest => tu.reportedEvents op ++ eventsOf (tu.exec op) rest

def ticksOf (tu : SndTimerUser) : List UserOp → Nat
  | [] => 0
  | op :: rest => tu.reportedTicks op + ticksOf (tu.exec op) rest

end SndTimerUser

end AlsaDriver.Timer
