import Mathlib.Logic.Function.Basic
import Mathlib.Tactic.SplitIfs
import AlsaDriver.Pcm.State

namespace AlsaDriver.Pcm

/-- `SNDRV_PCM_TRIGGER_*`. -/
inductive TriggerCmd where
  | stop
  | start
  | pausePush
  | pauseRelease
  | suspend
  | resume
  deriving DecidableEq, Repr

/-- What is seen from outside: the calls of the driver's `trigger` and `prepare` with their results,
    and the stream locks that a group action takes and releases. -/
inductive ActionEvent (Sub : Type*) where
  | trigger (s : Sub) (cmd : TriggerCmd) (ret : Int)
  | prepare (s : Sub) (ret : Int)
  | lock (s : Sub)
  | unlock (s : Sub)
  deriving DecidableEq

structure SubstreamState (Sub : Type*) where
  stream : StreamDirection
  state : SndPcmState
  suspendedState : SndPcmState
  triggerMaster : Option Sub
  infoPause : Bool
  infoResume : Bool

/-- `trace` has the latest event first. -/
structure PcmSystem (Sub : Type*) where
  substreams : Sub → SubstreamState Sub
  trace : List (ActionEvent Sub)

/-- The answers of the driver and of the pointers during one request. The `trigger` of a driver with
    a `chip` handles all linked substreams of that chip at once and reports so with
    `snd_pcm_trigger_done`. `xrun` says whether updating the pointer finds an xrun. -/
structure RequestEnv (Sub : Type*) where
  trigger : Sub → TriggerCmd → Int
  chip : Sub → Option Nat
  prepare : Sub → Int
  reset : Sub → Int
  xrun : Sub → Bool
  playbackData : Sub → Bool
  playbackEmpty : Sub → Bool
  captureAvail : Sub → Nat

def runningState (stream : StreamDirection) (state : SndPcmState) : Bool :=
  state == .running || (state == .draining && stream == .playback)

variable {Sub : Type*} [DecidableEq Sub]

def RequestEnv.synced (env : RequestEnv Sub) (s t : Sub) : Bool :=
  match env.chip s with
  | none => false
  | some c => env.chip t == some c

def PcmSystem.update (sys : PcmSystem Sub) (s : Sub) (f : SubstreamState Sub → SubstreamState Sub) : PcmSystem Sub :=
  { sys with substreams := Function.update sys.substreams s (f (sys.substreams s)) }

def PcmSystem.setState (sys : PcmSystem Sub) (s : Sub) (state : SndPcmState) : PcmSystem Sub :=
  sys.update s fun r => { r with state := state }

def PcmSystem.setTriggerMaster (sys : PcmSystem Sub) (s : Sub) (master : Option Sub) : PcmSystem Sub :=
  sys.update s fun r => { r with triggerMaster := master }

def PcmSystem.emit (sys : PcmSystem Sub) (event : ActionEvent Sub) : PcmSystem Sub :=
  { sys with trace := event :: sys.trace }

/-- `substream->ops->trigger(substream, cmd)` on a substream linked with `group`. -/
def opsTrigger (env : RequestEnv Sub) (group : List Sub) (sys : PcmSystem Sub) (s : Sub) (cmd : TriggerCmd) :
    Int × PcmSystem Sub :=
  (env.trigger s cmd,
    { substreams := fun t =>
        if t ∈ group ∧ env.synced s t then { sys.substreams t with triggerMaster := some s } else sys.substreams t
      trace := .trigger s cmd (env.trigger s cmd) :: sys.trace })

def sndPcmRunning (sys : PcmSystem Sub) (s : Sub) : Bool :=
  runningState (sys.substreams s).stream (sys.substreams s).state

/-- The part of `snd_pcm_trigger_tstamp` that is not about time; a master is its own master. -/
def sndPcmTriggerTstamp (sys : PcmSystem Sub) (s : Sub) : PcmSystem Sub :=
  match (sys.substreams s).triggerMaster with
  | none => sys
  | some master =>
    let sys := if master = s then sys else sys.setTriggerMaster master none
    sys.setTriggerMaster s none

section Fields

variable (env : RequestEnv Sub) (sys : PcmSystem Sub) (s : Sub)

@[simp] theorem PcmSystem.update_self (f : SubstreamState Sub → SubstreamState Sub) :
    (sys.update s f).substreams s = f (sys.substreams s) := Function.update_self ..

@[simp] theorem PcmSystem.update_trace (f : SubstreamState Sub → SubstreamState Sub) :
    (sys.update s f).trace = sys.trace := rfl

theorem PcmSystem.update_other {t : Sub} (other : t ≠ s) (f : SubstreamState Sub → SubstreamState Sub) :
    (sys.update s f).substreams t = sys.substreams t := Function.update_of_ne other ..

@[simp] theorem PcmSystem.setState_self (state : SndPcmState) :
    (sys.setState s state).substreams s = { sys.substreams s with state := state } := sys.update_self s _

@[simp] theorem PcmSystem.setState_trace (state : SndPcmState) : (sys.setState s state).trace = sys.trace := rfl

@[simp] theorem PcmSystem.setTriggerMaster_self (master : Option Sub) :
    (sys.setTriggerMaster s master).substreams s = { sys.substreams s with triggerMaster := master } :=
  sys.update_self s _

@[simp] theorem PcmSystem.setTriggerMaster_trace (master : Option Sub) :
    (sys.setTriggerMaster s master).trace = sys.trace := rfl

@[simp] theorem opsTrigger_ret (group : List Sub) (cmd : TriggerCmd) :
    (opsTrigger env group sys s cmd).1 = env.trigger s cmd := rfl

@[simp] theorem opsTrigger_trace (group : List Sub) (cmd : TriggerCmd) :
    (opsTrigger env group sys s cmd).2.trace = .trigger s cmd (env.trigger s cmd) :: sys.trace := rfl

theorem opsTrigger_self (group : List Sub) (cmd : TriggerCmd) :
    (opsTrigger env group sys s cmd).2.substreams s =
      { sys.substreams s with
        triggerMaster := if s ∈ group ∧ env.synced s s then some s else (sys.substreams s).triggerMaster } := by
  unfold opsTrigger
  dsimp only
  split_ifs <;> rfl

theorem opsTrigger_master (group : List Sub) (cmd : TriggerCmd)
    (master : (sys.substreams s).triggerMaster = some s) :
    (opsTrigger env group sys s cmd).2.substreams s = sys.substreams s := by
  rw [opsTrigger_self, master, ite_self, ← master]

@[simp] theorem sndPcmTriggerTstamp_self :
    (sndPcmTriggerTstamp sys s).substreams s = { sys.substreams s with triggerMaster := none } := by
  unfold sndPcmTriggerTstamp
  split
  · rename_i none
    rw [← none]
  · rename_i master same
    by_cases self : master = s
    · simp [self]
    · rw [if_neg self, PcmSystem.setTriggerMaster_self]
      have kept := sys.update_other master (Ne.symm self) fun r => { r with triggerMaster := none }
      rw [PcmSystem.setTriggerMaster, kept]

@[simp] theorem sndPcmTriggerTstamp_trace : (sndPcmTriggerTstamp sys s).trace = sys.trace := by
  unfold sndPcmTriggerTstamp
  split
  · rfl
  · split <;> rfl

end Fields

/-- `struct action_ops`, with the state argument of the action supplied; `none` stands for a
    callback that never returns. -/
structure ActionOps (Sub : Type*) where
  preAction : PcmSystem Sub → Sub → Int × PcmSystem Sub
  doAction : PcmSystem Sub → Sub → Option (Int × PcmSystem Sub)
  undoAction : Option (PcmSystem Sub → Sub → PcmSystem Sub)
  postAction : PcmSystem Sub → Sub → PcmSystem Sub

def sndPcmActionSingle (ops : ActionOps Sub) (substream : Sub) (sys : PcmSystem Sub) :
    Option (Int × PcmSystem Sub) :=
  let (res, sys) := ops.preAction sys substream
  if res < 0 then some (res, sys)
  else
    match ops.doAction sys substream with
    | none => none
    | some (res, sys) =>
      if res = 0 then some (res, ops.postAction sys substream)
      else
        match ops.undoAction with
        | some undo => some (res, undo sys substream)
        | none => some (res, sys)

/-- The first loop of `snd_pcm_action_group`: the result, and the substream at which it stopped. -/
def preLoop (ops : ActionOps Sub) (substream : Sub) : List Sub → PcmSystem Sub → Int × Option Sub × PcmSystem Sub
  | [], sys => (0, none, sys)
  | s :: rest, sys =>
    let sys := if s ≠ substream then sys.emit (.lock s) else sys
    let (res, sys) := ops.preAction sys s
    if res < 0 then (res, some s, sys) else preLoop ops substream rest sys

def undoLoop (undo : PcmSystem Sub → Sub → PcmSystem Sub) (failed : Sub) : List Sub → PcmSystem Sub → PcmSystem Sub
  | [], sys => sys
  | s1 :: rest, sys => if s1 = failed then sys else undoLoop undo failed rest (undo sys s1)

/-- The second loop, with the result so far; a failure undoes the substreams of `group` before it. -/
def doLoop (ops : ActionOps Sub) (group : List Sub) :
    List Sub → Int → PcmSystem Sub → Option (Int × PcmSystem Sub)
  | [], res, sys => some (res, sys)
  | s :: rest, _, sys =>
    match ops.doAction sys s with
    | none => none
    | some (res, sys) =>
      if res < 0 then
        match ops.undoAction with
        | some undo => some (res, undoLoop undo s group sys)
        | none => some (res, sys)
      else doLoop ops group rest res sys

/-- The unlock loop; it ends behind `last`, or at the end of the list. -/
def unlockLoop (substream : Sub) (last : Option Sub) : List Sub → PcmSystem Sub → PcmSystem Sub
  | [], sys => sys
  | s1 :: rest, sys =>
    let sys := if s1 ≠ substream then sys.emit (.unlock s1) else sys
    if some s1 = last then sys else unlockLoop substream last rest sys

/-- `snd_pcm_action_group` with `do_lock`; `group` is the list the substream is on. -/
def sndPcmActionGroup (ops : ActionOps Sub) (group : List Sub) (substream : Sub) (sys : PcmSystem Sub) :
    Option (Int × PcmSystem Sub) :=
  match preLoop ops substream group sys with
  | (res, some s, sys) => some (res, unlockLoop substream (some s) group sys)
  | (res, none, sys) =>
    match doLoop ops group group res sys with
    | none => none
    | some (res, sys) =>
      let sys := if res < 0 then sys else group.foldl ops.postAction sys
      some (res, unlockLoop substream none group sys)

section Ops

variable (env : RequestEnv Sub) (group : List Sub)

def sndPcmPreStart (sys : PcmSystem Sub) (s : Sub) : Int × PcmSystem Sub :=
  let runtime := sys.substreams s
  if runtime.state ≠ .prepared then (-EBADFD, sys)
  else if runtime.stream = .playback ∧ ¬ env.playbackData s then (-EPIPE, sys)
  else (0, sys.setTriggerMaster s (some s))

def sndPcmDoStart (sys : PcmSystem Sub) (s : Sub) : Int × PcmSystem Sub :=
  if (sys.substreams s).triggerMaster ≠ some s then (0, sys) else opsTrigger env group sys s .start

def sndPcmUndoStart (sys : PcmSystem Sub) (s : Sub) : PcmSystem Sub :=
  if (sys.substreams s).triggerMaster = some s then (opsTrigger env group sys s .stop).2 else sys

def sndPcmPostStart (state : SndPcmState) (sys : PcmSystem Sub) (s : Sub) : PcmSystem Sub :=
  (sndPcmTriggerTstamp sys s).setState s state

def sndPcmActionStart : ActionOps Sub where
  preAction := sndPcmPreStart env
  doAction sys s := some (sndPcmDoStart env group sys s)
  undoAction := some (sndPcmUndoStart env group)
  postAction := sndPcmPostStart .running

def sndPcmPreStop (sys : PcmSystem Sub) (s : Sub) : Int × PcmSystem Sub :=
  if (sys.substreams s).state = .open then (-EBADFD, sys) else (0, sys.setTriggerMaster s (some s))

def sndPcmDoStop (sys : PcmSystem Sub) (s : Sub) : Int × PcmSystem Sub :=
  if (sys.substreams s).triggerMaster = some s ∧ sndPcmRunning sys s then (0, (opsTrigger env group sys s .stop).2)
  else (0, sys)

def sndPcmPostStop (state : SndPcmState) (sys : PcmSystem Sub) (s : Sub) : PcmSystem Sub :=
  if (sys.substreams s).state ≠ state then (sndPcmTriggerTstamp sys s).setState s state else sys

def sndPcmActionStop (state : SndPcmState) : ActionOps Sub where
  preAction := sndPcmPreStop
  doAction sys s := some (sndPcmDoStop env group sys s)
  undoAction := none
  postAction := sndPcmPostStop state

/-- `xrun()` on a substream on its own; on a linked one `snd_pcm_stop` waits for the group lock that
    the caller holds. -/
def xrun (linked : Bool) (sys : PcmSystem Sub) (s : Sub) : Option (PcmSystem Sub) :=
  if linked then none else (sndPcmActionSingle (sndPcmActionStop env group .xrun) s sys).map Prod.snd

def sndPcmPrePause (push : Bool) (sys : PcmSystem Sub) (s : Sub) : Int × PcmSystem Sub :=
  let runtime := sys.substreams s
  if ¬ runtime.infoPause then (-ENOSYS, sys)
  else if push ∧ runtime.state ≠ .running then (-EBADFD, sys)
  else if ¬ push ∧ runtime.state ≠ .paused then (-EBADFD, sys)
  else (0, sys.setTriggerMaster s (some s))

def pauseCmd (push : Bool) : TriggerCmd := if push then .pausePush else .pauseRelease

def sndPcmDoPause (linked push : Bool) (sys : PcmSystem Sub) (s : Sub) : Option (Int × PcmSystem Sub) :=
  if (sys.substreams s).triggerMaster ≠ some s then some (0, sys)
  else
    match if push ∧ env.xrun s then xrun env group linked sys s else some sys with
    | none => none
    | some sys => some (opsTrigger env group sys s (pauseCmd push))

def sndPcmUndoPause (push : Bool) (sys : PcmSystem Sub) (s : Sub) : PcmSystem Sub :=
  if (sys.substreams s).triggerMaster = some s then (opsTrigger env group sys s (pauseCmd !push)).2 else sys

def sndPcmPostPause (push : Bool) (sys : PcmSystem Sub) (s : Sub) : PcmSystem Sub :=
  (sndPcmTriggerTstamp sys s).setState s (if push then .paused else .running)

def sndPcmActionPause (linked push : Bool) : ActionOps Sub where
  preAction := sndPcmPrePause push
  doAction := sndPcmDoPause env group linked push
  undoAction := some (sndPcmUndoPause env group push)
  postAction := sndPcmPostPause push

def sndPcmPreSuspend (sys : PcmSystem Sub) (s : Sub) : Int × PcmSystem Sub :=
  if (sys.substreams s).state = .suspended then (-EBUSY, sys) else (0, sys.setTriggerMaster s (some s))

def sndPcmDoSuspend (sys : PcmSystem Sub) (s : Sub) : Int × PcmSystem Sub :=
  if (sys.substreams s).triggerMaster ≠ some s then (0, sys)
  else if ¬ sndPcmRunning sys s then (0, sys)
  else (0, (opsTrigger env group sys s .suspend).2)

def sndPcmPostSuspend (sys : PcmSystem Sub) (s : Sub) : PcmSystem Sub :=
  (sndPcmTriggerTstamp sys s).update s fun r => { r with suspendedState := r.state, state := .suspended }

def sndPcmActionSuspend : ActionOps Sub where
  preAction := sndPcmPreSuspend
  doAction sys s := some (sndPcmDoSuspend env group sys s)
  undoAction := none
  postAction := sndPcmPostSuspend

def sndPcmPreResume (sys : PcmSystem Sub) (s : Sub) : Int × PcmSystem Sub :=
  if ¬ (sys.substreams s).infoResume then (-ENOSYS, sys) else (0, sys.setTriggerMaster s (some s))

def suspendedRunning (r : SubstreamState Sub) : Bool := runningState r.stream r.suspendedState

def sndPcmDoResume (sys : PcmSystem Sub) (s : Sub) : Int × PcmSystem Sub :=
  if (sys.substreams s).triggerMaster ≠ some s then (0, sys)
  else if ¬ suspendedRunning (sys.substreams s) then (0, sys)
  else opsTrigger env group sys s .resume

def sndPcmUndoResume (sys : PcmSystem Sub) (s : Sub) : PcmSystem Sub :=
  if (sys.substreams s).triggerMaster = some s ∧ sndPcmRunning sys s then (opsTrigger env group sys s .suspend).2
  else sys

def sndPcmPostResume (sys : PcmSystem Sub) (s : Sub) : PcmSystem Sub :=
  (sndPcmTriggerTstamp sys s).update s fun r => { r with state := r.suspendedState }

def sndPcmActionResume : ActionOps Sub where
  preAction := sndPcmPreResume
  doAction sys s := some (sndPcmDoResume env group sys s)
  undoAction := some (sndPcmUndoResume env group)
  postAction := sndPcmPostResume

end Ops

end AlsaDriver.Pcm
