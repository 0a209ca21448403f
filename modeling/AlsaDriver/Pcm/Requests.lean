import Mathlib.Tactic.SplitIfs
import AlsaDriver.Pcm.Action

namespace AlsaDriver.Pcm

variable {Sub : Type*}

def actionSingle (ops : ActionOps Sub) (s : Sub) (sys : PcmSystem Sub) : PcmSystem Sub :=
  match sndPcmActionSingle ops s sys with
  | some (_, sys) => sys
  | none => sys

section Single

variable {ops : ActionOps Sub} {s : Sub} {sys sys1 sys2 : PcmSystem Sub} {res : Int}

theorem actionSingle_refused (pre : ops.preAction sys s = (res, sys1)) (failure : res < 0) :
    actionSingle ops s sys = sys1 := by
  simp only [actionSingle, sndPcmActionSingle, pre, failure, if_true]

theorem sndPcmActionSingle_done (pre : ops.preAction sys s = (0, sys1))
    (act : ops.doAction sys1 s = some (0, sys2)) :
    sndPcmActionSingle ops s sys = some (0, ops.postAction sys2 s) := by
  simp only [sndPcmActionSingle, pre, act, Int.lt_irrefl, if_false, if_true]

theorem actionSingle_done (pre : ops.preAction sys s = (0, sys1)) (act : ops.doAction sys1 s = some (0, sys2)) :
    actionSingle ops s sys = ops.postAction sys2 s := by
  simp only [actionSingle, sndPcmActionSingle_done pre act]

theorem actionSingle_undone {undo : PcmSystem Sub → Sub → PcmSystem Sub} (pre : ops.preAction sys s = (0, sys1))
    (act : ops.doAction sys1 s = some (res, sys2)) (failure : res ≠ 0) (back : ops.undoAction = some undo) :
    actionSingle ops s sys = undo sys2 s := by
  simp only [actionSingle, sndPcmActionSingle, pre, act, back, failure, Int.lt_irrefl, if_false]

theorem actionSingle_failed (pre : ops.preAction sys s = (0, sys1)) (act : ops.doAction sys1 s = some (res, sys2))
    (failure : res ≠ 0) (back : ops.undoAction = none) : actionSingle ops s sys = sys2 := by
  simp only [actionSingle, sndPcmActionSingle, pre, act, back, failure, Int.lt_irrefl, if_false]

end Single

variable [DecidableEq Sub]

section Drain

variable (env : RequestEnv Sub) (group : List Sub)

def sndPcmPreDrainInit (sys : PcmSystem Sub) (s : Sub) : Int × PcmSystem Sub :=
  match (sys.substreams s).state with
  | .open | .disconnected | .suspended => (-EBADFD, sys)
  | _ => (0, sys.setTriggerMaster s (some s))

def sndPcmDoDrainInit (sys : PcmSystem Sub) (s : Sub) : PcmSystem Sub :=
  match (sys.substreams s).stream, (sys.substreams s).state with
  | .playback, .prepared =>
    if env.playbackEmpty s then sys else sndPcmPostStart .draining (sndPcmDoStart env group sys s).2 s
  | .playback, .running => sys.setState s .draining
  | .playback, .xrun => sys.setState s .setup
  | .capture, .running =>
    let newState := if env.captureAvail s > 0 then .draining else .setup
    sndPcmPostStop newState (sndPcmDoStop env group sys s).2 s
  | _, _ => sys

def sndPcmActionDrainInit : ActionOps Sub where
  preAction := sndPcmPreDrainInit
  doAction sys s := some (0, sndPcmDoDrainInit env group sys s)
  undoAction := none
  postAction sys _ := sys

def sndPcmPrePrepare (sys : PcmSystem Sub) (s : Sub) : Int × PcmSystem Sub :=
  if (sys.substreams s).state = .open ∨ (sys.substreams s).state = .disconnected then (-EBADFD, sys)
  else if sndPcmRunning sys s then (-EBUSY, sys)
  else (0, sys)

/-- The driver's `prepare` and, after it, its `SNDRV_PCM_IOCTL1_RESET`. -/
def sndPcmDoPrepare (sys : PcmSystem Sub) (s : Sub) : Int × PcmSystem Sub :=
  let sys := sys.emit (.prepare s (env.prepare s))
  if env.prepare s < 0 then (env.prepare s, sys)
  else if env.reset s < 0 then (env.reset s, sys)
  else (0, sys)

def sndPcmSetState (sys : PcmSystem Sub) (s : Sub) (state : SndPcmState) : PcmSystem Sub :=
  if (sys.substreams s).state ≠ .disconnected then sys.setState s state else sys

def sndPcmActionPrepare : ActionOps Sub where
  preAction := sndPcmPrePrepare
  doAction sys s := some (sndPcmDoPrepare env sys s)
  undoAction := none
  postAction sys s := sndPcmSetState sys s .prepared

end Drain

/-- What reaches an unlinked substream. `power` says whether `snd_power_wait` succeeds and `mapped`
    whether the buffer is mapped; the parameters of a successful `hwParams` bring the two info bits.
    `drain` is the request up to its wait, `drainTimeout` the end of the wait without progress, and
    `pointerUpdate` an update that finds the buffer played out or past its threshold. -/
inductive PcmRequest where
  | hwParams (mapped : Bool) (params : Option (Bool × Bool))
  | hwFree (mapped : Bool)
  | prepare (power : Bool)
  | start
  | pause (push : Bool)
  | drain (power : Bool)
  | drainTimeout
  | drop
  | xrun (power : Bool)
  | suspend
  | resume (power : Bool)
  | pointerUpdate

section Requests

variable (env : RequestEnv Sub)

def sndPcmHwParams (mapped : Bool) (params : Option (Bool × Bool)) (sys : PcmSystem Sub) (s : Sub) : PcmSystem Sub :=
  match (sys.substreams s).state with
  | .open | .setup | .prepared =>
    if mapped then sys
    else
      match params with
      | none => sndPcmSetState sys s .open
      | some (pause, resume) =>
        sndPcmSetState (sys.update s fun r => { r with infoPause := pause, infoResume := resume }) s .setup
  | _ => sys

def sndPcmHwFree (mapped : Bool) (sys : PcmSystem Sub) (s : Sub) : PcmSystem Sub :=
  match (sys.substreams s).state with
  | .setup | .prepared => if mapped then sys else sndPcmSetState sys s .open
  | _ => sys

def sndPcmPause (push : Bool) (sys : PcmSystem Sub) (s : Sub) : PcmSystem Sub :=
  actionSingle (sndPcmActionPause env [s] false push) s sys

def sndPcmStop (state : SndPcmState) (sys : PcmSystem Sub) (s : Sub) : PcmSystem Sub :=
  actionSingle (sndPcmActionStop env [s] state) s sys

def resumePause (sys : PcmSystem Sub) (s : Sub) : PcmSystem Sub :=
  if (sys.substreams s).state = .paused then sndPcmPause env false sys s else sys

def sndPcmDrain (power : Bool) (sys : PcmSystem Sub) (s : Sub) : PcmSystem Sub :=
  if (sys.substreams s).state = .open then sys
  else if (sys.substreams s).state = .suspended ∧ ¬ power then sys
  else actionSingle (sndPcmActionDrainInit env [s]) s (resumePause env sys s)

def sndPcmDrop (sys : PcmSystem Sub) (s : Sub) : PcmSystem Sub :=
  match (sys.substreams s).state with
  | .open | .disconnected | .suspended => sys
  | _ => sndPcmStop env .setup (resumePause env sys s) s

def sndPcmXrun (power : Bool) (sys : PcmSystem Sub) (s : Sub) : PcmSystem Sub :=
  if (sys.substreams s).state = .suspended ∧ ¬ power then sys
  else
    match (sys.substreams s).state with
    | .running => sndPcmStop env .xrun sys s
    | _ => sys

/-- The two ways in which `snd_pcm_update_state` stops a stream; pointers are only updated in
    these states. -/
def updateStops (sys : PcmSystem Sub) (s : Sub) : PcmSystem Sub :=
  match (sys.substreams s).state with
  | .draining => sndPcmStop env .setup sys s
  | .running => sndPcmStop env .xrun sys s
  | _ => sys

def requestExec (s : Sub) (sys : PcmSystem Sub) : RequestEnv Sub × PcmRequest → PcmSystem Sub
  | (_, .hwParams mapped params) => sndPcmHwParams mapped params sys s
  | (_, .hwFree mapped) => sndPcmHwFree mapped sys s
  | (env, .prepare power) => if power then actionSingle (sndPcmActionPrepare env) s sys else sys
  | (env, .start) => actionSingle (sndPcmActionStart env [s]) s sys
  | (env, .pause push) => sndPcmPause env push sys s
  | (env, .drain power) => sndPcmDrain env power sys s
  | (env, .drainTimeout) =>
    if (sys.substreams s).state = .suspended then sys else sndPcmStop env .setup sys s
  | (env, .drop) => sndPcmDrop env sys s
  | (env, .xrun power) => sndPcmXrun env power sys s
  | (env, .suspend) => actionSingle (sndPcmActionSuspend env [s]) s sys
  | (env, .resume power) => if power then actionSingle (sndPcmActionResume env [s]) s sys else sys
  | (env, .pointerUpdate) => updateStops env sys s

end Requests

end AlsaDriver.Pcm

namespace AlsaDriver.Pcm

variable {Sub : Type*} [DecidableEq Sub]

structure Becomes (s : Sub) (sys sys' : PcmSystem Sub) (state saved : SndPcmState)
    (events : List (ActionEvent Sub)) : Prop where
  stream : (sys'.substreams s).stream = (sys.substreams s).stream
  state : (sys'.substreams s).state = state
  saved : (sys'.substreams s).suspendedState = saved
  trace : sys'.trace = events ++ sys.trace

abbrev Unmoved (s : Sub) (sys sys' : PcmSystem Sub) : Prop :=
  Becomes s sys sys' (sys.substreams s).state (sys.substreams s).suspendedState []

variable {env : RequestEnv Sub} {s : Sub} {sys : PcmSystem Sub}

omit [DecidableEq Sub] in
theorem Unmoved.refl (s : Sub) (sys : PcmSystem Sub) : Unmoved s sys sys := ⟨rfl, rfl, rfl, rfl⟩

omit [DecidableEq Sub] in
theorem Unmoved.refused {ops : ActionOps Sub} {s : Sub} {sys : PcmSystem Sub} {res : Int}
    (pre : ops.preAction sys s = (res, sys)) (failure : res < 0) : Unmoved s sys (actionSingle ops s sys) := by
  rw [actionSingle_refused pre failure]
  exact .refl s sys

abbrev claimed (sys : PcmSystem Sub) (s : Sub) : PcmSystem Sub := sys.setTriggerMaster s (some s)

theorem claimed_master (sys : PcmSystem Sub) (s : Sub) :
    ((claimed sys s).substreams s).triggerMaster = some s := by simp

theorem claimed_trigger (env : RequestEnv Sub) (sys : PcmSystem Sub) (s : Sub) (cmd : TriggerCmd) :
    (opsTrigger env [s] (claimed sys s) s cmd).2.substreams s = (claimed sys s).substreams s :=
  opsTrigger_master env _ s [s] cmd (claimed_master sys s)

theorem start_cases (env : RequestEnv Sub) (s : Sub) (sys : PcmSystem Sub) :
    let sys' := actionSingle (sndPcmActionStart env [s]) s sys
    Unmoved s sys sys' ∨
    (sys.substreams s).state = .prepared ∧
      ((env.trigger s .start = 0 ∧
          Becomes s sys sys' .running (sys.substreams s).suspendedState [.trigger s .start 0]) ∨
        Becomes s sys sys' .prepared (sys.substreams s).suspendedState
          [.trigger s .stop (env.trigger s .stop), .trigger s .start (env.trigger s .start)]) := by
  intro sys'
  by_cases prepared : (sys.substreams s).state = .prepared
  · by_cases data : (sys.substreams s).stream = .playback ∧ ¬ env.playbackData s
    · left
      have pre : (sndPcmActionStart env [s]).preAction sys s = (-EPIPE, sys) := by
        simp [sndPcmActionStart, sndPcmPreStart, prepared, data]
      exact .refused pre (by decide)
    · right
      have pre : (sndPcmActionStart env [s]).preAction sys s = (0, claimed sys s) := by
        simp only [sndPcmActionStart, sndPcmPreStart, prepared, data, ne_eq, not_true, if_false]
      have act : (sndPcmActionStart env [s]).doAction (claimed sys s) s =
          some (env.trigger s .start, (opsTrigger env [s] (claimed sys s) s .start).2) := by
        simp only [sndPcmActionStart, sndPcmDoStart, claimed_master, ne_eq, not_true, if_false]
        rfl
      have kept := claimed_trigger env sys s .start
      refine ⟨prepared, ?_⟩
      by_cases ok : env.trigger s .start = 0
      · left
        rw [ok] at act
        have result : sys' = sndPcmPostStart .running _ s := actionSingle_done pre act
        refine ⟨ok, ?_⟩
        rw [result]
        constructor <;> simp [sndPcmPostStart, kept, ok]
      · right
        have result : sys' = sndPcmUndoStart env [s] _ s := actionSingle_undone pre act ok rfl
        have again := opsTrigger_master env _ s [s] .stop (by rw [kept]; exact claimed_master sys s)
        rw [result]
        constructor <;> simp [sndPcmUndoStart, kept, again, prepared]
  · left
    have pre : (sndPcmActionStart env [s]).preAction sys s = (-EBADFD, sys) := by
      simp only [sndPcmActionStart, sndPcmPreStart, prepared, ne_eq, not_false_eq_true, if_true]
    exact .refused pre (by decide)

theorem claimed_running (sys : PcmSystem Sub) (s : Sub) : sndPcmRunning (claimed sys s) s = sndPcmRunning sys s := by
  simp [sndPcmRunning]

theorem postStop_becomes {s : Sub} {sys sys1 : PcmSystem Sub} {events : List (ActionEvent Sub)}
    (same : sys1.substreams s = (claimed sys s).substreams s) (trace : sys1.trace = events ++ sys.trace)
    (state : SndPcmState) :
    Becomes s sys (sndPcmPostStop state sys1 s) state (sys.substreams s).suspendedState events := by
  unfold sndPcmPostStop
  split
  · constructor <;> simp [same, trace]
  · rename_i already
    rw [not_not] at already
    constructor <;> simp_all

theorem stop_cases (env : RequestEnv Sub) (s : Sub) (state : SndPcmState) (sys : PcmSystem Sub) :
    let sys' := sndPcmStop env state sys s
    ((sys.substreams s).state = .open ∧ Unmoved s sys sys') ∨
    (sndPcmRunning sys s = true ∧
      Becomes s sys sys' state (sys.substreams s).suspendedState [.trigger s .stop (env.trigger s .stop)]) ∨
    (sndPcmRunning sys s = false ∧ Becomes s sys sys' state (sys.substreams s).suspendedState []) := by
  intro sys'
  by_cases isOpen : (sys.substreams s).state = .open
  · left
    have pre : (sndPcmActionStop env [s] state).preAction sys s = (-EBADFD, sys) := by
      simp [sndPcmActionStop, sndPcmPreStop, isOpen]
    exact ⟨isOpen, .refused pre (by decide)⟩
  · right
    have pre : (sndPcmActionStop env [s] state).preAction sys s = (0, claimed sys s) := by
      simp [sndPcmActionStop, sndPcmPreStop, isOpen]
    cases running : sndPcmRunning sys s with
    | true =>
      left
      have act : (sndPcmActionStop env [s] state).doAction (claimed sys s) s =
          some (0, (opsTrigger env [s] (claimed sys s) s .stop).2) := by
        simp [sndPcmActionStop, sndPcmDoStop, claimed_running, running]
      have result : sys' = sndPcmPostStop state _ s := actionSingle_done pre act
      rw [result]
      exact ⟨rfl, postStop_becomes (claimed_trigger env sys s .stop) rfl state⟩
    | false =>
      right
      have act : (sndPcmActionStop env [s] state).doAction (claimed sys s) s = some (0, claimed sys s) := by
        simp [sndPcmActionStop, sndPcmDoStop, claimed_running, running]
      have result : sys' = sndPcmPostStop state _ s := actionSingle_done pre act
      rw [result]
      exact ⟨rfl, postStop_becomes rfl rfl state⟩

def pausable (push : Bool) (r : SubstreamState Sub) : Prop :=
  r.infoPause = true ∧ r.state = if push then .running else .paused

theorem pause_refused {push : Bool} (env : RequestEnv Sub) (refused : ¬ pausable push (sys.substreams s)) :
    Unmoved s sys (sndPcmPause env push sys s) := by
  by_cases info : (sys.substreams s).infoPause = true
  · have other : (sys.substreams s).state ≠ if push then .running else .paused := fun state => refused ⟨info, state⟩
    have pre : (sndPcmActionPause env [s] false push).preAction sys s = (-EBADFD, sys) := by
      cases push <;> simp_all [sndPcmActionPause, sndPcmPrePause]
    exact .refused pre (by decide)
  · have pre : (sndPcmActionPause env [s] false push).preAction sys s = (-ENOSYS, sys) := by
      simp [sndPcmActionPause, sndPcmPrePause, info]
    exact .refused pre (by decide)

theorem pause_accepted {push : Bool} (env : RequestEnv Sub) (accepted : pausable push (sys.substreams s)) :
    (sndPcmActionPause env [s] false push).preAction sys s = (0, claimed sys s) := by
  obtain ⟨info, state⟩ := accepted
  cases push <;> simp_all [sndPcmActionPause, sndPcmPrePause]

theorem pauseRelease_cases (env : RequestEnv Sub) (s : Sub) (sys : PcmSystem Sub) :
    let sys' := sndPcmPause env false sys s
    Unmoved s sys sys' ∧ ¬ pausable false (sys.substreams s) ∨
    (sys.substreams s).state = .paused ∧
      ((env.trigger s .pauseRelease = 0 ∧
          Becomes s sys sys' .running (sys.substreams s).suspendedState [.trigger s .pauseRelease 0]) ∨
        (env.trigger s .pauseRelease ≠ 0 ∧
          Becomes s sys sys' .paused (sys.substreams s).suspendedState
            [.trigger s .pausePush (env.trigger s .pausePush),
              .trigger s .pauseRelease (env.trigger s .pauseRelease)])) := by
  intro sys'
  by_cases accepted : pausable false (sys.substreams s)
  · right
    have pre := pause_accepted env accepted
    have act : (sndPcmActionPause env [s] false false).doAction (claimed sys s) s =
        some (env.trigger s .pauseRelease, (opsTrigger env [s] (claimed sys s) s .pauseRelease).2) := by
      simp only [sndPcmActionPause, sndPcmDoPause, claimed_master, ne_eq, not_true, if_false, Bool.false_eq_true,
        false_and]
      rfl
    have kept := claimed_trigger env sys s .pauseRelease
    have paused : (sys.substreams s).state = .paused := accepted.2
    refine ⟨paused, ?_⟩
    by_cases ok : env.trigger s .pauseRelease = 0
    · left
      rw [ok] at act
      have result : sys' = sndPcmPostPause false _ s := actionSingle_done pre act
      refine ⟨ok, ?_⟩
      rw [result]
      constructor <;> simp [sndPcmPostPause, kept, ok]
    · right
      have result : sys' = sndPcmUndoPause env [s] false _ s := actionSingle_undone pre act ok rfl
      have again := opsTrigger_master env _ s [s] .pausePush (by rw [kept]; exact claimed_master sys s)
      refine ⟨ok, ?_⟩
      rw [result]
      constructor <;> simp [sndPcmUndoPause, pauseCmd, kept, again, paused]
  · left
    exact ⟨pause_refused env accepted, accepted⟩

theorem xrun_alone (env : RequestEnv Sub) (sys : PcmSystem Sub) (s : Sub)
    (running : (sys.substreams s).state = .running) :
    ∃ sys', xrun env [s] false sys s = some sys' ∧
      sys'.substreams s = { sys.substreams s with state := .xrun, triggerMaster := none } ∧
      sys'.trace = .trigger s .stop (env.trigger s .stop) :: sys.trace := by
  have run : sndPcmRunning (claimed sys s) s = true := by simp [sndPcmRunning, runningState, running]
  have pre : (sndPcmActionStop env [s] .xrun).preAction sys s = (0, claimed sys s) := by
    simp [sndPcmActionStop, sndPcmPreStop, running]
  have act : (sndPcmActionStop env [s] .xrun).doAction (claimed sys s) s =
      some (0, (opsTrigger env [s] (claimed sys s) s .stop).2) := by
    simp [sndPcmActionStop, sndPcmDoStop, run]
  have kept := claimed_trigger env sys s .stop
  have single := sndPcmActionSingle_done pre act
  refine ⟨sndPcmPostStop .xrun (opsTrigger env [s] (claimed sys s) s .stop).2 s, ?_, ?_, ?_⟩
  · simp only [xrun, Bool.false_eq_true, if_false, single, Option.map_some]
    rfl
  · simp [sndPcmPostStop, kept, running]
  · simp [sndPcmPostStop, kept, running]

theorem pausePush_cases (env : RequestEnv Sub) (s : Sub) (sys : PcmSystem Sub) :
    let sys' := sndPcmPause env true sys s
    let saved := (sys.substreams s).suspendedState
    let push := env.trigger s .pausePush
    let release := env.trigger s .pauseRelease
    let stopped : ActionEvent Sub := .trigger s .stop (env.trigger s .stop)
    Unmoved s sys sys' ∨
    pausable true (sys.substreams s) ∧
      ((push = 0 ∧ Becomes s sys sys' .paused saved [.trigger s .pausePush 0]) ∨
        (push = 0 ∧ Becomes s sys sys' .paused saved [.trigger s .pausePush 0, stopped]) ∨
        (env.xrun s = false ∧ push ≠ 0 ∧
          Becomes s sys sys' .running saved [.trigger s .pauseRelease release, .trigger s .pausePush push]) ∨
        (env.xrun s = true ∧ push ≠ 0 ∧ env.chip s = none ∧
          Becomes s sys sys' .xrun saved [.trigger s .pausePush push, stopped]) ∨
        (env.xrun s = true ∧ push ≠ 0 ∧ env.chip s ≠ none ∧
          Becomes s sys sys' .xrun saved
            [.trigger s .pauseRelease release, .trigger s .pausePush push, stopped])) := by
  intro sys' saved push release stopped
  by_cases accepted : pausable true (sys.substreams s)
  · right
    refine ⟨accepted, ?_⟩
    have pre := pause_accepted env accepted
    have running : (sys.substreams s).state = .running := accepted.2
    cases found : env.xrun s with
    | false =>
      have act : (sndPcmActionPause env [s] false true).doAction (claimed sys s) s =
          some (push, (opsTrigger env [s] (claimed sys s) s .pausePush).2) := by
        simp [sndPcmActionPause, sndPcmDoPause, found, pauseCmd]
        rfl
      have kept := claimed_trigger env sys s .pausePush
      by_cases ok : push = 0
      · rw [ok] at act
        have result : sys' = sndPcmPostPause true _ s := actionSingle_done pre act
        refine Or.inl ⟨ok, ?_⟩
        rw [result]
        constructor <;> simp [sndPcmPostPause, kept, saved, show env.trigger s .pausePush = 0 from ok]
      · have result : sys' = sndPcmUndoPause env [s] true _ s := actionSingle_undone pre act ok rfl
        have again := opsTrigger_master env _ s [s] .pauseRelease (by rw [kept]; exact claimed_master sys s)
        refine Or.inr (Or.inr (Or.inl ⟨rfl, ok, ?_⟩))
        rw [result]
        constructor <;> simp [sndPcmUndoPause, pauseCmd, kept, again, running, saved, push, release]
    | true =>
      obtain ⟨sys1, stops, state, trace⟩ := xrun_alone env (claimed sys s) s (by simpa using running)
      have act : (sndPcmActionPause env [s] false true).doAction (claimed sys s) s =
          some (push, (opsTrigger env [s] sys1 s .pausePush).2) := by
        simp [sndPcmActionPause, sndPcmDoPause, found, pauseCmd, stops]
        rfl
      have after := opsTrigger_self env sys1 s [s] .pausePush
      by_cases ok : push = 0
      · rw [ok] at act
        have result : sys' = sndPcmPostPause true _ s := actionSingle_done pre act
        refine Or.inr (Or.inl ⟨ok, ?_⟩)
        rw [result]
        constructor <;>
          simp [sndPcmPostPause, after, state, trace, saved, stopped, show env.trigger s .pausePush = 0 from ok]
      · have result : sys' = sndPcmUndoPause env [s] true _ s := actionSingle_undone pre act ok rfl
        rw [result]
        cases chip : env.chip s with
        | none =>
          refine Or.inr (Or.inr (Or.inr (Or.inl ⟨rfl, ok, rfl, ?_⟩)))
          constructor <;>
            simp [sndPcmUndoPause, after, state, trace, saved, stopped, push, RequestEnv.synced, chip]
        | some c =>
          have again := opsTrigger_master env (opsTrigger env [s] sys1 s .pausePush).2 s [s] .pauseRelease
            (by simp [after, RequestEnv.synced, chip])
          refine Or.inr (Or.inr (Or.inr (Or.inr ⟨rfl, ok, by simp, ?_⟩)))
          constructor <;>
            simp [sndPcmUndoPause, pauseCmd, after, again, state, trace, saved, stopped, push, release,
              RequestEnv.synced, chip]
  · left
    exact pause_refused env accepted

theorem suspend_cases (env : RequestEnv Sub) (s : Sub) (sys : PcmSystem Sub) :
    let sys' := actionSingle (sndPcmActionSuspend env [s]) s sys
    Unmoved s sys sys' ∨
    (sys.substreams s).state ≠ .suspended ∧
      ((sndPcmRunning sys s = true ∧
          Becomes s sys sys' .suspended (sys.substreams s).state [.trigger s .suspend (env.trigger s .suspend)]) ∨
        (sndPcmRunning sys s = false ∧ Becomes s sys sys' .suspended (sys.substreams s).state [])) := by
  intro sys'
  by_cases already : (sys.substreams s).state = .suspended
  · left
    have pre : (sndPcmActionSuspend env [s]).preAction sys s = (-EBUSY, sys) := by
      simp [sndPcmActionSuspend, sndPcmPreSuspend, already]
    exact .refused pre (by decide)
  · right
    refine ⟨already, ?_⟩
    have pre : (sndPcmActionSuspend env [s]).preAction sys s = (0, claimed sys s) := by
      simp [sndPcmActionSuspend, sndPcmPreSuspend, already]
    cases running : sndPcmRunning sys s with
    | true =>
      left
      have act : (sndPcmActionSuspend env [s]).doAction (claimed sys s) s =
          some (0, (opsTrigger env [s] (claimed sys s) s .suspend).2) := by
        simp [sndPcmActionSuspend, sndPcmDoSuspend, claimed_running, running]
      have kept := claimed_trigger env sys s .suspend
      have result : sys' = sndPcmPostSuspend _ s := actionSingle_done pre act
      refine ⟨rfl, ?_⟩
      rw [result]
      constructor <;> simp [sndPcmPostSuspend, kept]
    | false =>
      right
      have act : (sndPcmActionSuspend env [s]).doAction (claimed sys s) s = some (0, claimed sys s) := by
        simp [sndPcmActionSuspend, sndPcmDoSuspend, claimed_running, running]
      have result : sys' = sndPcmPostSuspend _ s := actionSingle_done pre act
      refine ⟨rfl, ?_⟩
      rw [result]
      constructor <;> simp [sndPcmPostSuspend]

theorem resume_cases (env : RequestEnv Sub) (s : Sub) (sys : PcmSystem Sub) :
    let sys' := actionSingle (sndPcmActionResume env [s]) s sys
    let saved := (sys.substreams s).suspendedState
    let resume := env.trigger s .resume
    Unmoved s sys sys' ∨
    (sys.substreams s).infoResume = true ∧
      ((suspendedRunning (sys.substreams s) = false ∧ Becomes s sys sys' saved saved []) ∨
        (suspendedRunning (sys.substreams s) = true ∧
          ((resume = 0 ∧ Becomes s sys sys' saved saved [.trigger s .resume 0]) ∨
            (resume ≠ 0 ∧ sndPcmRunning sys s = false ∧
              Becomes s sys sys' (sys.substreams s).state saved [.trigger s .resume resume]) ∨
            (resume ≠ 0 ∧ sndPcmRunning sys s = true ∧
              Becomes s sys sys' (sys.substreams s).state saved
                [.trigger s .suspend (env.trigger s .suspend), .trigger s .resume resume])))) := by
  intro sys' saved resume
  by_cases info : (sys.substreams s).infoResume = true
  · right
    refine ⟨info, ?_⟩
    have pre : (sndPcmActionResume env [s]).preAction sys s = (0, claimed sys s) := by
      simp [sndPcmActionResume, sndPcmPreResume, info]
    cases wasRunning : suspendedRunning (sys.substreams s) with
    | false =>
      left
      have act : (sndPcmActionResume env [s]).doAction (claimed sys s) s = some (0, claimed sys s) := by
        have same : suspendedRunning ((claimed sys s).substreams s) = false := by
          simpa [suspendedRunning] using wasRunning
        simp only [sndPcmActionResume, sndPcmDoResume, claimed_master, same, ne_eq, not_true, if_false,
          Bool.false_eq_true, not_false_eq_true, if_true]
      have result : sys' = sndPcmPostResume _ s := actionSingle_done pre act
      refine ⟨rfl, ?_⟩
      rw [result]
      constructor <;> simp [sndPcmPostResume, saved]
    | true =>
      right
      have same : suspendedRunning ((claimed sys s).substreams s) = true := by
        simpa [suspendedRunning] using wasRunning
      have act : (sndPcmActionResume env [s]).doAction (claimed sys s) s =
          some (resume, (opsTrigger env [s] (claimed sys s) s .resume).2) := by
        simp only [sndPcmActionResume, sndPcmDoResume, claimed_master, same, ne_eq, not_true, if_false]
        rfl
      have kept := claimed_trigger env sys s .resume
      refine ⟨rfl, ?_⟩
      by_cases ok : resume = 0
      · left
        rw [ok] at act
        have result : sys' = sndPcmPostResume _ s := actionSingle_done pre act
        refine ⟨ok, ?_⟩
        rw [result]
        constructor <;> simp [sndPcmPostResume, kept, saved, show env.trigger s .resume = 0 from ok]
      · right
        have result : sys' = sndPcmUndoResume env [s] _ s := actionSingle_undone pre act ok rfl
        have run : sndPcmRunning (opsTrigger env [s] (claimed sys s) s .resume).2 s = sndPcmRunning sys s := by
          simp [sndPcmRunning, kept]
        have again := opsTrigger_master env _ s [s] .suspend (by rw [kept]; exact claimed_master sys s)
        rw [result]
        cases running : sndPcmRunning sys s with
        | false =>
          left
          refine ⟨ok, rfl, ?_⟩
          constructor <;> simp [sndPcmUndoResume, run, running, kept, saved, resume]
        | true =>
          right
          refine ⟨ok, rfl, ?_⟩
          constructor <;> simp [sndPcmUndoResume, run, running, kept, again, saved, resume]
  · left
    have pre : (sndPcmActionResume env [s]).preAction sys s = (-ENOSYS, sys) := by
      simp [sndPcmActionResume, sndPcmPreResume, info]
    exact .refused pre (by decide)

theorem prepare_cases (env : RequestEnv Sub) (s : Sub) (sys : PcmSystem Sub) :
    let sys' := actionSingle (sndPcmActionPrepare env) s sys
    Unmoved s sys sys' ∨
    (sys.substreams s).state ≠ .open ∧ (sys.substreams s).state ≠ .disconnected ∧ sndPcmRunning sys s = false ∧
      (Becomes s sys sys' (sys.substreams s).state (sys.substreams s).suspendedState
          [.prepare s (env.prepare s)] ∨
        Becomes s sys sys' .prepared (sys.substreams s).suspendedState [.prepare s (env.prepare s)]) := by
  intro sys'
  by_cases absent : (sys.substreams s).state = .open ∨ (sys.substreams s).state = .disconnected
  · left
    have pre : (sndPcmActionPrepare env).preAction sys s = (-EBADFD, sys) := by
      simp only [sndPcmActionPrepare, sndPcmPrePrepare, absent, if_true]
    exact .refused pre (by decide)
  · cases running : sndPcmRunning sys s with
    | true =>
      left
      have pre : (sndPcmActionPrepare env).preAction sys s = (-EBUSY, sys) := by
        simp only [sndPcmActionPrepare, sndPcmPrePrepare, absent, running, if_true, if_false]
      exact .refused pre (by decide)
    | false =>
      right
      have pre : (sndPcmActionPrepare env).preAction sys s = (0, sys) := by
        simp only [sndPcmActionPrepare, sndPcmPrePrepare, absent, running, if_false, Bool.false_eq_true]
      obtain ⟨notOpen, connected⟩ := not_or.mp absent
      refine ⟨notOpen, connected, rfl, ?_⟩
      by_cases failed : env.prepare s < 0
      · left
        have act : (sndPcmActionPrepare env).doAction sys s =
            some (env.prepare s, sys.emit (.prepare s (env.prepare s))) := by
          simp only [sndPcmActionPrepare, sndPcmDoPrepare, failed, if_true]
        have result : sys' = _ := actionSingle_failed pre act (by omega) rfl
        rw [result]
        constructor <;> rfl
      · by_cases unreset : env.reset s < 0
        · left
          have act : (sndPcmActionPrepare env).doAction sys s =
              some (env.reset s, sys.emit (.prepare s (env.prepare s))) := by
            simp only [sndPcmActionPrepare, sndPcmDoPrepare, failed, unreset, if_true, if_false]
          have result : sys' = _ := actionSingle_failed pre act (by omega) rfl
          rw [result]
          constructor <;> rfl
        · right
          have act : (sndPcmActionPrepare env).doAction sys s =
              some (0, sys.emit (.prepare s (env.prepare s))) := by
            simp only [sndPcmActionPrepare, sndPcmDoPrepare, failed, unreset, if_false]
          have result : sys' = sndPcmSetState _ s .prepared := actionSingle_done pre act
          rw [result]
          have still : ((sys.emit (.prepare s (env.prepare s))).substreams s).state ≠ .disconnected := connected
          unfold sndPcmSetState
          rw [if_pos still]
          constructor <;> simp [PcmSystem.emit]

theorem drainInit_cases (env : RequestEnv Sub) (s : Sub) (sys : PcmSystem Sub) :
    let sys' := actionSingle (sndPcmActionDrainInit env [s]) s sys
    let saved := (sys.substreams s).suspendedState
    Unmoved s sys sys' ∨
    ((sys.substreams s).stream = .playback ∧ (sys.substreams s).state = .prepared ∧ env.playbackEmpty s = false ∧
      Becomes s sys sys' .draining saved [.trigger s .start (env.trigger s .start)]) ∨
    ((sys.substreams s).stream = .playback ∧ (sys.substreams s).state = .running ∧
      Becomes s sys sys' .draining saved []) ∨
    ((sys.substreams s).stream = .playback ∧ (sys.substreams s).state = .xrun ∧ Becomes s sys sys' .setup saved []) ∨
    ((sys.substreams s).stream = .capture ∧ (sys.substreams s).state = .running ∧
      ∃ state, (state = .draining ∨ state = .setup) ∧
        Becomes s sys sys' state saved [.trigger s .stop (env.trigger s .stop)]) := by
  intro sys' saved
  by_cases drainable :
      (sys.substreams s).state = .open ∨ (sys.substreams s).state = .disconnected ∨
        (sys.substreams s).state = .suspended
  · left
    have pre : (sndPcmActionDrainInit env [s]).preAction sys s = (-EBADFD, sys) := by
      obtain state | state | state := drainable <;> simp [sndPcmActionDrainInit, sndPcmPreDrainInit, state]
    exact .refused pre (by decide)
  · have pre : (sndPcmActionDrainInit env [s]).preAction sys s = (0, claimed sys s) := by
      cases state : (sys.substreams s).state <;>
        simp_all [sndPcmActionDrainInit, sndPcmPreDrainInit]
    have result : sys' = sndPcmDoDrainInit env [s] (claimed sys s) s := actionSingle_done pre rfl
    have same : Unmoved s sys (claimed sys s) := by constructor <;> simp
    rw [result]
    cases stream : (sys.substreams s).stream <;> cases state : (sys.substreams s).state
    case playback.prepared =>
      cases empty : env.playbackEmpty s with
      | true => exact Or.inl (by simpa [sndPcmDoDrainInit, stream, state, empty] using same)
      | false =>
        have kept := claimed_trigger env sys s .start
        refine Or.inr (Or.inl ⟨rfl, rfl, rfl, ?_⟩)
        constructor <;> simp [sndPcmDoDrainInit, sndPcmDoStart, sndPcmPostStart, stream, state, empty, kept, saved]
    case playback.running =>
      refine Or.inr (Or.inr (Or.inl ⟨rfl, rfl, ?_⟩))
      constructor <;> simp [sndPcmDoDrainInit, stream, state, saved]
    case playback.xrun =>
      refine Or.inr (Or.inr (Or.inr (Or.inl ⟨rfl, rfl, ?_⟩)))
      constructor <;> simp [sndPcmDoDrainInit, stream, state, saved]
    case capture.running =>
      have run : sndPcmRunning (claimed sys s) s = true := by simp [sndPcmRunning, runningState, state]
      have kept := claimed_trigger env sys s .stop
      refine Or.inr (Or.inr (Or.inr (Or.inr ⟨rfl, rfl, if env.captureAvail s > 0 then .draining else .setup, ?_, ?_⟩)))
      · split
        · exact Or.inl rfl
        · exact Or.inr rfl
      · have stopped := postStop_becomes kept
          (show _ = [.trigger s .stop (env.trigger s .stop)] ++ sys.trace from rfl) (if env.captureAvail s > 0 then .draining else .setup)
        simpa [sndPcmDoDrainInit, sndPcmDoStop, stream, state, run] using stopped
    all_goals exact Or.inl (by simpa [sndPcmDoDrainInit, stream, state] using same)

end AlsaDriver.Pcm
