import AlsaDriver.Lib.Runs
import AlsaDriver.Pcm.Requests

namespace AlsaDriver.Pcm

open Runs

variable {Sub : Type*} [DecidableEq Sub]

/-- The DMA of a driver that starts on START, RESUME and PAUSE_RELEASE returning 0 and stops on
    STOP, SUSPEND and PAUSE_PUSH. -/
@[simp] def dmaFlag (s : Sub) : List (ActionEvent Sub) → Bool
  | [] => false
  | .trigger t cmd ret :: older =>
    if t = s then
      match cmd with
      | .start | .resume | .pauseRelease => ret == 0 || dmaFlag s older
      | .stop | .suspend | .pausePush => false
    else dmaFlag s older
  | _ :: older => dmaFlag s older

@[simp] def armed (s : Sub) : List (ActionEvent Sub) → Bool
  | [] => false
  | .trigger t cmd ret :: older =>
    if t = s then
      match cmd with
      | .start | .resume | .pauseRelease | .pausePush => ret == 0 || armed s older
      | .stop | .suspend => false
    else armed s older
  | _ :: older => armed s older

@[simp] def PrepareSafe (s : Sub) : List (ActionEvent Sub) → Prop
  | [] => True
  | .prepare t _ :: older => (t = s → armed s older = false) ∧ PrepareSafe s older
  | _ :: older => PrepareSafe s older

instance instDecidablePrepareSafe (s : Sub) : (trace : List (ActionEvent Sub)) → Decidable (PrepareSafe s trace)
  | [] => .isTrue trivial
  | .prepare t _ :: older =>
    have := instDecidablePrepareSafe s older
    inferInstanceAs (Decidable ((t = s → armed s older = false) ∧ PrepareSafe s older))
  | .trigger .. :: older | .lock _ :: older | .unlock _ :: older => instDecidablePrepareSafe s older

structure DmaAgrees (s : Sub) (sys : PcmSystem Sub) : Prop where
  dma : dmaFlag s sys.trace = sndPcmRunning sys s
  prepare : PrepareSafe s sys.trace

def held (r : SubstreamState Sub) : Bool :=
  r.state == .paused || (r.state == .suspended && r.suspendedState == .paused)

structure DmaInv (s : Sub) (sys : PcmSystem Sub) : Prop extends DmaAgrees s sys where
  arm : armed s sys.trace = true → sndPcmRunning sys s = true ∨ held (sys.substreams s) = true

variable {env : RequestEnv Sub} {s : Sub} {sys sys' : PcmSystem Sub}

theorem DmaInv.becomes {state saved : SndPcmState} {events : List (ActionEvent Sub)} (inv : DmaInv s sys)
    (after : Becomes s sys sys' state saved events)
    (dma : dmaFlag s (events ++ sys.trace) = runningState (sys.substreams s).stream state)
    (prepare : PrepareSafe s sys.trace → PrepareSafe s (events ++ sys.trace))
    (arm : armed s (events ++ sys.trace) = true →
      runningState (sys.substreams s).stream state = true ∨ state = .paused ∨ state = .suspended ∧ saved = .paused) :
    DmaInv s sys' := by
  have running : sndPcmRunning sys' s = runningState (sys.substreams s).stream state := by
    simp only [sndPcmRunning, after.stream, after.state]
  refine ⟨⟨?_, ?_⟩, ?_⟩
  · rw [after.trace, running]
    exact dma
  · rw [after.trace]
    exact prepare inv.prepare
  · rw [after.trace, running]
    intro on
    simpa [held, after.state, after.saved] using arm on

theorem DmaInv.unmoved (inv : DmaInv s sys) (after : Unmoved s sys sys') : DmaInv s sys' := by
  apply inv.becomes after inv.dma id
  intro on
  simpa [held, sndPcmRunning] using inv.arm on

theorem DmaInv.disarmed (inv : DmaInv s sys) (stopped : sndPcmRunning sys s = false)
    (free : held (sys.substreams s) = false) : armed s sys.trace = false := by
  cases on : armed s sys.trace with
  | false => rfl
  | true =>
    have somewhere := inv.arm on
    simp [stopped, free] at somewhere

theorem DmaInv.idle {state saved : SndPcmState} (inv : DmaInv s sys) (stopped : sndPcmRunning sys s = false)
    (free : held (sys.substreams s) = false) (after : Becomes s sys sys' state saved [])
    (still : runningState (sys.substreams s).stream state = false) : DmaInv s sys' := by
  apply inv.becomes after
  · rw [still, List.nil_append, inv.dma, stopped]
  · exact id
  · rw [List.nil_append, inv.disarmed stopped free]
    simp

theorem start_keeps (env : RequestEnv Sub) (inv : DmaInv s sys) :
    DmaInv s (actionSingle (sndPcmActionStart env [s]) s sys) := by
  obtain refused | ⟨prepared, ⟨ok, after⟩ | after⟩ := start_cases env s sys
  · exact inv.unmoved refused
  · apply inv.becomes after <;> simp [runningState]
  · apply inv.becomes after <;> simp [runningState]

theorem stop_keeps (env : RequestEnv Sub) {state : SndPcmState} (target : state = .setup ∨ state = .xrun)
    (inv : DmaInv s sys) (free : held (sys.substreams s) = false) : DmaInv s (sndPcmStop env state sys s) := by
  have still : runningState (sys.substreams s).stream state = false := by
    obtain rfl | rfl := target <;> simp [runningState]
  obtain ⟨-, refused⟩ | ⟨-, after⟩ | ⟨stopped, after⟩ := stop_cases env s state sys
  · exact inv.unmoved refused
  · apply inv.becomes after <;> simp [still]
  · exact inv.idle stopped free after still

theorem pauseRelease_keeps (env : RequestEnv Sub) (inv : DmaInv s sys) :
    DmaInv s (sndPcmPause env false sys s) := by
  obtain ⟨refused, -⟩ | ⟨paused, ⟨ok, after⟩ | ⟨failed, after⟩⟩ := pauseRelease_cases env s sys
  · exact inv.unmoved refused
  · apply inv.becomes after <;> simp [runningState]
  · apply inv.becomes after <;> simp [runningState]

/-- The ways in which pushing the pause leaves the DMA as the state says: the push succeeds, or it
    is undone by a release that the DMA follows exactly if the stream still runs. -/
def PushSafe (env : RequestEnv Sub) (s : Sub) : Prop :=
  env.trigger s .pausePush = 0 ∨
    (env.xrun s = false ∧ env.trigger s .pauseRelease = 0) ∨
    (env.xrun s = true ∧ (env.chip s = none ∨ env.trigger s .pauseRelease ≠ 0))

instance (env : RequestEnv Sub) (s : Sub) : Decidable (PushSafe env s) := by
  unfold PushSafe
  infer_instance

theorem pausePush_keeps (inv : DmaInv s sys) (safe : pausable true (sys.substreams s) → PushSafe env s) :
    DmaInv s (sndPcmPause env true sys s) := by
  obtain refused | ⟨accepted, cases⟩ := pausePush_cases env s sys
  · exact inv.unmoved refused
  · have push := safe accepted
    unfold PushSafe at push
    obtain ⟨ok, after⟩ | ⟨ok, after⟩ | ⟨found, failed, after⟩ | ⟨found, failed, chip, after⟩ |
      ⟨found, failed, chip, after⟩ := cases
    · apply inv.becomes after <;> simp [runningState]
    · apply inv.becomes after <;> simp [runningState]
    · have released : env.trigger s .pauseRelease = 0 := by simpa [found, failed] using push
      apply inv.becomes after <;> simp [runningState, released]
    · apply inv.becomes after <;> simp [runningState, failed]
    · have unreleased : env.trigger s .pauseRelease ≠ 0 := by simpa [found, failed, chip] using push
      have off : (env.trigger s .pauseRelease == 0) = false := beq_false_of_ne unreleased
      apply inv.becomes after <;> simp [runningState, failed, off]

theorem suspend_keeps (env : RequestEnv Sub) (inv : DmaInv s sys) :
    DmaInv s (actionSingle (sndPcmActionSuspend env [s]) s sys) := by
  obtain refused | ⟨awake, ⟨running, after⟩ | ⟨stopped, after⟩⟩ := suspend_cases env s sys
  · exact inv.unmoved refused
  · apply inv.becomes after <;> simp [runningState]
  · apply inv.becomes after
    · rw [List.nil_append, inv.dma, stopped]
      simp [runningState]
    · exact id
    · intro on
      have paused : (sys.substreams s).state = .paused := by simpa [stopped, held, awake] using inv.arm on
      exact Or.inr (Or.inr ⟨rfl, paused⟩)

def ResumeSafe (env : RequestEnv Sub) (s : Sub) (sys : PcmSystem Sub) : Prop :=
  if suspendedRunning (sys.substreams s) then env.trigger s .resume = 0 ∨ sndPcmRunning sys s = false
  else
    sndPcmRunning sys s = false ∧
      ((sys.substreams s).state = .paused → (sys.substreams s).suspendedState = .paused)

theorem resume_keeps (inv : DmaInv s sys)
    (safe : (sys.substreams s).infoResume = true → ResumeSafe env s sys) :
    DmaInv s (actionSingle (sndPcmActionResume env [s]) s sys) := by
  obtain refused | ⟨info, cases⟩ := resume_cases env s sys
  · exact inv.unmoved refused
  · have resumable := safe info
    unfold ResumeSafe at resumable
    obtain ⟨wasStopped, after⟩ |
      ⟨wasRunning, ⟨ok, after⟩ | ⟨failed, stopped, after⟩ | ⟨failed, running, after⟩⟩ := cases
    · obtain ⟨stopped, paused⟩ : sndPcmRunning sys s = false ∧ _ := by simpa [wasStopped] using resumable
      have still : runningState (sys.substreams s).stream (sys.substreams s).suspendedState = false := wasStopped
      apply inv.becomes after
      · rw [List.nil_append, inv.dma, stopped, still]
      · exact id
      · intro on
        have somewhere := inv.arm on
        simp only [stopped, Bool.false_eq_true, held, Bool.or_eq_true, beq_iff_eq, Bool.and_eq_true,
          false_or] at somewhere
        obtain now | ⟨-, before⟩ := somewhere
        · exact Or.inr (Or.inl (paused now))
        · exact Or.inr (Or.inl before)
    · have again : runningState (sys.substreams s).stream (sys.substreams s).suspendedState = true := wasRunning
      apply inv.becomes after <;> simp [again]
    · have same : runningState (sys.substreams s).stream (sys.substreams s).state = false := stopped
      apply inv.becomes after
      · simp [failed, inv.dma, stopped, same]
      · simp
      · intro on
        have before : armed s sys.trace = true := by simpa [failed] using on
        simpa [stopped, same, held] using inv.arm before
    · simp [wasRunning, failed, running] at resumable

theorem prepare_keeps (env : RequestEnv Sub) (inv : DmaInv s sys) (free : held (sys.substreams s) = false) :
    DmaInv s (actionSingle (sndPcmActionPrepare env) s sys) := by
  obtain refused | ⟨-, -, stopped, after | after⟩ := prepare_cases env s sys
  · exact inv.unmoved refused
  · have disarmed := inv.disarmed stopped free
    have still : runningState (sys.substreams s).stream (sys.substreams s).state = false := stopped
    apply inv.becomes after <;> simp [disarmed, inv.dma, stopped, still]
  · have disarmed := inv.disarmed stopped free
    apply inv.becomes after <;> simp [disarmed, inv.dma, stopped, runningState]

theorem drainInit_keeps (inv : DmaInv s sys)
    (safe : (sys.substreams s).stream = .playback → (sys.substreams s).state = .prepared →
      env.playbackEmpty s = false → env.trigger s .start = 0) :
    DmaInv s (actionSingle (sndPcmActionDrainInit env [s]) s sys) := by
  obtain refused | ⟨stream, prepared, data, after⟩ | ⟨stream, running, after⟩ | ⟨stream, found, after⟩ |
    ⟨stream, running, state, target, after⟩ := drainInit_cases env s sys
  · exact inv.unmoved refused
  · have started := safe stream prepared data
    apply inv.becomes after <;> simp [runningState, started, stream]
  · have on : sndPcmRunning sys s = true := by simp [sndPcmRunning, runningState, running]
    apply inv.becomes after <;> simp [inv.dma, on, runningState, stream]
  · have stopped : sndPcmRunning sys s = false := by simp [sndPcmRunning, runningState, found]
    have free : held (sys.substreams s) = false := by simp [held, found]
    exact inv.idle stopped free after (by simp [runningState])
  · have still : runningState (sys.substreams s).stream state = false := by
      obtain rfl | rfl := target <;> simp [runningState, stream]
    apply inv.becomes after <;> simp [still]

theorem resumePause_keeps (env : RequestEnv Sub) (inv : DmaInv s sys) : DmaInv s (resumePause env sys s) := by
  unfold resumePause
  split
  · exact pauseRelease_keeps env inv
  · exact inv

theorem drain_keeps {power : Bool} (inv : DmaInv s sys)
    (safe : (sys.substreams s).stream = .playback → (sys.substreams s).state = .prepared →
      env.playbackEmpty s = false → env.trigger s .start = 0) : DmaInv s (sndPcmDrain env power sys s) := by
  unfold sndPcmDrain
  split
  · exact inv
  · split
    · exact inv
    · apply drainInit_keeps (resumePause_keeps env inv)
      intro stream prepared data
      have unpaused : (sys.substreams s).state ≠ .paused := by
        intro paused
        rw [resumePause, if_pos paused] at prepared
        obtain ⟨refused, -⟩ | ⟨-, ⟨-, after⟩ | ⟨-, after⟩⟩ := pauseRelease_cases env s sys
        · rw [refused.state, paused] at prepared
          cases prepared
        · rw [after.state] at prepared
          cases prepared
        · rw [after.state] at prepared
          cases prepared
      rw [resumePause, if_neg unpaused] at stream prepared
      exact safe stream prepared data

theorem drop_keeps (inv : DmaInv s sys)
    (safe : (sys.substreams s).state = .paused →
      (sys.substreams s).infoPause = true ∧ env.trigger s .pauseRelease = 0) : DmaInv s (sndPcmDrop env sys s) := by
  have released : (sys.substreams s).state ≠ .suspended → held ((resumePause env sys s).substreams s) = false := by
    intro awake
    by_cases paused : (sys.substreams s).state = .paused
    · rw [resumePause, if_pos paused]
      obtain ⟨info, ok⟩ := safe paused
      obtain ⟨-, refused⟩ | ⟨-, ⟨-, after⟩ | ⟨failed, -⟩⟩ := pauseRelease_cases env s sys
      · exact absurd ⟨info, paused⟩ refused
      · simp [held, after.state]
      · exact absurd ok failed
    · rw [resumePause, if_neg paused]
      simp [held, paused, awake]
  unfold sndPcmDrop
  split
  · exact inv
  · exact inv
  · exact inv
  · rename_i awake
    exact stop_keeps env (Or.inl rfl) (resumePause_keeps env inv) (released awake)

theorem setup_keeps {sys1 : PcmSystem Sub} {state : SndPcmState} (inv : DmaInv s sys)
    (idle : (sys.substreams s).state = .open ∨ (sys.substreams s).state = .setup ∨
      (sys.substreams s).state = .prepared)
    (target : state = .open ∨ state = .setup) (same : Unmoved s sys sys1) :
    DmaInv s (sndPcmSetState sys1 s state) := by
  have stopped : sndPcmRunning sys s = false := by
    obtain now | now | now := idle <;> simp [sndPcmRunning, runningState, now]
  have free : held (sys.substreams s) = false := by
    obtain now | now | now := idle <;> simp [held, now]
  have connected : (sys1.substreams s).state ≠ .disconnected := by
    rw [same.state]
    obtain now | now | now := idle <;> simp [now]
  have after : Becomes s sys (sndPcmSetState sys1 s state) state (sys.substreams s).suspendedState [] := by
    unfold sndPcmSetState
    rw [if_pos connected]
    constructor <;> simp [same.stream, same.saved, same.trace]
  exact inv.idle stopped free after (by obtain rfl | rfl := target <;> simp [runningState])

theorem hwParams_keeps {mapped : Bool} {params : Option (Bool × Bool)} (inv : DmaInv s sys) :
    DmaInv s (sndPcmHwParams mapped params sys s) := by
  have refused (idle : (sys.substreams s).state = .open ∨ (sys.substreams s).state = .setup ∨
      (sys.substreams s).state = .prepared) : DmaInv s (sndPcmSetState sys s .open) :=
    setup_keeps inv idle (Or.inl rfl) (.refl s sys)
  have accepted (idle : (sys.substreams s).state = .open ∨ (sys.substreams s).state = .setup ∨
      (sys.substreams s).state = .prepared) (pause resume : Bool) :
      DmaInv s (sndPcmSetState (sys.update s fun r => { r with infoPause := pause, infoResume := resume }) s .setup) := by
    apply setup_keeps inv idle (Or.inr rfl)
    constructor <;> simp
  unfold sndPcmHwParams
  cases state : (sys.substreams s).state <;> dsimp only <;> try exact inv
  all_goals
    cases mapped with
    | true => exact inv
    | false =>
      cases params with
      | none => exact refused (by simp [state])
      | some info => exact accepted (by simp [state]) info.1 info.2

theorem hwFree_keeps {mapped : Bool} (inv : DmaInv s sys) : DmaInv s (sndPcmHwFree mapped sys s) := by
  unfold sndPcmHwFree
  cases state : (sys.substreams s).state <;> dsimp only <;> try exact inv
  all_goals
    cases mapped with
    | true => exact inv
    | false => exact setup_keeps inv (by simp [state]) (Or.inl rfl) (.refl s sys)

def Sound (s : Sub) (sys : PcmSystem Sub) : RequestEnv Sub × PcmRequest → Prop
  | (_, .prepare power) => power = true → held (sys.substreams s) = false
  | (env, .pause push) => push = true → pausable true (sys.substreams s) → PushSafe env s
  | (env, .drain _) =>
    (sys.substreams s).stream = .playback → (sys.substreams s).state = .prepared →
      env.playbackEmpty s = false → env.trigger s .start = 0
  | (_, .drainTimeout) => (sys.substreams s).state ≠ .paused
  | (env, .drop) =>
    (sys.substreams s).state = .paused →
      (sys.substreams s).infoPause = true ∧ env.trigger s .pauseRelease = 0
  | (env, .resume power) => power = true → (sys.substreams s).infoResume = true → ResumeSafe env s sys
  | _ => True

instance (s : Sub) (sys : PcmSystem Sub) (request : RequestEnv Sub × PcmRequest) : Decidable (Sound s sys request) := by
  unfold Sound ResumeSafe pausable
  split <;> infer_instance

theorem requestExec_keeps {request : RequestEnv Sub × PcmRequest} (inv : DmaInv s sys)
    (sound : Sound s sys request) : DmaInv s (requestExec s sys request) := by
  obtain ⟨env, request⟩ := request
  cases request with
  | hwParams mapped params => exact hwParams_keeps inv
  | hwFree mapped => exact hwFree_keeps inv
  | prepare power =>
    cases power with
    | true => exact prepare_keeps env inv (sound rfl)
    | false => exact inv
  | start => exact start_keeps env inv
  | pause push =>
    cases push with
    | true => exact pausePush_keeps inv (sound rfl)
    | false => exact pauseRelease_keeps env inv
  | drain power => exact drain_keeps inv sound
  | drainTimeout =>
    simp only [requestExec]
    split
    · exact inv
    · rename_i awake
      have unpaused : (sys.substreams s).state ≠ .paused := sound
      exact stop_keeps env (Or.inl rfl) inv (by simp [held, unpaused, awake])
  | drop => exact drop_keeps inv sound
  | xrun power =>
    simp only [requestExec, sndPcmXrun]
    split
    · exact inv
    · cases state : (sys.substreams s).state <;> try exact inv
      exact stop_keeps env (Or.inr rfl) inv (by simp [held, state])
  | suspend => exact suspend_keeps env inv
  | resume power =>
    cases power with
    | true => exact resume_keeps inv (sound rfl)
    | false => exact inv
  | pointerUpdate =>
    simp only [requestExec, updateStops]
    cases state : (sys.substreams s).state <;> try exact inv
    · exact stop_keeps env (Or.inr rfl) inv (by simp [held, state])
    · exact stop_keeps env (Or.inl rfl) inv (by simp [held, state])

structure Opened (s : Sub) (sys : PcmSystem Sub) : Prop where
  state : (sys.substreams s).state = .open
  saved : (sys.substreams s).suspendedState = .open
  trace : sys.trace = []

theorem Opened.inv (opened : Opened s sys) : DmaInv s sys := by
  refine ⟨⟨?_, ?_⟩, ?_⟩
  · simp [opened.trace, sndPcmRunning, runningState, opened.state]
  · simp [opened.trace]
  · simp [opened.trace]

theorem requestRun_dma_agrees {requests : List (RequestEnv Sub × PcmRequest)} (opened : Opened s sys)
    (sound : Throughout (requestExec s) (fun sys request _ => Sound s sys request) sys requests) :
    Throughout (requestExec s) (fun _ _ sys' => DmaAgrees s sys') sys requests := by
  have run := sound.invariant (DmaInv s) opened.inv fun sys request inv sound => requestExec_keeps inv sound
  exact run.mono fun _ _ _ kept => kept.2.2.toDmaAgrees

section Example

def openedPlayback : PcmSystem Unit where
  substreams _ :=
    { stream := .playback, state := .open, suspendedState := .open, triggerMaster := none, infoPause := false,
      infoResume := false }
  trace := []

def steadyEnv : RequestEnv Unit where
  trigger _ _ := 0
  chip _ := none
  prepare _ := 0
  reset _ := 0
  xrun _ := false
  playbackData _ := true
  playbackEmpty _ := false
  captureAvail _ := 0

def pausedRequests : List (RequestEnv Unit × PcmRequest) :=
  [.hwParams false (some (true, true)), .prepare true, .start, .pause true].map fun r => (steadyEnv, r)

theorem requestRun_dma_agrees_pause :
    Throughout (requestExec ()) (fun _ _ sys' => DmaAgrees () sys') openedPlayback
      (pausedRequests ++ [(steadyEnv, .pause false), (steadyEnv, .suspend), (steadyEnv, .resume true),
        (steadyEnv, .drain true), (steadyEnv, .pointerUpdate), (steadyEnv, .hwFree false)]) :=
  requestRun_dma_agrees ⟨rfl, rfl, rfl⟩ (by decide)

/-- The driver prepares a DMA that is only paused. -/
theorem prepare_while_paused :
    ¬ Throughout (requestExec ()) (fun _ _ sys' => DmaAgrees () sys') openedPlayback
      (pausedRequests ++ [(steadyEnv, .prepare true)]) := by
  intro run
  exact absurd run.2.2.2.2.1.prepare (by decide)

end Example

end AlsaDriver.Pcm
