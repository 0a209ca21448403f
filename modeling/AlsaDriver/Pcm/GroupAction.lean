import AlsaDriver.Pcm.GroupTrigger

namespace AlsaDriver.Pcm

variable {Sub : Type*} [DecidableEq Sub]

inductive GroupAction where
  | start
  | pause (push : Bool)
  | resume
  deriving DecidableEq, Repr

def GroupAction.ops (env : RequestEnv Sub) (group : List Sub) : GroupAction → ActionOps Sub
  | .start => sndPcmActionStart env group
  | .pause push => sndPcmActionPause env group true push
  | .resume => sndPcmActionResume env group

def GroupAction.cmd : GroupAction → TriggerCmd
  | .start => .start
  | .pause push => pauseCmd push
  | .resume => .resume

def GroupAction.inverse : GroupAction → TriggerCmd
  | .start => .stop
  | .pause push => pauseCmd !push
  | .resume => .suspend

def GroupAction.target (r : SubstreamState Sub) : GroupAction → SndPcmState
  | .start => .running
  | .pause push => if push then .paused else .running
  | .resume => r.suspendedState

/-- The test of the action's `pre_action`. -/
def GroupAction.accepts (env : RequestEnv Sub) (s : Sub) (r : SubstreamState Sub) : GroupAction → Bool
  | .start => r.state == .prepared && (r.stream != .playback || env.playbackData s)
  | .pause push => r.infoPause && r.state == if push then .running else .paused
  | .resume => r.infoResume

/-- What the action promises of a member: on an error its state has not changed and a trigger that
    succeeded was taken back once, on success it is in the target state, and it was locked and
    unlocked at most once. -/
structure MemberAtomic (action : GroupAction) (s : Sub) (sys : PcmSystem Sub) (out : Int × PcmSystem Sub) : Prop where
  state : out.1 < 0 → (out.2.substreams s).state = (sys.substreams s).state
  undone : out.1 < 0 → (∃ ret, 0 ≤ ret ∧ (action.cmd, ret) ∈ triggersOf s out.2.trace) →
    ((triggersOf s out.2.trace).filter (·.1 = action.inverse)).length = 1
  reached : out.1 = 0 → (out.2.substreams s).state = action.target (sys.substreams s)
  locks : lockings s out.2.trace = [] ∨ lockings s out.2.trace = [.unlock s, .lock s]

def GroupAtomic (action : GroupAction) (group : List Sub) (sys : PcmSystem Sub)
    (result : Option (Int × PcmSystem Sub)) : Prop :=
  ∃ out, result = some out ∧ ∀ s ∈ group, MemberAtomic action s sys out

/-- The condition under which a group action unwinds: no xrun is found while the pause is pushed, and
    no RESUME fails after one whose member does not run. -/
def Unwinds (env : RequestEnv Sub) (group : List Sub) (sys : PcmSystem Sub) : GroupAction → Prop
  | .start | .pause false => True
  | .pause true =>
    (∀ s ∈ group, GroupAction.accepts env s (sys.substreams s) (.pause true) = true) →
      ∀ s ∈ reached env .pausePush (callers env (fun _ => true) [] group), env.xrun s = false
  | .resume =>
    (∀ s ∈ group, (sys.substreams s).infoResume = true) →
      let calls := callers env (fun s => suspendedRunning (sys.substreams s)) [] group
      failed env .resume calls ≠ none → ∀ c ∈ succeeded env .resume calls, sndPcmRunning sys c = true

def GroupAction.trigger (env : RequestEnv Sub) (action : GroupAction) : GroupTrigger Sub where
  cmd := action.cmd
  inverse := action.inverse
  accepts s r := action.accepts env s r
  wants r := action != .resume || suspendedRunning r
  stuck s := action == .pause true && env.xrun s
  undoes r := action != .resume || runningState r.stream r.state
  target r := action.target r
  other := by
    cases action with
    | pause push => cases push <;> simp [GroupAction.cmd, GroupAction.inverse, pauseCmd]
    | start => simp [GroupAction.cmd, GroupAction.inverse]
    | resume => simp [GroupAction.cmd, GroupAction.inverse]
  accepts_core := by cases action <;> intros <;> rfl
  wants_core := by intros; rfl
  undoes_core := by intros; rfl
  target_core := by cases action <;> intros <;> rfl

theorem start_follows (env : RequestEnv Sub) (group : List Sub) :
    (GroupAction.start.trigger env).Follows env group (sndPcmActionStart env group) := by
  refine ⟨?_, ?_, ?_, ?_, fun sys s => rfl⟩
  · intro sys s refused
    by_cases prepared : (sys.substreams s).state = .prepared
    · have silent : (sys.substreams s).stream = .playback ∧ ¬ env.playbackData s := by
        simpa [GroupAction.trigger, GroupAction.accepts, prepared] using refused
      exact ⟨-EPIPE, by decide, by simp [sndPcmActionStart, sndPcmPreStart, prepared, silent]⟩
    · exact ⟨-EBADFD, by decide, by simp [sndPcmActionStart, sndPcmPreStart, prepared]⟩
  · intro sys s accepted
    obtain ⟨prepared, data⟩ : _ ∧ _ := by simpa [GroupAction.trigger, GroupAction.accepts] using accepted
    have sounds : ¬ ((sys.substreams s).stream = .playback ∧ ¬ env.playbackData s) := by
      rintro ⟨playback, silent⟩
      simp [playback, silent] at data
    simp only [sndPcmActionStart, sndPcmPreStart, prepared, sounds, ne_eq, not_true, if_false]
  · intro sys s
    by_cases master : (sys.substreams s).triggerMaster = some s <;>
      simp [sndPcmActionStart, sndPcmDoStart, GroupTrigger.act, GroupAction.trigger, GroupAction.cmd, master]
  · simp only [sndPcmActionStart, Option.some.injEq]
    funext sys s
    simp [sndPcmUndoStart, GroupTrigger.undo, GroupAction.trigger, GroupAction.inverse]

theorem pause_follows (env : RequestEnv Sub) (group : List Sub) (push : Bool) :
    ((GroupAction.pause push).trigger env).Follows env group (sndPcmActionPause env group true push) := by
  refine ⟨?_, ?_, ?_, ?_, fun sys s => rfl⟩
  · intro sys s refused
    by_cases info : (sys.substreams s).infoPause = true
    · refine ⟨-EBADFD, by decide, ?_⟩
      cases push <;> simp_all [sndPcmActionPause, sndPcmPrePause, GroupAction.trigger, GroupAction.accepts]
    · exact ⟨-ENOSYS, by decide, by simp [sndPcmActionPause, sndPcmPrePause, info]⟩
  · intro sys s accepted
    cases push <;> simp_all [sndPcmActionPause, sndPcmPrePause, GroupAction.trigger, GroupAction.accepts]
  · intro sys s
    by_cases master : (sys.substreams s).triggerMaster = some s
    · cases push <;> cases found : env.xrun s <;>
        simp [sndPcmActionPause, sndPcmDoPause, GroupTrigger.act, GroupAction.trigger, GroupAction.cmd, master, found,
          xrun]
    · simp [sndPcmActionPause, sndPcmDoPause, GroupTrigger.act, GroupAction.trigger, master]
  · simp only [sndPcmActionPause, Option.some.injEq]
    funext sys s
    simp [sndPcmUndoPause, GroupTrigger.undo, GroupAction.trigger, GroupAction.inverse]

theorem resume_follows (env : RequestEnv Sub) (group : List Sub) :
    (GroupAction.resume.trigger env).Follows env group (sndPcmActionResume env group) := by
  refine ⟨?_, ?_, ?_, ?_, ?_⟩
  · intro sys s refused
    have info : ¬ (sys.substreams s).infoResume = true := by
      simpa [GroupAction.trigger, GroupAction.accepts] using refused
    exact ⟨-ENOSYS, by decide, by simp [sndPcmActionResume, sndPcmPreResume, info]⟩
  · intro sys s accepted
    have info : (sys.substreams s).infoResume = true := accepted
    simp [sndPcmActionResume, sndPcmPreResume, info]
  · intro sys s
    by_cases master : (sys.substreams s).triggerMaster = some s
    · cases was : suspendedRunning (sys.substreams s) <;>
        simp [sndPcmActionResume, sndPcmDoResume, GroupTrigger.act, GroupAction.trigger, GroupAction.cmd, master, was]
    · simp [sndPcmActionResume, sndPcmDoResume, GroupTrigger.act, GroupAction.trigger, master]
  · simp only [sndPcmActionResume, Option.some.injEq]
    funext sys s
    cases runs : sndPcmRunning sys s <;> unfold sndPcmRunning at runs <;>
      simp [sndPcmUndoResume, sndPcmRunning, GroupTrigger.undo, GroupAction.trigger, GroupAction.inverse, runs]
  · intro sys s
    have kept : ((sndPcmTriggerTstamp sys s).substreams s).suspendedState = (sys.substreams s).suspendedState := by
      simp
    simp only [sndPcmActionResume, sndPcmPostResume, PcmSystem.setState, PcmSystem.update, GroupAction.trigger,
      GroupAction.target, kept]

theorem GroupAction.follows (env : RequestEnv Sub) (group : List Sub) (action : GroupAction) :
    (action.trigger env).Follows env group (action.ops env group) := by
  cases action with
  | start => exact start_follows env group
  | pause push => exact pause_follows env group push
  | resume => exact resume_follows env group

section Atomic

variable {env : RequestEnv Sub} {group : List Sub} {sys : PcmSystem Sub} {substream : Sub} {action : GroupAction}

abbrev GroupAction.calls (action : GroupAction) (env : RequestEnv Sub) (group : List Sub) (sys : PcmSystem Sub) :
    List Sub :=
  callers env (fun s => (action.trigger env).wants (sys.substreams s)) [] group

omit [DecidableEq Sub] in
theorem unwinds_iff : Unwinds env group sys action ↔
    ((∀ s ∈ group, action.accepts env s (sys.substreams s) = true) →
      (∀ s ∈ reached env action.cmd (action.calls env group sys), (action.trigger env).stuck s = false) ∧
        (failed env action.cmd (action.calls env group sys) ≠ none →
          ∀ c ∈ succeeded env action.cmd (action.calls env group sys),
            (action.trigger env).undoes (sys.substreams c) = true)) := by
  cases action with
  | start => simp [Unwinds, GroupAction.trigger]
  | pause push =>
    cases push with
    | false => simp [Unwinds, GroupAction.trigger]
    | true =>
      have wants (s : Sub) : (GroupAction.pause true != .resume || suspendedRunning (sys.substreams s)) = true := rfl
      simp [Unwinds, GroupAction.trigger, GroupAction.cmd, pauseCmd, GroupAction.calls, wants]
  | resume =>
    simp [Unwinds, GroupAction.trigger, GroupAction.cmd, GroupAction.calls, GroupAction.accepts, sndPcmRunning]

theorem locks_paired (substream : Sub) (visited : List Sub) (s : Sub) :
    let events := once .unlock substream visited s ++ once .lock substream visited s
    events = [] ∨ events = [.unlock s, .lock s] := by
  unfold once
  by_cases inside : s ∈ visited ∧ s ≠ substream
  · right
    simp [inside]
  · left
    simp [inside]

theorem sndPcmActionGroup_refused {ops : ActionOps Sub} {out : Int × Option Sub × PcmSystem Sub} {f : Sub}
    (pre : preLoop ops substream group sys = out) (stopped : out.2.1 = some f) :
    sndPcmActionGroup ops group substream sys = some (out.1, unlockLoop substream (some f) group out.2.2) := by
  obtain ⟨res, stop, sys1⟩ := out
  dsimp only at stopped
  subst stopped
  simp only [sndPcmActionGroup, pre]

theorem sndPcmActionGroup_claimed {ops : ActionOps Sub} (sys1 : PcmSystem Sub)
    (pre : preLoop ops substream group sys = (0, none, sys1)) :
    sndPcmActionGroup ops group substream sys =
      (doLoop ops group group 0 sys1).map fun out =>
        (out.1, unlockLoop substream none group (if out.1 < 0 then out.2 else group.foldl ops.postAction out.2)) := by
  simp only [sndPcmActionGroup, pre]
  cases doLoop ops group group 0 sys1 <;> rfl

/-- A failed attempt that has been undone keeps its promise to a member exactly if the inverse
    trigger was not held back from it. -/
theorem undone_iff {calls : List Sub} {sys1 sys2 : PcmSystem Sub} {before : List Sub} {f s : Sub}
    (first : failed env action.cmd calls = some f) (inside : succeeded env action.cmd calls ⊆ before)
    (attempted : ∀ s, triggersOf s sys1.trace =
      if s ∈ reached env action.cmd calls then [(action.cmd, env.trigger s action.cmd)] else [])
    (undone : ∀ c ∈ reached env action.cmd calls, triggersOf c sys2.trace =
      (if c ∈ before ∧ (action.trigger env).undoes (sys.substreams c) = true then
        [(action.inverse, env.trigger c action.inverse)] else []) ++ triggersOf c sys1.trace)
    (older : ∀ s ret, (action.cmd, ret) ∈ triggersOf s sys2.trace → (action.cmd, ret) ∈ triggersOf s sys1.trace) :
    ((∃ ret, 0 ≤ ret ∧ (action.cmd, ret) ∈ triggersOf s sys2.trace) →
        ((triggersOf s sys2.trace).filter (·.1 = action.inverse)).length = 1) ↔
      (s ∈ succeeded env action.cmd calls → (action.trigger env).undoes (sys.substreams s) = true) := by
  have apart : action.cmd ≠ action.inverse := (action.trigger env).other
  have among {s : Sub} (took : ∃ ret, 0 ≤ ret ∧ (action.cmd, ret) ∈ triggersOf s sys2.trace) :
      s ∈ succeeded env action.cmd calls := by
    obtain ⟨ret, accepted, sent⟩ := took
    have sent := older s ret sent
    rw [attempted] at sent
    split at sent
    · rename_i reach
      obtain rfl : ret = env.trigger s action.cmd := by simpa using sent
      obtain succeeds | fails := List.mem_append.mp reach
      · exact succeeds
      · obtain rfl : s = f := by simpa [first] using fails
        have negative := (failed_spec first).2
        omega
    · simp at sent
  have taken (succeeds : s ∈ succeeded env action.cmd calls) : triggersOf s sys2.trace =
      (if (action.trigger env).undoes (sys.substreams s) = true then
        [(action.inverse, env.trigger s action.inverse)] else []) ++ [(action.cmd, env.trigger s action.cmd)] := by
    have reach : s ∈ reached env action.cmd calls := List.mem_append_left _ succeeds
    simp [undone s reach, attempted, reach, inside succeeds]
  constructor
  · intro promise succeeds
    have once := promise ⟨env.trigger s action.cmd, (succeeded_spec succeeds).2, by rw [taken succeeds]; simp⟩
    rw [taken succeeds] at once
    cases undoes : (action.trigger env).undoes (sys.substreams s) with
    | true => rfl
    | false => simp [undoes, apart] at once
  · intro held took
    have succeeds := among took
    rw [taken succeeds, if_pos (held succeeds)]
    simp [apart]

theorem memberAtomic_unlocked {s : Sub} (action : GroupAction) (sys : PcmSystem Sub) (res : Int) {sys1 : PcmSystem Sub}
    (nodup : group.Nodup)
    (locked : lockings s sys1.trace = once .lock substream (through none group) s) :
    MemberAtomic action s sys (res, unlockLoop substream none group sys1) ↔
      (res < 0 → (sys1.substreams s).state = (sys.substreams s).state) ∧
      (res < 0 → (∃ ret, 0 ≤ ret ∧ (action.cmd, ret) ∈ triggersOf s sys1.trace) →
        ((triggersOf s sys1.trace).filter (·.1 = action.inverse)).length = 1) ∧
      (res = 0 → (sys1.substreams s).state = action.target (sys.substreams s)) := by
  have paired := locks_paired substream (through none group) s
  constructor
  · rintro ⟨state, undone, target, -⟩
    simp only [unlockLoop_substreams, unlockLoop_triggersOf] at state undone target
    exact ⟨state, undone, target⟩
  · rintro ⟨state, undone, target⟩
    refine ⟨?_, ?_, ?_, ?_⟩
    · simpa only [unlockLoop_substreams] using state
    · simpa only [unlockLoop_triggersOf] using undone
    · simpa only [unlockLoop_substreams] using target
    · dsimp only
      rw [unlockLoop_lockings substream none nodup, locked]
      exact paired

theorem sndPcmActionGroup_atomic_iff (action : GroupAction) (nodup : group.Nodup) (fresh : sys.trace = []) :
    GroupAtomic action group sys (sndPcmActionGroup (action.ops env group) group substream sys) ↔
      Unwinds env group sys action := by
  have follows := action.follows env group
  have spec := preLoop_spec follows substream nodup sys
  rw [unwinds_iff]
  set out := preLoop (action.ops env group) substream group sys with pre
  have start (s : Sub) : triggersOf s out.2.2.trace = [] := by
    rw [spec.triggers, fresh]
    rfl
  have locked (s : Sub) : lockings s out.2.2.trace = once .lock substream (through out.2.1 group) s := by
    rw [spec.locks, fresh]
    simp [lockings]
  obtain ⟨zero, unstopped, all, masters⟩ | ⟨negative, f, member, stopped, refused⟩ := spec.outcome
  · have claimed : sndPcmActionGroup (action.ops env group) group substream sys = _ :=
      sndPcmActionGroup_claimed out.2.2 (by rw [← pre, ← zero, ← unstopped])
    have claims : Claims env group [] sys out.2.2 := ⟨spec.core, by simp, by simp⟩
    have second := doLoop_spec follows (List.nil_append group).symm nodup (List.nil_subset []) claims
      (fun t inside _ => masters t inside) (Int.le_refl 0)
    rw [claimed]
    generalize doLoop (action.ops env group) group group 0 out.2.2 = result at second
    cases second with
    | stuck reach never =>
      refine iff_of_false ?_ ?_
      · rintro ⟨out, returned, -⟩
        simp at returned
      · intro unwinds
        have returns := (unwinds all).1 _ reach
        rw [returns] at never
        cases never
    | @finished res sys1 runs attempt noFailure ok =>
      obtain ⟨states, -, trace⟩ := post_fold follows nodup sys1
      refine iff_of_true ⟨_, rfl, ?_⟩ ?_
      · intro s inside
        dsimp only
        rw [if_neg (Int.not_lt.mpr ok)]
        apply (memberAtomic_unlocked action sys _ nodup ?_).mpr
        · refine ⟨fun negative => absurd negative (Int.not_lt.mpr ok), fun negative => absurd negative (Int.not_lt.mpr ok), ?_⟩
          intro _
          rw [states s inside]
          exact (action.trigger env).target_congr (attempt.claims.core s)
        · rw [trace, attempt.locks, locked, unstopped]
      · intro _
        exact ⟨runs, fun failure => absurd noFailure failure⟩
    | @undone f before after sys1 runs attempt first split earlier calledBefore =>
      have first : failed env action.cmd (action.calls env group sys) = some f := first
      have negative := (failed_spec first).2
      have subset : before ⊆ group := by
        rw [split]
        exact List.subset_append_left before _
      have beforeNodup : before.Nodup := by
        rw [split] at nodup
        exact (List.nodup_append.mp nodup).1
      obtain ⟨core, inverse, older, locks⟩ := undo_fold (action.trigger env) beforeNodup subset attempt.claims
      set sys2 := before.foldl ((action.trigger env).undo env group) sys1
      have attempted (s : Sub) : triggersOf s sys1.trace = _ := (attempt.triggers s).trans (by rw [start, List.append_nil])
      have member (s : Sub) : MemberAtomic action s sys
          (env.trigger f action.cmd, unlockLoop substream none group sys2) ↔
            (s ∈ succeeded env action.cmd (action.calls env group sys) →
              (action.trigger env).undoes (sys.substreams s) = true) := by
        have taken : lockings s sys2.trace = once .lock substream (through none group) s := by
          rw [locks, attempt.locks, locked, unstopped]
        have unlocked := memberAtomic_unlocked action sys (env.trigger f action.cmd) nodup taken
        rw [unlocked, and_iff_right fun _ => state_congr (core s),
          and_iff_left fun zero => absurd zero (Int.ne_of_lt negative), forall_prop_of_true negative]
        exact undone_iff first calledBefore attempted (fun c reach => inverse c (List.mem_append_left [] reach)) older
      change GroupAtomic action group sys (some (env.trigger f action.cmd, unlockLoop substream none group
        (if env.trigger f action.cmd < 0 then sys2 else group.foldl (action.ops env group).postAction sys2))) ↔ _
      rw [if_pos negative]
      constructor
      · rintro ⟨out, returned, promised⟩ -
        obtain rfl := Option.some.inj returned
        refine ⟨runs, fun _ c succeeds => (member c).mp (promised c ?_) succeeds⟩
        exact subset (calledBefore succeeds)
      · intro unwinds
        refine ⟨_, rfl, fun s _ => (member s).mpr ?_⟩
        exact (unwinds all).2 (by rw [first]; simp) s
  · have result := sndPcmActionGroup_refused pre.symm stopped
    rw [result]
    refine iff_of_true ⟨_, rfl, ?_⟩ ?_
    · intro s inside
      refine ⟨?_, ?_, ?_, ?_⟩
      · intro _
        rw [unlockLoop_substreams]
        exact state_congr (spec.core s)
      · rintro - ⟨ret, -, sent⟩
        rw [unlockLoop_triggersOf, start] at sent
        simp at sent
      · intro zero
        dsimp only at zero
        omega
      · dsimp only
        rw [unlockLoop_lockings substream _ nodup, locked, stopped]
        exact locks_paired substream _ s
    · intro all
      have accepted := all f member
      have refused : action.accepts env f (sys.substreams f) = false := refused
      rw [refused] at accepted
      exact absurd accepted Bool.false_ne_true

end Atomic

section Example

/-- Two linked playback substreams in `state`. -/
def linkedPair (state saved : SndPcmState) : PcmSystem Bool where
  substreams _ :=
    { stream := .playback, state := state, suspendedState := saved, triggerMaster := none, infoPause := true,
      infoResume := true }
  trace := []

/-- The driver fails `cmd` for the second substream. -/
def secondFails (cmd : TriggerCmd) : RequestEnv Bool where
  trigger s c := if s ∧ c = cmd then -5 else 0
  chip _ := none
  prepare _ := 0
  reset _ := 0
  xrun _ := false
  playbackData _ := true
  playbackEmpty _ := false
  captureAvail _ := 0

theorem sndPcmActionGroup_atomic_iff_start :
    GroupAtomic .start [false, true] (linkedPair .prepared .open)
      (sndPcmActionGroup (GroupAction.start.ops (secondFails .start) [false, true]) [false, true] false
        (linkedPair .prepared .open)) ↔ True :=
  sndPcmActionGroup_atomic_iff .start (by decide) rfl

/-- The first substream keeps its RESUME when the second one fails. -/
theorem resume_not_undone :
    ¬ GroupAtomic .resume [false, true] (linkedPair .suspended .running)
      (sndPcmActionGroup (GroupAction.resume.ops (secondFails .resume) [false, true]) [false, true] false
        (linkedPair .suspended .running)) := by
  rintro ⟨out, returned, promised⟩
  have result : (sndPcmActionGroup (GroupAction.resume.ops (secondFails .resume) [false, true]) [false, true] false
      (linkedPair .suspended .running)).map (fun out => (out.1, triggersOf false out.2.trace)) =
        some (-5, [(.resume, 0)]) := by decide
  rw [returned] at result
  obtain ⟨ret, triggers⟩ := Prod.mk.inj (Option.some.inj result)
  have undone := (promised false (by decide)).undone (by rw [ret]; decide) ⟨0, by decide, by rw [triggers]; decide⟩
  rw [triggers] at undone
  exact absurd undone (by decide)

end Example

end AlsaDriver.Pcm
