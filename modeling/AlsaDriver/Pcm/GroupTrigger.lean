import Mathlib.Tactic.Set
import AlsaDriver.Pcm.Action

namespace AlsaDriver.Pcm

variable {Sub : Type*}

def SubstreamState.core (r : SubstreamState Sub) : SubstreamState Sub := { r with triggerMaster := none }

/-- An action that sends one trigger to the members that want it; none of its tests looks at the
    trigger master. `stuck` are the members whose callback does not return. -/
structure GroupTrigger (Sub : Type*) where
  cmd : TriggerCmd
  inverse : TriggerCmd
  accepts : Sub → SubstreamState Sub → Bool
  wants : SubstreamState Sub → Bool
  stuck : Sub → Bool
  undoes : SubstreamState Sub → Bool
  target : SubstreamState Sub → SndPcmState
  other : cmd ≠ inverse
  accepts_core : ∀ s r, accepts s r.core = accepts s r
  wants_core : ∀ r, wants r.core = wants r
  undoes_core : ∀ r, undoes r.core = undoes r
  target_core : ∀ r, target r.core = target r

theorem synced_trans {env : RequestEnv Sub} {a b c : Sub} (left : env.synced a c = true)
    (right : env.synced b c = true) : env.synced a b = true := by
  unfold RequestEnv.synced at *
  cases first : env.chip a <;> cases second : env.chip b <;> simp_all

theorem synced_self {env : RequestEnv Sub} {a c : Sub} (left : env.synced a c = true) :
    env.synced a a = true ∧ env.synced c a = true ∧ env.synced c c = true := by
  unfold RequestEnv.synced at *
  cases first : env.chip a <;> cases second : env.chip c <;> simp_all

variable [DecidableEq Sub]

def GroupTrigger.act (action : GroupTrigger Sub) (env : RequestEnv Sub) (group : List Sub) (sys : PcmSystem Sub)
    (s : Sub) : Option (Int × PcmSystem Sub) :=
  if (sys.substreams s).triggerMaster = some s ∧ action.wants (sys.substreams s) = true then
    if action.stuck s then none else some (opsTrigger env group sys s action.cmd)
  else some (0, sys)

def GroupTrigger.undo (action : GroupTrigger Sub) (env : RequestEnv Sub) (group : List Sub) (sys : PcmSystem Sub)
    (s : Sub) : PcmSystem Sub :=
  if (sys.substreams s).triggerMaster = some s ∧ action.undoes (sys.substreams s) = true then
    (opsTrigger env group sys s action.inverse).2
  else sys

structure GroupTrigger.Follows (action : GroupTrigger Sub) (env : RequestEnv Sub) (group : List Sub)
    (ops : ActionOps Sub) : Prop where
  refused : ∀ sys s, action.accepts s (sys.substreams s) = false → ∃ res < 0, ops.preAction sys s = (res, sys)
  accepted : ∀ sys s, action.accepts s (sys.substreams s) = true →
    ops.preAction sys s = (0, sys.setTriggerMaster s (some s))
  act : ∀ sys s, ops.doAction sys s = action.act env group sys s
  undo : ops.undoAction = some (action.undo env group)
  post : ∀ sys s, ops.postAction sys s =
    (sndPcmTriggerTstamp sys s).setState s (action.target (sys.substreams s))

/-- The members whose trigger the driver is asked for: those that want it and are not handled with
    the chip of an earlier one. -/
def callers (env : RequestEnv Sub) (wants : Sub → Bool) : List Sub → List Sub → List Sub
  | _, [] => []
  | called, s :: rest =>
    if wants s ∧ ∀ c ∈ called, env.synced c s = false then s :: callers env wants (s :: called) rest
    else callers env wants called rest

def succeeded (env : RequestEnv Sub) (cmd : TriggerCmd) : List Sub → List Sub
  | [] => []
  | s :: rest => if env.trigger s cmd < 0 then [] else s :: succeeded env cmd rest

def failed (env : RequestEnv Sub) (cmd : TriggerCmd) : List Sub → Option Sub
  | [] => none
  | s :: rest => if env.trigger s cmd < 0 then some s else failed env cmd rest

def reached (env : RequestEnv Sub) (cmd : TriggerCmd) (calls : List Sub) : List Sub :=
  succeeded env cmd calls ++ (failed env cmd calls).toList

/-- The trigger calls for `s`, the latest first. -/
def triggersOf (s : Sub) : List (ActionEvent Sub) → List (TriggerCmd × Int)
  | [] => []
  | .trigger t cmd ret :: older => if t = s then (cmd, ret) :: triggersOf s older else triggersOf s older
  | _ :: older => triggersOf s older

/-- The lock events of `s`, the latest first. -/
def lockings (s : Sub) : List (ActionEvent Sub) → List (ActionEvent Sub)
  | [] => []
  | .lock t :: older => if t = s then .lock t :: lockings s older else lockings s older
  | .unlock t :: older => if t = s then .unlock t :: lockings s older else lockings s older
  | _ :: older => lockings s older

section Core

variable (env : RequestEnv Sub) (sys : PcmSystem Sub)

theorem setTriggerMaster_core (s t : Sub) (master : Option Sub) :
    ((sys.setTriggerMaster s master).substreams t).core = (sys.substreams t).core := by
  by_cases same : t = s
  · subst same
    simp [SubstreamState.core]
  · rw [PcmSystem.setTriggerMaster, sys.update_other s same]

theorem opsTrigger_core (group : List Sub) (s t : Sub) (cmd : TriggerCmd) :
    ((opsTrigger env group sys s cmd).2.substreams t).core = (sys.substreams t).core := by
  unfold opsTrigger SubstreamState.core
  dsimp only
  split <;> rfl

theorem sndPcmTriggerTstamp_core (s t : Sub) :
    ((sndPcmTriggerTstamp sys s).substreams t).core = (sys.substreams t).core := by
  unfold sndPcmTriggerTstamp
  split
  · rfl
  · split <;> simp only [setTriggerMaster_core]

theorem opsTrigger_marks {group : List Sub} {s t : Sub} (cmd : TriggerCmd) (member : t ∈ group)
    (synced : env.synced s t = true) :
    ((opsTrigger env group sys s cmd).2.substreams t).triggerMaster = some s := by
  unfold opsTrigger
  dsimp only
  rw [if_pos ⟨member, synced⟩]

theorem opsTrigger_spares {group : List Sub} {s t : Sub} (cmd : TriggerCmd) (apart : env.synced s t = false) :
    (opsTrigger env group sys s cmd).2.substreams t = sys.substreams t := by
  unfold opsTrigger
  dsimp only
  rw [if_neg (by simp [apart])]

end Core

structure Claims (env : RequestEnv Sub) (group called : List Sub) (sys0 sys : PcmSystem Sub) : Prop where
  core : ∀ t, (sys.substreams t).core = (sys0.substreams t).core
  own : ∀ c ∈ called, (sys.substreams c).triggerMaster = some c
  theirs : ∀ c ∈ called, ∀ t ∈ group, env.synced c t = true → (sys.substreams t).triggerMaster = some c

variable {env : RequestEnv Sub} {group called : List Sub} {sys0 sys : PcmSystem Sub}

theorem Claims.trigger {u : Sub} (claims : Claims env group called sys0 sys) (cmd : TriggerCmd)
    (member : u ∈ group) (master : (sys.substreams u).triggerMaster = some u) :
    Claims env group (u :: called) sys0 (opsTrigger env group sys u cmd).2 := by
  -- a caller on the chip of `u` would be the master of `u`
  have unique {c : Sub} (call : c ∈ called) (synced : env.synced c u = true) : c = u := by
    have held := claims.theirs c call u member synced
    rw [master] at held
    exact (Option.some.inj held).symm
  have kept : (opsTrigger env group sys u cmd).2.substreams u = sys.substreams u :=
    opsTrigger_master env sys u group cmd master
  refine ⟨?_, ?_, ?_⟩
  · intro t
    rw [opsTrigger_core, claims.core]
  · intro c call
    obtain rfl | call := List.mem_cons.mp call
    · rw [kept, master]
    · cases synced : env.synced u c with
      | true =>
        have same := unique call (synced_self synced).2.1
        rw [same, kept, master]
      | false => rw [opsTrigger_spares env sys cmd synced, claims.own c call]
  · intro c call t other synced
    obtain rfl | call := List.mem_cons.mp call
    · exact opsTrigger_marks env sys cmd other synced
    · cases both : env.synced u t with
      | true =>
        have same := unique call (synced_trans synced both)
        rw [same]
        exact opsTrigger_marks env sys cmd other both
      | false => rw [opsTrigger_spares env sys cmd both, claims.theirs c call t other synced]

omit [DecidableEq Sub] in
theorem Claims.mono {fewer : List Sub} (claims : Claims env group called sys0 sys)
    (subset : fewer ⊆ called) : Claims env group fewer sys0 sys :=
  ⟨claims.core, fun c call => claims.own c (subset call), fun c call => claims.theirs c (subset call)⟩

/-- The members that a loop visits which stops behind `last`. -/
def through (last : Option Sub) : List Sub → List Sub
  | [] => []
  | s :: rest => s :: if some s = last then [] else through last rest

theorem through_subset (last : Option Sub) (l : List Sub) : through last l ⊆ l := by
  induction l with
  | nil => simp [through]
  | cons s rest ih =>
    unfold through
    split
    · simp
    · exact List.cons_subset_cons s ih

section Locks

theorem unlockLoop_substreams (substream : Sub) (last : Option Sub) (l : List Sub) (sys : PcmSystem Sub) :
    (unlockLoop substream last l sys).substreams = sys.substreams := by
  induction l generalizing sys with
  | nil => rfl
  | cons s rest ih =>
    have emitted : (if s ≠ substream then sys.emit (.unlock s) else sys).substreams = sys.substreams := by
      split <;> rfl
    simp only [unlockLoop]
    split
    · exact emitted
    · rw [ih, emitted]

theorem unlockLoop_triggersOf (substream : Sub) (last : Option Sub) (l : List Sub) (sys : PcmSystem Sub) (s : Sub) :
    triggersOf s (unlockLoop substream last l sys).trace = triggersOf s sys.trace := by
  induction l generalizing sys with
  | nil => rfl
  | cons t rest ih =>
    have emitted : triggersOf s (if t ≠ substream then sys.emit (.unlock t) else sys).trace =
        triggersOf s sys.trace := by split <;> rfl
    simp only [unlockLoop]
    split
    · exact emitted
    · rw [ih, emitted]

/-- The lock events of a loop over `visited` members: one for each but the calling substream. -/
def once (event : Sub → ActionEvent Sub) (substream : Sub) (visited : List Sub) (s : Sub) : List (ActionEvent Sub) :=
  if s ∈ visited ∧ s ≠ substream then [event s] else []

theorem once_cons (event : Sub → ActionEvent Sub) (substream : Sub) {visited : List Sub} {t : Sub}
    (fresh : t ∉ visited) (s : Sub) :
    once event substream visited s ++ once event substream [t] s = once event substream (t :: visited) s := by
  by_cases same : t = s
  · subst same
    simp [once, fresh]
  · simp [once, Ne.symm same]

theorem emit_lockings (substream t s : Sub) (sys : PcmSystem Sub) {event : Sub → ActionEvent Sub}
    (locking : event = .lock ∨ event = .unlock) :
    lockings s (if t ≠ substream then sys.emit (event t) else sys).trace =
      once event substream [t] s ++ lockings s sys.trace := by
  by_cases same : t = s
  · subst same
    obtain rfl | rfl := locking <;> by_cases calling : t = substream <;>
      simp [once, calling, PcmSystem.emit, lockings]
  · obtain rfl | rfl := locking <;> by_cases calling : t = substream <;>
      simp [once, calling, PcmSystem.emit, lockings, same, Ne.symm same]

theorem unlockLoop_lockings (substream : Sub) (last : Option Sub) {l : List Sub} (nodup : l.Nodup)
    (sys : PcmSystem Sub) (s : Sub) :
    lockings s (unlockLoop substream last l sys).trace =
      once .unlock substream (through last l) s ++ lockings s sys.trace := by
  induction l generalizing sys with
  | nil => simp [unlockLoop, through, once]
  | cons t rest ih =>
    obtain ⟨fresh, nodup⟩ := List.nodup_cons.mp nodup
    have unvisited : t ∉ through last rest := fun visited => fresh (through_subset last rest visited)
    have emitted := emit_lockings substream t s sys (Or.inr rfl)
    simp only [unlockLoop, through]
    split
    · exact emitted
    · rw [ih nodup, emitted, ← List.append_assoc, once_cons .unlock substream unvisited]

end Locks

structure PreLoop (action : GroupTrigger Sub) (substream : Sub) (l : List Sub) (sys : PcmSystem Sub)
    (out : Int × Option Sub × PcmSystem Sub) : Prop where
  core : ∀ t, (out.2.2.substreams t).core = (sys.substreams t).core
  others : ∀ t, t ∉ l → out.2.2.substreams t = sys.substreams t
  triggers : ∀ s, triggersOf s out.2.2.trace = triggersOf s sys.trace
  locks : ∀ s, lockings s out.2.2.trace = once .lock substream (through out.2.1 l) s ++ lockings s sys.trace
  outcome :
    (out.1 = 0 ∧ out.2.1 = none ∧ (∀ s ∈ l, action.accepts s (sys.substreams s) = true) ∧
      ∀ s ∈ l, (out.2.2.substreams s).triggerMaster = some s) ∨
    (out.1 < 0 ∧ ∃ f ∈ l, out.2.1 = some f ∧ action.accepts f (sys.substreams f) = false)

omit [DecidableEq Sub] in
theorem GroupTrigger.accepts_congr (action : GroupTrigger Sub) {s : Sub} {r r' : SubstreamState Sub}
    (same : r.core = r'.core) : action.accepts s r = action.accepts s r' := by
  rw [← action.accepts_core s r, same, action.accepts_core]

theorem preLoop_cons {ops : ActionOps Sub} {substream s : Sub} {rest : List Sub} {sys sys1 : PcmSystem Sub} {res : Int}
    (pre : ops.preAction (if s ≠ substream then sys.emit (.lock s) else sys) s = (res, sys1)) :
    preLoop ops substream (s :: rest) sys =
      if res < 0 then (res, some s, sys1) else preLoop ops substream rest sys1 := by
  rw [preLoop, pre]

theorem preLoop_spec {action : GroupTrigger Sub} {ops : ActionOps Sub} (follows : action.Follows env group ops)
    (substream : Sub) {l : List Sub} (nodup : l.Nodup) (sys : PcmSystem Sub) :
    PreLoop action substream l sys (preLoop ops substream l sys) := by
  induction l generalizing sys with
  | nil =>
    refine ⟨fun t => rfl, fun t _ => rfl, fun s => rfl, ?_, Or.inl ⟨rfl, rfl, ?_, ?_⟩⟩
    · simp [preLoop, through, once]
    · simp
    · simp
  | cons s rest ih =>
    obtain ⟨fresh, nodup⟩ := List.nodup_cons.mp nodup
    set sys1 := if s ≠ substream then sys.emit (.lock s) else sys with locked
    have same : sys1.substreams = sys.substreams := by
      rw [locked]
      split <;> rfl
    have triggers (t : Sub) : triggersOf t sys1.trace = triggersOf t sys.trace := by
      rw [locked]
      split <;> rfl
    have locks (t : Sub) := emit_lockings substream s t sys (Or.inl rfl)
    rw [← locked] at locks
    cases accepts : action.accepts s (sys.substreams s) with
    | false =>
      obtain ⟨res, negative, refused⟩ := follows.refused sys1 s (by rw [same, accepts])
      rw [preLoop_cons refused, if_pos negative]
      refine ⟨fun t => by rw [same], fun t _ => by rw [same], triggers, ?_, Or.inr ⟨negative, s, by simp, rfl, accepts⟩⟩
      intro t
      simp only [through, if_true, locks]
    | true =>
      rw [preLoop_cons (follows.accepted sys1 s (by rw [same, accepts])), if_neg (Int.lt_irrefl 0)]
      have spec := ih nodup (sys1.setTriggerMaster s (some s))
      set out := preLoop ops substream rest (sys1.setTriggerMaster s (some s))
      have core (t : Sub) : ((sys1.setTriggerMaster s (some s)).substreams t).core = (sys.substreams t).core := by
        rw [setTriggerMaster_core, same]
      have unvisited : s ∉ through out.2.1 rest := fun visited => fresh (through_subset _ rest visited)
      refine ⟨?_, ?_, ?_, ?_, ?_⟩
      · intro t
        rw [spec.core, core]
      · intro t outside
        obtain ⟨apart, outside⟩ := not_or.mp (List.mem_cons.not.mp outside)
        rw [spec.others t outside, PcmSystem.setTriggerMaster, sys1.update_other s apart, same]
      · intro t
        rw [spec.triggers, PcmSystem.setTriggerMaster_trace, triggers]
      · intro t
        have going : some s ≠ out.2.1 := by
          intro stop
          obtain ⟨-, unstopped, -⟩ | ⟨-, f, member, stopped, -⟩ := spec.outcome
          · rw [unstopped] at stop
            cases stop
          · rw [stopped] at stop
            exact fresh (Option.some.inj stop ▸ member)
        simp only [through, going, if_false]
        rw [spec.locks, PcmSystem.setTriggerMaster_trace, locks, ← List.append_assoc, once_cons .lock substream unvisited]
      · obtain ⟨zero, unstopped, all, masters⟩ | ⟨negative, f, member, stopped, refused⟩ := spec.outcome
        · refine Or.inl ⟨zero, unstopped, ?_, ?_⟩
          · intro t member
            obtain rfl | member := List.mem_cons.mp member
            · exact accepts
            · rw [← action.accepts_congr (core t)]
              exact all t member
          · intro t member
            obtain rfl | member := List.mem_cons.mp member
            · rw [spec.others t fresh, PcmSystem.setTriggerMaster_self]
            · exact masters t member
        · refine Or.inr ⟨negative, f, List.mem_cons_of_mem s member, stopped, ?_⟩
          rw [← action.accepts_congr (core f)]
          exact refused

section Second

variable {action : GroupTrigger Sub} {ops : ActionOps Sub}

omit [DecidableEq Sub] in
theorem GroupTrigger.wants_congr (action : GroupTrigger Sub) {r r' : SubstreamState Sub}
    (same : r.core = r'.core) : action.wants r = action.wants r' := by
  rw [← action.wants_core r, same, action.wants_core]

omit [DecidableEq Sub] in
theorem GroupTrigger.undoes_congr (action : GroupTrigger Sub) {r r' : SubstreamState Sub}
    (same : r.core = r'.core) : action.undoes r = action.undoes r' := by
  rw [← action.undoes_core r, same, action.undoes_core]

/-- What the second loop did up to its end or its first failure, with `calls` the triggers sent. -/
structure Attempt (action : GroupTrigger Sub) (env : RequestEnv Sub) (group called calls : List Sub)
    (sys0 sys sys1 : PcmSystem Sub) : Prop where
  claims : Claims env group (calls ++ called) sys0 sys1
  triggers : ∀ s, triggersOf s sys1.trace =
    (if s ∈ calls then [(action.cmd, env.trigger s action.cmd)] else []) ++ triggersOf s sys.trace
  locks : ∀ s, lockings s sys1.trace = lockings s sys.trace

theorem doLoop_cons {group rest : List Sub} {s : Sub} {old : Int} {sys : PcmSystem Sub}
    {out : Int × PcmSystem Sub} (act : ops.doAction sys s = some out)
    {undo : PcmSystem Sub → Sub → PcmSystem Sub} (back : ops.undoAction = some undo) :
    doLoop ops group (s :: rest) old sys =
      if out.1 < 0 then some (out.1, undoLoop undo s group out.2) else doLoop ops group rest out.1 out.2 := by
  rw [doLoop, act, back]

theorem undoLoop_before (undo : PcmSystem Sub → Sub → PcmSystem Sub) {f : Sub} {before rest : List Sub}
    (fresh : f ∉ before) (sys : PcmSystem Sub) :
    undoLoop undo f (before ++ f :: rest) sys = before.foldl undo sys := by
  induction before generalizing sys with
  | nil => simp [undoLoop]
  | cons s before ih =>
    obtain ⟨other, fresh⟩ := not_or.mp (List.mem_cons.not.mp fresh)
    simp only [List.cons_append, undoLoop, Ne.symm other, if_false, List.foldl_cons]
    exact ih fresh (undo sys s)

/-- The outcomes of the second loop with `calls` to come: a caller that never returns, a result, or a
    failure that is undone for the members before it. -/
inductive SecondLoop (action : GroupTrigger Sub) (env : RequestEnv Sub) (group called calls : List Sub)
    (sys0 sys : PcmSystem Sub) : Option (Int × PcmSystem Sub) → Prop where
  | stuck {s : Sub} (reach : s ∈ reached env action.cmd calls) (never : action.stuck s = true) :
    SecondLoop action env group called calls sys0 sys none
  | finished {res : Int} {sys1 : PcmSystem Sub} (runs : ∀ s ∈ reached env action.cmd calls, action.stuck s = false)
    (attempt : Attempt action env group called (reached env action.cmd calls) sys0 sys sys1)
    (all : failed env action.cmd calls = none) (ok : 0 ≤ res) :
    SecondLoop action env group called calls sys0 sys (some (res, sys1))
  | undone {f : Sub} {before after : List Sub} {sys1 : PcmSystem Sub}
    (runs : ∀ s ∈ reached env action.cmd calls, action.stuck s = false)
    (attempt : Attempt action env group called (reached env action.cmd calls) sys0 sys sys1)
    (first : failed env action.cmd calls = some f) (split : group = before ++ f :: after)
    (earlier : called ⊆ before) (calledBefore : succeeded env action.cmd calls ⊆ before) :
    SecondLoop action env group called calls sys0 sys
      (some (env.trigger f action.cmd, before.foldl (action.undo env group) sys1))

section Call

variable {s : Sub} {calls : List Sub}

omit [DecidableEq Sub] in
theorem reached_failing {cmd : TriggerCmd} (fails : env.trigger s cmd < 0) (calls : List Sub) :
    reached env cmd (s :: calls) = [s] := by
  simp [reached, succeeded, failed, fails]

omit [DecidableEq Sub] in
theorem reached_passing {cmd : TriggerCmd} (passes : 0 ≤ env.trigger s cmd) (calls : List Sub) :
    reached env cmd (s :: calls) = s :: reached env cmd calls := by
  simp [reached, succeeded, failed, Int.not_lt.mpr passes]

omit [DecidableEq Sub] in
theorem failed_spec {cmd : TriggerCmd} {f : Sub} (first : failed env cmd calls = some f) :
    f ∈ calls ∧ env.trigger f cmd < 0 := by
  induction calls with
  | nil => simp [failed] at first
  | cons s calls ih =>
    unfold failed at first
    split at first
    · rename_i negative
      obtain rfl := Option.some.inj first
      exact ⟨by simp, negative⟩
    · exact ⟨List.mem_cons_of_mem s (ih first).1, (ih first).2⟩

omit [DecidableEq Sub] in
theorem succeeded_spec {cmd : TriggerCmd} {c : Sub} (member : c ∈ succeeded env cmd calls) :
    c ∈ calls ∧ 0 ≤ env.trigger c cmd := by
  induction calls with
  | nil => simp [succeeded] at member
  | cons s calls ih =>
    unfold succeeded at member
    split at member
    · simp at member
    · rename_i passes
      obtain rfl | member := List.mem_cons.mp member
      · exact ⟨by simp, Int.not_lt.mp passes⟩
      · exact ⟨List.mem_cons_of_mem s (ih member).1, (ih member).2⟩

omit [DecidableEq Sub] in
theorem reached_subset (env : RequestEnv Sub) (cmd : TriggerCmd) (calls : List Sub) :
    reached env cmd calls ⊆ calls := by
  intro c member
  obtain member | member := List.mem_append.mp member
  · exact (succeeded_spec member).1
  · exact (failed_spec (Option.mem_toList.mp member)).1

omit [DecidableEq Sub] in
theorem callers_subset (env : RequestEnv Sub) (wants : Sub → Bool) (called rest : List Sub) :
    callers env wants called rest ⊆ rest := by
  induction rest generalizing called with
  | nil => simp [callers]
  | cons s rest ih =>
    unfold callers
    split
    · exact List.cons_subset_cons s (ih (s :: called))
    · exact fun c member => List.mem_cons_of_mem s (ih called member)

theorem Attempt.call {sys2 : PcmSystem Sub} (fresh : s ∉ calls)
    (later : Attempt action env group (s :: called) calls sys0 (opsTrigger env group sys s action.cmd).2 sys2) :
    Attempt action env group called (s :: calls) sys0 sys sys2 := by
  refine ⟨?_, ?_, ?_⟩
  · apply later.claims.mono
    intro c member
    simpa [or_left_comm] using member
  · intro t
    rw [later.triggers, opsTrigger_trace]
    by_cases same : s = t
    · subst same
      simp [triggersOf, fresh]
    · simp [triggersOf, same, Ne.symm same]
  · intro t
    rw [later.locks]
    rfl

theorem SecondLoop.call {out : Option (Int × PcmSystem Sub)} (fresh : s ∉ calls) (passes : 0 ≤ env.trigger s action.cmd)
    (returns : action.stuck s = false)
    (later : SecondLoop action env group (s :: called) calls sys0 (opsTrigger env group sys s action.cmd).2 out) :
    SecondLoop action env group called (s :: calls) sys0 sys out := by
  have more := reached_passing passes calls
  have same : failed env action.cmd (s :: calls) = failed env action.cmd calls := by
    simp [failed, Int.not_lt.mpr passes]
  have unreached : s ∉ reached env action.cmd calls := fun reach => fresh (reached_subset env action.cmd calls reach)
  have run (runs : ∀ c ∈ reached env action.cmd calls, action.stuck c = false) :
      ∀ c ∈ reached env action.cmd (s :: calls), action.stuck c = false := by
    rw [more]
    intro c member
    obtain rfl | member := List.mem_cons.mp member
    · exact returns
    · exact runs c member
  cases later with
  | stuck reach never => exact .stuck (by rw [more]; exact List.mem_cons_of_mem s reach) never
  | finished runs attempt all ok =>
    refine .finished (run runs) ?_ (same.trans all) ok
    rw [more]
    exact attempt.call unreached
  | undone runs attempt first split earlier calledBefore =>
    refine .undone (run runs) ?_ (same.trans first) split ?_ ?_
    · rw [more]
      exact attempt.call unreached
    · exact fun c member => earlier (List.mem_cons_of_mem s member)
    · have head : s ∈ _ := earlier (List.mem_cons_self ..)
      simpa [succeeded, Int.not_lt.mpr passes, head] using calledBefore

end Call

theorem doLoop_spec (follows : action.Follows env group ops) {before rest : List Sub}
    (split : group = before ++ rest) (nodup : group.Nodup) (earlier : called ⊆ before)
    (claims : Claims env group called sys0 sys)
    (free : ∀ t ∈ rest, (∀ c ∈ called, env.synced c t = false) → (sys.substreams t).triggerMaster = some t)
    {res : Int} (ok : 0 ≤ res) :
    SecondLoop action env group called (callers env (fun s => action.wants (sys0.substreams s)) called rest) sys0 sys
      (doLoop ops group rest res sys) := by
  induction rest generalizing before called sys res with
  | nil =>
    apply SecondLoop.finished
    · simp [callers, reached, succeeded, failed]
    · exact ⟨by simpa [callers, reached, succeeded, failed] using claims,
        by simp [callers, reached, succeeded, failed], by simp⟩
    · rfl
    · exact ok
  | cons s rest ih =>
    have member : s ∈ group := by simp [split]
    obtain ⟨-, restNodup, disjoint⟩ := List.nodup_append.mp (split ▸ nodup)
    have apart : s ∉ before := fun inside => disjoint s inside s (by simp) rfl
    have later : s ∉ rest := (List.nodup_cons.mp restNodup).1
    have longer : group = (before ++ [s]) ++ rest := by simp [split]
    have wants : action.wants (sys.substreams s) = action.wants (sys0.substreams s) :=
      action.wants_congr (claims.core s)
    by_cases calls : action.wants (sys0.substreams s) = true ∧ ∀ c ∈ called, env.synced c s = false
    · have master := free s (by simp) calls.2
      rw [callers, if_pos calls]
      have acts : ops.doAction sys s =
          if action.stuck s then none else some (opsTrigger env group sys s action.cmd) := by
        rw [follows.act, GroupTrigger.act, if_pos ⟨master, wants.trans calls.1⟩]
      cases stuck : action.stuck s with
      | true =>
        rw [stuck, if_pos rfl] at acts
        have never : doLoop ops group (s :: rest) res sys = none := by simp only [doLoop, acts]
        rw [never]
        refine .stuck ?_ stuck
        by_cases fails : env.trigger s action.cmd < 0
        · rw [reached_failing fails]
          simp
        · rw [reached_passing (Int.not_lt.mp fails)]
          simp
      | false =>
        rw [stuck, if_neg Bool.false_ne_true] at acts
        have next := claims.trigger action.cmd member master
        rw [doLoop_cons acts follows.undo]
        by_cases fails : env.trigger s action.cmd < 0
        · have only := reached_failing fails
            (callers env (fun s => action.wants (sys0.substreams s)) (s :: called) rest)
          rw [opsTrigger_ret, if_pos fails, split, undoLoop_before _ apart, ← split]
          refine .undone ?_ ?_ ?_ split earlier ?_
          · rw [only]
            simpa using stuck
          · rw [only]
            refine ⟨next, ?_, fun t => rfl⟩
            intro t
            by_cases same : s = t <;> simp [triggersOf, same, eq_comm]
          · simp [failed, fails]
          · simp [succeeded, fails]
        · rw [opsTrigger_ret, if_neg fails]
          have passes := Int.not_lt.mp fails
          refine .call (fun inside => later (callers_subset _ _ _ _ inside)) passes stuck ?_
          apply ih longer ?_ next ?_ passes
          · intro c inside
            obtain rfl | inside := List.mem_cons.mp inside
            · simp
            · exact List.mem_append_left [s] (earlier inside)
          · intro t inside unsynced
            obtain ⟨spared, unsynced⟩ := List.forall_mem_cons.mp unsynced
            rw [opsTrigger_spares env sys action.cmd spared]
            exact free t (List.mem_cons_of_mem s inside) unsynced
    · have idle : ops.doAction sys s = some (0, sys) := by
        rw [follows.act, GroupTrigger.act, if_neg]
        rintro ⟨master, wanted⟩
        refine calls ⟨wants ▸ wanted, ?_⟩
        intro c inside
        cases synced : env.synced c s with
        | false => rfl
        | true =>
          have other := claims.theirs c inside s member synced
          rw [master] at other
          exact absurd (Option.some.inj other ▸ earlier inside) apart
      rw [callers, if_neg calls, doLoop_cons idle follows.undo, if_neg (Int.lt_irrefl 0)]
      apply ih longer ?_ claims ?_ (Int.le_refl 0)
      · exact fun c inside => List.mem_append_left [s] (earlier inside)
      · exact fun t inside => free t (List.mem_cons_of_mem s inside)

theorem Claims.undo (claims : Claims env group called sys0 sys) {u : Sub} (member : u ∈ group) :
    Claims env group called sys0 (action.undo env group sys u) := by
  unfold GroupTrigger.undo
  split
  · rename_i undoes
    have next := claims.trigger action.inverse member undoes.1
    exact next.mono (List.subset_cons_self u called)
  · exact claims

theorem undo_fold (action : GroupTrigger Sub) {l : List Sub} (nodup : l.Nodup) (subset : l ⊆ group) (claims : Claims env group called sys0 sys) :
    let sys' := l.foldl (action.undo env group) sys
    (∀ t, (sys'.substreams t).core = (sys0.substreams t).core) ∧
    (∀ c ∈ called, triggersOf c sys'.trace =
      (if c ∈ l ∧ action.undoes (sys0.substreams c) = true then [(action.inverse, env.trigger c action.inverse)]
        else []) ++ triggersOf c sys.trace) ∧
    (∀ s ret, (action.cmd, ret) ∈ triggersOf s sys'.trace → (action.cmd, ret) ∈ triggersOf s sys.trace) ∧
    ∀ s, lockings s sys'.trace = lockings s sys.trace := by
  induction l generalizing sys with
  | nil => exact ⟨claims.core, by simp, fun s ret sent => sent, fun s => rfl⟩
  | cons u l ih =>
    obtain ⟨fresh, nodup⟩ := List.nodup_cons.mp nodup
    obtain ⟨member, subset⟩ := List.cons_subset.mp subset
    obtain ⟨core, triggers, older, locks⟩ := ih nodup subset (Claims.undo claims member)
    rw [List.foldl_cons]
    refine ⟨core, ?_, ?_, ?_⟩
    · intro c call
      rw [triggers c call]
      by_cases same : u = c
      · subst same
        have undoes := action.undoes_congr (claims.core u)
        cases does : action.undoes (sys0.substreams u) <;>
          simp [fresh, GroupTrigger.undo, claims.own u call, undoes, does, triggersOf]
      · have elsewhere : triggersOf c (action.undo env group sys u).trace = triggersOf c sys.trace := by
          unfold GroupTrigger.undo
          split
          · simp [triggersOf, same]
          · rfl
        simp [elsewhere, Ne.symm same]
    · intro s ret sent
      have before := older s ret sent
      unfold GroupTrigger.undo at before
      split at before
      · by_cases same : u = s <;> simpa [triggersOf, same, action.other] using before
      · exact before
    · intro s
      rw [locks]
      unfold GroupTrigger.undo
      split <;> rfl

omit [DecidableEq Sub] in
theorem GroupTrigger.target_congr (action : GroupTrigger Sub) {r r' : SubstreamState Sub}
    (same : r.core = r'.core) : action.target r = action.target r' := by
  rw [← action.target_core r, same, action.target_core]

omit [DecidableEq Sub] in
theorem state_congr {r r' : SubstreamState Sub} (same : r.core = r'.core) : r.state = r'.state := by
  have cores : r.core.state = r'.core.state := by rw [same]
  exact cores

theorem post_fold (follows : action.Follows env group ops) {l : List Sub} (nodup : l.Nodup) (sys : PcmSystem Sub) :
    let sys' := l.foldl ops.postAction sys
    (∀ s ∈ l, (sys'.substreams s).state = action.target (sys.substreams s)) ∧
    (∀ t, t ∉ l → (sys'.substreams t).core = (sys.substreams t).core) ∧ sys'.trace = sys.trace := by
  induction l generalizing sys with
  | nil => simp
  | cons u l ih =>
    obtain ⟨fresh, nodup⟩ := List.nodup_cons.mp nodup
    obtain ⟨states, others, trace⟩ := ih nodup (ops.postAction sys u)
    have apart {t : Sub} (other : t ≠ u) : ((ops.postAction sys u).substreams t).core = (sys.substreams t).core := by
      rw [follows.post, PcmSystem.setState, PcmSystem.update_other _ u other, sndPcmTriggerTstamp_core]
    rw [List.foldl_cons]
    refine ⟨?_, ?_, ?_⟩
    · intro s member
      obtain rfl | member := List.mem_cons.mp member
      · rw [state_congr (others s fresh), follows.post, PcmSystem.setState_self]
      · have other : s ≠ u := fun same => fresh (same ▸ member)
        rw [states s member, action.target_congr (apart other)]
    · intro t outside
      obtain ⟨other, outside⟩ := not_or.mp (List.mem_cons.not.mp outside)
      rw [others t outside, apart other]
    · rw [trace, follows.post, PcmSystem.setState_trace, sndPcmTriggerTstamp_trace]

end Second

end AlsaDriver.Pcm
