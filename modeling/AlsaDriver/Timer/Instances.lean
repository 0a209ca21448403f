import AlsaDriver.Timer.Running

namespace AlsaDriver.Timer

open NodeLists

namespace TimerState

variable (s : TimerState)

def cores : Nat → Core := fun i => (s.insts i).core

def runs : Nat → Int := fun t => (s.timers t).running

structure Inv : Prop where
  running : Running s.cores s.runs s.active
  acked : Acked s.cores s.ack
  opened : Opened s.cores s.opened
  fresh : ∀ i, s.nextInst ≤ i → (s.cores i).live = false ∧ s.active.place i = .alone ∧ s.ack.place i = .alone
  timed : ∀ i, (s.cores i).live = true → (s.cores i).slave = false → (s.cores i).timer ≠ none

variable {s} {s' : TimerState} {i t : Nat} {x : Core}

theorem cores_modInst (i : Nat) (f : SndTimerInstance → SndTimerInstance) :
    (s.modInst i f).cores = Function.update s.cores i (f (s.insts i)).core := by
  funext j
  show (Function.update s.insts i (f (s.insts i)) j).core = _
  rw [Function.update_apply, Function.update_apply]
  split
  · rfl
  · rfl

theorem cores_modInst_same {f : SndTimerInstance → SndTimerInstance} (same : (f (s.insts i)).core = (s.insts i).core) :
    (s.modInst i f).cores = s.cores := by
  rw [cores_modInst, same]
  exact Function.update_eq_self i s.cores

theorem runs_modTimer (t : Nat) (f : SndTimer → SndTimer) :
    (s.modTimer t f).runs = Function.update s.runs t (f (s.timers t)).running := by
  funext u
  show (Function.update s.timers t (f (s.timers t)) u).running = _
  rw [Function.update_apply, Function.update_apply]
  split
  · rfl
  · rfl

theorem runs_modTimer_same {f : SndTimer → SndTimer} (same : (f (s.timers t)).running = (s.timers t).running) :
    (s.modTimer t f).runs = s.runs := by
  rw [runs_modTimer, same]
  exact Function.update_eq_self t s.runs

theorem Inv.frame (inv : s.Inv) (cores : s'.cores = s.cores) (runs : s'.runs = s.runs) (active : s'.active = s.active)
    (ack : s'.ack = s.ack) (opened : s'.opened = s.opened) (next : s'.nextInst = s.nextInst) : s'.Inv := by
  refine ⟨?_, ?_, ?_, ?_, ?_⟩
  · rw [cores, runs, active]
    exact inv.running
  · rw [cores, ack]
    exact inv.acked
  · rw [cores, opened]
    exact inv.opened
  · rw [next, cores, active, ack]
    exact inv.fresh
  · rw [cores]
    exact inv.timed

theorem Inv.modTimer {f : SndTimer → SndTimer} (inv : s.Inv)
    (same : (f (s.timers t)).running = (s.timers t).running) : (s.modTimer t f).Inv :=
  inv.frame rfl (runs_modTimer_same same) rfl rfl rfl rfl

theorem Inv.modInst {f : SndTimerInstance → SndTimerInstance} (inv : s.Inv)
    (same : (f (s.insts i)).core = (s.insts i).core) : (s.modInst i f).Inv :=
  inv.frame (cores_modInst_same same) rfl rfl rfl rfl rfl

theorem Inv.change (inv : s.Inv) (live : (s.cores i).live = true) (cores : s'.cores = Function.update s.cores i x)
    (next : s'.nextInst = s.nextInst) (running : Running (Function.update s.cores i x) s'.runs s'.active)
    (acked : Acked (Function.update s.cores i x) s'.ack) (opened : Opened (Function.update s.cores i x) s'.opened)
    (active : ∀ j, j ≠ i → s'.active.place j = s.active.place j)
    (ack : ∀ j, j ≠ i → s'.ack.place j = s.ack.place j)
    (timed : x.live = true → x.slave = false → x.timer ≠ none) : s'.Inv := by
  refine ⟨?_, ?_, ?_, ?_, ?_⟩
  · rw [cores]
    exact running
  · rw [cores]
    exact acked
  · rw [cores]
    exact opened
  · intro j new
    rw [next] at new
    obtain ⟨dead, alone, idle⟩ := inv.fresh j new
    have other : j ≠ i := by
      rintro rfl
      exact Bool.false_ne_true (dead.symm.trans live)
    rw [cores, active j other, ack j other, Function.update_of_ne other]
    exact ⟨dead, alone, idle⟩
  · intro j
    rw [cores]
    by_cases same : j = i
    · rw [same, Function.update_self]
      exact timed
    · rw [Function.update_of_ne same]
      exact inv.timed j

theorem Inv.activate {b : TimerState} {f : SndTimerInstance → SndTimerInstance} (inv : s.Inv)
    (live : (s.cores i).live = true) (insts : b.insts = s.insts) (next : b.nextInst = s.nextInst) (ack : b.ack = s.ack)
    (opened : b.opened = s.opened) {runs : Nat → Int} (same : b.runs = runs)
    (running : Running (Function.update s.cores i (f (s.insts i)).core) runs b.active)
    (active : ∀ j, j ≠ i → b.active.place j = s.active.place j)
    (alive : (f (s.insts i)).core.live = (s.cores i).live) (home : (f (s.insts i)).core.home = (s.cores i).home)
    (slave : (f (s.insts i)).core.slave = (s.cores i).slave)
    (timer : (f (s.insts i)).core.timer = (s.cores i).timer) : (b.modInst i f).Inv := by
  have cores : (b.modInst i f).cores = Function.update s.cores i (f (s.insts i)).core := by
    rw [cores_modInst, insts]
    exact congrArg (fun c => Function.update c i (f (s.insts i)).core) (congrArg (fun m j => (m j).core) insts)
  have acked : Acked (Function.update s.cores i (f (s.insts i)).core) b.ack := by
    rw [ack]
    exact inv.acked.keep alive
  have opened' : Opened (Function.update s.cores i (f (s.insts i)).core) b.opened := by
    rw [opened]
    exact inv.opened.keep alive home
  rw [← same] at running
  apply inv.change live cores next running acked opened' active
  · intro j _
    exact congrArg (fun l => l.place j) ack
  · rw [alive, slave, timer]
    exact inv.timed i

theorem Inv.still (inv : s.Inv) (master : (s.cores i).Master t) (none : (s.timers t).running = 0) :
    (s.cores i).running = false := by
  have count := inv.running.count t
  have zero : (s.active.items (.timer t)).countP (fun j => (s.cores j).running) = 0 := by
    apply Int.natCast_inj.mp
    exact count.symm.trans none
  by_contra runs
  rw [Bool.not_eq_false] at runs
  have inside : i ∈ s.active.items (.timer t) := by
    rw [s.active.linked, inv.running.masters]
    exact ⟨master, .inl runs⟩
  exact List.countP_eq_zero.mp zero i inside runs

theorem linked_stopped {active : Lists ActiveHead Nat} (off : (active.place i).isOn = false) (slave : x.slave = false)
    (stopped : x.running = false) (waits : x.start = false) :
    (∀ u, active.place i = .on (.timer u) ↔ x.Master u ∧ (x.running = true ∨ x.start = true)) ∧
      (∀ m, active.place i = .on (.master m) ↔ x.Follows m) ∧
      (x.live = true → x.slave = true → active.place i ≠ .deleted) := by
  have outside (h : ActiveHead) : active.place i ≠ .on h := by
    intro same
    rw [same] at off
    cases off
  refine ⟨?_, ?_, ?_⟩
  · intro u
    apply iff_of_false (outside _)
    rintro ⟨-, runs | starts⟩
    · exact Bool.false_ne_true (stopped.symm.trans runs)
    · exact Bool.false_ne_true (waits.symm.trans starts)
  · intro m
    exact iff_of_false (outside _) fun follows => Bool.false_ne_true (slave.symm.trans follows.2.1)
  · intro _ other
    exact absurd (slave.symm.trans other) Bool.false_ne_true

theorem place_moveTail_other {j : Nat} {h : ActiveHead} (sound : s.active.place i ≠ .deleted) (other : j ≠ i) :
    (s.active.moveTail i h).place j = s.active.place j := by
  rw [Lists.place_moveTail sound, Function.update_of_ne other]

theorem linked_started {active : Lists ActiveHead Nat} (here : active.place i = .on (.timer t)) (master : x.Master t)
    (started : x.running = true ∨ x.start = true) :
    (∀ u, active.place i = .on (.timer u) ↔ x.Master u ∧ (x.running = true ∨ x.start = true)) ∧
      (∀ m, active.place i = .on (.master m) ↔ x.Follows m) ∧
      (x.live = true → x.slave = true → active.place i ≠ .deleted) := by
  rw [here]
  refine ⟨?_, ?_, ?_⟩
  · intro u
    rw [Core.master_iff master, and_iff_left started]
    constructor
    · intro same
      exact ActiveHead.timer.inj (Place.on.inj same)
    · rintro rfl
      rfl
  · intro m
    apply iff_of_false
    · intro same
      cases same
    · intro follows
      exact Bool.false_ne_true (master.2.1.symm.trans follows.2.1)
  · intro _ slave
    exact absurd (master.2.1.symm.trans slave) Bool.false_ne_true

theorem counts_started {c : Core} {runs : Nat → Int} (still : c.running = false) (master : x.Master t)
    (starts : x.running = true) (u : Nat) : Function.update runs t (runs t + 1) u = runs u - c.counts u + x.counts u := by
  rw [Core.counts_still still, Core.counts_run master starts, Function.update_apply]
  split
  · rename_i same
    rw [if_pos same.symm, same]
    omega
  · rename_i other
    rw [if_neg fun same => other same.symm]
    omega

theorem Inv.start1 {sticks : Nat} (inv : s.Inv) (master : (s.cores i).Master t) (sound : s.active.place i ≠ .deleted)
    (single : (s.timers t).hw.slave = true → (s.cores i).running = false) : (s.sndTimerStart1 t i sticks).2.Inv := by
  have here : (s.active.moveTail i (.timer t)).place i = .on (.timer t) := by
    rw [Lists.place_moveTail sound, Function.update_self]
  have unbroken : (s.active.moveTail i (.timer t)).broken = false := by
    rw [Lists.broken_moveTail sound]
    exact inv.running.unbroken
  have others (j : Nat) (other : j ≠ i) : (s.active.moveTail i (.timer t)).place j = s.active.place j :=
    place_moveTail_other sound other
  rw [sndTimerStart1]
  split
  · -- the start is delayed
    obtain ⟨masters, slaves, fine⟩ := linked_started (x := { s.cores i with start := true }) here master (.inr rfl)
    have running : Running (Function.update s.cores i { s.cores i with start := true }) s.runs
        (s.active.moveTail i (.timer t)) := by
      apply inv.running.change unbroken others _ masters slaves fine
      intro u
      rw [Core.counts_start]
      exact (Int.sub_add_cancel _ _).symm
    dsimp only
    exact inv.activate master.1 rfl rfl rfl rfl (runs_modTimer_same rfl) running others rfl rfl rfl rfl
  · rename_i now
    have still : (s.cores i).running = false := by
      by_cases none : (s.timers t).running = 0
      · exact inv.still master none
      · apply single
        rw [← Bool.not_eq_false]
        exact fun delayed => now ⟨none, delayed⟩
    obtain ⟨masters, slaves, fine⟩ := linked_started (x := { s.cores i with running := true }) here master (.inl rfl)
    have running : Running (Function.update s.cores i { s.cores i with running := true })
        (Function.update s.runs t (s.runs t + 1)) (s.active.moveTail i (.timer t)) :=
      inv.running.change unbroken others (counts_started still master rfl) masters slaves fine
    dsimp only
    split
    · exact inv.activate master.1 rfl rfl rfl rfl (runs_modTimer t _) running others rfl rfl rfl rfl
    · have runs : ((({ s with active := s.active.moveTail i (.timer t) } : TimerState).modTimer t fun tm =>
          { tm with sticks := sticks }).hwStart t).runs = s.runs :=
        (runs_modTimer_same rfl).trans (runs_modTimer_same rfl)
      refine inv.activate master.1 rfl rfl rfl rfl ((runs_modTimer t _).trans ?_) running others rfl rfl rfl rfl
      rw [runs]
      exact congrArg (fun r => Function.update s.runs t (r t + 1)) runs

theorem insts_modInst (i : Nat) (f : SndTimerInstance → SndTimerInstance) : (s.modInst i f).insts i = f (s.insts i) :=
  Function.update_self ..

theorem place_addTail_other {j m : Nat} (free : (s.active.place i).isOn = false) (other : j ≠ i) :
    (s.active.addTail i (.master m)).place j = s.active.place j := by
  rw [Lists.place_addTail free, Function.update_of_ne other]

def Led (s : TimerState) (i : Nat) : Prop := (s.insts i).running = true ∧ (s.insts i).master ≠ none

theorem idle_of_not_led (free : ¬ s.Led i) (m : Nat) : ¬ (s.cores i).Follows m := by
  intro follows
  apply free
  refine ⟨follows.2.2.1, ?_⟩
  intro none
  exact Option.some_ne_none m (follows.2.2.2.symm.trans none)

theorem Inv.startSlave (inv : s.Inv) (live : (s.insts i).live = true) (slave : (s.insts i).slave = true)
    (free : ¬ s.Led i) : (s.sndTimerStartSlave i).2.Inv := by
  have idle := idle_of_not_led free
  have alone := inv.running.alone live slave idle
  rw [sndTimerStartSlave, insts_modInst]
  split
  · rename_i none
    have idle' (m : Nat) : ¬ ({ s.insts i with running := true } : SndTimerInstance).core.Follows m := by
      intro follows
      exact Option.some_ne_none m (follows.2.2.2.symm.trans none)
    dsimp only
    exact inv.activate live rfl rfl rfl rfl rfl (inv.running.changeIdle live slave idle slave idle') (fun _ _ => rfl) rfl rfl
      rfl rfl
  · rename_i m master
    have follows : ({ s.insts i with running := true } : SndTimerInstance).core.Follows m := ⟨live, slave, rfl, master⟩
    have running := inv.running.follow live slave idle follows
    have linked : (({ s with active := s.active.addTail i (.master m) } : TimerState).modInst i fun ti =>
        { ti with running := true }).Inv :=
      inv.activate live rfl rfl rfl rfl rfl running
        (fun j other => place_addTail_other (Lists.isOn_of_alone alone) other) rfl rfl rfl rfl
    exact linked

theorem Inv.stopSlave (inv : s.Inv) (live : (s.insts i).live = true) (slave : (s.insts i).slave = true)
    (free : ¬ s.Led i) : (s.modInst i fun ti => { ti with running := false }).Inv := by
  have idle' (m : Nat) : ¬ ({ s.insts i with running := false } : SndTimerInstance).core.Follows m :=
    fun follows => Bool.false_ne_true follows.2.2.1
  exact inv.activate live rfl rfl rfl rfl rfl
    (inv.running.changeIdle live slave (idle_of_not_led free) slave idle') (fun _ _ => rfl) rfl rfl rfl rfl

def Both (s : TimerState) (i : Nat) : Prop := (s.insts i).running = true ∧ (s.insts i).start = true

theorem rescheduleStep_inv {n : Nat} (inv : s.Inv) (here : i ∈ s.active.items (.timer t)) (single : ¬ s.Both i) :
    (rescheduleStep t (s, n) i).1.Inv := by
  rw [s.active.linked] at here
  obtain ⟨master, -⟩ := (inv.running.masters t i).mp here
  rw [rescheduleStep]
  dsimp only
  split
  · rename_i starts
    have still : (s.cores i).running = false := by
      rw [← Bool.not_eq_true]
      exact fun runs => single ⟨runs, starts⟩
    obtain ⟨masters, slaves, fine⟩ :=
      linked_started (x := { s.cores i with start := false, running := true }) here master (.inl rfl)
    have running : Running (Function.update s.cores i { s.cores i with start := false, running := true })
        (Function.update s.runs t (s.runs t + 1)) s.active := by
      exact inv.running.change inv.running.unbroken (fun _ _ => rfl) (counts_started still master rfl) masters slaves fine
    have started : ((s.modTimer t fun tm => { tm with running := tm.running + 1 }).modInst i fun ti =>
        { ti with start := false, running := true }).Inv :=
      inv.activate master.1 rfl rfl rfl rfl (runs_modTimer t _) running (fun _ _ => rfl) rfl rfl rfl rfl
    exact started
  · exact inv

theorem rescheduleStep_other {n j : Nat} (other : j ≠ i) : (rescheduleStep t (s, n) i).1.insts j = s.insts j := by
  rw [rescheduleStep]
  dsimp only
  split
  · exact Function.update_of_ne other _ _
  · rfl

theorem rescheduleStep_active {n : Nat} : (rescheduleStep t (s, n) i).1.active = s.active := by
  rw [rescheduleStep]
  dsimp only
  split
  · rfl
  · rfl

theorem rescheduleFold_inv {l : List Nat} {n : Nat} (inv : s.Inv) (distinct : l.Nodup)
    (single : ∀ i ∈ l, i ∈ s.active.items (.timer t) ∧ ¬ s.Both i) : (l.foldl (rescheduleStep t) (s, n)).1.Inv := by
  induction l generalizing s n with
  | nil => exact inv
  | cons i rest ih =>
    obtain ⟨outside, distinct⟩ := List.nodup_cons.mp distinct
    obtain ⟨here, once⟩ := single i List.mem_cons_self
    apply ih (rescheduleStep_inv inv here once) distinct
    intro j inside
    have other : j ≠ i := fun same => outside (same ▸ inside)
    rw [rescheduleStep_active, Both, rescheduleStep_other other]
    exact single j (List.mem_cons_of_mem i inside)

theorem Inv.reschedule {ticksLeft : Nat} (inv : s.Inv) (single : ∀ i ∈ s.active.items (.timer t), ¬ s.Both i) :
    (s.sndTimerReschedule t ticksLeft).Inv := by
  have fold := rescheduleFold_inv (n := ULONG_MAX) inv (s.active.nodup (.timer t)) fun i inside => ⟨inside, single i inside⟩
  rw [sndTimerReschedule]
  dsimp only
  split
  · exact fold.modTimer rfl
  · exact fold.modTimer rfl

theorem Inv.stopIdle (inv : s.Inv) (none : (s.timers t).running = 0) : (s.stopIdle t).Inv := by
  have single : ∀ i ∈ s.active.items (.timer t), ¬ s.Both i := by
    intro i inside both
    rw [s.active.linked, inv.running.masters] at inside
    exact Bool.false_ne_true ((inv.still inside.1 none).symm.trans both.1)
  have stopped : (s.hwStop t).Inv := inv.modTimer rfl
  rw [TimerState.stopIdle]
  dsimp only
  split
  · have idle : (((s.hwStop t).modTimer t fun tm => { tm with resched := false }).sndTimerReschedule t 0).Inv :=
      (stopped.modTimer rfl).reschedule single
    split
    · exact (idle.modTimer rfl).modTimer rfl
    · exact idle
  · exact stopped

section

variable {f : SndTimerInstance → SndTimerInstance}

theorem modInst_comm {j : Nat} {g : SndTimerInstance → SndTimerInstance} (other : j ≠ i) :
    (s.modInst i f).modInst j g = (s.modInst j g).modInst i f := by
  have insts : ((s.modInst i f).modInst j g).insts = ((s.modInst j g).modInst i f).insts := by
    show Function.update (Function.update s.insts i (f (s.insts i))) j
        (g (Function.update s.insts i (f (s.insts i)) j)) =
      Function.update (Function.update s.insts j (g (s.insts j))) i (f (Function.update s.insts j (g (s.insts j)) i))
    rw [Function.update_of_ne other, Function.update_of_ne (Ne.symm other), Function.update_comm (Ne.symm other)]
  exact congrArg (fun insts => { s with insts := insts }) insts

theorem rescheduleStep_modInst {n j : Nat} (other : j ≠ i) : rescheduleStep t (s.modInst i f, n) j =
    ((rescheduleStep t (s, n) j).1.modInst i f, (rescheduleStep t (s, n) j).2) := by
  have same : (s.modInst i f).insts j = s.insts j := Function.update_of_ne other _ _
  rw [rescheduleStep, rescheduleStep]
  dsimp only
  rw [same]
  split
  · rw [modInst_comm other]
    have after : ((s.modInst j fun ti => { ti with start := false, running := true }).modInst i f).insts j =
        (s.modInst j fun ti => { ti with start := false, running := true }).insts j := Function.update_of_ne other _ _
    exact congrArg (fun ti : SndTimerInstance => (_, if ti.running then min n ti.cticks else n)) after
  · rw [same]

theorem rescheduleFold_modInst {l : List Nat} {n : Nat} (outside : i ∉ l) :
    l.foldl (rescheduleStep t) (s.modInst i f, n) =
      ((l.foldl (rescheduleStep t) (s, n)).1.modInst i f, (l.foldl (rescheduleStep t) (s, n)).2) := by
  induction l generalizing s n with
  | nil => rfl
  | cons j rest ih =>
    have other : j ≠ i := fun same => outside (same ▸ List.mem_cons_self)
    rw [List.foldl_cons, rescheduleStep_modInst other]
    exact ih fun inside => outside (List.mem_cons_of_mem j inside)

theorem reschedule_modInst (ticksLeft : Nat) (outside : i ∉ s.active.items (.timer t)) :
    (s.modInst i f).sndTimerReschedule t ticksLeft = (s.sndTimerReschedule t ticksLeft).modInst i f := by
  have fold := rescheduleFold_modInst (f := f) (s := s) (n := ULONG_MAX) (t := t) outside
  rw [sndTimerReschedule, sndTimerReschedule]
  have same : (s.modInst i f).active.items (.timer t) = s.active.items (.timer t) := rfl
  rw [same, fold]
  dsimp only
  split
  · rfl
  · rfl

theorem stopIdle_modInst (outside : i ∉ s.active.items (.timer t)) :
    (s.modInst i f).stopIdle t = (s.stopIdle t).modInst i f := by
  have idle := reschedule_modInst (f := f) (s := (s.hwStop t).modTimer t fun tm => { tm with resched := false })
    0 outside
  have same : ((s.modInst i f).hwStop t).modTimer t (fun tm => { tm with resched := false }) =
      ((s.hwStop t).modTimer t fun tm => { tm with resched := false }).modInst i f := rfl
  have flag : (((s.modInst i f).hwStop t).timers t).resched = ((s.hwStop t).timers t).resched := rfl
  rw [TimerState.stopIdle, TimerState.stopIdle, same, idle, flag]
  split
  · symm
    apply apply_ite fun s : TimerState => s.modInst i f
  · rfl

end

structure SameLists (s s' : TimerState) : Prop where
  active : s'.active = s.active
  ack : s'.ack = s.ack
  opened : s'.opened = s.opened
  next : s'.nextInst = s.nextInst

theorem SameLists.trans {s'' : TimerState} (first : s.SameLists s') (second : s'.SameLists s'') : s.SameLists s'' :=
  ⟨second.active.trans first.active, second.ack.trans first.ack, second.opened.trans first.opened,
    second.next.trans first.next⟩

theorem sameLists_modTimer (t : Nat) (f : SndTimer → SndTimer) : s.SameLists (s.modTimer t f) := ⟨rfl, rfl, rfl, rfl⟩

theorem rescheduleStep_lists {n : Nat} : s.SameLists (rescheduleStep t (s, n) i).1 := by
  rw [rescheduleStep]
  dsimp only
  split
  · exact ⟨rfl, rfl, rfl, rfl⟩
  · exact ⟨rfl, rfl, rfl, rfl⟩

theorem rescheduleFold_lists {l : List Nat} {n : Nat} : s.SameLists (l.foldl (rescheduleStep t) (s, n)).1 := by
  induction l generalizing s n with
  | nil => exact ⟨rfl, rfl, rfl, rfl⟩
  | cons j rest ih => exact rescheduleStep_lists.trans ih

theorem rescheduleFold_other {l : List Nat} {n : Nat} (outside : i ∉ l) :
    (l.foldl (rescheduleStep t) (s, n)).1.insts i = s.insts i := by
  induction l generalizing s n with
  | nil => rfl
  | cons j rest ih =>
    have other : i ≠ j := fun same => outside (same ▸ List.mem_cons_self)
    exact (ih fun inside => outside (List.mem_cons_of_mem j inside)).trans (rescheduleStep_other other)

theorem reschedule_lists (ticksLeft : Nat) : s.SameLists (s.sndTimerReschedule t ticksLeft) := by
  have fold := rescheduleFold_lists (s := s) (t := t) (l := s.active.items (.timer t)) (n := ULONG_MAX)
  rw [sndTimerReschedule]
  dsimp only
  split
  · exact fold.trans (sameLists_modTimer t _)
  · exact fold.trans (sameLists_modTimer t _)

theorem reschedule_other (ticksLeft : Nat) (outside : i ∉ s.active.items (.timer t)) :
    (s.sndTimerReschedule t ticksLeft).insts i = s.insts i := by
  have fold := rescheduleFold_other (s := s) (t := t) (n := ULONG_MAX) outside
  rw [sndTimerReschedule]
  dsimp only
  split
  · exact fold
  · exact fold

theorem stopIdle_lists : s.SameLists (s.stopIdle t) := by
  rw [TimerState.stopIdle]
  dsimp only
  split
  · have idle := reschedule_lists (s := (s.hwStop t).modTimer t fun tm => { tm with resched := false }) (t := t)
      0
    have whole := ((sameLists_modTimer t _).trans (sameLists_modTimer t _)).trans idle
    split
    · exact (whole.trans (sameLists_modTimer t _)).trans (sameLists_modTimer t _)
    · exact whole
  · exact sameLists_modTimer t _

theorem stopIdle_other (outside : i ∉ s.active.items (.timer t)) : (s.stopIdle t).insts i = s.insts i := by
  rw [TimerState.stopIdle]
  dsimp only
  split
  · have idle := reschedule_other (s := (s.hwStop t).modTimer t fun tm => { tm with resched := false }) (t := t)
      0 outside
    split
    · exact idle
    · exact idle
  · rfl

def halted (s : TimerState) (t i : Nat) : TimerState :=
  let b := { s with ack := s.ack.delInit i, active := s.active.delInit i }
  (if (s.insts i).running then b.modTimer t fun tm => { tm with running := tm.running - 1 } else b).modInst i fun ti =>
    { ti with running := false, start := false }

theorem not_mem_delInit (sound : s.active.place i ≠ .deleted) (h : ActiveHead) : i ∉ (s.active.delInit i).items h := by
  rw [Lists.linked, Lists.place_delInit sound, Function.update_self]
  intro same
  cases same

theorem stop1_master (master : (s.cores i).Master t) (sound : s.active.place i ≠ .deleted) :
    (s.sndTimerStop1 i false).2 =
      if (s.insts i).running = true ∧ (s.timers t).running - 1 = 0 then (s.halted t i).stopIdle t else s.halted t i := by
  have slave : ¬ (s.insts i).slave = true := fun slave => Bool.false_ne_true (master.2.1.symm.trans slave)
  have timer : (s.insts i).timer = some t := master.2.2
  have outside := not_mem_delInit sound (.timer t)
  rw [sndTimerStop1, if_neg slave, timer]
  dsimp only
  rw [if_neg Bool.false_ne_true]
  by_cases runs : (s.insts i).running = true
  · have less : (s.timers t).running - 1 = ((({ s with ack := s.ack.delInit i, active := s.active.delInit i } :
        TimerState).modTimer t fun tm => { tm with running := tm.running - 1 }).timers t).running := by
      show _ = (Function.update s.timers t _ t).running
      rw [Function.update_self]
    have halted : s.halted t i = (({ s with ack := s.ack.delInit i, active := s.active.delInit i } :
        TimerState).modTimer t fun tm => { tm with running := tm.running - 1 }).modInst i fun ti =>
          { ti with running := false, start := false } := by
      rw [TimerState.halted, if_pos runs]
    rw [if_pos runs, less, halted]
    split
    · rename_i none
      rw [if_pos ⟨runs, none⟩, stopIdle_modInst outside]
    · rename_i some
      rw [if_neg fun both => some both.2]
  · rw [if_neg runs, if_neg fun both => runs both.1, TimerState.halted, if_neg runs]

theorem counts_halted {c : Core} {runs : Nat → Int} (master : c.Master t) (run : c.running = true)
    (still : x.running = false) (u : Nat) : Function.update runs t (runs t - 1) u = runs u - c.counts u + x.counts u := by
  rw [Core.counts_still still, Core.counts_run master run, Function.update_apply]
  split
  · rename_i same
    rw [if_pos same.symm, same]
    omega
  · rename_i other
    rw [if_neg fun same => other same.symm]
    omega

theorem halted_runs : (s.halted t i).runs =
    if (s.insts i).running then Function.update s.runs t (s.runs t - 1) else s.runs := by
  rw [TimerState.halted]
  split
  · exact runs_modTimer (s := s) t fun tm => { tm with running := tm.running - 1 }
  · rfl

theorem Inv.halted (inv : s.Inv) (master : (s.cores i).Master t) (sound : s.active.place i ≠ .deleted) :
    (s.halted t i).Inv := by
  have off := Lists.free_delInit sound
  obtain ⟨masters, slaves, fine⟩ :=
    linked_stopped (x := { s.cores i with running := false, start := false }) off master.2.1 rfl rfl
  have place (j : Nat) (other : j ≠ i) : (s.active.delInit i).place j = s.active.place j := by
    rw [Lists.place_delInit sound, Function.update_of_ne other]
  have idle (j : Nat) (other : j ≠ i) : (s.ack.delInit i).place j = s.ack.place j := by
    rw [Lists.place_delInit (inv.acked.sound i), Function.update_of_ne other]
  have here : (s.ack.delInit i).place i = .alone := by
    rw [Lists.place_delInit (inv.acked.sound i), Function.update_self]
  have count (u : Nat) : (s.halted t i).runs u = s.runs u - (s.cores i).counts u +
      ({ s.cores i with running := false, start := false } : Core).counts u := by
    rw [halted_runs]
    split
    · rename_i runs
      exact counts_halted master runs rfl u
    · rename_i still
      rw [Core.counts_still (Bool.not_eq_true _ ▸ still), Core.counts_still rfl]
      omega
  have running : Running (Function.update s.cores i { s.cores i with running := false, start := false })
      (s.halted t i).runs (s.active.delInit i) := by
    apply inv.running.change _ place count masters slaves fine
    rw [Lists.broken_delInit sound]
    exact inv.running.unbroken
  have acked : Acked (Function.update s.cores i { s.cores i with running := false, start := false })
      (s.ack.delInit i) := by
    apply inv.acked.change _ idle
    · rw [here]
      exact fun same => by cases same
    · rw [here]
      exact fun h same => by cases same
    · rw [Lists.broken_delInit (inv.acked.sound i)]
      exact inv.acked.unbroken
  have opened : Opened (Function.update s.cores i { s.cores i with running := false, start := false }) s.opened :=
    inv.opened.keep rfl rfl
  have kept : (s.halted t i).active = s.active.delInit i ∧ (s.halted t i).ack = s.ack.delInit i ∧
      (s.halted t i).opened = s.opened ∧ (s.halted t i).nextInst = s.nextInst ∧
      (s.halted t i).cores = Function.update s.cores i { s.cores i with running := false, start := false } := by
    rw [TimerState.halted]
    split
    · exact ⟨rfl, rfl, rfl, rfl, cores_modInst i _⟩
    · exact ⟨rfl, rfl, rfl, rfl, cores_modInst i _⟩
  obtain ⟨sameActive, sameAck, sameOpened, sameNext, cores⟩ := kept
  apply inv.change master.1 cores sameNext
  · rw [sameActive]
    exact running
  · rw [sameAck]
    exact acked
  · rw [sameOpened]
    exact opened
  · rw [sameActive]
    exact place
  · rw [sameAck]
    exact idle
  · intro _ _
    exact fun none => Option.some_ne_none t (master.2.2.symm.trans none)

theorem Inv.stopMaster (inv : s.Inv) (master : (s.cores i).Master t) (sound : s.active.place i ≠ .deleted) :
    (s.sndTimerStop1 i false).2.Inv := by
  have halted := inv.halted master sound
  rw [stop1_master master sound]
  split
  · rename_i last
    apply halted.stopIdle
    have runs : (s.halted t i).runs t = s.runs t - 1 := by
      rw [halted_runs, if_pos last.1, Function.update_self]
    exact runs.trans last.2
  · exact halted

theorem stopMaster_links (master : (s.cores i).Master t) (sound : s.active.place i ≠ .deleted) :
    (s.halted t i).SameLists (s.sndTimerStop1 i false).2 ∧
      (s.sndTimerStop1 i false).2.insts i = { s.insts i with running := false, start := false } := by
  have here : (s.halted t i).insts i = { s.insts i with running := false, start := false } := by
    rw [TimerState.halted, insts_modInst]
    split
    · rfl
    · rfl
  have active : (s.halted t i).active = s.active.delInit i := by
    rw [TimerState.halted]
    split
    · rfl
    · rfl
  rw [stop1_master master sound]
  split
  · refine ⟨stopIdle_lists, (stopIdle_other ?_).trans here⟩
    rw [active]
    exact not_mem_delInit sound (.timer t)
  · exact ⟨⟨rfl, rfl, rfl, rfl⟩, here⟩

theorem stop_state : ∃ f : SndTimerInstance → SndTimerInstance, (∀ ti, (f ti).core = ti.core) ∧
    (s.sndTimerStop i).2 = (s.sndTimerStop1 i false).2.modInst i f := by
  have same : (s.sndTimerStop1 i false).2 = (s.sndTimerStop1 i false).2.modInst i id := by
    rw [TimerState.modInst, id, Function.update_eq_self]
  rw [sndTimerStop]
  split
  · exact ⟨id, fun _ => rfl, same⟩
  · split
    · exact ⟨id, fun _ => rfl, same⟩
    · exact ⟨fun ti => { ti with cticks := ti.ticks, pticks := 0 }, fun _ => rfl, rfl⟩

def Linked (s : TimerState) (i : Nat) : Prop :=
  if (s.insts i).slave then ¬ s.Led i else s.active.place i ≠ .deleted

theorem Inv.master_of (inv : s.Inv) (live : (s.insts i).live = true) (master : ¬ (s.insts i).slave = true) :
    ∃ t, (s.insts i).timer = some t ∧ (s.cores i).Master t := by
  have slave : (s.insts i).slave = false := Bool.not_eq_true _ ▸ master
  obtain ⟨t, timer⟩ := Option.ne_none_iff_exists'.mp (inv.timed i live slave)
  exact ⟨t, timer, live, slave, timer⟩

theorem Inv.stop1 (inv : s.Inv) (live : (s.insts i).live = true) (linked : s.Linked i) :
    (s.sndTimerStop1 i false).2.Inv := by
  rw [Linked] at linked
  by_cases slave : (s.insts i).slave = true
  · rw [if_pos slave] at linked
    rw [sndTimerStop1, if_pos slave]
    exact inv.stopSlave live slave linked
  · rw [if_neg slave] at linked
    obtain ⟨t, -, master⟩ := inv.master_of live slave
    exact inv.stopMaster master linked

theorem Inv.stop (inv : s.Inv) (live : (s.insts i).live = true) (linked : s.Linked i) : (s.sndTimerStop i).2.Inv := by
  obtain ⟨f, same, state⟩ := stop_state (s := s) (i := i)
  rw [state]
  exact (inv.stop1 live linked).modInst (same _)

def Single (s : TimerState) (i : Nat) : Prop :=
  (s.insts i).slave = false → ∀ t ∈ (s.insts i).timer, (s.timers t).hw.slave = true → (s.insts i).running = false

theorem Inv.startMaster {f : SndTimerInstance → SndTimerInstance} {sticks : Nat} (inv : s.Inv)
    (same : (f (s.insts i)).core = (s.insts i).core) (master : (s.cores i).Master t)
    (sound : s.active.place i ≠ .deleted) (single : s.Single i) : ((s.modInst i f).sndTimerStart1 t i sticks).2.Inv := by
  have cores : (s.modInst i f).cores = s.cores := cores_modInst_same same
  have changed : (s.modInst i f).Inv := inv.modInst same
  apply changed.start1
  · rw [cores]
    exact master
  · exact sound
  · rw [cores]
    exact single master.2.1 t master.2.2

theorem Inv.start {ticks : Nat} (inv : s.Inv) (live : (s.insts i).live = true) (linked : s.Linked i)
    (single : s.Single i) : (s.sndTimerStart i ticks).2.Inv := by
  rw [Linked] at linked
  rw [sndTimerStart]
  split
  · exact inv
  · by_cases slave : (s.insts i).slave = true
    · rw [if_pos slave] at linked ⊢
      exact inv.startSlave live slave linked
    · rw [if_neg slave] at linked ⊢
      obtain ⟨t, timer, master⟩ := inv.master_of live slave
      rw [timer]
      exact inv.startMaster rfl master linked single

theorem Inv.continue_ (inv : s.Inv) (live : (s.insts i).live = true) (linked : s.Linked i) (single : s.Single i) :
    (s.sndTimerContinue i).2.Inv := by
  rw [Linked] at linked
  rw [sndTimerContinue]
  by_cases slave : (s.insts i).slave = true
  · rw [if_pos slave] at linked ⊢
    exact inv.startSlave live slave linked
  · rw [if_neg slave] at linked ⊢
    obtain ⟨t, timer, master⟩ := inv.master_of live slave
    rw [timer]
    exact inv.startMaster rfl master linked single

end TimerState

end AlsaDriver.Timer
