import AlsaDriver.Timer.Expiry

namespace AlsaDriver.Timer

open NodeLists

/-- What the schedule of a timer reads of an instance; `timer` is the one of an open master. -/
structure Pace where
  timer : Option Nat
  running : Bool
  start : Bool
  auto : Bool
  ticks : Nat
  cticks : Nat

def SndTimerInstance.pace (ti : SndTimerInstance) : Pace :=
  ⟨if ti.live = true ∧ ti.slave = false then ti.timer else none, ti.running, ti.start, ti.auto, ti.ticks, ti.cticks⟩

namespace Pace

variable (p : Pace)

def begun : Pace := if p.start then { p with start := false, running := true } else p

/-- The instance expires for good at an interrupt that reports `n` ticks. -/
def dies (n : Nat) : Bool := p.running && decide (p.cticks ≤ n) && !p.auto

def left (n : Nat) : Nat :=
  if p.running = true then if n < p.cticks then p.cticks - n else if p.auto = true then p.ticks else 0 else p.cticks

def goesOn (n : Nat) : Bool := p.running && (decide (n < p.cticks) || p.auto)

def ticked (n : Nat) : Pace := { p with running := p.goesOn n, cticks := p.left n }

variable {p} {n : Nat}

@[simp] theorem begun_timer : p.begun.timer = p.timer := by
  rw [begun]
  split
  · rfl
  · rfl

@[simp] theorem begun_start : p.begun.start = false := by
  rw [begun]
  split
  · rfl
  · rename_i starts
    exact eq_false_of_ne_true starts

@[simp] theorem begun_running : p.begun.running = (p.running || p.start) := by
  rw [begun]
  split
  · rename_i starts
    rw [starts, Bool.or_true]
  · rename_i starts
    rw [eq_false_of_ne_true starts, Bool.or_false]

@[simp] theorem begun_ticks : p.begun.ticks = p.ticks := by
  rw [begun]
  split
  · rfl
  · rfl

@[simp] theorem begun_cticks : p.begun.cticks = p.cticks := by
  rw [begun]
  split
  · rfl
  · rfl

theorem ticked_still (still : p.running = false) : p.ticked n = p := by
  rw [ticked, goesOn, left, still, if_neg Bool.false_ne_true, Bool.false_and, ← still]

theorem dies_still (still : p.running = false) : p.dies n = false := by rw [dies, still, Bool.false_and, Bool.false_and]

theorem ticked_late (runs : p.running = true) (late : n < p.cticks) : p.ticked n = { p with cticks := p.cticks - n } := by
  rw [ticked, goesOn, left, if_pos runs, if_pos late, runs, decide_eq_true late]
  rfl

theorem dies_late (late : n < p.cticks) : p.dies n = false := by
  rw [dies, decide_eq_false (Nat.not_le.mpr late), Bool.and_false, Bool.false_and]

theorem ticked_reload (runs : p.running = true) (expired : p.cticks ≤ n) (auto : p.auto = true) :
    p.ticked n = { p with cticks := p.ticks } := by
  have on : p.goesOn n = p.running := by
    rw [goesOn, auto, Bool.or_true, Bool.and_true]
  rw [ticked, on, left, if_pos runs, if_neg (Nat.not_lt.mpr expired), if_pos auto]

theorem ticked_once (runs : p.running = true) (expired : p.cticks ≤ n) (once : p.auto = false) :
    p.ticked n = { p with running := false, cticks := 0 } := by
  have off : p.goesOn n = false := by
    rw [goesOn, once, decide_eq_false (Nat.not_lt.mpr expired), Bool.or_false, Bool.and_false]
  rw [ticked, off, left, if_pos runs, if_neg (Nat.not_lt.mpr expired), if_neg (Bool.eq_false_iff.mp once)]

theorem dies_expired (runs : p.running = true) (expired : p.cticks ≤ n) : p.dies n = !p.auto := by
  rw [dies, runs, decide_eq_true expired]
  rfl

theorem goesOn_of_lives (runs : p.running = true) (lives : p.dies n = false) : p.goesOn n = true := by
  by_cases late : n < p.cticks
  · rw [goesOn, runs, decide_eq_true late]
    rfl
  · rw [dies_expired runs (Nat.le_of_not_lt late), Bool.not_eq_false'] at lives
    rw [goesOn, runs, lives, Bool.or_true]
    rfl

theorem lives_of_goesOn (on : p.goesOn n = true) : p.running = true ∧ p.dies n = false := by
  rw [goesOn, Bool.and_eq_true, Bool.or_eq_true, decide_eq_true_iff] at on
  refine ⟨on.1, ?_⟩
  rcases on.2 with late | auto
  · exact dies_late late
  · rw [dies, auto, Bool.not_true, Bool.and_false]

end Pace

namespace TimerState

variable (s : TimerState)

def paces : Nat → Pace := fun i => (s.insts i).pace

variable {s} {s' : TimerState} {i j t n : Nat} {l : List Nat}

theorem paces_modInst (i : Nat) (f : SndTimerInstance → SndTimerInstance) :
    (s.modInst i f).paces = Function.update s.paces i (f (s.insts i)).pace := by
  funext j
  show (Function.update s.insts i (f (s.insts i)) j).pace = _
  rw [Function.update_apply, Function.update_apply]
  split
  · rfl
  · rfl

theorem paces_modInst_same {f : SndTimerInstance → SndTimerInstance} (same : (f (s.insts i)).pace = (s.insts i).pace) :
    (s.modInst i f).paces = s.paces := by
  rw [paces_modInst, same]
  exact Function.update_eq_self i s.paces

theorem timers_modTimer (t : Nat) (f : SndTimer → SndTimer) : (s.modTimer t f).timers t = f (s.timers t) :=
  Function.update_self ..

theorem pace_master : (s.paces i).timer = some t ↔ (s.cores i).Master t := by
  show (if (s.insts i).live = true ∧ (s.insts i).slave = false then (s.insts i).timer else none) = some t ↔
    (s.insts i).live = true ∧ (s.insts i).slave = false ∧ (s.insts i).timer = some t
  rw [← and_assoc]
  split
  · rename_i master
    exact (and_iff_right master).symm
  · rename_i other
    exact iff_of_false (fun same => Option.some_ne_none t same.symm) fun both => other both.1

theorem acknowledge_timers {head : AckHead} : (s.acknowledge head i).timers = s.timers := by
  rw [acknowledge]
  split
  · rfl
  · rfl

theorem acknowledge_paces {head : AckHead} : (s.acknowledge head i).paces = s.paces :=
  congrArg (fun insts j => SndTimerInstance.pace (insts j)) acknowledge_insts

theorem expireFold_view {head : AckHead} :
    (l.foldl (expireSlave head n) s).paces = s.paces ∧ (l.foldl (expireSlave head n) s).timers = s.timers := by
  induction l generalizing s with
  | nil => exact ⟨rfl, rfl⟩
  | cons j rest ih =>
    have paces : (expireSlave head n s j).paces = s.paces := acknowledge_paces.trans (paces_modInst_same rfl)
    have timers : (expireSlave head n s j).timers = s.timers := acknowledge_timers
    exact ⟨ih.1.trans paces, ih.2.trans timers⟩

theorem expire_view : (s.expire t i).paces = (s.reload t i).paces ∧ (s.expire t i).timers = (s.reload t i).timers := by
  rw [expire]
  exact ⟨expireFold_view.1.trans acknowledge_paces, expireFold_view.2.trans acknowledge_timers⟩

structure PassedBy (s s' : TimerState) (t n i : Nat) : Prop where
  paces : s'.paces = Function.update s.paces i ((s.paces i).ticked n)
  timer : s'.timers t = { s.timers t with
    running := (s.timers t).running - if (s.paces i).dies n = true then 1 else 0 }
  places : ∀ j, j ≠ i → s'.active.place j = s.active.place j
  kept : (s.paces i).dies n = false → s'.active.place i = s.active.place i
  gone : s'.active.place i = s.active.place i ∨ s'.active.place i = .deleted

theorem reload_once (once : (s.insts i).auto = false) (sound : s.active.place i ≠ .deleted) :
    (s.reload t i).paces = Function.update s.paces i { s.paces i with running := false } ∧
      (s.reload t i).timers t = { s.timers t with running := (s.timers t).running - 1 } ∧
      ((s.reload t i).active.place i = s.active.place i ∨ (s.reload t i).active.place i = .deleted) := by
  have less : ((s.modInst i fun ti => { ti with running := false }).modTimer t fun tm =>
      { tm with running := tm.running - 1 }).timers t = { s.timers t with running := (s.timers t).running - 1 } :=
    timers_modTimer t _
  rw [reload, if_neg (Bool.eq_false_iff.mp once)]
  have stopped := paces_modInst (s := s) i fun ti => { ti with running := false }
  dsimp only
  split
  · refine ⟨stopped, less, .inr ?_⟩
    show (s.active.del i).place i = _
    rw [Lists.place_del sound, Function.update_self]
  · exact ⟨stopped, less, .inl rfl⟩

theorem ticked_view : (s.ticked i n).paces = Function.update s.paces i { s.paces i with cticks := (s.paces i).cticks - n } :=
  paces_modInst i _

theorem expire_passedBy (here : s.active.place i = .on (.timer t)) (runs : (s.insts i).running = true)
    (expired : (s.insts i).cticks ≤ n) : s.PassedBy ((s.ticked i n).expire t i) t n i := by
  have sound : s.active.place i ≠ .deleted := by
    rw [here]
    exact fun same => by cases same
  have others := (reload_active (s := s.ticked i n) (t := t) (i := i) sound).1
  have dies : (s.paces i).dies n = !(s.insts i).auto := Pace.dies_expired runs expired
  have same : (s.ticked i n).insts i = { s.insts i with
      pticks := ((s.insts i).pticks + n) % 2 ^ 64, cticks := (s.insts i).cticks - n } := insts_modInst i _
  obtain ⟨paces, timers⟩ := expire_view (s := s.ticked i n) (i := i) (t := t)
  have active := expire_active (s := s.ticked i n) (i := i) (t := t)
  cases auto : (s.insts i).auto with
  | true =>
    have ticked : (s.paces i).ticked n = _ := Pace.ticked_reload runs expired auto
    have reload : (s.ticked i n).reload t i = (s.ticked i n).modInst i fun ti => { ti with cticks := ti.ticks } := by
      rw [TimerState.reload, if_pos]
      rw [same]
      exact auto
    refine ⟨?_, ?_, ?_, ?_, ?_⟩
    · rw [paces, reload, paces_modInst, ticked_view, Function.update_idem, ticked, same]
      rfl
    · rw [timers, reload, dies, auto, Bool.not_true, if_neg Bool.false_ne_true, Int.sub_zero]
      rfl
    · rw [active]
      exact others
    · rw [active, reload]
      exact fun _ => rfl
    · rw [active, reload]
      exact .inl rfl
  | false =>
    have ticked : (s.paces i).ticked n = _ := Pace.ticked_once runs expired auto
    have once : ((s.ticked i n).insts i).auto = false := by
      rw [same]
      exact auto
    obtain ⟨reload, less, place⟩ := reload_once (t := t) once sound
    refine ⟨?_, ?_, ?_, ?_, ?_⟩
    · have none : (s.paces i).cticks - n = 0 := Nat.sub_eq_zero_of_le expired
      rw [paces, reload, ticked_view, Function.update_idem, ticked, Function.update_self, none]
    · rw [timers, less, dies, auto, Bool.not_false, if_pos rfl]
      rfl
    · rw [active]
      exact others
    · rw [dies, auto]
      exact fun lives => absurd lives.symm Bool.false_ne_true
    · rw [active]
      exact place

theorem interruptStep_passedBy (here : s.active.place i = .on (.timer t)) :
    s.PassedBy (interruptStep t n s i) t n i := by
  by_cases runs : (s.insts i).running = true
  · by_cases expired : (s.insts i).cticks ≤ n
    · rw [interruptStep_expired runs expired]
      exact expire_passedBy here runs expired
    · have late : n < (s.paces i).cticks := Nat.lt_of_not_le expired
      have lives : (s.paces i).dies n = false := Pace.dies_late late
      rw [interruptStep_late runs (Nat.lt_of_not_le expired)]
      refine ⟨?_, ?_, fun _ _ => rfl, fun _ => rfl, .inl rfl⟩
      · rw [ticked_view, Pace.ticked_late runs late]
      · rw [lives, if_neg Bool.false_ne_true, Int.sub_zero]
        rfl
  · have still : (s.paces i).running = false := eq_false_of_ne_true runs
    rw [interruptStep_still (eq_false_of_ne_true runs)]
    refine ⟨?_, ?_, fun _ _ => rfl, fun _ => rfl, .inl rfl⟩
    · rw [Pace.ticked_still still, Function.update_eq_self]
    · rw [Pace.dies_still still, if_neg Bool.false_ne_true, Int.sub_zero]

theorem natCast_add_ite (k : Nat) (b : Bool) :
    ((k + if b = true then 1 else 0 : Nat) : Int) = (k : Int) + if b = true then 1 else 0 := by
  cases b with
  | true => rfl
  | false => rfl

structure Passed (s s' : TimerState) (t n : Nat) (l : List Nat) : Prop where
  paces : ∀ i, s'.paces i = if i ∈ l then (s.paces i).ticked n else s.paces i
  timer : s'.timers t = { s.timers t with
    running := (s.timers t).running - (l.countP fun i => (s.paces i).dies n : Nat) }
  kept : ∀ i, (i ∈ l → (s.paces i).dies n = false) → s'.active.place i = s.active.place i
  gone : ∀ i, s'.active.place i = s.active.place i ∨ s'.active.place i = .deleted

theorem interruptFold_passed (distinct : l.Nodup) (here : ∀ i ∈ l, s.active.place i = .on (.timer t)) :
    s.Passed (l.foldl (interruptStep t n) s) t n l := by
  induction l generalizing s with
  | nil =>
    refine ⟨fun i => (if_neg List.not_mem_nil).symm, ?_, fun _ _ => rfl, fun _ => .inl rfl⟩
    rw [List.countP_nil, Int.natCast_zero, Int.sub_zero]
    rfl
  | cons i rest ih =>
    obtain ⟨outside, distinct⟩ := List.nodup_cons.mp distinct
    have first := interruptStep_passedBy (n := n) (here i List.mem_cons_self)
    have apart (j : Nat) (inside : j ∈ rest) : j ≠ i := fun same => outside (same ▸ inside)
    have same (j : Nat) (other : j ≠ i) : (interruptStep t n s i).paces j = s.paces j := by
      rw [first.paces, Function.update_of_ne other]
    have rest_here (j : Nat) (inside : j ∈ rest) : (interruptStep t n s i).active.place j = .on (.timer t) :=
      (first.places j (apart j inside)).trans (here j (List.mem_cons_of_mem i inside))
    have after := ih distinct rest_here
    have count : (rest.countP fun j => ((interruptStep t n s i).paces j).dies n) = rest.countP fun j => (s.paces j).dies n := by
      apply List.countP_congr
      intro j inside
      rw [same j (apart j inside)]
    refine ⟨?_, ?_, ?_, ?_⟩
    · intro j
      rw [List.foldl_cons, after.paces]
      by_cases mine : j = i
      · rw [mine, if_neg outside, if_pos List.mem_cons_self, first.paces, Function.update_self]
      · rw [same j mine]
        exact if_congr (List.mem_cons.trans (or_iff_right mine)).symm rfl rfl
    · rw [List.foldl_cons, after.timer, first.timer, count, List.countP_cons, natCast_add_ite, Int.sub_sub, Int.add_comm]
    · intro j lives
      rw [List.foldl_cons]
      by_cases mine : j = i
      · rw [mine] at lives ⊢
        exact (after.kept i fun inside => absurd inside outside).trans (first.kept (lives List.mem_cons_self))
      · refine (after.kept j fun inside => ?_).trans (first.places j mine)
        rw [same j mine]
        exact lives (List.mem_cons_of_mem i inside)
    · intro j
      rw [List.foldl_cons]
      rcases after.gone j with stays | gone
      · rw [stays]
        by_cases mine : j = i
        · rw [mine]
          exact first.gone
        · exact .inl (first.places j mine)
      · exact .inr gone

theorem rescheduleStep_view : (rescheduleStep t (s, n) i).1.paces = Function.update s.paces i (s.paces i).begun ∧
    (rescheduleStep t (s, n) i).1.timers t = { s.timers t with
      running := (s.timers t).running + if (s.paces i).start = true then 1 else 0 } ∧
    (rescheduleStep t (s, n) i).2 = if (s.paces i).begun.running = true then min n (s.paces i).cticks else n := by
  have pending : (s.paces i).start = (s.insts i).start := rfl
  rw [rescheduleStep, Pace.begun, pending]
  dsimp only
  split
  · have started := paces_modInst (s := s) i fun ti => { ti with start := false, running := true }
    have same := insts_modInst (s := s) i fun ti => { ti with start := false, running := true }
    refine ⟨started, timers_modTimer t _, ?_⟩
    have whole := congrArg (fun ti : SndTimerInstance => if ti.running = true then min n ti.cticks else n) same
    exact whole
  · refine ⟨(Function.update_eq_self ..).symm, ?_, rfl⟩
    rw [Int.add_zero]

/-- The schedule behind the loop of `snd_timer_reschedule`, with the least ticks of what runs then. -/
structure Begun (s s' : TimerState) (t n m : Nat) (l : List Nat) : Prop where
  paces : ∀ i, s'.paces i = if i ∈ l then (s.paces i).begun else s.paces i
  timer : s'.timers t = { s.timers t with
    running := (s.timers t).running + (l.countP fun i => (s.paces i).start : Nat) }
  below : m ≤ n
  least : ∀ i ∈ l, (s.paces i).begun.running = true → m ≤ (s.paces i).cticks
  met : m = n ∨ ∃ i ∈ l, (s.paces i).begun.running = true ∧ m = (s.paces i).cticks

theorem rescheduleFold_begun (distinct : l.Nodup) :
    s.Begun (l.foldl (rescheduleStep t) (s, n)).1 t n (l.foldl (rescheduleStep t) (s, n)).2 l := by
  induction l generalizing s n with
  | nil =>
    refine ⟨fun i => (if_neg List.not_mem_nil).symm, ?_, Nat.le_refl n, fun i inside => absurd inside List.not_mem_nil, .inl rfl⟩
    rw [List.countP_nil, Int.natCast_zero, Int.add_zero]
    rfl
  | cons i rest ih =>
    obtain ⟨outside, distinct⟩ := List.nodup_cons.mp distinct
    obtain ⟨paces, timer, least⟩ := rescheduleStep_view (s := s) (t := t) (n := n) (i := i)
    have apart (j : Nat) (inside : j ∈ rest) : j ≠ i := fun same => outside (same ▸ inside)
    have same (j : Nat) (other : j ≠ i) : (rescheduleStep t (s, n) i).1.paces j = s.paces j := by
      rw [paces, Function.update_of_ne other]
    have after := ih (s := (rescheduleStep t (s, n) i).1) (n := (rescheduleStep t (s, n) i).2) distinct
    have count : (rest.countP fun j => ((rescheduleStep t (s, n) i).1.paces j).start) =
        rest.countP fun j => (s.paces j).start := by
      apply List.countP_congr
      intro j inside
      rw [same j (apart j inside)]
    have low : (rescheduleStep t (s, n) i).2 ≤ n ∧
        ((s.paces i).begun.running = true → (rescheduleStep t (s, n) i).2 ≤ (s.paces i).cticks) := by
      rw [least]
      split
      · exact ⟨Nat.min_le_left _ _, fun _ => Nat.min_le_right _ _⟩
      · rename_i still
        exact ⟨Nat.le_refl n, fun runs => absurd runs still⟩
    have reached : (rescheduleStep t (s, n) i).2 = n ∨
        (s.paces i).begun.running = true ∧ (rescheduleStep t (s, n) i).2 = (s.paces i).cticks := by
      rw [least]
      split
      · rename_i runs
        rcases Nat.le_total n (s.paces i).cticks with low | high
        · exact .inl (Nat.min_eq_left low)
        · exact .inr ⟨runs, Nat.min_eq_right high⟩
      · exact .inl rfl
    rw [List.foldl_cons]
    refine ⟨?_, ?_, Nat.le_trans after.below low.1, ?_, ?_⟩
    · intro j
      rw [after.paces]
      by_cases mine : j = i
      · rw [mine, if_neg outside, if_pos List.mem_cons_self, paces, Function.update_self]
      · rw [same j mine]
        exact if_congr (List.mem_cons.trans (or_iff_right mine)).symm rfl rfl
    · rw [after.timer, timer, count, List.countP_cons, natCast_add_ite, Int.add_assoc,
        Int.add_comm ↑(rest.countP fun j => (s.paces j).start)]
    · intro j inside runs
      rcases List.mem_cons.mp inside with mine | later
      · rw [mine] at runs ⊢
        exact Nat.le_trans after.below (low.2 runs)
      · rw [← same j (apart j later)] at runs ⊢
        exact after.least j later runs
    · rcases after.met with first | ⟨j, inside, runs, there⟩
      · rcases reached with kept | ⟨runs, here⟩
        · exact .inl (first.trans kept)
        · exact .inr ⟨i, List.mem_cons_self, runs, first.trans here⟩
      · rw [same j (apart j inside)] at runs there
        exact .inr ⟨j, List.mem_cons_of_mem i inside, runs, there⟩

theorem reschedule_begun (ticksLeft : Nat) : ∃ m b, s.Begun b t ULONG_MAX m (s.active.items (.timer t)) ∧
    (s.sndTimerReschedule t ticksLeft).paces = b.paces ∧
    (s.sndTimerReschedule t ticksLeft).timers t = if m = ULONG_MAX then { b.timers t with resched := false } else
      { b.timers t with
        change := (b.timers t).change || decide (ticksLeft ≠ min m (b.timers t).hw.ticks)
        sticks := min m (b.timers t).hw.ticks } := by
  refine ⟨_, _, rescheduleFold_begun (s.active.nodup (.timer t)), ?_, ?_⟩
  · rw [sndTimerReschedule]
    dsimp only
    split
    · rfl
    · rfl
  · rw [sndTimerReschedule]
    dsimp only
    split
    · exact timers_modTimer t _
    · exact timers_modTimer t _

theorem modTimer_twice (f g : SndTimer → SndTimer) : (s.modTimer t f).modTimer t g = s.modTimer t (g ∘ f) := by
  have timers : ((s.modTimer t f).modTimer t g).timers = (s.modTimer t (g ∘ f)).timers := by
    show Function.update (Function.update s.timers t (f (s.timers t))) t (g (Function.update s.timers t (f (s.timers t)) t)) = _
    rw [Function.update_idem, Function.update_self]
    rfl
  exact congrArg (fun timers => { s with timers := timers }) timers

theorem restart_view : (s.restart t).paces = s.paces ∧ (s.restart t).active = s.active ∧
    (s.restart t).timers t = if (s.timers t).running = 0 then { s.timers t with started := false }
      else if (s.timers t).hw.auto = false ∨ (s.timers t).hw.stop = true ∨ (s.timers t).change = true then
        { s.timers t with change := false, started := true }
      else s.timers t := by
  rw [restart]
  by_cases none : (s.timers t).running = 0
  · rw [if_neg (not_not.mpr none), if_pos none]
    exact ⟨rfl, rfl, timers_modTimer t _⟩
  · rw [if_pos none, if_neg none]
    dsimp only
    by_cases stop : (s.timers t).hw.stop = true
    · have both : ((s.hwStop t).modTimer t fun tm => { tm with change := true }).timers t =
          { s.timers t with started := false, change := true } := by
        rw [hwStop, modTimer_twice, timers_modTimer]
        rfl
      rw [if_pos stop, both, if_pos (.inr rfl), if_pos (.inr (.inl stop))]
      refine ⟨rfl, rfl, ?_⟩
      rw [hwStart, modTimer_twice, timers_modTimer, Function.comp_apply, both]
    · rw [if_neg stop]
      by_cases go : (s.timers t).hw.auto = false ∨ (s.timers t).change = true
      · rw [if_pos go, if_pos (go.imp_right .inr)]
        refine ⟨rfl, rfl, ?_⟩
        rw [hwStart, modTimer_twice, timers_modTimer]
        rfl
      · have stays : ¬ ((s.timers t).hw.auto = false ∨ (s.timers t).hw.stop = true ∨ (s.timers t).change = true) :=
          fun any => go (any.imp_right fun either => either.resolve_left stop)
        rw [if_neg go, if_neg stays]
        exact ⟨rfl, rfl, rfl⟩

theorem start1_view (i t sticks : Nat) (plain : (s.timers t).hw.slave = false) :
    (s.sndTimerStart1 t i sticks).2.active = s.active.moveTail i (.timer t) ∧
      if (s.timers t).running ≠ 0 then
        (s.sndTimerStart1 t i sticks).2.paces = Function.update s.paces i { s.paces i with start := true } ∧
          (s.sndTimerStart1 t i sticks).2.timers t = { s.timers t with resched := true }
      else
        (s.sndTimerStart1 t i sticks).2.paces = Function.update s.paces i { s.paces i with running := true } ∧
          (s.sndTimerStart1 t i sticks).2.timers t =
            { s.timers t with sticks := sticks, started := true, running := (s.timers t).running + 1 } := by
  rw [sndTimerStart1]
  dsimp only
  by_cases busy : (s.timers t).running ≠ 0
  · have started := paces_modInst (s := s) i fun ti => { ti with start := true }
    have later := timers_modTimer (s := s) t fun tm => { tm with resched := true }
    rw [if_pos ⟨busy, plain⟩, if_pos busy]
    exact ⟨rfl, started, later⟩
  · have started := paces_modInst (s := s) i fun ti => { ti with running := true }
    rw [if_neg fun both => busy both.1, if_neg busy, if_neg busy]
    refine ⟨rfl, started, ?_⟩
    rw [hwStart, modTimer_twice, modTimer_twice]
    exact timers_modTimer t _

theorem halted_view (sound : s.active.place i ≠ .deleted) :
    (s.halted t i).paces = Function.update s.paces i { s.paces i with running := false, start := false } ∧
      (s.halted t i).active.place = Function.update s.active.place i .alone ∧
      (s.halted t i).timers t = { s.timers t with
        running := (s.timers t).running - if (s.paces i).running = true then 1 else 0 } := by
  have stopped := paces_modInst (s := s) i fun ti => { ti with running := false, start := false }
  have place := Lists.place_delInit sound
  have runs : (s.paces i).running = (s.insts i).running := rfl
  have less := timers_modTimer (s := s) t fun tm => { tm with running := tm.running - 1 }
  rw [halted, runs]
  dsimp only
  split
  · exact ⟨stopped, place, less⟩
  · refine ⟨stopped, place, ?_⟩
    rw [Int.sub_zero]
    rfl

end TimerState

end AlsaDriver.Timer
