import Mathlib.Algebra.GroupWithZero.Nat
import AlsaDriver.Lib.Runs
import AlsaDriver.Timer.Expiry

namespace AlsaDriver.Timer

open NodeLists Runs

inductive TickOp where
  | interrupt (u ticksLeft : Nat)
  | callback (head : AckHead)

def reported (t : Nat) : List TickOp → Nat
  | [] => 0
  | .interrupt u ticksLeft :: rest => (if u = t then ticksLeft else 0) + reported t rest
  | .callback _ :: rest => reported t rest

namespace TimerState

def tick (s : TimerState) : TickOp → TimerState
  | .interrupt u ticksLeft => s.sndTimerInterrupt u ticksLeft
  | .callback head => s.callback head

def passed (s : TimerState) (i : Nat) : Nat := ((s.callbacks.filter fun call => call.1 == i).map Prod.snd).sum

def Pending (s : TimerState) (t i : Nat) : Prop := s.ack.place i = .on (.slow t)

structure Started (s : TimerState) (t i : Nat) : Prop where
  linked : s.active.place i = .on (.timer t)
  running : (s.insts i).running = true
  auto : (s.insts i).auto = true
  fast : (s.insts i).fast = false
  tasklet : (s.timers t).hw.tasklet = false
  pticks : (s.insts i).pticks = 0
  idle : ∀ j ∈ i :: s.active.items (.master i), s.ack.place j = .alone ∧ s.passed j = 0

/-- When the master expires, it has a pending callback exactly when its slaves have one, and no tick comes
    between the callback of a slave and the one of the master. Where both are pending, the first of
    them to be called has the ticks of the other. -/
def Fair (s : TimerState) (t i : Nat) : TickOp → Prop
  | .interrupt u n => u = t → (s.insts i).pticks + n < 2 ^ 64 ∧ ∀ j ∈ s.active.items (.master i),
    (s.Pending t i → s.Pending t j) ∧ ((s.insts i).cticks ≤ n → s.Pending t j → s.Pending t i)
  | .callback head => head = .slow t → ∀ j ∈ s.active.items (.master i), s.Pending t i → s.Pending t j →
    (s.ack.items head).head? = some i ∨ (s.ack.items head).head? = some j → (s.insts j).pticks = (s.insts i).pticks

structure View where
  running : Bool
  auto : Bool
  fast : Bool
  cticks : Nat
  pticks : Nat
  ack : Place AckHead
  active : Place ActiveHead

def view (s : TimerState) (i : Nat) : View :=
  ⟨(s.insts i).running, (s.insts i).auto, (s.insts i).fast, (s.insts i).cticks, (s.insts i).pticks, s.ack.place i,
    s.active.place i⟩

def Watched (s : TimerState) (i j : Nat) : Prop := j = i ∨ s.active.place j = .on (.master i)

structure Same (s s' : TimerState) (i : Nat) : Prop where
  views : ∀ j, s.Watched i j → s'.view j = s.view j
  slaves : s'.active.items (.master i) = s.active.items (.master i)
  callbacks : s'.callbacks = s.callbacks
  hw : ∀ t, (s'.timers t).hw = (s.timers t).hw

variable {s s' s'' : TimerState} {i j k t u n : Nat}

theorem Same.watched (same : s.Same s' i) (watched : s.Watched i j) : s'.Watched i j := by
  apply watched.imp id
  intro place
  have view := same.views j watched
  exact (congrArg View.active view).trans place

theorem Same.trans (first : s.Same s' i) (second : s'.Same s'' i) : s.Same s'' i := by
  refine ⟨?_, second.slaves.trans first.slaves, second.callbacks.trans first.callbacks, ?_⟩
  · intro j watched
    exact (second.views j (first.watched watched)).trans (first.views j watched)
  · intro t
    exact (second.hw t).trans (first.hw t)

theorem Same.refl (s : TimerState) (i : Nat) : s.Same s i := ⟨fun _ _ => rfl, rfl, rfl, fun _ => rfl⟩

theorem hw_modTimer {f : SndTimer → SndTimer} (same : (f (s.timers u)).hw = (s.timers u).hw) (t : Nat) :
    ((s.modTimer u f).timers t).hw = (s.timers t).hw := by
  show (Function.update s.timers u (f (s.timers u)) t).hw = _
  rw [Function.update_apply]
  split
  · rename_i here
    rw [here]
    exact same
  · rfl

theorem same_modTimer {f : SndTimer → SndTimer} (same : (f (s.timers u)).hw = (s.timers u).hw) :
    s.Same (s.modTimer u f) i := ⟨fun _ _ => rfl, rfl, rfl, hw_modTimer same⟩

theorem same_restart : s.Same (s.restart u) i := by
  have stopped : s.Same ((s.hwStop u).modTimer u fun tm => { tm with change := true }) i :=
    (same_modTimer rfl).trans (same_modTimer rfl)
  have started {b : TimerState} : b.Same ((b.modTimer u fun tm => { tm with change := false }).hwStart u) i :=
    (same_modTimer rfl).trans (same_modTimer rfl)
  rw [TimerState.restart]
  split
  · dsimp only
    split
    · split
      · exact stopped.trans started
      · exact stopped
    · split
      · exact started
      · exact Same.refl s i
  · exact same_modTimer rfl

theorem same_modInst {f : SndTimerInstance → SndTimerInstance} (apart : ¬ s.Watched i k) : s.Same (s.modInst k f) i := by
  refine ⟨?_, rfl, rfl, fun _ => rfl⟩
  intro j watched
  have other : j ≠ k := by
    rintro rfl
    exact apart watched
  have insts : (s.modInst k f).insts j = s.insts j := Function.update_of_ne other _ _
  rw [view, view, insts]
  rfl

theorem same_acknowledge {head : AckHead} (apart : ¬ s.Watched i k) : s.Same (s.acknowledge head k) i := by
  rw [TimerState.acknowledge]
  split
  · rename_i alone
    refine ⟨?_, rfl, rfl, fun _ => rfl⟩
    intro j watched
    have other : j ≠ k := by
      rintro rfl
      exact apart watched
    have place : (s.ack.addTail k head).place j = s.ack.place j := by
      rw [Lists.place_addTail (Lists.isOn_of_alone alone), Function.update_of_ne other]
    rw [view, view]
    dsimp only
    rw [place]
  · exact Same.refl s i

theorem same_del (apart : ¬ s.Watched i k) (sound : s.active.place k ≠ .deleted) :
    s.Same { s with active := s.active.del k } i := by
  refine ⟨?_, ?_, rfl, fun _ => rfl⟩
  · intro j watched
    have other : j ≠ k := by
      rintro rfl
      exact apart watched
    rw [view, view]
    dsimp only
    rw [Lists.place_del sound, Function.update_of_ne other]
  · show (s.active.del k).items (.master i) = _
    rw [Lists.items_del sound, List.erase_of_not_mem]
    intro inside
    exact apart (.inr ((s.active.linked _ _).mp inside))

theorem apart_of_timer (place : s.active.place k = .on (.timer u)) (other : k ≠ i) : ¬ s.Watched i k := by
  rintro (same | slave)
  · exact other same
  · rw [place] at slave
    cases slave

theorem same_reload (place : s.active.place k = .on (.timer u)) (other : k ≠ i) : s.Same (s.reload u k) i := by
  have apart := apart_of_timer place other
  rw [TimerState.reload]
  split
  · exact same_modInst apart
  · have ended : s.Same ((s.modInst k fun ti => { ti with running := false }).modTimer u fun tm =>
        { tm with running := tm.running - 1 }) i := (same_modInst apart).trans (same_modTimer rfl)
    dsimp only
    split
    · refine ended.trans (same_del apart ?_)
      intro gone
      have there : s.active.place k = .deleted := gone
      rw [place] at there
      cases there
    · exact ended

theorem same_expireSlave {head : AckHead} (apart : ¬ s.Watched i k) : s.Same (expireSlave head n s k) i := by
  have changed : s.Same (s.modInst k fun ts => { ts with pticks := n }) i := same_modInst apart
  exact changed.trans (same_acknowledge apart)

theorem same_expireFold {head : AckHead} {l : List Nat} (apart : ∀ k ∈ l, ¬ s.Watched i k) :
    s.Same (l.foldl (expireSlave head n) s) i := by
  induction l generalizing s with
  | nil => exact Same.refl s i
  | cons k rest ih =>
    refine (same_expireSlave (apart k List.mem_cons_self)).trans (ih ?_)
    intro m inside
    rw [Watched, expireSlave_active]
    exact apart m (List.mem_cons_of_mem k inside)

theorem same_expire (place : s.active.place k = .on (.timer u)) (other : k ≠ i)
    (here : s.active.place i = .on (.timer t)) : s.Same (s.expire u k) i := by
  have reloaded := same_reload place other
  have sound : s.active.place k ≠ .deleted := by
    rw [place]
    exact fun same => by cases same
  have acked : (s.reload u k).Same ((s.reload u k).acknowledge ((s.reload u k).ackHead u k) k) i := by
    apply same_acknowledge
    rintro (same | slave)
    · exact other same
    · have inside : k ∈ (s.reload u k).active.items (.master i) := ((s.reload u k).active.linked _ _).mpr slave
      rw [reloaded.slaves, s.active.linked, place] at inside
      cases inside
  rw [TimerState.expire]
  refine (reloaded.trans acked).trans (same_expireFold ?_)
  intro m inside
  rw [acknowledge_active] at inside
  rw [Watched, acknowledge_active]
  have led : (s.reload u k).active.place m = .on (.master k) := ((s.reload u k).active.linked _ _).mp inside
  rintro (rfl | slave)
  · have view := congrArg View.active (reloaded.views m (.inl rfl))
    have place : (s.reload u k).active.place m = s.active.place m := view
    rw [place, here] at led
    cases led
  · rw [led] at slave
    cases slave
    exact other rfl

theorem same_interruptStep (place : s.active.place k = .on (.timer u)) (other : k ≠ i)
    (here : s.active.place i = .on (.timer t)) : s.Same (interruptStep u n s k) i := by
  by_cases runs : (s.insts k).running = true
  · have ticked : s.Same (s.ticked k n) i := same_modInst (apart_of_timer place other)
    by_cases expired : (s.insts k).cticks ≤ n
    · rw [interruptStep_expired runs expired]
      exact ticked.trans (same_expire place other here)
    · rw [interruptStep_late runs (Nat.lt_of_not_le expired)]
      exact ticked
  · rw [interruptStep_still (Bool.not_eq_true _ ▸ runs)]
    exact Same.refl s i

theorem Same.here {p : Place ActiveHead} (same : s.Same s' i) (here : s.active.place i = p) : s'.active.place i = p := by
  have place : s'.active.place i = s.active.place i := congrArg View.active (same.views i (.inl rfl))
  exact place.trans here

theorem same_interruptFold {l : List Nat} (places : ∀ k ∈ l, s.active.place k = .on (.timer u)) (distinct : l.Nodup)
    (outside : i ∉ l) (here : s.active.place i = .on (.timer t)) : s.Same (l.foldl (interruptStep u n) s) i := by
  induction l generalizing s with
  | nil => exact Same.refl s i
  | cons k rest ih =>
    obtain ⟨new, distinct⟩ := List.nodup_cons.mp distinct
    have place := places k List.mem_cons_self
    have other : k ≠ i := fun same => outside (same ▸ List.mem_cons_self)
    have step := same_interruptStep (n := n) place other here
    refine step.trans (ih ?_ distinct (fun inside => outside (List.mem_cons_of_mem k inside)) (step.here here))
    intro m inside
    rw [(interruptStep_ticked place).places m fun same => new (same ▸ inside)]
    exact places m (List.mem_cons_of_mem k inside)

theorem same_rescheduleStep (place : s.active.place k = .on (.timer u)) (runs : (s.insts i).running = true) :
    s.Same (rescheduleStep u (s, n) k).1 i := by
  rw [rescheduleStep]
  dsimp only
  split
  · refine @Same.trans _ (s.modInst k fun ti => { ti with start := false, running := true }) _ _ ?_ (same_modTimer rfl)
    by_cases same : k = i
    · refine ⟨?_, rfl, rfl, fun _ => rfl⟩
      intro j watched
      by_cases here : j = k
      · have also : (s.insts k).running = true := same.symm ▸ runs
        rw [here, view, view, insts_modInst, also]
        rfl
      · have insts : (s.modInst k fun ti => { ti with start := false, running := true }).insts j = s.insts j :=
          Function.update_of_ne here _ _
        rw [view, view, insts]
        rfl
    · exact same_modInst (apart_of_timer place same)
  · exact Same.refl s i

theorem same_rescheduleFold {l : List Nat} (places : ∀ k ∈ l, s.active.place k = .on (.timer u))
    (runs : (s.insts i).running = true) : s.Same (l.foldl (rescheduleStep u) (s, n)).1 i := by
  induction l generalizing s n with
  | nil => exact Same.refl s i
  | cons k rest ih =>
    have step := same_rescheduleStep (n := n) (places k List.mem_cons_self) runs
    refine step.trans (ih ?_ ?_)
    · intro m inside
      rw [rescheduleStep_active]
      exact places m (List.mem_cons_of_mem k inside)
    · have running := congrArg View.running (step.views i (.inl rfl))
      exact running.trans runs

theorem same_reschedule {ticksLeft : Nat} (runs : (s.insts i).running = true) :
    s.Same (s.sndTimerReschedule u ticksLeft) i := by
  have fold := same_rescheduleFold (n := ULONG_MAX) (fun k inside => (s.active.linked (.timer u) k).mp inside) runs
  rw [sndTimerReschedule]
  dsimp only
  split
  · exact fold.trans (same_modTimer rfl)
  · exact fold.trans (same_modTimer rfl)

theorem same_interruptEnd (runs : (s.insts i).running = true) :
    s.Same ((if (s.timers u).resched then s.sndTimerReschedule u (s.timers u).sticks else s).restart u) i := by
  split
  · exact (same_reschedule runs).trans same_restart
  · exact same_restart

theorem same_interrupt (here : s.active.place i = .on (.timer t)) (runs : (s.insts i).running = true) (other : u ≠ t) :
    s.Same (s.sndTimerInterrupt u n) i := by
  have outside : i ∉ s.active.items (.timer u) := by
    rw [s.active.linked, here]
    intro same
    cases same
    exact other rfl
  have fold := same_interruptFold (n := n) (fun k inside => (s.active.linked (.timer u) k).mp inside) (s.active.nodup _)
    outside here
  have running := congrArg View.running (fold.views i (.inl rfl))
  rw [sndTimerInterrupt]
  exact fold.trans (same_interruptEnd (running.trans runs))

def acked (head : AckHead) (p : Place AckHead) : Place AckHead := if p = .alone then .on head else p

theorem acked_acked (head : AckHead) (p : Place AckHead) : acked head (acked head p) = acked head p := by
  rw [acked, acked]
  split
  · exact if_neg fun same => by cases same
  · rfl

theorem acknowledge_place {head : AckHead} :
    (s.acknowledge head k).ack.place j = if j = k then acked head (s.ack.place j) else s.ack.place j := by
  rw [TimerState.acknowledge, acked]
  split
  · rename_i alone
    show (s.ack.addTail k head).place j = _
    rw [Lists.place_addTail (Lists.isOn_of_alone alone), Function.update_apply]
    split
    · rename_i same
      rw [same, if_pos alone]
    · rfl
  · rename_i busy
    split
    · rename_i same
      rw [same, if_neg busy]
    · rfl

theorem expireFold_pticks {head : AckHead} {l : List Nat} (inside : j ∈ l) :
    ((l.foldl (expireSlave head n) s).insts j).pticks = n := by
  induction l generalizing s with
  | nil => cases inside
  | cons k rest ih =>
    by_cases later : j ∈ rest
    · exact ih later
    · obtain rfl : j = k := (List.mem_cons.mp inside).resolve_right later
      rw [List.foldl_cons, expireFold_other later, expireSlave, acknowledge_insts, insts_modInst]

theorem expireFold_place {head : AckHead} {l : List Nat} : (l.foldl (expireSlave head n) s).ack.place j =
    if j ∈ l then acked head (s.ack.place j) else s.ack.place j := by
  induction l generalizing s with
  | nil => rfl
  | cons k rest ih =>
    have step : (expireSlave head n s k).ack.place j = if j = k then acked head (s.ack.place j) else s.ack.place j :=
      acknowledge_place
    rw [List.foldl_cons, ih, step]
    by_cases same : j = k
    · rw [if_pos same, if_pos (List.mem_cons.mpr (.inl same)), acked_acked, ite_self]
    · rw [if_neg same, if_congr (List.mem_cons.trans (or_iff_right same)) rfl rfl]

structure Hit (s s' : TimerState) (t i n : Nat) : Prop where
  linked : s'.active.place i = s.active.place i
  running : (s'.insts i).running = (s.insts i).running
  auto : (s'.insts i).auto = (s.insts i).auto
  fast : (s'.insts i).fast = (s.insts i).fast
  pticks : (s'.insts i).pticks = ((s.insts i).pticks + n) % 2 ^ 64
  ack : s'.ack.place i = if (s.insts i).cticks ≤ n then acked (.slow t) (s.ack.place i) else s.ack.place i
  slavePticks : ∀ j ∈ s.active.items (.master i), (s'.insts j).pticks =
    if (s.insts i).cticks ≤ n then ((s.insts i).pticks + n) % 2 ^ 64 else (s.insts j).pticks
  slaveAck : ∀ j ∈ s.active.items (.master i), s'.ack.place j =
    if (s.insts i).cticks ≤ n then acked (.slow t) (s.ack.place j) else s.ack.place j
  slaves : s'.active.items (.master i) = s.active.items (.master i)
  callbacks : s'.callbacks = s.callbacks
  hw : ∀ t, (s'.timers t).hw = (s.timers t).hw

theorem Hit.after (hit : s.Hit s' t i n) (same : s'.Same s'' i) : s.Hit s'' t i n := by
  have self := same.views i (.inl rfl)
  have slave (j : Nat) (inside : j ∈ s.active.items (.master i)) : s''.view j = s'.view j := by
    apply same.views j
    rw [← hit.slaves] at inside
    exact .inr ((s'.active.linked _ _).mp inside)
  refine ⟨?_, ?_, ?_, ?_, ?_, ?_, ?_, ?_, same.slaves.trans hit.slaves, same.callbacks.trans hit.callbacks, ?_⟩
  · exact (congrArg View.active self).trans hit.linked
  · exact (congrArg View.running self).trans hit.running
  · exact (congrArg View.auto self).trans hit.auto
  · exact (congrArg View.fast self).trans hit.fast
  · exact (congrArg View.pticks self).trans hit.pticks
  · exact (congrArg View.ack self).trans hit.ack
  · exact fun j inside => (congrArg View.pticks (slave j inside)).trans (hit.slavePticks j inside)
  · exact fun j inside => (congrArg View.ack (slave j inside)).trans (hit.slaveAck j inside)
  · exact fun t => (same.hw t).trans (hit.hw t)

theorem Same.hit (same : s.Same s' i) (hit : s'.Hit s'' t i n) : s.Hit s'' t i n := by
  have self := same.views i (.inl rfl)
  have slave (j : Nat) (inside : j ∈ s.active.items (.master i)) : s'.view j = s.view j :=
    same.views j (.inr ((s.active.linked _ _).mp inside))
  have cticks : (s'.insts i).cticks = (s.insts i).cticks := congrArg View.cticks self
  have pticks : (s'.insts i).pticks = (s.insts i).pticks := congrArg View.pticks self
  have place : s'.ack.place i = s.ack.place i := congrArg View.ack self
  have first := hit.pticks
  have second := hit.ack
  rw [pticks] at first
  rw [cticks, place] at second
  refine ⟨?_, ?_, ?_, ?_, first, second, ?_, ?_, hit.slaves.trans same.slaves, hit.callbacks.trans same.callbacks, ?_⟩
  · exact hit.linked.trans (congrArg View.active self)
  · exact hit.running.trans (congrArg View.running self)
  · exact hit.auto.trans (congrArg View.auto self)
  · exact hit.fast.trans (congrArg View.fast self)
  · intro j inside
    have there := hit.slavePticks j (same.slaves.symm ▸ inside)
    have old : (s'.insts j).pticks = (s.insts j).pticks := congrArg View.pticks (slave j inside)
    rwa [cticks, pticks, old] at there
  · intro j inside
    have there := hit.slaveAck j (same.slaves.symm ▸ inside)
    have old : s'.ack.place j = s.ack.place j := congrArg View.ack (slave j inside)
    rwa [cticks, old] at there
  · exact fun t => (hit.hw t).trans (same.hw t)

theorem expire_auto (auto : (s.insts i).auto = true) (fast : (s.insts i).fast = false)
    (tasklet : (s.timers t).hw.tasklet = false) : s.expire t i =
      (s.active.items (.master i)).foldl (expireSlave (.slow t) (s.insts i).pticks)
        ((s.modInst i fun ti => { ti with cticks := ti.ticks }).acknowledge (.slow t) i) := by
  have head : (s.modInst i fun ti => { ti with cticks := ti.ticks }).ackHead t i = .slow t := by
    rw [ackHead, insts_modInst, fast]
    show (if ((s.timers t).hw.tasklet || false) = true then AckHead.fast t else .slow t) = _
    rw [tasklet]
    rfl
  rw [TimerState.expire, TimerState.reload, if_pos auto]
  rw [head, acknowledge_active, acknowledge_insts, insts_modInst]
  rfl

theorem expireFold_callbacks {head : AckHead} {l : List Nat} :
    (l.foldl (expireSlave head n) s).callbacks = s.callbacks ∧ (l.foldl (expireSlave head n) s).timers = s.timers := by
  induction l generalizing s with
  | nil => exact ⟨rfl, rfl⟩
  | cons k rest ih =>
    have step : (expireSlave head n s k).callbacks = s.callbacks ∧ (expireSlave head n s k).timers = s.timers := by
      rw [expireSlave, TimerState.acknowledge]
      split
      · exact ⟨rfl, rfl⟩
      · exact ⟨rfl, rfl⟩
    exact ⟨ih.1.trans step.1, ih.2.trans step.2⟩

theorem acknowledge_callbacks {head : AckHead} :
    (s.acknowledge head i).callbacks = s.callbacks ∧ (s.acknowledge head i).timers = s.timers := by
  rw [TimerState.acknowledge]
  split
  · exact ⟨rfl, rfl⟩
  · exact ⟨rfl, rfl⟩

theorem interruptStep_hit (here : s.active.place i = .on (.timer t)) (runs : (s.insts i).running = true)
    (auto : (s.insts i).auto = true) (fast : (s.insts i).fast = false) (tasklet : (s.timers t).hw.tasklet = false) :
    s.Hit (interruptStep t n s i) t i n := by
  have outside : i ∉ s.active.items (.master i) := by
    rw [s.active.linked, here]
    exact fun same => by cases same
  have apart (j : Nat) (inside : j ∈ s.active.items (.master i)) : j ≠ i := by
    rintro rfl
    exact outside inside
  have self : (s.ticked i n).insts i = _ := insts_modInst i _
  by_cases expired : (s.insts i).cticks ≤ n
  · have auto' : ((s.ticked i n).insts i).auto = true := by rw [self]; exact auto
    have fast' : ((s.ticked i n).insts i).fast = false := by rw [self]; exact fast
    have pticks : ((s.ticked i n).insts i).pticks = ((s.insts i).pticks + n) % 2 ^ 64 := by rw [self]
    have state : interruptStep t n s i =
        (s.active.items (.master i)).foldl (expireSlave (.slow t) (((s.insts i).pticks + n) % 2 ^ 64))
          (((s.ticked i n).modInst i fun ti => { ti with cticks := ti.ticks }).acknowledge (.slow t) i) := by
      rw [interruptStep_expired runs expired, expire_auto auto' fast' tasklet, pticks]
      rfl
    rw [state]
    have insts : (((s.ticked i n).modInst i fun ti => { ti with cticks := ti.ticks }).acknowledge (.slow t) i).insts i =
        { s.insts i with pticks := ((s.insts i).pticks + n) % 2 ^ 64, cticks := (s.insts i).ticks } := by
      rw [acknowledge_insts, insts_modInst, self]
    have place (j : Nat) : (((s.ticked i n).modInst i fun ti => { ti with cticks := ti.ticks }).acknowledge (.slow t)
        i).ack.place j = if j = i then acked (.slow t) (s.ack.place j) else s.ack.place j := acknowledge_place
    have active : (((s.ticked i n).modInst i fun ti => { ti with cticks := ti.ticks }).acknowledge (.slow t) i).active =
        s.active := acknowledge_active
    refine ⟨?_, ?_, ?_, ?_, ?_, ?_, ?_, ?_, ?_, ?_, ?_⟩
    · rw [expireFold_active, active]
    · rw [expireFold_other outside, insts]
    · rw [expireFold_other outside, insts]
    · rw [expireFold_other outside, insts]
    · rw [expireFold_other outside, insts]
    · rw [expireFold_place, if_neg outside, place, if_pos rfl, if_pos expired]
    · intro j inside
      rw [expireFold_pticks inside, if_pos expired]
    · intro j inside
      rw [expireFold_place, if_pos expired]
      refine (if_pos inside).trans ?_
      rw [place, if_neg (apart j inside)]
    · rw [expireFold_active, active]
    · exact expireFold_callbacks.1.trans acknowledge_callbacks.1
    · intro u
      exact congrArg (fun timers => (timers u).hw) (expireFold_callbacks.2.trans acknowledge_callbacks.2)
  · rw [interruptStep_late runs (Nat.lt_of_not_le expired)]
    refine ⟨rfl, ?_, ?_, ?_, ?_, (if_neg expired).symm, ?_, ?_, rfl, rfl, fun _ => rfl⟩
    · rw [self]
    · rw [self]
    · rw [self]
    · rw [self]
    · intro j inside
      rw [if_neg expired, ticked_other (apart j inside)]
    · intro j inside
      rw [if_neg expired]
      rfl

theorem hit_interruptFold {l : List Nat} (places : ∀ k ∈ l, s.active.place k = .on (.timer t)) (distinct : l.Nodup)
    (inside : i ∈ l) (runs : (s.insts i).running = true) (auto : (s.insts i).auto = true)
    (fast : (s.insts i).fast = false) (tasklet : (s.timers t).hw.tasklet = false) :
    s.Hit (l.foldl (interruptStep t n) s) t i n := by
  induction l generalizing s with
  | nil => cases inside
  | cons k rest ih =>
    obtain ⟨new, distinct⟩ := List.nodup_cons.mp distinct
    have place := places k List.mem_cons_self
    have here := places i inside
    have later (m : Nat) (inside : m ∈ rest) : (interruptStep t n s k).active.place m = .on (.timer t) := by
      rw [(interruptStep_ticked place).places m fun same => new (same ▸ inside)]
      exact places m (List.mem_cons_of_mem k inside)
    by_cases same : k = i
    · have hit := interruptStep_hit (n := n) here runs auto fast tasklet
      rw [List.foldl_cons, same]
      rw [same] at new later
      exact hit.after (same_interruptFold later distinct new (hit.linked.trans here))
    · have step := same_interruptStep (n := n) place same here
      have self := step.views i (.inl rfl)
      apply step.hit
      apply ih later distinct ((List.mem_cons.mp inside).resolve_left fun eq => same eq.symm)
      · exact (congrArg View.running self).trans runs
      · exact (congrArg View.auto self).trans auto
      · exact (congrArg View.fast self).trans fast
      · rw [step.hw]
        exact tasklet

theorem hit_interrupt (here : s.active.place i = .on (.timer t)) (runs : (s.insts i).running = true)
    (auto : (s.insts i).auto = true) (fast : (s.insts i).fast = false) (tasklet : (s.timers t).hw.tasklet = false) :
    s.Hit (s.sndTimerInterrupt t n) t i n := by
  have fold := hit_interruptFold (n := n) (fun k inside => (s.active.linked (.timer t) k).mp inside) (s.active.nodup _)
    ((s.active.linked _ _).mpr here) runs auto fast tasklet
  rw [sndTimerInterrupt]
  exact fold.after (same_interruptEnd (fold.running.trans runs))

structure Level (s : TimerState) (t i j : Nat) : Prop where
  both : s.Pending t i → s.Pending t j → s.passed j = s.passed i
  none : ¬ s.Pending t i → ¬ s.Pending t j → s.passed j = s.passed i
  slave : ¬ s.Pending t i → s.Pending t j → s.passed j + (s.insts j).pticks = s.passed i
  master : s.Pending t i → ¬ s.Pending t j → s.passed j = s.passed i + (s.insts i).pticks

structure Tally (s : TimerState) (t i : Nat) (slaves : List Nat) (total : Nat) : Prop where
  linked : s.active.place i = .on (.timer t)
  running : (s.insts i).running = true
  auto : (s.insts i).auto = true
  fast : (s.insts i).fast = false
  tasklet : (s.timers t).hw.tasklet = false
  led : s.active.items (.master i) = slaves
  places : ∀ j ∈ i :: slaves, s.ack.place j = .alone ∨ s.Pending t j
  total : s.passed i + (s.insts i).pticks = total
  level : ∀ j ∈ slaves, s.Level t i j

variable {slaves : List Nat} {total : Nat}

theorem Started.tally (started : s.Started t i) : s.Tally t i (s.active.items (.master i)) 0 := by
  have idle (j : Nat) (inside : j ∈ i :: s.active.items (.master i)) : ¬ s.Pending t j := by
    rw [Pending, (started.idle j inside).1]
    exact fun same => by cases same
  have self := (started.idle i List.mem_cons_self).2
  refine ⟨started.linked, started.running, started.auto, started.fast, started.tasklet, rfl,
    fun j inside => .inl (started.idle j inside).1, ?_, ?_⟩
  · rw [self, started.pticks]
  · intro j inside
    have slave := (started.idle j (List.mem_cons_of_mem i inside)).2
    have alone := idle i List.mem_cons_self
    refine ⟨fun pending => absurd pending alone, fun _ _ => slave.trans self.symm, ?_, fun pending => absurd pending alone⟩
    exact fun _ pending => absurd pending (idle j (List.mem_cons_of_mem i inside))

theorem passed_same (same : s'.callbacks = s.callbacks) (j : Nat) : s'.passed j = s.passed j := by
  rw [passed, passed, same]

theorem Tally.same (tally : s.Tally t i slaves total) (same : s.Same s' i) : s'.Tally t i slaves total := by
  have self := same.views i (.inl rfl)
  have slave (j : Nat) (inside : j ∈ slaves) : s'.view j = s.view j := by
    apply same.views j
    rw [← tally.led] at inside
    exact .inr ((s.active.linked _ _).mp inside)
  have pending (j : Nat) (view : s'.view j = s.view j) : s'.ack.place j = s.ack.place j := congrArg View.ack view
  have pticks (j : Nat) (view : s'.view j = s.view j) : (s'.insts j).pticks = (s.insts j).pticks :=
    congrArg View.pticks view
  have passed := passed_same same.callbacks
  refine ⟨?_, ?_, ?_, ?_, ?_, same.slaves.trans tally.led, ?_, ?_, ?_⟩
  · exact (congrArg View.active self).trans tally.linked
  · exact (congrArg View.running self).trans tally.running
  · exact (congrArg View.auto self).trans tally.auto
  · exact (congrArg View.fast self).trans tally.fast
  · rw [same.hw]
    exact tally.tasklet
  · intro j inside
    have view : s'.view j = s.view j := by
      rcases List.mem_cons.mp inside with first | later
      · exact first ▸ self
      · exact slave j later
    rw [Pending, pending j view]
    exact tally.places j inside
  · rw [passed, pticks i self]
    exact tally.total
  · intro j inside
    obtain ⟨both, none, late, master⟩ := tally.level j inside
    have view := slave j inside
    constructor
    · rw [Pending, Pending, pending i self, pending j view, passed, passed]
      exact both
    · rw [Pending, Pending, pending i self, pending j view, passed, passed]
      exact none
    · rw [Pending, Pending, pending i self, pending j view, passed, passed, pticks j view]
      exact late
    · rw [Pending, Pending, pending i self, pending j view, passed, passed, pticks i self]
      exact master

theorem acked_pending {p : Place AckHead} (place : p = .alone ∨ p = .on (.slow t)) : acked (.slow t) p = .on (.slow t) := by
  rw [acked]
  rcases place with alone | pending
  · rw [if_pos alone]
  · rw [pending, if_neg fun same => by cases same]

theorem Tally.hit (tally : s.Tally t i slaves total) (hit : s.Hit s' t i n) (small : (s.insts i).pticks + n < 2 ^ 64)
    (fair : ∀ j ∈ slaves, (s.Pending t i → s.Pending t j) ∧ ((s.insts i).cticks ≤ n → s.Pending t j → s.Pending t i)) :
    s'.Tally t i slaves (total + n) := by
  have passed := passed_same hit.callbacks
  have pticks : (s'.insts i).pticks = (s.insts i).pticks + n := hit.pticks.trans (Nat.mod_eq_of_lt small)
  have ack (j : Nat) (inside : j ∈ i :: slaves) : s'.ack.place j =
      if (s.insts i).cticks ≤ n then acked (.slow t) (s.ack.place j) else s.ack.place j := by
    rcases List.mem_cons.mp inside with first | later
    · rw [first]
      exact hit.ack
    · exact hit.slaveAck j (tally.led.symm ▸ later)
  refine ⟨hit.linked.trans tally.linked, hit.running.trans tally.running, hit.auto.trans tally.auto,
    hit.fast.trans tally.fast, ?_, hit.slaves.trans tally.led, ?_, ?_, ?_⟩
  · rw [hit.hw]
    exact tally.tasklet
  · intro j inside
    rw [Pending, ack j inside]
    split
    · exact .inr (acked_pending (tally.places j inside))
    · exact tally.places j inside
  · rw [passed, pticks, ← Nat.add_assoc, tally.total]
  · intro j inside
    obtain ⟨both, none, late, master⟩ := tally.level j inside
    obtain ⟨follows, leads⟩ := fair j inside
    have self := ack i List.mem_cons_self
    have slave := ack j (List.mem_cons_of_mem i inside)
    by_cases expired : (s.insts i).cticks ≤ n
    · rw [if_pos expired, acked_pending (tally.places _ List.mem_cons_self)] at self
      rw [if_pos expired, acked_pending (tally.places _ (List.mem_cons_of_mem i inside))] at slave
      refine ⟨?_, fun alone => absurd self alone, fun alone => absurd self alone, fun _ alone => absurd slave alone⟩
      intro _ _
      rw [passed, passed]
      by_cases pending : s.Pending t i
      · exact both pending (follows pending)
      · exact none pending fun also => pending (leads expired also)
    · rw [if_neg expired] at self slave
      have led := hit.slavePticks j (tally.led.symm ▸ inside)
      rw [if_neg expired] at led
      constructor
      · rw [Pending, Pending, self, slave, passed, passed]
        exact both
      · rw [Pending, Pending, self, slave, passed, passed]
        exact none
      · rw [Pending, Pending, self, slave, passed, passed, led]
        exact late
      · rw [Pending, Pending, self, slave]
        exact fun pending alone => absurd (follows pending) alone

structure Called (s s' : TimerState) (k : Nat) : Prop where
  active : s'.active = s.active
  flags : ∀ j, (s'.insts j).running = (s.insts j).running ∧ (s'.insts j).auto = (s.insts j).auto ∧
    (s'.insts j).fast = (s.insts j).fast
  pticks : ∀ j, (s'.insts j).pticks = if j = k then 0 else (s.insts j).pticks
  place : ∀ j, s'.ack.place j = if j = k then .alone else s.ack.place j
  passed : ∀ j, s'.passed j = s.passed j + if j = k then (s.insts j).pticks else 0
  timers : s'.timers = s.timers

theorem callback_called {head : AckHead} {rest : List Nat} (items : s.ack.items head = k :: rest) :
    s.Called (s.callback head) k := by
  have place : s.ack.place k = .on head := by
    rw [← s.ack.linked, items]
    exact List.mem_cons_self
  have sound : s.ack.place k ≠ .deleted := by
    rw [place]
    exact fun same => by cases same
  rw [TimerState.callback, items]
  dsimp only
  refine ⟨rfl, ?_, ?_, ?_, ?_, rfl⟩
  · intro j
    show (Function.update s.insts k _ j).running = _ ∧ (Function.update s.insts k _ j).auto = _ ∧
      (Function.update s.insts k _ j).fast = _
    rw [Function.update_apply]
    split
    · rename_i same
      rw [same]
      exact ⟨rfl, rfl, rfl⟩
    · exact ⟨rfl, rfl, rfl⟩
  · intro j
    show (Function.update s.insts k _ j).pticks = _
    rw [Function.update_apply]
    split
    · rfl
    · rfl
  · intro j
    show (s.ack.delInit k).place j = _
    rw [Lists.place_delInit sound, Function.update_apply]
  · intro j
    show (((s.callbacks ++ [(k, (s.insts k).pticks)]).filter fun call => call.1 == j).map Prod.snd).sum = _
    rw [List.filter_append, List.map_append, List.sum_append, passed]
    by_cases same : j = k
    · rw [if_pos same, same, List.filter_singleton, beq_self_eq_true]
      exact congrArg _ (Nat.add_zero _)
    · have other : ((k, (s.insts k).pticks).1 == j) = false := beq_eq_false_iff_ne.mpr (Ne.symm same)
      rw [if_neg same, List.filter_singleton, other]
      rfl

theorem Tally.called (tally : s.Tally t i slaves total) (called : s.Called s' k)
    (fair : ∀ j ∈ slaves, s.Pending t i → s.Pending t j → k = i ∨ k = j → (s.insts j).pticks = (s.insts i).pticks)
    (pending : k ∈ i :: slaves → s.Pending t k) : s'.Tally t i slaves total := by
  have idle : ¬ s'.Pending t k := by
    rw [Pending, called.place, if_pos rfl]
    exact fun same => by cases same
  have keeps (j : Nat) (other : j ≠ k) : s'.ack.place j = s.ack.place j ∧ s'.passed j = s.passed j ∧
      (s'.insts j).pticks = (s.insts j).pticks := by
    rw [called.place, called.passed, called.pticks, if_neg other, if_neg other, if_neg other]
    exact ⟨rfl, rfl, rfl⟩
  have takes : s'.passed k = s.passed k + (s.insts k).pticks ∧ (s'.insts k).pticks = 0 := by
    rw [called.passed, called.pticks, if_pos rfl, if_pos rfl]
    exact ⟨rfl, rfl⟩
  have flags := called.flags i
  refine ⟨?_, flags.1.trans tally.running, flags.2.1.trans tally.auto, flags.2.2.trans tally.fast, ?_, ?_, ?_, ?_, ?_⟩
  · rw [called.active]
    exact tally.linked
  · rw [called.timers]
    exact tally.tasklet
  · rw [called.active]
    exact tally.led
  · intro j inside
    rw [Pending, called.place]
    split
    · exact .inl rfl
    · exact tally.places j inside
  · by_cases same : i = k
    · rw [same, takes.1, takes.2]
      exact same ▸ tally.total
    · rw [(keeps i same).2.1, (keeps i same).2.2]
      exact tally.total
  · intro j inside
    obtain ⟨both, none, late, master⟩ := tally.level j inside
    have apart : j ≠ i := by
      rintro rfl
      rw [← tally.led, s.active.linked, tally.linked] at inside
      cases inside
    by_cases first : k = i
    · rw [← first] at both none late master apart ⊢
      have here := pending (List.mem_cons.mpr (.inl first))
      obtain ⟨place, passed, pticks⟩ := keeps j apart
      refine ⟨fun also => absurd also idle, ?_, ?_, fun also => absurd also idle⟩
      · intro _ alone
        rw [Pending, place] at alone
        rw [passed, takes.1]
        exact master here alone
      · intro _ also
        rw [Pending, place] at also
        rw [passed, takes.1, pticks, both here also, fair j inside (first ▸ here) also (.inl first), first]
    · obtain ⟨place, passed, pticks⟩ := keeps i fun same => first same.symm
      by_cases second : k = j
      · rw [← second] at both none late master ⊢
        have here := pending (List.mem_cons_of_mem i (second.symm ▸ inside))
        refine ⟨fun _ also => absurd also idle, ?_, fun _ also => absurd also idle, ?_⟩
        · intro alone _
          rw [Pending, place] at alone
          rw [takes.1, passed]
          exact late alone here
        · intro also _
          rw [Pending, place] at also
          rw [takes.1, passed, pticks, both also here, second, fair j inside also (second ▸ here) (.inr second)]
      · obtain ⟨place', passed', pticks'⟩ := keeps j fun same => second same.symm
        constructor
        · rw [Pending, Pending, place, place', passed, passed']
          exact both
        · rw [Pending, Pending, place, place', passed, passed']
          exact none
        · rw [Pending, Pending, place, place', passed, passed', pticks']
          exact late
        · rw [Pending, Pending, place, place', passed, passed', pticks]
          exact master

theorem Tally.callback {head : AckHead} (tally : s.Tally t i slaves total)
    (fair : s.Fair t i (.callback head)) : (s.callback head).Tally t i slaves total := by
  cases items : s.ack.items head with
  | nil =>
    have same : s.callback head = s := by
      rw [TimerState.callback, items]
    rw [same]
    exact tally
  | cons k rest =>
    have place : s.ack.place k = .on head := by
      rw [← s.ack.linked, items]
      exact List.mem_cons_self
    have slow (inside : k ∈ i :: slaves) : head = .slow t := by
      rcases tally.places k inside with alone | pending
      · rw [place] at alone
        cases alone
      · rw [Pending, place] at pending
        exact Place.on.inj pending
    apply tally.called (callback_called items)
    · intro j inside first second which
      have watched : k ∈ i :: slaves := by
        rcases which with same | same
        · exact List.mem_cons.mpr (.inl same)
        · exact List.mem_cons_of_mem i (same.symm ▸ inside)
      apply fair (slow watched) j (tally.led.symm ▸ inside) first second
      rw [items, List.head?_cons]
      exact which.imp (congrArg some) (congrArg some)
    · intro watched
      rw [Pending, place, slow watched]

theorem Tally.tick {op : TickOp} (tally : s.Tally t i slaves total) (fair : s.Fair t i op) :
    (s.tick op).Tally t i slaves (total + reported t [op]) := by
  cases op with
  | callback head => exact tally.callback fair
  | interrupt u n =>
    by_cases same : u = t
    · rw [reported, if_pos same, reported, Nat.add_zero]
      obtain ⟨small, fair⟩ := fair same
      have hit := hit_interrupt (n := n) tally.linked tally.running tally.auto tally.fast tally.tasklet
      rw [same]
      exact tally.hit hit small fun j inside => fair j (tally.led.symm ▸ inside)
    · rw [reported, if_neg same, reported]
      exact tally.same (same_interrupt tally.linked tally.running same)

theorem reported_cons (t : Nat) (op : TickOp) (rest : List TickOp) :
    reported t (op :: rest) = reported t [op] + reported t rest := by
  cases op with
  | callback head => exact (Nat.zero_add _).symm
  | interrupt u n => rfl

theorem Tally.run {ops : List TickOp} (tally : s.Tally t i slaves total)
    (fair : Throughout TimerState.tick (fun s op _ => s.Fair t i op) s ops) :
    (ops.foldl TimerState.tick s).Tally t i slaves (total + reported t ops) := by
  induction ops generalizing s total with
  | nil => exact tally
  | cons op rest ih =>
    rw [reported_cons, ← Nat.add_assoc]
    exact ih (tally.tick fair.1) fair.2

/-- The ticks since the start of a master are all passed to its callback or pending, and its slaves get the
    same number once nothing is pending. -/
def Conserved (s : TimerState) (t i : Nat) (ops : List TickOp) : Prop :=
  let s' := ops.foldl tick s
  s'.passed i + (s'.insts i).pticks = reported t ops ∧
    ∀ j ∈ s.active.items (.master i), ¬ s'.Pending t i → ¬ s'.Pending t j → s'.passed j = s'.passed i

theorem ticks_conserved (s : TimerState) (t i : Nat) (ops : List TickOp) (started : s.Started t i)
    (fair : Throughout tick (fun s op _ => s.Fair t i op) s ops) : s.Conserved t i ops := by
  have tally := started.tally.run fair
  refine ⟨?_, ?_⟩
  · rw [tally.total, Nat.zero_add]
  · intro j inside
    exact (tally.level j inside).none

def paired : TimerState :=
  let s := (((init [0] fun _ => ⟨true, false, false, false, 100⟩).sndTimerOpenMaster 0 1 7 true).2.sndTimerOpenSlave 1 7 true).2
  (((s.modInst 0 fun ti => { ti with auto := true }).sndTimerStart 0 1).2.sndTimerStart 1 1).2

theorem paired_started : paired.Started 0 0 := by
  refine ⟨?_, ?_, ?_, ?_, ?_, ?_, ?_⟩ <;> decide

instance (s : TimerState) (t i : Nat) : Decidable (s.Pending t i) := inferInstanceAs (Decidable (_ = _))

instance (s : TimerState) (t i : Nat) : (op : TickOp) → Decidable (s.Fair t i op)
  | .interrupt u n => inferInstanceAs (Decidable (u = t → (s.insts i).pticks + n < 2 ^ 64 ∧
    ∀ j ∈ s.active.items (.master i),
      (s.Pending t i → s.Pending t j) ∧ ((s.insts i).cticks ≤ n → s.Pending t j → s.Pending t i)))
  | .callback head => inferInstanceAs (Decidable (head = .slow t → ∀ j ∈ s.active.items (.master i), s.Pending t i →
    s.Pending t j → (s.ack.items head).head? = some i ∨ (s.ack.items head).head? = some j →
      (s.insts j).pticks = (s.insts i).pticks))

theorem ticks_conserved_paired : paired.Conserved 0 0
    [.interrupt 0 1, .interrupt 0 2, .callback (.slow 0), .callback (.slow 0), .interrupt 0 1, .callback (.slow 0)] :=
  ticks_conserved _ _ _ _ paired_started (by decide +kernel)

/-- An interrupt between the callbacks of the master and the slave overwrites the ticks of the slave. -/
theorem overwritten_ticks : ¬ ∀ (s : TimerState) (t i : Nat) (ops : List TickOp), s.Started t i → s.Conserved t i ops := by
  intro all
  have conserved := all paired 0 0 [.interrupt 0 1, .callback (.slow 0), .interrupt 0 1, .callback (.slow 0),
    .callback (.slow 0)] paired_started
  have same := conserved.2 1 (by decide +kernel) (by decide +kernel) (by decide +kernel)
  exact absurd same (by decide +kernel)

end TimerState

end AlsaDriver.Timer
