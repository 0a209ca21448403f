import Mathlib.Data.List.Perm.Subperm
import AlsaDriver.Lib.Runs
import AlsaDriver.Timer.Pace

namespace AlsaDriver.Timer

open NodeLists Runs

def Fits (p : Nat → Pace) (tm : SndTimer) (t : Nat) : Prop :=
  1 ≤ tm.sticks ∧ tm.sticks ≤ tm.hw.ticks ∧ ∀ i, (p i).timer = some t → (p i).running = true → tm.sticks ≤ (p i).cticks

structure Tracked (p : Nat → Pace) (running : Int) (active : Lists ActiveHead Nat) (t : Nat) : Prop where
  linked : ∀ i, (p i).timer = some t → (p i).running = true → active.place i = .on (.timer t)
  count : ((active.items (.timer t)).countP fun i => (p i).running : Nat) ≤ running
  waits : ∀ i, (p i).timer = some t → (p i).start = true → active.place i = .on (.timer t) ∨ active.place i = .deleted
  small : ∀ i, (p i).cticks < 2 ^ 32 ∧ (p i).ticks < 2 ^ 32

structure Paced (p : Nat → Pace) (tm : SndTimer) (active : Lists ActiveHead Nat) (t : Nat) : Prop
    extends Tracked p tm.running active t where
  plain : tm.hw.slave = false
  hwTicks : 1 ≤ tm.hw.ticks
  steady : tm.change = false
  on : tm.running ≠ 0 → tm.started = true
  pending : ∀ i, active.place i = .on (.timer t) → (p i).start = true →
    1 ≤ (p i).cticks ∧ tm.resched = true ∧ tm.running ≠ 0
  due : tm.started = true → Fits p tm t

section

variable {p p' : Nat → Pace} {tm tm' : SndTimer} {active active' : Lists ActiveHead Nat} {i t : Nat} {x : Pace}

theorem countP_changed (others : ∀ j, j ≠ i → active'.place j = active.place j) (same : ∀ j, j ≠ i → p' j = p j) :
    ((active'.items (.timer t)).countP fun j => (p' j).running) +
        (if i ∈ active.items (.timer t) ∧ (p i).running = true then 1 else 0) =
      ((active.items (.timer t)).countP fun j => (p j).running) +
        if i ∈ active'.items (.timer t) ∧ (p' i).running = true then 1 else 0 := by
  have outside : ((active'.items (.timer t)).erase i).Perm ((active.items (.timer t)).erase i) := by
    rw [List.perm_ext_iff_of_nodup ((active'.nodup _).erase i) ((active.nodup _).erase i)]
    intro j
    rw [(active'.nodup _).mem_erase_iff, (active.nodup _).mem_erase_iff, active'.linked, active.linked]
    constructor
    · intro both
      exact ⟨both.1, (others j both.1).symm.trans both.2⟩
    · intro both
      exact ⟨both.1, (others j both.1).trans both.2⟩
  have apart : ((active'.items (.timer t)).erase i).countP (fun j => (p' j).running) =
      ((active.items (.timer t)).erase i).countP fun j => (p j).running := by
    rw [outside.countP_eq]
    apply List.countP_congr
    intro j inside
    rw [same j ((active.nodup _).mem_erase_iff.mp inside).1]
  rw [countP_erase_add (active'.items (.timer t)) i, countP_erase_add (active.items (.timer t)) i, apart]
  omega

theorem Tracked.still (tracked : Tracked p 0 active t) (inside : active.place i = .on (.timer t)) : (p i).running = false := by
  have zero : ((active.items (.timer t)).countP fun j => (p j).running) = 0 := by
    have count := tracked.count
    omega
  rw [← active.linked] at inside
  exact eq_false_of_ne_true (List.countP_eq_zero.mp zero i inside)

theorem Tracked.idle (tracked : Tracked p 0 active t) (mine : (p i).timer = some t) : (p i).running = false := by
  by_contra runs
  rw [Bool.not_eq_false] at runs
  exact Bool.false_ne_true ((tracked.still (tracked.linked i mine runs)).symm.trans runs)

theorem Tracked.nonneg {running : Int} (tracked : Tracked p running active t) : 0 ≤ running := by
  have count := tracked.count
  omega

theorem Tracked.change {running running' : Int} (tracked : Tracked p running active t)
    (others : ∀ j, j ≠ i → active'.place j = active.place j)
    (linked : x.running = true → active'.place i = .on (.timer t))
    (count : running' = running - (if (p i).running = true then 1 else 0) + if x.running = true then 1 else 0)
    (was : (p i).running = true → active.place i = .on (.timer t))
    (waits : x.start = true → active'.place i = .on (.timer t))
    (small : x.cticks < 2 ^ 32 ∧ x.ticks < 2 ^ 32) : Tracked (Function.update p i x) running' active' t := by
  have at_i : Function.update p i x i = x := Function.update_self ..
  have at_j (j : Nat) (other : j ≠ i) : Function.update p i x j = p j := Function.update_of_ne other x p
  refine ⟨?_, ?_, ?_, ?_⟩
  · intro j mine runs
    by_cases same : j = i
    · rw [same, at_i] at runs
      rw [same]
      exact linked runs
    · rw [at_j j same] at mine runs
      rw [others j same]
      exact tracked.linked j mine runs
  · have changed := countP_changed (p := p) (t := t) others at_j
    have old : i ∈ active.items (.timer t) ∧ (p i).running = true ↔ (p i).running = true := by
      rw [active.linked]
      exact and_iff_right_of_imp was
    have new : i ∈ active'.items (.timer t) ∧ x.running = true ↔ x.running = true := by
      rw [active'.linked]
      exact and_iff_right_of_imp linked
    rw [at_i, if_congr old rfl rfl, if_congr new rfl rfl] at changed
    have before := tracked.count
    have total := congrArg Int.ofNat changed
    rw [Int.ofNat_eq_natCast, Int.ofNat_eq_natCast, TimerState.natCast_add_ite, TimerState.natCast_add_ite] at total
    omega
  · intro j mine starts
    by_cases same : j = i
    · rw [same, at_i] at starts
      rw [same]
      exact .inl (waits starts)
    · rw [at_j j same] at mine starts
      rw [others j same]
      exact tracked.waits j mine starts
  · intro j
    by_cases same : j = i
    · rw [same, at_i]
      exact small
    · rw [at_j j same]
      exact tracked.small j

theorem Paced.delayed (paced : Paced p tm active t) (mine : (p i).timer = some t) (busy : tm.running ≠ 0)
    (place : active'.place = Function.update active.place i (.on (.timer t)))
    (running : x.running = (p i).running) (pos : 1 ≤ x.cticks) (small : x.cticks < 2 ^ 32 ∧ x.ticks < 2 ^ 32)
    (fits : x.running = true → tm.sticks ≤ x.cticks) :
    Paced (Function.update p i { x with start := true }) { tm with resched := true } active' t := by
  have others (j : Nat) (other : j ≠ i) : active'.place j = active.place j := by rw [place, Function.update_of_ne other]
  have here : active'.place i = .on (.timer t) := by rw [place, Function.update_self]
  refine ⟨?_, paced.plain, paced.hwTicks, paced.steady, paced.on, ?_, ?_⟩
  · apply paced.toTracked.change (x := { x with start := true }) others (fun _ => here) _ (paced.linked i mine)
      (fun _ => here) small
    show tm.running = tm.running - _ + if x.running = true then 1 else 0
    rw [running]
    omega
  · intro j inside starts
    by_cases same : j = i
    · rw [same, Function.update_self]
      exact ⟨pos, rfl, busy⟩
    · rw [Function.update_of_ne same] at starts ⊢
      rw [others j same] at inside
      exact ⟨(paced.pending j inside starts).1, rfl, busy⟩
  · intro started
    obtain ⟨low, high, least⟩ := paced.due started
    refine ⟨low, high, ?_⟩
    intro j
    by_cases same : j = i
    · rw [same, Function.update_self]
      exact fun _ => fits
    · rw [Function.update_of_ne same]
      exact least j

theorem Paced.immediate {sticks : Nat} (paced : Paced p tm active t) (mine : (p i).timer = some t)
    (none : tm.running = 0) (sound : active.place i ≠ .deleted)
    (place : active'.place = Function.update active.place i (.on (.timer t)))
    (start : x.start = (p i).start) (small : x.cticks < 2 ^ 32 ∧ x.ticks < 2 ^ 32) (pos : 1 ≤ sticks) (limit : sticks ≤ tm.hw.ticks) (fits : sticks ≤ x.cticks) :
    Paced (Function.update p i { x with running := true })
      { tm with sticks := sticks, started := true, running := tm.running + 1 } active' t := by
  have others (j : Nat) (other : j ≠ i) : active'.place j = active.place j := by rw [place, Function.update_of_ne other]
  have here : active'.place i = .on (.timer t) := by rw [place, Function.update_self]
  have idle (j : Nat) : (p j).timer = some t → (p j).running = false := by
    have tracked := paced.toTracked
    rw [none] at tracked
    exact tracked.idle
  have quiet (j : Nat) (inside : active.place j = .on (.timer t)) : (p j).start = false :=
    eq_false_of_ne_true fun starts => (paced.pending j inside starts).2.2 none
  have quiet_i : x.start = false := by
    rw [start]
    apply eq_false_of_ne_true
    intro starts
    rcases paced.waits i mine starts with inside | gone
    · exact (paced.pending i inside starts).2.2 none
    · exact sound gone
  refine ⟨?_, paced.plain, paced.hwTicks, paced.steady, fun _ => rfl, ?_, fun _ => ⟨pos, limit, ?_⟩⟩
  · apply paced.toTracked.change (x := { x with running := true }) others (fun _ => here) _ (paced.linked i mine)
      (fun _ => here) small
    rw [idle i mine]
    exact (congrArg (· + 1) (Int.sub_zero tm.running)).symm
  · intro j inside starts
    by_cases same : j = i
    · rw [same, Function.update_self] at starts
      exact absurd (quiet_i.symm.trans starts) Bool.false_ne_true
    · rw [Function.update_of_ne same] at starts
      rw [others j same] at inside
      exact absurd ((quiet j inside).symm.trans starts) Bool.false_ne_true
  · intro j
    by_cases same : j = i
    · rw [same, Function.update_self]
      exact fun _ _ => fits
    · rw [Function.update_of_ne same]
      intro mine runs
      exact absurd ((idle j mine).symm.trans runs) Bool.false_ne_true

theorem Paced.tune (paced : Paced p tm active t) (timer : x.timer = (p i).timer) (running : x.running = (p i).running)
    (start : x.start = (p i).start) (small : x.cticks < 2 ^ 32 ∧ x.ticks < 2 ^ 32)
    (kept : x.cticks = (p i).cticks ∨ (p i).running = false ∧ (p i).start = false) :
    Paced (Function.update p i x) tm active t := by
  have at_i : Function.update p i x i = x := Function.update_self ..
  have at_j (j : Nat) (other : j ≠ i) : Function.update p i x j = p j := Function.update_of_ne other x p
  have count : ((active.items (.timer t)).countP fun j => (Function.update p i x j).running) =
      (active.items (.timer t)).countP fun j => (p j).running := by
    apply List.countP_congr
    intro j _
    by_cases same : j = i
    · rw [same, at_i, running]
    · rw [at_j j same]
  refine ⟨⟨?_, ?_, ?_, ?_⟩, paced.plain, paced.hwTicks, paced.steady, paced.on, ?_, ?_⟩
  · intro j
    by_cases same : j = i
    · rw [same, at_i, timer, running]
      exact paced.linked i
    · rw [at_j j same]
      exact paced.linked j
  · rw [count]
    exact paced.count
  · intro j
    by_cases same : j = i
    · rw [same, at_i, timer, start]
      exact paced.waits i
    · rw [at_j j same]
      exact paced.waits j
  · intro j
    by_cases same : j = i
    · rw [same, at_i]
      exact small
    · rw [at_j j same]
      exact paced.small j
  · intro j inside
    by_cases same : j = i
    · rw [same] at inside ⊢
      rw [at_i, start]
      intro starts
      rcases kept with cticks | quiet
      · rw [cticks]
        exact paced.pending i inside starts
      · exact absurd (quiet.2.symm.trans starts) Bool.false_ne_true
    · rw [at_j j same]
      exact paced.pending j inside
  · intro on
    obtain ⟨low, high, least⟩ := paced.due on
    refine ⟨low, high, ?_⟩
    intro j
    by_cases same : j = i
    · rw [same, at_i, timer, running]
      intro mine runs
      rcases kept with cticks | quiet
      · rw [cticks]
        exact least i mine runs
      · exact absurd (quiet.1.symm.trans runs) Bool.false_ne_true
    · rw [at_j j same]
      exact least j

end

namespace TimerState

def Due (s : TimerState) (t : Nat) : Prop := (s.timers t).started = true → Fits s.paces (s.timers t) t

def Regular (s : TimerState) (t : Nat) : TimerOp → Prop
  | .start i ticks => (s.cores i).Master t ∧ ticks < 2 ^ 32
  | .stop i | .pause i | .continue_ i => (s.cores i).Master t
  | .interrupt u ticksLeft => u = t ∧ ticksLeft = (s.timers t).sticks
  | .flags _ _ _ _ | .callback _ => True
  | _ => False

def InTime (s : TimerState) (t : Nat) : TimerOp → Prop
  | .start i ticks => 1 ≤ ticks → s.active.place i ≠ .deleted ∧
    if (s.timers t).running = 0 then ticks ≤ (s.timers t).hw.ticks
    else (s.insts i).running = true → (s.timers t).sticks ≤ ticks
  | .continue_ i => s.active.place i ≠ .deleted ∧ ((s.timers t).running = 0 →
    1 ≤ (s.timers t).sticks ∧ (s.timers t).sticks ≤ (s.timers t).hw.ticks ∧
      (s.timers t).sticks ≤ max 1 (s.insts i).cticks)
  | .stop i | .pause i => s.active.place i ≠ .deleted
  | .interrupt _ n => ∀ i ∈ s.active.items (.timer t),
    if (s.timers t).resched = true then (s.paces i).goesOn n = true ∨ (s.paces i).start = true → 1 ≤ (s.paces i).left n
    else (s.paces i).goesOn n = true → n ≤ (s.paces i).left n
  | _ => True

instance (s : TimerState) (t : Nat) : (op : TimerOp) → Decidable (s.Regular t op)
  | .start _ _ => inferInstanceAs (Decidable (Core.Master _ _ ∧ _))
  | .stop _ => inferInstanceAs (Decidable (Core.Master _ _))
  | .pause _ => inferInstanceAs (Decidable (Core.Master _ _))
  | .continue_ _ => inferInstanceAs (Decidable (Core.Master _ _))
  | .interrupt _ _ => inferInstanceAs (Decidable (_ ∧ _))
  | .flags _ _ _ _ => .isTrue trivial
  | .callback _ => .isTrue trivial
  | .openSlave _ _ _ => .isFalse id
  | .openMaster _ _ _ _ => .isFalse id
  | .close _ => .isFalse id

instance (s : TimerState) (t : Nat) : (op : TimerOp) → Decidable (s.InTime t op)
  | .start i ticks => inferInstanceAs (Decidable (1 ≤ ticks → s.active.place i ≠ .deleted ∧
      if (s.timers t).running = 0 then ticks ≤ (s.timers t).hw.ticks
      else (s.insts i).running = true → (s.timers t).sticks ≤ ticks))
  | .stop _ => inferInstanceAs (Decidable (_ ≠ _))
  | .pause _ => inferInstanceAs (Decidable (_ ≠ _))
  | .continue_ _ => inferInstanceAs (Decidable (_ ≠ _ ∧ (_ → _ ∧ _ ∧ _)))
  | .interrupt _ n => inferInstanceAs (Decidable (∀ i ∈ s.active.items (.timer t),
      if (s.timers t).resched = true then (s.paces i).goesOn n = true ∨ (s.paces i).start = true → 1 ≤ (s.paces i).left n
      else (s.paces i).goesOn n = true → n ≤ (s.paces i).left n))
  | .flags _ _ _ _ => .isTrue trivial
  | .callback _ => .isTrue trivial
  | .openSlave _ _ _ => .isTrue trivial
  | .openMaster _ _ _ _ => .isTrue trivial
  | .close _ => .isTrue trivial

structure Ready (s : TimerState) (t : Nat) : Prop where
  plain : (s.timers t).hw.slave = false
  hwTicks : 1 ≤ (s.timers t).hw.ticks
  timer : s.timers t = ⟨(s.timers t).hw, 0, 0, false, false, false⟩
  empty : s.active.items (.timer t) = []
  still : ∀ i, (s.cores i).Master t → (s.insts i).running = false ∧ (s.insts i).start = false
  small : ∀ i, (s.insts i).cticks < 2 ^ 32 ∧ (s.insts i).ticks < 2 ^ 32

def Scheduled (s : TimerState) (t : Nat) : Prop := Paced s.paces (s.timers t) s.active t

variable {s s' : TimerState} {i t : Nat}

theorem countP_or_le (l : List Nat) (f g : Nat → Bool) : (l.countP fun i => f i || g i) ≤ l.countP f + l.countP g := by
  induction l with
  | nil => exact Nat.zero_le _
  | cons i rest ih =>
    rw [List.countP_cons, List.countP_cons, List.countP_cons]
    cases f i with
    | true => simp; omega
    | false => cases g i with
      | true => simp; omega
      | false => simp; omega

structure Woken (s b : TimerState) (t m : Nat) : Prop where
  tracked : Tracked b.paces (b.timers t).running s.active t
  quiet : ∀ i, s.active.place i = .on (.timer t) → (b.paces i).start = false
  none : m = ULONG_MAX → (∀ i, (b.paces i).timer = some t → (b.paces i).running = false) ∧
    (b.timers t).running = (s.timers t).running
  some : m ≠ ULONG_MAX → 1 ≤ m ∧ 0 < (b.timers t).running ∧
    (∀ i, (b.paces i).timer = some t → (b.paces i).running = true → m ≤ (b.paces i).cticks) ∧
    ∃ i, s.active.place i = .on (.timer t) ∧ ((s.paces i).running = true ∨ (s.paces i).start = true)

theorem Begun.woken {b : TimerState} {m : Nat} (begun : s.Begun b t ULONG_MAX m (s.active.items (.timer t)))
    (tracked : Tracked s.paces (s.timers t).running s.active t)
    (pos : ∀ i, s.active.place i = .on (.timer t) → (s.paces i).running = true ∨ (s.paces i).start = true →
      1 ≤ (s.paces i).cticks) : s.Woken b t m := by
  have on (i : Nat) (inside : s.active.place i = .on (.timer t)) : b.paces i = (s.paces i).begun := by
    rw [begun.paces, if_pos ((s.active.linked _ _).mpr inside)]
  have off (i : Nat) (outside : s.active.place i ≠ .on (.timer t)) : b.paces i = s.paces i := by
    rw [begun.paces, if_neg fun inside => outside ((s.active.linked _ _).mp inside)]
  have running : (b.timers t).running =
      (s.timers t).running + ((s.active.items (.timer t)).countP fun i => (s.paces i).start : Nat) :=
    congrArg SndTimer.running begun.timer
  have linked (i : Nat) (mine : (b.paces i).timer = some t) (runs : (b.paces i).running = true) :
      s.active.place i = .on (.timer t) := by
    by_cases inside : s.active.place i = .on (.timer t)
    · exact inside
    · rw [off i inside] at mine runs
      exact tracked.linked i mine runs
  have tracked' : Tracked b.paces (b.timers t).running s.active t := by
    refine ⟨linked, ?_, ?_, ?_⟩
    · have count : ((s.active.items (.timer t)).countP fun i => (b.paces i).running) =
          (s.active.items (.timer t)).countP fun i => (s.paces i).running || (s.paces i).start := by
        apply List.countP_congr
        intro i inside
        rw [on i ((s.active.linked _ _).mp inside), Pace.begun_running]
      have most := countP_or_le (s.active.items (.timer t)) (fun i => (s.paces i).running) fun i => (s.paces i).start
      have before := tracked.count
      rw [running, count]
      omega
    · intro i mine starts
      by_cases inside : s.active.place i = .on (.timer t)
      · exact .inl inside
      · rw [off i inside] at mine starts
        exact tracked.waits i mine starts
    · intro i
      by_cases inside : s.active.place i = .on (.timer t)
      · rw [on i inside, Pace.begun_cticks, Pace.begun_ticks]
        exact tracked.small i
      · rw [off i inside]
        exact tracked.small i
  have least (i : Nat) (inside : s.active.place i = .on (.timer t)) (runs : (b.paces i).running = true) :
      m ≤ (b.paces i).cticks := by
    rw [on i inside] at runs ⊢
    rw [Pace.begun_cticks]
    exact begun.least i ((s.active.linked _ _).mpr inside) runs
  have stops (full : m = ULONG_MAX) (i : Nat) (inside : s.active.place i = .on (.timer t)) : (b.paces i).running = false := by
    apply eq_false_of_ne_true
    intro runs
    have high := least i inside runs
    have low := (tracked'.small i).1
    rw [full, ULONG_MAX] at high
    omega
  refine ⟨tracked', ?_, ?_, ?_⟩
  · intro i inside
    rw [on i inside, Pace.begun_start]
  · intro full
    refine ⟨?_, ?_⟩
    · intro i mine
      apply eq_false_of_ne_true
      intro runs
      exact Bool.false_ne_true ((stops full i (linked i mine runs)).symm.trans runs)
    · have zero : ((s.active.items (.timer t)).countP fun i => (s.paces i).start) = 0 := by
        rw [List.countP_eq_zero]
        intro i inside starts
        have still := stops full i ((s.active.linked _ _).mp inside)
        rw [on i ((s.active.linked _ _).mp inside), Pace.begun_running, starts, Bool.or_true] at still
        exact Bool.false_ne_true still.symm
      rw [running, zero]
      exact Int.add_zero _
  · intro some
    obtain ⟨i, listed, runs, met⟩ := begun.met.resolve_left some
    have inside := (s.active.linked _ _).mp listed
    have either := runs
    rw [Pace.begun_running, Bool.or_eq_true] at either
    rw [← on i inside] at runs
    refine ⟨?_, ?_, fun j mine goes => least j (linked j mine goes) goes, i, inside, either⟩
    · rw [met]
      exact pos i inside either
    · have one : 0 < (s.active.items (.timer t)).countP fun i => (b.paces i).running :=
        List.countP_pos_iff.mpr ⟨i, listed, runs⟩
      have count := tracked'.count
      omega

/-- What `snd_timer_reschedule` leaves: nothing runs, or the hardware has ticks that fit. -/
structure Rescheduled (s d : TimerState) (t ticksLeft : Nat) : Prop where
  tracked : Tracked d.paces (d.timers t).running d.active t
  active : d.active = s.active
  quiet : ∀ i, d.active.place i = .on (.timer t) → (d.paces i).start = false
  hw : (d.timers t).hw = (s.timers t).hw
  started : (d.timers t).started = (s.timers t).started
  outcome : (∀ i, (d.paces i).timer = some t → (d.paces i).running = false) ∧
      (d.timers t).running = (s.timers t).running ∧ (d.timers t).sticks = (s.timers t).sticks ∧
      (d.timers t).change = (s.timers t).change ∨
    Fits d.paces (d.timers t) t ∧ 0 < (d.timers t).running ∧
      (d.timers t).change = ((s.timers t).change || decide (ticksLeft ≠ (d.timers t).sticks)) ∧
      ∃ i, s.active.place i = .on (.timer t) ∧ ((s.paces i).running = true ∨ (s.paces i).start = true)

theorem reschedule_rescheduled (ticksLeft : Nat) (tracked : Tracked s.paces (s.timers t).running s.active t)
    (hwTicks : 1 ≤ (s.timers t).hw.ticks)
    (pos : ∀ i, s.active.place i = .on (.timer t) → (s.paces i).running = true ∨ (s.paces i).start = true →
      1 ≤ (s.paces i).cticks) : s.Rescheduled (s.sndTimerReschedule t ticksLeft) t ticksLeft := by
  obtain ⟨m, b, begun, paces, timer⟩ := reschedule_begun (s := s) (t := t) ticksLeft
  have woken := begun.woken tracked pos
  have active := (reschedule_lists (s := s) (t := t) ticksLeft).active
  have kept := begun.timer
  by_cases full : m = ULONG_MAX
  · rw [if_pos full] at timer
    obtain ⟨none, running⟩ := woken.none full
    have tracked' : Tracked b.paces (b.timers t).running s.active t := woken.tracked
    refine ⟨?_, active, ?_, ?_, ?_, .inl ⟨?_, ?_, ?_, ?_⟩⟩
    · rw [paces, active, timer]
      exact tracked'
    · rw [paces, active]
      exact woken.quiet
    · rw [timer, kept]
    · rw [timer, kept]
    · rw [paces]
      exact none
    · rw [timer]
      exact running
    · rw [timer, kept]
    · rw [timer, kept]
  · rw [if_neg full] at timer
    obtain ⟨pos, runs, least, run⟩ := woken.some full
    have hw : (b.timers t).hw = (s.timers t).hw := by rw [kept]
    have change : (b.timers t).change = (s.timers t).change := by rw [kept]
    refine ⟨?_, active, ?_, ?_, ?_, .inr ⟨⟨?_, ?_, ?_⟩, ?_, ?_, run⟩⟩
    · rw [paces, active, timer]
      exact woken.tracked
    · rw [paces, active]
      exact woken.quiet
    · rw [timer]
      exact hw
    · rw [timer, kept]
    · rw [timer]
      refine Nat.le_min.mpr ⟨pos, ?_⟩
      rw [hw]
      exact hwTicks
    · rw [timer]
      exact Nat.min_le_right _ _
    · intro i mine goes
      rw [paces] at mine goes ⊢
      rw [timer]
      exact Nat.le_trans (Nat.min_le_left _ _) (least i mine goes)
    · rw [timer]
      exact runs
    · rw [timer, ← change]

theorem countP_goesOn_dies (p : Nat → Pace) (n : Nat) (l : List Nat) :
    (l.countP fun i => (p i).running) = (l.countP fun i => (p i).goesOn n) + l.countP fun i => (p i).dies n := by
  induction l with
  | nil => rfl
  | cons i rest ih =>
    rw [List.countP_cons, List.countP_cons, List.countP_cons, ih]
    by_cases goes : (p i).goesOn n = true
    · obtain ⟨runs, lives⟩ := Pace.lives_of_goesOn goes
      rw [if_pos runs, if_pos goes, lives, if_neg Bool.false_ne_true]
      omega
    · by_cases runs : (p i).running = true
      · have dies : (p i).dies n = true := by
          by_contra lives
          exact goes (Pace.goesOn_of_lives runs (eq_false_of_ne_true lives))
        rw [if_pos runs, if_neg goes, if_pos dies]
        omega
      · rw [if_neg runs, if_neg goes, Pace.dies_still (eq_false_of_ne_true runs), if_neg Bool.false_ne_true]
        omega

theorem Passed.tracked {b : TimerState} {n : Nat} (passed : s.Passed b t n (s.active.items (.timer t)))
    (tracked : Tracked s.paces (s.timers t).running s.active t) :
    Tracked b.paces (b.timers t).running b.active t ∧ (b.timers t).running ≤ (s.timers t).running := by
  have on (i : Nat) (inside : s.active.place i = .on (.timer t)) : b.paces i = (s.paces i).ticked n := by
    rw [passed.paces, if_pos ((s.active.linked _ _).mpr inside)]
  have off (i : Nat) (outside : s.active.place i ≠ .on (.timer t)) : b.paces i = s.paces i := by
    rw [passed.paces, if_neg fun inside => outside ((s.active.linked _ _).mp inside)]
  have before (i : Nat) (inside : b.active.place i = .on (.timer t)) : s.active.place i = .on (.timer t) := by
    rcases passed.gone i with same | gone
    · exact same.symm.trans inside
    · rw [gone] at inside
      cases inside
  have running : (b.timers t).running =
      (s.timers t).running - ((s.active.items (.timer t)).countP fun i => (s.paces i).dies n : Nat) :=
    congrArg SndTimer.running passed.timer
  refine ⟨⟨?_, ?_, ?_, ?_⟩, ?_⟩
  · intro i mine runs
    by_cases inside : s.active.place i = .on (.timer t)
    · rw [on i inside] at runs
      exact (passed.kept i fun _ => (Pace.lives_of_goesOn runs).2).trans inside
    · rw [off i inside] at mine runs
      exact absurd (tracked.linked i mine runs) inside
  · have count : ((b.active.items (.timer t)).countP fun i => (b.paces i).running) =
        (b.active.items (.timer t)).countP fun i => (s.paces i).goesOn n := by
      apply List.countP_congr
      intro i inside
      rw [on i (before i ((b.active.linked _ _).mp inside))]
      exact Iff.rfl
    have fewer : ((b.active.items (.timer t)).countP fun i => (s.paces i).goesOn n) ≤
        (s.active.items (.timer t)).countP fun i => (s.paces i).goesOn n := by
      apply List.Subperm.countP_le
      apply (b.active.nodup _).subperm
      intro i inside
      exact (s.active.linked _ _).mpr (before i ((b.active.linked _ _).mp inside))
    have split := countP_goesOn_dies s.paces n (s.active.items (.timer t))
    have most := tracked.count
    rw [running, count]
    omega
  · intro i mine starts
    have same : (b.paces i).timer = (s.paces i).timer ∧ (b.paces i).start = (s.paces i).start := by
      by_cases inside : s.active.place i = .on (.timer t)
      · rw [on i inside]
        exact ⟨rfl, rfl⟩
      · rw [off i inside]
        exact ⟨rfl, rfl⟩
    rcases passed.gone i with stays | gone
    · rw [stays]
      exact tracked.waits i (same.1.symm.trans mine) (same.2.symm.trans starts)
    · exact .inr gone
  · intro i
    by_cases inside : s.active.place i = .on (.timer t)
    · rw [on i inside]
      refine ⟨?_, (tracked.small i).2⟩
      show (s.paces i).left n < 2 ^ 32
      rw [Pace.left]
      have small := tracked.small i
      split
      · split
        · omega
        · split
          · exact small.2
          · decide
      · exact small.1
    · rw [off i inside]
      exact tracked.small i
  · omega

theorem scheduled_restart {b : TimerState} (tracked : Tracked b.paces (b.timers t).running b.active t)
    (plain : (b.timers t).hw.slave = false) (hwTicks : 1 ≤ (b.timers t).hw.ticks)
    (quiet : ∀ i, b.active.place i = .on (.timer t) → (b.paces i).start = false)
    (steady : (b.timers t).running = 0 → (b.timers t).change = false)
    (on : (b.timers t).running ≠ 0 → (b.timers t).started = true ∨ (b.timers t).change = true)
    (fits : (b.timers t).running ≠ 0 → Fits b.paces (b.timers t) t) : (b.restart t).Scheduled t := by
  obtain ⟨paces, active, timer⟩ := restart_view (s := b) (t := t)
  rw [Scheduled, paces, active, timer]
  have pending (i : Nat) (inside : b.active.place i = .on (.timer t)) (starts : (b.paces i).start = true) (h : Prop) : h :=
    absurd ((quiet i inside).symm.trans starts) Bool.false_ne_true
  by_cases none : (b.timers t).running = 0
  · rw [if_pos none]
    exact ⟨tracked, plain, hwTicks, steady none, fun some => absurd none some,
      fun i inside starts => pending i inside starts _, fun on => absurd on Bool.false_ne_true⟩
  · rw [if_neg none]
    split
    · exact ⟨tracked, plain, hwTicks, rfl, fun _ => rfl, fun i inside starts => pending i inside starts _, fun _ => fits none⟩
    · rename_i stays
      rw [not_or, not_or] at stays
      have same : (b.timers t).change = false := eq_false_of_ne_true stays.2.2
      have started := (on none).resolve_right stays.2.2
      exact ⟨tracked, plain, hwTicks, same, fun _ => started, fun i inside starts => pending i inside starts _,
        fun _ => fits none⟩

theorem Scheduled.interrupt (sched : s.Scheduled t) (inTime : s.InTime t (.interrupt t (s.timers t).sticks)) :
    (s.sndTimerInterrupt t (s.timers t).sticks).Scheduled t := by
  have passed := interruptFold_passed (n := (s.timers t).sticks) (s.active.nodup (.timer t)) fun i inside =>
    (s.active.linked _ _).mp inside
  obtain ⟨tracked, less⟩ := passed.tracked sched.toTracked
  rw [sndTimerInterrupt]
  generalize (s.active.items (.timer t)).foldl (interruptStep t (s.timers t).sticks) s = b at passed tracked less
  have on (i : Nat) (inside : s.active.place i = .on (.timer t)) : b.paces i = (s.paces i).ticked (s.timers t).sticks := by
    rw [passed.paces, if_pos ((s.active.linked _ _).mpr inside)]
  have before (i : Nat) (inside : b.active.place i = .on (.timer t)) : s.active.place i = .on (.timer t) := by
    rcases passed.gone i with same | gone
    · exact same.symm.trans inside
    · rw [gone] at inside
      cases inside
  have starts (i : Nat) (inside : b.active.place i = .on (.timer t)) : (b.paces i).start = (s.paces i).start := by
    rw [on i (before i inside)]
    rfl
  have resched : (b.timers t).resched = (s.timers t).resched := by rw [passed.timer]
  have hw : (b.timers t).hw = (s.timers t).hw := by rw [passed.timer]
  have steady : (b.timers t).change = false := by rw [passed.timer]; exact sched.steady
  have sticks : (b.timers t).sticks = (s.timers t).sticks := by rw [passed.timer]
  have started (some : (b.timers t).running ≠ 0) : (s.timers t).started = true := by
    apply sched.on
    have nonneg := tracked.nonneg
    omega
  have still_on : (b.timers t).started = (s.timers t).started := by rw [passed.timer]
  have plain : (b.timers t).hw.slave = false := by rw [hw]; exact sched.plain
  have hwTicks : 1 ≤ (b.timers t).hw.ticks := by rw [hw]; exact sched.hwTicks
  split
  · rename_i flag
    have pos (i : Nat) (inside : b.active.place i = .on (.timer t))
        (either : (b.paces i).running = true ∨ (b.paces i).start = true) : 1 ≤ (b.paces i).cticks := by
      have listed := before i inside
      have fine := inTime i ((s.active.linked _ _).mpr listed)
      rw [if_pos (resched.symm.trans flag)] at fine
      rw [on i listed] at either ⊢
      exact fine either
    have again := reschedule_rescheduled (b.timers t).sticks tracked hwTicks pos
    apply scheduled_restart again.tracked (again.hw ▸ plain) (again.hw ▸ hwTicks) again.quiet
    · intro none
      rcases again.outcome with ⟨-, -, -, change⟩ | ⟨-, runs, -⟩
      · exact change.trans steady
      · omega
    · intro some
      left
      rw [again.started, still_on]
      rcases again.outcome with ⟨-, running, -⟩ | ⟨-, -, -, i, inside, either⟩
      · exact started (running ▸ some)
      · have listed := before i inside
        rw [on i listed] at either
        rcases either with goes | waits
        · apply sched.on
          intro none
          have tracked := sched.toTracked
          rw [none] at tracked
          exact Bool.false_ne_true ((tracked.still listed).symm.trans (Pace.lives_of_goesOn goes).1)
        · exact sched.on (sched.pending i listed waits).2.2
    · intro some
      rcases again.outcome with ⟨idle, running, same, -⟩ | ⟨fits, -⟩
      · obtain ⟨low, high, -⟩ := sched.due (started (running ▸ some))
        rw [← sticks, ← hw] at high
        rw [← sticks] at low
        rw [Fits, same, again.hw]
        refine ⟨low, high, ?_⟩
        intro i mine runs
        exact absurd ((idle i mine).symm.trans runs) Bool.false_ne_true
      · exact fits
  · rename_i none
    apply scheduled_restart tracked plain hwTicks
    · intro i inside
      apply eq_false_of_ne_true
      intro waits
      rw [starts i inside] at waits
      exact none (resched.trans (sched.pending i (before i inside) waits).2.1)
    · exact fun _ => steady
    · exact fun some => .inl (still_on.trans (started some))
    · intro some
      obtain ⟨low, high, -⟩ := sched.due (started some)
      rw [Fits, sticks, hw]
      refine ⟨low, high, ?_⟩
      intro i mine runs
      have inside := tracked.linked i mine runs
      have listed := before i inside
      rw [on i listed] at runs ⊢
      have fine := inTime i ((s.active.linked _ _).mpr listed)
      rw [if_neg fun flag => none (resched.trans flag)] at fine
      exact fine runs

theorem scheduled_stopIdle {b : TimerState} (tracked : Tracked b.paces 0 b.active t) (none : (b.timers t).running = 0)
    (plain : (b.timers t).hw.slave = false) (hwTicks : 1 ≤ (b.timers t).hw.ticks) (steady : (b.timers t).change = false)
    (pending : ∀ i, b.active.place i = .on (.timer t) → (b.paces i).start = true →
      1 ≤ (b.paces i).cticks ∧ (b.timers t).resched = true) : (b.stopIdle t).Scheduled t := by
  have stopped : (b.hwStop t).timers t = { b.timers t with started := false } := timers_modTimer t _
  have flag : ((b.hwStop t).timers t).resched = (b.timers t).resched := by rw [stopped]
  rw [stopIdle]
  dsimp only
  rw [flag]
  split
  · rename_i resched
    have before : ((b.hwStop t).modTimer t fun tm => { tm with resched := false }).timers t =
        { b.timers t with started := false, resched := false } := by
      rw [hwStop, modTimer_twice, timers_modTimer]
      rfl
    have again : ((b.hwStop t).modTimer t fun tm => { tm with resched := false }).Rescheduled
        (((b.hwStop t).modTimer t fun tm => { tm with resched := false }).sndTimerReschedule t 0) t 0 := by
      apply reschedule_rescheduled
      · rw [before]
        show Tracked b.paces (b.timers t).running b.active t
        rw [none]
        exact tracked
      · rw [before]
        exact hwTicks
      · rintro i inside (runs | starts)
        · exact absurd ((tracked.still inside).symm.trans runs) Bool.false_ne_true
        · exact (pending i inside starts).1
    generalize ((b.hwStop t).modTimer t fun tm => { tm with resched := false }).sndTimerReschedule t 0 = d at again
    have hw := again.hw
    have started := again.started
    have outcome := again.outcome
    rw [before] at hw started outcome
    have waits (i : Nat) (inside : d.active.place i = .on (.timer t)) (starts : (d.paces i).start = true) (h : Prop) : h :=
      absurd ((again.quiet i inside).symm.trans starts) Bool.false_ne_true
    rcases outcome with ⟨-, running, -, change⟩ | ⟨fits, runs, change, -⟩
    · rw [if_neg (Bool.eq_false_iff.mp (change.trans steady))]
      exact ⟨again.tracked, by rw [hw]; exact plain, by rw [hw]; exact hwTicks, change.trans steady,
        fun some => absurd (running.trans none) some, fun i inside starts => waits i inside starts _,
        fun on => absurd (started.symm.trans on) Bool.false_ne_true⟩
    · have sticks : 0 ≠ (d.timers t).sticks := Nat.ne_of_lt fits.1
      have changed : (d.timers t).change = true := by
        rw [change, decide_eq_true sticks, Bool.or_true]
      have timer : ((d.modTimer t fun tm => { tm with change := false }).hwStart t).timers t =
          { d.timers t with change := false, started := true } := by
        rw [hwStart, modTimer_twice, timers_modTimer]
        rfl
      rw [if_pos changed, Scheduled, timer]
      exact ⟨again.tracked, by rw [hw]; exact plain, by rw [hw]; exact hwTicks, rfl, fun _ => rfl,
        fun i inside starts => waits i inside starts _, fun _ => fits⟩
  · rename_i no
    rw [Scheduled, stopped]
    refine ⟨?_, plain, hwTicks, steady, fun some => absurd none some, ?_, fun on => absurd on Bool.false_ne_true⟩
    · show Tracked b.paces (b.timers t).running b.active t
      rw [none]
      exact tracked
    · intro i inside starts
      exact absurd (pending i inside starts).2 no

theorem Scheduled.stop1 (sched : s.Scheduled t) (mine : (s.cores i).Master t) (sound : s.active.place i ≠ .deleted) :
    (s.sndTimerStop1 i false).2.Scheduled t := by
  rw [stop1_master mine sound]
  obtain ⟨paces, place, timer⟩ := halted_view (t := t) sound
  have master := pace_master.mpr mine
  have others (j : Nat) (other : j ≠ i) : (s.halted t i).active.place j = s.active.place j := by
    rw [place, Function.update_of_ne other]
  have gone : (s.halted t i).active.place i ≠ .on (.timer t) := by
    rw [place, Function.update_self]
    exact fun same => by cases same
  have tracked : Tracked (s.halted t i).paces ((s.halted t i).timers t).running (s.halted t i).active t := by
    rw [paces]
    apply sched.toTracked.change (x := { s.paces i with running := false, start := false }) others
      (fun runs => absurd runs Bool.false_ne_true) _ (sched.linked i master)
      (fun starts => absurd starts Bool.false_ne_true) (sched.small i)
    rw [timer]
    show _ = _ - _ + if false = true then 1 else 0
    rw [if_neg Bool.false_ne_true]
    exact (Int.add_zero _).symm
  have pending (j : Nat) (inside : (s.halted t i).active.place j = .on (.timer t))
      (starts : ((s.halted t i).paces j).start = true) :
      1 ≤ ((s.halted t i).paces j).cticks ∧ (s.timers t).resched = true ∧ (s.timers t).running ≠ 0 := by
    have other : j ≠ i := fun same => gone (same ▸ inside)
    rw [others j other] at inside
    rw [paces, Function.update_of_ne other] at starts ⊢
    exact sched.pending j inside starts
  have plain : ((s.halted t i).timers t).hw.slave = false := by rw [timer]; exact sched.plain
  have hwTicks : 1 ≤ ((s.halted t i).timers t).hw.ticks := by rw [timer]; exact sched.hwTicks
  have steady : ((s.halted t i).timers t).change = false := by rw [timer]; exact sched.steady
  have resched : ((s.halted t i).timers t).resched = (s.timers t).resched := by rw [timer]
  have running : ((s.halted t i).timers t).running =
      (s.timers t).running - if (s.insts i).running = true then 1 else 0 := congrArg SndTimer.running timer
  split
  · rename_i last
    rw [if_pos last.1, last.2] at running
    rw [running] at tracked
    apply scheduled_stopIdle tracked running plain hwTicks steady
    intro j inside starts
    rw [resched]
    exact ⟨(pending j inside starts).1, (pending j inside starts).2.1⟩
  · rename_i more
    refine ⟨tracked, plain, hwTicks, steady, ?_, ?_, ?_⟩
    · intro some
      have on : ((s.halted t i).timers t).started = (s.timers t).started := by rw [timer]
      rw [on]
      apply sched.on
      intro none
      have idle := sched.toTracked
      rw [none] at idle
      have still : (s.insts i).running = false := idle.idle master
      rw [none, still, if_neg Bool.false_ne_true, Int.sub_zero] at running
      exact some running
    · intro j inside starts
      obtain ⟨pos, flag, busy⟩ := pending j inside starts
      refine ⟨pos, resched.trans flag, ?_⟩
      rw [running]
      split
      · rename_i runs
        exact fun none => more ⟨runs, none⟩
      · rw [Int.sub_zero]
        exact busy
    · intro on
      rw [timer] at on
      obtain ⟨low, high, least⟩ := sched.due on
      rw [Fits, timer, paces]
      refine ⟨low, high, ?_⟩
      intro j
      by_cases same : j = i
      · rw [same, Function.update_self]
        exact fun _ runs => absurd runs Bool.false_ne_true
      · rw [Function.update_of_ne same]
        exact least j

theorem Scheduled.frame (sched : s.Scheduled t) (paces : s'.paces = s.paces) (timer : s'.timers t = s.timers t)
    (active : s'.active = s.active) : s'.Scheduled t := by
  rw [Scheduled, paces, timer, active]
  exact sched

theorem stop1_quiet (mine : (s.cores i).Master t) (sound : s.active.place i ≠ .deleted) :
    (((s.sndTimerStop1 i false).2.paces i).running = false) ∧ ((s.sndTimerStop1 i false).2.paces i).start = false := by
  have halted : ((s.halted t i).insts i).running = false ∧ ((s.halted t i).insts i).start = false := by
    rw [TimerState.halted, insts_modInst]
    exact ⟨rfl, rfl⟩
  rw [stop1_master mine sound]
  split
  · have gone : i ∉ (s.halted t i).active.items (.timer t) := by
      rw [Lists.linked, (halted_view sound).2.1, Function.update_self]
      exact fun same => by cases same
    have same : ((s.halted t i).stopIdle t).insts i = (s.halted t i).insts i := stopIdle_other gone
    show (((s.halted t i).stopIdle t).insts i).running = false ∧ (((s.halted t i).stopIdle t).insts i).start = false
    rw [same]
    exact halted
  · exact halted

theorem Scheduled.stop (sched : s.Scheduled t) (mine : (s.cores i).Master t) (sound : s.active.place i ≠ .deleted) :
    (s.sndTimerStop i).2.Scheduled t := by
  have stopped := sched.stop1 mine sound
  have quiet := stop1_quiet mine sound
  rw [sndTimerStop]
  split
  · exact stopped
  · split
    · exact stopped
    · rw [Scheduled, paces_modInst]
      exact stopped.tune rfl rfl rfl ⟨(stopped.small i).2, (stopped.small i).2⟩ (.inr quiet)

theorem Scheduled.start1 {f : SndTimerInstance → SndTimerInstance} {sticks : Nat} (sched : s.Scheduled t)
    (master : (s.cores i).Master t) (sound : s.active.place i ≠ .deleted)
    (running : (f (s.insts i)).pace.running = (s.paces i).running) (start : (f (s.insts i)).pace.start = (s.paces i).start)
    (small : (f (s.insts i)).pace.cticks < 2 ^ 32 ∧ (f (s.insts i)).pace.ticks < 2 ^ 32)
    (pos : 1 ≤ (f (s.insts i)).pace.cticks)
    (now : (s.timers t).running = 0 → 1 ≤ sticks ∧ sticks ≤ (s.timers t).hw.ticks ∧ sticks ≤ (f (s.insts i)).pace.cticks)
    (later : (s.timers t).running ≠ 0 → (s.paces i).running = true → (s.timers t).sticks ≤ (f (s.insts i)).pace.cticks) :
    ((s.modInst i f).sndTimerStart1 t i sticks).2.Scheduled t := by
  have mine := pace_master.mpr master
  obtain ⟨active, view⟩ := start1_view (s := s.modInst i f) i t sticks sched.plain
  have moved : ((s.modInst i f).active.moveTail i (.timer t)).place = Function.update s.active.place i (.on (.timer t)) :=
    Lists.place_moveTail sound
  have place := (congrArg Lists.place active).trans moved
  have same : (s.modInst i f).timers = s.timers := rfl
  rw [same] at view
  by_cases busy : (s.timers t).running ≠ 0
  · rw [if_pos busy, paces_modInst, Function.update_self, Function.update_idem] at view
    rw [Scheduled, view.1, view.2]
    exact sched.delayed mine busy place running pos small fun runs => later busy (running.symm.trans runs)
  · rw [if_neg busy, paces_modInst, Function.update_self, Function.update_idem] at view
    obtain ⟨low, high, least⟩ := now (not_not.mp busy)
    rw [Scheduled, view.1, view.2]
    exact sched.immediate mine (not_not.mp busy) sound place start small low high least

theorem Scheduled.start (sched : s.Scheduled t) {ticks : Nat} (regular : s.Regular t (.start i ticks))
    (inTime : s.InTime t (.start i ticks)) : (s.sndTimerStart i ticks).2.Scheduled t := by
  obtain ⟨mine, small⟩ := regular
  have slave : ¬ (s.insts i).slave = true := fun slave => Bool.false_ne_true (mine.2.1.symm.trans slave)
  have timer : (s.insts i).timer = some t := mine.2.2
  rw [sndTimerStart, if_neg slave, timer]
  split
  · exact sched
  · rename_i pos
    obtain ⟨sound, fits⟩ := inTime (Nat.le_of_not_lt pos)
    dsimp only
    apply sched.start1 (f := fun ti => { ti with ticks := ticks, cticks := ticks, pticks := 0 }) mine sound rfl rfl
      ⟨small, small⟩ (Nat.le_of_not_lt pos)
    · intro none
      rw [if_pos none] at fits
      exact ⟨Nat.le_of_not_lt pos, fits, Nat.le_refl ticks⟩
    · intro busy
      rw [if_neg busy] at fits
      exact fits

theorem Scheduled.continue_ (sched : s.Scheduled t) (mine : (s.cores i).Master t) (inTime : s.InTime t (.continue_ i)) :
    (s.sndTimerContinue i).2.Scheduled t := by
  obtain ⟨sound, fits⟩ := inTime
  have slave : ¬ (s.insts i).slave = true := fun slave => Bool.false_ne_true (mine.2.1.symm.trans slave)
  have timer : (s.insts i).timer = some t := mine.2.2
  have small : (s.insts i).cticks < 2 ^ 32 ∧ (s.insts i).ticks < 2 ^ 32 := sched.small i
  have least : (if (s.insts i).cticks = 0 then 1 else (s.insts i).cticks) = max 1 (s.insts i).cticks := by
    split
    · omega
    · omega
  rw [sndTimerContinue, if_neg slave, timer]
  dsimp only
  apply sched.start1 mine sound rfl rfl
  · show (if (s.insts i).cticks = 0 then 1 else (s.insts i).cticks) < 2 ^ 32 ∧ _
    rw [least]
    exact ⟨by omega, small.2⟩
  · show 1 ≤ if (s.insts i).cticks = 0 then 1 else (s.insts i).cticks
    rw [least]
    exact Nat.le_max_left _ _
  · intro none
    show _ ∧ _ ∧ (s.timers t).sticks ≤ if (s.insts i).cticks = 0 then 1 else (s.insts i).cticks
    rw [least]
    exact fits none
  · intro busy runs
    show (s.timers t).sticks ≤ if (s.insts i).cticks = 0 then 1 else (s.insts i).cticks
    rw [least]
    exact Nat.le_trans ((sched.due (sched.on busy)).2.2 i (pace_master.mpr mine) runs) (Nat.le_max_right _ _)

theorem Scheduled.exec (sched : s.Scheduled t) {op : TimerOp} (regular : s.Regular t op) (inTime : s.InTime t op) :
    (s.exec op).Scheduled t := by
  have given {i : Nat} (called : (s.call op).Scheduled t) : (if (s.insts i).live then s.call op else s).Scheduled t := by
    split
    · exact called
    · exact sched
  cases op with
  | openSlave sclass device memory => exact absurd regular id
  | openMaster u sclass slaveId memory => exact absurd regular id
  | close i => exact absurd regular id
  | flags i auto fast exclusive =>
    apply given
    have paces := paces_modInst (s := s) i fun ti => { ti with auto := auto, fast := fast, exclusive := exclusive }
    show (s.modInst i fun ti => { ti with auto := auto, fast := fast, exclusive := exclusive }).Scheduled t
    rw [Scheduled, paces]
    exact sched.tune rfl rfl rfl (sched.small i) (.inl rfl)
  | start i ticks => exact given (sched.start regular inTime)
  | stop i => exact given (sched.stop regular inTime)
  | continue_ i => exact given (sched.continue_ regular inTime)
  | pause i => exact given (sched.stop1 regular inTime)
  | interrupt u n =>
    obtain ⟨rfl, rfl⟩ := regular
    exact sched.interrupt inTime
  | callback head =>
    show (s.callback head).Scheduled t
    rw [callback]
    split
    · exact sched
    · rename_i i rest _
      have paces := paces_modInst_same (s := s) (i := i) (f := fun ti => { ti with pticks := 0 }) rfl
      exact sched.frame paces rfl rfl

theorem Ready.scheduled (ready : s.Ready t) : s.Scheduled t := by
  have empty (i : Nat) : s.active.place i ≠ .on (.timer t) := by
    rw [Ne, ← s.active.linked, ready.empty]
    exact List.not_mem_nil
  have off : (s.timers t).started = false := by rw [ready.timer]
  have none : (s.timers t).running = 0 := by rw [ready.timer]
  refine ⟨⟨?_, ?_, ?_, ready.small⟩, ready.plain, ready.hwTicks, ?_, ?_, ?_, ?_⟩
  · intro i mine runs
    exact absurd (((ready.still i (pace_master.mp mine)).1).symm.trans runs) Bool.false_ne_true
  · rw [ready.empty, none]
    exact Int.le_refl 0
  · intro i mine starts
    exact absurd (((ready.still i (pace_master.mp mine)).2).symm.trans starts) Bool.false_ne_true
  · rw [ready.timer]
  · exact fun some => absurd none some
  · exact fun i inside => absurd inside (empty i)
  · exact fun on => absurd (off.symm.trans on) Bool.false_ne_true

/-- Calls that keep the hardware in time never let a running instance wait for more than its ticks. -/
theorem timer_sticks (t : Nat) (s : TimerState) (ready : s.Ready t) (ops : List TimerOp)
    (calls : Throughout exec (fun s op _ => s.Regular t op ∧ s.InTime t op) s ops) :
    Throughout exec (fun _ _ s' => s'.Due t) s ops := by
  apply calls.steps (fun s => s.Scheduled t) ready.scheduled
  rintro s op sched ⟨regular, inTime⟩
  have next := sched.exec regular inTime
  exact ⟨next.due, next⟩

theorem ticks_small : 0 < 2 ^ 32 := by decide

theorem ready_init (timerList : List Nat) (hw : Nat → SndTimerHardware) (plain : (hw t).slave = false)
    (hwTicks : 1 ≤ (hw t).ticks) : (init timerList hw).Ready t :=
  ⟨plain, hwTicks, rfl, rfl, fun _ _ => ⟨rfl, rfl⟩, fun _ => ⟨ticks_small, ticks_small⟩⟩

theorem Ready.openMaster (ready : s.Ready t) (alone : s.opened.items .slaves = []) (u : Nat) (sclass : Int)
    (slaveId : Nat) (memory : Bool) : (s.exec (.openMaster u sclass slaveId memory)).Ready t ∧
      (s.exec (.openMaster u sclass slaveId memory)).opened.items .slaves = [] := by
  show (s.sndTimerOpenMaster u sclass slaveId memory).2.Ready t ∧
    (s.sndTimerOpenMaster u sclass slaveId memory).2.opened.items .slaves = []
  rw [sndTimerOpenMaster]
  split
  · exact ⟨ready, alone⟩
  · split
    · exact ⟨ready, alone⟩
    · split
      · exact ⟨ready, alone⟩
      · have slaves : (s.opened.addTail s.nextInst (.timer u)).items .slaves = [] := by
          have apart : OpenHead.slaves ≠ .timer u := fun same => by cases same
          rw [Lists.addTail]
          split
          · show Function.update s.opened.items (.timer u) (s.opened.items (.timer u) ++ [s.nextInst]) .slaves = []
            rw [Function.update_of_ne apart]
            exact alone
          · exact alone
        have same : (s.addInst (newInst false (some u) sclass slaveId) (.timer u)).sndTimerCheckMaster s.nextInst =
            s.addInst (newInst false (some u) sclass slaveId) (.timer u) := by
          rw [sndTimerCheckMaster]
          show List.foldl _ _ ((s.opened.addTail s.nextInst (.timer u)).items .slaves) = _
          rw [slaves]
          rfl
        dsimp only
        rw [same]
        refine ⟨⟨ready.plain, ready.hwTicks, ready.timer, ready.empty, ?_, ?_⟩, slaves⟩
        · intro i mine
          show (Function.update s.insts s.nextInst _ i).running = false ∧ (Function.update s.insts s.nextInst _ i).start = false
          by_cases new : i = s.nextInst
          · rw [new, Function.update_self]
            exact ⟨rfl, rfl⟩
          · have old : (s.addInst (newInst false (some u) sclass slaveId) (.timer u)).insts i = s.insts i :=
              Function.update_of_ne new _ _
            rw [Function.update_of_ne new]
            apply ready.still i
            rwa [cores, old] at mine
        · intro i
          show (Function.update s.insts s.nextInst _ i).cticks < _ ∧ (Function.update s.insts s.nextInst _ i).ticks < _
          rw [Function.update_apply]
          split
          · exact ⟨ticks_small, ticks_small⟩
          · exact ready.small i

def three : TimerState := [.openMaster 0 1 1 true, .openMaster 0 1 2 true, .openMaster 0 1 3 true].foldl exec
  (init [0] fun _ => ⟨true, false, false, false, 100⟩)

theorem three_ready : three.Ready 0 := by
  have none := ready_init (t := 0) [0] (fun _ => ⟨true, false, false, false, 100⟩) rfl (by decide)
  obtain ⟨one, alone⟩ := none.openMaster rfl 0 1 1 true
  obtain ⟨two, alone⟩ := one.openMaster alone 0 1 2 true
  exact (two.openMaster alone 0 1 3 true).1

theorem timer_sticks_delayed : Throughout exec (fun _ _ s' => s'.Due 0) three
    [.flags 1 true false false, .start 0 2, .start 1 3, .interrupt 0 2, .interrupt 0 3, .pause 1, .continue_ 1] :=
  timer_sticks 0 three three_ready _ (by decide)

/-- A stop starts two that wait, and no interrupt looks at both of them again. -/
theorem stopped_forgets : ¬ ∀ (t : Nat) (s : TimerState), s.Ready t → ∀ ops : List TimerOp,
    Throughout exec (fun s op _ => s.Regular t op) s ops → Throughout exec (fun _ _ s' => s'.Due t) s ops := by
  intro all
  obtain ⟨-, -, -, -, -, due, -⟩ := all 0 three three_ready
    [.flags 1 true false false, .start 0 2, .start 1 3, .start 2 5, .stop 0, .interrupt 0 3] (by decide)
  have late := (due (by decide)).2.2 2 (by decide) (by decide)
  exact absurd late (by decide)

end TimerState

end AlsaDriver.Timer
