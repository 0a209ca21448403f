import Mathlib.Data.Set.Card
import AlsaDriver.Lib.Runs
import AlsaDriver.Timer.Expiry

namespace AlsaDriver.Timer

open NodeLists Runs

namespace TimerState

/-- The timers count their running masters, the running and starting instances are on their lists once each
    and no other ones, no operation met a node that it corrupts, and no list has an instance that is closed. -/
structure Sound (s : TimerState) : Prop where
  count : ∀ t, (s.timers t).running = ({i | (s.cores i).Master t ∧ (s.insts i).running = true} : Set Nat).ncard
  masters : ∀ t i, i ∈ s.active.items (.timer t) ↔
    (s.cores i).Master t ∧ ((s.insts i).running = true ∨ (s.insts i).start = true)
  slaves : ∀ m j, j ∈ s.active.items (.master m) ↔ (s.cores j).Follows m
  once : ∀ h, (s.active.items h).Nodup
  unbroken : s.active.broken = false ∧ s.ack.broken = false ∧ s.opened.broken = false
  closed : ∀ i, (s.insts i).live = false →
    (∀ h, i ∉ s.active.items h) ∧ (∀ h, i ∉ s.ack.items h) ∧ ∀ h, i ∉ s.opened.items h

def Calm (s : TimerState) (t n : Nat) : Prop :=
  (∀ i ∈ s.active.items (.timer t), ¬ s.Both i) ∧
    ((∀ i ∈ s.active.items (.timer t), (s.insts i).running = false) ∨
      ∃ i ∈ s.active.items (.timer t), (s.insts i).running = true ∧ ((s.insts i).auto = true ∨ n < (s.insts i).cticks))

def Proper (s : TimerState) : TimerOp → Prop
  | .start i ticks => (s.insts i).live = true → 1 ≤ ticks → s.Linked i ∧ s.Single i
  | .continue_ i => (s.insts i).live = true → s.Linked i ∧ s.Single i
  | .stop i | .pause i => (s.insts i).live = true → s.Linked i
  | .close i => (s.insts i).live = true → s.Closable i
  | .interrupt t n => s.Calm t n
  | _ => True

instance (s : TimerState) (i : Nat) : Decidable (s.Led i) := inferInstanceAs (Decidable (_ ∧ _))

instance (s : TimerState) (i : Nat) : Decidable (s.Both i) := inferInstanceAs (Decidable (_ ∧ _))

instance (s : TimerState) (i : Nat) : Decidable (s.Linked i) :=
  inferInstanceAs (Decidable (if (s.insts i).slave = true then ¬ s.Led i else s.active.place i ≠ .deleted))

instance (s : TimerState) (i : Nat) : Decidable (s.Single i) := inferInstanceAs (Decidable (_ → _))

instance (s : TimerState) (i : Nat) : Decidable (s.Closable i) :=
  inferInstanceAs (Decidable (s.Linked i ∧
    if (s.insts i).slave = true then s.ack.place i = .alone else s.active.items (.master i) = []))

instance (s : TimerState) (t n : Nat) : Decidable (s.Calm t n) := inferInstanceAs (Decidable (_ ∧ _))

instance (s : TimerState) : (op : TimerOp) → Decidable (s.Proper op)
  | .start _ _ => inferInstanceAs (Decidable (_ → _ → _ ∧ _))
  | .continue_ _ => inferInstanceAs (Decidable (_ → _ ∧ _))
  | .stop _ => inferInstanceAs (Decidable (_ → _))
  | .pause _ => inferInstanceAs (Decidable (_ → _))
  | .close _ => inferInstanceAs (Decidable (_ → _))
  | .interrupt _ _ => inferInstanceAs (Decidable (Calm _ _ _))
  | .flags _ _ _ _ => .isTrue trivial
  | .openSlave _ _ _ => .isTrue trivial
  | .openMaster _ _ _ _ => .isTrue trivial
  | .callback _ => .isTrue trivial

variable {s : TimerState} {i t n : Nat}

theorem Inv.sound (inv : s.Inv) : s.Sound := by
  have masters (t i : Nat) : i ∈ s.active.items (.timer t) ↔
      (s.cores i).Master t ∧ ((s.insts i).running = true ∨ (s.insts i).start = true) :=
    (s.active.linked _ _).trans (inv.running.masters t i)
  have slaves (m j : Nat) : j ∈ s.active.items (.master m) ↔ (s.cores j).Follows m :=
    (s.active.linked _ _).trans (inv.running.slaves m j)
  refine ⟨?_, masters, slaves, s.active.nodup, ⟨inv.running.unbroken, inv.acked.unbroken, inv.opened.unbroken⟩, ?_⟩
  · intro t
    have same : ({i | (s.cores i).Master t ∧ (s.insts i).running = true} : Set Nat) =
        ((s.active.items (.timer t)).filter fun i => (s.cores i).running).toFinset := by
      ext i
      rw [Finset.mem_coe, List.mem_toFinset, List.mem_filter, masters]
      constructor
      · intro both
        exact ⟨⟨both.1, .inl both.2⟩, both.2⟩
      · intro both
        exact ⟨both.1.1, both.2⟩
    rw [same, Set.ncard_coe_finset, List.toFinset_card_of_nodup ((s.active.nodup _).filter _)]
    rw [← List.countP_eq_length_filter]
    exact inv.running.count t
  · intro i dead
    have closed (h : Prop) (live : h → (s.insts i).live = true) : ¬ h :=
      fun inside => Bool.false_ne_true (dead.symm.trans (live inside))
    refine ⟨fun h => closed _ ?_, fun h => closed _ ?_, fun h => closed _ ?_⟩
    · cases h with
      | timer t => exact fun inside => ((masters t i).mp inside).1.1
      | master m => exact fun inside => ((slaves m i).mp inside).1
    · exact fun inside => inv.acked.live i h ((s.ack.linked _ _).mp inside)
    · exact fun inside => (inv.opened.mem.mp inside).1

theorem interruptStep_survivor (here : s.active.place i = .on (.timer t)) (runs : (s.insts i).running = true)
    (lasts : (s.insts i).auto = true ∨ n < (s.insts i).cticks) :
    (interruptStep t n s i).active.place i = .on (.timer t) ∧ ((interruptStep t n s i).insts i).running = true := by
  rcases lasts with auto | late
  · obtain ⟨running, place⟩ := (interruptStep_ticked (n := n) here).survivor auto
    exact ⟨place.trans here, running.trans runs⟩
  · rw [interruptStep_late runs late]
    exact ⟨here, by rw [ticked, insts_modInst]; exact runs⟩

theorem interruptFold_inv {l : List Nat} (inv : s.Inv) (distinct : l.Nodup)
    (here : ∀ j ∈ l, s.active.place j = .on (.timer t)) (single : ∀ j, s.active.place j = .on (.timer t) → ¬ s.Both j)
    (survivor : (∀ j ∈ l, (s.insts j).running = false) ∨ ∃ k, s.active.place k = .on (.timer t) ∧
      (s.insts k).running = true ∧ (k ∈ l → (s.insts k).auto = true ∨ n < (s.insts k).cticks)) :
    (l.foldl (interruptStep t n) s).Inv ∧ ∀ j, (l.foldl (interruptStep t n) s).active.place j = .on (.timer t) →
      ¬ (l.foldl (interruptStep t n) s).Both j := by
  induction l generalizing s with
  | nil => exact ⟨inv, single⟩
  | cons i rest ih =>
    obtain ⟨outside, distinct⟩ := List.nodup_cons.mp distinct
    have first := here i List.mem_cons_self
    have apart (j : Nat) (inside : j ∈ rest) : j ≠ i := fun same => outside (same ▸ inside)
    have later (j : Nat) (inside : j ∈ rest) := here j (List.mem_cons_of_mem i inside)
    have after := interruptStep_ticked (n := n) first
    apply ih
    · apply inv.interruptStep first (single i first)
      intro runs expired
      rcases survivor with still | ⟨k, place, also, lasts⟩
      · exact absurd ((still i List.mem_cons_self).symm.trans runs) Bool.false_ne_true
      · by_cases same : k = i
        · rw [same] at lasts
          exact .inl ((lasts List.mem_cons_self).resolve_right (Nat.not_lt.mpr expired))
        · exact .inr ⟨k, same, place, also⟩
    · exact distinct
    · intro j inside
      rw [after.places j (apart j inside)]
      exact later j inside
    · intro j place both
      by_cases same : j = i
      · rw [same] at both
        exact single i first ⟨after.running both.1, after.start.symm.trans both.2⟩
      · rw [after.places j same] at place
        rw [Both, after.others j same place] at both
        exact single j place both
    · rcases survivor with still | ⟨k, place, also, lasts⟩
      · left
        intro j inside
        rw [after.others j (apart j inside) (later j inside)]
        exact still j (List.mem_cons_of_mem i inside)
      · right
        refine ⟨k, ?_⟩
        by_cases same : k = i
        · rw [same] at also lasts ⊢
          obtain ⟨linked, running⟩ := interruptStep_survivor first also (lasts List.mem_cons_self)
          exact ⟨linked, running, fun inside => absurd inside outside⟩
        · rw [after.places k same, after.others k same place]
          exact ⟨place, also, fun inside => lasts (List.mem_cons_of_mem i inside)⟩

theorem Inv.restart (inv : s.Inv) : (s.restart t).Inv := by
  have stopped : ((s.hwStop t).modTimer t fun tm => { tm with change := true }).Inv := (inv.modTimer rfl).modTimer rfl
  have started {b : TimerState} (inv : b.Inv) : ((b.modTimer t fun tm => { tm with change := false }).hwStart t).Inv :=
    (inv.modTimer rfl).modTimer rfl
  rw [TimerState.restart]
  split
  · dsimp only
    split
    · split
      · exact started stopped
      · exact stopped
    · split
      · exact started inv
      · exact inv
  · exact inv.modTimer rfl

theorem Inv.interrupt (inv : s.Inv) (calm : s.Calm t n) : (s.sndTimerInterrupt t n).Inv := by
  obtain ⟨single, survivor⟩ := calm
  have looped : ((s.active.items (.timer t)).foldl (TimerState.interruptStep t n) s).Inv ∧
      ∀ j, ((s.active.items (.timer t)).foldl (TimerState.interruptStep t n) s).active.place j = .on (.timer t) →
        ¬ ((s.active.items (.timer t)).foldl (TimerState.interruptStep t n) s).Both j := by
    apply interruptFold_inv inv (s.active.nodup _)
    · exact fun j inside => (s.active.linked _ _).mp inside
    · exact fun j place => single j ((s.active.linked _ _).mpr place)
    · apply survivor.imp id
      rintro ⟨k, inside, runs, lasts⟩
      exact ⟨k, (s.active.linked _ _).mp inside, runs, fun _ => lasts⟩
  rw [sndTimerInterrupt]
  split
  · exact (looped.1.reschedule fun j inside => looped.2 j ((Lists.linked _ _ _).mp inside)).restart
  · exact looped.1.restart

theorem Inv.callback {head : AckHead} (inv : s.Inv) : (s.callback head).Inv := by
  rw [TimerState.callback]
  split
  · exact inv
  · rename_i i rest items
    have place : s.ack.place i = .on head := by
      rw [← s.ack.linked, items]
      exact List.mem_cons_self
    have sound := inv.acked.sound i
    have same : Function.update s.cores i (s.cores i) = s.cores := Function.update_eq_self i s.cores
    have acked : Acked s.cores (s.ack.delInit i) := by
      rw [← same]
      apply inv.acked.change
      · rw [Lists.broken_delInit sound]
        exact inv.acked.unbroken
      · intro j other
        rw [Lists.place_delInit sound, Function.update_of_ne other]
      · rw [Lists.place_delInit sound, Function.update_self]
        exact fun same => by cases same
      · intro h there
        rw [Lists.place_delInit sound, Function.update_self] at there
        cases there
    have taken : ({ s with ack := s.ack.delInit i } : TimerState).Inv := by
      refine ⟨inv.running, acked, inv.opened, ?_, inv.timed⟩
      intro j new
      obtain ⟨dead, alone, idle⟩ := inv.fresh j new
      refine ⟨dead, alone, ?_⟩
      show (s.ack.delInit i).place j = _
      rw [Lists.place_delInit sound, Function.update_apply]
      split
      · rfl
      · exact idle
    have called := taken.modInst (i := i) (f := fun ti => { ti with pticks := 0 }) rfl
    exact called.frame rfl rfl rfl rfl rfl rfl

theorem Inv.given {op : TimerOp} (inv : s.Inv) (called : (s.insts i).live = true → (s.call op).Inv) :
    (if (s.insts i).live then s.call op else s).Inv := by
  split
  · rename_i live
    exact called live
  · exact inv

theorem Inv.exec {op : TimerOp} (inv : s.Inv) (proper : s.Proper op) : (s.exec op).Inv := by
  cases op with
  | openSlave sclass device memory => exact inv.openSlave
  | openMaster t sclass slaveId memory => exact inv.openMaster
  | interrupt t n => exact inv.interrupt proper
  | callback head => exact inv.callback
  | flags i auto fast exclusive =>
    exact inv.given fun _ => inv.modInst (f := fun ti => { ti with auto := auto, fast := fast, exclusive := exclusive }) rfl
  | start i ticks =>
    apply inv.given
    intro live
    by_cases some : 1 ≤ ticks
    · obtain ⟨linked, single⟩ := proper live some
      exact inv.start live linked single
    · have refused : s.sndTimerStart i ticks = (-EINVAL, s) := if_pos (Nat.lt_of_not_le some)
      rw [call, refused]
      exact inv
  | stop i => exact inv.given fun live => inv.stop live (proper live)
  | continue_ i => exact inv.given fun live => inv.continue_ live (proper live).1 (proper live).2
  | pause i => exact inv.given fun live => inv.stop1 live (proper live)
  | close i => exact inv.given fun live => inv.close live (proper live)

theorem init_inv (timerList : List Nat) (hw : Nat → SndTimerHardware) : (init timerList hw).Inv := by
  refine ⟨⟨rfl, fun _ => rfl, ?_, ?_, ?_⟩, ⟨rfl, ?_, ?_⟩, ⟨rfl, ?_⟩, fun _ _ => ⟨rfl, rfl, rfl⟩, ?_⟩
  · exact fun t i => iff_of_false (fun same => by cases same) fun both => Bool.false_ne_true both.1.1
  · exact fun m j => iff_of_false (fun same => by cases same) fun follows => Bool.false_ne_true follows.1
  · exact fun _ _ _ same => by cases same
  · exact fun _ same => by cases same
  · exact fun _ _ same => by cases same
  · exact fun i h => iff_of_false (fun same => by cases same) fun both => Bool.false_ne_true both.1
  · exact fun _ live => absurd live Bool.false_ne_true

/-- Calls that the lists can take keep them and the counters of the timers right. -/
theorem timer_lists (timerList : List Nat) (hw : Nat → SndTimerHardware) (ops : List TimerOp)
    (proper : Throughout exec (fun s op _ => s.Proper op) (init timerList hw) ops) :
    Throughout exec (fun s _ s' => s.Sound ∧ s'.Sound) (init timerList hw) ops := by
  apply proper.steps Inv (init_inv timerList hw)
  intro s op inv proper
  have next := inv.exec proper
  exact ⟨⟨inv.sound, next.sound⟩, next⟩

/-- Two instances on a timer, one of them with a slave: both expire, the second one for good. -/
theorem timer_lists_used : Throughout exec (fun s _ s' => s.Sound ∧ s'.Sound)
    (init [0] fun _ => ⟨true, false, false, false, 100⟩)
    [.openMaster 0 1 7 true, .flags 0 true false false, .openSlave 1 7 true, .start 0 2, .start 1 1, .openMaster 0 1 8 true,
      .start 2 1, .interrupt 0 2, .interrupt 0 2, .callback (.slow 0), .callback (.slow 0), .pause 0, .stop 0, .continue_ 0] :=
  timer_lists _ _ _ (by decide)

/-- The last running instance expires for good and stays on the list. -/
theorem expired_stays : ¬ ∀ (timerList : List Nat) (hw : Nat → SndTimerHardware) (ops : List TimerOp),
    Throughout exec (fun s _ s' => s.Sound ∧ s'.Sound) (init timerList hw) ops := by
  intro all
  obtain ⟨-, -, ⟨-, sound⟩, -⟩ := all [0] (fun _ => ⟨true, false, false, false, 100⟩)
    [.openMaster 0 1 7 true, .start 0 1, .interrupt 0 1]
  have inside := (sound.masters 0 0).mp (by decide)
  exact absurd inside.2 (by decide)

end TimerState

end AlsaDriver.Timer
