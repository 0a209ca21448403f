import AlsaDriver.Timer.OpenClose

namespace AlsaDriver.Timer

open NodeLists

namespace TimerState

variable {s s' : TimerState} {i j t : Nat} {head : AckHead}

theorem acknowledge_active : (s.acknowledge head i).active = s.active := by
  rw [acknowledge]
  split
  · rfl
  · rfl

theorem acknowledge_insts : (s.acknowledge head i).insts = s.insts := by
  rw [acknowledge]
  split
  · rfl
  · rfl

theorem Inv.acknowledge (inv : s.Inv) (head : AckHead) (live : (s.insts i).live = true) : (s.acknowledge head i).Inv := by
  rw [TimerState.acknowledge]
  split
  · rename_i alone
    have free := Lists.isOn_of_alone alone
    have same : Function.update s.cores i (s.cores i) = s.cores := Function.update_eq_self i s.cores
    have acked : Acked (Function.update s.cores i (s.cores i)) (s.ack.addTail i head) := by
      apply inv.acked.change
      · rw [Lists.broken_addTail free]
        exact inv.acked.unbroken
      · intro j other
        rw [Lists.place_addTail free, Function.update_of_ne other]
      · rw [Lists.place_addTail free, Function.update_self]
        exact fun same => by cases same
      · exact fun _ _ => live
    rw [same] at acked
    refine ⟨inv.running, acked, inv.opened, ?_, inv.timed⟩
    intro j new
    obtain ⟨dead, place, idle⟩ := inv.fresh j new
    have other : j ≠ i := by
      rintro rfl
      exact Bool.false_ne_true (dead.symm.trans live)
    refine ⟨dead, place, ?_⟩
    show (s.ack.addTail i head).place j = _
    rw [Lists.place_addTail free, Function.update_of_ne other]
    exact idle
  · exact inv

theorem expireSlave_active {n : Nat} : (expireSlave head n s j).active = s.active := acknowledge_active

theorem expireSlave_other {n : Nat} (other : i ≠ j) : (expireSlave head n s j).insts i = s.insts i := by
  rw [expireSlave, acknowledge_insts]
  exact Function.update_of_ne other _ _

theorem expireSlave_live {n : Nat} : ((expireSlave head n s j).insts i).live = (s.insts i).live := by
  rw [expireSlave, acknowledge_insts]
  exact congrArg Core.live (congrFun (cores_modInst_same (s := s) (i := j) rfl) i)

theorem Inv.expireSlave {n : Nat} (inv : s.Inv) (live : (s.insts j).live = true) : (expireSlave head n s j).Inv := by
  have changed : (s.modInst j fun ts => { ts with pticks := n }).Inv := inv.modInst rfl
  apply changed.acknowledge
  rw [insts_modInst]
  exact live

theorem expireFold_inv {l : List Nat} {n : Nat} (inv : s.Inv) (live : ∀ j ∈ l, (s.insts j).live = true) :
    (l.foldl (TimerState.expireSlave head n) s).Inv := by
  induction l generalizing s with
  | nil => exact inv
  | cons j rest ih =>
    apply ih (inv.expireSlave (live j List.mem_cons_self))
    intro k inside
    rw [expireSlave_live]
    exact live k (List.mem_cons_of_mem j inside)

theorem expireFold_active {l : List Nat} {n : Nat} : (l.foldl (TimerState.expireSlave head n) s).active = s.active := by
  induction l generalizing s with
  | nil => rfl
  | cons j rest ih => exact ih.trans expireSlave_active

theorem expireFold_other {l : List Nat} {n : Nat} (outside : i ∉ l) :
    (l.foldl (TimerState.expireSlave head n) s).insts i = s.insts i := by
  induction l generalizing s with
  | nil => rfl
  | cons j rest ih =>
    have other : i ≠ j := fun same => outside (same ▸ List.mem_cons_self)
    exact (ih fun inside => outside (List.mem_cons_of_mem j inside)).trans (expireSlave_other other)

def Survives (s : TimerState) (t i : Nat) : Prop :=
  (s.insts i).auto = true ∨ ∃ k, k ≠ i ∧ s.active.place k = .on (.timer t) ∧ (s.insts k).running = true

theorem runs_pos (inv : s.Inv) {k : Nat} (other : k ≠ i) (place : s.active.place k = .on (.timer t))
    (runs : (s.insts k).running = true) (here : s.active.place i = .on (.timer t)) (also : (s.insts i).running = true) :
    (s.timers t).running - 1 ≠ 0 := by
  obtain ⟨master, -⟩ := (inv.running.masters t i).mp here
  have split := inv.running.split i t
  have inside : k ∈ (s.active.items (.timer t)).erase i := by
    rw [(s.active.nodup _).mem_erase_iff, s.active.linked]
    exact ⟨other, place⟩
  have pos : 0 < ((s.active.items (.timer t)).erase i).countP fun j => (s.cores j).running :=
    List.countP_pos_iff.mpr ⟨k, inside, runs⟩
  have one : (s.cores i).counts t = 1 := if_pos ⟨master, also⟩
  rw [one] at split
  show s.runs t - 1 ≠ 0
  omega

theorem Inv.reload (inv : s.Inv) (here : s.active.place i = .on (.timer t)) (runs : (s.insts i).running = true)
    (single : ¬ s.Both i) (survives : s.Survives t i) : (s.reload t i).Inv := by
  obtain ⟨master, -⟩ := (inv.running.masters t i).mp here
  rw [TimerState.reload]
  split
  · exact inv.modInst rfl
  · rename_i once
    obtain ⟨k, other, place, also⟩ := survives.resolve_left once
    have less := runs_pos inv other place also here runs
    have after : (((s.modInst i fun ti => { ti with running := false }).modTimer t fun tm =>
        { tm with running := tm.running - 1 }).timers t).running = (s.timers t).running - 1 := by
      show (Function.update s.timers t _ t).running = _
      rw [Function.update_self]
      rfl
    have waits : (s.cores i).start = false := by
      rw [← Bool.not_eq_true]
      exact fun starts => single ⟨runs, starts⟩
    have sound : s.active.place i ≠ .deleted := by
      rw [here]
      exact fun same => by cases same
    have off : ((s.active.del i).place i).isOn = false := by
      rw [Lists.place_del sound, Function.update_self]
      rfl
    have others (j : Nat) (other : j ≠ i) : (s.active.del i).place j = s.active.place j := by
      rw [Lists.place_del sound, Function.update_of_ne other]
    obtain ⟨masters, slaves, fine⟩ :=
      linked_stopped (x := { s.cores i with running := false }) off master.2.1 rfl waits
    have running : Running (Function.update s.cores i { s.cores i with running := false })
        (Function.update s.runs t (s.runs t - 1)) (s.active.del i) := by
      apply inv.running.change _ others (counts_halted master runs rfl) masters slaves fine
      rw [Lists.broken_del sound]
      exact inv.running.unbroken
    have expired : ((({ s with active := s.active.del i } : TimerState).modTimer t fun tm =>
        { tm with running := tm.running - 1 }).modInst i fun ti => { ti with running := false }).Inv :=
      inv.activate master.1 rfl rfl rfl rfl (runs_modTimer (s := s) t fun tm => { tm with running := tm.running - 1 })
        running others rfl rfl rfl rfl
    dsimp only
    rw [after, if_pos less]
    exact expired

theorem reload_active (sound : s.active.place i ≠ .deleted) :
    (∀ j, j ≠ i → (s.reload t i).active.place j = s.active.place j) ∧
      (s.reload t i).active.broken = s.active.broken ∧
      ∀ h, i ∉ s.active.items h → (s.reload t i).active.items h = s.active.items h := by
  rw [TimerState.reload]
  split
  · exact ⟨fun _ _ => rfl, rfl, fun _ _ => rfl⟩
  · dsimp only
    split
    · refine ⟨?_, Lists.broken_del sound, ?_⟩
      · intro j other
        show (s.active.del i).place j = _
        rw [Lists.place_del sound, Function.update_of_ne other]
      · intro h outside
        show (s.active.del i).items h = _
        rw [Lists.items_del sound, List.erase_of_not_mem outside]
    · exact ⟨fun _ _ => rfl, rfl, fun _ _ => rfl⟩

theorem reload_insts : (s.reload t i).insts = (s.modInst i fun ti =>
    if ti.auto then { ti with cticks := ti.ticks } else { ti with running := false }).insts := by
  show _ = Function.update s.insts i (if (s.insts i).auto = true then _ else _)
  rw [TimerState.reload]
  split
  · rfl
  · dsimp only
    split
    · rfl
    · rfl

theorem reload_other (other : j ≠ i) : (s.reload t i).insts j = s.insts j := by
  rw [reload_insts]
  exact Function.update_of_ne other _ _

theorem reload_live : ((s.reload t i).insts j).live = (s.insts j).live := by
  by_cases same : j = i
  · rw [same, reload_insts, insts_modInst]
    split
    · rfl
    · rfl
  · rw [reload_other same]

theorem Inv.expire (inv : s.Inv) (here : s.active.place i = .on (.timer t)) (runs : (s.insts i).running = true)
    (single : ¬ s.Both i) (survives : s.Survives t i) : (s.expire t i).Inv := by
  obtain ⟨master, -⟩ := (inv.running.masters t i).mp here
  have reloaded := inv.reload here runs single survives
  have live : ((s.reload t i).insts i).live = true := by
    rw [reload_live]
    exact master.1
  have acked := reloaded.acknowledge ((s.reload t i).ackHead t i) live
  rw [TimerState.expire]
  apply expireFold_inv acked
  intro j inside
  rw [Lists.linked, acked.running.slaves] at inside
  exact inside.1

theorem expire_active : (s.expire t i).active = (s.reload t i).active := by
  rw [TimerState.expire]
  exact expireFold_active.trans acknowledge_active

theorem expire_insts (outside : j ∉ (s.reload t i).active.items (.master i)) :
    (s.expire t i).insts j = (s.reload t i).insts j := by
  rw [TimerState.expire]
  refine (expireFold_other ?_).trans (congrFun acknowledge_insts j)
  rw [acknowledge_active]
  exact outside

def ticked (s : TimerState) (i n : Nat) : TimerState :=
  s.modInst i fun ti => { ti with pticks := (ti.pticks + n) % 2 ^ 64, cticks := ti.cticks - n }

theorem interruptStep_still {n : Nat} (still : (s.insts i).running = false) : interruptStep t n s i = s := if_pos still

theorem interruptStep_late {n : Nat} (runs : (s.insts i).running = true) (late : n < (s.insts i).cticks) :
    interruptStep t n s i = s.ticked i n := by
  have left : ((s.ticked i n).insts i).cticks ≠ 0 := by
    rw [ticked, insts_modInst]
    exact Nat.sub_ne_zero_of_lt late
  rw [interruptStep, if_neg fun still => Bool.false_ne_true (still.symm.trans runs)]
  exact if_pos left

theorem interruptStep_expired {n : Nat} (runs : (s.insts i).running = true) (expired : (s.insts i).cticks ≤ n) :
    interruptStep t n s i = (s.ticked i n).expire t i := by
  have none : ¬ ((s.ticked i n).insts i).cticks ≠ 0 := by
    rw [ticked, insts_modInst, not_not]
    exact Nat.sub_eq_zero_of_le expired
  rw [interruptStep, if_neg fun still => Bool.false_ne_true (still.symm.trans runs)]
  exact if_neg none

theorem ticked_other {n : Nat} (other : j ≠ i) : (s.ticked i n).insts j = s.insts j := Function.update_of_ne other _ _

theorem Inv.interruptStep {n : Nat} (inv : s.Inv) (here : s.active.place i = .on (.timer t)) (single : ¬ s.Both i)
    (survives : (s.insts i).running = true → (s.insts i).cticks ≤ n → s.Survives t i) : (interruptStep t n s i).Inv := by
  by_cases runs : (s.insts i).running = true
  · have ticked : (s.ticked i n).Inv := inv.modInst rfl
    by_cases expired : (s.insts i).cticks ≤ n
    · rw [interruptStep_expired runs expired]
      apply ticked.expire here
      · rw [TimerState.ticked, insts_modInst]
        exact runs
      · rw [Both, TimerState.ticked, insts_modInst]
        exact single
      · rw [Survives, TimerState.ticked, insts_modInst]
        rcases survives runs expired with auto | ⟨k, other, place, also⟩
        · exact .inl auto
        · exact .inr ⟨k, other, place, (ticked_other (n := n) other).symm ▸ also⟩
    · rw [interruptStep_late runs (Nat.lt_of_not_le expired)]
      exact ticked
  · rw [interruptStep_still (Bool.not_eq_true _ ▸ runs)]
    exact inv

structure Ticked (s s' : TimerState) (t i : Nat) : Prop where
  places : ∀ j, j ≠ i → s'.active.place j = s.active.place j
  others : ∀ j, j ≠ i → s.active.place j = .on (.timer t) → s'.insts j = s.insts j
  start : (s'.insts i).start = (s.insts i).start
  running : (s'.insts i).running = true → (s.insts i).running = true
  survivor : (s.insts i).auto = true → (s'.insts i).running = (s.insts i).running ∧ s'.active.place i = s.active.place i

theorem reload_ticked (here : s.active.place i = .on (.timer t)) : s.Ticked (s.reload t i) t i := by
  have sound : s.active.place i ≠ .deleted := by
    rw [here]
    exact fun same => by cases same
  refine ⟨(reload_active sound).1, fun j other _ => reload_other other, ?_, ?_, ?_⟩
  · rw [reload_insts, insts_modInst]
    split
    · rfl
    · rfl
  · rw [reload_insts, insts_modInst]
    split
    · exact id
    · exact fun runs => absurd runs Bool.false_ne_true
  · intro auto
    rw [reload_insts, insts_modInst, if_pos auto, TimerState.reload, if_pos auto]
    exact ⟨rfl, rfl⟩

theorem expire_ticked (here : s.active.place i = .on (.timer t)) : s.Ticked (s.expire t i) t i := by
  have reloaded := reload_ticked here
  have sound : s.active.place i ≠ .deleted := by
    rw [here]
    exact fun same => by cases same
  have apart (h : ActiveHead) (other : h ≠ .timer t) (j : Nat) (on_timer : s.active.place j = .on (.timer t)) :
      j ∉ s.active.items h := by
    rw [Lists.linked, on_timer]
    exact fun same => other (Place.on.inj same).symm
  have outside (j : Nat) (on_timer : s.active.place j = .on (.timer t)) :
      j ∉ (s.reload t i).active.items (.master i) := by
    rw [(reload_active sound).2.2 _ (apart _ (fun same => by cases same) i here)]
    exact apart _ (fun same => by cases same) j on_timer
  refine ⟨?_, ?_, ?_, ?_, ?_⟩
  · rw [expire_active]
    exact reloaded.places
  · intro j other on_timer
    rw [expire_insts (outside j on_timer)]
    exact reloaded.others j other on_timer
  · rw [expire_insts (outside i here)]
    exact reloaded.start
  · rw [expire_insts (outside i here)]
    exact reloaded.running
  · rw [expire_active, expire_insts (outside i here)]
    exact reloaded.survivor

theorem interruptStep_ticked {n : Nat} (here : s.active.place i = .on (.timer t)) :
    s.Ticked (TimerState.interruptStep t n s i) t i := by
  have ticked : s.Ticked (s.ticked i n) t i := by
    have self : (s.ticked i n).insts i = _ := insts_modInst i _
    refine ⟨fun _ _ => rfl, fun j other _ => ticked_other other, ?_, ?_, ?_⟩
    · rw [self]
    · rw [self]
      exact id
    · rw [self]
      exact fun _ => ⟨rfl, rfl⟩
  by_cases runs : (s.insts i).running = true
  · by_cases expired : (s.insts i).cticks ≤ n
    · rw [interruptStep_expired runs expired]
      have after := expire_ticked (s := s.ticked i n) (t := t) here
      have self : (s.ticked i n).insts i = _ := insts_modInst i _
      refine ⟨after.places, ?_, after.start.trans ticked.start, fun runs => ticked.running (after.running runs), ?_⟩
      · intro j other on_timer
        exact (after.others j other on_timer).trans (ticked_other other)
      · intro auto
        obtain ⟨running, place⟩ := after.survivor (self ▸ auto)
        exact ⟨running.trans (self ▸ rfl), place⟩
    · rw [interruptStep_late runs (Nat.lt_of_not_le expired)]
      exact ticked
  · rw [interruptStep_still (Bool.not_eq_true _ ▸ runs)]
    exact ⟨fun _ _ => rfl, fun _ _ _ => rfl, rfl, id, fun _ => ⟨rfl, rfl⟩⟩

end TimerState

end AlsaDriver.Timer
