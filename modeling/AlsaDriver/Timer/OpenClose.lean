import AlsaDriver.Timer.Instances

namespace AlsaDriver.Timer

open NodeLists

namespace TimerState

variable {s s' : TimerState} {i t : Nat}

theorem Inv.free (inv : s.Inv) (live : (s.insts i).live = true) (still : (s.insts i).running = false)
    (waits : (s.insts i).slave = false → (s.insts i).start = false) (idle : s.ack.place i = .alone) :
    (({ s with opened := s.opened.del i } : TimerState).modInst i fun ti => { ti with live := false }).Inv := by
  have home : (s.cores i).home ≠ none := by
    rw [Core.home]
    split
    · exact Option.some_ne_none _
    · rename_i master
      obtain ⟨t, timer, -⟩ := inv.master_of live master
      have same : (s.cores i).timer = some t := timer
      rw [same]
      exact Option.some_ne_none _
  obtain ⟨h, home⟩ := Option.ne_none_iff_exists'.mp home
  have place := (inv.opened.homes i h).mpr ⟨live, home⟩
  have sound : s.opened.place i ≠ .deleted := by
    rw [place]
    exact fun same => by cases same
  have opened : Opened (Function.update s.cores i { s.cores i with live := false }) (s.opened.del i) := by
    apply inv.opened.change
    · rw [Lists.broken_del sound]
      exact inv.opened.unbroken
    · intro j other
      rw [Lists.place_del sound, Function.update_of_ne other]
    · intro g
      rw [Lists.place_del sound, Function.update_self]
      exact iff_of_false (fun same => by cases same) fun both => Bool.false_ne_true both.1
  have acked : Acked (Function.update s.cores i { s.cores i with live := false }) s.ack := by
    apply inv.acked.change inv.acked.unbroken (fun _ _ => rfl) (inv.acked.sound i)
    intro g there
    rw [idle] at there
    cases there
  have running : Running (Function.update s.cores i { s.cores i with live := false }) s.runs s.active :=
    inv.running.free still waits rfl
  exact inv.change live (cores_modInst i _) rfl running acked opened (fun _ _ => rfl) (fun _ _ => rfl)
    fun alive => absurd alive Bool.false_ne_true

theorem closeStep_eq (slave : (s.insts i).slave = true) : closeStep s i =
    ({ s with opened := s.opened.moveTail i .slaves } : TimerState).modInst i fun ti =>
      { ti with master := none, timer := none } := by
  rw [closeStep, sndTimerStop1, if_pos slave, if_pos rfl]

theorem slave_home (slave : (s.insts i).slave = true) : ∃ h, (s.cores i).home = some h := by
  rw [Core.home]
  exact ⟨_, if_pos slave⟩

theorem Inv.closeStep (inv : s.Inv) (live : (s.insts i).live = true) (slave : (s.insts i).slave = true)
    (still : (s.insts i).running = false) : (closeStep s i).Inv := by
  have idle (m : Nat) : ¬ (s.cores i).Follows m := fun follows => Bool.false_ne_true (still.symm.trans follows.2.2.1)
  have idle' (m : Nat) : ¬ ({ s.cores i with master := none, timer := none } : Core).Follows m :=
    fun follows => Option.some_ne_none m follows.2.2.2.symm
  obtain ⟨h, home⟩ := slave_home slave
  have home' : ({ s.cores i with master := none, timer := none } : Core).home = some .slaves := by
    rw [Core.home]
    exact if_pos slave
  have running := inv.running.changeIdle live slave idle slave idle'
  have opened := inv.opened.move live home (x := { s.cores i with master := none, timer := none }) live home'
  rw [closeStep_eq slave]
  exact inv.change live (cores_modInst i _) rfl running (inv.acked.keep rfl) opened (fun _ _ => rfl) (fun _ _ => rfl)
    fun _ master => absurd (master.symm.trans slave) Bool.false_ne_true

theorem closeStep_other {j : Nat} (slave : (s.insts i).slave = true) (other : j ≠ i) :
    (closeStep s i).insts j = s.insts j := by
  rw [closeStep_eq slave]
  exact Function.update_of_ne other _ _

structure Left (s : TimerState) (j : Nat) : Prop where
  live : (s.insts j).live = true
  slave : (s.insts j).slave = true
  still : (s.insts j).running = false

theorem closeFold_inv {l : List Nat} (inv : s.Inv) (distinct : l.Nodup) (left : ∀ j ∈ l, s.Left j) :
    (l.foldl TimerState.closeStep s).Inv := by
  induction l generalizing s with
  | nil => exact inv
  | cons j rest ih =>
    obtain ⟨outside, distinct⟩ := List.nodup_cons.mp distinct
    have first := left j List.mem_cons_self
    apply ih (inv.closeStep first.live first.slave first.still) distinct
    intro k inside
    have other : k ≠ j := fun same => outside (same ▸ inside)
    have later := left k (List.mem_cons_of_mem j inside)
    have same := closeStep_other first.slave other
    exact ⟨same ▸ later.live, same ▸ later.slave, same ▸ later.still⟩

theorem closeStep_modInst {j : Nat} {f : SndTimerInstance → SndTimerInstance} (slave : (s.insts j).slave = true)
    (other : j ≠ i) : TimerState.closeStep (s.modInst i f) j = (TimerState.closeStep s j).modInst i f := by
  have same : (s.modInst i f).insts j = s.insts j := Function.update_of_ne other _ _
  rw [closeStep_eq slave, closeStep_eq (same ▸ slave)]
  exact modInst_comm (s := { s with opened := s.opened.moveTail j .slaves }) other

theorem closeFold_modInst {l : List Nat} {f : SndTimerInstance → SndTimerInstance} (outside : i ∉ l) (distinct : l.Nodup)
    (slaves : ∀ j ∈ l, (s.insts j).slave = true) :
    l.foldl TimerState.closeStep (s.modInst i f) = (l.foldl TimerState.closeStep s).modInst i f := by
  induction l generalizing s with
  | nil => rfl
  | cons j rest ih =>
    obtain ⟨new, distinct⟩ := List.nodup_cons.mp distinct
    have other : j ≠ i := fun same => outside (same ▸ List.mem_cons_self)
    have slave := slaves j List.mem_cons_self
    rw [List.foldl_cons, List.foldl_cons, closeStep_modInst slave other]
    apply ih (fun inside => outside (List.mem_cons_of_mem j inside)) distinct
    intro k inside
    rw [closeStep_other slave fun same => new (same ▸ inside)]
    exact slaves k (List.mem_cons_of_mem j inside)

def Closable (s : TimerState) (i : Nat) : Prop :=
  s.Linked i ∧ if (s.insts i).slave then s.ack.place i = .alone else s.active.items (.master i) = []

theorem Inv.closeSlave (inv : s.Inv) (live : (s.insts i).live = true) (slave : (s.insts i).slave = true)
    (free : ¬ s.Led i) (idle : s.ack.place i = .alone) : (s.sndTimerClose i).2.Inv := by
  have linked : s.Linked i := by
    rw [Linked, if_pos slave]
    exact free
  have stopped := inv.stop live linked
  obtain ⟨f, same, state⟩ := stop_state (s := s) (i := i)
  have stop1 : (s.sndTimerStop1 i false).2 = s.modInst i fun ti => { ti with running := false } := by
    rw [sndTimerStop1, if_pos slave, if_neg Bool.false_ne_true]
  have core : ((s.sndTimerStop i).2.insts i).core = { s.cores i with running := false } := by
    rw [state, insts_modInst, same, stop1, insts_modInst]
    rfl
  have ack : (s.sndTimerStop i).2.ack = s.ack := by
    rw [state, stop1]
    rfl
  have slave' : ((s.sndTimerStop i).2.insts i).slave = true := (congrArg Core.slave core).trans slave
  rw [sndTimerClose, closeLinks, if_pos slave']
  apply stopped.free ((congrArg Core.live core).trans live) (congrArg Core.running core)
  · exact fun master => absurd (master.symm.trans slave') Bool.false_ne_true
  · rw [ack]
    exact idle

theorem Inv.closeSlaves (inv : s.Inv) (live : (s.insts i).live = true) (master : (s.insts i).slave = false)
    (still : (s.insts i).running = false) (waits : (s.insts i).start = false) (idle : s.ack.place i = .alone)
    (none : s.active.items (.master i) = []) :
    ((s.closeLinks i).modInst i fun ti => { ti with live := false }).Inv := by
  obtain ⟨t, timer, -⟩ := inv.master_of live fun slave => Bool.false_ne_true (master.symm.trans slave)
  have freed := inv.free live still (fun _ => waits) idle
  have left (j : Nat) (inside : j ∈ (s.opened.del i).items (.master i)) :
      (({ s with opened := s.opened.del i } : TimerState).modInst i fun ti => { ti with live := false }).Left j := by
    obtain ⟨alive, home⟩ := freed.opened.mem.mp inside
    obtain ⟨slave, follows⟩ := Core.home_master.mp home
    refine ⟨alive, slave, ?_⟩
    by_contra runs
    have place := (freed.running.slaves i j).mpr ⟨alive, slave, Bool.not_eq_false _ ▸ runs, follows⟩
    have linked : j ∈ s.active.items (.master i) := (s.active.linked _ _).mpr place
    rw [none] at linked
    cases linked
  have other (j : Nat) (inside : j ∈ (s.opened.del i).items (.master i)) : j ≠ i := by
    rintro rfl
    have alive := (left j inside).live
    rw [insts_modInst] at alive
    exact Bool.false_ne_true alive
  have outside : i ∉ (s.opened.del i).items (.master i) := fun inside => other i inside rfl
  have distinct := (s.opened.del i).nodup (.master i)
  have slaves (j : Nat) (inside : j ∈ (s.opened.del i).items (.master i)) : (s.insts j).slave = true := by
    have slave := (left j inside).slave
    have same : (({ s with opened := s.opened.del i } : TimerState).modInst i fun ti => { ti with live := false }).insts j =
        s.insts j := Function.update_of_ne (other j inside) _ _
    rwa [same] at slave
  rw [closeLinks, if_neg fun slave => Bool.false_ne_true (master.symm.trans slave), timer]
  dsimp only
  rw [← closeFold_modInst (s := { s with opened := s.opened.del i }) outside distinct slaves]
  exact closeFold_inv freed distinct left

theorem Inv.closeMaster (inv : s.Inv) (master : (s.cores i).Master t) (sound : s.active.place i ≠ .deleted)
    (none : s.active.items (.master i) = []) : (s.sndTimerClose i).2.Inv := by
  have linked : s.Linked i := by
    have slave : ¬ (s.insts i).slave = true := fun slave => Bool.false_ne_true (master.2.1.symm.trans slave)
    rw [Linked, if_neg slave]
    exact sound
  have stopped := inv.stop master.1 linked
  obtain ⟨f, same, state⟩ := stop_state (s := s) (i := i)
  obtain ⟨lists, insts⟩ := stopMaster_links master sound
  have core : ((s.sndTimerStop i).2.insts i).core = { s.cores i with running := false, start := false } := by
    rw [state, insts_modInst, same, insts]
    rfl
  have active : (s.sndTimerStop i).2.active = s.active.delInit i := by
    rw [state]
    refine lists.active.trans ?_
    rw [TimerState.halted]
    split
    · rfl
    · rfl
  have ack : (s.sndTimerStop i).2.ack = s.ack.delInit i := by
    rw [state]
    refine lists.ack.trans ?_
    rw [TimerState.halted]
    split
    · rfl
    · rfl
  apply stopped.closeSlaves ((congrArg Core.live core).trans master.1) ((congrArg Core.slave core).trans master.2.1)
    (congrArg Core.running core) (congrArg Core.start core)
  · rw [ack, Lists.place_delInit (inv.acked.sound i), Function.update_self]
  · rw [active, Lists.items_delInit sound, none]
    rfl

theorem Inv.close (inv : s.Inv) (live : (s.insts i).live = true) (closable : s.Closable i) :
    (s.sndTimerClose i).2.Inv := by
  obtain ⟨linked, alone⟩ := closable
  rw [Linked] at linked
  by_cases slave : (s.insts i).slave = true
  · rw [if_pos slave] at linked alone
    exact inv.closeSlave live slave linked alone
  · rw [if_neg slave] at linked alone
    obtain ⟨t, -, master⟩ := inv.master_of live slave
    exact inv.closeMaster master linked alone

theorem cores_addInst (ti : SndTimerInstance) (head : OpenHead) :
    (s.addInst ti head).cores = Function.update s.cores s.nextInst ti.core := by
  funext j
  show (Function.update s.insts s.nextInst ti j).core = _
  rw [Function.update_apply, Function.update_apply]
  split
  · rfl
  · rfl

theorem Inv.addInst {ti : SndTimerInstance} {head : OpenHead} (inv : s.Inv) (live : ti.live = true)
    (still : ti.running = false) (waits : ti.start = false) (home : ti.core.home = some head)
    (timed : ti.slave = false → ti.timer ≠ none) : (s.addInst ti head).Inv := by
  obtain ⟨dead, place, idle⟩ := inv.fresh s.nextInst (Nat.le_refl _)
  have free : (s.opened.place s.nextInst).isOn = false := by
    apply Lists.isOn_of_ne
    intro h there
    exact Bool.false_ne_true (dead.symm.trans ((inv.opened.homes _ h).mp there).1)
  have running : Running (Function.update s.cores s.nextInst ti.core) s.runs s.active :=
    inv.running.new dead place still waits
  have acked : Acked (Function.update s.cores s.nextInst ti.core) s.ack := by
    apply inv.acked.change inv.acked.unbroken (fun _ _ => rfl) (inv.acked.sound _)
    exact fun _ _ => live
  have opened : Opened (Function.update s.cores s.nextInst ti.core) (s.opened.addTail s.nextInst head) := by
    apply inv.opened.change
    · rw [Lists.broken_addTail free]
      exact inv.opened.unbroken
    · intro j other
      rw [Lists.place_addTail free, Function.update_of_ne other]
    · intro h
      rw [Lists.place_addTail free, Function.update_self, home]
      constructor
      · intro same
        exact ⟨live, congrArg some (Place.on.inj same)⟩
      · intro both
        exact congrArg Place.on (Option.some.inj both.2)
  refine ⟨?_, ?_, ?_, ?_, ?_⟩
  · rw [cores_addInst]
    exact running
  · rw [cores_addInst]
    exact acked
  · rw [cores_addInst]
    exact opened
  · intro j new
    have later : s.nextInst + 1 ≤ j := new
    rw [cores_addInst, Function.update_of_ne (Nat.ne_of_gt later)]
    exact inv.fresh j (Nat.le_of_lt later)
  · intro j
    rw [cores_addInst]
    by_cases same : j = s.nextInst
    · rw [same, Function.update_self]
      exact fun _ => timed
    · rw [Function.update_of_ne same]
      exact inv.timed j

structure Loose (s : TimerState) (j : Nat) : Prop where
  live : (s.insts j).live = true
  slave : (s.insts j).slave = true
  free : (s.insts j).master = none

theorem Loose.idle {j : Nat} (loose : s.Loose j) (m : Nat) : ¬ (s.cores j).Follows m :=
  fun follows => Option.some_ne_none m (follows.2.2.2.symm.trans loose.free)

def enslaved (s : TimerState) (i m : Nat) : TimerState :=
  ({ s with
    opened := s.opened.moveTail i (.master m)
    active := if (s.insts i).running then s.active.addTail i (.master m) else s.active } : TimerState).modInst i fun ti =>
      { ti with master := some m, timer := (s.insts m).timer }

theorem Inv.enslaved {m : Nat} (inv : s.Inv) (loose : s.Loose i) : (s.enslaved i m).Inv := by
  obtain ⟨h, home⟩ := slave_home loose.slave
  have home' : ({ s.cores i with master := some m, timer := (s.insts m).timer } : Core).home = some (.master m) := by
    rw [Core.home]
    exact if_pos loose.slave
  have opened := inv.opened.move loose.live home (x := { s.cores i with master := some m, timer := (s.insts m).timer })
    loose.live home'
  have cores : (s.enslaved i m).cores =
      Function.update s.cores i { s.cores i with master := some m, timer := (s.insts m).timer } := cores_modInst i _
  have alone := inv.running.alone loose.live loose.slave loose.idle
  apply inv.change loose.live cores rfl _ (inv.acked.keep rfl) opened _ (fun _ _ => rfl)
    fun _ master => absurd (master.symm.trans loose.slave) Bool.false_ne_true
  · show Running _ _ (if (s.insts i).running then s.active.addTail i (.master m) else s.active)
    split
    · rename_i runs
      exact inv.running.follow loose.live loose.slave loose.idle ⟨loose.live, loose.slave, runs, rfl⟩
    · rename_i still
      exact inv.running.changeIdle loose.live loose.slave loose.idle loose.slave fun m follows => still follows.2.2.1
  · intro j other
    show (if (s.insts i).running then s.active.addTail i (.master m) else s.active).place j = _
    split
    · exact place_addTail_other (Lists.isOn_of_alone alone) other
    · rfl

theorem enslaved_other {j m : Nat} (other : j ≠ i) : (s.enslaved i m).insts j = s.insts j :=
  Function.update_of_ne other _ _

theorem Inv.checkSlave (inv : s.Inv) (loose : s.Loose i) (still : (s.insts i).running = false) :
    (s.sndTimerCheckSlave i).Inv := by
  rw [sndTimerCheckSlave]
  split
  · exact inv
  · rename_i m _
    have linked := inv.enslaved loose (m := m)
    rw [TimerState.enslaved, if_neg fun runs => Bool.false_ne_true (still.symm.trans runs)] at linked
    exact linked

theorem checkMasterStep_eq {m : Nat} : checkMasterStep m s i = if s.sameId i m then s.enslaved i m else s := by
  rw [checkMasterStep, TimerState.enslaved]
  split
  · dsimp only
    rw [insts_modInst]
    by_cases runs : (s.insts i).running = true
    · rw [if_pos runs]
      simp only [if_pos runs]
      rfl
    · rw [if_neg runs]
      simp only [if_neg runs]
  · rfl

theorem checkMasterFold_inv {l : List Nat} {m : Nat} (inv : s.Inv) (distinct : l.Nodup) (loose : ∀ j ∈ l, s.Loose j) :
    (l.foldl (checkMasterStep m) s).Inv := by
  induction l generalizing s with
  | nil => exact inv
  | cons j rest ih =>
    obtain ⟨outside, distinct⟩ := List.nodup_cons.mp distinct
    have first := loose j List.mem_cons_self
    rw [List.foldl_cons, checkMasterStep_eq]
    split
    · apply ih (inv.enslaved first) distinct
      intro k inside
      have later := loose k (List.mem_cons_of_mem j inside)
      have same : (s.enslaved j m).insts k = s.insts k := enslaved_other fun same => outside (same ▸ inside)
      exact ⟨same ▸ later.live, same ▸ later.slave, same ▸ later.free⟩
    · exact ih inv distinct fun k inside => loose k (List.mem_cons_of_mem j inside)

theorem Inv.checkMaster {m : Nat} (inv : s.Inv) : (s.sndTimerCheckMaster m).Inv := by
  apply checkMasterFold_inv inv (s.opened.nodup .slaves)
  intro j inside
  obtain ⟨live, home⟩ := inv.opened.mem.mp inside
  obtain ⟨slave, free⟩ := Core.home_slaves.mp home
  exact ⟨live, slave, free⟩

theorem Inv.openSlave {sclass : Int} {device : Nat} {memory : Bool} (inv : s.Inv) :
    (s.sndTimerOpenSlave sclass device memory).2.Inv := by
  rw [sndTimerOpenSlave]
  split
  · exact inv
  · split
    · exact inv
    · have new : (s.addInst (newInst true none sclass device) .slaves).insts s.nextInst =
          newInst true none sclass device := Function.update_self ..
      have added : (s.addInst (newInst true none sclass device) .slaves).Inv :=
        inv.addInst rfl rfl rfl rfl fun master => absurd master.symm Bool.false_ne_true
      have loose : (s.addInst (newInst true none sclass device) .slaves).Loose s.nextInst := by
        refine ⟨?_, ?_, ?_⟩ <;> rw [new] <;> rfl
      apply added.checkSlave loose
      rw [new]
      rfl

theorem Inv.openMaster {sclass : Int} {slaveId : Nat} {memory : Bool} (inv : s.Inv) :
    (s.sndTimerOpenMaster t sclass slaveId memory).2.Inv := by
  rw [sndTimerOpenMaster]
  split
  · exact inv
  · split
    · exact inv
    · split
      · exact inv
      · have added : (s.addInst (newInst false (some t) sclass slaveId) (.timer t)).Inv :=
          inv.addInst rfl rfl rfl rfl fun _ => Option.some_ne_none t
        exact added.checkMaster

end TimerState

end AlsaDriver.Timer
