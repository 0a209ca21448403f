import AlsaDriver.Timer.Timer

namespace AlsaDriver.Timer

open NodeLists

structure Core where
  live : Bool
  slave : Bool
  running : Bool
  start : Bool
  timer : Option Nat
  master : Option Nat

def SndTimerInstance.core (ti : SndTimerInstance) : Core :=
  ⟨ti.live, ti.slave, ti.running, ti.start, ti.timer, ti.master⟩

namespace Core

variable (c : Core)

def Master (t : Nat) : Prop := c.live = true ∧ c.slave = false ∧ c.timer = some t

def Follows (m : Nat) : Prop := c.live = true ∧ c.slave = true ∧ c.running = true ∧ c.master = some m

instance (t : Nat) : Decidable (c.Master t) := inferInstanceAs (Decidable (_ ∧ _))

def counts (t : Nat) : Nat := if c.Master t ∧ c.running = true then 1 else 0

def home : Option OpenHead :=
  if c.slave then some (match c.master with | none => .slaves | some m => .master m) else c.timer.map .timer

variable {c}

theorem home_master {m : Nat} : c.home = some (.master m) ↔ c.slave = true ∧ c.master = some m := by
  rw [home]
  cases c.slave with
  | true =>
    cases c.master with
    | none => exact iff_of_false (fun same => by cases same) fun both => by cases both.2
    | some n =>
      rw [if_pos rfl, and_iff_right rfl]
      constructor
      · intro same
        cases same
        rfl
      · intro same
        cases same
        rfl
  | false =>
    rw [if_neg Bool.false_ne_true]
    apply iff_of_false
    · intro same
      obtain ⟨_, -, other⟩ := Option.map_eq_some_iff.mp same
      cases other
    · exact fun both => by cases both.1

theorem home_slaves : c.home = some .slaves ↔ c.slave = true ∧ c.master = none := by
  rw [home]
  cases c.slave with
  | true =>
    cases c.master with
    | none => exact iff_of_true rfl ⟨rfl, rfl⟩
    | some m => exact iff_of_false (fun same => by cases same) fun both => by cases both.2
  | false =>
    rw [if_neg Bool.false_ne_true]
    apply iff_of_false
    · intro same
      obtain ⟨_, -, other⟩ := Option.map_eq_some_iff.mp same
      cases other
    · exact fun both => by cases both.1

theorem counts_still (still : c.running = false) (t : Nat) : c.counts t = 0 :=
  if_neg fun both => Bool.false_ne_true (still.symm.trans both.2)

theorem counts_start {start : Bool} (t : Nat) : ({ c with start := start } : Core).counts t = c.counts t := rfl

theorem master_iff {t u : Nat} (master : c.Master t) : c.Master u ↔ t = u := by
  constructor
  · intro other
    exact Option.some.inj (master.2.2.symm.trans other.2.2)
  · rintro rfl
    exact master

theorem counts_run {t : Nat} (master : c.Master t) (runs : c.running = true) (u : Nat) :
    c.counts u = if t = u then 1 else 0 := if_congr ((and_iff_left runs).trans (master_iff master)) rfl rfl

theorem counts_slave (slave : c.slave = true) (t : Nat) : c.counts t = 0 :=
  if_neg fun both => Bool.false_ne_true (both.1.2.1.symm.trans slave)

end Core

theorem countP_erase_add {p : Nat → Bool} (l : List Nat) (i : Nat) :
    l.countP p = (l.erase i).countP p + if i ∈ l ∧ p i = true then 1 else 0 := by
  by_cases inside : i ∈ l
  · rw [(List.perm_cons_erase inside).countP_eq, List.countP_cons, if_congr (and_iff_right inside) rfl rfl]
  · rw [List.erase_of_not_mem inside, if_neg fun both => inside both.1]
    exact (Nat.add_zero _).symm

structure Running (c : Nat → Core) (running : Nat → Int) (active : Lists ActiveHead Nat) : Prop where
  unbroken : active.broken = false
  count : ∀ t, running t = (active.items (.timer t)).countP fun i => (c i).running
  masters : ∀ t i, active.place i = .on (.timer t) ↔ (c i).Master t ∧ ((c i).running = true ∨ (c i).start = true)
  slaves : ∀ m j, active.place j = .on (.master m) ↔ (c j).Follows m
  sound : ∀ j, (c j).live = true → (c j).slave = true → active.place j ≠ .deleted

namespace Running

variable {c : Nat → Core} {running running' : Nat → Int} {active active' : Lists ActiveHead Nat} {i t : Nat} {x : Core}

theorem split (inv : Running c running active) (i t : Nat) :
    running t = ((active.items (.timer t)).erase i).countP (fun j => (c j).running) + (c i).counts t := by
  have here : (c i).Master t ∧ (c i).running = true ↔ i ∈ active.items (.timer t) ∧ (c i).running = true := by
    rw [active.linked, inv.masters]
    constructor
    · intro both
      exact ⟨⟨both.1, .inl both.2⟩, both.2⟩
    · intro both
      exact ⟨both.1.1, both.2⟩
  rw [inv.count t, countP_erase_add _ i, Core.counts, if_congr here rfl rfl]
  exact Int.natCast_add _ _

theorem change (inv : Running c running active) (unbroken : active'.broken = false)
    (others : ∀ j, j ≠ i → active'.place j = active.place j)
    (count : ∀ t, running' t = running t - (c i).counts t + x.counts t)
    (masters : ∀ t, active'.place i = .on (.timer t) ↔ x.Master t ∧ (x.running = true ∨ x.start = true))
    (slaves : ∀ m, active'.place i = .on (.master m) ↔ x.Follows m)
    (sound : x.live = true → x.slave = true → active'.place i ≠ .deleted) :
    Running (Function.update c i x) running' active' := by
  have at_i (j : Nat) (same : j = i) : Function.update c i x j = x := by rw [same, Function.update_self]
  have at_j (j : Nat) (other : j ≠ i) : Function.update c i x j = c j := Function.update_of_ne other x c
  have masters' (t j : Nat) : active'.place j = .on (.timer t) ↔ (Function.update c i x j).Master t ∧
      ((Function.update c i x j).running = true ∨ (Function.update c i x j).start = true) := by
    by_cases same : j = i
    · rw [at_i j same, same]
      exact masters t
    · rw [at_j j same, others j same]
      exact inv.masters t j
  refine ⟨unbroken, ?_, masters', ?_, ?_⟩
  · intro t
    have outside : ((active'.items (.timer t)).erase i).Perm ((active.items (.timer t)).erase i) := by
      rw [List.perm_ext_iff_of_nodup ((active'.nodup _).erase i) ((active.nodup _).erase i)]
      intro j
      rw [(active'.nodup _).mem_erase_iff, (active.nodup _).mem_erase_iff, active'.linked, active.linked]
      constructor
      · intro both
        exact ⟨both.1, (others j both.1).symm.trans both.2⟩
      · intro both
        exact ⟨both.1, (others j both.1).trans both.2⟩
    have apart : ((active'.items (.timer t)).erase i).countP (fun j => (Function.update c i x j).running) =
        ((active.items (.timer t)).erase i).countP (fun j => (c j).running) := by
      rw [outside.countP_eq]
      apply List.countP_congr
      intro j inside
      rw [at_j j ((active.nodup _).mem_erase_iff.mp inside).1]
    have here : x.Master t ∧ x.running = true ↔ i ∈ active'.items (.timer t) ∧ x.running = true := by
      rw [active'.linked, masters]
      constructor
      · intro both
        exact ⟨⟨both.1, .inl both.2⟩, both.2⟩
      · intro both
        exact ⟨both.1.1, both.2⟩
    rw [count, inv.split i t, ← apart, countP_erase_add (active'.items (.timer t)) i, at_i i rfl, if_congr here.symm rfl rfl]
    show _ = ((_ + x.counts t : Nat) : Int)
    omega
  · intro m j
    by_cases same : j = i
    · rw [at_i j same, same]
      exact slaves m
    · rw [at_j j same, others j same]
      exact inv.slaves m j
  · intro j
    by_cases same : j = i
    · rw [at_i j same, same]
      exact sound
    · rw [at_j j same, others j same]
      exact inv.sound j

theorem alone (inv : Running c running active) (live : (c i).live = true) (slave : (c i).slave = true)
    (idle : ∀ m, ¬ (c i).Follows m) : active.place i = .alone := by
  cases place : active.place i with
  | alone => rfl
  | deleted => exact absurd place (inv.sound i live slave)
  | on head =>
    cases head with
    | timer t => exact absurd (((inv.masters t i).mp place).1.2.1.symm.trans slave) Bool.false_ne_true
    | master m => exact absurd ((inv.slaves m i).mp place) (idle m)

theorem changeSlave (inv : Running c running active) (slave : (c i).slave = true) (slave' : x.slave = true)
    (unbroken : active'.broken = false) (others : ∀ j, j ≠ i → active'.place j = active.place j)
    (slaves : ∀ m, active'.place i = .on (.master m) ↔ x.Follows m) (timers : ∀ t, active'.place i ≠ .on (.timer t))
    (sound : active'.place i ≠ .deleted) : Running (Function.update c i x) running active' := by
  apply inv.change unbroken others _ _ slaves fun _ _ => sound
  · intro t
    rw [Core.counts_slave slave, Core.counts_slave slave']
    exact (Int.sub_add_cancel _ _).symm
  · intro t
    apply iff_of_false (timers t)
    intro both
    exact Bool.false_ne_true (both.1.2.1.symm.trans slave')

theorem changeIdle (inv : Running c running active) (live : (c i).live = true) (slave : (c i).slave = true)
    (idle : ∀ m, ¬ (c i).Follows m) (slave' : x.slave = true) (idle' : ∀ m, ¬ x.Follows m) :
    Running (Function.update c i x) running active := by
  have place := inv.alone live slave idle
  apply inv.changeSlave slave slave' inv.unbroken fun _ _ => rfl
  · intro m
    rw [place]
    apply iff_of_false _ (idle' m)
    intro same
    cases same
  · intro t
    rw [place]
    intro same
    cases same
  · rw [place]
    intro same
    cases same

theorem new (inv : Running c running active) (dead : (c i).live = false) (place : active.place i = .alone)
    (still : x.running = false) (waits : x.start = false) : Running (Function.update c i x) running active := by
  have off (h : ActiveHead) : active.place i ≠ .on h := by
    rw [place]
    exact fun same => by cases same
  apply inv.change inv.unbroken fun _ _ => rfl
  · intro t
    have gone : (c i).counts t = 0 := if_neg fun both => Bool.false_ne_true (dead.symm.trans both.1.1)
    rw [Core.counts_still still, gone]
    omega
  · intro t
    apply iff_of_false (off _)
    rintro ⟨-, runs | starts⟩
    · exact Bool.false_ne_true (still.symm.trans runs)
    · exact Bool.false_ne_true (waits.symm.trans starts)
  · intro m
    exact iff_of_false (off _) fun follows => Bool.false_ne_true (still.symm.trans follows.2.2.1)
  · rw [place]
    exact fun _ _ same => by cases same

theorem free (inv : Running c running active) (still : (c i).running = false)
    (waits : (c i).slave = false → (c i).start = false) (dead : x.live = false) : Running (Function.update c i x) running active := by
  apply inv.change inv.unbroken fun _ _ => rfl
  · intro t
    have gone : x.counts t = 0 := if_neg fun both => Bool.false_ne_true (dead.symm.trans both.1.1)
    rw [Core.counts_still still, gone]
    omega
  · intro t
    rw [inv.masters]
    apply iff_of_false
    · rintro ⟨master, runs | starts⟩
      · exact Bool.false_ne_true (still.symm.trans runs)
      · exact Bool.false_ne_true ((waits master.2.1).symm.trans starts)
    · exact fun both => Bool.false_ne_true (dead.symm.trans both.1.1)
  · intro m
    rw [inv.slaves]
    apply iff_of_false
    · exact fun follows => Bool.false_ne_true (still.symm.trans follows.2.2.1)
    · exact fun follows => Bool.false_ne_true (dead.symm.trans follows.1)
  · exact fun live => absurd (dead.symm.trans live) Bool.false_ne_true

theorem follow {m : Nat} (inv : Running c running active) (live : (c i).live = true) (slave : (c i).slave = true)
    (idle : ∀ m, ¬ (c i).Follows m) (follows : x.Follows m) :
    Running (Function.update c i x) running (active.addTail i (.master m)) := by
  have free := Lists.isOn_of_alone (inv.alone live slave idle)
  have place : (active.addTail i (.master m)).place i = .on (.master m) := by
    rw [Lists.place_addTail free, Function.update_self]
  apply inv.changeSlave slave follows.2.1
  · rw [Lists.broken_addTail free]
    exact inv.unbroken
  · intro j other
    rw [Lists.place_addTail free, Function.update_of_ne other]
  · intro n
    rw [place]
    constructor
    · intro same
      cases same
      exact follows
    · intro other
      rw [Option.some.inj (follows.2.2.2.symm.trans other.2.2.2)]
  · intro t
    rw [place]
    intro same
    cases same
  · rw [place]
    intro same
    cases same

end Running

structure Acked (c : Nat → Core) (ack : Lists AckHead Nat) : Prop where
  unbroken : ack.broken = false
  sound : ∀ i, ack.place i ≠ .deleted
  live : ∀ i h, ack.place i = .on h → (c i).live = true

structure Opened (c : Nat → Core) (opened : Lists OpenHead Nat) : Prop where
  unbroken : opened.broken = false
  homes : ∀ i h, opened.place i = .on h ↔ (c i).live = true ∧ (c i).home = some h

section

variable {c : Nat → Core} {i : Nat} {x : Core}

theorem Acked.change {ack ack' : Lists AckHead Nat} (inv : Acked c ack) (unbroken : ack'.broken = false)
    (others : ∀ j, j ≠ i → ack'.place j = ack.place j) (sound : ack'.place i ≠ .deleted)
    (live : ∀ h, ack'.place i = .on h → x.live = true) : Acked (Function.update c i x) ack' := by
  refine ⟨unbroken, ?_, ?_⟩
  · intro j
    by_cases same : j = i
    · rw [same]
      exact sound
    · rw [others j same]
      exact inv.sound j
  · intro j h
    by_cases same : j = i
    · rw [same, Function.update_self]
      exact live h
    · rw [others j same, Function.update_of_ne same]
      exact inv.live j h

theorem Acked.keep {ack : Lists AckHead Nat} (inv : Acked c ack) (live : x.live = (c i).live) :
    Acked (Function.update c i x) ack := by
  apply inv.change inv.unbroken (fun _ _ => rfl) (inv.sound i)
  intro h there
  rw [live]
  exact inv.live i h there

theorem Opened.change {opened opened' : Lists OpenHead Nat} (inv : Opened c opened)
    (unbroken : opened'.broken = false) (others : ∀ j, j ≠ i → opened'.place j = opened.place j)
    (here : ∀ h, opened'.place i = .on h ↔ x.live = true ∧ x.home = some h) : Opened (Function.update c i x) opened' := by
  refine ⟨unbroken, ?_⟩
  intro j h
  by_cases same : j = i
  · rw [same, Function.update_self]
    exact here h
  · rw [others j same, Function.update_of_ne same]
    exact inv.homes j h

theorem Opened.keep {opened : Lists OpenHead Nat} (inv : Opened c opened) (live : x.live = (c i).live)
    (home : x.home = (c i).home) : Opened (Function.update c i x) opened := by
  apply inv.change inv.unbroken fun _ _ => rfl
  intro h
  rw [live, home]
  exact inv.homes i h

theorem Opened.move {opened : Lists OpenHead Nat} {h g : OpenHead} (inv : Opened c opened) (live : (c i).live = true)
    (old : (c i).home = some g) (alive : x.live = true) (home : x.home = some h) :
    Opened (Function.update c i x) (opened.moveTail i h) := by
  have sound : opened.place i ≠ .deleted := by
    rw [(inv.homes i g).mpr ⟨live, old⟩]
    exact fun same => by cases same
  apply inv.change
  · rw [Lists.broken_moveTail sound]
    exact inv.unbroken
  · intro j other
    rw [Lists.place_moveTail sound, Function.update_of_ne other]
  · intro k
    rw [Lists.place_moveTail sound, Function.update_self, home, and_iff_right alive]
    constructor
    · intro same
      rw [Place.on.inj same]
    · intro same
      rw [Option.some.inj same]

theorem Opened.mem {opened : Lists OpenHead Nat} {h : OpenHead} (inv : Opened c opened) :
    i ∈ opened.items h ↔ (c i).live = true ∧ (c i).home = some h := by
  rw [opened.linked, inv.homes]

end

end AlsaDriver.Timer
