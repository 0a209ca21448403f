import Mathlib.Data.List.Perm.Subperm
import AlsaDriver.Seq.CellFree

namespace AlsaDriver.Seq

open Chains Function SeqMemory

inductive Place where
  | free (pool : Nat)
  | tickq (queue : Nat)
  | timeq (queue : Nat)
  | fifo (client : Nat)
  | behind (cell : SeqCell)
  deriving DecidableEq

def Place.Holds : Place → Prop
  | free _ | behind _ => False
  | tickq _ | timeq _ | fifo _ => True

def Place.Fits : Place → SeqCell → Prop
  | free id, c => c.pool = id
  | behind cell, c => c.pool = cell.pool
  | _, _ => True

/-- The cells place by place, those in the hands of a function with what is behind them, and those that
    a function has just taken from a pool or is about to give back. -/
structure Ledger where
  head : Place → Option SeqCell
  lists : Place → List SeqCell
  hand : List SeqCell
  spare : List SeqCell

namespace Ledger

variable (g : Ledger) (c : SeqCell)

def Queued : Prop := ∃ p : Place, p.Holds ∧ c ∈ g.lists p

def Held : Prop := c ∈ g.hand ∨ g.Queued c

def Known : Prop := (∃ p, c ∈ g.lists p) ∨ c ∈ g.hand ∨ c ∈ g.spare

def move (p : Place) (h : Option SeqCell) (l hand spare : List SeqCell) : Ledger where
  head := update g.head p h
  lists := update g.lists p l
  hand := hand
  spare := spare

variable {g c} {p q : Place} {h : Option SeqCell} {l hand spare : List SeqCell}

theorem mem_move : c ∈ (g.move p h l hand spare).lists q ↔ q = p ∧ c ∈ l ∨ q ≠ p ∧ c ∈ g.lists q := by
  show c ∈ update g.lists p l q ↔ _
  by_cases same : q = p
  · subst same
    simp
  · simp [same]

theorem move_lists_of_ne (other : q ≠ p) : (g.move p h l hand spare).lists q = g.lists q := update_of_ne other ..

theorem move_head_of_ne (other : q ≠ p) : (g.move p h l hand spare).head q = g.head q := update_of_ne other ..

@[simp] theorem move_lists_self : (g.move p h l hand spare).lists p = l := update_self ..

@[simp] theorem move_head_self : (g.move p h l hand spare).head p = h := update_self ..

theorem queued_move (plain : ¬ p.Holds) : (g.move p h l hand spare).Queued c ↔ g.Queued c := by
  constructor
  · rintro ⟨q, holds, inside⟩
    rcases mem_move.mp inside with ⟨same, -⟩ | ⟨-, there⟩
    · exact absurd (same ▸ holds) plain
    · exact ⟨q, holds, there⟩
  · rintro ⟨q, holds, inside⟩
    have other : q ≠ p := by
      rintro rfl
      exact plain holds
    exact ⟨q, holds, mem_move.mpr (Or.inr ⟨other, inside⟩)⟩

theorem held_move (plain : ¬ p.Holds) : (g.move p h l hand spare).Held c ↔ c ∈ hand ∨ g.Queued c :=
  or_congr Iff.rfl (queued_move plain)

theorem somewhere (p : Place) : (∃ q, c ∈ g.lists q) ↔ c ∈ g.lists p ∨ ∃ q, q ≠ p ∧ c ∈ g.lists q := by
  constructor
  · rintro ⟨q, inside⟩
    by_cases same : q = p
    · exact Or.inl (same ▸ inside)
    · exact Or.inr ⟨q, same, inside⟩
  · rintro (inside | ⟨q, -, inside⟩)
    · exact ⟨p, inside⟩
    · exact ⟨q, inside⟩

theorem somewhere_move : (∃ q, c ∈ (g.move p h l hand spare).lists q) ↔ c ∈ l ∨ ∃ q, q ≠ p ∧ c ∈ g.lists q := by
  rw [somewhere p, mem_move]
  apply or_congr
  · simp
  · refine exists_congr fun q => and_congr_right fun other => ?_
    rw [mem_move]
    simp [other]

end Ledger

/-- The cells of the pools in `T` are each in one place. -/
structure Owned (T : Nat → Prop) (m : SeqMemory) (g : Ledger) : Prop where
  located : Located m.next g.head g.lists
  tracked : ∀ c, g.Known c → T c.pool
  free : ∀ id, T id → g.head (.free id) = (m.pool id).free
  fits : ∀ p c, c ∈ g.lists p → p.Fits c
  held : ∀ c, g.Held c → g.head (.behind c) = m.heldPtr c
  idle : ∀ c, ¬ g.Held c → g.lists (.behind c) = []
  loose : ∀ c, c ∈ g.hand ∨ c ∈ g.spare → Loose g.lists c
  apart : (g.hand ++ g.spare).Nodup
  known : ∀ c, T c.pool → (g.Known c ↔ c.index < (m.pool c.pool).totalElements)
  counter : ∀ id, T id → (m.pool id).counter + (g.lists (.free id)).length = (m.pool id).totalElements

structure SameBut (id : Nat) (g g' : Ledger) : Prop where
  hand : g'.hand = g.hand
  head : ∀ p, p ≠ .free id → g'.head p = g.head p
  lists : ∀ p, p ≠ .free id → g'.lists p = g.lists p

namespace Owned

variable {T : Nat → Prop} {m m' : SeqMemory} {g : Ledger} {c d : SeqCell} {id : Nat} {hand spare : List SeqCell}

theorem not_held_of_free (owned : Owned T m g) (inside : c ∈ g.lists (.free id)) : ¬ g.Held c := by
  rintro (hand | ⟨p, holds, there⟩)
  · exact owned.loose c (Or.inl hand) _ inside
  · have same := owned.located.apart p (.free id) c there inside
    subst same
    exact holds

theorem not_held_of_spare (owned : Owned T m g) (inside : c ∈ g.spare) : ¬ g.Held c := by
  rintro (hand | ⟨p, -, there⟩)
  · exact (List.nodup_append.mp owned.apart).2.2 c hand c inside rfl
  · exact owned.loose c (Or.inr inside) p there

theorem no_head (owned : Owned T m g) (idle : ¬ g.Held c) : g.head (.behind c) = none := by
  have chain := owned.located.chain (.behind c)
  rw [owned.idle c idle] at chain
  exact chain

theorem transfer (owned : Owned T m g) {p : Place} {h : Option SeqCell} {l : List SeqCell}
    (located : Located m'.next (update g.head p h) (update g.lists p l))
    (moved : ∀ d, d ∈ l ∨ d ∈ hand ∨ d ∈ spare ↔ d ∈ g.lists p ∨ d ∈ g.hand ∨ d ∈ g.spare)
    (out : ∀ d, d ∈ hand ∨ d ∈ spare → d ∉ l) (apart : (hand ++ spare).Nodup) (fits : ∀ d ∈ l, p.Fits d)
    (total : ∀ id, (m'.pool id).totalElements = (m.pool id).totalElements)
    (free : ∀ id, T id → update g.head p h (.free id) = (m'.pool id).free)
    (held : ∀ d, (g.move p h l hand spare).Held d → update g.head p h (.behind d) = m'.heldPtr d)
    (idle : ∀ d, ¬ (g.move p h l hand spare).Held d → update g.lists p l (.behind d) = [])
    (counter : ∀ id, T id →
      (m'.pool id).counter + (update g.lists p l (.free id)).length = (m'.pool id).totalElements) :
    Owned T m' (g.move p h l hand spare) := by
  have known (d : SeqCell) : (g.move p h l hand spare).Known d ↔ g.Known d := by
    show (∃ q, d ∈ (g.move p h l hand spare).lists q) ∨ d ∈ hand ∨ d ∈ spare ↔
      (∃ q, d ∈ g.lists q) ∨ d ∈ g.hand ∨ d ∈ g.spare
    rw [Ledger.somewhere_move, Ledger.somewhere p]
    have here := moved d
    generalize (∃ q, q ≠ p ∧ d ∈ g.lists q) = elsewhere
    tauto
  refine ⟨located, ?_, free, ?_, held, idle, ?_, apart, ?_, counter⟩
  · exact fun d inside => owned.tracked d ((known d).mp inside)
  · intro q d inside
    rcases Ledger.mem_move.mp inside with ⟨same, here⟩ | ⟨-, there⟩
    · rw [same]
      exact fits d here
    · exact owned.fits q d there
  · intro d taken q inside
    rcases Ledger.mem_move.mp inside with ⟨-, here⟩ | ⟨other, there⟩
    · exact out d taken here
    · rcases (moved d).mp (Or.inr taken) with place | before
      · exact other (owned.located.apart q p d there place)
      · exact owned.loose d before q there
  · intro d tracked
    rw [known d, owned.known d tracked, total]

theorem sndSeqCellAlloc_ok (call : m.sndSeqCellAlloc id = .ok (c, m')) :
    (m.pool id).free = some c ∧
      m' = (m.setPool id { m.pool id with free := m.next c, counter := (m.pool id).counter + 1 }).setNext c none := by
  simp only [sndSeqCellAlloc] at call
  split at call
  · cases call
  · split at call
    · cases call
    · split at call
      · cases call
      · rename_i cell first
        cases call
        exact ⟨first, rfl⟩

theorem front_of_free (owned : Owned T m g) (tracked : T id) (first : (m.pool id).free = some c) :
    ∃ rest, g.lists (.free id) = c :: rest := by
  have chain := owned.located.chain (.free id)
  rw [owned.free id tracked, first] at chain
  cases front : g.lists (.free id) with
  | nil =>
    rw [front] at chain
    cases chain
  | cons d rest =>
    rw [front] at chain
    cases chain.1
    exact ⟨rest, rfl⟩

theorem update_pool {A : Type*} (field : SndSeqPool → A) {pool : SndSeqPool} (same : field pool = field (m.pool id))
    (id' : Nat) : field (update m.pool id pool id') = field (m.pool id') := by
  by_cases here : id' = id
  · subst here
    rw [update_self, same]
  · rw [update_of_ne here]

theorem free_ne {id' : Nat} (other : id' ≠ id) : Place.free id' ≠ .free id := fun same => other (Place.free.inj same)

theorem alloc (owned : Owned T m g) (tracked : T id) (call : m.sndSeqCellAlloc id = .ok (c, m')) :
    ∃ rest, g.lists (.free id) = c :: rest ∧
      Owned T m' (g.move (.free id) (m.next c) rest g.hand (c :: g.spare)) ∧
      m'.event = m.event ∧ m'.chunk = m.chunk ∧ m'.next = update m.next c none := by
  obtain ⟨first, after⟩ := sndSeqCellAlloc_ok call
  subst after
  obtain ⟨rest, front⟩ := owned.front_of_free tracked first
  have here : c ∈ g.lists (.free id) := front ▸ List.mem_cons_self ..
  have chain := owned.located.chain (.free id)
  rw [front] at chain
  obtain ⟨located, -⟩ := owned.located.pop front none
  have fresh := (List.nodup_cons.mp chain.nodup).1
  have plain : ¬ (Place.free id).Holds := fun holds => holds
  refine ⟨rest, front, owned.transfer located ?_ ?_ ?_ ?_ ?_ ?_ ?_ ?_ ?_, rfl, rfl, rfl⟩
  · intro d
    rw [front, List.mem_cons, List.mem_cons]
    tauto
  · rintro d taken inside
    have there : d ∈ g.lists (.free id) := front ▸ List.mem_cons_of_mem _ inside
    rcases taken with hand | spare
    · exact owned.loose d (Or.inl hand) _ there
    · rcases List.mem_cons.mp spare with same | old
      · exact fresh (same ▸ inside)
      · exact owned.loose d (Or.inr old) _ there
  · apply List.nodup_middle.mpr
    apply List.nodup_cons.mpr
    exact ⟨fun inside => owned.loose c (List.mem_append.mp inside) _ here, owned.apart⟩
  · intro d inside
    exact owned.fits (.free id) d (front ▸ List.mem_cons_of_mem _ inside)
  · exact update_pool SndSeqPool.totalElements rfl
  · intro id' tracked'
    show _ = (update m.pool id _ id').free
    by_cases same : id' = id
    · subst same
      rw [update_self, update_self]
    · rw [update_of_ne (free_ne same), update_of_ne same]
      exact owned.free id' tracked'
  · intro d isHeld
    rw [update_of_ne (by simp)]
    exact owned.held d ((Ledger.held_move plain).mp isHeld)
  · intro d notHeld
    rw [update_of_ne (by simp)]
    exact owned.idle d fun isHeld => notHeld ((Ledger.held_move plain).mpr isHeld)
  · intro id' tracked'
    have count := owned.counter id' tracked'
    show (update m.pool id _ id').counter + _ = (update m.pool id _ id').totalElements
    by_cases same : id' = id
    · subst same
      rw [front, List.length_cons] at count
      rw [update_self, update_self]
      dsimp only
      omega
    · rw [update_of_ne (free_ne same), update_of_ne same]
      exact count

theorem spare_known (inside : c ∈ g.spare) : g.Known c := Or.inr (Or.inr inside)

theorem hand_not_spare (owned : Owned T m g) (inside : c ∈ g.hand) : c ∉ g.spare :=
  fun there => (List.nodup_append.mp owned.apart).2.2 c inside c there rfl

theorem length_le (owned : Owned T m g) {l : List SeqCell} (nodup : l.Nodup) (known : ∀ c ∈ l, g.Known c)
    (home : ∀ c ∈ l, c.pool = id) : l.length ≤ (m.pool id).totalElements := by
  have indices : (l.map SeqCell.index).Nodup := by
    apply List.Nodup.map_on _ nodup
    intro c first d second same
    cases c
    cases d
    have left := home _ first
    have right := home _ second
    simp only at left right same
    rw [left, right, same]
  have bounded : (l.map SeqCell.index) ⊆ List.range (m.pool id).totalElements := by
    intro i inside
    obtain ⟨c, among, rfl⟩ := List.mem_map.mp inside
    have here := known c among
    have below := (owned.known c (owned.tracked c here)).mp here
    rw [home c among] at below
    exact List.mem_range.mpr below
  have count := (List.Nodup.subperm indices bounded).length_le
  simpa using count

theorem write (owned : Owned T m g) (first : g.spare = c :: spare) (ev : SndSeqEvent)
    (alone : (m.setEvent c ev).heldPtr c = none) :
    Owned T (m.setEvent c ev) (g.move (.behind c) none [] (c :: g.hand) spare) := by
  have mine : c ∈ g.spare := first ▸ List.mem_cons_self ..
  have idle := owned.not_held_of_spare mine
  have plain : ¬ (Place.behind c).Holds := fun holds => holds
  have sameHead : update g.head (.behind c) none = g.head := by rw [← owned.no_head idle, update_eq_self]
  have sameLists : update g.lists (.behind c) [] = g.lists := by rw [← owned.idle c idle, update_eq_self]
  refine owned.transfer ?_ ?_ ?_ ?_ ?_ (fun _ => rfl) ?_ ?_ ?_ ?_
  · rw [sameHead, sameLists]
    exact owned.located
  · intro d
    rw [first, owned.idle c idle, List.mem_cons, List.mem_cons]
    tauto
  · exact fun d _ => List.not_mem_nil
  · have apart := owned.apart
    rw [first] at apart
    exact List.nodup_middle.mp apart
  · exact fun d inside => absurd inside List.not_mem_nil
  · intro id tracked
    rw [sameHead]
    exact owned.free id tracked
  · intro d held
    rw [sameHead]
    by_cases same : d = c
    · subst same
      rw [alone, owned.no_head idle]
    · have before : g.Held d := by
        rcases (Ledger.held_move plain).mp held with hand | queued
        · exact Or.inl ((List.mem_cons.mp hand).resolve_left same)
        · exact Or.inr queued
      rw [owned.held d before]
      exact (heldPtr_congr (update_of_ne same ..)).symm
  · intro d notHeld
    rw [sameLists]
    apply owned.idle d
    intro held
    apply notHeld
    apply (Ledger.held_move plain).mpr
    exact held.imp (List.mem_cons_of_mem c) id
  · intro id tracked
    rw [sameLists]
    exact owned.counter id tracked

theorem congr (owned : Owned T m g) (next : m'.next = m.next) (event : m'.event = m.event) (pool : m'.pool = m.pool) :
    Owned T m' g := by
  have ptr (c : SeqCell) : m'.heldPtr c = m.heldPtr c := heldPtr_congr (by rw [event])
  refine ⟨?_, owned.tracked, ?_, owned.fits, ?_, owned.idle, owned.loose, owned.apart, ?_, ?_⟩
  · rw [next]
    exact owned.located
  · rw [pool]
    exact owned.free
  · intro c held
    rw [ptr]
    exact owned.held c held
  · rw [pool]
    exact owned.known
  · rw [pool]
    exact owned.counter

theorem frame (owned : Owned T m g) (next : ∀ c, g.Known c → m'.next c = m.next c)
    (event : ∀ c, g.Held c → m'.event c = m.event c) (pool : ∀ id, T id → m'.pool id = m.pool id) : Owned T m' g := by
  refine ⟨⟨fun p => ?_, owned.located.apart⟩, owned.tracked, ?_, owned.fits, ?_, owned.idle, owned.loose, owned.apart, ?_, ?_⟩
  · exact (owned.located.chain p).frame fun c inside => next c (Or.inl ⟨p, inside⟩)
  · intro id tracked
    rw [pool id tracked]
    exact owned.free id tracked
  · intro c held
    rw [owned.held c held, heldPtr_congr (event c held)]
  · intro c tracked
    rw [pool c.pool tracked]
    exact owned.known c tracked
  · intro id tracked
    rw [pool id tracked]
    exact owned.counter id tracked

variable (m') in
theorem attach (owned : Owned T m g) (h : Option SeqCell) (mine : c ∈ g.hand) (first : g.spare = d :: spare)
    (kin : d.pool = c.pool)
    (located : Located m'.next (update g.head (.behind c) h) (update g.lists (.behind c) (g.lists (.behind c) ++ [d])))
    (events : ∀ e, e ≠ c → m'.event e = m.event e) (pool : m'.pool = m.pool) (ptr : m'.heldPtr c = h) :
    Owned T m' (g.move (.behind c) h (g.lists (.behind c) ++ [d]) g.hand spare) := by
  have plain : ¬ (Place.behind c).Holds := fun holds => holds
  have apart := owned.apart
  rw [first] at apart
  have new : d ∈ g.spare := first ▸ List.mem_cons_self ..
  refine owned.transfer located ?_ ?_ ?_ ?_ (fun _ => by rw [pool]) ?_ ?_ ?_ ?_
  · intro e
    rw [first, List.mem_append, List.mem_singleton, List.mem_cons]
    tauto
  · intro e taken inside
    rcases List.mem_append.mp inside with old | same
    · apply owned.loose e _ _ old
      exact taken.imp id fun spare => first ▸ List.mem_cons_of_mem _ spare
    · rw [List.mem_singleton.mp same] at taken
      rw [List.nodup_middle] at apart
      exact (List.nodup_cons.mp apart).1 (List.mem_append.mpr taken)
  · rw [List.nodup_middle] at apart
    exact (List.nodup_cons.mp apart).2
  · intro e inside
    rcases List.mem_append.mp inside with old | same
    · exact owned.fits (.behind c) e old
    · rw [List.mem_singleton.mp same]
      exact kin
  · intro id tracked
    rw [update_of_ne (by simp), pool]
    exact owned.free id tracked
  · intro e held
    by_cases same : e = c
    · subst same
      rw [update_self, ptr]
    · rw [update_of_ne (fun equal => same (Place.behind.inj equal)), heldPtr_congr (events e same)]
      exact owned.held e ((Ledger.held_move plain).mp held)
  · intro e notHeld
    have before : ¬ g.Held e := fun held => notHeld ((Ledger.held_move plain).mpr held)
    have other : e ≠ c := by
      rintro rfl
      exact before (Or.inl mine)
    rw [update_of_ne (fun equal => other (Place.behind.inj equal))]
    exact owned.idle e before
  · intro id tracked
    rw [update_of_ne (by simp), pool]
    exact owned.counter id tracked

theorem detach (owned : Owned T m g) (mine : g.hand = c :: hand) :
    Owned T m (g.move (.behind c) none [] hand (c :: g.lists (.behind c) ++ g.spare)) := by
  have plain : ¬ (Place.behind c).Holds := fun holds => holds
  have apart := owned.apart
  rw [mine] at apart
  have dataLoose (d : SeqCell) (behind : d ∈ g.lists (.behind c)) : d ∉ g.hand ++ g.spare := fun taken =>
    owned.loose d (List.mem_append.mp taken) _ behind
  refine owned.transfer ?_ ?_ ?_ ?_ ?_ (fun _ => rfl) ?_ ?_ ?_ ?_
  · exact owned.located.rebuild rfl (fun d inside => absurd inside List.not_mem_nil) (fun _ _ _ => rfl)
  · intro d
    rw [mine]
    simp only [List.mem_append, List.mem_cons, List.not_mem_nil, false_or]
    tauto
  · exact fun d _ => List.not_mem_nil
  · rw [mine] at dataLoose
    rw [List.cons_append, List.nodup_middle, List.nodup_cons, ← List.append_assoc]
    refine ⟨?_, ?_⟩
    · simp only [List.mem_append]
      rintro ((hand | behind) | spare)
      · exact (List.nodup_cons.mp apart).1 (List.mem_append_left _ hand)
      · exact dataLoose c behind (by simp)
      · exact (List.nodup_cons.mp apart).1 (List.mem_append_right _ spare)
    · have rest := (List.nodup_cons.mp apart).2
      obtain ⟨hands, spares, cross⟩ := List.nodup_append.mp rest
      rw [List.append_assoc, List.nodup_append, List.nodup_append]
      refine ⟨hands, ⟨(owned.located.chain (.behind c)).nodup, spares, ?_⟩, ?_⟩
      · rintro d behind e spare rfl
        exact dataLoose d behind (by simp [spare])
      · rintro d hand e inside rfl
        rcases List.mem_append.mp inside with behind | spare
        · exact dataLoose d behind (by simp [hand])
        · exact cross d hand d spare rfl
  · exact fun d inside => absurd inside List.not_mem_nil
  · intro id tracked
    rw [update_of_ne (by simp)]
    exact owned.free id tracked
  · intro d held
    have other : d ≠ c := by
      rintro rfl
      rcases (Ledger.held_move plain).mp held with hand | ⟨p, -, queued⟩
      · exact (List.nodup_cons.mp apart).1 (List.mem_append_left _ hand)
      · exact owned.loose d (Or.inl (by simp [mine])) p queued
    rw [update_of_ne (fun equal => other (Place.behind.inj equal))]
    apply owned.held d
    exact ((Ledger.held_move plain).mp held).imp (fun hand => mine ▸ List.mem_cons_of_mem _ hand) (fun queued => queued)
  · intro d notHeld
    by_cases same : d = c
    · rw [same, update_self]
    · rw [update_of_ne (fun equal => same (Place.behind.inj equal))]
      apply owned.idle d
      rintro (hand | queued)
      · rw [mine] at hand
        exact notHeld ((Ledger.held_move plain).mpr (Or.inl ((List.mem_cons.mp hand).resolve_left same)))
      · exact notHeld ((Ledger.held_move plain).mpr (Or.inr queued))
  · intro id tracked
    rw [update_of_ne (by simp)]
    exact owned.counter id tracked

theorem giveBack (owned : Owned T m g) (first : g.spare = c :: spare) :
    Owned T (m.freeCell c.pool c) (g.move (.free c.pool) (some c) (c :: g.lists (.free c.pool)) g.hand spare) := by
  have mine : c ∈ g.spare := first ▸ List.mem_cons_self ..
  have loose := owned.loose c (Or.inr mine)
  have tracked := owned.tracked c (spare_known mine)
  have plain : ¬ (Place.free c.pool).Holds := fun holds => holds
  have apart := owned.apart
  rw [first] at apart
  have located := owned.located.push loose (.free c.pool)
  rw [owned.free c.pool tracked] at located
  refine owned.transfer located ?_ ?_ ?_ ?_ ?_ ?_ ?_ ?_ ?_
  · intro d
    rw [first, List.mem_cons, List.mem_cons]
    tauto
  · intro d taken inside
    rcases List.mem_cons.mp inside with same | old
    · rw [same] at taken
      rw [List.nodup_middle] at apart
      exact (List.nodup_cons.mp apart).1 (List.mem_append.mpr taken)
    · apply owned.loose d _ _ old
      exact taken.imp id fun spare => first ▸ List.mem_cons_of_mem _ spare
  · rw [List.nodup_middle] at apart
    exact (List.nodup_cons.mp apart).2
  · intro d inside
    rcases List.mem_cons.mp inside with same | old
    · rw [same]
      exact (rfl : c.pool = c.pool)
    · exact owned.fits (.free c.pool) d old
  · exact update_pool SndSeqPool.totalElements rfl
  · intro id tracked'
    show _ = (update m.pool c.pool _ id).free
    by_cases same : id = c.pool
    · subst same
      rw [update_self, update_self]
    · rw [update_of_ne (free_ne same), update_of_ne same]
      exact owned.free id tracked'
  · intro d isHeld
    rw [update_of_ne (by simp)]
    exact owned.held d ((Ledger.held_move plain).mp isHeld)
  · intro d notHeld
    rw [update_of_ne (by simp)]
    exact owned.idle d fun isHeld => notHeld ((Ledger.held_move plain).mpr isHeld)
  · intro id tracked'
    have count := owned.counter id tracked'
    show (update m.pool c.pool _ id).counter + _ = (update m.pool c.pool _ id).totalElements
    by_cases same : id = c.pool
    · subst same
      have bound : (c :: g.lists (.free c.pool)).length ≤ (m.pool c.pool).totalElements := by
        apply owned.length_le
        · exact List.nodup_cons.mpr ⟨loose _, (owned.located.chain _).nodup⟩
        · intro d inside
          rcases List.mem_cons.mp inside with same | old
          · exact same ▸ spare_known mine
          · exact Or.inl ⟨_, old⟩
        · intro d inside
          rcases List.mem_cons.mp inside with same | old
          · rw [same]
          · exact owned.fits (.free c.pool) d old
      rw [List.length_cons] at bound
      rw [update_self, update_self]
      dsimp only
      rw [List.length_cons]
      omega
    · rw [update_of_ne (free_ne same), update_of_ne same]
      exact count

theorem giveBackChain {data : List SeqCell} {fuel : Nat} {p : Option SeqCell} (owned : Owned T m g)
    (first : g.spare = data ++ spare) (chain : Chain m.next p data) (home : ∀ d ∈ data, d.pool = id)
    (enough : data.length ≤ fuel) :
    ∃ g', Owned T (freeChain id fuel p m) g' ∧ SameBut id g g' ∧ g'.spare = spare := by
  induction data generalizing m g fuel p with
  | nil =>
    have none_ : p = none := chain
    subst none_
    exact ⟨g, by cases fuel <;> exact owned, ⟨rfl, fun _ _ => rfl, fun _ _ => rfl⟩, first⟩
  | cons c rest ih =>
    obtain ⟨here, later⟩ := chain
    subst here
    cases fuel with
    | zero => exact absurd enough (Nat.not_succ_le_zero _)
    | succ fuel =>
      have mine := home c (List.mem_cons_self ..)
      subst mine
      have fresh := (List.nodup_cons.mp (Chain.nodup ⟨rfl, later⟩ : (c :: rest).Nodup)).1
      have after : Chain (m.freeCell c.pool c).next (m.next c) rest := by
        apply later.frame
        intro e inside
        apply freeCell_next
        rintro rfl
        exact fresh inside
      obtain ⟨g', done, same, left⟩ := ih (owned.giveBack first) rfl after
        (fun d inside => home d (List.mem_cons_of_mem _ inside)) (Nat.le_of_succ_le_succ enough)
      refine ⟨g', done, ⟨same.hand, fun q other => ?_, fun q other => ?_⟩, left⟩
      · exact (same.head q other).trans (update_of_ne other ..)
      · exact (same.lists q other).trans (update_of_ne other ..)

theorem cellFree (owned : Owned T m g) (mine : g.hand = c :: hand) :
    ∃ g', Owned T (m.sndSeqCellFree c) g' ∧ g'.hand = hand ∧ g'.spare = g.spare ∧
      g'.head (.behind c) = none ∧ g'.lists (.behind c) = [] ∧
      ∀ p, p ≠ .free c.pool → p ≠ .behind c → g'.lists p = g.lists p ∧ g'.head p = g.head p := by
  have inHand : c ∈ g.hand := mine ▸ List.mem_cons_self ..
  have ptr := owned.held c (Or.inl inHand)
  have chain := owned.located.chain (.behind c)
  have away : c ∉ g.lists (.behind c) := owned.loose c (Or.inl inHand) _
  have kin : ∀ d ∈ g.lists (.behind c), d.pool = c.pool := owned.fits (.behind c)
  have enough : (g.lists (.behind c)).length ≤ (m.pool c.pool).totalElements :=
    owned.length_le chain.nodup (fun d inside => Or.inl ⟨_, inside⟩) kin
  have freed := (owned.detach mine).giveBack (List.cons_append ..)
  have after : Chain (m.freeCell c.pool c).next (m.heldPtr c) (g.lists (.behind c)) := by
    rw [← ptr]
    apply chain.frame
    intro e inside
    apply freeCell_next
    rintro rfl
    exact away inside
  obtain ⟨g', done, same, left⟩ := freed.giveBackChain rfl after kin enough
  rw [sndSeqCellFree_eq]
  refine ⟨g', done, same.hand, left, ?_, ?_, fun p other apart => ⟨?_, ?_⟩⟩
  · rw [same.head _ (by simp), Ledger.move_head_of_ne (by simp)]
    exact update_self ..
  · rw [same.lists _ (by simp), Ledger.move_lists_of_ne (by simp)]
    exact update_self ..
  · rw [same.lists p other, Ledger.move_lists_of_ne other, Ledger.move_lists_of_ne apart]
  · rw [same.head p other, Ledger.move_head_of_ne other, Ledger.move_head_of_ne apart]

theorem exchange (owned : Owned T m g) {p : Place} (holds : p.Holds) {h : Option SeqCell} {l : List SeqCell}
    (located : Located m'.next (update g.head p h) (update g.lists p l))
    (cells : ∀ d, d ∈ l ∨ d ∈ hand ↔ d ∈ g.lists p ∨ d ∈ g.hand) (out : ∀ d ∈ hand, d ∉ l)
    (apart : (hand ++ g.spare).Nodup) (event : m'.event = m.event) (pool : m'.pool = m.pool) :
    Owned T m' (g.move p h l hand g.spare) := by
  have held (d : SeqCell) : (g.move p h l hand g.spare).Held d ↔ g.Held d := by
    constructor
    · rintro (taken | ⟨q, holds', inside⟩)
      · exact ((cells d).mp (Or.inr taken)).elim (fun old => Or.inr ⟨p, holds, old⟩) Or.inl
      · rcases Ledger.mem_move.mp inside with ⟨-, here⟩ | ⟨-, there⟩
        · exact ((cells d).mp (Or.inl here)).elim (fun old => Or.inr ⟨p, holds, old⟩) Or.inl
        · exact Or.inr ⟨q, holds', there⟩
    · have back (mixed : d ∈ l ∨ d ∈ hand) : (g.move p h l hand g.spare).Held d :=
        mixed.elim (fun here => Or.inr ⟨p, holds, Ledger.mem_move.mpr (Or.inl ⟨rfl, here⟩)⟩) Or.inl
      rintro (taken | ⟨q, holds', inside⟩)
      · exact back ((cells d).mpr (Or.inr taken))
      · by_cases same : q = p
        · exact back ((cells d).mpr (Or.inl (same ▸ inside)))
        · exact Or.inr ⟨q, holds', Ledger.mem_move.mpr (Or.inr ⟨same, inside⟩)⟩
  have notFree (id : Nat) : Place.free id ≠ p := by
    rintro rfl
    exact holds
  have notBehind (d : SeqCell) : Place.behind d ≠ p := by
    rintro rfl
    exact holds
  refine owned.transfer located ?_ ?_ apart ?_ (fun _ => by rw [pool]) ?_ ?_ ?_ ?_
  · intro d
    rw [← or_assoc, cells, or_assoc]
  · rintro d (taken | spare) inside
    · exact out d taken inside
    · rcases (cells d).mp (Or.inl inside) with place | before
      · exact owned.loose d (Or.inr spare) p place
      · exact owned.hand_not_spare before spare
  · intro d _
    cases p <;> first | exact trivial | exact absurd holds id
  · intro id tracked
    rw [update_of_ne (notFree id), pool]
    exact owned.free id tracked
  · intro d isHeld
    have ptr : m'.heldPtr d = m.heldPtr d := heldPtr_congr (congrFun event d)
    rw [update_of_ne (notBehind d), ptr]
    exact owned.held d ((held d).mp isHeld)
  · intro d notHeld
    rw [update_of_ne (notBehind d)]
    exact owned.idle d fun isHeld => notHeld ((held d).mpr isHeld)
  · intro id tracked
    rw [update_of_ne (notFree id), pool]
    exact owned.counter id tracked

theorem put (owned : Owned T m g) {p : Place} (holds : p.Holds) {h : Option SeqCell} {l : List SeqCell}
    (mine : g.hand = c :: hand) (located : Located m'.next (update g.head p h) (update g.lists p l))
    (cells : ∀ d, d ∈ l ↔ d = c ∨ d ∈ g.lists p) (event : m'.event = m.event) (pool : m'.pool = m.pool) :
    Owned T m' (g.move p h l hand g.spare) := by
  have apart := owned.apart
  rw [mine] at apart
  refine owned.exchange holds located ?_ ?_ (List.nodup_cons.mp apart).2 event pool
  · intro d
    rw [mine, cells, List.mem_cons]
    tauto
  · intro d taken inside
    rcases (cells d).mp inside with same | old
    · rw [same] at taken
      exact (List.nodup_cons.mp apart).1 (List.mem_append_left _ taken)
    · exact owned.loose d (Or.inl (mine ▸ List.mem_cons_of_mem _ taken)) p old

theorem takeOut (owned : Owned T m g) {p : Place} (holds : p.Holds) {h : Option SeqCell} {l removed : List SeqCell}
    (located : Located m'.next (update g.head p h) (update g.lists p l)) (cells : (removed ++ l).Perm (g.lists p))
    (event : m'.event = m.event) (pool : m'.pool = m.pool) :
    Owned T m' (g.move p h l (removed ++ g.hand) g.spare) := by
  have nodup := cells.nodup_iff.mpr (owned.located.chain p).nodup
  obtain ⟨nodupRemoved, -, cross⟩ := List.nodup_append.mp nodup
  have split (d : SeqCell) : d ∈ removed ∨ d ∈ l ↔ d ∈ g.lists p := by
    rw [← List.mem_append]
    exact cells.mem_iff
  refine owned.exchange holds located ?_ ?_ ?_ event pool
  · intro d
    rw [← split d, List.mem_append]
    tauto
  · intro d taken inside
    rcases List.mem_append.mp taken with gone | before
    · exact cross d gone d inside rfl
    · exact owned.loose d (Or.inl before) p ((split d).mp (Or.inr inside))
  · rw [List.append_assoc]
    refine List.nodup_append.mpr ⟨nodupRemoved, owned.apart, ?_⟩
    rintro d gone e taken rfl
    exact owned.loose d (List.mem_append.mp taken) p ((split d).mp (Or.inl gone))

end Owned

end AlsaDriver.Seq
