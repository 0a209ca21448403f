import AlsaDriver.Card.Slots
import AlsaDriver.Lib.Runs

namespace AlsaDriver.Card

open Runs

def Allowed (idx : BitVec 32) (k : Nat) : Prop := k < 32 → idx.getLsbD k = true

namespace CardSystem

variable (cfg : CardConfig) (s : CardSystem)

def Accurate : Prop :=
  ∀ n, s.sndCardsLock n = true ↔ ∃ c card, s.card c = some card ∧ card.shutdown = false ∧ card.number = n

def Apart : Prop :=
  ∀ c d card card', s.card c = some card → s.card d = some card' → card.shutdown = false → card'.shutdown = false →
    card.number = card'.number → c = d

structure Inv : Prop where
  accurate : s.Accurate
  apart : s.Apart
  limit : s.sndEcardsLimit ≤ cfg.cards
  below : ∀ n, s.sndCardsLock n = true → (n : Int) < s.sndEcardsLimit
  fresh : ∀ c, s.next ≤ c → s.card c = none
  leaving : ∀ c card, s.card c = some card → card.freeOnLastClose = true ∨ card.freeing = true → card.shutdown = true

variable {cfg s}

theorem Inv.replace (inv : s.Inv cfg) {c : Nat} {o : Option SndCard}
    (kept : ∀ card', o = some card' → ∃ card, s.card c = some card ∧ card'.number = card.number ∧
      card'.shutdown = card.shutdown ∧ (card'.freeOnLastClose = true ∨ card'.freeing = true → card'.shutdown = true))
    (gone : o = none → ∀ card, s.card c = some card → card.shutdown = true) :
    { s with card := Function.update s.card c o }.Inv cfg := by
  have back (d : Nat) (card' : SndCard) (here : Function.update s.card c o d = some card') :
      ∃ card, s.card d = some card ∧ card'.number = card.number ∧ card'.shutdown = card.shutdown ∧
        (card'.freeOnLastClose = true ∨ card'.freeing = true → card'.shutdown = true) := by
    by_cases same : d = c
    · subst same
      rw [Function.update_self] at here
      exact kept card' here
    · rw [Function.update_of_ne same] at here
      exact ⟨card', here, rfl, rfl, inv.leaving d card' here⟩
  refine ⟨fun n => (inv.accurate n).trans ⟨?_, ?_⟩, fun d e card card' first second connected connected' numbers => ?_,
    inv.limit, inv.below, fun d above => ?_, fun d card here => ?_⟩
  · rintro ⟨d, card, here, connected, number⟩
    by_cases same : d = c
    · subst same
      cases replaced : o with
      | none => exact absurd (connected.symm.trans (gone replaced card here)) Bool.false_ne_true
      | some card' =>
        obtain ⟨old, there, same_number, same_shutdown, -⟩ := kept card' replaced
        obtain rfl := Option.some.inj (here.symm.trans there)
        exact ⟨d, card', Function.update_self .., same_shutdown.trans connected, same_number.trans number⟩
    · exact ⟨d, card, (Function.update_of_ne same ..).trans here, connected, number⟩
  · rintro ⟨d, card', here, connected, number⟩
    obtain ⟨card, there, same_number, same_shutdown, -⟩ := back d card' here
    exact ⟨d, card, there, same_shutdown.symm.trans connected, same_number.symm.trans number⟩
  · obtain ⟨old, there, number, shutdown, -⟩ := back d card first
    obtain ⟨old', there', number', shutdown', -⟩ := back e card' second
    exact inv.apart d e old old' there there' (shutdown.symm.trans connected) (shutdown'.symm.trans connected')
      (number.symm.trans (numbers.trans number'))
  · by_cases same : d = c
    · subst same
      cases replaced : o with
      | none => exact Function.update_self ..
      | some card' =>
        obtain ⟨old, there, -⟩ := kept card' replaced
        exact absurd (there.symm.trans (inv.fresh d above)) (Option.some_ne_none old)
    · exact (Function.update_of_ne same ..).trans (inv.fresh d above)
  · obtain ⟨-, -, -, -, leaving⟩ := back d card here
    exact leaving

theorem Inv.modify (inv : s.Inv cfg) (c : Nat) {f : SndCard → SndCard}
    (same : ∀ card, s.card c = some card → (f card).number = card.number ∧ (f card).shutdown = card.shutdown ∧
      ((f card).freeOnLastClose = true ∨ (f card).freeing = true → (f card).shutdown = true)) :
    (s.modify c f).Inv cfg := by
  apply inv.replace
  · intro card' changed
    obtain ⟨card, here, rfl⟩ := Option.map_eq_some_iff.mp changed
    exact ⟨card, here, same card here⟩
  · intro gone card here
    exact absurd (here.symm.trans (Option.map_eq_none_iff.mp gone)) (Option.some_ne_none card)

theorem Inv.sndCardDoFree (inv : s.Inv cfg) {c : Nat} (disconnected : ∀ card, s.card c = some card → card.shutdown = true) :
    (s.sndCardDoFree c).Inv cfg :=
  inv.replace (fun card' wrong => absurd wrong.symm (Option.some_ne_none card')) fun _ => disconnected

theorem Inv.sndCardDisconnect (inv : s.Inv cfg) (c : Nat) : (s.sndCardDisconnect c).Inv cfg := by
  unfold CardSystem.sndCardDisconnect
  cases here : s.card c with
  | none => exact inv
  | some card =>
    dsimp only
    split
    · exact inv
    rename_i connected
    have connected : card.shutdown = false := (Bool.not_eq_true _).mp connected
    have cards (d : Nat) (card' : SndCard)
        (there : (s.modify c fun card => { card with shutdown := true }).card d = some card')
        (shutdown : card'.shutdown = false) : d ≠ c ∧ s.card d = some card' := by
      unfold CardSystem.modify at there
      dsimp only at there
      by_cases same : d = c
      · subst same
        rw [Function.update_self, here] at there
        obtain rfl := Option.some.inj there
        exact absurd shutdown (Bool.noConfusion)
      · exact ⟨same, by rwa [Function.update_of_ne same] at there⟩
    have others (d : Nat) (other : d ≠ c) : (s.modify c fun card => { card with shutdown := true }).card d = s.card d :=
      Function.update_of_ne other ..
    have unlocked (n : Nat) (locked : Function.update s.sndCardsLock card.number false n = true) :
        n ≠ card.number ∧ s.sndCardsLock n = true := by
      by_cases same : n = card.number
      · rw [same, Function.update_self] at locked
        exact absurd locked Bool.false_ne_true
      · exact ⟨same, by rwa [Function.update_of_ne same] at locked⟩
    refine ⟨fun n => ⟨fun locked => ?_, ?_⟩, fun d e card' card'' first second up up' numbers => ?_, inv.limit,
      fun n locked => inv.below n (unlocked n locked).2, fun d above => ?_, fun d card' there leaving => ?_⟩
    · obtain ⟨differs, locked⟩ := unlocked n locked
      obtain ⟨d, card', there, up, number⟩ := (inv.accurate n).mp locked
      have other : d ≠ c := by
        rintro rfl
        obtain rfl := Option.some.inj (here.symm.trans there)
        exact differs number.symm
      exact ⟨d, card', (others d other).trans there, up, number⟩
    · rintro ⟨d, card', there, up, number⟩
      obtain ⟨other, there⟩ := cards d card' there up
      have differs : n ≠ card.number := fun same =>
        other (inv.apart d c card' card there here up connected (number.trans same))
      show Function.update s.sndCardsLock card.number false n = true
      rw [Function.update_of_ne differs]
      exact (inv.accurate n).mpr ⟨d, card', there, up, number⟩
    · exact inv.apart d e card' card'' (cards d card' first up).2 (cards e card'' second up').2 up up' numbers
    · have other : d ≠ c := by
        rintro rfl
        exact absurd (here.symm.trans (inv.fresh d above)) (Option.some_ne_none card)
      exact (others d other).trans (inv.fresh d above)
    · cases shutdown : card'.shutdown with
      | true => rfl
      | false =>
        have old := inv.leaving d card' (cards d card' there shutdown).2 leaving
        exact absurd (shutdown.symm.trans old) Bool.false_ne_true

theorem sndCardDisconnect_shutdown {c : Nat} {card : SndCard} (here : (s.sndCardDisconnect c).card c = some card) :
    card.shutdown = true := by
  unfold CardSystem.sndCardDisconnect at here
  cases old : s.card c with
  | none =>
    rw [old] at here
    exact absurd (old.symm.trans here).symm (Option.some_ne_none card)
  | some card' =>
    rw [old] at here
    dsimp only at here
    split at here
    · rename_i shutdown
      rw [old] at here
      obtain rfl := Option.some.inj here
      exact shutdown
    · unfold CardSystem.modify at here
      dsimp only at here
      rw [Function.update_self, old] at here
      obtain rfl := Option.some.inj here
      rfl

theorem modify_card (c : Nat) (f : SndCard → SndCard) : (s.modify c f).card c = (s.card c).map f := Function.update_self ..

theorem Inv.decAndTest (inv : s.Inv cfg) {c : Nat} {zero : CardSystem → CardSystem}
    (last : ∀ s' : CardSystem, s'.Inv cfg → (s'.card c).map SndCard.shutdown = (s.card c).map SndCard.shutdown →
      (zero s').Inv cfg) : (s.decAndTest c zero).Inv cfg := by
  have dropped : (s.modify c fun card => { card with refcount := card.refcount - 1 }).Inv cfg :=
    inv.modify c fun card here => ⟨rfl, rfl, inv.leaving c card here⟩
  unfold CardSystem.decAndTest
  split
  · exact inv
  · dsimp only
    split
    · apply last _ dropped
      rw [modify_card, Option.map_map]
      rfl
    · exact dropped

theorem Inv.sndCardUnref (inv : s.Inv cfg) (c : Nat) : (s.sndCardUnref c).Inv cfg := by
  apply inv.decAndTest
  intro s' inv' _
  split
  · rename_i closed
    apply inv'.sndCardDoFree
    intro card here
    rw [here] at closed
    exact inv'.leaving c card here (Or.inl closed)
  · exact inv'

theorem Inv.sndCardFreeWhenClosed (inv : s.Inv cfg) (c : Nat) : (s.sndCardFreeWhenClosed c).Inv cfg := by
  have taken : (s.modify c fun card => { card with refcount := card.refcount + 1 }).Inv cfg :=
    inv.modify c fun card here => ⟨rfl, rfl, inv.leaving c card here⟩
  have gone := taken.sndCardDisconnect c
  have marked := gone.modify c (f := fun card => { card with freeOnLastClose := true })
    fun card here => ⟨rfl, rfl, fun _ => (sndCardDisconnect_shutdown here : card.shutdown = true)⟩
  unfold CardSystem.sndCardFreeWhenClosed
  apply marked.decAndTest
  intro s' inv' same
  apply inv'.sndCardDoFree
  intro card here
  rw [here, modify_card, Option.map_map] at same
  obtain ⟨old, there, shutdown⟩ := Option.map_eq_some_iff.mp same.symm
  exact shutdown.symm.trans (sndCardDisconnect_shutdown there : old.shutdown = true)

theorem Inv.sndCardFree (inv : s.Inv cfg) (c : Nat) : (s.sndCardFree c).Inv cfg :=
  (inv.sndCardDisconnect c).modify c fun card here =>
    ⟨rfl, rfl, fun _ => (sndCardDisconnect_shutdown here : card.shutdown = true)⟩

theorem Inv.wake (inv : s.Inv cfg) (c : Nat) : (s.wake c).Inv cfg := by
  unfold CardSystem.wake
  split
  · rename_i ready
    apply inv.sndCardDoFree
    intro card here
    rw [here] at ready
    exact inv.leaving c card here (Or.inr ((Bool.and_eq_true ..).mp ready).1)
  · exact inv

/-- The mask permits the slot, it is free, and `suits` tells that it is open to the module. -/
def Usable (s : CardSystem) (idx : BitVec 32) (suits : Nat → Bool) (k : Nat) : Prop :=
  Allowed idx k ∧ s.sndCardsLock k = false ∧ suits k = true

def Shielded (cfg : CardConfig) (s : CardSystem) (idx : BitVec 32) (name : Option (List Char)) : Prop :=
  ∀ k, 4 ≤ k → k < cfg.cards → ¬ Allowed idx k → s.sndCardsLock k = false →
    (cfg.moduleSlotMatch name k = true → ∃ j, j < k ∧ s.Usable idx (cfg.moduleSlotMatch name) j) ∧
    (cfg.unassigned k = true →
      (∃ j, j < cfg.cards ∧ s.Usable idx (cfg.moduleSlotMatch name) j) ∨ ∃ j, j < k ∧ s.Usable idx cfg.unassigned j)

def Available (cfg : CardConfig) (s : CardSystem) (req : Creation) : Prop :=
  if req.idx.toInt < 0 then
    ∃ k, k < cfg.cards ∧ (s.Usable req.idx (cfg.moduleSlotMatch req.module) k ∨ s.Usable req.idx cfg.unassigned k)
  else req.idx.toNat < cfg.cards ∧ s.sndCardsLock req.idx.toNat = false

structure Clear (cfg : CardConfig) (s : CardSystem) (req : Creation) : Prop where
  shielded : req.allocated = true → req.idx.toInt < 0 → s.Shielded cfg req.idx req.module
  finished : req.allocated = true → s.Available cfg req → req.ctlCreated = true ∧ req.infoCreated = true

structure Created (cfg : CardConfig) (s : CardSystem) (req : Creation) (ret : Int) (s' : CardSystem) : Prop where
  failed : ret ≠ 0 → s'.sndCardsLock = s.sndCardsLock
  allowed : req.idx.toInt < 0 → ret = 0 → ∀ card, s'.card s.next = some card → Allowed req.idx card.number
  full : req.idx.toInt < 0 → ret = - ENODEV → ∀ k, k < cfg.cards → Allowed req.idx k →
    s.sndCardsLock k = true ∨ cfg.moduleSlotMatch req.module k = false ∧ cfg.unassigned k = false

variable {idx : BitVec 32} {suits : Nat → Bool}

theorem maskAllows_iff {k : Nat} : maskAllows idx k = true ↔ (k < 4 → idx.getLsbD k = true) := by
  unfold maskAllows
  by_cases low : k < 4
  · simp [low]
  · simp [low]

theorem Allowed.mask {k : Nat} (allowed : Allowed idx k) : maskAllows idx k = true :=
  maskAllows_iff.mpr fun low => allowed (by omega)

def Suited (s : CardSystem) (idx : BitVec 32) (suits : Nat → Bool) (k : Nat) : Prop :=
  maskAllows idx k = true ∧ s.sndCardsLock k = false ∧ suits k = true

theorem Usable.suited {k : Nat} (usable : s.Usable idx suits k) : s.Suited idx suits k :=
  ⟨Allowed.mask usable.1, usable.2.1, usable.2.2⟩

theorem searchSlot_some {slot : Nat} (found : s.searchSlot cfg idx suits = some slot) :
    slot < cfg.cards ∧ s.Suited idx suits slot ∧ ∀ j, j < slot → ¬ s.Suited idx suits j := by
  obtain ⟨good, inside, first⟩ := List.find?_range_eq_some.mp found
  simp only [Bool.and_eq_true, Bool.not_eq_true'] at good
  refine ⟨List.mem_range.mp inside, ⟨good.1.1, good.1.2, good.2⟩, fun j before suited => ?_⟩
  have missed := first j before
  simp [suited.1, suited.2.1, suited.2.2] at missed

theorem searchSlot_none (missing : s.searchSlot cfg idx suits = none) {k : Nat} (inside : k < cfg.cards) :
    ¬ s.Suited idx suits k := by
  intro suited
  have missed := List.find?_range_eq_none.mp missing k inside
  simp [suited.1, suited.2.1, suited.2.2] at missed

structure Chosen (cfg : CardConfig) (s : CardSystem) (idx : BitVec 32) (name : Option (List Char)) (slot : Nat) : Prop where
  inside : slot < cfg.cards
  mask : maskAllows idx slot = true
  free : s.sndCardsLock slot = false
  first : (cfg.moduleSlotMatch name slot = true ∧ ∀ j, j < slot → ¬ s.Suited idx (cfg.moduleSlotMatch name) j) ∨
    ((∀ j, j < cfg.cards → ¬ s.Suited idx (cfg.moduleSlotMatch name) j) ∧ cfg.unassigned slot = true ∧
      ∀ j, j < slot → ¬ s.Suited idx cfg.unassigned j)

variable {name : Option (List Char)} {slot : Nat}

theorem findSlot_mask (cfg : CardConfig) (s : CardSystem) (name : Option (List Char)) (negative : idx.toInt < 0) :
    (∃ slot, s.findSlot cfg idx name = .ok slot ∧ s.Chosen cfg idx name slot) ∨
      s.findSlot cfg idx name = .error (- ENODEV) ∧ ∀ k, k < cfg.cards →
        ¬ s.Suited idx (cfg.moduleSlotMatch name) k ∧ ¬ s.Suited idx cfg.unassigned k := by
  unfold findSlot
  rw [if_pos negative]
  cases given : s.searchSlot cfg idx (cfg.moduleSlotMatch name) with
  | some slot =>
    obtain ⟨inside, suited, before⟩ := searchSlot_some given
    exact Or.inl ⟨slot, rfl, inside, suited.1, suited.2.1, Or.inl ⟨suited.2.2, before⟩⟩
  | none =>
    cases loose : s.searchSlot cfg idx cfg.unassigned with
    | some slot =>
      obtain ⟨inside, suited, before⟩ := searchSlot_some loose
      exact Or.inl ⟨slot, rfl, inside, suited.1, suited.2.1,
        Or.inr ⟨fun j => searchSlot_none given, suited.2.2, before⟩⟩
    | none => exact Or.inr ⟨rfl, fun k inside => ⟨searchSlot_none given inside, searchSlot_none loose inside⟩⟩

theorem forbidden_high {k : Nat} (forbidden : ¬ Allowed idx k) (mask : maskAllows idx k = true) : 4 ≤ k := by
  by_contra low
  exact forbidden fun _ => maskAllows_iff.mp mask (by omega)

theorem high_mask {k : Nat} (high : 4 ≤ k) : maskAllows idx k = true := maskAllows_iff.mpr fun low => by omega

theorem Chosen.allowed_iff (chosen : s.Chosen cfg idx name slot) : Allowed idx slot ↔ s.Shielded cfg idx name := by
  constructor
  · intro allowed k high inside forbidden free
    have differs : slot ≠ k := by
      rintro rfl
      exact forbidden allowed
    refine ⟨fun given => ?_, fun loose => ?_⟩
    · have suited : s.Suited idx (cfg.moduleSlotMatch name) k := ⟨high_mask high, free, given⟩
      rcases chosen.first with ⟨matched, before⟩ | ⟨none, -, -⟩
      · have order : ¬ k < slot := fun earlier => before k earlier suited
        exact ⟨slot, by omega, allowed, chosen.free, matched⟩
      · exact absurd suited (none k inside)
    · rcases chosen.first with ⟨matched, -⟩ | ⟨-, unassigned, before⟩
      · exact Or.inl ⟨slot, chosen.inside, allowed, chosen.free, matched⟩
      · have order : ¬ k < slot := fun earlier => before k earlier ⟨high_mask high, free, loose⟩
        exact Or.inr ⟨slot, by omega, allowed, chosen.free, unassigned⟩
  · intro shielded
    by_contra forbidden
    obtain ⟨given, loose⟩ := shielded slot (forbidden_high forbidden chosen.mask) chosen.inside forbidden chosen.free
    rcases chosen.first with ⟨matched, before⟩ | ⟨none, unassigned, before⟩
    · obtain ⟨j, earlier, usable⟩ := given matched
      exact before j earlier usable.suited
    · rcases loose unassigned with ⟨j, inside, usable⟩ | ⟨j, earlier, usable⟩
      · exact none j inside usable.suited
      · exact before j earlier usable.suited

theorem toInt_of_index (index : ¬ idx.toInt < 0) : idx.toInt = idx.toNat := by
  have cases := BitVec.toInt_eq_toNat_cond idx
  have small := idx.isLt
  split at cases <;> omega

theorem Inv.findSlot_index (inv : s.Inv cfg) (name : Option (List Char)) (index : ¬ idx.toInt < 0) :
    if idx.toNat < cfg.cards ∧ s.sndCardsLock idx.toNat = false then s.findSlot cfg idx name = .ok idx.toNat
    else ∃ err, s.findSlot cfg idx name = .error err ∧ err ≠ 0 := by
  have value := toInt_of_index index
  have limit := inv.limit
  have below := inv.below idx.toNat
  unfold findSlot
  rw [if_neg index]
  split
  · rename_i good
    have free : ¬ s.sndCardsLock idx.toNat = true := by
      rw [good.2]
      exact Bool.false_ne_true
    split
    · rfl
    · exact if_neg (by omega)
  · rename_i bad
    split
    · split
      · exact ⟨- EBUSY, rfl, by decide⟩
      · rename_i free
        exact absurd ⟨by omega, (Bool.not_eq_true _).mp free⟩ bad
    split
    · exact ⟨- ENODEV, rfl, by decide⟩
    · rename_i above inside
      have free : s.sndCardsLock idx.toNat = false := by
        by_contra locked
        have under := below ((Bool.not_eq_false _).mp locked)
        omega
      exact absurd ⟨by omega, free⟩ bad

theorem reserve_lock {n : Nat} (locked : (s.reserve slot).sndCardsLock n = true) : n = slot ∨ s.sndCardsLock n = true := by
  by_cases same : n = slot
  · exact Or.inl same
  · have kept : Function.update s.sndCardsLock slot true n = s.sndCardsLock n := Function.update_of_ne same ..
    exact Or.inr (kept.symm.trans locked)

theorem reserve_self : (s.reserve slot).sndCardsLock slot = true := Function.update_self ..

theorem finish_done {req : Creation} (ctl : req.ctlCreated = true) (info : req.infoCreated = true) :
    s.finish req slot =
      (0, { s with
        card := Function.update s.card s.next
          (some { number := slot, shutdown := false, refcount := 0, freeOnLastClose := false, freeing := false })
        next := s.next + 1 }) := by
  unfold finish
  rw [ctl, info]
  rfl

theorem Inv.finished (inv : s.Inv cfg) (inside : slot < cfg.cards) (free : s.sndCardsLock slot = false) {req : Creation}
    (ctl : req.ctlCreated = true) (info : req.infoCreated = true) : ((s.reserve slot).finish req slot).2.Inv cfg := by
  have limit := inv.limit
  have unused (c : Nat) (card : SndCard) (here : s.card c = some card) : c ≠ s.next := by
    rintro rfl
    exact absurd (here.symm.trans (inv.fresh _ (Nat.le_refl _))) (Option.some_ne_none card)
  have number (c : Nat) (card : SndCard) (here : s.card c = some card) (connected : card.shutdown = false) :
      card.number ≠ slot := by
    rintro rfl
    exact absurd (free.symm.trans ((inv.accurate _).mpr ⟨c, card, here, connected, rfl⟩)) Bool.false_ne_true
  rw [finish_done ctl info]
  generalize made : ({ number := slot, shutdown := false, refcount := 0, freeOnLastClose := false, freeing := false } : SndCard) = new
  have new_number : new.number = slot := by rw [← made]
  have cards (c : Nat) (card : SndCard) (here : Function.update s.card s.next (some new) c = some card) :
      (c = s.next ∧ card = new) ∨ s.card c = some card := by
    by_cases same : c = s.next
    · subst same
      rw [Function.update_self] at here
      exact Or.inl ⟨rfl, (Option.some.inj here).symm⟩
    · rw [Function.update_of_ne same] at here
      exact Or.inr here
  refine ⟨fun n => ⟨fun locked => ?_, ?_⟩, fun c d card card' first second up up' numbers => ?_, ?_, fun n locked => ?_,
    fun c above => ?_, fun c card here leaving => ?_⟩
  · rcases reserve_lock locked with rfl | locked
    · refine ⟨s.next, new, Function.update_self .., ?_, new_number⟩
      rw [← made]
    · obtain ⟨c, card, here, up, same⟩ := (inv.accurate n).mp locked
      exact ⟨c, card, (Function.update_of_ne (unused c card here) ..).trans here, up, same⟩
  · rintro ⟨c, card, here, up, rfl⟩
    rcases cards c card here with ⟨-, rfl⟩ | here
    · rw [new_number]
      exact reserve_self
    · exact (Function.update_of_ne (number c card here up) ..).trans ((inv.accurate _).mpr ⟨c, card, here, up, rfl⟩)
  · rcases cards c card first with ⟨rfl, rfl⟩ | old
    · rcases cards d card' second with ⟨rfl, rfl⟩ | old'
      · rfl
      · exact absurd (numbers.symm.trans new_number) (number d card' old' up')
    · rcases cards d card' second with ⟨rfl, rfl⟩ | old'
      · exact absurd (numbers.trans new_number) (number c card old up)
      · exact inv.apart c d card card' old old' up up' numbers
  · show (if s.sndEcardsLimit ≤ slot then (slot : Int) + 1 else s.sndEcardsLimit) ≤ cfg.cards
    split <;> omega
  · show (n : Int) < if s.sndEcardsLimit ≤ slot then (slot : Int) + 1 else s.sndEcardsLimit
    rcases reserve_lock locked with rfl | locked
    · split <;> omega
    · have under := inv.below n locked
      split <;> omega
  · have later : s.next + 1 ≤ c := above
    have other : c ≠ s.next := by omega
    exact (Function.update_of_ne other ..).trans (inv.fresh c (Nat.le_of_succ_le later))
  · rcases cards c card here with ⟨-, rfl⟩ | here
    · rw [← made] at leaving
      rcases leaving with wrong | wrong
      · exact absurd wrong Bool.false_ne_true
      · exact absurd wrong Bool.false_ne_true
    · exact inv.leaving c card here leaving

variable {req : Creation}

theorem Inv.findSlot_cases (inv : s.Inv cfg) (req : Creation) :
    (∃ slot, s.findSlot cfg req.idx req.module = .ok slot ∧ slot < cfg.cards ∧ s.sndCardsLock slot = false ∧
      (req.idx.toInt < 0 → s.Chosen cfg req.idx req.module slot) ∧ (¬ req.idx.toInt < 0 → s.Available cfg req)) ∨
    ∃ err, s.findSlot cfg req.idx req.module = .error err ∧ err ≠ 0 ∧ ¬ s.Available cfg req ∧
      (req.idx.toInt < 0 → ∀ k, k < cfg.cards →
        ¬ s.Suited req.idx (cfg.moduleSlotMatch req.module) k ∧ ¬ s.Suited req.idx cfg.unassigned k) := by
  unfold Available
  by_cases negative : req.idx.toInt < 0
  · rw [if_pos negative]
    rcases s.findSlot_mask cfg req.module negative with ⟨slot, found, chosen⟩ | ⟨missing, none⟩
    · exact Or.inl ⟨slot, found, chosen.inside, chosen.free, fun _ => chosen, fun index => absurd negative index⟩
    · refine Or.inr ⟨_, missing, by decide, ?_, fun _ => none⟩
      rintro ⟨k, inside, given | loose⟩
      · exact (none k inside).1 given.suited
      · exact (none k inside).2 loose.suited
  · rw [if_neg negative]
    have index := inv.findSlot_index req.module negative
    split at index
    · rename_i good
      exact Or.inl ⟨_, index, good.1, good.2, fun wrong => absurd wrong negative, fun _ => good⟩
    · rename_i bad
      obtain ⟨err, missing, error⟩ := index
      exact Or.inr ⟨err, missing, error, bad, fun wrong => absurd wrong negative⟩

theorem create_found (allocated : req.allocated = true) (found : s.findSlot cfg req.idx req.module = .ok slot) :
    s.sndCardCreate cfg req = (s.reserve slot).finish req slot := by
  unfold sndCardCreate
  rw [allocated, found]
  rfl

theorem create_missing {err : Int} (allocated : req.allocated = true)
    (missing : s.findSlot cfg req.idx req.module = .error err) : s.sndCardCreate cfg req = (err, s) := by
  unfold sndCardCreate
  rw [allocated, missing]
  rfl

theorem Inv.create (inv : s.Inv cfg) (clear : s.Clear cfg req) :
    (s.sndCardCreate cfg req).2.Inv cfg ∧
      s.Created cfg req (s.sndCardCreate cfg req).1 (s.sndCardCreate cfg req).2 := by
  cases allocated : req.allocated with
  | false =>
    have refused : s.sndCardCreate cfg req = (- ENOMEM, s) := by
      unfold sndCardCreate
      rw [allocated]
      rfl
    rw [refused]
    exact ⟨inv, fun _ => rfl, fun _ wrong => absurd wrong (show - ENOMEM ≠ 0 by decide),
      fun _ wrong => absurd wrong (show - ENOMEM ≠ - ENODEV by decide)⟩
  | true =>
    rcases inv.findSlot_cases req with ⟨slot, found, inside, free, chosen, index⟩ | ⟨err, missing, error, -, none⟩
    · have allowed (negative : req.idx.toInt < 0) : Allowed req.idx slot :=
        (chosen negative).allowed_iff.mpr (clear.shielded allocated negative)
      have available : s.Available cfg req := by
        by_cases negative : req.idx.toInt < 0
        · unfold Available
          rw [if_pos negative]
          refine ⟨slot, inside, ?_⟩
          rcases (chosen negative).first with ⟨matched, -⟩ | ⟨-, unassigned, -⟩
          · exact Or.inl ⟨allowed negative, free, matched⟩
          · exact Or.inr ⟨allowed negative, free, unassigned⟩
        · exact index negative
      obtain ⟨ctl, info⟩ := clear.finished allocated available
      rw [create_found allocated found]
      refine ⟨inv.finished inside free ctl info, ?_⟩
      rw [finish_done ctl info]
      refine ⟨fun wrong => absurd rfl wrong, fun negative _ card here => ?_,
        fun _ wrong => absurd wrong (show (0 : Int) ≠ - ENODEV by decide)⟩
      have new : Function.update s.card s.next _ s.next = some card := here
      rw [Function.update_self] at new
      rw [← Option.some.inj new]
      exact allowed negative
    · rw [create_missing allocated missing]
      refine ⟨inv, fun _ => rfl, fun _ wrong => absurd wrong error, fun negative _ k inside allowed => ?_⟩
      obtain ⟨given, loose⟩ := none negative k inside
      cases locked : s.sndCardsLock k with
      | true => exact Or.inl rfl
      | false =>
        have mask := Allowed.mask allowed
        exact Or.inr ⟨(Bool.not_eq_true _).mp fun good => given ⟨mask, locked, good⟩,
          (Bool.not_eq_true _).mp fun good => loose ⟨mask, locked, good⟩⟩

theorem Created.steps (created : s.Created cfg req (s.sndCardCreate cfg req).1 (s.sndCardCreate cfg req).2)
    (allocated : req.allocated = true) (found : s.findSlot cfg req.idx req.module = .ok slot)
    (free : s.sndCardsLock slot = false) : req.ctlCreated = true ∧ req.infoCreated = true := by
  rw [create_found allocated found] at created
  by_contra failing
  have leaked : (s.reserve slot).finish req slot = (- ENOMEM, s.reserve slot) := by
    unfold finish
    exact if_pos (not_and_or.mp failing)
  rw [leaked] at created
  have same := congrFun (created.failed (show - ENOMEM ≠ 0 by decide)) slot
  exact absurd ((reserve_self.symm.trans same).trans free).symm Bool.false_ne_true

theorem Inv.create_clear (inv : s.Inv cfg)
    (created : s.Created cfg req (s.sndCardCreate cfg req).1 (s.sndCardCreate cfg req).2) : s.Clear cfg req := by
  refine ⟨fun allocated negative => ?_, fun allocated available => ?_⟩
  · rcases inv.findSlot_cases req with ⟨slot, found, -, free, chosen, -⟩ | ⟨-, -, -, -, none⟩
    · obtain ⟨ctl, info⟩ := created.steps allocated found free
      rw [create_found allocated found, finish_done ctl info] at created
      exact (chosen negative).allowed_iff.mp (created.allowed negative rfl _ (Function.update_self ..))
    · intro k high inside _ unlocked
      obtain ⟨given, loose⟩ := none negative k inside
      exact ⟨fun good => absurd ⟨high_mask high, unlocked, good⟩ given,
        fun good => absurd ⟨high_mask high, unlocked, good⟩ loose⟩
  · rcases inv.findSlot_cases req with ⟨slot, found, -, free, -, -⟩ | ⟨-, -, -, missing, -⟩
    · exact created.steps allocated found free
    · exact absurd available missing

def OpClear (cfg : CardConfig) (s : CardSystem) : CardOp → Prop
  | .create req => s.Clear cfg req
  | _ => True

def OpKept (cfg : CardConfig) (s : CardSystem) (op : CardOp) (s' : CardSystem) : Prop :=
  s'.Accurate ∧ s'.Apart ∧ ∀ req, op = .create req → s.Created cfg req (s.sndCardCreate cfg req).1 s'

theorem Inv.exec (inv : s.Inv cfg) {op : CardOp} (clear : s.OpClear cfg op) : (s.exec cfg op).Inv cfg := by
  cases op with
  | create req => exact (inv.create clear).1
  | disconnect c => exact inv.sndCardDisconnect c
  | free c => exact inv.sndCardFree c
  | freeWhenClosed c => exact inv.sndCardFreeWhenClosed c
  | ref c => exact inv.modify c fun card here => ⟨rfl, rfl, inv.leaving c card here⟩
  | unref c => exact inv.sndCardUnref c
  | wake c => exact inv.wake c

theorem Inv.decides (inv : s.Inv cfg) (op : CardOp) : s.OpKept cfg op (s.exec cfg op) ↔ s.OpClear cfg op := by
  constructor
  · rintro ⟨-, -, created⟩
    cases op with
    | create req => exact inv.create_clear (created req rfl)
    | _ => trivial
  · intro clear
    have next := inv.exec clear
    refine ⟨next.accurate, next.apart, ?_⟩
    rintro req rfl
    exact (inv.create clear).2

/-- The loaded module: `cards_limit` is documented as 1 to 8 and at most the number of cards. -/
structure Loaded (cfg : CardConfig) (s : CardSystem) : Prop where
  limit : s.sndEcardsLimit ≤ cfg.cards
  unlocked : ∀ n, s.sndCardsLock n = false
  empty : ∀ c, s.card c = none

theorem Loaded.inv (loaded : s.Loaded cfg) : s.Inv cfg := by
  have nobody {c : Nat} {card : SndCard} (here : s.card c = some card) : False :=
    absurd (here.symm.trans (loaded.empty c)) (Option.some_ne_none card)
  refine ⟨fun n => ⟨fun locked => ?_, ?_⟩, fun _ _ _ _ here => (nobody here).elim, loaded.limit, fun n locked => ?_,
    fun c _ => loaded.empty c, fun _ _ here => (nobody here).elim⟩
  · exact absurd ((loaded.unlocked n).symm.trans locked) Bool.false_ne_true
  · rintro ⟨c, card, here, -⟩
    exact (nobody here).elim
  · exact absurd ((loaded.unlocked n).symm.trans locked) Bool.false_ne_true

theorem slots_accurate (loaded : s.Loaded cfg) (ops : List CardOp) :
    Throughout (exec cfg) (OpKept cfg) s ops ↔ Throughout (exec cfg) (fun s op _ => s.OpClear cfg op) s ops := by
  have run : Throughout (exec cfg) (fun _ _ _ => True) s ops := Throughout.of_mem fun _ _ _ => trivial
  apply throughout_iff (Inv cfg) (OpKept cfg) (OpClear cfg) (fun s op inv _ => inv.decides op) _ loaded.inv run
  exact fun s op inv _ clear => inv.exec clear

end CardSystem

section Example

open CardSystem

def eightCards : CardConfig where
  cards := 8
  modules := true
  slots := fun idx => if idx = 0 then some "snd-interwave".toList else none

def noCards : CardSystem where
  sndCardsLock := fun _ => false
  sndEcardsLimit := 1
  card := fun _ => none
  next := 0

theorem noCards_loaded : noCards.Loaded eightCards := by
  refine ⟨?_, fun _ => rfl, fun _ => rfl⟩
  decide

def onlyFive : Creation where
  idx := 0x80000020#32
  module := some "snd_usb_audio".toList
  allocated := true
  ctlCreated := true
  infoCreated := true

def noControl : Creation := { onlyFive with idx := 1#32, ctlCreated := false }

/-- The first gets slot 4, and the second leaves the bit of its slot set. -/
theorem slots_leak :
    noCards.Loaded eightCards ∧ ¬ Throughout (exec eightCards) (OpKept eightCards) noCards [.create onlyFive] ∧
      ¬ Throughout (exec eightCards) (OpKept eightCards) noCards [.create noControl] := by
  refine ⟨noCards_loaded, fun run => ?_, fun run => ?_⟩
  · have created := run.1.2.2 onlyFive rfl
    have permitted : onlyFive.idx.getLsbD 4 = true := created.allowed (by decide) (by decide) _ rfl (by decide)
    exact absurd permitted (by decide)
  · have created := run.1.2.2 noControl rfl
    have same := congrFun (created.failed (by decide)) 1
    revert same
    decide

def anySlot : Creation := { onlyFive with idx := BitVec.allOnes 32 }

theorem slots_accurate_any :
    Throughout (exec eightCards) (OpKept eightCards) noCards
      [.create anySlot, .create anySlot, .ref 0, .freeWhenClosed 0, .create anySlot, .unref 0] := by
  have clear (s : CardSystem) : s.Clear eightCards anySlot := by
    refine ⟨fun _ _ k _ _ forbidden => absurd (fun small => ?_) forbidden, fun _ _ => ⟨rfl, rfl⟩⟩
    rw [anySlot, BitVec.getLsbD_allOnes]
    exact decide_eq_true small
  exact (slots_accurate noCards_loaded _).mpr ⟨clear _, clear _, trivial, trivial, clear _, trivial, trivial⟩

end Example

end AlsaDriver.Card
