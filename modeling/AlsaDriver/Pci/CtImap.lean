import Mathlib.Logic.Function.Basic
import Mathlib.Data.List.Nodup
import AlsaDriver.Lib.Cycles
import AlsaDriver.Lib.Runs
import AlsaDriver.Lib.StableInsert

namespace AlsaDriver.Pci

open Cycles Runs

structure Imapper where
  slot : BitVec 16
  user : BitVec 16
  addr : BitVec 16
  next : BitVec 16
  deriving DecidableEq, Repr

/-- A list of input mappers, and the calls of `map_op`, the latest one first. -/
structure Imappers (E : Type*) where
  list : List E
  entry : E → Imapper
  calls : List (E × Imapper)

inductive ImapOp (E : Type*) where
  | add (e : E) (slot user addr : BitVec 16)
  | delete (e : E)

namespace Imappers

variable {E : Type*} [DecidableEq E] (m : Imappers E)

def setEntry (e : E) (imap : Imapper) : Imappers E := { m with entry := Function.update m.entry e imap }

def setNext (e : E) (addr : BitVec 16) : Imappers E := m.setEntry e { m.entry e with next := addr }

def mapOp (e : E) : Imappers E := { m with calls := (e, m.entry e) :: m.calls }

def before (e : E) : List E := m.list.takeWhile fun p => decide ¬ (m.entry e).slot < (m.entry p).slot

def after (e : E) : List E := m.list.dropWhile fun p => decide ¬ (m.entry e).slot < (m.entry p).slot

/-- `input_mapper_add`. Where `pos` is the head, or `pos->prev` is, the end of the list takes its place. -/
def inputMapperAdd (e : E) : Imappers E :=
  if m.list = [] then { (m.setNext e (m.entry e).addr).mapOp e with list := [e] }
  else
    let pre := if m.after e = [] then m.list.getLastD e
      else if m.before e = [] then m.list.getLastD e else (m.before e).getLastD e
    let pos := if m.after e = [] then m.list.headD e else (m.after e).headD e
    let list := if m.after e = [] then m.list ++ [e] else m.before e ++ e :: m.after e
    let m := (m.setNext e (m.entry pos).addr).mapOp e
    let m := (m.setNext pre (m.entry e).addr).mapOp pre
    { m with list := list }

def inputMapperDelete (e : E) : Imappers E :=
  if m.list = [] then m
  else
    let prev := m.list.takeWhile fun p => decide (p ≠ e)
    let rest := (m.list.dropWhile fun p => decide (p ≠ e)).tail
    let pre := if prev = [] then m.list.getLastD e else prev.getLastD e
    let next := if rest = [] then m.list.headD e else rest.headD e
    if pre = e then { (m.setEntry e ⟨0, 0, 0, 0⟩).mapOp e with list := prev ++ rest }
    else { (m.setNext pre (m.entry next).addr).mapOp pre with list := prev ++ rest }

def exec (m : Imappers E) : ImapOp E → Imappers E
  | .add e slot user addr => (m.setEntry e { m.entry e with slot := slot, user := user, addr := addr }).inputMapperAdd e
  | .delete e => m.inputMapperDelete e

/-- The values last passed to `map_op` for an entry. -/
def passed (e : E) : Option Imapper := (m.calls.find? fun call => decide (call.1 = e)).map Prod.snd

/-- The input mapper ram, as `map_op` writes it. -/
def ram (addr : BitVec 16) : Option Imapper := (m.calls.find? fun call => decide (call.2.addr = addr)).map Prod.snd

def Proper : ImapOp E → Prop
  | .add e _ _ addr => e ∉ m.list ∧ addr ≠ 0 ∧ ∀ p ∈ m.list, (m.entry p).addr ≠ addr
  | .delete e => e ∈ m.list

instance (m : Imappers E) : (op : ImapOp E) → Decidable (m.Proper op)
  | .add .. => inferInstanceAs (Decidable (_ ∧ _ ∧ _))
  | .delete _ => inferInstanceAs (Decidable (_ ∈ _))

structure Programmed (m : Imappers E) : Prop where
  sorted : m.list.Pairwise fun p q => (m.entry p).slot ≤ (m.entry q).slot
  cycle : Cycle.Chain (fun p q => (m.entry p).next = (m.entry q).addr) (m.list : Cycle E)
  passed : ∀ p ∈ m.list, m.passed p = some (m.entry p)
  chain : Cycle.Chain (fun p q => (m.ram (m.entry p).addr).map Imapper.next = some (m.entry q).addr) (m.list : Cycle E)

end Imappers

end AlsaDriver.Pci

namespace AlsaDriver.Pci

open Cycles Runs Function

namespace Imappers

variable {E : Type*} [DecidableEq E] {m : Imappers E} {e p : E} {l : List E}

omit [DecidableEq E] in
@[simp] theorem mapOp_entry (m : Imappers E) (e : E) : (m.mapOp e).entry = m.entry := rfl

@[simp] theorem setEntry_entry (m : Imappers E) (e : E) (imap : Imapper) : (m.setEntry e imap).entry = update m.entry e imap := rfl

@[simp] theorem setEntry_passed (m : Imappers E) (e : E) (imap : Imapper) : (m.setEntry e imap).passed = m.passed := rfl

@[simp] theorem setEntry_ram (m : Imappers E) (e : E) (imap : Imapper) : (m.setEntry e imap).ram = m.ram := rfl

theorem mapOp_passed (m : Imappers E) (e p : E) : (m.mapOp e).passed p = if e = p then some (m.entry e) else m.passed p := by
  unfold passed mapOp
  by_cases same : e = p <;> simp [same]

omit [DecidableEq E] in
theorem mapOp_ram (m : Imappers E) (e : E) (addr : BitVec 16) :
    (m.mapOp e).ram addr = if (m.entry e).addr = addr then some (m.entry e) else m.ram addr := by
  unfold ram mapOp
  by_cases same : (m.entry e).addr = addr <;> simp [same]

def Apart (entry : E → Imapper) (l : List E) : Prop := ∀ p ∈ l, ∀ q ∈ l, (entry p).addr = (entry q).addr → p = q

def Tracked (m : Imappers E) (l : List E) : Prop :=
  ∀ p ∈ l, m.passed p = some (m.entry p) ∧ m.ram (m.entry p).addr = some (m.entry p)

theorem setNext_addr (m : Imappers E) (e p : E) (addr : BitVec 16) : ((m.setNext e addr).entry p).addr = (m.entry p).addr := by
  unfold setNext
  by_cases same : p = e <;> simp [same]

theorem setNext_slot (m : Imappers E) (e p : E) (addr : BitVec 16) : ((m.setNext e addr).entry p).slot = (m.entry p).slot := by
  unfold setNext
  by_cases same : p = e <;> simp [same]

theorem setNext_next (m : Imappers E) (e : E) (addr : BitVec 16) : ((m.setNext e addr).entry e).next = addr := by
  simp [setNext]

theorem setNext_other (m : Imappers E) {e p : E} (addr : BitVec 16) (other : p ≠ e) : (m.setNext e addr).entry p = m.entry p := by
  simp [setNext, other]

theorem Tracked.setNext (tracked : m.Tracked l) (apart : Apart m.entry (e :: l)) (addr : BitVec 16) :
    ((m.setNext e addr).mapOp e).Tracked (e :: l) := by
  intro p listed
  rw [mapOp_entry, mapOp_passed, mapOp_ram, setNext_addr, setNext_addr]
  by_cases same : p = e
  · subst same
    simp
  · have inside : p ∈ l := (List.mem_cons.mp listed).resolve_left same
    have away : (m.entry e).addr ≠ (m.entry p).addr := fun equal =>
      same (apart e List.mem_cons_self p listed equal).symm
    rw [if_neg (Ne.symm same), if_neg away, setNext_other m addr same]
    exact tracked p inside

omit [DecidableEq E] in
theorem Apart.mono {entry : E → Imapper} {l' : List E} (apart : Apart entry l) (part : ∀ p ∈ l', p ∈ l) : Apart entry l' :=
  fun p left q right => apart p (part p left) q (part q right)

omit [DecidableEq E] in
theorem Apart.cons {entry : E → Imapper} (apart : Apart entry l) (away : ∀ p ∈ l, (entry p).addr ≠ (entry e).addr) :
    Apart entry (e :: l) := by
  intro x left y right equal
  rcases List.mem_cons.mp left with first | inside
  · rcases List.mem_cons.mp right with second | there
    · exact first.trans second.symm
    · exact absurd (first ▸ equal.symm) (away y there)
  · rcases List.mem_cons.mp right with second | there
    · exact absurd (second ▸ equal) (away x inside)
    · exact apart x inside y there equal

theorem Tracked.mono {l' : List E} (tracked : m.Tracked l) (part : ∀ p ∈ l', p ∈ l) : m.Tracked l' :=
  fun p listed => tracked p (part p listed)

structure Inv (m : Imappers E) : Prop where
  nodup : m.list.Nodup
  sorted : m.list.Pairwise fun p q => (m.entry p).slot ≤ (m.entry q).slot
  apart : Apart m.entry m.list
  cycle : Cycle.Chain (fun p q => (m.entry p).next = (m.entry q).addr) (m.list : Cycle E)
  tracked : m.Tracked m.list

theorem Inv.programmed (inv : m.Inv) : m.Programmed := by
  refine ⟨inv.sorted, inv.cycle, fun p listed => (inv.tracked p listed).1, ?_⟩
  apply chain_of_mem inv.cycle
  intro p listed q _ next
  rw [(inv.tracked p listed).2]
  exact congrArg some next

theorem Inv.setEntry (inv : m.Inv) (outside : e ∉ m.list) (imap : Imapper) : (m.setEntry e imap).Inv := by
  have same : ∀ p ∈ m.list, (m.setEntry e imap).entry p = m.entry p := by
    intro p listed
    have other : p ≠ e := fun equal => outside (equal ▸ listed)
    simp [other]
  constructor
  · exact inv.nodup
  · apply inv.sorted.imp_of_mem
    intro p q left right le
    rw [same p left, same q right]
    exact le
  · intro p left q right equal
    rw [same p left, same q right] at equal
    exact inv.apart p left q right equal
  · apply chain_of_mem inv.cycle
    intro p left q right next
    rw [same p left, same q right]
    exact next
  · intro p listed
    rw [setEntry_passed, setEntry_ram, same p listed]
    exact inv.tracked p listed

omit [DecidableEq E] in
theorem insert_eq (m : Imappers E) (e : E) :
    StableQueue.insert (fun p => (m.entry p).slot.toNat) (fun _ => false) e m.list = m.before e ++ e :: m.after e := by
  have stops : (fun p => decide ¬ StableQueue.Stops (fun p => (m.entry p).slot.toNat) (fun _ => false) e p) =
      fun p => decide ¬ (m.entry e).slot < (m.entry p).slot := by
    funext p
    simp [StableQueue.Stops, BitVec.lt_def]
  rw [StableQueue.insert, List.orderedInsert_eq_take_drop, stops]
  rfl

omit [DecidableEq E] in
theorem split_eq (m : Imappers E) (e : E) : m.list = m.before e ++ m.after e := List.takeWhile_append_dropWhile.symm

omit [DecidableEq E] in
theorem neighbours (m : Imappers E) (e : E) :
    (if m.after e = [] then m.list.getLastD e else if m.before e = [] then m.list.getLastD e else (m.before e).getLastD e) =
        (m.after e ++ m.before e).getLastD e ∧
      (if m.after e = [] then m.list.headD e else (m.after e).headD e) = (m.after e ++ m.before e).headD e ∧
      (if m.after e = [] then m.list ++ [e] else m.before e ++ e :: m.after e) = m.before e ++ e :: m.after e := by
  rw [split_eq m e]
  generalize m.before e = before
  generalize m.after e = after
  cases after with
  | nil => simp
  | cons pos rest =>
    cases before with
    | nil => simp
    | cons first more =>
      refine ⟨?_, rfl, rfl⟩
      rw [if_neg (List.cons_ne_nil _ _), if_neg (List.cons_ne_nil _ _), List.getLastD_eq_getLast?, List.getLastD_eq_getLast?,
        List.getLast?_append]
      simp [List.getLast?_cons]

theorem Inv.link (inv : m.Inv) (outside : e ∉ m.list) (apart : Apart m.entry (e :: m.list)) {before after q : List E}
    (split : m.list = before ++ after) (cut : after ++ before = q ++ [p])
    (sorted : (before ++ e :: after).Pairwise fun x y => (m.entry x).slot ≤ (m.entry y).slot)
    {m' : Imappers E} (list : m'.list = before ++ e :: after)
    (addr : ∀ x, (m'.entry x).addr = (m.entry x).addr) (slot : ∀ x, (m'.entry x).slot = (m.entry x).slot)
    (new : (m'.entry e).next = (m.entry ((q ++ [p]).headD e)).addr) (old : (m'.entry p).next = (m.entry e).addr)
    (others : ∀ x, x ≠ e → x ≠ p → m'.entry x = m.entry x) (tracked : m'.Tracked (p :: e :: m.list)) : m'.Inv := by
  have members (x : E) : x ∈ before ++ e :: after ↔ x = e ∨ x ∈ m.list := by
    rw [split]
    simp only [List.mem_append, List.mem_cons]
    tauto
  have around (x : E) : x ∈ q ++ [p] ↔ x ∈ m.list := by
    rw [← cut, split]
    simp only [List.mem_append]
    tauto
  have nodup : (q ++ [p]).Nodup := by
    rw [← cut, List.nodup_append_comm, ← split]
    exact inv.nodup
  constructor
  · rw [list, List.nodup_middle, ← split]
    exact List.nodup_cons.mpr ⟨outside, inv.nodup⟩
  · rw [list]
    simp only [slot]
    exact sorted
  · intro x left y right equal
    rw [list, members, ← List.mem_cons] at left right
    rw [addr, addr] at equal
    exact apart x left y right equal
  · rw [list, cycle_split, cut]
    have chain := inv.cycle
    rw [split, cycle_swap, cut] at chain
    apply chain_insert chain
    · intro x inside y next
      have listed : x ∈ m.list := (around x).mp (List.mem_append_left _ inside)
      have notNew : x ≠ e := fun same => outside (same ▸ listed)
      have notLast : x ≠ p := by
        rintro rfl
        exact (List.nodup_append.mp nodup).2.2 x inside x (List.mem_singleton.mpr rfl) rfl
      rw [others x notNew notLast, addr]
      exact next
    · rw [new, addr]
    · rw [old, addr]
  · rw [list]
    apply tracked.mono
    intro x listed
    rcases (members x).mp listed with rfl | inside
    · exact List.mem_cons_of_mem p List.mem_cons_self
    · exact List.mem_cons_of_mem p (List.mem_cons_of_mem e inside)

theorem Inv.add (inv : m.Inv) (outside : e ∉ m.list) (away : ∀ p ∈ m.list, (m.entry p).addr ≠ (m.entry e).addr) :
    (m.inputMapperAdd e).Inv := by
  have apart := inv.apart.cons away
  unfold inputMapperAdd
  by_cases empty : m.list = []
  · rw [if_pos empty]
    have tracked := inv.tracked.setNext apart (m.entry e).addr
    rw [empty] at tracked
    refine ⟨List.nodup_singleton e, List.pairwise_singleton .., ?_, ?_, tracked⟩
    · intro x left y right _
      rw [List.mem_singleton.mp left, List.mem_singleton.mp right]
    · rw [Cycle.chain_singleton]
      exact (setNext_next m e _).trans (setNext_addr m e e _).symm
  · rw [if_neg empty]
    dsimp only
    obtain ⟨last, first, list⟩ := neighbours m e
    have split := split_eq m e
    have sorted := @StableQueue.insert_sorted E Nat _ (fun p => (m.entry p).slot.toNat) (fun _ => false) e m.list inv.sorted
    rw [insert_eq] at sorted
    obtain ⟨q, p, cut⟩ : ∃ q p, m.after e ++ m.before e = q ++ [p] := by
      rcases List.eq_nil_or_concat (m.after e ++ m.before e) with none_ | ⟨q, p, some_⟩
      · obtain ⟨left, right⟩ := List.append_eq_nil_iff.mp none_
        rw [left, right] at split
        exact absurd split empty
      · exact ⟨q, p, some_.trans List.concat_eq_append⟩
    have listed : p ∈ m.list := by
      have inside : p ∈ m.after e ++ m.before e := by simp [cut]
      rw [split]
      simpa [or_comm] using inside
    have other : p ≠ e := fun same => outside (same ▸ listed)
    rw [last, first, list, cut, List.getLastD_concat]
    have addr (x : E) : (((m.setNext e (m.entry ((q ++ [p]).headD e)).addr).setNext p
        ((m.setNext e (m.entry ((q ++ [p]).headD e)).addr).entry e).addr).entry x).addr = (m.entry x).addr := by
      rw [setNext_addr, setNext_addr]
    have both : Apart (m.setNext e (m.entry ((q ++ [p]).headD e)).addr).entry (p :: e :: m.list) := by
      intro x left y right equal
      rw [setNext_addr, setNext_addr] at equal
      have part : ∀ z ∈ p :: e :: m.list, z ∈ e :: m.list := by
        intro z inside
        rcases List.mem_cons.mp inside with rfl | there
        · exact List.mem_cons_of_mem e listed
        · exact there
      exact apart.mono part x left y right equal
    have tracked := (inv.tracked.setNext apart (m.entry ((q ++ [p]).headD e)).addr).setNext both
      ((m.setNext e (m.entry ((q ++ [p]).headD e)).addr).entry e).addr
    refine inv.link outside apart split cut sorted rfl addr ?_ ?_ ?_ ?_ tracked
    · intro x
      exact (setNext_slot _ p x _).trans (setNext_slot m e x _)
    · show ((Imappers.setNext _ p _).entry e).next = _
      rw [setNext_other _ _ other.symm]
      exact setNext_next m e _
    · show ((Imappers.setNext _ p _).entry p).next = _
      rw [setNext_next]
      exact setNext_addr m e e _
    · intro x notNew notLast
      exact (setNext_other _ _ notLast).trans (setNext_other m _ notNew)

omit [DecidableEq E] in
theorem delete_neighbours (before after : List E) (e : E) :
    (if before = [] then (before ++ e :: after).getLastD e else before.getLastD e) = (after ++ before).getLastD e ∧
      (if after = [] then (before ++ e :: after).headD e else after.headD e) = (after ++ before).headD e := by
  constructor
  · cases before with
    | nil => cases after <;> simp
    | cons first rest =>
      rw [if_neg (List.cons_ne_nil _ _), List.getLastD_eq_getLast?, List.getLastD_eq_getLast?, List.getLast?_append]
      simp [List.getLast?_cons]
  · cases after with
    | nil => cases before <;> simp
    | cons first rest => simp

theorem split_at {l : List E} (listed : e ∈ l) :
    l = l.takeWhile (fun p => decide (p ≠ e)) ++ e :: (l.dropWhile fun p => decide (p ≠ e)).tail := by
  induction l with
  | nil => exact absurd listed List.not_mem_nil
  | cons p rest ih =>
    by_cases here : p = e
    · simp [here]
    · have later : e ∈ rest := (List.mem_cons.mp listed).resolve_left (Ne.symm here)
      simpa [here] using ih later

theorem Inv.delete (inv : m.Inv) (listed : e ∈ m.list) : (m.inputMapperDelete e).Inv := by
  have split := split_at listed
  have some_ : m.list ≠ [] := List.ne_nil_of_mem listed
  unfold inputMapperDelete
  rw [if_neg some_]
  dsimp only
  generalize m.list.takeWhile (fun p => decide (p ≠ e)) = before at split ⊢
  generalize (m.list.dropWhile fun p => decide (p ≠ e)).tail = after at split ⊢
  obtain ⟨last, first⟩ := delete_neighbours before after e
  rw [split, last, first]
  have nodup : (e :: (after ++ before)).Nodup := by
    have all := inv.nodup
    rw [split, List.nodup_middle] at all
    exact ((List.perm_append_comm).cons e).nodup_iff.mp all
  have part (x : E) : x ∈ before ++ after → x ∈ m.list := by
    rw [split]
    intro inside
    rcases List.mem_append.mp inside with left | right
    · exact List.mem_append_left _ left
    · exact List.mem_append_right _ (List.mem_cons_of_mem e right)
  rcases List.eq_nil_or_concat (after ++ before) with none_ | ⟨q, p, cut⟩
  · obtain ⟨rfl, rfl⟩ := List.append_eq_nil_iff.mp none_
    rw [none_, List.getLastD_nil, if_pos rfl]
    refine ⟨List.nodup_nil, List.Pairwise.nil, ?_, Cycle.Chain.nil _, ?_⟩
    · exact fun x inside => absurd inside List.not_mem_nil
    · exact fun x inside => absurd inside List.not_mem_nil
  · rw [List.concat_eq_append] at cut
    have sub : (before ++ after).Sublist m.list := by
      rw [split]
      exact List.Sublist.append_left (List.sublist_cons_self e after) before
    have other : p ≠ e := by
      rintro rfl
      exact (List.nodup_cons.mp nodup).1 (by simp [cut])
    have inside : p ∈ m.list := by
      apply part
      have there : p ∈ after ++ before := by simp [cut]
      simpa [or_comm] using there
    rw [cut, List.getLastD_concat, if_neg other]
    have apart : Apart m.entry (p :: m.list) := inv.apart.mono (by
      intro z there
      rcases List.mem_cons.mp there with rfl | there
      · exact inside
      · exact there)
    constructor
    · exact inv.nodup.sublist sub
    · show (before ++ after).Pairwise fun x y => ((m.setNext p _).entry x).slot ≤ ((m.setNext p _).entry y).slot
      simp only [setNext_slot]
      exact inv.sorted.sublist sub
    · intro x left y right equal
      exact inv.apart x (part x left) y (part y right) ((setNext_addr m p x _).symm.trans (equal.trans (setNext_addr m p y _)))
    · show Cycle.Chain (fun x y => ((m.setNext p _).entry x).next = ((m.setNext p _).entry y).addr) ((before ++ after : List E) : Cycle E)
      have chain := inv.cycle
      rw [split, cycle_split, cut] at chain
      rw [cycle_swap, cut]
      have apartLast := (List.nodup_cons.mp nodup).2
      rw [cut] at apartLast
      apply chain_erase chain
      · intro x there y next
        have notLast : x ≠ p := by
          rintro rfl
          exact (List.nodup_append.mp apartLast).2.2 x there x (List.mem_singleton.mpr rfl) rfl
        rw [setNext_other m _ notLast, setNext_addr]
        exact next
      · rw [setNext_next, setNext_addr]
        cases q <;> rfl
    · apply (inv.tracked.setNext apart _).mono
      exact fun x there => List.mem_cons_of_mem p (part x there)

theorem Inv.exec (inv : m.Inv) {op : ImapOp E} (proper : m.Proper op) : (m.exec op).Inv := by
  cases op with
  | add e slot user addr =>
    obtain ⟨outside, -, away⟩ := proper
    apply (inv.setEntry outside _).add outside
    intro p listed
    have other : p ≠ e := fun same => outside (same ▸ listed)
    simpa [other] using away p listed
  | delete e => exact inv.delete proper

/-- The chain of the hardware is the cycle of the list, in the order of the slots. -/
theorem mappers_programmed (entry : E → Imapper) (ops : List (ImapOp E))
    (proper : Throughout exec (fun m op _ => m.Proper op) ⟨[], entry, []⟩ ops) :
    Throughout exec (fun _ _ m => m.Programmed) ⟨[], entry, []⟩ ops := by
  have start : (⟨[], entry, []⟩ : Imappers E).Inv := by
    refine ⟨List.nodup_nil, List.Pairwise.nil, ?_, Cycle.Chain.nil _, ?_⟩
    · exact fun x inside => absurd inside List.not_mem_nil
    · exact fun x inside => absurd inside List.not_mem_nil
  apply proper.steps Inv start
  intro m op inv step
  exact ⟨(inv.exec step).programmed, inv.exec step⟩

/-- Entries before, between and behind others, and a slot that is there already. -/
theorem mappers_programmed_four :
    Throughout exec (fun _ _ m => m.Programmed) (⟨[], fun _ => ⟨0, 0, 0, 0⟩, []⟩ : Imappers Nat)
      [.add 0 5 1 10, .add 1 3 1 11, .add 2 5 2 12, .add 3 4 1 13, .delete 0, .delete 2, .delete 1, .delete 3, .add 0 2 1 10] :=
  mappers_programmed _ _ (by decide)

end Imappers

end AlsaDriver.Pci
