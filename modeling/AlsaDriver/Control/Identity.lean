import Mathlib.Algebra.Group.Nat.Hom
import Mathlib.Data.List.Perm.Basic
import AlsaDriver.Lib.Runs
import AlsaDriver.Control.Card

namespace AlsaDriver.Control

open Runs

structure Identity (controls : List SndKcontrol) : Prop where
  nonzero : ∀ k ∈ controls, ∀ i < k.count, (k.elem i).numid ≠ 0
  disjoint : ∀ (a b : Nat) (k l : SndKcontrol), controls[a]? = some k → controls[b]? = some l →
    ∀ i < k.count, ∀ j < l.count, (k.elem i).numid = (l.elem j).numid → a = b
  named : ∀ (a b : Nat) (k l : SndKcontrol), controls[a]? = some k → controls[b]? = some l →
    ∀ i < k.count, ∀ j < l.count, (k.elem i).base = (l.elem j).base → (k.elem i).index = (l.elem j).index → a = b ∧ i = j
  findNumid : ∀ (a : Nat) (k : SndKcontrol), controls[a]? = some k → ∀ i < k.count, sndCtlFindNumid controls (k.elem i).numid = some a
  findId : ∀ (a : Nat) (k : SndKcontrol), controls[a]? = some k → ∀ i < k.count, sndCtlFindId controls (k.elem i).byName = some a

/-- The ranges of `m` numbers from `a` and of `n` numbers from `b` are disjoint. -/
def Apart (a m b n : Nat) : Prop := a + m ≤ b ∨ b + n ≤ a

theorem Apart.symm {a m b n : Nat} (apart : Apart a m b n) : Apart b n a m := Or.symm apart

theorem Apart.ne {a m b n i j : Nat} (apart : Apart a m b n) (low : i < m) (high : j < n) : a + i ≠ b + j := by
  rcases apart with le | le <;> omega

theorem Apart.of_ne {a m b n : Nat} (some_ : 0 < m) (others : 0 < n) (ne : ∀ i < m, ∀ j < n, a + i ≠ b + j) :
    Apart a m b n := by
  by_contra meet
  rw [Apart, not_or, Nat.not_le, Nat.not_le] at meet
  rcases Nat.le_total a b with before | after
  · exact ne (b - a) (by omega) 0 others (by omega)
  · exact ne 0 some_ (a - b) (by omega) (by omega)

/-- No numid of `count` from `n` wraps around, is zero or belongs to a control. -/
def FreeNumids (controls : List SndKcontrol) (n count : Nat) : Prop :=
  0 < n ∧ n + count < 2 ^ 32 ∧ ∀ k ∈ controls, Apart n count k.id.numid.toNat k.count

/-- There are free numids after `last`; after the last numid of all, the search first takes zero, where
    another control must be in the way. -/
def HasHole (controls : List SndKcontrol) (count : Nat) (last : BitVec 32) : Prop :=
  (∃ n, (last + 1).toNat ≤ n ∧ FreeNumids controls n count) ∧
    (last + 1 = 0 → ∃ k ∈ controls, k.id.numid.toNat < count)

def FreeNames (controls : List SndKcontrol) (id : SndCtlElemId) (count : Nat) : Prop :=
  id.index.toNat + count < 2 ^ 32 ∧
    ∀ k ∈ controls, id.base = k.id.base → Apart id.index.toNat count k.id.index.toNat k.count

def AddsApart (controls : List SndKcontrol) (last : BitVec 32) (k : SndKcontrol) : Prop :=
  (sndCtlFindHole controls k.len last).1 = true → FreeNames controls k.id k.count ∧ HasHole controls k.count last

def SndCard.KeepsApart (card : SndCard) : CtlOp → Prop
  | .add k => sndCtlFindId card.controls k.id = none → AddsApart card.controls card.lastNumid k
  | .replace k addOnReplace =>
    (sndCtlFindId card.controls k.id = none → addOnReplace = true → AddsApart card.controls card.lastNumid k) ∧
      ∀ old, sndCtlFindId card.controls k.id = some old → AddsApart (card.controls.eraseIdx old) card.lastNumid k
  | .renameId srcId dstId => ∀ place k, sndCtlFindId card.controls srcId = some place → card.controls[place]? = some k →
    FreeNames (card.controls.eraseIdx place) dstId k.count ∧
      FreeNumids (card.controls.eraseIdx place) (card.lastNumid + 1).toNat k.count
  | _ => True

namespace SndKcontrol

structure Placed (k : SndKcontrol) : Prop where
  pos : 0 < k.id.numid.toNat
  numid : k.id.numid.toNat + k.count < 2 ^ 32
  index : k.id.index.toNat + k.count < 2 ^ 32

structure Distinct (k l : SndKcontrol) : Prop where
  numids : Apart k.id.numid.toNat k.count l.id.numid.toNat l.count
  names : k.id.base = l.id.base → Apart k.id.index.toNat k.count l.id.index.toNat l.count

variable {k l : SndKcontrol}

theorem Distinct.symm (distinct : Distinct k l) : Distinct l k :=
  ⟨distinct.numids.symm, fun same => (distinct.names same.symm).symm⟩

theorem len_toNat : k.len.toNat = k.count := by
  have few := k.counted.2
  rw [MAX_CONTROL_COUNT] at few
  rw [len, BitVec.toNat_ofNat]
  exact Nat.mod_eq_of_lt (by omega)

theorem offset_toNat {i : Nat} (inside : i < k.count) : (BitVec.ofNat 32 i).toNat = i := by
  have few := k.counted.2
  rw [MAX_CONTROL_COUNT] at few
  rw [BitVec.toNat_ofNat]
  exact Nat.mod_eq_of_lt (by omega)

theorem elem_numid {i : Nat} (inside : i < k.count) : (k.elem i).numid.toNat = (k.id.numid.toNat + i) % 2 ^ 32 := by
  show (k.id.numid + BitVec.ofNat 32 i).toNat = _
  rw [BitVec.toNat_add, offset_toNat inside]

theorem elem_index {i : Nat} (inside : i < k.count) : (k.elem i).index.toNat = (k.id.index.toNat + i) % 2 ^ 32 := by
  show (k.id.index + BitVec.ofNat 32 i).toNat = _
  rw [BitVec.toNat_add, offset_toNat inside]

namespace Placed

theorem elem_numid (placed : k.Placed) {i : Nat} (inside : i < k.count) :
    (k.elem i).numid.toNat = k.id.numid.toNat + i := by
  have fits := placed.numid
  rw [SndKcontrol.elem_numid inside]
  exact Nat.mod_eq_of_lt (by omega)

theorem elem_index (placed : k.Placed) {i : Nat} (inside : i < k.count) :
    (k.elem i).index.toNat = k.id.index.toNat + i := by
  have fits := placed.index
  rw [SndKcontrol.elem_index inside]
  exact Nat.mod_eq_of_lt (by omega)

theorem numid_end (placed : k.Placed) : (k.id.numid + k.len).toNat = k.id.numid.toNat + k.count := by
  rw [BitVec.toNat_add, len_toNat]
  exact Nat.mod_eq_of_lt placed.numid

theorem hasNumid (placed : k.Placed) (numid : BitVec 32) :
    k.hasNumid numid = true ↔ k.id.numid.toNat ≤ numid.toNat ∧ numid.toNat < k.id.numid.toNat + k.count := by
  rw [SndKcontrol.hasNumid, Bool.and_eq_true, decide_eq_true_eq, decide_eq_true_eq, BitVec.le_def, BitVec.lt_def,
    placed.numid_end]

theorem hasName (placed : k.Placed) (id : SndCtlElemId) : k.hasName id = true ↔
    k.id.base = id.base ∧ k.id.index.toNat ≤ id.index.toNat ∧ id.index.toNat < k.id.index.toNat + k.count := by
  have fits : (k.id.index + k.len).toNat = k.id.index.toNat + k.count := by
    rw [BitVec.toNat_add, len_toNat]
    exact Nat.mod_eq_of_lt placed.index
  rw [SndKcontrol.hasName, Bool.and_eq_true, Bool.and_eq_true, decide_eq_true_eq, decide_eq_true_eq, BitVec.le_def,
    BitVec.lt_def, fits, beq_iff_eq, and_assoc]

end Placed

end SndKcontrol

open SndKcontrol

theorem sndCtlFindId_byName (controls : List SndKcontrol) (id : SndCtlElemId) :
    sndCtlFindId controls id.byName = controls.findIdx? (·.hasName id.byName) := if_neg (not_not.mpr rfl)

structure WellPlaced (controls : List SndKcontrol) : Prop where
  placed : ∀ k ∈ controls, k.Placed
  distinct : controls.Pairwise Distinct

namespace WellPlaced

variable {controls : List SndKcontrol} {k l : SndKcontrol} {a b : Nat}

theorem perm {controls' : List SndKcontrol} (same : controls.Perm controls') :
    WellPlaced controls ↔ WellPlaced controls' := by
  have symmetric := same.pairwise_iff (R := Distinct) Distinct.symm
  constructor
  · intro well
    exact ⟨fun k inside => well.placed k (same.mem_iff.mpr inside), symmetric.mp well.distinct⟩
  · intro well
    exact ⟨fun k inside => well.placed k (same.mem_iff.mp inside), symmetric.mpr well.distinct⟩

theorem cons : WellPlaced (k :: controls) ↔ k.Placed ∧ (∀ l ∈ controls, Distinct k l) ∧ WellPlaced controls := by
  constructor
  · intro well
    obtain ⟨first, rest⟩ := List.pairwise_cons.mp well.distinct
    obtain ⟨placed, others⟩ := List.forall_mem_cons.mp well.placed
    exact ⟨placed, first, others, rest⟩
  · rintro ⟨placed, first, others, rest⟩
    exact ⟨List.forall_mem_cons.mpr ⟨placed, others⟩, List.pairwise_cons.mpr ⟨first, rest⟩⟩

theorem sublist {l : List SndKcontrol} (well : WellPlaced controls) (sub : l.Sublist controls) : WellPlaced l :=
  ⟨fun k inside => well.placed k (sub.subset inside), well.distinct.sublist sub⟩

theorem distinct_of_ne (well : WellPlaced controls) (first : controls[a]? = some k) (second : controls[b]? = some l)
    (other : a ≠ b) : Distinct k l := by
  obtain ⟨low, rfl⟩ := List.getElem?_eq_some_iff.mp first
  obtain ⟨high, rfl⟩ := List.getElem?_eq_some_iff.mp second
  have pairs := List.pairwise_iff_getElem.mp well.distinct
  rcases Nat.lt_or_gt_of_ne other with before | after
  · exact pairs a b low high before
  · exact (pairs b a high low after).symm

theorem found {p : SndKcontrol → Bool} (here : controls[a]? = some k) (holds : p k = true)
    (alone : ∀ b l, controls[b]? = some l → p l = true → a = b) : controls.findIdx? p = some a := by
  obtain ⟨inside, rfl⟩ := List.getElem?_eq_some_iff.mp here
  refine List.findIdx?_eq_some_iff_getElem.mpr ⟨inside, holds, ?_⟩
  intro j before passed
  have same := alone j _ (List.getElem?_eq_getElem (Nat.lt_trans before inside)) passed
  omega

theorem identity (well : WellPlaced controls) : Identity controls := by
  have placed {a : Nat} {k : SndKcontrol} (here : controls[a]? = some k) : k.Placed :=
    well.placed k (List.mem_of_getElem? here)
  have nonzero (k : SndKcontrol) (inside : k.Placed) (i : Nat) (low : i < k.count) : (k.elem i).numid ≠ 0 := by
    intro zero
    have value := inside.elem_numid low
    have pos := inside.pos
    rw [zero, show (0 : BitVec 32).toNat = 0 from rfl] at value
    omega
  refine ⟨fun k inside => nonzero k (well.placed k inside), ?_, ?_, ?_, ?_⟩
  · intro a b k l first second i low j high same
    by_contra other
    have numbers := congrArg BitVec.toNat same
    rw [(placed first).elem_numid low, (placed second).elem_numid high] at numbers
    exact (well.distinct_of_ne first second other).numids.ne low high numbers
  · intro a b k l first second i low j high base same
    have numbers := congrArg BitVec.toNat same
    rw [(placed first).elem_index low, (placed second).elem_index high] at numbers
    by_cases here : a = b
    · subst here
      obtain rfl := Option.some.inj (first.symm.trans second)
      exact ⟨rfl, by omega⟩
    · exact absurd numbers (((well.distinct_of_ne first second here).names base).ne low high)
  · intro a k here i low
    have value := (placed here).elem_numid low
    rw [sndCtlFindNumid, if_neg (nonzero k (placed here) i low)]
    apply found here
    · exact ((placed here).hasNumid _).mpr (by omega)
    · intro b l there holds
      obtain ⟨above, below⟩ := ((placed there).hasNumid _).mp holds
      by_contra other
      rcases (well.distinct_of_ne here there other).numids with le | le <;> omega
  · intro a k here i low
    have value : (k.elem i).byName.index.toNat = _ := (placed here).elem_index low
    rw [sndCtlFindId_byName]
    apply found here
    · exact ((placed here).hasName _).mpr ⟨rfl, by omega⟩
    · intro b l there holds
      obtain ⟨base, above, below⟩ := ((placed there).hasName _).mp holds
      by_contra other
      have same : k.id.base = l.id.base := base.symm
      rcases (well.distinct_of_ne here there other).names same with le | le <;> omega

theorem of_identity (identity : Identity controls) : WellPlaced controls := by
  have passes {p : SndKcontrol → Bool} {a : Nat} {k : SndKcontrol} (here : controls[a]? = some k)
      (found : controls.findIdx? p = some a) : p k = true := by
    obtain ⟨inside, holds, -⟩ := List.findIdx?_eq_some_iff_getElem.mp found
    rw [List.getElem?_eq_getElem inside, Option.some.injEq] at here
    rwa [← here]
  have placed (k : SndKcontrol) (inside : k ∈ controls) : k.Placed := by
    obtain ⟨a, here⟩ := List.getElem?_of_mem inside
    have some_ := k.counted.1
    have fewer := k.counted.2
    have nonzero := identity.nonzero k inside 0 some_
    have numid := identity.findNumid a k here 0 some_
    have name := identity.findId a k here 0 some_
    have first : k.elem 0 = k.id := by
      show k.id.offset (BitVec.ofNat 32 0) = k.id
      rw [SndCtlElemId.offset, BitVec.add_zero, BitVec.add_zero]
    rw [first] at nonzero numid name
    rw [sndCtlFindNumid, if_neg nonzero] at numid
    rw [sndCtlFindId_byName] at name
    have numidEnd := passes here numid
    have nameEnd := passes here name
    rw [SndKcontrol.hasNumid, Bool.and_eq_true, decide_eq_true_eq, decide_eq_true_eq, BitVec.lt_def, BitVec.toNat_add,
      len_toNat] at numidEnd
    rw [SndKcontrol.hasName, Bool.and_eq_true, Bool.and_eq_true, decide_eq_true_eq, decide_eq_true_eq] at nameEnd
    have indexEnd : k.id.index < k.id.index + k.len := nameEnd.2
    rw [BitVec.lt_def, BitVec.toNat_add, len_toNat] at indexEnd
    have pos : k.id.numid.toNat ≠ 0 := fun zero => nonzero (BitVec.eq_of_toNat_eq zero)
    have numidLt := k.id.numid.isLt
    have indexLt := k.id.index.isLt
    rw [MAX_CONTROL_COUNT] at fewer
    exact ⟨by omega, by omega, by omega⟩
  refine ⟨placed, List.pairwise_iff_getElem.mpr ?_⟩
  intro a b low high before
  have first := List.getElem?_eq_getElem low
  have second := List.getElem?_eq_getElem high
  have firstPlaced := placed _ (List.getElem_mem low)
  have secondPlaced := placed _ (List.getElem_mem high)
  have other : a ≠ b := Nat.ne_of_lt before
  constructor
  · apply Apart.of_ne controls[a].counted.1 controls[b].counted.1
    intro i below j above same
    rw [← firstPlaced.elem_numid below, ← secondPlaced.elem_numid above] at same
    exact other (identity.disjoint a b _ _ first second i below j above (BitVec.eq_of_toNat_eq same))
  · intro base
    apply Apart.of_ne controls[a].counted.1 controls[b].counted.1
    intro i below j above same
    rw [← firstPlaced.elem_index below, ← secondPlaced.elem_index above] at same
    exact other (identity.named a b _ _ first second i below j above base (BitVec.eq_of_toNat_eq same)).1

theorem iff_identity : Identity controls ↔ WellPlaced controls := ⟨of_identity, identity⟩

theorem insert_iff (well : WellPlaced controls) (id : SndCtlElemId) {k : SndKcontrol} (same : k.id.base = id.base)
    (index : k.id.index = id.index) : WellPlaced (k :: controls) ↔
      FreeNames controls id k.count ∧ FreeNumids controls k.id.numid.toNat k.count := by
  rw [cons, FreeNames, FreeNumids, ← same, ← index]
  constructor
  · rintro ⟨placed, distinct, -⟩
    exact ⟨⟨placed.index, fun l inside => (distinct l inside).names⟩, placed.pos, placed.numid,
      fun l inside => (distinct l inside).numids⟩
  · rintro ⟨⟨fits, names⟩, pos, below, numids⟩
    exact ⟨⟨pos, below, fits⟩, fun l inside => ⟨numids l inside, names l inside⟩, well⟩

end WellPlaced

section Hole

variable {controls : List SndKcontrol} {count last last' : BitVec 32}

theorem next_toNat (k : SndKcontrol) : k.id.numid + k.len - 1 + 1 = k.id.numid + k.len := BitVec.sub_add_cancel _ _

theorem findHole_free (well : WellPlaced controls) {iter n : Nat} (low : (last + 1).toNat ≤ n)
    (free : FreeNumids controls n count.toNat) (zero : last + 1 = 0 → ∃ k ∈ controls, k.id.numid.toNat < count.toNat)
    (found : findHole controls count iter last = (true, last')) :
    FreeNumids controls (last' + 1).toNat count.toNat := by
  induction iter generalizing last with
  | zero => cases found
  | succ iter ih =>
    obtain ⟨-, fits, apart⟩ := free
    have sum : (last + 1 + count).toNat = (last + 1).toNat + count.toNat := by
      rw [BitVec.toNat_add]
      exact Nat.mod_eq_of_lt (by omega)
    have conflict (k : SndKcontrol) (inside : k ∈ controls) : numidConflict last count k = true ↔
        k.id.numid.toNat < (last + 1).toNat + count.toNat ∧ (last + 1).toNat < k.id.numid.toNat + k.count := by
      rw [numidConflict, Bool.and_eq_true, decide_eq_true_eq, decide_eq_true_eq, BitVec.lt_def, BitVec.lt_def, sum,
        (well.placed k inside).numid_end]
    rw [findHole, sndCtlRemoveNumidConflict] at found
    cases first : controls.find? (numidConflict last count) with
    | none =>
      rw [first] at found
      cases found
      have none_ := List.find?_eq_none.mp first
      refine ⟨Nat.pos_of_ne_zero ?_, by omega, fun k inside => ?_⟩
      · intro isZero
        obtain ⟨k, inside, less⟩ := zero (BitVec.eq_of_toNat_eq isZero)
        have pos := (well.placed k inside).pos
        exact none_ k inside ((conflict k inside).mpr (by omega))
      · have passed := mt (conflict k inside).mpr (none_ k inside)
        rw [Apart]
        omega
    | some k =>
      rw [first] at found
      have inside := List.mem_of_find?_eq_some first
      have meets := (conflict k inside).mp (List.find?_some first)
      have end_ := (well.placed k inside).numid_end
      have pos := (well.placed k inside).pos
      have next := next_toNat k
      apply ih _ _ found
      · rw [next, end_]
        rcases apart k inside with before | after <;> omega
      · intro isZero
        rw [next] at isZero
        rw [isZero, show (0 : BitVec 32).toNat = 0 from rfl] at end_
        omega

theorem hole_of_free {iter : Nat} (found : findHole controls count iter last = (true, last'))
    (free : FreeNumids controls (last' + 1).toNat count.toNat) :
    (last + 1).toNat ≤ (last' + 1).toNat ∧ (last + 1 = 0 → ∃ k ∈ controls, k.id.numid.toNat < count.toNat) := by
  induction iter generalizing last with
  | zero => cases found
  | succ iter ih =>
    rw [findHole, sndCtlRemoveNumidConflict] at found
    cases first : controls.find? (numidConflict last count) with
    | none =>
      rw [first] at found
      cases found
      refine ⟨Nat.le_refl _, fun isZero => ?_⟩
      have pos := free.1
      rw [isZero] at pos
      exact absurd pos (Nat.lt_irrefl 0)
    | some k =>
      rw [first] at found
      have inside := List.mem_of_find?_eq_some first
      have meets := List.find?_some first
      rw [numidConflict, Bool.and_eq_true, decide_eq_true_eq, decide_eq_true_eq, BitVec.lt_def, BitVec.lt_def] at meets
      obtain ⟨later, -⟩ := ih found
      rw [next_toNat] at later
      refine ⟨by omega, fun isZero => ⟨k, inside, ?_⟩⟩
      have less := meets.1
      rwa [isZero, show (0 : BitVec 32) + count = count from BitVec.zero_add count] at less

end Hole

namespace SndCard

variable {card : SndCard} {k : SndKcontrol}

@[simp] theorem controls_notifyElems (mask : BitVec 32) (id : SndCtlElemId) (count : Nat) :
    (card.notifyElems mask id count).controls = card.controls := by
  rw [notifyElems]
  induction count with
  | zero => rfl
  | succ count ih => rw [List.range_succ, List.foldl_append, ← ih]; rfl

@[simp] theorem lastNumid_notifyElems (mask : BitVec 32) (id : SndCtlElemId) (count : Nat) :
    (card.notifyElems mask id count).lastNumid = card.lastNumid := by
  rw [notifyElems]
  induction count with
  | zero => rfl
  | succ count ih => rw [List.range_succ, List.foldl_append, ← ih]; rfl

theorem addTail_wellPlaced (well : WellPlaced card.controls) :
    WellPlaced (card.addTail k).2.controls ↔ AddsApart card.controls card.lastNumid k := by
  rw [addTail, AddsApart]
  cases hole : sndCtlFindHole card.controls k.len card.lastNumid with
  | mk found last' =>
    cases found with
    | false => exact iff_of_true well (fun impossible => by cases impossible)
    | true =>
      have base : (k.setNumid (last' + 1)).id.base = k.id.base := rfl
      rw [forall_prop_of_true rfl]
      dsimp only
      rw [controls_notifyElems, WellPlaced.perm (List.perm_append_singleton _ _), well.insert_iff k.id base rfl]
      apply and_congr_right
      intro names
      show FreeNumids card.controls (last' + 1).toNat k.count ↔ _
      constructor
      · intro free
        rw [← len_toNat] at free ⊢
        obtain ⟨low, zero⟩ := hole_of_free hole free
        exact ⟨⟨_, low, free⟩, zero⟩
      · rintro ⟨⟨n, low, free⟩, zero⟩
        rw [← len_toNat] at free zero ⊢
        exact findHole_free well low free zero hole

theorem sndCtlRemove_controls (place : Nat) : (card.sndCtlRemove place).controls = card.controls.eraseIdx place := by
  rw [sndCtlRemove]
  cases here : card.controls[place]? with
  | none => exact (List.eraseIdx_of_length_le (List.getElem?_eq_none_iff.mp here)).symm
  | some k => exact controls_notifyElems ..

theorem sndCtlRemove_lastNumid (place : Nat) : (card.sndCtlRemove place).lastNumid = card.lastNumid := by
  rw [sndCtlRemove]
  cases card.controls[place]? with
  | none => rfl
  | some k => exact lastNumid_notifyElems ..

theorem exec_wellPlaced (well : WellPlaced card.controls) (op : CtlOp) :
    WellPlaced (card.exec op).controls ↔ card.KeepsApart op := by
  cases op with
  | add k =>
    rw [exec, sndCtlAdd, KeepsApart]
    cases sndCtlFindId card.controls k.id with
    | none =>
      rw [forall_prop_of_true rfl]
      exact addTail_wellPlaced well
    | some place => exact iff_of_true well (fun impossible => by cases impossible)
  | replace k addOnReplace =>
    rw [exec, sndCtlReplace, KeepsApart]
    cases sndCtlFindId card.controls k.id with
    | none =>
      cases addOnReplace with
      | false => exact iff_of_true well (by simp)
      | true => simpa using addTail_wellPlaced well
    | some old =>
      have fewer := well.sublist (List.eraseIdx_sublist card.controls old)
      rw [← sndCtlRemove_controls] at fewer
      have step := addTail_wellPlaced (k := k) fewer
      rw [sndCtlRemove_controls, sndCtlRemove_lastNumid] at step
      simpa using step
  | remove place =>
    refine iff_of_true ?_ trivial
    rw [exec, sndCtlRemove_controls]
    exact well.sublist (List.eraseIdx_sublist ..)
  | renameId srcId dstId =>
    rw [exec, sndCtlRenameId, KeepsApart]
    cases sndCtlFindId card.controls srcId with
    | none => exact iff_of_true well (fun _ _ impossible => by cases impossible)
    | some place =>
      dsimp only
      cases here : card.controls[place]? with
      | none =>
        refine iff_of_true well (fun other _ same there => ?_)
        cases same
        rw [here] at there
        cases there
      | some k =>
        obtain ⟨inside, -⟩ := List.getElem?_eq_some_iff.mp here
        have others := well.sublist (List.eraseIdx_sublist card.controls place)
        have base : ({ k with id := { dstId with numid := card.lastNumid + 1 } } : SndKcontrol).id.base = dstId.base := rfl
        dsimp only
        rw [WellPlaced.perm (List.set_perm_cons_eraseIdx inside _), others.insert_iff dstId base rfl]
        constructor
        · rintro free other l same there
          cases same
          rw [here] at there
          cases there
          exact free
        · exact fun condition => condition place k rfl here
  | elemWrite id changed =>
    refine iff_of_true ?_ trivial
    rw [exec, sndCtlElemWrite]
    cases (sndCtlFindId card.controls id).bind fun place => card.controls[place]? with
    | none => exact well
    | some k => cases changed <;> exact well
  | notify | subscribe | drain => exact iff_of_true well trivial

end SndCard

/-- Every element keeps an identity of its own exactly as long as all new names and numids are free. -/
theorem elements_distinct {card : SndCard} (start : Identity card.controls) (ops : List CtlOp) :
    Throughout SndCard.exec (fun _ _ card' => Identity card'.controls) card ops ↔
      Throughout SndCard.exec (fun card op _ => card.KeepsApart op) card ops := by
  apply throughout_iff (fun card => WellPlaced card.controls) _ _ (P := fun _ _ _ => True) _ _
    (WellPlaced.of_identity start)
  · exact Throughout.of_mem fun _ _ _ => trivial
  · intro card op well _
    rw [WellPlaced.iff_identity]
    exact SndCard.exec_wellPlaced well op
  · intro card op well _ condition
    exact (SndCard.exec_wellPlaced well op).mpr condition

def newCard : SndCard := ⟨[], 0, []⟩

theorem counted_one : 0 < 1 ∧ 1 ≤ MAX_CONTROL_COUNT := by decide

theorem counted_two : 0 < 2 ∧ 2 ≤ MAX_CONTROL_COUNT := by decide

def control (index : BitVec 32) (count : Nat) (counted : 0 < count ∧ count ≤ MAX_CONTROL_COUNT) : SndKcontrol :=
  ⟨⟨0, 2, 0, 0, [], index⟩, count, counted⟩

theorem identity_nil : Identity [] := WellPlaced.identity ⟨fun _ inside => absurd inside List.not_mem_nil, .nil⟩

theorem elements_distinct_newCard :
    Throughout SndCard.exec (fun _ _ card' => Identity card'.controls) newCard [.add (control 0 2 counted_two)] := by
  refine (elements_distinct (identity_nil : Identity newCard.controls) _).mpr ⟨fun _ _ => ⟨⟨by decide, ?_⟩, ⟨1, by decide, ?_⟩, ?_⟩, trivial⟩
  · exact fun _ inside => absurd inside List.not_mem_nil
  · exact ⟨by decide, by decide, fun _ inside => absurd inside List.not_mem_nil⟩
  · exact fun impossible => absurd impossible (by decide)

/-- Only the first index of a new control is looked up: its second element is there already. -/
theorem elements_shared :
    ¬ Throughout SndCard.exec (fun _ _ card' => Identity card'.controls) newCard
      [.add (control 1 1 counted_one), .add (control 0 2 counted_two)] := by
  rintro ⟨-, identity, -⟩
  have same := identity.named 0 1 ((control 1 1 counted_one).setNumid 1) ((control 0 2 counted_two).setNumid 2) rfl rfl
    0 (by decide) 1 (by decide) rfl rfl
  exact absurd same.1 (by decide)

end AlsaDriver.Control
