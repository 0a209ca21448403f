import Mathlib.Algebra.GroupWithZero.Nat
import Mathlib.Algebra.BigOperators.Group.List.Basic
import AlsaDriver.Control.UserCtl

namespace AlsaDriver.Control

/-- `struct snd_ctl_elem_list`; the ids at `pids` are kept apart. -/
structure SndCtlElemList where
  offset : Nat
  space : Nat
  used : Nat
  count : Nat
  deriving DecidableEq, Repr

/-- What may fail in a call of `snd_ctl_elem_list`. -/
inductive ElemListFault where
  | read
  | memory
  | ids
  | write
  deriving DecidableEq

def skipControls : Nat → List SndKcontrol → Nat × List SndKcontrol
  | offset, [] => (offset, [])
  | offset, k :: rest =>
    if offset = 0 then (offset, k :: rest)
    else if offset < k.count then (offset, k :: rest)
    else skipControls (offset - k.count) rest

/-- The loop over the elements of a control from `jidx` on, `n` of them; with the space that is left. -/
def copyElems (k : SndKcontrol) : Nat → Nat → Nat → List SndCtlElemId × Nat
  | 0, _, space => ([], space)
  | n + 1, jidx, space =>
    if 0 < space then
      let rest := copyElems k n (jidx + 1) (space - 1)
      (k.buildIoff (BitVec.ofNat 32 jidx) :: rest.1, rest.2)
    else ([], space)

def copyControls : List SndKcontrol → Nat → Nat → List SndCtlElemId
  | [], _, _ => []
  | k :: rest, offset, space =>
    if 0 < space then
      let ids := copyElems k (k.count - offset) offset space
      ids.1 ++ copyControls rest 0 ids.2
    else []

namespace SndCard

variable (card : SndCard)

/-- `controls_count`, to which each control has added its elements. -/
def controlsCount : Nat := (card.controls.map fun k => k.count).sum % 2 ^ 32

/-- `snd_ctl_elem_list`, with the list and the ids that are copied out. -/
def sndCtlElemList (list : SndCtlElemList) (fault : Option ElemListFault) : Int × SndCtlElemList × List SndCtlElemId :=
  if fault = some .read then (-EFAULT, list, [])
  else if 16384 < list.space then (-ENOMEM, list, [])
  else
    if 0 < list.space then
      if fault = some .memory then (-ENOMEM, list, [])
      else
        let from_ := skipControls list.offset card.controls
        let ids := copyControls from_.2 from_.1 list.space
        if 0 < ids.length ∧ fault = some .ids then (-EFAULT, list, [])
        else if fault = some .write then (-EFAULT, list, ids)
        else (0, { list with count := card.controlsCount, used := ids.length }, ids)
    else if fault = some .write then (-EFAULT, list, [])
    else (0, { list with count := card.controlsCount }, [])

/-- Consecutive pages: the spaces of the calls, with the `used` that each is given. -/
def readPages (offset : Nat) : List (Nat × Nat) → List SndCtlElemId
  | [] => []
  | (space, used) :: rest =>
    let page := card.sndCtlElemList ⟨offset, space, used, 0⟩ none
    page.2.2 ++ readPages (offset + page.2.1.used) rest

def elements : List SndCtlElemId := card.controls.flatMap fun k => (List.range k.count).map k.elem

structure ReturnsPage (list list' : SndCtlElemList) (ids : List SndCtlElemId) : Prop where
  used : list'.used = min list.space (card.elements.length - list.offset)
  count : list'.count = card.elements.length
  ids : ids = (card.elements.drop list.offset).take list'.used

end SndCard

def SndKcontrol.elems (k : SndKcontrol) : List SndCtlElemId := (List.range k.count).map k.elem

section Loops

variable {k : SndKcontrol} {controls : List SndKcontrol} {offset space : Nat}

@[simp] theorem SndKcontrol.length_elems (k : SndKcontrol) : k.elems.length = k.count := by simp [SndKcontrol.elems]

theorem SndKcontrol.drop_elems (k : SndKcontrol) (offset : Nat) :
    k.elems.drop offset = (List.range' offset (k.count - offset)).map k.elem := by
  rw [SndKcontrol.elems, ← List.map_drop, List.range_eq_range', List.drop_range']
  simp

theorem copyElems_eq (k : SndKcontrol) (n jidx space : Nat) :
    copyElems k n jidx space = (((List.range' jidx n).map k.elem).take space, space - n) := by
  induction n generalizing jidx space with
  | zero => simp [copyElems]
  | succ n ih =>
    cases space with
    | zero => simp [copyElems]
    | succ space =>
      rw [copyElems, if_pos (Nat.succ_pos space), Nat.add_sub_cancel, ih, List.range'_succ]
      simp [SndKcontrol.elem]

theorem copyControls_eq (inside : ∀ k ∈ controls.head?, offset ≤ k.count) :
    copyControls controls offset space = ((controls.flatMap SndKcontrol.elems).drop offset).take space := by
  induction controls generalizing offset space with
  | nil => simp [copyControls]
  | cons k rest ih =>
    have within : offset ≤ k.count := inside k rfl
    cases space with
    | zero => simp [copyControls]
    | succ space =>
      rw [copyControls, if_pos (Nat.succ_pos space)]
      dsimp only
      have later := @ih 0 (space + 1 - (k.count - offset)) fun k _ => Nat.zero_le _
      rw [copyElems_eq, later, List.flatMap_cons, List.drop_append_of_le_length (by simpa using within), List.take_append,
        k.drop_elems, List.drop_zero]
      simp

theorem skipControls_eq (offset : Nat) (controls : List SndKcontrol) :
    ((skipControls offset controls).2.flatMap SndKcontrol.elems).drop (skipControls offset controls).1 =
        (controls.flatMap SndKcontrol.elems).drop offset ∧
      ∀ k ∈ (skipControls offset controls).2.head?, (skipControls offset controls).1 ≤ k.count := by
  induction controls generalizing offset with
  | nil => exact ⟨rfl, fun k none_ => by cases none_⟩
  | cons k rest ih =>
    rw [skipControls]
    split
    · next zero => exact ⟨rfl, fun k _ => zero ▸ Nat.zero_le _⟩
    · split
      · next inside =>
        refine ⟨rfl, fun k' first => ?_⟩
        cases first
        exact Nat.le_of_lt inside
      · next past =>
        obtain ⟨same, first⟩ := ih (offset - k.count)
        refine ⟨same.trans ?_, first⟩
        have whole : k.elems.drop offset = [] := List.drop_of_length_le (by simpa using past)
        rw [List.flatMap_cons, List.drop_append, whole, k.length_elems, List.nil_append]

end Loops

namespace SndCard

variable {card : SndCard} {list list' : SndCtlElemList} {fault : Option ElemListFault} {ids : List SndCtlElemId}

theorem elements_eq (card : SndCard) : card.elements = card.controls.flatMap SndKcontrol.elems := rfl

theorem controlsCount_eq (card : SndCard) : card.controlsCount = card.elements.length % 2 ^ 32 := by
  rw [controlsCount, elements_eq, List.length_flatMap]
  simp

theorem page_eq (card : SndCard) (offset space : Nat) :
    copyControls (skipControls offset card.controls).2 (skipControls offset card.controls).1 space =
      (card.elements.drop offset).take space := by
  obtain ⟨same, first⟩ := skipControls_eq offset card.controls
  rw [copyControls_eq first, same, elements_eq]

theorem sndCtlElemList_ok (done : card.sndCtlElemList list fault = (0, list', ids)) :
    list'.count = card.elements.length % 2 ^ 32 ∧ ids = (card.elements.drop list.offset).take list.space ∧
      list'.used = if 0 < list.space then ids.length else list.used := by
  unfold sndCtlElemList at done
  split at done
  · cases done
  · split at done
    · cases done
    · split at done
      · next some_ =>
        split at done
        · cases done
        · dsimp only at done
          rw [page_eq] at done
          split at done
          · cases done
          · split at done
            · cases done
            · cases done
              exact ⟨card.controlsCount_eq, rfl, (if_pos some_).symm⟩
      · next none_ =>
        split at done
        · cases done
        · cases done
          have zero : list.space = 0 := Nat.eq_zero_of_not_pos none_
          refine ⟨card.controlsCount_eq, ?_, (if_neg none_).symm⟩
          simp [zero]

theorem returnsPage_iff (done : card.sndCtlElemList list fault = (0, list', ids)) :
    card.ReturnsPage list list' ids ↔ card.elements.length < 2 ^ 32 ∧ (0 < list.space ∨ list.used = 0) := by
  obtain ⟨count, page, used⟩ := sndCtlElemList_ok done
  constructor
  · intro returns
    constructor
    · have whole := returns.count
      rw [count] at whole
      rw [← whole]
      exact Nat.mod_lt _ (by decide)
    · by_cases some_ : 0 < list.space
      · exact Or.inl some_
      · have stale := returns.used
        rw [used, if_neg some_] at stale
        right
        omega
  · rintro ⟨few, set⟩
    have lengths : ids.length = min list.space (card.elements.length - list.offset) := by simp [page]
    have taken : list'.used = min list.space (card.elements.length - list.offset) := by
      rw [used]
      split
      · exact lengths
      · next none_ =>
        have stale := set.resolve_left none_
        omega
    refine ⟨taken, count.trans (Nat.mod_eq_of_lt few), ?_⟩
    rw [taken, ← lengths, page]
    simp

theorem sndCtlElemList_done (small : list.space ≤ 16384) : ∃ list' ids, card.sndCtlElemList list none = (0, list', ids) := by
  unfold sndCtlElemList
  rw [if_neg (by simp), if_neg (Nat.not_lt.mpr small)]
  by_cases some_ : 0 < list.space <;> simp [some_]

theorem drop_taken {α : Type} (l : List α) (n : Nat) : l.drop (l.take n).length = l.drop n := by
  rw [List.length_take]
  rcases Nat.le_total n l.length with few | many
  · rw [Nat.min_eq_left few]
  · rw [Nat.min_eq_right many, List.drop_length, List.drop_of_length_le many]

theorem readPages_eq {calls : List (Nat × Nat)} (offset : Nat)
    (set : ∀ call ∈ calls, call.1 ≤ 16384 ∧ (0 < call.1 ∨ call.2 = 0)) :
    card.readPages offset calls = (card.elements.drop offset).take (calls.map Prod.fst).sum := by
  induction calls generalizing offset with
  | nil => simp [readPages]
  | cons call rest ih =>
    obtain ⟨space, used⟩ := call
    obtain ⟨small, kept⟩ := set (space, used) List.mem_cons_self
    obtain ⟨list', ids, done⟩ := @sndCtlElemList_done card ⟨offset, space, used, 0⟩ small
    obtain ⟨-, page, length⟩ := sndCtlElemList_ok done
    have taken : list'.used = ids.length := by
      rw [length]
      split
      · rfl
      · next none_ =>
        have stale : used = 0 := kept.resolve_left none_
        have zero : space = 0 := Nat.eq_zero_of_not_pos none_
        simp [page, zero, stale]
    rw [readPages, done]
    dsimp only at page ⊢
    rw [ih _ fun call listed => set call (List.mem_cons_of_mem _ listed), taken, page, ← List.drop_drop, drop_taken,
      List.map_cons, List.sum_cons, ← List.take_add]

/-- A page is what the elements have at its offset, and the pages together are all of them. -/
theorem elem_list_pages (card : SndCard) :
    (∀ (list list' : SndCtlElemList) (fault : Option ElemListFault) (ids : List SndCtlElemId),
      card.sndCtlElemList list fault = (0, list', ids) →
        (card.ReturnsPage list list' ids ↔ card.elements.length < 2 ^ 32 ∧ (0 < list.space ∨ list.used = 0))) ∧
      ∀ calls : List (Nat × Nat), (∀ call ∈ calls, call.1 ≤ 16384 ∧ (0 < call.1 ∨ call.2 = 0)) →
        card.readPages 0 calls = card.elements.take (calls.map Prod.fst).sum := by
  constructor
  · intro list list' fault ids done
    exact returnsPage_iff done
  · intro calls set
    rw [readPages_eq 0 set, List.drop_zero]

end SndCard

def threeElems : SndKcontrol := ⟨⟨1, 2, 0, 0, [0x61], 0⟩, 3, by decide⟩

/-- The elements of two controls in pages of two. -/
theorem elem_list_pages_two :
    (SndCard.mk [threeElems, threeElems.setNumid 4] 6 []).ReturnsPage ⟨2, 2, 0, 0⟩ ⟨2, 2, 2, 6⟩
        [threeElems.elem 2, (threeElems.setNumid 4).elem 0] ∧
      (SndCard.mk [threeElems, threeElems.setNumid 4] 6 []).readPages 0 [(2, 0), (2, 7), (2, 0)] =
        (SndCard.mk [threeElems, threeElems.setNumid 4] 6 []).elements.take 6 :=
  ⟨((SndCard.elem_list_pages _).1 ⟨2, 2, 0, 0⟩ ⟨2, 2, 2, 6⟩ none _ (by decide)).mpr ⟨by decide, Or.inl (by decide)⟩,
    (SndCard.elem_list_pages _).2 [(2, 0), (2, 7), (2, 0)] (by decide)⟩

/-- A call without space returns the number of ids that it was given. -/
theorem used_kept : ¬ ∀ (card : SndCard) (list list' : SndCtlElemList) (ids : List SndCtlElemId),
    card.sndCtlElemList list none = (0, list', ids) → card.ReturnsPage list list' ids := by
  intro claim
  have returns := claim ⟨[threeElems], 3, []⟩ ⟨0, 0, 5, 0⟩ ⟨0, 0, 5, 3⟩ [] (by decide)
  exact absurd returns.used (by decide)

end AlsaDriver.Control
