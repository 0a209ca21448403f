import Mathlib.Data.List.Basic
import AlsaDriver.Lib.Runs
import AlsaDriver.Control.Authority

namespace AlsaDriver.Control

open Runs

inductive ElemRequest where
  | add (file : Nat) (info : SndCtlElemInfo) (memory fault : Bool)
  | replace (file : Nat) (info : SndCtlElemInfo) (memory fault : Bool)
  | remove (file : Nat) (id : SndCtlElemId)

namespace CtlCard

variable (card : CtlCard)

def serve : ElemRequest → Reply
  | .add file info memory fault => card.request file (.add info memory fault)
  | .replace file info memory fault => card.request file (.replace info memory fault)
  | .remove file id => card.request file (.remove id)

def exec (card : CtlCard) (req : ElemRequest) : CtlCard := (card.serve req).card

def userControls : Nat := card.controls.countP fun c => c.user.isSome

structure Counted : Prop where
  count : card.userCtlCount = card.userControls
  limit : card.userCtlCount ≤ MAX_USER_CONTROLS

def Settled (card : CtlCard) (req : ElemRequest) (card' : CtlCard) : Prop :=
  card'.Counted ∧
    ((card.serve req).result < 0 → card'.controls = card.controls ∧ card'.userCtlCount = card.userCtlCount)

structure Addable (info : SndCtlElemInfo) (memory fault : Bool) : Prop where
  size : info.privateSize ≠ none
  memory : memory = true
  names : 0 ≤ info.initEnumNames fault
  control : ∃ control, info.newControl = some control ∧
    sndCtlFindId card.toSndCard.controls control.id = none ∧
      (sndCtlFindHole card.toSndCard.controls control.len card.lastNumid).1 = true

def ReplaceSettles (info : SndCtlElemInfo) (memory fault : Bool) : Prop :=
  ∀ c, 1 ≤ info.count.toNat → card.findId info.id.byName = some c →
    c.user = none ∧ card.userCtlCount < MAX_USER_CONTROLS ∧ (card.sndCtlRemoveKctl c).Addable info memory fault

def RequestSettles : ElemRequest → Prop
  | .replace _ info memory fault => card.ReplaceSettles info memory fault
  | _ => True

variable {card} {file : Nat} {c : Kctl} {info : SndCtlElemInfo} {memory fault : Bool}

theorem busy_negative : -EBUSY < 0 := by decide
theorem nomem_negative : -ENOMEM < 0 := by decide
theorem inval_negative : -EINVAL < 0 := by decide

theorem addKctl_added (new : c.ptr = card.nextPtr)
    (free : sndCtlFindId card.toSndCard.controls c.control.id = none)
    (hole : (sndCtlFindHole card.toSndCard.controls c.control.len card.lastNumid).1 = true) :
    (card.sndCtlAddKctl c new).1 = 0 ∧ (card.sndCtlAddKctl c new).2.userCtlCount = card.userCtlCount ∧
      ∃ control, (card.sndCtlAddKctl c new).2.controls = card.controls ++ [{ c with control := control }] := by
  unfold sndCtlAddKctl
  rw [free]
  dsimp only
  split
  · rename_i found
    rw [found] at hole
    cases hole
  · exact ⟨rfl, rfl, _, rfl⟩

theorem addKctl_refused (new : c.ptr = card.nextPtr)
    (refused : ¬ (sndCtlFindId card.toSndCard.controls c.control.id = none ∧
      (sndCtlFindHole card.toSndCard.controls c.control.len card.lastNumid).1 = true)) :
    (card.sndCtlAddKctl c new).1 < 0 ∧ (card.sndCtlAddKctl c new).2.userCtlCount = card.userCtlCount ∧
      (card.sndCtlAddKctl c new).2.controls = card.controls := by
  unfold sndCtlAddKctl
  split
  · exact ⟨busy_negative, rfl, rfl⟩
  · rename_i free
    split
    · exact ⟨nomem_negative, rfl, rfl⟩
    · rename_i found
      exact absurd ⟨free, by rw [found]⟩ refused

theorem addElem_added (file : Nat) (addable : card.Addable info memory fault) :
    (card.addElem file info memory fault).result = 0 ∧
      (card.addElem file info memory fault).card.userCtlCount = card.userCtlCount + 1 ∧
        (card.addElem file info memory fault).card.userControls = card.userControls + 1 := by
  obtain ⟨size, hasMemory, names, control, made, free, hole⟩ := addable
  obtain ⟨bytes, good⟩ := Option.ne_none_iff_exists'.mp size
  obtain ⟨result, count, placed, controls⟩ := addKctl_added (c := card.newKctl file info bytes control) rfl free hole
  unfold addElem
  rw [good, made]
  dsimp only
  rw [if_neg (by rw [hasMemory]; decide), if_neg (by omega), result, if_neg (by decide)]
  refine ⟨rfl, congrArg (· + 1) count, ?_⟩
  unfold userControls
  rw [controls, List.countP_append]
  rfl

theorem addElem_refused (file : Nat) (refused : ¬ card.Addable info memory fault) :
    (card.addElem file info memory fault).result < 0 ∧
      (card.addElem file info memory fault).card.userCtlCount = card.userCtlCount ∧
        (card.addElem file info memory fault).card.controls = card.controls := by
  unfold addElem
  split
  · exact ⟨inval_negative, rfl, rfl⟩
  · rename_i size good
    split
    · exact ⟨nomem_negative, rfl, rfl⟩
    · rename_i hasMemory
      split
      · rename_i names
        exact ⟨names, rfl, rfl⟩
      · rename_i names
        split
        · exact ⟨nomem_negative, rfl, rfl⟩
        · rename_i control made
          have taken : ¬ (sndCtlFindId card.toSndCard.controls control.id = none ∧
              (sndCtlFindHole card.toSndCard.controls control.len card.lastNumid).1 = true) := by
            intro room
            refine refused ⟨?_, Bool.not_eq_false _ ▸ hasMemory, Int.not_lt.mp names, control, made, room⟩
            rw [good]
            exact Option.some_ne_none _
          obtain ⟨result, count, controls⟩ := addKctl_refused (c := card.newKctl file info size control) rfl taken
          dsimp only
          rw [if_pos result]
          exact ⟨result, count, controls⟩

theorem removeKctl_split (here : c ∈ card.controls) :
    ∃ before after, card.controls = before ++ c :: after ∧ (card.sndCtlRemoveKctl c).controls = before ++ after := by
  obtain ⟨before, after, split⟩ := List.append_of_mem here
  have apart := card.apart
  rw [split, List.map_append, List.map_cons, List.nodup_middle, List.nodup_cons, ← List.map_append] at apart
  refine ⟨before, after, split, ?_⟩
  have others : (before ++ after).filter (fun d => decide (d.ptr ≠ c.ptr)) = before ++ after := by
    refine List.filter_eq_self.mpr fun d inside => decide_eq_true fun same => apart.1 ?_
    rw [← same]
    exact List.mem_map_of_mem inside
  show card.controls.filter (fun d => decide (d.ptr ≠ c.ptr)) = before ++ after
  rw [split, List.filter_append, List.filter_cons_of_neg (by simp), ← List.filter_append, others]

theorem removeKctl_userControls (here : c ∈ card.controls) :
    card.userControls = (card.sndCtlRemoveKctl c).userControls + if c.user.isSome then 1 else 0 := by
  obtain ⟨before, after, split, removed⟩ := removeKctl_split here
  unfold userControls
  rw [split, removed, List.countP_append, List.countP_append, List.countP_cons, Nat.add_assoc]

theorem removeKctl_ne (here : c ∈ card.controls) : (card.sndCtlRemoveKctl c).controls ≠ card.controls := by
  obtain ⟨before, after, split, removed⟩ := removeKctl_split here
  intro same
  have lengths := congrArg List.length (removed.symm.trans (same.trans split))
  simp at lengths

theorem settled_refuse (counted : card.Counted) {req : ElemRequest} {err : Int} (refused : card.serve req = card.refuse err) :
    card.Settled req (card.exec req) := by
  unfold Settled exec
  rw [refused]
  exact ⟨counted, fun _ => ⟨rfl, rfl⟩⟩

theorem counted_of_kept {card' : CtlCard} (counted : card.Counted) (count : card'.userCtlCount = card.userCtlCount)
    (controls : card'.controls = card.controls) : card'.Counted := by
  have same : card'.userControls = card.userControls := congrArg (List.countP fun c : Kctl => c.user.isSome) controls
  exact ⟨count.trans (counted.count.trans same.symm), Nat.le_trans (Nat.le_of_eq count) counted.limit⟩

theorem settled_add (counted : card.Counted) :
    card.Settled (.add file info memory fault) (card.exec (.add file info memory fault)) := by
  by_cases full : MAX_USER_CONTROLS ≤ card.userCtlCount
  · exact settled_refuse counted (if_pos ⟨rfl, full⟩)
  have room : ¬ (false = false ∧ MAX_USER_CONTROLS ≤ card.userCtlCount) := fun both => full both.2
  by_cases few : info.count.toNat < 1
  · have refused : card.serve (.add file info memory fault) = card.refuse (-EINVAL) := by
      rw [serve, request, sndCtlElemAdd, if_neg room, if_pos few]
    exact settled_refuse counted refused
  cases found : card.findId info.id.byName with
  | some c =>
    have refused : card.serve (.add file info memory fault) = card.refuse (-EBUSY) := by
      rw [serve, request, sndCtlElemAdd, if_neg room, if_neg few, found]
      rfl
    exact settled_refuse counted refused
  | none =>
    have served : card.serve (.add file info memory fault) = card.addElem file info memory fault := by
      rw [serve, request, sndCtlElemAdd, if_neg room, if_neg few, found]
      rfl
    unfold Settled exec
    rw [served]
    by_cases addable : card.Addable info memory fault
    · obtain ⟨result, count, controls⟩ := addElem_added file addable
      refine ⟨⟨?_, ?_⟩, fun failed => ?_⟩
      · rw [count, controls, counted.count]
      · rw [count]
        exact Nat.lt_of_not_le full
      · rw [result] at failed
        exact absurd failed (by decide)
    · obtain ⟨-, count, controls⟩ := addElem_refused file addable
      exact ⟨counted_of_kept counted count controls, fun _ => ⟨controls, count⟩⟩

theorem settled_remove (counted : card.Counted) (id : SndCtlElemId) :
    card.Settled (.remove file id) (card.exec (.remove file id)) := by
  cases found : card.findId id with
  | none =>
    have refused : card.serve (.remove file id) = card.refuse (-ENOENT) := by
      rw [serve, request, sndCtlRemoveUserCtl, found]
    exact settled_refuse counted refused
  | some c =>
    by_cases driver : (c.vd 0).access &&& SNDRV_CTL_ELEM_ACCESS_USER = 0
    · have refused : card.serve (.remove file id) = card.refuse (-EINVAL) := by
        rw [serve, request, sndCtlRemoveUserCtl, found]
        exact if_pos driver
      exact settled_refuse counted refused
    by_cases owned : ∃ i < c.control.count, c.OwnedByOther file i
    · have refused : card.serve (.remove file id) = card.refuse (-EBUSY) := by
        rw [serve, request, sndCtlRemoveUserCtl, found]
        exact (if_neg driver).trans (if_pos owned)
      exact settled_refuse counted refused
    have served : card.serve (.remove file id) =
        ⟨0, { card.sndCtlRemoveKctl c with userCtlCount := (card.sndCtlRemoveKctl c).userCtlCount - 1 }, []⟩ := by
      rw [serve, request, sndCtlRemoveUserCtl, found]
      exact (if_neg driver).trans (if_neg owned)
    have user : c.user.isSome := (c.marked 0).mp driver
    have less := removeKctl_userControls (mem_of_kctlAt found)
    rw [if_pos user] at less
    have count : (card.sndCtlRemoveKctl c).userCtlCount = card.userCtlCount := rfl
    unfold Settled exec
    rw [served]
    refine ⟨⟨?_, ?_⟩, fun failed => absurd failed (Int.lt_irrefl 0)⟩
    · show (card.sndCtlRemoveKctl c).userCtlCount - 1 = (card.sndCtlRemoveKctl c).userControls
      rw [count, counted.count, less, Nat.add_sub_cancel]
    · exact Nat.le_trans (Nat.sub_le _ _) counted.limit

theorem serve_replace (enough : ¬ info.count.toNat < 1) (found : card.findId info.id.byName = some c) :
    card.serve (.replace file info memory fault) = (card.sndCtlRemoveKctl c).addElem file info memory fault := by
  rw [serve, request, sndCtlElemAdd, if_neg fun both => absurd both.1 (by decide), if_neg enough, found]
  rfl

theorem settled_replace_iff (counted : card.Counted) :
    card.Settled (.replace file info memory fault) (card.exec (.replace file info memory fault)) ↔
      card.ReplaceSettles info memory fault := by
  have notAdd : ¬ (true = false ∧ MAX_USER_CONTROLS ≤ card.userCtlCount) := fun both => absurd both.1 (by decide)
  by_cases few : info.count.toNat < 1
  · have refused : card.serve (.replace file info memory fault) = card.refuse (-EINVAL) := by
      rw [serve, request, sndCtlElemAdd, if_neg notAdd, if_pos few]
    exact iff_of_true (settled_refuse counted refused) fun _ enough _ => absurd enough (Nat.not_le.mpr few)
  cases found : card.findId info.id.byName with
  | none =>
    have refused : card.serve (.replace file info memory fault) = card.refuse (-ENOENT) := by
      rw [serve, request, sndCtlElemAdd, if_neg notAdd, if_neg few, found]
      rfl
    refine iff_of_true (settled_refuse counted refused) fun _ _ found' => ?_
    rw [found] at found'
    cases found'
  | some c =>
    have only : card.ReplaceSettles info memory fault ↔ c.user = none ∧ card.userCtlCount < MAX_USER_CONTROLS ∧
        (card.sndCtlRemoveKctl c).Addable info memory fault := by
      refine ⟨fun settles => settles c (Nat.not_lt.mp few) found, fun settles d _ there => ?_⟩
      obtain rfl := Option.some.inj (found.symm.trans there)
      exact settles
    have here := mem_of_kctlAt found
    have less := removeKctl_userControls here
    have before : (card.sndCtlRemoveKctl c).userCtlCount = card.userCtlCount := rfl
    rw [only]
    unfold Settled exec
    rw [serve_replace few found]
    by_cases addable : (card.sndCtlRemoveKctl c).Addable info memory fault
    · obtain ⟨result, count, controls⟩ := addElem_added file addable
      rw [before] at count
      constructor
      · rintro ⟨after, -⟩
        have same := after.count
        rw [count, controls, counted.count, less] at same
        refine ⟨?_, ?_, addable⟩
        · cases user : c.user with
          | none => rfl
          | some ue =>
            rw [user] at same
            simp at same
        · exact Nat.le_trans (Nat.le_of_eq count.symm) after.limit
      · rintro ⟨driver, limit, -⟩
        rw [driver] at less
        refine ⟨⟨?_, Nat.le_trans (Nat.le_of_eq count) limit⟩, fun failed => ?_⟩
        · rw [count, controls, counted.count, less]
          rfl
        · rw [result] at failed
          exact absurd failed (by decide)
    · obtain ⟨result, -, controls⟩ := addElem_refused file addable
      refine iff_of_false (fun settled => removeKctl_ne here ?_) fun settles => addable settles.2.2
      exact controls.symm.trans (settled.2 result).1

theorem settled_iff (counted : card.Counted) (req : ElemRequest) :
    card.Settled req (card.exec req) ↔ card.RequestSettles req := by
  cases req with
  | add file info memory fault => exact iff_of_true (settled_add counted) trivial
  | replace file info memory fault => exact settled_replace_iff counted
  | remove file id => exact iff_of_true (settled_remove counted id) trivial

/-- The accounts stay right and failures change nothing exactly as long as every REPLACE settles. -/
theorem requests_settled_iff (card : CtlCard) (start : card.Counted) (reqs : List ElemRequest) :
    Throughout exec Settled card reqs ↔ Throughout exec (fun card req _ => card.RequestSettles req) card reqs := by
  have run : Throughout exec (fun _ _ _ => True) card reqs := Throughout.of_mem fun _ _ _ => trivial
  exact throughout_iff Counted Settled RequestSettles (fun _ req counted _ => settled_iff counted req)
    (fun _ req counted _ settles => ((settled_iff counted req).mpr settles).1) start run

theorem twoKctlsCard_counted : twoKctlsCard.Counted := ⟨by decide, by decide⟩

/-- A driver's control is replaced, a user control removed, and another one added. -/
theorem requests_settled_twoKctls :
    Throughout exec Settled twoKctlsCard
      [.replace 0 (usersInfo 77) true false, .remove 1 (usersInfo 85).id, .add 1 (usersInfo 90) true false] := by
  refine (requests_settled_iff twoKctlsCard twoKctlsCard_counted _).mpr ⟨?_, trivial, trivial, trivial⟩
  intro c _ found
  have first : twoKctlsCard.findId (usersInfo 77).id.byName = some (twoKctls.get ⟨0, by decide⟩) := rfl
  obtain rfl := Option.some.inj (first.symm.trans found)
  exact ⟨rfl, by decide, ⟨by decide, rfl, by decide, _, rfl, rfl, rfl⟩⟩

/-- A file replaces its own control: the count goes up, the number of controls does not. -/
theorem replaced_counted_twice :
    ¬ Throughout exec Settled twoKctlsCard [.replace 1 (usersInfo 85) true false] :=
  fun run => absurd run.1.1.count (by decide)

end CtlCard

end AlsaDriver.Control
