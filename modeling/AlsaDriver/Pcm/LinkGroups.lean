import Mathlib.Tactic.SplitIfs
import AlsaDriver.Lib.Runs
import AlsaDriver.Pcm.Link

namespace AlsaDriver.Pcm

open ListHead Runs

variable {Sub Grp : Type*}

abbrev Members (Sub Grp : Type*) := GroupRef Sub Grp → List Sub

def LinkState.Live (h : LinkState Sub Grp) (members : Members Sub Grp) : GroupRef Sub Grp → Prop
  | .own s => s ∈ members (.own s)
  | .shared g => h.allocated g = true

def ringNodes (members : Members Sub Grp) (ref : GroupRef Sub Grp) : List (LinkNode Sub Grp) :=
  (members ref).map .linkList

/-- The pointers describe the groups `members`; the substreams in `loose` are on no list. -/
structure LinkState.Represents (h : LinkState Sub Grp) (members : Members Sub Grp) (loose : List Sub) : Prop where
  ring : ∀ ref, h.Live members ref → h.links.Ring (.substreams ref) (ringNodes members ref)
  member : ∀ s ref, s ∈ members ref ↔ s ∉ loose ∧ h.group s = ref
  own : ∀ s t, s ∈ members (.own t) → s = t
  live : ∀ s g, s ∈ members (.shared g) → h.allocated g = true
  count : ∀ g, h.allocated g = true → h.count (.shared g) = (members (.shared g)).length

theorem LinkState.Represents.nodup {h : LinkState Sub Grp} {members : Members Sub Grp} {loose : List Sub}
    (rep : h.Represents members loose) (ref : GroupRef Sub Grp) (live : h.Live members ref) :
    (members ref).Nodup := by
  have nodes := (List.nodup_cons.mp (rep.ring ref live).nodup).2
  exact List.Nodup.of_map _ nodes

theorem LinkState.Represents.unallocated {h : LinkState Sub Grp} {members : Members Sub Grp} {loose : List Sub}
    (rep : h.Represents members loose) {g : Grp} (free : h.allocated g = false) :
    members (.shared g) = [] := by
  rw [List.eq_nil_iff_forall_not_mem]
  intro s inside
  rw [rep.live s g inside] at free
  cases free

theorem mem_ringNodes {members : Members Sub Grp} {ref : GroupRef Sub Grp} {s : Sub} :
    LinkNode.linkList s ∈ ringNodes members ref ↔ s ∈ members ref := by
  simp [ringNodes]

theorem substreams_notMem {members : Members Sub Grp} {ref other : GroupRef Sub Grp} :
    LinkNode.substreams other ∉ ringNodes members ref := by
  simp [ringNodes]

theorem linkList_notMem {members : Members Sub Grp} {ref head : GroupRef Sub Grp} {s : Sub}
    (outside : s ∉ members ref) : LinkNode.linkList s ∉ LinkNode.substreams head :: ringNodes members ref := by
  intro inside
  rcases List.mem_cons.mp inside with first | later
  · cases first
  · exact outside (mem_ringNodes.mp later)

variable [DecidableEq Sub] [DecidableEq Grp]

/-- The members after `s` has moved to the end of `ref`. -/
def Members.move (members : Members Sub Grp) (s : Sub) (ref : GroupRef Sub Grp) : Members Sub Grp :=
  Function.update (Function.update members (.own s) []) ref (members ref ++ [s])

section Local

variable {h : LinkState Sub Grp} {members : Members Sub Grp} {s : Sub} {loose : List Sub}

theorem relinkToLocal_represents (rep : h.Represents members (s :: loose)) (outside : s ∉ loose) :
    (relinkToLocal h s).Represents (Function.update members (.own s) [s]) loose := by
  have absent (ref : GroupRef Sub Grp) : s ∉ members ref := by
    intro inside
    exact ((rep.member s ref).mp inside).1 List.mem_cons_self
  have fresh : h.Live members (.own s) → False := absent (.own s)
  constructor
  · intro ref live
    by_cases same : ref = .own s
    · subst same
      have alone := (h.links.ring_initListHead (.substreams (.own s))).addTail
        (show LinkNode.linkList s ∉ [LinkNode.substreams (.own s)] by simp)
      simpa [ringNodes, relinkToLocal] using alone
    · have before : h.Live members ref := by
        cases ref with
        | own t => simpa [LinkState.Live, same] using live
        | shared g => exact live
      have nodes : ringNodes (Function.update members (.own s) [s]) ref = ringNodes members ref := by
        simp [ringNodes, same]
      rw [nodes]
      apply (rep.ring ref before).frame
      intro x inside
      have head : x ≠ .substreams (.own s) := by
        rintro rfl
        rcases List.mem_cons.mp inside with first | later
        · exact same (LinkNode.substreams.inj first).symm
        · exact substreams_notMem later
      have node : x ≠ .linkList s := by
        rintro rfl
        exact linkList_notMem (absent ref) inside
      have added := listAddTail_other (h.links.ring_initListHead (.substreams (.own s)))
        (by simpa using head) node
      have started := initListHead_other h.links head
      exact ⟨added.1.trans started.1, added.2.trans started.2⟩
  · intro x ref
    by_cases same : x = s
    · subst same
      by_cases here : ref = .own x
      · subst here
        simp [relinkToLocal, outside]
      · simp [relinkToLocal, here, absent ref, Ne.symm here]
    · have others : x ∉ s :: loose ↔ x ∉ loose := by simp [same]
      have group : (relinkToLocal h s).group x = h.group x := by simp [relinkToLocal, same]
      rw [group, ← others]
      by_cases here : ref = .own s
      · subst here
        rw [Function.update_self, ← rep.member]
        constructor
        · intro inside
          exact absurd (List.mem_singleton.mp inside) same
        · intro inside
          exact absurd (rep.own x s inside) same
      · rw [Function.update_of_ne here]
        exact rep.member x ref
  · intro x t inside
    by_cases here : t = s
    · subst here
      simpa using inside
    · rw [Function.update_of_ne (by simpa using here)] at inside
      exact rep.own x t inside
  · intro x g inside
    rw [Function.update_of_ne (by simp)] at inside
    exact rep.live x g inside
  · intro g allocated
    rw [Function.update_of_ne (by simp)]
    exact rep.count g allocated

end Local

section Join

variable {h : LinkState Sub Grp} {members : Members Sub Grp}

/-- `s` joins the list of an allocated group. -/
def joinGroup (h : LinkState Sub Grp) (s : Sub) (g : Grp) : LinkState Sub Grp :=
  { h with
    links := listAddTail h.links (.linkList s) (.substreams (.shared g))
    count := Function.update h.count (.shared g) (h.count (.shared g) + 1)
    group := Function.update h.group s (.shared g) }

def emptyGroup (h : LinkState Sub Grp) (g : Grp) : LinkState Sub Grp :=
  { kmalloc h g with
    links := initListHead h.links (.substreams (.shared g))
    count := Function.update h.count (.shared g) 0 }

theorem linkFirst_eq (h : LinkState Sub Grp) (s : Sub) (g : Grp) :
    linkFirst (kmalloc h g) s (.shared g) = joinGroup (emptyGroup h g) s g := by
  simp [linkFirst, joinGroup, emptyGroup, kmalloc]

theorem linkNext_eq {s : Sub} {g : Grp} (group : h.group s = .shared g) (s1 : Sub) :
    linkNext h s s1 = joinGroup h s1 g := by
  simp [linkNext, joinGroup, group]

theorem move_apply {s : Sub} {g : Grp} (members : Members Sub Grp) (ref : GroupRef Sub Grp) :
    members.move s (.shared g) ref =
      if ref = .shared g then members (.shared g) ++ [s] else if ref = .own s then [] else members ref := by
  unfold Members.move
  by_cases same : ref = .shared g
  · subst same
    rw [Function.update_self, if_pos rfl]
  · rw [Function.update_of_ne same, if_neg same]
    by_cases own : ref = .own s
    · subst own
      rw [Function.update_self, if_pos rfl]
    · rw [Function.update_of_ne own, if_neg own]

theorem joinGroup_represents (rep : h.Represents members []) {s : Sub} {g : Grp} (alone : h.group s = .own s)
    (allocated : h.allocated g = true) : (joinGroup h s g).Represents (members.move s (.shared g)) [] := by
  have position (ref : GroupRef Sub Grp) : s ∈ members ref ↔ ref = .own s := by
    rw [rep.member, alone]
    simp [eq_comm]
  have absent : s ∉ members (.shared g) := by
    rw [position]
    simp
  have target := rep.ring (.shared g) allocated
  constructor
  · intro ref live
    by_cases same : ref = .shared g
    · subst same
      have longer := target.addTail (linkList_notMem absent)
      simpa [ringNodes, joinGroup, move_apply] using longer
    · have other : ref ≠ .own s := by
        rintro rfl
        simp [LinkState.Live, move_apply] at live
      have nodes : ringNodes (members.move s (.shared g)) ref = ringNodes members ref := by
        simp [ringNodes, move_apply, same, other]
      have before : h.Live members ref := by
        cases ref with
        | own t => simpa [LinkState.Live, move_apply, other] using live
        | shared g' => exact live
      rw [nodes]
      apply (rep.ring ref before).frame
      intro x inside
      have node : x ≠ .linkList s := by
        rintro rfl
        exact linkList_notMem (fun here => other ((position ref).mp here)) inside
      apply listAddTail_other target _ node
      intro here
      rcases List.mem_cons.mp here with rfl | there
      · rcases List.mem_cons.mp inside with first | later
        · exact same (LinkNode.substreams.inj first).symm
        · exact substreams_notMem later
      · rw [ringNodes, List.mem_map] at there
        obtain ⟨t, listed, rfl⟩ := there
        rcases List.mem_cons.mp inside with first | later
        · cases first
        · have elsewhere := (rep.member t ref).mp (mem_ringNodes.mp later)
          have group := (rep.member t (.shared g)).mp listed
          exact same (elsewhere.2.symm.trans group.2)
  · intro x ref
    rw [move_apply]
    by_cases this : x = s
    · subst this
      have group : (joinGroup h x g).group x = .shared g := by simp [joinGroup]
      rw [group]
      split_ifs with first second
      · simp [first]
      · simp [Ne.symm first]
      · simp [position, second, Ne.symm first]
    · have group : (joinGroup h s g).group x = h.group x := by simp [joinGroup, this]
      rw [group, ← rep.member]
      split_ifs with first second
      · simp [first, this]
      · subst second
        constructor
        · intro inside
          cases inside
        · intro inside
          exact absurd (rep.own x s inside) this
      · exact Iff.rfl
  · intro x t inside
    rw [move_apply, if_neg (by simp)] at inside
    split_ifs at inside
    · cases inside
    · exact rep.own x t inside
  · intro x g' inside
    rw [move_apply] at inside
    split_ifs at inside with first second
    · rw [GroupRef.shared.inj first]
      exact allocated
    · cases inside
    · exact rep.live x g' inside
  · intro g' live
    rw [move_apply]
    by_cases same : g' = g
    · subst same
      have before := rep.count g' allocated
      simp [joinGroup, before]
    · have before := rep.count g' live
      simpa [joinGroup, same] using before

theorem emptyGroup_represents (rep : h.Represents members []) {g : Grp} (free : h.allocated g = false) :
    (emptyGroup h g).Represents members [] := by
  have empty := rep.unallocated free
  have others (g' : Grp) (other : g' ≠ g) (live : (emptyGroup h g).allocated g' = true) :
      h.allocated g' = true := by
    simpa [emptyGroup, kmalloc, other] using live
  constructor
  · intro ref live
    by_cases same : ref = .shared g
    · subst same
      have nodes : ringNodes members (.shared g) = [] := by simp [ringNodes, empty]
      rw [nodes]
      exact h.links.ring_initListHead (.substreams (.shared g))
    · have before : h.Live members ref := by
        cases ref with
        | own t => exact live
        | shared g' => exact others g' (by simpa using same) live
      apply (rep.ring ref before).frame
      intro x inside
      apply initListHead_other
      rintro rfl
      rcases List.mem_cons.mp inside with first | later
      · exact same (LinkNode.substreams.inj first).symm
      · exact substreams_notMem later
  · exact rep.member
  · exact rep.own
  · intro x g' inside
    have before := rep.live x g' inside
    by_cases same : g' = g
    · simp [emptyGroup, kmalloc, same]
    · simpa [emptyGroup, kmalloc, same] using before
  · intro g' live
    by_cases same : g' = g
    · subst same
      simp [emptyGroup, empty]
    · have before := rep.count g' (others g' same live)
      simpa [emptyGroup, same] using before

end Join

section Leave

variable {h : LinkState Sub Grp} {members : Members Sub Grp} {g : Grp}

theorem unlinkDetach_represents (rep : h.Represents members []) {s : Sub} {left right : List Sub}
    (listed : members (.shared g) = left ++ s :: right) :
    (unlinkDetach h s).Represents (Function.update members (.shared g) (left ++ right)) [s] := by
  have inside : s ∈ members (.shared g) := by simp [listed]
  have group := ((rep.member s (.shared g)).mp inside).2
  have allocated := rep.live s g inside
  have target := rep.ring (.shared g) allocated
  have different := rep.nodup (.shared g) allocated
  have nodes : ringNodes members (.shared g) =
      left.map .linkList ++ LinkNode.linkList s :: right.map .linkList := by
    simp [ringNodes, listed]
  rw [nodes] at target
  rw [listed] at different
  have gone : s ∉ left ++ right := (List.nodup_middle.mp different).notMem
  constructor
  · intro ref live
    by_cases same : ref = .shared g
    · subst same
      simpa [ringNodes, unlinkDetach] using target.delete .poison
    · have before : h.Live members ref := by
        cases ref with
        | own t => simpa [LinkState.Live] using live
        | shared g' => exact live
      have kept : ringNodes (Function.update members (.shared g) (left ++ right)) ref = ringNodes members ref := by
        simp [ringNodes, same]
      rw [kept]
      apply (rep.ring ref before).frame
      intro x here
      apply listDel_other .poison target
      rw [← nodes]
      intro there
      rcases List.mem_cons.mp there with rfl | later
      · rcases List.mem_cons.mp here with first | later
        · exact same (LinkNode.substreams.inj first).symm
        · exact substreams_notMem later
      · rw [ringNodes, List.mem_map] at later
        obtain ⟨t, member, rfl⟩ := later
        rcases List.mem_cons.mp here with first | elsewhere
        · cases first
        · have one := (rep.member t ref).mp (mem_ringNodes.mp elsewhere)
          have two := (rep.member t (.shared g)).mp member
          exact same (one.2.symm.trans two.2)
  · intro x ref
    have group' : (unlinkDetach h s).group x = h.group x := rfl
    have before := rep.member x ref
    rw [group', List.mem_singleton]
    by_cases same : ref = .shared g
    · subst same
      rw [Function.update_self]
      rw [listed] at before
      constructor
      · intro member
        refine ⟨fun this => gone (this ▸ member), (before.mp ?_).2⟩
        simp only [List.mem_append, List.mem_cons] at member ⊢
        tauto
      · rintro ⟨other, here⟩
        have member := before.mpr ⟨List.not_mem_nil, here⟩
        simp only [List.mem_append, List.mem_cons] at member ⊢
        tauto
    · rw [Function.update_of_ne same, before]
      constructor
      · rintro ⟨-, here⟩
        refine ⟨?_, here⟩
        rintro rfl
        exact same (here.symm.trans group)
      · rintro ⟨-, here⟩
        exact ⟨List.not_mem_nil, here⟩
  · intro x t member
    rw [Function.update_of_ne (by simp)] at member
    exact rep.own x t member
  · intro x g' member
    by_cases same : g' = g
    · subst same
      exact allocated
    · rw [Function.update_of_ne (by simpa using same)] at member
      exact rep.live x g' member
  · intro g' live
    have before := rep.count g' live
    by_cases same : g' = g
    · subst same
      rw [listed] at before
      simp only [unlinkDetach, group, Function.update_self, before, List.length_append, List.length_cons]
      omega
    · simpa [unlinkDetach, group, same] using before

theorem freed_represents {s t : Sub} (rep : h.Represents members [s]) (last : members (.shared g) = [t]) :
    LinkState.Represents { h with allocated := Function.update h.allocated g false }
      (Function.update members (.shared g) []) [t, s] := by
  have inside : t ∈ members (.shared g) := by simp [last]
  have member := (rep.member t (.shared g)).mp inside
  constructor
  · intro ref live
    have same : ref ≠ .shared g := by
      rintro rfl
      simp [LinkState.Live] at live
    have kept : ringNodes (Function.update members (.shared g) []) ref = ringNodes members ref := by
      simp [ringNodes, same]
    rw [kept]
    apply rep.ring ref
    cases ref with
    | own x => simpa [LinkState.Live] using live
    | shared g' =>
      have other : g' ≠ g := by simpa using same
      simpa [LinkState.Live, other] using live
  · intro x ref
    by_cases same : ref = .shared g
    · subst same
      have before := rep.member x (.shared g)
      rw [last, List.mem_singleton] at before
      simp only [Function.update_self, List.not_mem_nil, false_iff, List.mem_cons, not_and]
      intro outside group
      have this := before.mpr ⟨by simpa using fun here => outside (Or.inr (Or.inl here)), group⟩
      exact outside (Or.inl this)
    · rw [Function.update_of_ne same, rep.member]
      constructor
      · rintro ⟨outside, group⟩
        refine ⟨?_, group⟩
        intro here
        rcases List.mem_cons.mp here with rfl | later
        · exact same (group.symm.trans member.2)
        · exact outside later
      · rintro ⟨outside, group⟩
        exact ⟨fun here => outside (List.mem_cons_of_mem t here), group⟩
  · intro x y member
    rw [Function.update_of_ne (by simp)] at member
    exact rep.own x y member
  · intro x g' member
    by_cases same : g' = g
    · subst same
      simp at member
    · rw [Function.update_of_ne (by simpa using same)] at member
      simpa [same] using rep.live x g' member
  · intro g' live
    have same : g' ≠ g := by
      rintro rfl
      simp at live
    rw [Function.update_of_ne (by simpa using same)]
    exact rep.count g' (by simpa [same] using live)

end Leave

end AlsaDriver.Pcm
