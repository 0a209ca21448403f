import AlsaDriver.Pcm.LinkGroups

namespace AlsaDriver.Pcm

open ListHead Runs

variable {Sub Grp : Type*} [DecidableEq Sub] [DecidableEq Grp]

/-- Every substream is on the list of exactly one group, which is its `group`; allocated groups
    have at least two substreams and count them; only allocated memory was freed. -/
def LinkState.Partitioned (h : LinkState Sub Grp) : Prop :=
  ∃ members, h.Represents members [] ∧ (∀ g, h.allocated g = true → 2 ≤ (members (.shared g)).length) ∧
    h.fault = false

section Unlink

variable {h : LinkState Sub Grp}

theorem LinkState.Partitioned.group_cases (part : h.Partitioned) (s : Sub) :
    (sndPcmStreamLinked h s = false ∧ h.group s = .own s) ∨
    (sndPcmStreamLinked h s = true ∧ ∃ g, h.group s = .shared g ∧ h.allocated g = true) := by
  obtain ⟨members, rep, -, -⟩ := part
  have inside := (rep.member s (h.group s)).mpr ⟨List.not_mem_nil, rfl⟩
  cases group : h.group s with
  | own t =>
    rw [group] at inside
    have same := rep.own s t inside
    subst same
    simp [sndPcmStreamLinked, group]
  | shared g =>
    rw [group] at inside
    simp [sndPcmStreamLinked, group, rep.live s g inside]

omit [DecidableEq Sub] [DecidableEq Grp] in
theorem groupFirst_of_ring {members : Members Sub Grp} {ref : GroupRef Sub Grp} {t : Sub}
    (ring : h.links.Ring (.substreams ref) (ringNodes members ref)) (single : members ref = [t]) :
    groupFirst h ref = some t := by
  have path := ring.path
  rw [ringNodes, single] at path
  have first : h.links.next (.substreams ref) = .linkList t := path.1.1
  simp [groupFirst, first]

theorem sndPcmUnlink_last {s t : Sub} {g : Grp} {members : Members Sub Grp} (group : h.group s = .shared g)
    (allocated : h.allocated g = true) (different : t ≠ s)
    (rep : (unlinkDetach h s).Represents members [s]) (single : members (.shared g) = [t]) :
    (sndPcmUnlink h s).2 =
      relinkToLocal (relinkToLocal { unlinkDetach h s with allocated := Function.update h.allocated g false } t) s := by
  have linked : sndPcmStreamLinked h s = true := by simp [sndPcmStreamLinked, group]
  have count : (unlinkDetach h s).count (.shared g) = 1 := by
    rw [rep.count g allocated, single]
    rfl
  have first := groupFirst_of_ring (rep.ring (.shared g) allocated) single
  have pointer : (unlinkDetach h s).group s = .shared g := group
  have after : (relinkToLocal (unlinkDetach h s) t).group s = .shared g := by
    simp [relinkToLocal, different.symm, pointer]
  have memory : (relinkToLocal (unlinkDetach h s) t).allocated g = true := allocated
  simp only [sndPcmUnlink, linked, pointer, count, first, after, kfree, memory, Bool.not_true, beq_self_eq_true,
    Bool.false_eq_true, if_false, if_true]
  rfl

theorem sndPcmUnlink_more {s : Sub} {g : Grp} (group : h.group s = .shared g)
    (count : (unlinkDetach h s).count (.shared g) ≠ 1) :
    (sndPcmUnlink h s).2 = relinkToLocal (unlinkDetach h s) s := by
  have linked : sndPcmStreamLinked h s = true := by simp [sndPcmStreamLinked, group]
  have pointer : (unlinkDetach h s).group s = .shared g := group
  simp [sndPcmUnlink, linked, pointer, count]

theorem sndPcmUnlink_partitioned (part : h.Partitioned) (s : Sub) :
    (sndPcmUnlink h s).2.Partitioned ∧
    ∀ g, h.group s = .shared g → h.count (.shared g) = 2 →
      (sndPcmUnlink h s).2.allocated g = false ∧
        ∀ t, h.group t = .shared g → (sndPcmUnlink h s).2.group t = .own t := by
  rcases part.group_cases s with ⟨alone, group⟩ | ⟨linked, g, group, allocated⟩
  · have unchanged : (sndPcmUnlink h s).2 = h := by simp [sndPcmUnlink, alone]
    rw [unchanged]
    refine ⟨part, ?_⟩
    intro g shared
    rw [group] at shared
    cases shared
  obtain ⟨members, rep, pairs, sound⟩ := part
  have inside := (rep.member s (.shared g)).mpr ⟨List.not_mem_nil, group⟩
  obtain ⟨left, right, listed⟩ := List.append_of_mem inside
  have nodup := rep.nodup (.shared g) allocated
  rw [listed] at nodup
  have gone : s ∉ left ++ right := (List.nodup_middle.mp nodup).notMem
  have detached := unlinkDetach_represents rep listed
  have size := pairs g allocated
  have count := rep.count g allocated
  have remaining := detached.count g allocated
  rw [listed] at size count
  rw [Function.update_self] at remaining
  simp only [List.length_append, List.length_cons] at size count remaining
  have others (g' : Grp) (other : g' ≠ g) (before : h.allocated g' = true) :
      2 ≤ (members (.shared g')).length := pairs g' before
  by_cases two : left.length + right.length = 1
  · obtain ⟨t, single⟩ := List.length_eq_one_iff.mp ((List.length_append).trans two)
    have different : t ≠ s := by
      rintro rfl
      exact gone (by simp [single])
    have single' : Function.update members (.shared g) (left ++ right) (.shared g) = [t] := by
      rw [Function.update_self, single]
    rw [sndPcmUnlink_last group allocated different detached single']
    have free := freed_represents detached single'
    have first := relinkToLocal_represents free (by simpa using different)
    have second := relinkToLocal_represents first List.not_mem_nil
    constructor
    · refine ⟨_, second, ?_, sound⟩
      intro g' live
      have other : g' ≠ g := by
        rintro rfl
        simp [relinkToLocal] at live
      have before : h.allocated g' = true := by simpa [relinkToLocal, other] using live
      simpa [other] using others g' other before
    · intro g' shared _
      rw [group] at shared
      obtain rfl := GroupRef.shared.inj shared
      constructor
      · simp [relinkToLocal]
      · intro x here
        have member := (rep.member x (.shared g)).mpr ⟨List.not_mem_nil, here⟩
        have cases : x = s ∨ x = t := by
          rw [listed] at member
          have either : x = s ∨ x ∈ left ++ right := by
            simp only [List.mem_append, List.mem_cons] at member ⊢
            tauto
          rcases either with same | rest
          · exact Or.inl same
          · rw [single] at rest
            exact Or.inr (List.mem_singleton.mp rest)
        rcases cases with rfl | rfl
        · simp [relinkToLocal]
        · simp [relinkToLocal, different]
  · have many : (unlinkDetach h s).count (.shared g) ≠ 1 := by
      rw [remaining]
      omega
    rw [sndPcmUnlink_more group many]
    have local' := relinkToLocal_represents detached List.not_mem_nil
    constructor
    · refine ⟨_, local', ?_, sound⟩
      intro g' live
      by_cases same : g' = g
      · subst same
        simp only [ne_eq, reduceCtorEq, not_false_eq_true, Function.update_of_ne, Function.update_self,
          List.length_append]
        omega
      · simpa [same] using others g' same live
    · intro g' shared exactly
      rw [group] at shared
      obtain rfl := GroupRef.shared.inj shared
      omega

end Unlink

section Link

variable {h : LinkState Sub Grp}

omit [DecidableEq Sub] [DecidableEq Grp] in
theorem LinkState.Partitioned.setState (part : h.Partitioned) (state : Sub → Option SndPcmState) :
    LinkState.Partitioned { h with state := state } := by
  obtain ⟨members, rep, pairs, sound⟩ := part
  exact ⟨members, ⟨rep.ring, rep.member, rep.own, rep.live, rep.count⟩, pairs, sound⟩

omit [DecidableEq Sub] in
theorem kfree_kmalloc {g : Grp} (free : h.allocated g = false) : kfree (kmalloc h g) (.shared g) = h := by
  have same : Function.update (Function.update h.allocated g true) g false = h.allocated := by
    rw [Function.update_idem, ← free, Function.update_eq_self]
  simp [kfree, kmalloc, same]

theorem sndPcmLink_first {s s1 : Sub} {g : Grp} (part : h.Partitioned) (free : h.allocated g = false)
    (alone : h.group s = .own s) (alone1 : h.group s1 = .own s1) (different : s1 ≠ s) :
    (linkNext (linkFirst (kmalloc h g) s (.shared g)) s s1).Partitioned := by
  obtain ⟨members, rep, pairs, sound⟩ := part
  have empty := rep.unallocated free
  have allocated : (emptyGroup h g).allocated g = true := by simp [emptyGroup, kmalloc]
  have first := joinGroup_represents (emptyGroup_represents rep free) alone allocated
  have pointer : (joinGroup (emptyGroup h g) s g).group s = .shared g := by simp [joinGroup]
  have other : (joinGroup (emptyGroup h g) s g).group s1 = .own s1 := by
    have kept : (emptyGroup h g).group s1 = .own s1 := alone1
    simp [joinGroup, different, kept]
  have second := joinGroup_represents first other allocated
  rw [linkFirst_eq, linkNext_eq pointer]
  refine ⟨_, second, ?_, sound⟩
  intro g' live
  by_cases same : g' = g
  · subst same
    simp [move_apply, empty]
  · have before : h.allocated g' = true := by
      simpa [joinGroup, emptyGroup, kmalloc, same] using live
    simpa [move_apply, same] using pairs g' before

theorem sndPcmLink_next {s s1 : Sub} {g : Grp} (part : h.Partitioned) (group : h.group s = .shared g)
    (allocated : h.allocated g = true) (alone : h.group s1 = .own s1) : (linkNext h s s1).Partitioned := by
  obtain ⟨members, rep, pairs, sound⟩ := part
  rw [linkNext_eq group]
  refine ⟨_, joinGroup_represents rep alone allocated, ?_, sound⟩
  intro g' live
  have before := pairs g' live
  by_cases same : g' = g
  · subst same
    simp only [move_apply, if_true, List.length_append, List.length_singleton]
    omega
  · simpa [move_apply, same] using before

def LinkOp.SelfLink (h : LinkState Sub Grp) : LinkOp Sub Grp → Prop
  | .link s fd memory => fd = some s ∧ memory.isSome ∧ h.state s ≠ some .open ∧ sndPcmStreamLinked h s = false
  | _ => False

theorem sndPcmLink_partitioned (part : h.Partitioned) {s : Sub} {fd : Option Sub} {memory : Option Grp}
    (fresh : ∀ g ∈ memory, h.allocated g = false) (other : ¬ (LinkOp.link s fd memory).SelfLink h) :
    (sndPcmLink h s fd memory).2.Partitioned := by
  unfold sndPcmLink
  split
  · exact part
  · exact part
  · rename_i s1 g
    have free := fresh g rfl
    dsimp only
    split_ifs with states linked alone
    · rwa [kfree_kmalloc free]
    · rwa [kfree_kmalloc free]
    · have unlinked1 : sndPcmStreamLinked h s1 = false := by simpa using linked
      have unlinked : sndPcmStreamLinked h s = false := by simpa using alone
      have group := (part.group_cases s).resolve_right fun both => absurd (unlinked.symm.trans both.1) (by decide)
      have group1 := (part.group_cases s1).resolve_right fun both => absurd (unlinked1.symm.trans both.1) (by decide)
      apply sndPcmLink_first part free group.2 group1.2
      rintro rfl
      apply other
      simp only [Bool.or_eq_true, not_or] at states
      exact ⟨rfl, rfl, by simpa [kmalloc] using states.1, unlinked⟩
    · have unlinked1 : sndPcmStreamLinked h s1 = false := by simpa using linked
      have shared : sndPcmStreamLinked h s = true := by simpa using alone
      have group1 := (part.group_cases s1).resolve_right fun both => absurd (unlinked1.symm.trans both.1) (by decide)
      obtain ⟨-, g₀, group, allocated⟩ := (part.group_cases s).resolve_left
        fun both => absurd (shared.symm.trans both.1) (by decide)
      have unused : kfree (linkNext (kmalloc h g) s s1) (.shared g) = linkNext h s s1 :=
        kfree_kmalloc (h := linkNext h s s1) free
      rw [unused]
      exact sndPcmLink_next part group allocated group1.2

theorem sndPcmLink_self {s : Sub} {g : Grp} (part : h.Partitioned) (free : h.allocated g = false)
    (state : h.state s ≠ some .open) (alone : sndPcmStreamLinked h s = false) :
    ¬ (sndPcmLink h s (some s) (some g)).2.Partitioned := by
  rintro ⟨members, rep, -, -⟩
  have result : (sndPcmLink h s (some s) (some g)).2 = linkNext (linkFirst (kmalloc h g) s (.shared g)) s s := by
    have unlinked : sndPcmStreamLinked (kmalloc h g) s = false := alone
    have state' : ((kmalloc h g).state s == some .open) = false := by simpa [kmalloc] using state
    simp [sndPcmLink, unlinked, state']
  rw [result] at rep
  have allocated : (linkNext (linkFirst (kmalloc h g) s (.shared g)) s s).allocated g = true := by
    simp [linkNext, linkFirst, kmalloc]
  have count := rep.count g allocated
  have two : (linkNext (linkFirst (kmalloc h g) s (.shared g)) s s).count (.shared g) = 2 := by
    simp [linkNext, linkFirst]
  have nodup := rep.nodup (.shared g) allocated
  have only (x : Sub) (inside : x ∈ members (.shared g)) : x = s := by
    by_contra other
    have group : h.group x = .shared g := by
      simpa [linkNext, linkFirst, kmalloc, other] using ((rep.member x (.shared g)).mp inside).2
    rcases part.group_cases x with ⟨-, own⟩ | ⟨-, g', shared, live⟩
    · cases own.symm.trans group
    · rw [group] at shared
      rw [← GroupRef.shared.inj shared, free] at live
      cases live
  have same := List.eq_replicate_length.mpr only
  rw [same, List.nodup_replicate] at nodup
  omega

end Link

def LinkOp.Leaves (s : Sub) : LinkOp Sub Grp → Prop
  | .unlink t | .release t => t = s
  | _ => False

/-- What a step owes: the partition, and that a group left with one substream is freed while that
    substream returns to its own list. -/
structure LinkStepOk (h : LinkState Sub Grp) (op : LinkOp Sub Grp) (h' : LinkState Sub Grp) : Prop where
  partition : h'.Partitioned
  last : ∀ s g, op.Leaves s → h.group s = .shared g → h.count (.shared g) = 2 →
    h'.allocated g = false ∧ ∀ t, h.group t = .shared g → h'.group t = .own t

theorem linkExec_ok {h : LinkState Sub Grp} {op : LinkOp Sub Grp} (part : h.Partitioned) (enabled : op.Enabled h)
    (other : ¬ op.SelfLink h) : LinkStepOk h op (linkExec h op) := by
  cases op with
  | «open» s =>
    exact ⟨part.setState _, fun _ _ leaves => leaves.elim⟩
  | ioctl s st => exact ⟨part.setState _, fun _ _ leaves => leaves.elim⟩
  | link s fd memory =>
    exact ⟨sndPcmLink_partitioned part enabled.2.2 other, fun _ _ leaves => leaves.elim⟩
  | unlink s =>
    obtain ⟨partition, last⟩ := sndPcmUnlink_partitioned part s
    constructor
    · exact partition
    · rintro t g rfl group count
      exact last g group count
  | release s =>
    obtain ⟨partition, last⟩ := sndPcmUnlink_partitioned part s
    constructor
    · exact partition.setState _
    · rintro t g rfl group count
      exact last g group count

theorem linkExec_ok_iff {h : LinkState Sub Grp} {op : LinkOp Sub Grp} (part : h.Partitioned)
    (enabled : op.Enabled h) : LinkStepOk h op (linkExec h op) ↔ ¬ op.SelfLink h := by
  constructor
  · intro ok self
    cases op with
    | link s fd memory =>
      obtain ⟨rfl, present, state, alone⟩ := self
      obtain ⟨g, rfl⟩ := Option.isSome_iff_exists.mp present
      exact sndPcmLink_self part (enabled.2.2 g rfl) state alone ok.partition
    | _ => exact self
  · exact linkExec_ok part enabled

omit [DecidableEq Sub] [DecidableEq Grp] in
def selfMembers : Members Sub Grp
  | .own s => [s]
  | .shared _ => []

omit [DecidableEq Sub] [DecidableEq Grp] in
theorem linkInit_partitioned : (linkInit : LinkState Sub Grp).Partitioned := by
  refine ⟨selfMembers, ⟨?_, ?_, ?_, ?_, ?_⟩, ?_, rfl⟩
  · intro ref live
    cases ref with
    | own s => exact ⟨by simp [ringNodes, selfMembers], ⟨rfl, rfl⟩, rfl, rfl⟩
    | shared g => cases live
  · intro s ref
    cases ref with
    | own t => simp [linkInit, selfMembers]
    | shared g => simp [linkInit, selfMembers]
  · intro s t inside
    exact List.mem_singleton.mp inside
  · intro s g inside
    cases inside
  · intro g allocated
    cases allocated
  · intro g allocated
    cases allocated

/-- In every run the link groups form a partition exactly as long as no substream is linked with
    itself. -/
theorem linkRun_partitioned_iff (ops : List (LinkOp Sub Grp))
    (enabled : Throughout linkExec (fun h op _ => op.Enabled h) linkInit ops) :
    Throughout linkExec LinkStepOk linkInit ops ↔
      Throughout linkExec (fun h op _ => ¬ op.SelfLink h) linkInit ops :=
  throughout_iff LinkState.Partitioned LinkStepOk (fun h op => ¬ op.SelfLink h)
    (fun _ _ part enabled => linkExec_ok_iff part enabled)
    (fun _ _ part enabled other => (linkExec_ok part enabled other).partition) linkInit_partitioned enabled

def linkPairOps : List (LinkOp Nat Nat) :=
  [.open 0, .open 1, .ioctl 0 .setup, .ioctl 1 .setup, .link 0 (some 1) (some 7), .unlink 1, .release 0]

theorem linkPairOps_enabled : Throughout linkExec (fun h op _ => op.Enabled h) linkInit linkPairOps := by
  have present (st : SndPcmState) : some st ≠ none := Option.some_ne_none st
  refine ⟨rfl, rfl, present .open, present .open, ⟨present .setup, ?_, ?_⟩, present .setup, present .setup, trivial⟩
  · rintro s1 ⟨⟩
    exact present .setup
  · rintro g ⟨⟩
    rfl

theorem linkPairOps_partitioned : Throughout linkExec LinkStepOk linkInit linkPairOps := by
  refine (linkRun_partitioned_iff linkPairOps linkPairOps_enabled).mpr
    ⟨id, id, id, id, ?_, id, id, trivial⟩
  rintro ⟨same, -⟩
  exact absurd (Option.some.inj same) (by decide)

def linkSelfOps : List (LinkOp Nat Nat) := [.open 0, .ioctl 0 .setup, .link 0 (some 0) (some 7)]

theorem linkSelfOps_refute : Throughout linkExec (fun h op _ => op.Enabled h) linkInit linkSelfOps ∧
    ¬ Throughout linkExec LinkStepOk linkInit linkSelfOps := by
  have present (st : SndPcmState) : some st ≠ none := Option.some_ne_none st
  have enabled : Throughout linkExec (fun h op _ => op.Enabled h) linkInit linkSelfOps := by
    refine ⟨rfl, present .open, ⟨present .setup, ?_, ?_⟩, trivial⟩
    · rintro s1 ⟨⟩
      exact present .setup
    · rintro g ⟨⟩
      rfl
  refine ⟨enabled, fun run => ?_⟩
  have before : (linkExec (linkExec linkInit (.open 0)) (.ioctl 0 .setup) : LinkState Nat Nat).Partitioned :=
    (linkInit_partitioned.setState _).setState _
  exact sndPcmLink_self before rfl (by decide) rfl run.2.2.1.partition

end AlsaDriver.Pcm
