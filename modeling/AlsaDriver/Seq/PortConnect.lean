import AlsaDriver.Seq.PortSettled

namespace AlsaDriver.Seq

open Function PortsState

def GroupType.pick (sport dport : Nat) : GroupType → Nat
  | .src => sport
  | .dest => dport

namespace SndSeqPortSubsInfo

variable (grp : SndSeqPortSubsInfo)

theorem subscribe_cases (callbackAll moduleOk : Bool) (opened : Int) :
    (grp.subscribe callbackAll moduleOk opened).1 < 0 ∧ (grp.subscribe callbackAll moduleOk opened).2 = grp ∨
      ¬ (grp.subscribe callbackAll moduleOk opened).1 < 0 ∧
        (grp.subscribe callbackAll moduleOk opened).2 = { grp with count := grp.count + 1 } := by
  rw [subscribe]
  split
  · exact Or.inl ⟨(by decide : -EFAULT < 0), rfl⟩
  · dsimp only
    split
    · split
      · rename_i failed
        exact Or.inl ⟨failed, rfl⟩
      · rename_i ok
        exact Or.inr ⟨ok, rfl⟩
    · exact Or.inr ⟨(by decide : ¬ (0 : Int) < 0), rfl⟩

theorem unsubscribe_subscribed : ({ grp with count := grp.count + 1 } : SndSeqPortSubsInfo).unsubscribe = grp := by
  rw [unsubscribe, if_neg (Nat.succ_ne_zero _)]
  rfl

def added (id : Nat) (exclusive : Bool) : SndSeqPortSubsInfo :=
  { grp with list := grp.list ++ [id], count := grp.count + 1, exclusive := exclusive }

end SndSeqPortSubsInfo

namespace PortsState

variable (s : PortsState)

def refused (info : SndSeqPortSubscribe) : PortsState :=
  { s with
    subs := update s.subs s.nextSubs ⟨info, 2⟩
    nextSubs := s.nextSubs + 1
    freed := s.freed ++ [s.nextSubs] }

def connected (sport dport : Nat) (info : SndSeqPortSubscribe) : PortsState :=
  { s with
    subs := update s.subs s.nextSubs ⟨info, 2⟩
    nextSubs := s.nextSubs + 1
    group := fun key =>
      if key.2 = key.1.pick sport dport then (s.group key).added s.nextSubs info.exclusive else s.group key }

def unlinked (sport dport id : Nat) : PortsState :=
  (((((s.listDel .src id).listDel .dest id).setExclusive (.src, sport) false).setExclusive (.dest, dport) false).unsubscribe
    (.src, sport)).unsubscribe (.dest, dport)

def removed (sport dport id : Nat) : PortsState := (s.unlinked sport dport id).kfree id

section SetExclusive

variable (key key' : GroupType × Nat) (exclusive : Bool)

@[simp] theorem setExclusive_list : ((s.setExclusive key exclusive).group key').list = (s.group key').list := by
  by_cases same : key' = key
  · subst same
    simp only [setExclusive, setGroup, update_self]
  · simp only [setExclusive, setGroup, update_of_ne same]

@[simp] theorem setExclusive_count : ((s.setExclusive key exclusive).group key').count = (s.group key').count := by
  by_cases same : key' = key
  · subst same
    simp only [setExclusive, setGroup, update_self]
  · simp only [setExclusive, setGroup, update_of_ne same]

@[simp] theorem setExclusive_exclusive : ((s.setExclusive key exclusive).group key').exclusive =
    if key' = key then exclusive else (s.group key').exclusive := by
  by_cases same : key' = key
  · subst same
    simp only [setExclusive, setGroup, update_self, if_true]
  · simp only [setExclusive, setGroup, update_of_ne same, if_neg same]

end SetExclusive

section Removed

variable (sport dport id : Nat)

theorem removed_kept : KeptPorts s (s.removed sport dport id) := by
  constructor <;> simp only [removed, unlinked, kfree, unsubscribe, setExclusive, setGroup, listDel, implies_true]

theorem removed_subs : (s.removed sport dport id).subs = s.subs := by
  simp only [removed, unlinked, kfree, unsubscribe, setExclusive, setGroup, listDel]

theorem removed_freed : (s.removed sport dport id).freed = s.freed ++ [id] := by
  simp only [removed, unlinked, kfree, unsubscribe, setExclusive, setGroup, listDel]

theorem removed_nextSubs : (s.removed sport dport id).nextSubs = s.nextSubs := by
  simp only [removed, unlinked, kfree, unsubscribe, setExclusive, setGroup, listDel]

theorem removed_list (key : GroupType × Nat) :
    ((s.removed sport dport id).group key).list = (s.group key).list.erase id := by
  show ((s.unlinked sport dport id).group key).list = _
  rw [unlinked, unsubscribe_list, unsubscribe_list, setExclusive_list, setExclusive_list]
  exact listDel_both s .src id key

theorem removed_count (t : GroupType) (p : Nat) : ((s.removed sport dport id).group (t, p)).count =
    if p = t.pick sport dport then (s.group (t, p)).count - 1 else (s.group (t, p)).count := by
  show ((s.unlinked sport dport id).group (t, p)).count = _
  rw [unlinked]
  simp only [unsubscribe_count, setExclusive_count, listDel_count, Prod.mk.injEq]
  by_cases same : p = t.pick sport dport
  · cases t <;> simp [same, GroupType.pick]
  · cases t <;> simp only [GroupType.pick] at same <;> simp [same, GroupType.pick]

theorem removed_exclusive (t : GroupType) (p : Nat) : ((s.removed sport dport id).group (t, p)).exclusive =
    if p = t.pick sport dport then false else (s.group (t, p)).exclusive := by
  show ((s.unlinked sport dport id).group (t, p)).exclusive = _
  rw [unlinked]
  simp only [unsubscribe_exclusive, setExclusive_exclusive, listDel_exclusive, Prod.mk.injEq]
  by_cases same : p = t.pick sport dport
  · cases t <;> simp [same, GroupType.pick]
  · cases t <;> simp only [GroupType.pick] at same <;> simp [same, GroupType.pick]

end Removed

theorem sndSeqPortConnect_cases (sport dport : Nat) (info : SndSeqPortSubscribe) (env : ConnectEnv) :
    (s.sndSeqPortConnect sport dport info env).1 < 0 ∧
        ((s.sndSeqPortConnect sport dport info env).2 = s ∨ (s.sndSeqPortConnect sport dport info env).2 = s.refused info) ∨
      (s.sndSeqPortConnect sport dport info env).1 = 0 ∧
        (s.connected sport dport info).busy (s.group (.src, sport)) (s.group (.dest, dport)) info = false ∧
        (s.sndSeqPortConnect sport dport info env).2 = s.connected sport dport info := by
  rw [sndSeqPortConnect]
  split
  · exact Or.inl ⟨(by decide : -ENOMEM < 0), Or.inl rfl⟩
  · dsimp only
    split
    · exact Or.inl ⟨(by decide : -EBUSY < 0), Or.inr rfl⟩
    · rename_i free
      have notBusy : (s.connected sport dport info).busy (s.group (.src, sport)) (s.group (.dest, dport)) info = false :=
        Bool.not_eq_true _ ▸ free
      rcases (s.group (.src, sport)).subscribe_cases (s.callbackAll sport) (env.moduleOk .src) (env.opened .src) with
        ⟨failed, same⟩ | ⟨ok, counted⟩
      · rw [if_pos failed, same]
        refine Or.inl ⟨failed, Or.inr ?_⟩
        simp only [setGroup, update_eq_self, kfree, refused]
      · rw [if_neg ok, counted]
        have other : ((.dest, dport) : GroupType × Nat) ≠ (.src, sport) := by simp
        simp only [setGroup, update_of_ne other]
        rcases (s.group (.dest, dport)).subscribe_cases (s.callbackAll dport) (env.moduleOk .dest) (env.opened .dest) with
          ⟨failed, same⟩ | ⟨ok', counted'⟩
        · rw [if_pos failed, same]
          refine Or.inl ⟨failed, Or.inr ?_⟩
          simp only [unsubscribe, setGroup, kfree, refused]
          rw [update_of_ne other.symm, update_self, SndSeqPortSubsInfo.unsubscribe_subscribed, update_comm other, update_idem,
            update_eq_self, update_eq_self]
        · rw [if_neg ok', counted']
          refine Or.inr ⟨rfl, notBusy, ?_⟩
          simp only [addSubs, listAddTail, setExclusive, setGroup, connected]
          congr 1
          funext key
          obtain ⟨t, p⟩ := key
          cases t
          · by_cases same : p = sport
            · subst same
              simp [SndSeqPortSubsInfo.added, GroupType.pick]
            · simp [GroupType.pick, same]
          · by_cases same : p = dport
            · subst same
              simp [SndSeqPortSubsInfo.added, GroupType.pick]
            · simp [GroupType.pick, same]

end PortsState

namespace Settled

variable {s : PortsState} {E : GroupType → List Nat} {ends : GroupType → Nat → Nat} {sport dport : Nat}
  {info : SndSeqPortSubscribe}

theorem new_not_live (s : PortsState) : ¬ s.Live s.nextSubs := fun live => Nat.lt_irrefl _ live.1

theorem live_ne {id : Nat} (live : s.Live id) : id ≠ s.nextSubs := by
  rintro rfl
  exact new_not_live s live

theorem refused (settled : Settled s E ends) (info : SndSeqPortSubscribe) :
    Settled (s.refused info) E ends ∧ (s.FlagsOk → (s.refused info).FlagsOk) := by
  have graph := settled.graph
  have kept : Directory (s.refused info) := ⟨graph.dir.home, graph.dir.old, graph.dir.sorted, graph.dir.nodup,
    graph.dir.count, graph.dir.open_⟩
  have live (id : Nat) : (s.refused info).Live id ↔ s.Live id := by
    show id < s.nextSubs + 1 ∧ id ∉ s.freed ++ [s.nextSubs] ↔ id < s.nextSubs ∧ id ∉ s.freed
    rw [List.mem_append, List.mem_singleton]
    constructor
    · rintro ⟨below, out⟩
      exact ⟨by omega, fun inside => out (Or.inl inside)⟩
    · rintro ⟨below, out⟩
      exact ⟨by omega, fun either => either.elim out (by omega)⟩
  have subs (id : Nat) (alive : s.Live id) : (s.refused info).subs id = s.subs id := update_of_ne (live_ne alive) ..
  have member (t : GroupType) (p id : Nat) (inside : id ∈ (s.group (t, p)).list) :
      (s.refused info).subs id = s.subs id := subs id (graph.alive (graph.mem.mp inside).1)
  refine ⟨⟨⟨kept, graph.list, graph.nodup, graph.count, ?_, ?_, ?_, ⟨?_, ?_⟩, ?_, ?_, ?_, ?_⟩, ?_⟩, ?_⟩
  · intro t p listed id inside exclusive
    rw [member t p id inside] at exclusive
    exact graph.alone t p listed id inside exclusive
  · intro id alive
    have before := (live id).mp alive
    rw [subs id before]
    exact graph.refs id before
  · exact fun id => (live id).trans (graph.live id)
  · show (s.freed ++ [s.nextSubs]).Nodup
    refine List.nodup_append.mpr ⟨graph.freed.1, by simp, ?_⟩
    rintro id inside x there rfl
    rw [List.mem_singleton] at there
    exact Nat.lt_irrefl _ (there ▸ graph.freed.2 id inside)
  · intro id inside
    show id < s.nextSubs + 1
    rcases List.mem_append.mp inside with old | new
    · exact Nat.lt_succ_of_lt (graph.freed.2 id old)
    · rw [List.mem_singleton.mp new]
      exact Nat.lt_succ_self _
  · intro t id alive
    rw [subs id ((live id).mp alive)]
    exact graph.address t id ((live id).mp alive)
  · exact fun t id alive listed => graph.found t id ((live id).mp alive) listed
  · exact fun t id alive listed => graph.both t id ((live id).mp alive) listed
  · exact fun t id alive gone => graph.stranger t id ((live id).mp alive) gone
  · exact fun t id alive => settled.listed t id ((live id).mp alive)
  · intro ok t p listed set
    obtain ⟨id, only, exclusive⟩ := ok t p listed set
    refine ⟨id, only, ?_⟩
    rw [member t p id (only ▸ List.mem_singleton.mpr rfl)]
    exact exclusive

theorem free_of_not_busy {src dest : SndSeqPortSubsInfo} (free : s.busy src dest info = false) :
    (info.exclusive = true → src.list = [] ∧ dest.list = []) ∧
      (info.exclusive = false → src.exclusive = false ∧ dest.exclusive = false) := by
  rw [busy] at free
  constructor
  · intro exclusive
    rw [if_pos exclusive] at free
    simpa using free
  · intro shared
    rw [if_neg (by simp [shared])] at free
    simp only [Bool.or_eq_false_iff] at free
    exact ⟨free.1.1.1, free.1.1.2⟩

variable (info sport dport) in
theorem connected (settled : Settled s E ends) (found : ∀ t, s.usePtr (info.addr t) = some (t.pick sport dport))
    (free : ∀ t, (info.exclusive = true → (s.group (t, t.pick sport dport)).list = []) ∧
      (info.exclusive = false → (s.group (t, t.pick sport dport)).exclusive = false)) :
    Settled (s.connected sport dport info) (fun t => E t ++ [s.nextSubs])
        (fun t => update (ends t) s.nextSubs (t.pick sport dport)) ∧
      (s.FlagsOk → (s.connected sport dport info).FlagsOk) := by
  have graph := settled.graph
  have kept : Directory (s.connected sport dport info) := ⟨graph.dir.home, graph.dir.old, graph.dir.sorted,
    graph.dir.nodup, graph.dir.count, graph.dir.open_⟩
  have new_out (t : GroupType) : s.nextSubs ∉ E t := fun inside => new_not_live s (graph.alive inside)
  have live (id : Nat) : (s.connected sport dport info).Live id ↔ s.Live id ∨ id = s.nextSubs := by
    show id < s.nextSubs + 1 ∧ id ∉ s.freed ↔ (id < s.nextSubs ∧ id ∉ s.freed) ∨ id = s.nextSubs
    constructor
    · rintro ⟨below, out⟩
      by_cases same : id = s.nextSubs
      · exact Or.inr same
      · exact Or.inl ⟨by omega, out⟩
    · rintro (⟨below, out⟩ | same)
      · exact ⟨by omega, out⟩
      · subst same
        exact ⟨Nat.lt_succ_self _, fun inside => Nat.lt_irrefl _ (graph.freed.2 _ inside)⟩
  have subs (id : Nat) (alive : s.Live id) : (s.connected sport dport info).subs id = s.subs id :=
    update_of_ne (live_ne alive) ..
  have subsNew : (s.connected sport dport info).subs s.nextSubs = ⟨info, 2⟩ := update_self ..
  have endOld (t : GroupType) (id : Nat) (alive : s.Live id) :
      update (ends t) s.nextSubs (t.pick sport dport) id = ends t id := update_of_ne (live_ne alive) ..
  have endNew (t : GroupType) : update (ends t) s.nextSubs (t.pick sport dport) s.nextSubs = t.pick sport dport :=
    update_self ..
  have member (t : GroupType) (p id : Nat) (inside : id ∈ (s.group (t, p)).list) :
      (s.connected sport dport info).subs id = s.subs id := subs id (graph.alive (graph.mem.mp inside).1)
  have own (t : GroupType) : (s.connected sport dport info).group (t, t.pick sport dport) =
      (s.group (t, t.pick sport dport)).added s.nextSubs info.exclusive := if_pos rfl
  have other (t : GroupType) (p : Nat) (ne : p ≠ t.pick sport dport) :
      (s.connected sport dport info).group (t, p) = s.group (t, p) := if_neg ne
  have lookup (t : GroupType) := graph.dir.usePtr_some (found t)
  refine ⟨⟨⟨kept, ?_, ?_, ?_, ?_, ?_, ?_, ?_, ?_, ?_, ?_, ?_⟩, ?_⟩, ?_⟩
  · intro t p
    have olds : (E t).filter (fun id => update (ends t) s.nextSubs (t.pick sport dport) id == p) =
        (E t).filter fun id => ends t id == p := by
      apply List.filter_congr
      intro id inside
      rw [endOld t id (graph.alive inside)]
    rw [List.filter_append, olds, ← graph.list]
    by_cases same : p = t.pick sport dport
    · subst same
      rw [own, List.filter_cons, endNew, if_pos (by simp)]
      rfl
    · rw [other t p same, List.filter_cons, endNew, if_neg (by simpa using Ne.symm same)]
      exact (List.append_nil _).symm
  · intro t
    refine List.nodup_append.mpr ⟨graph.nodup t, by simp, ?_⟩
    rintro id inside x there rfl
    rw [List.mem_singleton] at there
    exact new_out t (there ▸ inside)
  · intro t p listed
    by_cases same : p = t.pick sport dport
    · subst same
      rw [own]
      show (s.group (t, t.pick sport dport)).count + 1 = ((s.group (t, t.pick sport dport)).list ++ [s.nextSubs]).length
      rw [graph.count t _ listed, List.length_append]
      rfl
    · rw [other t p same]
      exact graph.count t p listed
  · intro t p listed id inside exclusive
    by_cases same : p = t.pick sport dport
    · subst same
      rw [own] at inside ⊢
      rcases List.mem_append.mp inside with old | new
      · -- the group was not free
        rw [member t _ id old] at exclusive
        obtain ⟨only, set⟩ := graph.alone t _ listed id old exclusive
        cases mode : info.exclusive with
        | true =>
          rw [(free t).1 mode] at only
          cases only
        | false =>
          rw [(free t).2 mode] at set
          cases set
      · rw [List.mem_singleton.mp new] at exclusive ⊢
        rw [subsNew] at exclusive
        refine ⟨?_, exclusive⟩
        show (s.group (t, t.pick sport dport)).list ++ [s.nextSubs] = [s.nextSubs]
        rw [(free t).1 exclusive]
        rfl
    · rw [other t p same] at inside ⊢
      rw [member t p id inside] at exclusive
      exact graph.alone t p listed id inside exclusive
  · intro id alive
    rcases (live id).mp alive with before | same
    · rw [subs id before, graph.refs id before]
      simp [live_ne before]
    · rw [same, subsNew]
      simp
  · intro id
    rw [live, graph.live]
    constructor
    · rintro (⟨t, inside⟩ | same)
      · exact ⟨t, List.mem_append_left _ inside⟩
      · exact ⟨.src, List.mem_append_right _ (List.mem_singleton.mpr same)⟩
    · rintro ⟨t, inside⟩
      rcases List.mem_append.mp inside with old | new
      · exact Or.inl ⟨t, old⟩
      · exact Or.inr (List.mem_singleton.mp new)
  · exact ⟨graph.freed.1, fun id inside => Nat.lt_succ_of_lt (graph.freed.2 id inside)⟩
  · intro t id alive
    rcases (live id).mp alive with before | same
    · rw [subs id before, endOld t id before]
      exact graph.address t id before
    · rw [same, subsNew, endNew]
      exact (lookup t).2.symm
  · intro t id alive _
    rcases (live id).mp alive with before | same
    · rw [endOld t id before]
      exact graph.found t id before (settled.listed t id before)
    · rw [same, endNew]
      show s.usePtr (s.addr (t.pick sport dport)) = _
      rw [(lookup t).2]
      exact found t
  · intro t id alive _ t'
    rcases (live id).mp alive with before | same
    · exact List.mem_append_left _ (settled.mem_all before t')
    · exact List.mem_append_right _ (List.mem_singleton.mpr same)
  · intro t id alive gone
    rcases (live id).mp alive with before | same
    · rw [endOld t id before] at gone
      exact absurd (settled.listed t id before) gone
    · rw [same, endNew] at gone
      exact absurd (lookup t).1 gone
  · intro t id alive
    rcases (live id).mp alive with before | same
    · rw [endOld t id before]
      exact settled.listed t id before
    · rw [same, endNew]
      exact (lookup t).1
  · intro ok t p listed set
    by_cases same : p = t.pick sport dport
    · subst same
      rw [own] at set ⊢
      refine ⟨s.nextSubs, ?_, by rw [subsNew]; exact set⟩
      show (s.group (t, t.pick sport dport)).list ++ [s.nextSubs] = [s.nextSubs]
      rw [(free t).1 set]
      rfl
    · rw [other t p same] at set ⊢
      obtain ⟨id, only, exclusive⟩ := ok t p listed set
      refine ⟨id, only, ?_⟩
      rw [member t p id (only ▸ List.mem_singleton.mpr rfl)]
      exact exclusive

theorem matchSubsInfo_addr {r s : SndSeqPortSubscribe} (match_ : matchSubsInfo r s = true) (t : GroupType) :
    s.addr t = r.addr t := by
  rw [matchSubsInfo] at match_
  split at match_
  · rename_i same
    cases t
    · exact same.1.symm
    · exact same.2.symm
  · cases match_

variable (info sport dport) in
theorem disconnected (settled : Settled s E ends) (found : ∀ t, s.usePtr (info.addr t) = some (t.pick sport dport))
    {id : Nat} (first : (s.group (.src, sport)).list.find? (fun id => matchSubsInfo info (s.subs id).info) = some id) :
    (∃ E', Settled (s.sndSeqPortDisconnect sport dport info).2 E' ends) ∧
      (s.FlagsOk → (s.sndSeqPortDisconnect sport dport info).2.FlagsOk) := by
  have graph := settled.graph
  have inside := List.mem_of_find?_eq_some first
  have matches_ : matchSubsInfo info (s.subs id).info = true := by
    have hit := List.find?_some first
    exact hit
  have alive := graph.alive (graph.mem.mp inside).1
  have end_ (t : GroupType) : ends t id = t.pick sport dport := by
    have lookup := graph.found t id alive (settled.listed t id alive)
    rw [← graph.address t id alive, matchSubsInfo_addr matches_, found t] at lookup
    exact (Option.some.inj lookup).symm
  have here (t : GroupType) : id ∈ (s.group (t, t.pick sport dport)).list := end_ t ▸ settled.mem_list alive t
  have away (t : GroupType) (p : Nat) (ne : p ≠ t.pick sport dport) : id ∉ (s.group (t, p)).list := by
    intro there
    exact ne ((graph.mem.mp there).2.symm.trans (end_ t))
  have result : (s.sndSeqPortDisconnect sport dport info).2 = s.removed sport dport id := by
    rw [sndSeqPortDisconnect, first]
    rfl
  rw [result]
  have list := s.removed_list sport dport id
  have flag := s.removed_exclusive sport dport id
  have count (t : GroupType) (p : Nat) (listed : s.Listed p) :
      ((s.removed sport dport id).group (t, p)).count = ((s.removed sport dport id).group (t, p)).list.length := by
    rw [list, removed_count, graph.count t p listed]
    by_cases same : p = t.pick sport dport
    · rw [if_pos same, List.length_erase_of_mem (same ▸ here t)]
    · rw [if_neg same, List.erase_of_not_mem (away t p same)]
  have after : Graph (s.removed sport dport id) (fun t => (E t).erase id) ends := by
    apply graph.dropBoth alive (s.removed_kept sport dport id) (fun x _ => by rw [removed_subs]) (s.removed_freed sport dport id)
      list count
    intro t p
    by_cases same : p = t.pick sport dport
    · exact Or.inr (same ▸ here t)
    · exact Or.inl ((flag t p).trans (if_neg same))
  have listed (p : Nat) : (s.removed sport dport id).Listed p ↔ s.Listed p := (s.removed_kept sport dport id).listed p
  refine ⟨⟨_, after, fun t x live => (listed _).mpr (settled.listed t x ?_)⟩, ?_⟩
  · rw [Live, removed_nextSubs, removed_freed] at live
    exact ⟨live.1, fun freed => live.2 (List.mem_append_left _ freed)⟩
  · intro ok t p here' set
    rw [flag] at set
    split at set
    · cases set
    · rename_i ne
      rw [list, List.erase_of_not_mem (away t p ne), removed_subs]
      exact ok t p ((listed p).mp here') set

end Settled

end AlsaDriver.Seq
