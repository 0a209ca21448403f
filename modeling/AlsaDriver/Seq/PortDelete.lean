import AlsaDriver.Seq.PortGraph

namespace AlsaDriver.Seq

open Function

namespace PortsState

variable (s : PortsState) (key key' : GroupType × Nat) (t : GroupType) (id : Nat)

@[simp] theorem unsubscribe_list : ((s.unsubscribe key).group key').list = (s.group key').list := by
  by_cases same : key' = key
  · subst same
    simp only [unsubscribe, setGroup, update_self, SndSeqPortSubsInfo.unsubscribe]
    split <;> rfl
  · simp only [unsubscribe, setGroup, update_of_ne same]

@[simp] theorem unsubscribe_exclusive : ((s.unsubscribe key).group key').exclusive = (s.group key').exclusive := by
  by_cases same : key' = key
  · subst same
    simp only [unsubscribe, setGroup, update_self, SndSeqPortSubsInfo.unsubscribe]
    split <;> rfl
  · simp only [unsubscribe, setGroup, update_of_ne same]

@[simp] theorem unsubscribe_count : ((s.unsubscribe key).group key').count =
    if key' = key then (s.group key').count - 1 else (s.group key').count := by
  by_cases same : key' = key
  · subst same
    simp only [unsubscribe, setGroup, update_self, SndSeqPortSubsInfo.unsubscribe, if_true]
    split
    · rename_i zero
      rw [zero]
    · rfl
  · simp only [unsubscribe, setGroup, update_of_ne same, if_neg same]

@[simp] theorem listDel_list : ((s.listDel t id).group key).list =
    if key.1 = t then (s.group key).list.erase id else (s.group key).list := by
  simp only [listDel]
  split <;> rfl

@[simp] theorem listDel_count : ((s.listDel t id).group key).count = (s.group key).count := by
  simp only [listDel]
  split <;> rfl

@[simp] theorem listDel_exclusive : ((s.listDel t id).group key).exclusive = (s.group key).exclusive := by
  simp only [listDel]
  split <;> rfl

theorem listDel_both (key : GroupType × Nat) :
    (((s.listDel t id).listDel t.peer id).group key).list = (s.group key).list.erase id := by
  obtain ⟨t', p⟩ := key
  rcases t.eq_or_peer t' with same | same
  · subst same
    rw [listDel_list, listDel_list, if_neg t'.peer_ne.symm, if_pos rfl]
  · subst same
    rw [listDel_list, listDel_list, if_pos rfl, if_neg t.peer_ne]

end PortsState

open PortsState

structure Cleared (s s' : PortsState) (E E' : GroupType → List Nat) (ends : GroupType → Nat → Nat) (D : Nat → Prop) :
    Prop where
  kept : KeptPorts s s'
  sub : ∀ t, (E' t).Sublist (E t)
  stay : ∀ t x, x ∈ E t → (∀ t', ¬ D (ends t' x)) → x ∈ E' t
  flags : ∀ key, (s'.group key).exclusive = (s.group key).exclusive
  info : ∀ x, (s'.subs x).info = (s.subs x).info

namespace Cleared

variable {s s' s'' : PortsState} {E E' E'' : GroupType → List Nat} {ends : GroupType → Nat → Nat} {D D' : Nat → Prop}

theorem refl (s : PortsState) (E : GroupType → List Nat) (ends : GroupType → Nat → Nat) (D : Nat → Prop) :
    Cleared s s E E ends D :=
  ⟨⟨rfl, rfl, rfl, rfl, rfl, fun _ _ => rfl⟩, fun _ => .refl _, fun _ _ inside _ => inside, fun _ => rfl, fun _ => rfl⟩

theorem trans (first : Cleared s s' E E' ends D) (second : Cleared s' s'' E' E'' ends D) : Cleared s s'' E E'' ends D where
  kept := first.kept.trans second.kept
  sub t := (second.sub t).trans (first.sub t)
  stay t x inside away := second.stay t x (first.stay t x inside away) away
  flags key := (second.flags key).trans (first.flags key)
  info x := (second.info x).trans (first.info x)

theorem mono (cleared : Cleared s s' E E' ends D) (weaker : ∀ p, D p → D' p) : Cleared s s' E E' ends D' :=
  ⟨cleared.kept, cleared.sub, fun t x inside away => cleared.stay t x inside fun t' gone => away t' (weaker _ gone),
    cleared.flags, cleared.info⟩

end Cleared

namespace Graph

variable {s : PortsState} {E : GroupType → List Nat} {ends : GroupType → Nat → Nat} {id port : Nat} {t : GroupType}

theorem cleared_erase (here : id ∈ E t) (end_ : ends t id = port) {s' : PortsState} (kept : KeptPorts s s')
    (graph : Graph s E ends) (flags : ∀ key, (s'.group key).exclusive = (s.group key).exclusive)
    (info : ∀ x, (s'.subs x).info = (s.subs x).info) :
    Cleared s s' E (fun t => (E t).erase id) ends (· = port) := by
  refine ⟨kept, fun _ => List.erase_sublist, fun t' x inside away => ?_, flags, info⟩
  apply graph.mem_erase.mpr
  refine ⟨?_, inside⟩
  rintro rfl
  exact away t end_

theorem clear_found (graph : Graph s E ends) (here : id ∈ E t) (end_ : ends t id = port) (gone : ¬ s.Listed port)
    {aport : Nat} (found : s.usePtr ((s.subs id).info.addr t.peer) = some aport) :
    Graph (clearSubscriber t port s id) (fun t => (E t).erase id) ends ∧
      Cleared s (clearSubscriber t port s id) E (fun t => (E t).erase id) ends (· = port) := by
  have mine := graph.alive here
  have result : clearSubscriber t port s id =
      ((((s.listDel t id).unsubscribe (t, port)).listDel t.peer id).unsubscribe (t.peer, aport)).kfree id := by
    rw [clearSubscriber, found]
  have kept : KeptPorts s (clearSubscriber t port s id) := by
    rw [result]
    exact ⟨rfl, rfl, rfl, rfl, rfl, fun _ _ => rfl⟩
  have list (key : GroupType × Nat) : ((clearSubscriber t port s id).group key).list = (s.group key).list.erase id := by
    rw [result]
    show ((((((s.listDel t id).unsubscribe (t, port)).listDel t.peer id).unsubscribe (t.peer, aport)).group key).list) = _
    rw [unsubscribe_list, listDel_list, unsubscribe_list, ← listDel_both s t id key, listDel_list (s.listDel t id)]
  have flags (key : GroupType × Nat) : ((clearSubscriber t port s id).group key).exclusive = (s.group key).exclusive := by
    rw [result]
    show (((((s.listDel t id).unsubscribe (t, port)).listDel t.peer id).unsubscribe (t.peer, aport)).group key).exclusive = _
    simp
  have info (x : Nat) : (clearSubscriber t port s id).subs x = s.subs x := by
    rw [result]
    rfl
  have count (t' : GroupType) (p : Nat) (listed : s.Listed p) :
      ((clearSubscriber t port s id).group (t', p)).count = ((clearSubscriber t port s id).group (t', p)).list.length := by
    have other : (t', p) ≠ (t, port) := by
      rintro same
      cases same
      exact gone listed
    rw [list, result]
    show (((((s.listDel t id).unsubscribe (t, port)).listDel t.peer id).unsubscribe (t.peer, aport)).group (t', p)).count = _
    rw [unsubscribe_count, listDel_count, unsubscribe_count, if_neg other, listDel_count, graph.count t' p listed]
    by_cases inside : id ∈ (s.group (t', p)).list
    · -- only the other end of the record can be in a list of `p`
      obtain ⟨-, at_⟩ := graph.mem.mp inside
      subst at_
      have peer : t' = t.peer := by
        rcases t.eq_or_peer t' with same | same
        · subst same
          rw [end_] at listed
          exact absurd listed gone
        · exact same
      subst peer
      have lookup := graph.found t.peer id mine listed
      rw [graph.address t.peer id mine, lookup] at found
      rw [if_pos (by rw [Option.some.inj found]), List.length_erase_of_mem inside]
    · rw [List.erase_of_not_mem inside]
      split
      · rename_i same
        cases same
        have unlisted : ¬ s.Listed (ends t.peer id) := by
          intro listed'
          have lookup := graph.found t.peer id mine listed'
          rw [graph.address t.peer id mine, lookup] at found
          exact inside (graph.mem.mpr ⟨graph.both t.peer id mine listed' t.peer, Option.some.inj found⟩)
        have empty := graph.stranger t.peer id mine unlisted aport (by rw [← graph.address t.peer id mine]; exact found) t.peer
        rw [empty]
        rfl
      · rfl
  exact ⟨graph.dropBoth mine kept (fun x _ => info x) (by rw [result]; rfl) list count (fun t p => Or.inl (flags _)),
    graph.cleared_erase here end_ kept flags fun x => by rw [info]⟩

theorem clear_alone (graph : Graph s E ends) (here : id ∈ E t) (end_ : ends t id = port) (gone : ¬ s.Listed port)
    (found : s.usePtr ((s.subs id).info.addr t.peer) = none) :
    ∃ E', Graph (clearSubscriber t port s id) E' ends ∧ E' t = (E t).erase id ∧
      Cleared s (clearSubscriber t port s id) E E' ends (· = port) := by
  have mine := graph.alive here
  have result : clearSubscriber t port s id = ((s.listDel t id).unsubscribe (t, port)).decAndFree id := by
    rw [clearSubscriber, found]
  have unlisted (t' : GroupType) : ¬ s.Listed (ends t' id) := by
    rcases t.eq_or_peer t' with same | same
    · rw [same, end_]
      exact gone
    · rw [same]
      intro listed
      have lookup := graph.found t.peer id mine listed
      rw [← graph.address t.peer id mine, found] at lookup
      cases lookup
  have group : (clearSubscriber t port s id).group = ((s.listDel t id).unsubscribe (t, port)).group := by
    rw [result, decAndFree]
    split <;> rfl
  have subs : (clearSubscriber t port s id).subs = update s.subs id ⟨(s.subs id).info, (s.subs id).refCount - 1⟩ := by
    rw [result, decAndFree]
    split <;> rfl
  have kept : KeptPorts s (clearSubscriber t port s id) := by
    rw [result, decAndFree]
    split <;> exact ⟨rfl, rfl, rfl, rfl, rfl, fun _ _ => rfl⟩
  have list (key : GroupType × Nat) : ((clearSubscriber t port s id).group key).list =
      if key.1 = t then (s.group key).list.erase id else (s.group key).list := by
    rw [group, unsubscribe_list, listDel_list]
  have flags (key : GroupType × Nat) : ((clearSubscriber t port s id).group key).exclusive = (s.group key).exclusive := by
    rw [group, unsubscribe_exclusive, listDel_exclusive]
  have info (x : Nat) : ((clearSubscriber t port s id).subs x).info = (s.subs x).info := by
    rw [subs]
    by_cases same : x = id
    · rw [same, update_self]
    · rw [update_of_ne same]
  have count (t' : GroupType) (p : Nat) (listed : s.Listed p) :
      ((clearSubscriber t port s id).group (t', p)).count = (s.group (t', p)).count := by
    have other : (t', p) ≠ (t, port) := by
      rintro same
      cases same
      exact gone listed
    rw [group, unsubscribe_count, if_neg other, listDel_count]
  have refs := graph.refs id mine
  by_cases there : id ∈ E t.peer
  · have two_ : (s.subs id).refCount = 2 := by
      cases t <;> simp only [GroupType.peer] at there <;> rw [refs, if_pos here, if_pos there]
    have freed : (clearSubscriber t port s id).freed = s.freed := by
      rw [result, decAndFree]
      show PortsState.freed (if (s.subs id).refCount - 1 = 0 then _ else _) = _
      rw [two_]
      rfl
    have dropped := graph.dropOne here there unlisted kept (by rw [subs, two_]) freed (fun t' p => list (t', p)) count flags
    refine ⟨_, dropped, update_self .., kept, fun t' => ?_, fun t' x inside away => ?_, flags, info⟩
    · by_cases same : t' = t
      · subst same
        rw [update_self]
        exact List.erase_sublist
      · rw [update_of_ne same]
    · by_cases same : t' = t
      · subst same
        rw [update_self, graph.mem_erase]
        refine ⟨?_, inside⟩
        rintro rfl
        exact away t' end_
      · rwa [update_of_ne same]
  · have one_ : (s.subs id).refCount = 1 := by
      cases t <;> simp only [GroupType.peer] at there <;> rw [refs, if_pos here, if_neg there]
    have freed : (clearSubscriber t port s id).freed = s.freed ++ [id] := by
      rw [result, decAndFree]
      show PortsState.freed (if (s.subs id).refCount - 1 = 0 then _ else _) = _
      rw [one_]
      rfl
    have both (key : GroupType × Nat) : ((clearSubscriber t port s id).group key).list = (s.group key).list.erase id := by
      rw [list]
      split
      · rfl
      · rename_i other
        have peer : key.1 = t.peer := (t.eq_or_peer key.1).resolve_left other
        have absent : id ∉ (s.group (key.1, key.2)).list := by
          rw [peer]
          exact fun inside => there (graph.mem.mp inside).1
        exact (List.erase_of_not_mem absent).symm
    have sameSubs (x : Nat) (ne : x ≠ id) : (clearSubscriber t port s id).subs x = s.subs x := by
      rw [subs, update_of_ne ne]
    have counts (t' : GroupType) (p : Nat) (listed : s.Listed p) :
        ((clearSubscriber t port s id).group (t', p)).count = ((clearSubscriber t port s id).group (t', p)).list.length := by
      have absent : id ∉ (s.group (t', p)).list := fun inside => unlisted t' ((graph.mem.mp inside).2 ▸ listed)
      rw [count t' p listed, both, List.erase_of_not_mem absent]
      exact graph.count t' p listed
    exact ⟨_, graph.dropBoth mine kept sameSubs freed both counts (fun t p => Or.inl (flags _)), rfl,
      graph.cleared_erase here end_ kept flags info⟩

theorem clear (graph : Graph s E ends) (here : id ∈ E t) (end_ : ends t id = port) (gone : ¬ s.Listed port) :
    ∃ E', Graph (clearSubscriber t port s id) E' ends ∧ E' t = (E t).erase id ∧
      Cleared s (clearSubscriber t port s id) E E' ends (· = port) := by
  cases found : s.usePtr ((s.subs id).info.addr t.peer) with
  | none => exact graph.clear_alone here end_ gone found
  | some aport =>
    obtain ⟨after, cleared⟩ := graph.clear_found here end_ gone found
    exact ⟨_, after, rfl, cleared⟩

theorem clearLoop {l : List Nat} (graph : Graph s E ends) (all : (E t).filter (fun id => ends t id == port) = l)
    (gone : ¬ s.Listed port) :
    ∃ E', Graph (l.foldl (clearSubscriber t port) s) E' ends ∧
      Cleared s (l.foldl (clearSubscriber t port) s) E E' ends (· = port) ∧ ∀ id ∈ E' t, ends t id ≠ port := by
  induction l generalizing s E with
  | nil =>
    refine ⟨E, graph, .refl s E ends _, fun id inside end_ => ?_⟩
    have among : id ∈ (E t).filter fun id => ends t id == port := List.mem_filter.mpr ⟨inside, by simp [end_]⟩
    rw [all] at among
    exact absurd among List.not_mem_nil
  | cons id rest ih =>
    have first : id ∈ (E t).filter fun id => ends t id == port := all ▸ List.mem_cons_self ..
    obtain ⟨here, end_⟩ := List.mem_filter.mp first
    obtain ⟨E1, after, erased, cleared⟩ := graph.clear here (by simpa using end_) gone
    have left : (E1 t).filter (fun id => ends t id == port) = rest := by
      rw [erased, erase_filter (graph.nodup t), all, List.erase_cons_head]
    obtain ⟨E2, done, cleared', empty⟩ := ih after left fun listed => gone ((cleared.kept.listed port).mp listed)
    exact ⟨E2, done, cleared.trans cleared', empty⟩

variable (port) in
theorem clearSubscriberList (graph : Graph s E ends) (t : GroupType) (gone : ¬ s.Listed port) :
    ∃ E', Graph (s.clearSubscriberList port t) E' ends ∧ Cleared s (s.clearSubscriberList port t) E E' ends (· = port) ∧
      ∀ id ∈ E' t, ends t id ≠ port := by
  rw [PortsState.clearSubscriberList]
  exact graph.clearLoop (graph.list t port).symm gone

theorem close (graph : Graph s E ends) (gone : ¬ s.Listed port) :
    Graph { s with closing := update s.closing port true } E ends ∧
      Cleared s { s with closing := update s.closing port true } E E ends (· = port) := by
  have kept : KeptPorts s { s with closing := update s.closing port true } := by
    refine ⟨rfl, rfl, rfl, rfl, rfl, fun p listed => update_of_ne ?_ ..⟩
    rintro rfl
    exact gone listed
  have usePtr := kept.usePtr graph.dir
  refine ⟨⟨kept.directory graph.dir, graph.list, graph.nodup, graph.count, graph.alone, graph.refs, graph.live, graph.freed,
    graph.address, ?_, graph.both, ?_⟩, kept, fun _ => .refl _, fun _ _ inside _ => inside, fun _ => rfl, fun _ => rfl⟩
  · intro t id alive listed
    rw [usePtr]
    exact graph.found t id alive listed
  · intro t id alive absent p there
    rw [usePtr] at there
    exact graph.stranger t id alive absent p there

theorem portDelete (graph : Graph s E ends) (gone : ¬ s.Listed port) :
    ∃ E', Graph (s.portDelete port) E' ends ∧ Cleared s (s.portDelete port) E E' ends (· = port) ∧
      ∀ t, ∀ id ∈ E' t, ends t id ≠ port := by
  obtain ⟨closed, start⟩ := graph.close gone
  obtain ⟨E1, first, cleared1, empty1⟩ := closed.clearSubscriberList port .src gone
  obtain ⟨E2, second, cleared2, empty2⟩ := first.clearSubscriberList port .dest fun listed =>
    gone ((cleared1.kept.listed port).mp listed)
  refine ⟨E2, second, start.trans (cleared1.trans cleared2), ?_⟩
  intro t id inside
  cases t with
  | src => exact empty1 id ((cleared2.sub .src).subset inside)
  | dest => exact empty2 id inside

theorem portsDelete {l : List Nat} (graph : Graph s E ends) (gone : ∀ p ∈ l, ¬ s.Listed p) :
    ∃ E', Graph (l.foldl PortsState.portDelete s) E' ends ∧ Cleared s (l.foldl PortsState.portDelete s) E E' ends (· ∈ l) ∧
      ∀ t, ∀ id ∈ E' t, ends t id ∉ l := by
  induction l generalizing s E with
  | nil => exact ⟨E, graph, .refl s E ends _, fun _ _ _ => List.not_mem_nil⟩
  | cons p rest ih =>
    obtain ⟨E1, after, cleared, empty⟩ := graph.portDelete (gone p (List.mem_cons_self ..))
    obtain ⟨E2, done, cleared', empty'⟩ := ih after fun q inside listed =>
      gone q (List.mem_cons_of_mem _ inside) ((cleared.kept.listed q).mp listed)
    refine ⟨E2, done, (cleared.mono ?_).trans (cleared'.mono ?_), ?_⟩
    · rintro q rfl
      exact List.mem_cons_self ..
    · exact fun q inside => List.mem_cons_of_mem _ inside
    · intro t id inside among
      rcases List.mem_cons.mp among with same | behind
      · exact empty t id ((cleared'.sub t).subset inside) same
      · exact empty' t id inside behind

end Graph

end AlsaDriver.Seq
