import AlsaDriver.Seq.PortDelete

namespace AlsaDriver.Seq

open Function PortsState

namespace PortsState

variable (s : PortsState)

def FlagsOk : Prop := ∀ t p, s.Listed p → (s.group (t, p)).exclusive = true →
  ∃ id, (s.group (t, p)).list = [id] ∧ (s.subs id).info.exclusive = true

def ExclusiveWithin (D : List Nat) : Prop :=
  ∀ t, ∀ p ∈ D, ∀ id ∈ (s.group (t, p)).list, (s.subs id).info.exclusive = true →
    ∃ q ∈ D, id ∈ (s.group (t.peer, q)).list

/-- The ports `D` are taken off the list of their client. -/
def takeOff (client : Nat) (l : List Nat) : PortsState :=
  { s with
    portsListHead := update s.portsListHead client l
    numPorts := update s.numPorts client l.length }

/-- The ports with a new one of number `n` in its place. -/
def addPort (client n : Nat) (ports : List Nat) (hasOpen : GroupType → Bool) (callbackAll : Bool) : PortsState :=
  { s with
    portsListHead := update s.portsListHead client ports
    numPorts := update s.numPorts client (s.numPorts client + 1)
    addr := update s.addr s.nextPort ⟨client, n⟩
    callbackAll := update s.callbackAll s.nextPort callbackAll
    closing := update s.closing s.nextPort false
    group := fun key =>
      if key.2 = s.nextPort then { SndSeqPortSubsInfo.init with hasOpen := hasOpen key.1 } else s.group key
    nextPort := s.nextPort + 1 }

end PortsState

structure Settled (s : PortsState) (E : GroupType → List Nat) (ends : GroupType → Nat → Nat) : Prop where
  graph : Graph s E ends
  listed : ∀ t id, s.Live id → s.Listed (ends t id)

namespace Settled

variable {s s' : PortsState} {E : GroupType → List Nat} {ends : GroupType → Nat → Nat} {id p client : Nat} {t : GroupType}
  {l D : List Nat}

theorem mem_all (settled : Settled s E ends) (live : s.Live id) (t : GroupType) : id ∈ E t :=
  settled.graph.both t id live (settled.listed t id live) t

theorem mem_list (settled : Settled s E ends) (live : s.Live id) (t : GroupType) : id ∈ (s.group (t, ends t id)).list :=
  settled.graph.mem.mpr ⟨settled.mem_all live t, rfl⟩

theorem listed_takeOff (dir : Directory s) (sub : l.Sublist (s.portsListHead client)) :
    (s.takeOff client l).Listed p ↔ s.Listed p ∧ (p ∈ s.portsListHead client → p ∈ l) := by
  show p ∈ update s.portsListHead client l (s.addr p).client ↔ _
  by_cases same : (s.addr p).client = client
  · rw [same, update_self, Listed, same]
    constructor
    · exact fun inside => ⟨sub.subset inside, fun _ => inside⟩
    · exact fun both => both.2 both.1
  · rw [update_of_ne same, Listed]
    constructor
    · exact fun inside => ⟨inside, fun there => absurd (dir.home _ p there) same⟩
    · exact And.left

theorem directory_takeOff (dir : Directory s) (sub : l.Sublist (s.portsListHead client)) :
    Directory (s.takeOff client l) := by
  have subs (c : Nat) : (update s.portsListHead client l c).Sublist (s.portsListHead c) := by
    by_cases same : c = client
    · rw [same, update_self]
      exact sub
    · rw [update_of_ne same]
  refine ⟨?_, ?_, ?_, ?_, ?_, ?_⟩
  · exact fun c p inside => dir.home c p ((subs c).subset inside)
  · exact fun c p inside => dir.old c p ((subs c).subset inside)
  · exact fun c => (dir.sorted c).sublist (subs c)
  · exact fun c => (dir.nodup c).sublist (subs c)
  · intro c
    show update s.numPorts client l.length c = (update s.portsListHead client l c).length
    by_cases same : c = client
    · rw [same, update_self, update_self]
    · rw [update_of_ne same, update_of_ne same]
      exact dir.count c
  · exact fun c p inside => dir.open_ c p ((subs c).subset inside)

theorem usePtr_takeOff (dir : Directory s) (sub : l.Sublist (s.portsListHead client)) {a : SndSeqAddr}
    (found : s.usePtr a = some p) (listed : (s.takeOff client l).Listed p) : (s.takeOff client l).usePtr a = some p := by
  have home := (dir.usePtr_some found).2
  rw [dir.usePtr_eq] at found
  rw [(directory_takeOff dir sub).usePtr_eq]
  show (update s.portsListHead client l a.client).find? (fun p => (s.addr p).port == a.port) = some p
  by_cases same : a.client = client
  · have inside := ((listed_takeOff dir sub).mp listed).2
    rw [same, update_self]
    rw [same] at found
    exact find_sublist sub found (inside (List.mem_of_find?_eq_some found)) (dir.nodup client)
  · rw [update_of_ne same]
    exact found

theorem takeOff (settled : Settled s E ends) (sub : l.Sublist (s.portsListHead client)) : Graph (s.takeOff client l) E ends := by
  have graph := settled.graph
  have dir := graph.dir
  have before {p : Nat} (listed : (s.takeOff client l).Listed p) : s.Listed p := ((listed_takeOff dir sub).mp listed).1
  refine ⟨directory_takeOff dir sub, graph.list, graph.nodup, fun t p listed => graph.count t p (before listed),
    fun t p listed => graph.alone t p (before listed), graph.refs, graph.live, graph.freed, graph.address, ?_, ?_, ?_⟩
  · intro t id live listed
    exact usePtr_takeOff dir sub (graph.found t id live (settled.listed t id live)) listed
  · intro t id live _ t'
    exact settled.mem_all live t'
  · intro t id live gone q there t'
    -- `q` has the same address, and was hidden behind the port that is gone
    obtain ⟨listed, address⟩ := (directory_takeOff dir sub).usePtr_some there
    have empty : ∀ x, x ∉ (s.group (t', q)).list := by
      intro x inside
      obtain ⟨among, end_⟩ := graph.mem.mp inside
      have alive := graph.alive among
      have foundX := graph.found t' x alive (settled.listed t' x alive)
      have foundId := graph.found t id live (settled.listed t id live)
      have address : s.addr q = s.addr (ends t id) := address
      rw [end_, address, foundId] at foundX
      rw [Option.some.inj foundX] at gone
      exact gone listed
    exact List.eq_nil_iff_forall_not_mem.mpr empty

theorem delete (settled : Settled s E ends) (sub : l.Sublist (s.portsListHead client))
    (all : ∀ p, p ∈ s.portsListHead client ↔ p ∈ l ∨ p ∈ D) (apart : ∀ p ∈ D, p ∉ l) :
    ∃ E', Settled (D.foldl PortsState.portDelete (s.takeOff client l)) E' ends ∧
      (∀ p, (D.foldl PortsState.portDelete (s.takeOff client l)).Listed p ↔ s.Listed p ∧ p ∉ D) ∧
      (∀ key, ((D.foldl PortsState.portDelete (s.takeOff client l)).group key).exclusive = (s.group key).exclusive) ∧
      (∀ x, ((D.foldl PortsState.portDelete (s.takeOff client l)).subs x).info = (s.subs x).info) ∧
      (∀ t, (E' t).Sublist (E t)) ∧ ∀ t id, id ∈ E' t ↔ id ∈ E t ∧ ∀ t', ends t' id ∉ D := by
  have dir := settled.graph.dir
  have gone : ∀ p ∈ D, ¬ (s.takeOff client l).Listed p := by
    intro p inside listed
    exact apart p inside (((listed_takeOff dir sub).mp listed).2 ((all p).mpr (Or.inr inside)))
  obtain ⟨E', graph, cleared, empty⟩ := (settled.takeOff sub).portsDelete gone
  have listed (p : Nat) : (D.foldl PortsState.portDelete (s.takeOff client l)).Listed p ↔ s.Listed p ∧ p ∉ D := by
    rw [cleared.kept.listed, listed_takeOff dir sub, all]
    constructor
    · rintro ⟨before, off⟩
      exact ⟨before, fun inside => apart p inside (off (Or.inr inside))⟩
    · rintro ⟨before, out⟩
      exact ⟨before, fun either => either.resolve_right out⟩
  have own (t : GroupType) (id : Nat) (inside : id ∈ E' t) :
      (D.foldl PortsState.portDelete (s.takeOff client l)).Listed (ends t id) := by
    have live := settled.graph.alive ((cleared.sub t).subset inside)
    exact (listed _).mpr ⟨settled.listed t id live, empty t id inside⟩
  have everywhere (t t' : GroupType) (id : Nat) (inside : id ∈ E' t) : id ∈ E' t' :=
    graph.both t id (graph.alive inside) (own t id inside) t'
  refine ⟨E', ⟨graph, ?_⟩, listed, cleared.flags, cleared.info, cleared.sub, ?_⟩
  · intro t id live
    obtain ⟨t', inside⟩ := (graph.live id).mp live
    exact own t id (everywhere t' t id inside)
  · intro t id
    constructor
    · exact fun inside => ⟨(cleared.sub t).subset inside, fun t' => empty t' id (everywhere t t' id inside)⟩
    · exact fun both => cleared.stay t id both.1 both.2

theorem delete_flags (settled : Settled s E ends) {E' : GroupType → List Nat} (after : Settled s' E' ends)
    (listed : ∀ p, s'.Listed p ↔ s.Listed p ∧ p ∉ D)
    (flags : ∀ key, (s'.group key).exclusive = (s.group key).exclusive)
    (info : ∀ x, (s'.subs x).info = (s.subs x).info) (sub : ∀ t, (E' t).Sublist (E t))
    (mem : ∀ t id, id ∈ E' t ↔ id ∈ E t ∧ ∀ t', ends t' id ∉ D) (before : s.FlagsOk) :
    s'.FlagsOk ↔ s.ExclusiveWithin D := by
  constructor
  · intro ok t p inside id there exclusive
    obtain ⟨among, end_⟩ := settled.graph.mem.mp there
    have live := settled.graph.alive among
    have other := settled.mem_list live t.peer
    refine ⟨ends t.peer id, ?_, other⟩
    by_contra out
    have here := settled.listed t.peer id live
    obtain ⟨only, set⟩ := settled.graph.alone t.peer _ here id other exclusive
    obtain ⟨id', list', -⟩ := ok t.peer (ends t.peer id) ((listed _).mpr ⟨here, out⟩) (by rw [flags]; exact set)
    have among' : id' ∈ E' t.peer := (after.graph.mem.mp (list' ▸ List.mem_singleton.mpr rfl)).1
    have end' : ends t.peer id' = ends t.peer id := (after.graph.mem.mp (list' ▸ List.mem_singleton.mpr rfl)).2
    have old : id' ∈ (s.group (t.peer, ends t.peer id)).list := settled.graph.mem.mpr ⟨(sub _).subset among', end'⟩
    rw [only, List.mem_singleton] at old
    subst old
    exact ((mem t.peer id').mp among').2 t (end_.symm ▸ inside)
  · intro within t p there set
    obtain ⟨here, out⟩ := (listed p).mp there
    rw [flags] at set
    obtain ⟨id, only, exclusive⟩ := before t p here set
    have inside : id ∈ (s.group (t, p)).list := by
      rw [only]
      exact List.mem_singleton.mpr rfl
    obtain ⟨among, end_⟩ := settled.graph.mem.mp inside
    have live := settled.graph.alive among
    have outside (t' : GroupType) : ends t' id ∉ D := by
      rcases t.eq_or_peer t' with same | same
      · rw [same, end_]
        exact out
      · rw [same]
        intro gone
        obtain ⟨q, among', inside'⟩ := within t.peer _ gone id (settled.mem_list live t.peer) exclusive
        rw [GroupType.peer_peer] at inside'
        exact out ((end_.symm.trans (settled.graph.mem.mp inside').2) ▸ among')
    refine ⟨id, ?_, by rw [info]; exact exclusive⟩
    have stays : id ∈ (s'.group (t, p)).list := after.graph.mem.mpr ⟨(mem t id).mpr ⟨among, outside⟩, end_⟩
    have shorter : (s'.group (t, p)).list.Sublist [id] := by
      rw [← only, after.graph.list, settled.graph.list]
      exact (sub t).filter _
    have some_ : 0 < (s'.group (t, p)).list.length := List.length_pos_of_mem stays
    exact shorter.eq_of_length_le some_

end Settled

theorem sndSeqCreatePort_cases {s : PortsState} (dir : Directory s) (client : Nat) (port : Option (Fin 256))
    (hasOpen : GroupType → Bool) (callbackAll : Bool) :
    s.sndSeqCreatePort client port hasOpen callbackAll = s ∨
      ∃ n before after, s.portsListHead client = before ++ after ∧
        (∀ p ∈ before, (s.addr p).port ≤ n) ∧ (∀ p ∈ after, n < (s.addr p).port) ∧
        s.sndSeqCreatePort client port hasOpen callbackAll =
          s.addPort client n (before ++ s.nextPort :: after) hasOpen callbackAll := by
  by_cases full : SNDRV_SEQ_MAX_PORTS - 1 ≤ s.numPorts client
  · left
    rw [sndSeqCreatePort, if_pos full]
  · right
    have start (auto : port.isNone = true) (p : Nat) (_ : p ∈ s.portsListHead client) :
        (port.elim 0 fun n => n.val) ≤ (s.addr p).port + 1 := by
      cases port with
      | none => exact Nat.zero_le _
      | some n => cases auto
    obtain ⟨n, before, after, split, inserted, low, high, -, given, upper⟩ :=
      insertPort_split s.nextPort (dir.sorted client) start
    have small : n % 256 = n := by
      apply Nat.mod_eq_of_lt
      cases port with
      | none =>
        have count := dir.count client
        simp only [SNDRV_SEQ_MAX_PORTS] at full
        simp only [Option.elim_none] at upper
        omega
      | some m =>
        rw [given rfl]
        exact m.isLt
    refine ⟨n, before, after, split, low, high, ?_⟩
    rw [sndSeqCreatePort, if_neg full]
    dsimp only
    rw [inserted]
    dsimp only
    rw [small]
    rfl

section AddPort

variable {s : PortsState} {client n : Nat} {before after : List Nat} {hasOpen : GroupType → Bool} {callbackAll : Bool}

theorem Directory.not_new (dir : Directory s) {c p : Nat} (inside : p ∈ s.portsListHead c) : p ≠ s.nextPort := by
  rintro rfl
  exact Nat.lt_irrefl _ (dir.old c _ inside)

theorem addPort_addr {p : Nat} (old : p ≠ s.nextPort) :
    (s.addPort client n (before ++ s.nextPort :: after) hasOpen callbackAll).addr p = s.addr p := update_of_ne old ..

theorem addPort_new :
    (s.addPort client n (before ++ s.nextPort :: after) hasOpen callbackAll).addr s.nextPort = ⟨client, n⟩ := update_self ..

variable (n hasOpen callbackAll) in
theorem addPort_ports (split : s.portsListHead client = before ++ after) (c p : Nat) :
    p ∈ (s.addPort client n (before ++ s.nextPort :: after) hasOpen callbackAll).portsListHead c ↔
      p ∈ s.portsListHead c ∨ c = client ∧ p = s.nextPort := by
  show p ∈ update s.portsListHead client _ c ↔ _
  by_cases same : c = client
  · rw [same, update_self, split]
    simp only [List.mem_append, List.mem_cons, true_and]
    tauto
  · rw [update_of_ne same]
    simp [same]

variable (n hasOpen callbackAll) in
theorem addPort_listed (split : s.portsListHead client = before ++ after) (p : Nat) :
    (s.addPort client n (before ++ s.nextPort :: after) hasOpen callbackAll).Listed p ↔ s.Listed p ∨ p = s.nextPort := by
  rw [Listed, addPort_ports n hasOpen callbackAll split]
  by_cases same : p = s.nextPort
  · rw [same, addPort_new]
    simp
  · rw [addPort_addr same, Listed]
    simp [same]

variable (hasOpen callbackAll) in
theorem addPort_directory (dir : Directory s) (split : s.portsListHead client = before ++ after)
    (low : ∀ p ∈ before, (s.addr p).port ≤ n) (high : ∀ p ∈ after, n < (s.addr p).port) :
    Directory (s.addPort client n (before ++ s.nextPort :: after) hasOpen callbackAll) := by
  have ports := addPort_ports n hasOpen callbackAll split
  refine ⟨?_, ?_, ?_, ?_, ?_, ?_⟩
  · intro c p inside
    rcases (ports c p).mp inside with old | ⟨here, same⟩
    · rw [addPort_addr (dir.not_new old)]
      exact dir.home c p old
    · rw [same, addPort_new, here]
  · intro c p inside
    rcases (ports c p).mp inside with old | ⟨-, same⟩
    · exact Nat.lt_succ_of_lt (dir.old c p old)
    · rw [same]
      exact Nat.lt_succ_self _
  · intro c
    show (update s.portsListHead client (before ++ s.nextPort :: after) c).Pairwise _
    by_cases same : c = client
    · subst same
      rw [update_self]
      have sorted := dir.sorted c
      have old (p : Nat) (inside : p ∈ before ++ after) : p ≠ s.nextPort := dir.not_new (split ▸ inside)
      rw [split] at sorted
      obtain ⟨first, second, cross⟩ := List.pairwise_append.mp sorted
      refine List.pairwise_append.mpr ⟨?_, List.pairwise_cons.mpr ⟨?_, ?_⟩, ?_⟩
      · apply first.imp_of_mem
        intro p q left right
        rw [addPort_addr (old p (List.mem_append_left _ left)), addPort_addr (old q (List.mem_append_left _ right))]
        exact id
      · intro q inside
        rw [addPort_new, addPort_addr (old q (List.mem_append_right _ inside))]
        exact Nat.le_of_lt (high q inside)
      · apply second.imp_of_mem
        intro p q left right
        rw [addPort_addr (old p (List.mem_append_right _ left)), addPort_addr (old q (List.mem_append_right _ right))]
        exact id
      · intro p left q right
        rw [addPort_addr (old p (List.mem_append_left _ left))]
        rcases List.mem_cons.mp right with same | behind
        · rw [same, addPort_new]
          exact low p left
        · rw [addPort_addr (old q (List.mem_append_right _ behind))]
          exact cross p left q behind
    · rw [update_of_ne same]
      apply (dir.sorted c).imp_of_mem
      intro p q left right
      rw [addPort_addr (dir.not_new left), addPort_addr (dir.not_new right)]
      exact id
  · intro c
    show (update s.portsListHead client (before ++ s.nextPort :: after) c).Nodup
    by_cases same : c = client
    · subst same
      rw [update_self]
      have nodup := dir.nodup c
      rw [split] at nodup
      apply List.nodup_middle.mpr
      refine List.nodup_cons.mpr ⟨fun inside => ?_, nodup⟩
      rw [← split] at inside
      exact dir.not_new inside rfl
    · rw [update_of_ne same]
      exact dir.nodup c
  · intro c
    show update s.numPorts client (s.numPorts client + 1) c =
      (update s.portsListHead client (before ++ s.nextPort :: after) c).length
    by_cases same : c = client
    · subst same
      rw [update_self, update_self, dir.count, split]
      simp
      omega
    · rw [update_of_ne same, update_of_ne same]
      exact dir.count c
  · intro c p inside
    show update s.closing s.nextPort false p = false
    rcases (ports c p).mp inside with old | ⟨-, same⟩
    · rw [update_of_ne (dir.not_new old)]
      exact dir.open_ c p old
    · rw [same, update_self]

theorem addPort_usePtr (dir : Directory s) (split : s.portsListHead client = before ++ after)
    (low : ∀ p ∈ before, (s.addr p).port ≤ n) (high : ∀ p ∈ after, n < (s.addr p).port) {a : SndSeqAddr} {p : Nat}
    (found : s.usePtr a = some p) :
    (s.addPort client n (before ++ s.nextPort :: after) hasOpen callbackAll).usePtr a = some p := by
  have directory := addPort_directory hasOpen callbackAll dir split low high
  rw [dir.usePtr_eq] at found
  rw [directory.usePtr_eq]
  have same (l : List Nat) (old : ∀ q ∈ l, q ≠ s.nextPort) :
      l.find? (fun q => ((s.addPort client n (before ++ s.nextPort :: after) hasOpen callbackAll).addr q).port == a.port) =
        l.find? fun q => (s.addr q).port == a.port := by
    apply List.find?_congr
    intro q inside
    rw [addPort_addr (old q inside)]
  show (update s.portsListHead client (before ++ s.nextPort :: after) a.client).find? _ = _
  by_cases here : a.client = client
  · rw [here] at found
    have old (q : Nat) (inside : q ∈ before ++ after) : q ≠ s.nextPort := dir.not_new (split ▸ inside)
    rw [split, List.find?_append] at found
    rw [here, update_self, List.find?_append, same before fun q inside => old q (List.mem_append_left _ inside)]
    cases first : before.find? fun q => (s.addr q).port == a.port with
    | some q =>
      rw [first] at found
      exact found
    | none =>
      rw [first, Option.none_or] at found
      rw [Option.none_or, List.find?_cons]
      -- the new port has a smaller number than the one that is found behind it
      have number := List.find?_some found
      have behind := high p (List.mem_of_find?_eq_some found)
      have miss : ((s.addPort client n (before ++ s.nextPort :: after) hasOpen callbackAll).addr s.nextPort).port ≠ a.port := by
        rw [addPort_new]
        simp only [beq_iff_eq] at number
        show n ≠ a.port
        omega
      rw [beq_eq_false_iff_ne.mpr miss, same after fun q inside => old q (List.mem_append_right _ inside)]
      exact found
  · rw [update_of_ne here, same _ fun q inside => dir.not_new inside]
    exact found

end AddPort

namespace Settled

variable {s s' : PortsState} {E : GroupType → List Nat} {ends : GroupType → Nat → Nat} {id p client : Nat} {t : GroupType}

theorem addPort (settled : Settled s E ends) {n : Nat} {before after : List Nat}
    (split : s.portsListHead client = before ++ after) (low : ∀ p ∈ before, (s.addr p).port ≤ n)
    (high : ∀ p ∈ after, n < (s.addr p).port) (hasOpen : GroupType → Bool) (callbackAll : Bool) :
    Settled (s.addPort client n (before ++ s.nextPort :: after) hasOpen callbackAll) E ends ∧
      (s.FlagsOk → (s.addPort client n (before ++ s.nextPort :: after) hasOpen callbackAll).FlagsOk) := by
  have graph := settled.graph
  have listed := addPort_listed n hasOpen callbackAll split
  have group (t : GroupType) (p : Nat) (old : p ≠ s.nextPort) :
      (s.addPort client n (before ++ s.nextPort :: after) hasOpen callbackAll).group (t, p) = s.group (t, p) := if_neg old
  have fresh (t : GroupType) :
      (s.addPort client n (before ++ s.nextPort :: after) hasOpen callbackAll).group (t, s.nextPort) =
        ⟨[], 0, false, hasOpen t⟩ := if_pos rfl
  have oldEnd (t : GroupType) (id : Nat) (live : s.Live id) : ends t id ≠ s.nextPort :=
    graph.dir.not_new (settled.listed t id live)
  refine ⟨⟨⟨addPort_directory hasOpen callbackAll graph.dir split low high, ?_, graph.nodup, ?_, ?_, graph.refs, graph.live, graph.freed,
    ?_, ?_, ?_, ?_⟩, ?_⟩, ?_⟩
  · intro t p
    by_cases same : p = s.nextPort
    · rw [same, fresh]
      symm
      apply List.filter_eq_nil_iff.mpr
      intro id inside
      simpa using oldEnd t id (graph.alive inside)
    · rw [group t p same]
      exact graph.list t p
  · intro t p here
    by_cases same : p = s.nextPort
    · rw [same, fresh]
      rfl
    · rw [group t p same]
      exact graph.count t p (((listed p).mp here).resolve_right same)
  · intro t p here id inside exclusive
    by_cases same : p = s.nextPort
    · rw [same, fresh] at inside
      exact absurd inside List.not_mem_nil
    · rw [group t p same] at inside ⊢
      exact graph.alone t p (((listed p).mp here).resolve_right same) id inside exclusive
  · intro t id live
    rw [addPort_addr (oldEnd t id live)]
    exact graph.address t id live
  · intro t id live _
    rw [addPort_addr (oldEnd t id live)]
    exact addPort_usePtr graph.dir split low high (graph.found t id live (settled.listed t id live))
  · intro t id live _ t'
    exact settled.mem_all live t'
  · intro t id live gone
    exact absurd ((listed _).mpr (Or.inl (settled.listed t id live))) gone
  · intro t id live
    exact (listed _).mpr (Or.inl (settled.listed t id live))
  · intro ok t p here set
    by_cases same : p = s.nextPort
    · rw [same, fresh] at set
      cases set
    · rw [group t p same] at set ⊢
      exact ok t p (((listed p).mp here).resolve_right same) set

theorem createPort (settled : Settled s E ends) (client : Nat) (port : Option (Fin 256)) (hasOpen : GroupType → Bool)
    (callbackAll : Bool) : Settled (s.sndSeqCreatePort client port hasOpen callbackAll) E ends ∧
      (s.FlagsOk → (s.sndSeqCreatePort client port hasOpen callbackAll).FlagsOk) := by
  rcases sndSeqCreatePort_cases settled.graph.dir client port hasOpen callbackAll with
    same | ⟨n, before, after, split, low, high, result⟩
  · rw [same]
    exact ⟨settled, id⟩
  · rw [result]
    exact settled.addPort split low high hasOpen callbackAll

end Settled

end AlsaDriver.Seq
