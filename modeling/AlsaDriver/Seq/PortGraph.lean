import Mathlib.Data.List.Find
import Mathlib.Data.List.Nodup
import Mathlib.Tactic.Tauto
import AlsaDriver.Seq.Ports

namespace AlsaDriver.Seq

open Function

theorem GroupType.peer_ne (t : GroupType) : t.peer ≠ t := by
  cases t <;> decide

@[simp] theorem GroupType.peer_peer (t : GroupType) : t.peer.peer = t := by
  cases t <;> rfl

theorem GroupType.eq_or_peer (t t' : GroupType) : t' = t ∨ t' = t.peer := by
  cases t <;> cases t' <;> simp [GroupType.peer]

namespace PortsState

variable (s : PortsState)

def Listed (p : Nat) : Prop := p ∈ s.portsListHead (s.addr p).client

def Live (id : Nat) : Prop := id < s.nextSubs ∧ id ∉ s.freed

end PortsState

structure Directory (s : PortsState) : Prop where
  home : ∀ c p, p ∈ s.portsListHead c → (s.addr p).client = c
  old : ∀ c p, p ∈ s.portsListHead c → p < s.nextPort
  sorted : ∀ c, (s.portsListHead c).Pairwise fun p q => (s.addr p).port ≤ (s.addr q).port
  nodup : ∀ c, (s.portsListHead c).Nodup
  count : ∀ c, s.numPorts c = (s.portsListHead c).length
  open_ : ∀ c p, p ∈ s.portsListHead c → s.closing p = false

section Lookup

variable {s s' : PortsState} {a : SndSeqAddr} {p : Nat}

theorem Directory.usePtr_eq (dir : Directory s) (a : SndSeqAddr) :
    s.usePtr a = (s.portsListHead a.client).find? fun p => (s.addr p).port == a.port := by
  rw [PortsState.usePtr]
  cases found : (s.portsListHead a.client).find? fun p => (s.addr p).port == a.port with
  | none => rfl
  | some p =>
    have open_ := dir.open_ _ p (List.mem_of_find?_eq_some found)
    dsimp only
    rw [if_neg (by simp [open_])]

theorem Directory.usePtr_some (dir : Directory s) (found : s.usePtr a = some p) : s.Listed p ∧ s.addr p = a := by
  rw [dir.usePtr_eq] at found
  have inside := List.mem_of_find?_eq_some found
  have home := dir.home _ p inside
  have number := List.find?_some found
  refine ⟨?_, ?_⟩
  · rw [PortsState.Listed, home]
    exact inside
  · cases there : s.addr p with
    | mk client port =>
      rw [there] at home number
      cases a
      simp only at home
      simp only [beq_iff_eq] at number
      rw [home, number]

theorem find_sublist {f : Nat → Bool} {l l' : List Nat} (sub : List.Sublist l' l) (found : l.find? f = some p)
    (inside : p ∈ l') (nodup : l.Nodup) : l'.find? f = some p := by
  induction sub with
  | slnil => exact absurd inside List.not_mem_nil
  | @cons l1 l2 q sub ih =>
    have fresh := (List.nodup_cons.mp nodup).1
    have other : p ≠ q := by
      rintro rfl
      exact fresh (sub.subset inside)
    rw [List.find?_cons] at found
    cases hit : f q with
    | true =>
      rw [hit] at found
      exact absurd (Option.some.inj found).symm other
    | false =>
      rw [hit] at found
      exact ih found inside (List.nodup_cons.mp nodup).2
  | @cons_cons l1 l2 q sub ih =>
    rw [List.find?_cons] at found ⊢
    cases hit : f q with
    | true =>
      rw [hit] at found
      exact found
    | false =>
      rw [hit] at found
      have other : p ≠ q := by
        rintro rfl
        have hit' := List.find?_some found
        rw [hit] at hit'
        cases hit'
      exact ih found ((List.mem_cons.mp inside).resolve_left other) (List.nodup_cons.mp nodup).2

theorem insertPort_split {number : Nat → Nat} {auto : Bool} (new : Nat) {num : Nat} {l : List Nat}
    (sorted : l.Pairwise fun p q => number p ≤ number q) (start : auto = true → ∀ p ∈ l, num ≤ number p + 1) :
    ∃ n before after, l = before ++ after ∧ insertPort number auto new num l = (n, before ++ new :: after) ∧
      (∀ p ∈ before, number p ≤ n) ∧ (∀ p ∈ after, n < number p) ∧ num ≤ n ∧ (auto = false → n = num) ∧
      n ≤ num + l.length := by
  induction l generalizing num with
  | nil => exact ⟨num, [], [], rfl, rfl, by simp, by simp, Nat.le_refl _, fun _ => rfl, Nat.le_refl _⟩
  | cons p rest ih =>
    obtain ⟨least, later⟩ := List.pairwise_cons.mp sorted
    by_cases here : num < number p
    · refine ⟨num, [], p :: rest, rfl, by rw [insertPort, if_pos here]; rfl, by simp, ?_, Nat.le_refl _, fun _ => rfl, by omega⟩
      intro q inside
      rcases List.mem_cons.mp inside with same | behind
      · rw [same]
        exact here
      · exact Nat.lt_of_lt_of_le here (least q behind)
    · have start' : auto = true → ∀ q ∈ rest, (if auto then number p + 1 else num) ≤ number q + 1 := by
        intro probe q inside
        rw [if_pos probe]
        exact Nat.succ_le_succ (least q inside)
      obtain ⟨n, before, after, split, result, low, high, lower, given, upper⟩ := ih later start'
      refine ⟨n, p :: before, after, by rw [split]; rfl, ?_, ?_, high, ?_, ?_, ?_⟩
      · rw [insertPort, if_neg here, result]
        rfl
      · intro q inside
        rcases List.mem_cons.mp inside with same | behind
        · rw [same]
          cases auto
          · exact Nat.le_trans (Nat.not_lt.mp here) lower
          · exact Nat.le_of_succ_le lower
        · exact low q behind
      · cases auto
        · exact lower
        · exact Nat.le_trans (start rfl p (List.mem_cons_self ..)) lower
      · intro notAuto
        have same := given notAuto
        rwa [notAuto] at same
      · rw [List.length_cons]
        cases auto
        · simp only [Bool.false_eq_true, if_false] at upper
          omega
        · have bound := Nat.not_lt.mp here
          simp only [if_true] at upper
          omega

end Lookup

structure KeptPorts (s s' : PortsState) : Prop where
  ports : s'.portsListHead = s.portsListHead
  numPorts : s'.numPorts = s.numPorts
  addr : s'.addr = s.addr
  nextPort : s'.nextPort = s.nextPort
  nextSubs : s'.nextSubs = s.nextSubs
  closing : ∀ p, s.Listed p → s'.closing p = s.closing p

namespace KeptPorts

variable {s s' s'' : PortsState}

theorem listed (kept : KeptPorts s s') (p : Nat) : s'.Listed p ↔ s.Listed p := by
  rw [PortsState.Listed, PortsState.Listed, kept.ports, kept.addr]

theorem trans (first : KeptPorts s s') (second : KeptPorts s' s'') : KeptPorts s s'' where
  ports := second.ports.trans first.ports
  numPorts := second.numPorts.trans first.numPorts
  addr := second.addr.trans first.addr
  nextPort := second.nextPort.trans first.nextPort
  nextSubs := second.nextSubs.trans first.nextSubs
  closing p listed := (second.closing p ((first.listed p).mpr listed)).trans (first.closing p listed)

theorem directory (kept : KeptPorts s s') (dir : Directory s) : Directory s' := by
  obtain ⟨ports, numPorts, addr, nextPort, -, closing⟩ := kept
  refine ⟨?_, ?_, ?_, ?_, ?_, ?_⟩
  · rw [ports, addr]
    exact dir.home
  · rw [ports, nextPort]
    exact dir.old
  · rw [ports, addr]
    exact dir.sorted
  · rw [ports]
    exact dir.nodup
  · rw [ports, numPorts]
    exact dir.count
  · intro c p inside
    rw [ports] at inside
    have listed : s.Listed p := by
      rw [PortsState.Listed, dir.home c p inside]
      exact inside
    rw [closing p listed]
    exact dir.open_ c p inside

theorem usePtr (kept : KeptPorts s s') (dir : Directory s) (a : SndSeqAddr) : s'.usePtr a = s.usePtr a := by
  rw [(kept.directory dir).usePtr_eq, dir.usePtr_eq, kept.ports, kept.addr]

end KeptPorts

/-- The groups as the two ends of the records in `E`. A record whose ports both exist is in a group of each
    of them; while ports are deleted, a record may have lost one of its links. -/
structure Graph (s : PortsState) (E : GroupType → List Nat) (ends : GroupType → Nat → Nat) : Prop where
  dir : Directory s
  list : ∀ t p, (s.group (t, p)).list = (E t).filter fun id => ends t id == p
  nodup : ∀ t, (E t).Nodup
  count : ∀ t p, s.Listed p → (s.group (t, p)).count = (s.group (t, p)).list.length
  alone : ∀ t p, s.Listed p → ∀ id ∈ (s.group (t, p)).list, (s.subs id).info.exclusive = true →
    (s.group (t, p)).list = [id] ∧ (s.group (t, p)).exclusive = true
  refs : ∀ id, s.Live id → (s.subs id).refCount = (if id ∈ E .src then 1 else 0) + (if id ∈ E .dest then 1 else 0)
  live : ∀ id, s.Live id ↔ ∃ t, id ∈ E t
  freed : s.freed.Nodup ∧ ∀ id ∈ s.freed, id < s.nextSubs
  address : ∀ t id, s.Live id → (s.subs id).info.addr t = s.addr (ends t id)
  found : ∀ t id, s.Live id → s.Listed (ends t id) → s.usePtr (s.addr (ends t id)) = some (ends t id)
  both : ∀ t id, s.Live id → s.Listed (ends t id) → ∀ t', id ∈ E t'
  stranger : ∀ t id, s.Live id → ¬ s.Listed (ends t id) → ∀ p, s.usePtr (s.addr (ends t id)) = some p →
    ∀ t', (s.group (t', p)).list = []

namespace Graph

variable {s s' : PortsState} {E : GroupType → List Nat} {ends : GroupType → Nat → Nat} {id p : Nat} {t : GroupType}

theorem mem (graph : Graph s E ends) : id ∈ (s.group (t, p)).list ↔ id ∈ E t ∧ ends t id = p := by
  rw [graph.list, List.mem_filter, beq_iff_eq]

theorem alive (graph : Graph s E ends) (inside : id ∈ E t) : s.Live id := (graph.live id).mpr ⟨t, inside⟩

theorem nodup_list (graph : Graph s E ends) (t : GroupType) (p : Nat) : (s.group (t, p)).list.Nodup := by
  rw [graph.list]
  exact (graph.nodup t).filter _

theorem erase_filter {l : List Nat} (nodup : l.Nodup) (f : Nat → Bool) : (l.erase id).filter f = (l.filter f).erase id := by
  rw [nodup.erase_eq_filter, List.Nodup.erase_eq_filter (nodup.filter f), List.filter_filter, List.filter_filter]
  exact List.filter_congr fun x _ => Bool.and_comm ..

theorem mem_erase (graph : Graph s E ends) {x : Nat} : x ∈ (E t).erase id ↔ x ≠ id ∧ x ∈ E t := (graph.nodup t).mem_erase_iff

theorem alone_erase (graph : Graph s E ends) {l : List Nat} {flag : Bool} (listed : s.Listed p)
    (shorter : l = (s.group (t, p)).list.erase id) (kept : flag = (s.group (t, p)).exclusive ∨ id ∈ (s.group (t, p)).list)
    {x : Nat} (inside : x ∈ l) (exclusive : (s.subs x).info.exclusive = true) : l = [x] ∧ flag = true := by
  rw [shorter, (graph.nodup_list t p).mem_erase_iff] at inside
  obtain ⟨other, before⟩ := inside
  obtain ⟨only, set⟩ := graph.alone t p listed x before exclusive
  have absent : id ∉ (s.group (t, p)).list := by
    rw [only, List.mem_singleton]
    exact fun same => other same.symm
  refine ⟨?_, ?_⟩
  · rw [shorter, List.erase_of_not_mem absent, only]
  · rw [kept.resolve_right absent, set]

theorem dropBoth (graph : Graph s E ends) (mine : s.Live id) (kept : KeptPorts s s')
    (subs : ∀ x, x ≠ id → s'.subs x = s.subs x) (freed : s'.freed = s.freed ++ [id])
    (list : ∀ key, (s'.group key).list = (s.group key).list.erase id)
    (count : ∀ t p, s.Listed p → (s'.group (t, p)).count = (s'.group (t, p)).list.length)
    (flag : ∀ t p, (s'.group (t, p)).exclusive = (s.group (t, p)).exclusive ∨ id ∈ (s.group (t, p)).list) :
    Graph s' (fun t => (E t).erase id) ends := by
  have live (x : Nat) : s'.Live x ↔ s.Live x ∧ x ≠ id := by
    rw [PortsState.Live, PortsState.Live, kept.nextSubs, freed, List.mem_append, List.mem_singleton]
    tauto
  have usePtr := kept.usePtr graph.dir
  refine ⟨kept.directory graph.dir, ?_, fun t => (graph.nodup t).erase id, ?_, ?_, ?_, ?_, ⟨?_, ?_⟩, ?_, ?_, ?_, ?_⟩
  · intro t p
    rw [list, graph.list, erase_filter (graph.nodup t)]
  · exact fun t p listed => count t p ((kept.listed p).mp listed)
  · intro t p listed x inside exclusive
    have other : x ≠ id := by
      rw [list, (graph.nodup_list t p).mem_erase_iff] at inside
      exact inside.1
    rw [subs x other] at exclusive
    exact graph.alone_erase ((kept.listed p).mp listed) (list _) (flag t p) inside exclusive
  · intro x alive
    obtain ⟨before, other⟩ := (live x).mp alive
    rw [subs x other, graph.refs x before]
    simp only [graph.mem_erase, other, ne_eq, not_false_eq_true, true_and]
  · intro x
    rw [live, graph.live]
    constructor
    · rintro ⟨⟨t, inside⟩, other⟩
      exact ⟨t, graph.mem_erase.mpr ⟨other, inside⟩⟩
    · rintro ⟨t, inside⟩
      obtain ⟨other, before⟩ := graph.mem_erase.mp inside
      exact ⟨⟨t, before⟩, other⟩
  · rw [freed, List.nodup_append]
    refine ⟨graph.freed.1, by simp, ?_⟩
    rintro x inside y there rfl
    rw [List.mem_singleton.mp there] at inside
    exact mine.2 inside
  · intro x inside
    rw [freed, List.mem_append, List.mem_singleton] at inside
    rw [kept.nextSubs]
    rcases inside with old | same
    · exact graph.freed.2 x old
    · rw [same]
      exact mine.1
  · intro t x alive
    obtain ⟨before, other⟩ := (live x).mp alive
    rw [subs x other, kept.addr]
    exact graph.address t x before
  · intro t x alive listed
    rw [usePtr, kept.addr]
    exact graph.found t x ((live x).mp alive).1 ((kept.listed _).mp listed)
  · intro t x alive listed t'
    obtain ⟨before, other⟩ := (live x).mp alive
    exact graph.mem_erase.mpr ⟨other, graph.both t x before ((kept.listed _).mp listed) t'⟩
  · intro t x alive gone q there t'
    rw [usePtr, kept.addr] at there
    have empty := graph.stranger t x ((live x).mp alive).1 (fun listed => gone ((kept.listed _).mpr listed)) q there t'
    rw [list, empty]
    rfl

theorem dropOne (graph : Graph s E ends) (here : id ∈ E t) (there : id ∈ E t.peer)
    (gone : ∀ t', ¬ s.Listed (ends t' id)) (kept : KeptPorts s s')
    (subs : s'.subs = update s.subs id ⟨(s.subs id).info, 1⟩) (freed : s'.freed = s.freed)
    (list : ∀ t' p, (s'.group (t', p)).list =
      if t' = t then (s.group (t', p)).list.erase id else (s.group (t', p)).list)
    (count : ∀ t p, s.Listed p → (s'.group (t, p)).count = (s.group (t, p)).count)
    (flag : ∀ key, (s'.group key).exclusive = (s.group key).exclusive) :
    Graph s' (update E t ((E t).erase id)) ends := by
  have live (x : Nat) : s'.Live x ↔ s.Live x := by
    rw [PortsState.Live, PortsState.Live, kept.nextSubs, freed]
  have usePtr := kept.usePtr graph.dir
  have info (x : Nat) : (s'.subs x).info = (s.subs x).info := by
    rw [subs]
    by_cases same : x = id
    · rw [same, update_self]
    · rw [update_of_ne same]
  have sub (t' : GroupType) : List.Sublist (update E t ((E t).erase id) t') (E t') := by
    by_cases same : t' = t
    · subst same
      rw [update_self]
      exact List.erase_sublist
    · rw [update_of_ne same]
  have absent (t' : GroupType) (p : Nat) (listed : s.Listed p) : id ∉ (s.group (t', p)).list := by
    intro inside
    rw [graph.mem] at inside
    exact gone t' (inside.2 ▸ listed)
  have unchanged (t' : GroupType) (p : Nat) (listed : s.Listed p) : (s'.group (t', p)).list = (s.group (t', p)).list := by
    rw [list]
    split
    · exact List.erase_of_not_mem (absent t' p listed)
    · rfl
  have other (x : Nat) (ne : x ≠ id) (t' : GroupType) : x ∈ update E t ((E t).erase id) t' ↔ x ∈ E t' := by
    by_cases same : t' = t
    · subst same
      rw [update_self, graph.mem_erase]
      exact and_iff_right ne
    · rw [update_of_ne same]
  have mine (t' : GroupType) : id ∈ update E t ((E t).erase id) t' ↔ t' = t.peer := by
    rcases t.eq_or_peer t' with same | same
    · subst same
      rw [update_self, graph.mem_erase]
      exact iff_of_false (fun both => both.1 rfl) (fun wrong => t'.peer_ne wrong.symm)
    · subst same
      rw [update_of_ne t.peer_ne]
      exact iff_of_true there rfl
  refine ⟨kept.directory graph.dir, ?_, fun t' => (sub t').nodup (graph.nodup t'), ?_, ?_, ?_, ?_, ?_, ?_, ?_, ?_, ?_⟩
  · intro t' p
    rw [list]
    by_cases same : t' = t
    · subst same
      rw [if_pos rfl, update_self, graph.list, erase_filter (graph.nodup t')]
    · rw [if_neg same, update_of_ne same, graph.list]
  · intro t' p listed
    have before := (kept.listed p).mp listed
    rw [count t' p before, unchanged t' p before]
    exact graph.count t' p before
  · intro t' p listed x inside exclusive
    have before := (kept.listed p).mp listed
    rw [unchanged t' p before] at inside ⊢
    rw [info] at exclusive
    rw [flag]
    exact graph.alone t' p before x inside exclusive
  · intro x alive
    by_cases same : x = id
    · subst same
      rw [subs, update_self]
      simp only [mine]
      cases t <;> rfl
    · rw [subs, update_of_ne same, graph.refs x ((live x).mp alive)]
      simp only [other x same]
  · intro x
    rw [live, graph.live]
    by_cases same : x = id
    · subst same
      exact iff_of_true ⟨t, here⟩ ⟨t.peer, (mine _).mpr rfl⟩
    · simp only [other x same]
  · rw [freed, kept.nextSubs]
    exact graph.freed
  · intro t' x alive
    rw [info, kept.addr]
    exact graph.address t' x ((live x).mp alive)
  · intro t' x alive listed
    rw [usePtr, kept.addr]
    exact graph.found t' x ((live x).mp alive) ((kept.listed _).mp listed)
  · intro t' x alive listed t''
    have before := (kept.listed _).mp listed
    have ne : x ≠ id := by
      rintro rfl
      exact gone t' before
    rw [other x ne]
    exact graph.both t' x ((live x).mp alive) before t''
  · intro t' x alive absent' q found t''
    rw [usePtr, kept.addr] at found
    have empty := graph.stranger t' x ((live x).mp alive) (fun listed => absent' ((kept.listed _).mpr listed)) q found t''
    rw [list, empty]
    split <;> rfl

end Graph

end AlsaDriver.Seq
