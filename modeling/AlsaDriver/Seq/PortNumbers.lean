import Mathlib.Order.Bounds.Basic
import AlsaDriver.Lib.Runs
import AlsaDriver.Seq.PortGraph

namespace AlsaDriver.Seq

open Function Runs

def SNDRV_SEQ_ADDRESS_BROADCAST : Nat := 255

/-- A request of a client about its ports; a new port may have a given number, and `kzalloc` may fail. -/
inductive PortRequest where
  | create (client : Nat) (port : Option (Fin 256)) (hasOpen : GroupType → Bool) (callbackAll allocated : Bool)
  | delete (client port : Nat)

namespace PortsState

variable (s : PortsState)

def request (s : PortsState) : PortRequest → PortsState
  | .create client port hasOpen callbackAll allocated =>
    if allocated then s.sndSeqCreatePort client port hasOpen callbackAll else s
  | .delete client port => (s.sndSeqDeletePort client port).2

def numbers (client : Nat) : List Nat := (s.portsListHead client).map fun p => (s.addr p).port

structure Numbered (client : Nat) : Prop where
  increasing : (s.numbers client).Pairwise (· < ·)
  count : s.numPorts client = (s.portsListHead client).length
  unreserved : ∀ n ∈ s.numbers client, n ≠ SNDRV_SEQ_ADDRESS_SUBSCRIBERS ∧ n ≠ SNDRV_SEQ_ADDRESS_BROADCAST

def AddsSmallest (client : Nat) (s' : PortsState) : Prop :=
  ∃ n, IsLeast {n | n ∉ s.numbers client} n ∧ (s'.numbers client).Perm (n :: s.numbers client)

/-- What a request leaves: identifying numbers everywhere, and for an automatic number, if a port
    was added at all, the smallest one. -/
def Identified (s : PortsState) (r : PortRequest) (s' : PortsState) : Prop :=
  (∀ client, s'.Numbered client) ∧
    ∀ client hasOpen callbackAll allocated, r = .create client none hasOpen callbackAll allocated →
      s' = s ∨ s.AddsSmallest client s'

def GivenFresh (s : PortsState) : PortRequest → Prop
  | .create client (some port) _ _ allocated =>
    allocated = true → s.numPorts client < SNDRV_SEQ_MAX_PORTS - 1 →
      port.val ∉ s.numbers client ∧ port.val ≠ SNDRV_SEQ_ADDRESS_SUBSCRIBERS ∧ port.val ≠ SNDRV_SEQ_ADDRESS_BROADCAST
  | _ => True

def Old : Prop := ∀ client, ∀ p ∈ s.portsListHead client, p < s.nextPort

end PortsState

theorem insertPort_auto (number : Nat → Nat) (new num : Nat) {l : List Nat}
    (increasing : l.Pairwise fun p q => number p < number q) (start : ∀ p ∈ l, num ≤ number p) :
    (∀ k, num ≤ k → k < (insertPort number true new num l).1 → ∃ p ∈ l, number p = k) ∧
      ∀ p ∈ l, number p ≠ (insertPort number true new num l).1 := by
  induction l generalizing num with
  | nil => exact ⟨fun k low high => absurd (Nat.lt_of_le_of_lt low high) (Nat.lt_irrefl _), by simp⟩
  | cons p rest ih =>
    obtain ⟨least, later⟩ := List.pairwise_cons.mp increasing
    by_cases here : num < number p
    · rw [insertPort, if_pos here]
      refine ⟨fun k low high => absurd (Nat.lt_of_le_of_lt low high) (Nat.lt_irrefl _), fun q inside => ?_⟩
      rcases List.mem_cons.mp inside with rfl | behind
      · exact here.ne'
      · exact (here.trans (least q behind)).ne'
    · have same : number p = num := Nat.le_antisymm (Nat.not_lt.mp here) (start p List.mem_cons_self)
      obtain ⟨taken, free⟩ := ih (number p + 1) later fun q behind => least q behind
      have lower : number p + 1 ≤ (insertPort number true new (number p + 1) rest).1 := by
        obtain ⟨n, before, after, -, result, -, -, low, -⟩ := insertPort_split new
          (later.imp fun less => Nat.le_of_lt less) fun _ q behind => Nat.le_succ_of_le (least q behind)
        rw [result]
        exact low
      rw [insertPort, if_neg here, if_pos rfl]
      dsimp only
      refine ⟨fun k low high => ?_, fun q inside => ?_⟩
      · rcases Nat.eq_or_lt_of_le low with equal | above
        · exact ⟨p, List.mem_cons_self, same.trans equal⟩
        · obtain ⟨q, behind, value⟩ := taken k (by omega) high
          exact ⟨q, List.mem_cons_of_mem _ behind, value⟩
      · rcases List.mem_cons.mp inside with rfl | behind
        · omega
        · exact free q behind

namespace PortsState

variable {s : PortsState} {client : Nat}

structure KeptLists (s s' : PortsState) : Prop where
  ports : s'.portsListHead = s.portsListHead
  numPorts : s'.numPorts = s.numPorts
  addr : s'.addr = s.addr
  nextPort : s'.nextPort = s.nextPort

theorem KeptLists.trans {s' s'' : PortsState} (first : KeptLists s s') (second : KeptLists s' s'') : KeptLists s s'' :=
  ⟨second.ports.trans first.ports, second.numPorts.trans first.numPorts, second.addr.trans first.addr,
    second.nextPort.trans first.nextPort⟩

theorem decAndFree_lists (id : Nat) : KeptLists s (s.decAndFree id) := by
  unfold decAndFree
  dsimp only
  split <;> exact ⟨rfl, rfl, rfl, rfl⟩

theorem clearSubscriber_lists (type : GroupType) (port id : Nat) : KeptLists s (clearSubscriber type port s id) := by
  unfold clearSubscriber
  dsimp only
  split
  · have freed := decAndFree_lists (s := (s.listDel type id).unsubscribe (type, port)) id
    exact ⟨freed.ports, freed.numPorts, freed.addr, freed.nextPort⟩
  · exact ⟨rfl, rfl, rfl, rfl⟩

theorem clearSubscriberList_lists (port : Nat) (type : GroupType) : KeptLists s (s.clearSubscriberList port type) := by
  unfold clearSubscriberList
  generalize (s.group (type, port)).list = ids
  induction ids generalizing s with
  | nil => exact ⟨rfl, rfl, rfl, rfl⟩
  | cons id rest ih => exact (clearSubscriber_lists type port id).trans ih

theorem portDelete_lists (port : Nat) : KeptLists s (s.portDelete port) := by
  have first := clearSubscriberList_lists (s := { s with closing := update s.closing port true }) port .src
  have second := first.trans (clearSubscriberList_lists port .dest)
  exact ⟨second.ports, second.numPorts, second.addr, second.nextPort⟩

theorem sndSeqDeletePort_cases (client port : Nat) : (s.sndSeqDeletePort client port).2 = s ∨
    ∃ found ∈ s.portsListHead client,
      (s.sndSeqDeletePort client port).2.portsListHead = update s.portsListHead client ((s.portsListHead client).erase found) ∧
      (s.sndSeqDeletePort client port).2.numPorts = update s.numPorts client (s.numPorts client - 1) ∧
      (s.sndSeqDeletePort client port).2.addr = s.addr ∧ (s.sndSeqDeletePort client port).2.nextPort = s.nextPort := by
  unfold sndSeqDeletePort
  split
  · exact Or.inl rfl
  · rename_i found first
    have kept := portDelete_lists (s := { s with
      portsListHead := update s.portsListHead client ((s.portsListHead client).erase found)
      numPorts := update s.numPorts client (s.numPorts client - 1) }) found
    exact Or.inr ⟨found, List.mem_of_find?_eq_some first, kept.ports, kept.numPorts, kept.addr, kept.nextPort⟩

theorem delete_keeps (numbered : ∀ client, s.Numbered client) (old : s.Old) (client port : Nat) :
    (∀ c, (s.sndSeqDeletePort client port).2.Numbered c) ∧ (s.sndSeqDeletePort client port).2.Old := by
  rcases sndSeqDeletePort_cases (s := s) client port with same | ⟨found, inside, ports, count, addr, next⟩
  · rw [same]
    exact ⟨numbered, old⟩
  generalize (s.sndSeqDeletePort client port).2 = s' at ports count addr next
  have sub (c : Nat) : (s'.portsListHead c).Sublist (s.portsListHead c) := by
    rw [ports]
    by_cases same : c = client
    · rw [same, update_self]
      exact List.erase_sublist
    · rw [update_of_ne same]
  have fewer (c : Nat) : (s'.numbers c).Sublist (s.numbers c) := by
    rw [numbers, addr]
    exact (sub c).map _
  refine ⟨fun c => ⟨(numbered c).increasing.sublist (fewer c), ?_, fun n member => ?_⟩, fun c p member => ?_⟩
  · rw [count, ports]
    by_cases same : c = client
    · rw [same, update_self, update_self, List.length_erase_of_mem inside, (numbered client).count]
    · rw [update_of_ne same, update_of_ne same]
      exact (numbered c).count
  · exact (numbered c).unreserved n ((fewer c).subset member)
  · rw [next]
    exact old c p ((sub c).subset member)

theorem sndSeqCreatePort_lists (numbered : s.Numbered client) (old : s.Old) (port : Option (Fin 256))
    (room : s.numPorts client < SNDRV_SEQ_MAX_PORTS - 1) (hasOpen : GroupType → Bool) (callbackAll : Bool) :
    ∃ n before after, s.numbers client = before ++ after ∧ (∀ k ∈ before, k ≤ n) ∧ (∀ k ∈ after, n < k) ∧
      (∀ m, port = some m → n = m.val) ∧ (port = none → IsLeast {n | n ∉ s.numbers client} n ∧ n < SNDRV_SEQ_MAX_PORTS - 1) ∧
      (s.sndSeqCreatePort client port hasOpen callbackAll).numbers = update s.numbers client (before ++ n :: after) ∧
      (s.sndSeqCreatePort client port hasOpen callbackAll).numPorts = update s.numPorts client (s.numPorts client + 1) ∧
      (∀ c, ((s.sndSeqCreatePort client port hasOpen callbackAll).portsListHead c).length =
        (s.portsListHead c).length + if c = client then 1 else 0) ∧
      (s.sndSeqCreatePort client port hasOpen callbackAll).Old := by
  have increasing : (s.portsListHead client).Pairwise fun p q => (s.addr p).port < (s.addr q).port :=
    List.pairwise_map.mp numbered.increasing
  have start (auto : port.isNone = true) (p : Nat) (_ : p ∈ s.portsListHead client) :
      (port.elim 0 fun n => n.val) ≤ (s.addr p).port + 1 := by
    cases port with
    | none => exact Nat.zero_le _
    | some n => cases auto
  obtain ⟨n, before, after, split, inserted, low, high, -, given, upper⟩ :=
    insertPort_split s.nextPort (increasing.imp fun less => Nat.le_of_lt less) start
  have automatic (none_ : port = none) : IsLeast {n | n ∉ s.numbers client} n ∧ n < SNDRV_SEQ_MAX_PORTS - 1 := by
    rw [none_] at inserted upper
    obtain ⟨taken, free⟩ := insertPort_auto (fun p => (s.addr p).port) s.nextPort 0 increasing
      fun p _ => Nat.zero_le (s.addr p).port
    rw [show insertPort (fun p => (s.addr p).port) true s.nextPort 0 (s.portsListHead client) = _ from inserted] at taken free
    refine ⟨⟨fun member => ?_, fun k missing => ?_⟩, ?_⟩
    · obtain ⟨p, inside, same⟩ := List.mem_map.mp member
      exact free p inside same
    · by_contra less
      obtain ⟨p, inside, same⟩ := taken k (Nat.zero_le k) (Nat.not_le.mp less)
      exact missing (List.mem_map.mpr ⟨p, inside, same⟩)
    · have count := numbered.count
      simp only [Option.elim_none] at upper
      omega
  have small : n % 256 = n := by
    apply Nat.mod_eq_of_lt
    cases port with
    | none =>
      have bound := (automatic rfl).2
      unfold SNDRV_SEQ_MAX_PORTS at bound
      omega
    | some m =>
      rw [given rfl]
      exact m.isLt
  have fields : (s.sndSeqCreatePort client port hasOpen callbackAll).portsListHead =
        update s.portsListHead client (before ++ s.nextPort :: after) ∧
      (s.sndSeqCreatePort client port hasOpen callbackAll).numPorts = update s.numPorts client (s.numPorts client + 1) ∧
      (s.sndSeqCreatePort client port hasOpen callbackAll).addr = update s.addr s.nextPort ⟨client, n⟩ ∧
      (s.sndSeqCreatePort client port hasOpen callbackAll).nextPort = s.nextPort + 1 := by
    rw [sndSeqCreatePort, if_neg (Nat.not_le.mpr room)]
    dsimp only
    rw [inserted]
    dsimp only
    rw [small]
    exact ⟨rfl, rfl, rfl, rfl⟩
  obtain ⟨ports, count, addr, next⟩ := fields
  have number {c p : Nat} (inside : p ∈ s.portsListHead c) :
      ((update s.addr s.nextPort ⟨client, n⟩) p).port = (s.addr p).port := by
    rw [update_of_ne (Nat.ne_of_lt (old c p inside))]
  have whole : s.numbers client = before.map (fun p => (s.addr p).port) ++ after.map fun p => (s.addr p).port := by
    rw [numbers, split, List.map_append]
  refine ⟨n, before.map fun p => (s.addr p).port, after.map fun p => (s.addr p).port, whole,
    List.forall_mem_map.mpr low, List.forall_mem_map.mpr high, ?_, automatic, ?_, count, ?_, ?_⟩
  · rintro m rfl
    exact given rfl
  · funext c
    rw [numbers, ports, addr]
    by_cases same : c = client
    · rw [same, update_self, update_self, List.map_append, List.map_cons, update_self]
      congr 1
      · exact List.map_congr_left fun p inside => number (split ▸ List.mem_append_left _ inside)
      · congr 1
        exact List.map_congr_left fun p inside => number (split ▸ List.mem_append_right _ inside)
    · rw [update_of_ne same, update_of_ne same]
      exact List.map_congr_left fun p inside => number inside
  · intro c
    rw [ports]
    by_cases same : c = client
    · rw [same, update_self, if_pos rfl, split, List.length_append, List.length_append, List.length_cons, Nat.add_assoc]
    · rw [update_of_ne same, if_neg same, Nat.add_zero]
  · intro c p inside
    rw [ports] at inside
    rw [next]
    by_cases same : c = client
    · rw [same, update_self] at inside
      rcases List.mem_append.mp inside with front | back
      · exact Nat.lt_succ_of_lt (old client p (split ▸ List.mem_append_left _ front))
      · rcases List.mem_cons.mp back with rfl | behind
        · exact Nat.lt_succ_self _
        · exact Nat.lt_succ_of_lt (old client p (split ▸ List.mem_append_right _ behind))
    · rw [update_of_ne same] at inside
      exact Nat.lt_succ_of_lt (old c p inside)

theorem numbered_insert_iff {s' : PortsState} (numbered : ∀ client, s.Numbered client) {n : Nat} {before after : List Nat}
    (split : s.numbers client = before ++ after) (low : ∀ k ∈ before, k ≤ n) (high : ∀ k ∈ after, n < k)
    (numbers' : s'.numbers = update s.numbers client (before ++ n :: after))
    (count : s'.numPorts = update s.numPorts client (s.numPorts client + 1))
    (length : ∀ c, (s'.portsListHead c).length = (s.portsListHead c).length + if c = client then 1 else 0) :
    (∀ c, s'.Numbered c) ↔
      n ∉ s.numbers client ∧ n ≠ SNDRV_SEQ_ADDRESS_SUBSCRIBERS ∧ n ≠ SNDRV_SEQ_ADDRESS_BROADCAST := by
  have mine : s'.numbers client = before ++ n :: after := by rw [numbers', update_self]
  have increasing := (numbered client).increasing
  rw [split] at increasing
  obtain ⟨first, second, cross⟩ := List.pairwise_append.mp increasing
  constructor
  · intro all
    have whole := (all client).increasing
    rw [mine] at whole
    obtain ⟨-, -, ahead⟩ := List.pairwise_append.mp whole
    refine ⟨fun used => ?_, (all client).unreserved n ?_⟩
    · rw [split] at used
      rcases List.mem_append.mp used with front | back
      · exact Nat.lt_irrefl n (ahead n front n List.mem_cons_self)
      · exact Nat.lt_irrefl n (high n back)
    · rw [mine]
      exact List.mem_append_right _ List.mem_cons_self
  · rintro ⟨fresh, unreserved⟩ c
    have counted : s'.numPorts c = (s'.portsListHead c).length := by
      rw [count, length]
      by_cases same : c = client
      · rw [same, update_self, if_pos rfl, (numbered client).count]
      · rw [update_of_ne same, if_neg same, (numbered c).count, Nat.add_zero]
    by_cases same : c = client
    · subst same
      refine ⟨?_, counted, fun k member => ?_⟩
      · rw [mine]
        refine List.pairwise_append.mpr ⟨first, List.pairwise_cons.mpr ⟨high, second⟩, fun k front j there => ?_⟩
        have different : k ≠ n := by
          rintro rfl
          exact fresh (split ▸ List.mem_append_left _ front)
        have below : k < n := Nat.lt_of_le_of_ne (low k front) different
        rcases List.mem_cons.mp there with rfl | back
        · exact below
        · exact below.trans (high j back)
      · rw [mine] at member
        rcases List.mem_append.mp member with front | back
        · exact (numbered c).unreserved k (split ▸ List.mem_append_left _ front)
        · rcases List.mem_cons.mp back with rfl | behind
          · exact unreserved
          · exact (numbered c).unreserved k (split ▸ List.mem_append_right _ behind)
    · have others : s'.numbers c = s.numbers c := by rw [numbers', update_of_ne same]
      exact ⟨others ▸ (numbered c).increasing, counted, others ▸ (numbered c).unreserved⟩

theorem create_refused {port : Option (Fin 256)} {hasOpen : GroupType → Bool} {callbackAll allocated : Bool}
    (refused : ¬ (allocated = true ∧ s.numPorts client < SNDRV_SEQ_MAX_PORTS - 1)) :
    s.request (.create client port hasOpen callbackAll allocated) = s := by
  rw [request]
  split
  · rename_i set
    rw [sndSeqCreatePort, if_pos (Nat.not_lt.mp fun room => refused ⟨set, room⟩)]
  · rfl

theorem create_step (numbered : ∀ client, s.Numbered client) (old : s.Old) (port : Option (Fin 256))
    (hasOpen : GroupType → Bool) (callbackAll allocated : Bool) :
    (s.Identified (.create client port hasOpen callbackAll allocated)
        (s.request (.create client port hasOpen callbackAll allocated)) ↔
      s.GivenFresh (.create client port hasOpen callbackAll allocated)) ∧
      (s.request (.create client port hasOpen callbackAll allocated)).Old := by
  by_cases granted : allocated = true ∧ s.numPorts client < SNDRV_SEQ_MAX_PORTS - 1
  · obtain ⟨rfl, room⟩ := granted
    obtain ⟨n, before, after, split, low, high, given, automatic, numbers', count, length, old'⟩ :=
      sndSeqCreatePort_lists (numbered client) old port room hasOpen callbackAll
    refine ⟨?_, old'⟩
    have insert_iff := numbered_insert_iff numbered split low high numbers' count length
    rw [request, if_pos rfl]
    cases port with
    | some m =>
      rw [given m rfl] at insert_iff
      refine ⟨fun identified _ _ => insert_iff.mp identified.1, fun fresh => ⟨insert_iff.mpr (fresh rfl room), ?_⟩⟩
      intro c open' all' allocated' same
      cases same
    | none =>
      obtain ⟨least, bound⟩ := automatic rfl
      refine ⟨fun _ => trivial, fun _ => ⟨insert_iff.mpr ⟨least.1, ?_, ?_⟩, ?_⟩⟩
      · unfold SNDRV_SEQ_MAX_PORTS at bound
        unfold SNDRV_SEQ_ADDRESS_SUBSCRIBERS
        omega
      · unfold SNDRV_SEQ_MAX_PORTS at bound
        unfold SNDRV_SEQ_ADDRESS_BROADCAST
        omega
      · intro c open' all' allocated' same
        obtain ⟨rfl, -⟩ := PortRequest.create.inj same
        refine Or.inr ⟨n, least, ?_⟩
        rw [numbers', update_self, split]
        exact List.perm_middle
  · rw [create_refused granted]
    refine ⟨⟨fun _ => ?_, fun _ => ⟨numbered, fun _ _ _ _ _ => Or.inl rfl⟩⟩, old⟩
    cases port with
    | some m => exact fun set room => absurd ⟨set, room⟩ granted
    | none => trivial

theorem request_step (numbered : ∀ client, s.Numbered client) (old : s.Old) (r : PortRequest) :
    (s.Identified r (s.request r) ↔ s.GivenFresh r) ∧ (s.request r).Old := by
  cases r with
  | create client port hasOpen callbackAll allocated => exact create_step numbered old port hasOpen callbackAll allocated
  | delete client port =>
    obtain ⟨kept, old'⟩ := delete_keeps numbered old client port
    refine ⟨⟨fun _ => trivial, fun _ => ⟨kept, fun _ _ _ _ same => ?_⟩⟩, old'⟩
    cases same

/-- The numbers of the ports identify them throughout a run exactly when no request of it gives a
    number that is in use or reserved. -/
theorem ports_identified_iff (requests : List PortRequest) :
    Throughout request Identified noPorts requests ↔
      Throughout request (fun s r _ => s.GivenFresh r) noPorts requests := by
  refine throughout_iff (P := fun _ _ _ => True) (fun s => (∀ client, s.Numbered client) ∧ s.Old) Identified GivenFresh
    (fun s r inv _ => (request_step inv.1 inv.2 r).1) (fun s r inv _ fresh => ?_) ?_ ?_
  · exact ⟨((request_step inv.1 inv.2 r).1.mpr fresh).1, (request_step inv.1 inv.2 r).2⟩
  · exact ⟨fun client => ⟨List.Pairwise.nil, rfl, by simp [numbers, noPorts]⟩, by simp [Old, noPorts]⟩
  · exact Throughout.of_mem fun _ _ _ => trivial

theorem port_number_shared : ¬ Throughout request Identified noPorts
    [.create 128 none (fun _ => false) false true, .create 128 (some 0) (fun _ => false) false true] := by
  rintro ⟨-, second, -⟩
  exact absurd (second.1 128).increasing (by decide)

end PortsState

end AlsaDriver.Seq
