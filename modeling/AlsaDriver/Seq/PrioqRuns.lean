import AlsaDriver.Seq.CellFree
import AlsaDriver.Seq.PrioqSpec

namespace AlsaDriver.Seq

open Chains Function SeqMemory StableQueue

section Removed

variable {m : SeqMemory} {f : SndSeqPrioq} {l : List SeqCell} {data : SeqCell → List SeqCell}

theorem freeRemoved_eq {removed kept : List SeqCell} {first : Option SeqCell} {fuel : Nat}
    (chain : Chain m.next first removed) (own : Private m data (removed ++ kept)) (enough : removed.length ≤ fuel) :
    ∃ m', freeRemoved fuel first m = some (removed, m') ∧ m'.event = m.event ∧ Private m' data kept ∧
      ∀ c ∈ kept, m'.next c = m.next c := by
  induction removed generalizing m first fuel with
  | nil =>
    have none_ : first = none := chain
    subst none_
    exact ⟨m, by cases fuel <;> rfl, rfl, own, fun _ _ => rfl⟩
  | cons c rest ih =>
    obtain ⟨here, later⟩ := chain
    subst here
    cases fuel with
    | zero => exact absurd enough (Nat.not_succ_le_zero _)
    | succ fuel =>
      obtain ⟨after, agree⟩ := own.free
      have link (d : SeqCell) (inside : d ∈ rest ++ kept) : (m.sndSeqCellFree c).next d = m.next d :=
        agree d (mem_footprint.mpr ⟨d, inside, Or.inl rfl⟩)
      have chain' : Chain (m.sndSeqCellFree c).next (m.next c) rest :=
        later.frame fun d inside => link d (List.mem_append_left _ inside)
      obtain ⟨m', run, events, private', same⟩ := ih chain' after (Nat.le_of_succ_le_succ enough)
      refine ⟨m', by rw [freeRemoved, run]; rfl, ?_, private', ?_⟩
      · rw [events, sndSeqCellFree_event]
      · intro d inside
        exact (same d inside).trans (link d (List.mem_append_right _ inside))

theorem filter_split (p : SeqCell → Bool) (l : List SeqCell) :
    l.Perm ((l.filter fun c => p c) ++ l.filter fun c => !p c) :=
  (List.filter_append_perm p l).symm

theorem removeCells_eq (match_ : SndSeqEvent → Bool) (rep : PrioqRep m f l) (own : Private m data l) :
    ∃ f' m', removeCells match_ f m = some (l.filter fun c => match_ (m.event c), f', m') ∧
      PrioqRep m' f' (l.filter fun c => !match_ (m.event c)) ∧ m'.event = m.event ∧
      Private m' data (l.filter fun c => !match_ (m.event c)) := by
  have start : Collecting m l [] [] l ⟨f, m, none, none, none⟩ :=
    ⟨located_two rep.chain rfl (by simp), rfl, rfl, rep.tail, rep.count, ⟨rfl, fun _ _ => rfl⟩, by simp⟩
  have fuel : l.length ≤ f.cells.toNat := by
    rw [rep.count]
    exact Nat.le_refl _
  obtain ⟨s, run, done⟩ := start.loop match_ fuel
  rw [List.nil_append, List.nil_append] at done
  have queue : Chain s.m.next s.f.head (l.filter fun c => !match_ (m.event c)) := by
    have chain := done.located.chain true
    rwa [two, if_pos rfl, two, if_pos rfl, List.append_nil] at chain
  have freed : Chain s.m.next s.freefirst (l.filter fun c => match_ (m.event c)) := done.located.chain false
  have owned : Private s.m data l := by
    apply own.frame
    · intro d _ outside
      exact done.relinked.frame d outside
    · intro c _
      rw [done.relinked.event]
  have shorter : (l.filter fun c => match_ (m.event c)).length ≤ f.cells.toNat :=
    Nat.le_trans (List.length_filter_le ..) fuel
  obtain ⟨m', frees, events, private', links⟩ :=
    freeRemoved_eq freed (owned.perm (filter_split (fun c => match_ (m.event c)) l)) shorter
  rw [rep.chain.head_eq.symm] at run
  refine ⟨s.f, m', ?_, ⟨queue.frame links, ?_, ?_⟩, ?_, private'⟩
  · rw [removeCells, run, Option.bind_some, frees]
    rfl
  · simpa using done.tail
  · simpa using done.count
  · rw [events, done.relinked.event]

end Removed

/-- A queue and its users. Every insertion has a number, the last one of each cell is in `stamp`; `out`
    and `freed` list the numbers that left in the two ways. -/
structure PrioqState where
  m : SeqMemory
  f : SndSeqPrioq
  stamp : SeqCell → Nat
  count : Nat
  out : List Nat
  freed : List Nat

namespace PrioqState

def OfList (s : PrioqState) (P : List SeqCell → Prop) : Prop := ∀ l, Chain s.m.next s.f.head l → P l

def Owns (s : PrioqState) (cell : SeqCell) : Prop := s.OfList fun l => ∃ data, Private s.m data (cell :: l)

def Leaves (s : PrioqState) (m' : SeqMemory) : Prop :=
  s.OfList fun l => (∀ c ∈ l, m'.next c = s.m.next c ∧ m'.event c = s.m.event c) ∧ ∃ data, Private m' data l

end PrioqState

inductive PrioqReachable (tick : Bool) : PrioqState → Prop where
  | new (m : SeqMemory) (stamp : SeqCell → Nat) : PrioqReachable tick ⟨m, sndSeqPrioqNew, stamp, 0, [], []⟩
  | cellIn {s : PrioqState} {cell : SeqCell} {err : Int} {f' : SndSeqPrioq} {m' : SeqMemory}
      (before : PrioqReachable tick s) (few : s.f.cells < PRIOQ_COUNT) (kind : (s.m.event cell).isTick = tick)
      (own : s.Owns cell) (call : sndSeqPrioqCellIn s.f s.m cell = (err, f', m')) :
      PrioqReachable tick { s with m := m', f := f', stamp := update s.stamp cell s.count, count := s.count + 1 }
  | cellOut {s : PrioqState} {cell : Option SeqCell} {f' : SndSeqPrioq} {m' : SeqMemory}
      (before : PrioqReachable tick s) (call : sndSeqPrioqCellOut s.f s.m = (cell, f', m')) :
      PrioqReachable tick { s with m := m', f := f', out := s.out ++ (cell.map s.stamp).toList }
  | leave {s : PrioqState} {freed : List SeqCell} {f' : SndSeqPrioq} {m' : SeqMemory} (client : Nat) (timestamp : Bool)
      (before : PrioqReachable tick s) (call : sndSeqPrioqLeave s.f s.m client timestamp = some (freed, f', m')) :
      PrioqReachable tick { s with m := m', f := f', freed := s.freed ++ freed.map s.stamp }
  | removeEvents {s : PrioqState} {freed : List SeqCell} {f' : SndSeqPrioq} {m' : SeqMemory} (client : Nat)
      (info : SndSeqRemoveEvents) (before : PrioqReachable tick s)
      (call : sndSeqPrioqRemoveEvents s.f s.m client info = some (freed, f', m')) :
      PrioqReachable tick { s with m := m', f := f', freed := s.freed ++ freed.map s.stamp }
  | other {s : PrioqState} {m' : SeqMemory} (before : PrioqReachable tick s) (leaves : s.Leaves m') :
      PrioqReachable tick { s with m := m' }

structure PrioqInv (tick : Bool) (s : PrioqState) (data : SeqCell → List SeqCell) (l : List SeqCell) : Prop where
  rep : PrioqRep s.m s.f l
  own : Private s.m data l
  kind : ∀ c ∈ l, (s.m.event c).isTick = tick
  ordered : l.Pairwise (Ahead (cellKey s.m) (cellPrior s.m) s.stamp)
  numbers : (s.out ++ s.freed ++ l.map s.stamp).Perm (List.range s.count)

namespace PrioqInv

variable {tick : Bool} {s : PrioqState} {data : SeqCell → List SeqCell} {l : List SeqCell}

theorem newest (inv : PrioqInv tick s data l) : ∀ c ∈ l, s.stamp c < s.count := by
  intro c inside
  apply List.mem_range.mp
  apply inv.numbers.mem_iff.mp
  simp only [List.mem_append, List.mem_map]
  exact Or.inr ⟨c, inside, rfl⟩

theorem sorted (inv : PrioqInv tick s data l) : l.Pairwise fun c d => cellKey s.m c ≤ cellKey s.m d :=
  inv.ordered.imp Ahead.key_le

theorem ahead_congr {m m' : SeqMemory} {stamp stamp' : SeqCell → Nat} (ordered : l.Pairwise (Ahead (cellKey m) (cellPrior m) stamp))
    (events : ∀ c ∈ l, m'.event c = m.event c) (stamps : ∀ c ∈ l, stamp' c = stamp c) :
    l.Pairwise (Ahead (cellKey m') (cellPrior m') stamp') := by
  apply ordered.imp_of_mem
  intro c d first second ahead
  simp only [Ahead, cellKey, cellPrior, events c first, events d second, stamps c first, stamps d second] at ahead ⊢
  exact ahead

theorem removed (inv : PrioqInv tick s data l) {match_ : SndSeqEvent → Bool} {freed : List SeqCell} {f' : SndSeqPrioq}
    {m' : SeqMemory} (call : removeCells match_ s.f s.m = some (freed, f', m')) :
    PrioqInv tick { s with m := m', f := f', freed := s.freed ++ freed.map s.stamp } data
      (l.filter fun c => !match_ (s.m.event c)) := by
  obtain ⟨f'', m'', run, rep, events, own⟩ := removeCells_eq match_ inv.rep inv.own
  rw [run] at call
  cases call
  have sub : List.Sublist (l.filter fun c => !match_ (s.m.event c)) l := List.filter_sublist
  refine ⟨rep, own, ?_, ?_, ?_⟩
  · intro c inside
    show (m'.event c).isTick = tick
    rw [events]
    exact inv.kind c (sub.subset inside)
  · exact ahead_congr (inv.ordered.sublist sub) (fun c _ => by rw [events]) (fun _ _ => rfl)
  · apply List.Perm.trans _ inv.numbers
    have parts := ((filter_split (fun c => match_ (s.m.event c)) l).map s.stamp).symm
    rw [List.map_append] at parts
    show (s.out ++ (s.freed ++ _) ++ _).Perm _
    rw [← List.append_assoc, List.append_assoc]
    exact parts.append_left _

theorem cellIn_eq (inv : PrioqInv tick s data l) {cell : SeqCell} (few : s.f.cells < PRIOQ_COUNT)
    (kind : (s.m.event cell).isTick = tick) (own : s.Owns cell) :
    ∃ f' m' data', sndSeqPrioqCellIn s.f s.m cell = (0, f', m') ∧
      PrioqInv tick { s with m := m', f := f', stamp := update s.stamp cell s.count, count := s.count + 1 } data'
        (insertCell s.m cell l) := by
  obtain ⟨data', mine⟩ := own l inv.rep.chain
  have fresh : cell ∉ l := by
    intro inside
    exact (mine.cons_apart (mem_footprint.mpr ⟨cell, inside, Or.inl rfl⟩)).1 rfl
  have short : l.length < PRIOQ_COUNT := by
    have count := inv.rep.count
    omega
  have kinds : ∀ c ∈ l, (s.m.event cell).isTick = (s.m.event c).isTick := fun c inside => kind.trans (inv.kind c inside).symm
  obtain ⟨f', m', call, rep, relinked⟩ := sndSeqPrioqCellIn_eq inv.rep fresh short kinds inv.sorted
  have perm : (insertCell s.m cell l).Perm (cell :: l) := insert_perm cell l
  have older : ∀ c ∈ l, update s.stamp cell s.count c = s.stamp c := by
    intro c inside
    apply update_of_ne
    rintro rfl
    exact fresh inside
  have owned : Private m' data' (cell :: l) := by
    apply mine.frame
    · intro d _ outside
      exact relinked.frame d outside
    · intro c _
      rw [relinked.event]
  refine ⟨f', m', data', call, rep, owned.perm perm.symm, ?_, ?_, ?_⟩
  · intro c inside
    show (m'.event c).isTick = tick
    rw [relinked.event]
    rcases List.mem_cons.mp (perm.mem_iff.mp inside) with same | old
    · rw [same]
      exact kind
    · exact inv.kind c old
  · have before := ahead_congr inv.ordered (fun _ _ => rfl) older
    have after := insert_ahead (x := cell) before fun c inside => by
      rw [older c inside, update_self]
      exact inv.newest c inside
    exact ahead_congr after (fun c _ => by rw [relinked.event]) (fun _ _ => rfl)
  · show (s.out ++ s.freed ++ (insertCell s.m cell l).map (update s.stamp cell s.count)).Perm (List.range (s.count + 1))
    have numbers := (perm.map (update s.stamp cell s.count))
    rw [List.map_cons, update_self, List.map_congr_left older] at numbers
    rw [List.range_succ]
    calc s.out ++ s.freed ++ (insertCell s.m cell l).map (update s.stamp cell s.count)
      _ |>.Perm (s.out ++ s.freed ++ s.count :: l.map s.stamp) := numbers.append_left _
      _ |>.Perm (s.count :: (s.out ++ s.freed ++ l.map s.stamp)) := List.perm_middle
      _ |>.Perm (s.count :: List.range s.count) := inv.numbers.cons _
      _ |>.Perm (List.range s.count ++ [s.count]) := (List.perm_append_singleton _ _).symm

theorem cellOut_eq (inv : PrioqInv tick s data l) :
    ∃ f' m', sndSeqPrioqCellOut s.f s.m = (l.head?, f', m') ∧
      PrioqInv tick { s with m := m', f := f', out := s.out ++ (l.head?.map s.stamp).toList } data l.tail := by
  obtain ⟨f', m', call, rep, relinked⟩ := sndSeqPrioqCellOut_eq inv.rep
  have sub : List.Sublist l.tail l := List.tail_sublist l
  have owned : Private m' data l := by
    apply inv.own.frame
    · intro d _ outside
      exact relinked.frame d outside
    · intro c _
      rw [relinked.event]
  refine ⟨f', m', call, rep, ?_, ?_, ?_, ?_⟩
  · cases l with
    | nil => exact owned
    | cons c rest => exact owned.tail
  · intro c inside
    show (m'.event c).isTick = tick
    rw [relinked.event]
    exact inv.kind c (sub.subset inside)
  · exact ahead_congr (inv.ordered.sublist sub) (fun c _ => by rw [relinked.event]) (fun _ _ => rfl)
  · apply List.Perm.trans _ inv.numbers
    show (s.out ++ _ ++ s.freed ++ _).Perm _
    cases l with
    | nil => simp
    | cons c rest =>
      have front : s.out ++ [s.stamp c] ++ s.freed ++ rest.map s.stamp =
          s.out ++ s.stamp c :: (s.freed ++ rest.map s.stamp) := by simp
      have back : s.out ++ s.freed ++ (c :: rest).map s.stamp =
          (s.out ++ s.freed) ++ s.stamp c :: rest.map s.stamp := by simp
      show (s.out ++ [s.stamp c] ++ s.freed ++ rest.map s.stamp).Perm _
      rw [front, back]
      apply List.perm_middle.trans
      rw [← List.append_assoc]
      exact List.perm_middle.symm

theorem others (inv : PrioqInv tick s data l) {m' : SeqMemory} (leaves : s.Leaves m') :
    ∃ data', PrioqInv tick { s with m := m' } data' l := by
  obtain ⟨same, data', own⟩ := leaves l inv.rep.chain
  refine ⟨data', ⟨?_, inv.rep.tail, inv.rep.count⟩, own, ?_, ?_, inv.numbers⟩
  · exact inv.rep.chain.frame fun c inside => (same c inside).1
  · intro c inside
    show (m'.event c).isTick = tick
    rw [(same c inside).2]
    exact inv.kind c inside
  · exact ahead_congr inv.ordered (fun c inside => (same c inside).2) (fun _ _ => rfl)

end PrioqInv

theorem PrioqReachable.inv {tick : Bool} {s : PrioqState} (reachable : PrioqReachable tick s) :
    ∃ data l, PrioqInv tick s data l := by
  induction reachable with
  | new m stamp =>
    refine ⟨fun _ => [], [], ⟨rfl, Or.inl rfl, rfl⟩, ⟨by simp, List.nodup_nil⟩, by simp, .nil, ?_⟩
    exact List.Perm.refl _
  | cellIn before few kind own call ih =>
    obtain ⟨data, l, inv⟩ := ih
    obtain ⟨f', m', data', run, after⟩ := inv.cellIn_eq few kind own
    rw [run] at call
    cases call
    exact ⟨data', _, after⟩
  | cellOut before call ih =>
    obtain ⟨data, l, inv⟩ := ih
    obtain ⟨f', m', run, after⟩ := inv.cellOut_eq
    rw [run] at call
    cases call
    exact ⟨data, _, after⟩
  | leave client timestamp before call ih =>
    obtain ⟨data, l, inv⟩ := ih
    exact ⟨data, _, inv.removed call⟩
  | removeEvents client info before call ih =>
    obtain ⟨data, l, inv⟩ := ih
    exact ⟨data, _, inv.removed call⟩
  | other before leaves ih =>
    obtain ⟨data, l, inv⟩ := ih
    obtain ⟨data', after⟩ := inv.others leaves
    exact ⟨data', l, after⟩

def oneCell : PrioqState where
  m := emptyMemory.setNext ⟨0, 0⟩ none
  f := ⟨some ⟨0, 0⟩, some ⟨0, 0⟩, 1⟩
  stamp := update (fun _ => 0) ⟨0, 0⟩ 0
  count := 1
  out := []
  freed := []

end AlsaDriver.Seq
