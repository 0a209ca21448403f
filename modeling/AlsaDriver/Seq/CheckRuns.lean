import AlsaDriver.Lib.Runs
import AlsaDriver.Seq.CheckQueue
import AlsaDriver.Seq.PrioqSpec

namespace AlsaDriver.Seq

open Chains Function Runs

namespace SndSeqTimer

def now (tmr : SndSeqTimer) : QueueKind → ℕ ×ₗ ℕ
  | .tick => toLex (tmr.curTick, 0)
  | .time => toLex (tmr.curTime.tvSec, tmr.curTime.tvNsec)

end SndSeqTimer

theorem due_iff (tmr : SndSeqTimer) {kind : QueueKind} {ev : SndSeqEvent} (home : queueKind ev = kind) :
    due tmr kind ev = true ↔ timeKey ev ≤ tmr.now kind := by
  subst home
  cases tick : ev.isTick with
  | true =>
    simp only [queueKind, timeKey, tick, if_true, due, SndSeqTimer.now, sndSeqCompareTickTime, decide_eq_true_eq,
      Prod.Lex.toLex_le_toLex]
    omega
  | false =>
    simp only [queueKind, timeKey, tick, Bool.false_eq_true, if_false, due, SndSeqTimer.now, sndSeqCompareRealTime,
      Prod.Lex.toLex_le_toLex]
    split
    · rename_i later
      simp [later]
    · rename_i later
      simp only [Bool.and_eq_true, decide_eq_true_eq]
      omega

theorem isTick_of_queueKind {a b : SndSeqEvent} (same : queueKind a = queueKind b) : a.isTick = b.isTick := by
  cases first : a.isTick <;> cases second : b.isTick <;> simp [queueKind, first, second] at same <;> rfl

namespace CheckPc

def Inside : CheckPc → Prop
  | outside | ready _ | enter => False
  | peek _ | compare _ _ | takeOut _ | dispatch _ | leave => True

def Reaches (at_ kind : QueueKind) : Prop := at_ = .tick ∨ kind = .time

def Sees (m : SeqMemory) (kind : QueueKind) (cell : SeqCell) : CheckPc → Prop
  | peek at_ | takeOut at_ | dispatch at_ => Reaches at_ kind
  | compare at_ first => at_ = kind ∧ cellKey m first ≤ cellKey m cell ∨ at_ = .tick ∧ kind = .time
  | _ => False

theorem Sees.inside {m : SeqMemory} {kind : QueueKind} {cell : SeqCell} {pc : CheckPc} (sees : pc.Sees m kind cell) :
    pc.Inside := by
  cases pc <;> first | exact trivial | exact sees

theorem behind_inside (kind : QueueKind) : (behind kind).Inside := by
  cases kind <;> trivial

end CheckPc

namespace QueueState

def Others (s : QueueState) : Prop := s.checkAgain = true ∨ ∃ i, s.pc i = .enter

def Covered (s : QueueState) (kind : QueueKind) (cell : SeqCell) : Prop :=
  s.Others ∨ ∃ i, (s.pc i).Sees s.m kind cell

end QueueState

structure Exclusive (s : QueueState) : Prop where
  one : ∀ i j, (s.pc i).Inside → (s.pc j).Inside → i = j
  blocked : s.checkBlocked = true ↔ ∃ i, (s.pc i).Inside
  again : s.checkAgain = true → s.checkBlocked = true

namespace Exclusive

variable {s s' : QueueState} {i : Nat} {pc : CheckPc}

theorem goto (excl : Exclusive s) (moved : s'.pc = update s.pc i pc) (same : pc.Inside ↔ (s.pc i).Inside)
    (blocked : s'.checkBlocked = s.checkBlocked) (again : s'.checkAgain = s.checkAgain) : Exclusive s' := by
  have inside (j : Nat) : (s'.pc j).Inside ↔ (s.pc j).Inside := by
    rw [moved]
    by_cases here : j = i
    · rw [here, update_self, same]
    · rw [update_of_ne here]
  refine ⟨?_, ?_, ?_⟩
  · intro j j' first second
    exact excl.one j j' ((inside j).mp first) ((inside j').mp second)
  · rw [blocked, excl.blocked]
    exact exists_congr fun j => (inside j).symm
  · rw [blocked, again]
    exact excl.again

theorem enter (excl : Exclusive s) (waiting : s.pc i = .enter) : Exclusive (s.enter i) := by
  rw [QueueState.enter]
  by_cases busy : s.checkBlocked = true
  · rw [if_pos busy]
    have marked : Exclusive { s with checkAgain := true } := ⟨excl.one, excl.blocked, fun _ => busy⟩
    exact marked.goto rfl (by rw [waiting]; exact Iff.rfl) rfl rfl
  · rw [if_neg busy]
    have alone (j : Nat) : ¬ (s.pc j).Inside := fun inside => busy (excl.blocked.mpr ⟨j, inside⟩)
    have only (j : Nat) (inside : (update s.pc i (.peek .tick) j).Inside) : j = i := by
      by_contra other
      rw [update_of_ne other] at inside
      exact alone j inside
    refine ⟨fun j j' first second => (only j first).trans (only j' second).symm, ?_, fun _ => rfl⟩
    refine iff_of_true rfl ⟨i, ?_⟩
    show (update s.pc i (.peek .tick) i).Inside
    rw [update_self]
    trivial

theorem leave (excl : Exclusive s) (here : s.pc i = .leave) : Exclusive (s.leave i) := by
  rw [QueueState.leave]
  by_cases more : s.checkAgain = true
  · rw [if_pos more]
    have taken : Exclusive { s with checkAgain := false } := ⟨excl.one, excl.blocked, fun again => by cases again⟩
    exact taken.goto rfl (by rw [here]; exact Iff.rfl) rfl rfl
  · rw [if_neg more]
    have inside : (s.pc i).Inside := by
      rw [here]
      trivial
    have none_ (j : Nat) : ¬ (update s.pc i .outside j).Inside := by
      by_cases same : j = i
      · rw [same, update_self]
        exact id
      · rw [update_of_ne same]
        exact fun there => same (excl.one j i there inside)
    refine ⟨fun j j' first _ => absurd first (none_ j), ?_, fun again => absurd again more⟩
    refine iff_of_false (by simp [QueueState.goto]) ?_
    rintro ⟨j, there⟩
    exact none_ j there

theorem idle (excl : Exclusive s) (quiet : ∀ j, s.pc j = .outside) : s.checkBlocked = false ∧ s.checkAgain = false := by
  have free : s.checkBlocked = false := by
    rw [← Bool.not_eq_true, excl.blocked]
    rintro ⟨j, inside⟩
    rw [quiet j] at inside
    exact inside
  refine ⟨free, ?_⟩
  rw [← Bool.not_eq_true]
  intro more
  rw [excl.again more] at free
  cases free

end Exclusive

namespace QueueState

variable {s s' : QueueState} {i : Nat} {pc : CheckPc} {kind : QueueKind} {cell : SeqCell}

theorem Others.goto (others : s.Others) (moved : s'.pc = update s.pc i pc) (again : s'.checkAgain = s.checkAgain)
    (notEnter : s.pc i ≠ .enter) : s'.Others := by
  rcases others with more | ⟨j, waiting⟩
  · exact Or.inl (again.trans more)
  · refine Or.inr ⟨j, ?_⟩
    have other : j ≠ i := by
      rintro rfl
      exact notEnter waiting
    rw [moved, update_of_ne other, waiting]

theorem others_of_enter (moved : s'.pc = update s.pc i .enter) : s'.Others :=
  Or.inr ⟨i, by rw [moved, update_self]⟩

theorem Covered.inside (covered : s.Covered kind cell) (excl : Exclusive s) (inside : (s.pc i).Inside) :
    s.Others ∨ (s.pc i).Sees s.m kind cell := by
  rcases covered with others | ⟨j, sees⟩
  · exact Or.inl others
  · rw [excl.one i j inside sees.inside]
    exact Or.inr sees

theorem Covered.loop (covered : s.Covered kind cell) (excl : Exclusive s) (inside : (s.pc i).Inside)
    (moved : s'.pc = update s.pc i pc) (again : s'.checkAgain = s.checkAgain)
    (sees : (s.pc i).Sees s.m kind cell → pc.Sees s'.m kind cell) : s'.Covered kind cell := by
  have notEnter : s.pc i ≠ .enter := by
    intro waiting
    rw [waiting] at inside
    exact inside
  rcases covered.inside excl inside with others | seen
  · exact Or.inl (others.goto moved again notEnter)
  · refine Or.inr ⟨i, ?_⟩
    rw [moved, update_self]
    exact sees seen

theorem Covered.frame (covered : s.Covered kind cell) (moved : s'.pc = update s.pc i pc)
    (again : s'.checkAgain = s.checkAgain) (notEnter : s.pc i ≠ .enter) (out : ¬ (s.pc i).Inside)
    (events : ∀ j first, s.pc j = .compare kind first → s'.m.event first = s.m.event first)
    (event : s'.m.event cell = s.m.event cell) : s'.Covered kind cell := by
  rcases covered with others | ⟨j, sees⟩
  · exact Or.inl (others.goto moved again notEnter)
  · have other : j ≠ i := by
      rintro rfl
      exact out sees.inside
    refine Or.inr ⟨j, ?_⟩
    rw [moved, update_of_ne other]
    cases there : s.pc j with
    | compare at_ first =>
      rw [there] at sees
      rcases sees with ⟨same, later⟩ | tick
      · subst same
        refine Or.inl ⟨rfl, ?_⟩
        rwa [cellKey, cellKey, events j first there, event]
      · exact Or.inr tick
    | peek at_ | takeOut at_ | dispatch at_ =>
      rw [there] at sees
      exact sees
    | outside | ready c | enter | leave =>
      rw [there] at sees
      exact absurd sees id

end QueueState

def allQueued (lists : QueueKind → List SeqCell) : List SeqCell := lists .tick ++ lists .time

theorem allQueued_cons {lists lists' : QueueKind → List SeqCell} (kind : QueueKind) {cell : SeqCell}
    (here : (lists kind).Perm (cell :: lists' kind)) (elsewhere : ∀ k, k ≠ kind → lists k = lists' k) :
    (allQueued lists).Perm (cell :: allQueued lists') := by
  cases kind with
  | tick =>
    rw [allQueued, allQueued, elsewhere .time (by simp)]
    exact here.append_right _
  | time =>
    rw [allQueued, allQueued, elsewhere .tick (by simp)]
    exact (here.append_left _).trans List.perm_middle

structure QueueLists (s : QueueState) (lists : QueueKind → List SeqCell) : Prop where
  rep : ∀ k, PrioqRep s.m (s.prioq k) (lists k)
  kind : ∀ k, ∀ c ∈ lists k, queueKind (s.m.event c) = k
  sorted : ∀ k, (lists k).Pairwise fun c d => cellKey s.m c ≤ cellKey s.m d
  numbers : (s.dispatched ++ (allQueued lists).map s.stamp).Perm (List.range s.count)

namespace QueueLists

variable {s : QueueState} {lists : QueueKind → List SeqCell} {cell : SeqCell} {kind : QueueKind}

theorem queued (queues : QueueLists s lists) (inside : cell ∈ lists kind) : s.Queued cell :=
  ⟨kind, lists kind, (queues.rep kind).chain, inside⟩

theorem not_mem (queues : QueueLists s lists) (away : ¬ s.Queued cell) (k : QueueKind) : cell ∉ lists k :=
  fun inside => away (queues.queued inside)

theorem goto (queues : QueueLists s lists) (i : Nat) (pc : CheckPc) : QueueLists (s.goto i pc) lists :=
  ⟨queues.rep, queues.kind, queues.sorted, queues.numbers⟩

theorem frame (queues : QueueLists s lists) {m' : SeqMemory}
    (same : ∀ k, ∀ c ∈ lists k, m'.next c = s.m.next c ∧ m'.event c = s.m.event c) : QueueLists { s with m := m' } lists := by
  refine ⟨fun k => ⟨?_, (queues.rep k).tail, (queues.rep k).count⟩, fun k c inside => ?_, fun k => ?_, queues.numbers⟩
  · exact (queues.rep k).chain.frame fun c inside => (same k c inside).1
  · show queueKind (m'.event c) = k
    rw [(same k c inside).2]
    exact queues.kind k c inside
  · apply (queues.sorted k).imp_of_mem
    intro c d first second
    show cellKey s.m c ≤ cellKey s.m d → cellKey m' c ≤ cellKey m' d
    rw [cellKey, cellKey, cellKey, cellKey, (same k c first).2, (same k d second).2]
    exact id

theorem update_rep (queues : QueueLists s lists) {f : SndSeqPrioq} {m' : SeqMemory} {l changed : List SeqCell}
    (rep : PrioqRep m' f l) (relinked : Relinked s.m m' changed)
    (apart : ∀ k, k ≠ kind → ∀ c ∈ lists k, c ∉ changed) (k : QueueKind) :
    PrioqRep m' (update s.prioq kind f k) (update lists kind l k) := by
  by_cases here : k = kind
  · subst here
    rw [update_self, update_self]
    exact rep
  · rw [update_of_ne here, update_of_ne here]
    refine ⟨?_, (queues.rep k).tail, (queues.rep k).count⟩
    exact (queues.rep k).chain.frame fun c inside => relinked.frame c (apart k here c inside)

theorem apart (queues : QueueLists s lists) {k : QueueKind} (other : k ≠ kind) (inside : cell ∈ lists k) :
    cell ∉ lists kind := fun there =>
  other ((queues.kind k cell inside).symm.trans (queues.kind kind cell there))

theorem cellIn (queues : QueueLists s lists) (fresh : ∀ k, cell ∉ lists k)
    (home : queueKind (s.m.event cell) = kind) :
    (∃ f m', sndSeqPrioqCellIn (s.prioq kind) s.m cell = (0, f, m') ∧ m'.event = s.m.event ∧
      QueueLists ((s.setQueue kind f m').numbered cell) (update lists kind (insertCell s.m cell (lists kind)))) ∨
    sndSeqPrioqCellIn (s.prioq kind) s.m cell = (-EINVAL, s.prioq kind, s.m) := by
  have kinds : ∀ c ∈ lists kind, (s.m.event cell).isTick = (s.m.event c).isTick := fun c inside =>
    isTick_of_queueKind (home.trans (queues.kind kind c inside).symm)
  rcases sndSeqPrioqCellIn_cases (queues.rep kind) (fresh kind) kinds (queues.sorted kind) with
    ⟨f, m', call, rep, relinked⟩ | ⟨call, -⟩
  · left
    have event := relinked.event
    have perm : (insertCell s.m cell (lists kind)).Perm (cell :: lists kind) := StableQueue.insert_perm cell _
    refine ⟨f, m', call, event, ?_, ?_, ?_, ?_⟩
    · apply queues.update_rep rep relinked
      intro k other c inside
      rw [List.mem_cons]
      rintro (same | there)
      · exact fresh k (same ▸ inside)
      · exact queues.apart other inside there
    · intro k c inside
      show queueKind (m'.event c) = k
      rw [event]
      by_cases here : k = kind
      · subst here
        rw [update_self] at inside
        rcases List.mem_cons.mp (perm.mem_iff.mp inside) with same | old
        · rw [same]
          exact home
        · exact queues.kind k c old
      · rw [update_of_ne here] at inside
        exact queues.kind k c inside
    · intro k
      have keys : cellKey m' = cellKey s.m := by
        funext c
        rw [cellKey, cellKey, event]
      show (update lists kind _ k).Pairwise fun c d => cellKey m' c ≤ cellKey m' d
      rw [keys]
      by_cases here : k = kind
      · subst here
        rw [update_self]
        exact insertCell_sorted (queues.sorted k)
      · rw [update_of_ne here]
        exact queues.sorted k
    · have more : (allQueued (update lists kind (insertCell s.m cell (lists kind)))).Perm (cell :: allQueued lists) := by
        apply allQueued_cons kind
        · rw [update_self]
          exact perm
        · exact fun k other => update_of_ne other ..
      have older : ∀ c ∈ allQueued lists, update s.stamp cell s.count c = s.stamp c := by
        intro c inside
        apply update_of_ne
        rintro rfl
        exact (List.mem_append.mp inside).elim (fresh .tick) (fresh .time)
      have numbers := more.map (update s.stamp cell s.count)
      rw [List.map_cons, update_self, List.map_congr_left older] at numbers
      show (s.dispatched ++ _).Perm (List.range (s.count + 1))
      rw [List.range_succ]
      calc s.dispatched ++ (allQueued (update lists kind (insertCell s.m cell (lists kind)))).map (update s.stamp cell s.count)
        _ |>.Perm (s.dispatched ++ s.count :: (allQueued lists).map s.stamp) := numbers.append_left _
        _ |>.Perm (s.count :: (s.dispatched ++ (allQueued lists).map s.stamp)) := List.perm_middle
        _ |>.Perm (s.count :: List.range s.count) := queues.numbers.cons _
        _ |>.Perm (List.range s.count ++ [s.count]) := (List.perm_append_singleton _ _).symm
  · exact Or.inr call

theorem takeOut_none (queues : QueueLists s lists) (empty : lists kind = []) :
    sndSeqPrioqCellOut (s.prioq kind) s.m = (none, s.prioq kind, s.m) := by
  have chain := (queues.rep kind).chain
  rw [empty] at chain
  rw [sndSeqPrioqCellOut, show (s.prioq kind).head = none from chain]

theorem takeOut_some (queues : QueueLists s lists) {rest : List SeqCell} (first : lists kind = cell :: rest) :
    ∃ f m', sndSeqPrioqCellOut (s.prioq kind) s.m = (some cell, f, m') ∧ m'.event = s.m.event ∧
      QueueLists { s.setQueue kind f m' with dispatched := s.dispatched ++ [s.stamp cell] } (update lists kind rest) := by
  obtain ⟨f, m', call, rep, relinked⟩ := sndSeqPrioqCellOut_eq (queues.rep kind)
  rw [first] at call rep
  have event := relinked.event
  have sub (k : QueueKind) : List.Sublist (update lists kind rest k) (lists k) := by
    by_cases here : k = kind
    · subst here
      rw [update_self, first]
      exact List.sublist_cons_self ..
    · rw [update_of_ne here]
  refine ⟨f, m', call, event, queues.update_rep rep relinked fun k other c inside => queues.apart other inside, ?_, ?_, ?_⟩
  · intro k c inside
    show queueKind (m'.event c) = k
    rw [event]
    exact queues.kind k c ((sub k).subset inside)
  · intro k
    have keys : cellKey m' = cellKey s.m := by
      funext c
      rw [cellKey, cellKey, event]
    show (update lists kind rest k).Pairwise fun c d => cellKey m' c ≤ cellKey m' d
    rw [keys]
    exact (queues.sorted k).sublist (sub k)
  · have fewer : (allQueued lists).Perm (cell :: allQueued (update lists kind rest)) := by
      apply allQueued_cons kind
      · rw [update_self, first]
      · exact fun k other => (update_of_ne other ..).symm
    have numbers := fewer.map s.stamp
    rw [List.map_cons] at numbers
    show (s.dispatched ++ [s.stamp cell] ++ _).Perm _
    rw [List.append_assoc]
    exact (numbers.symm.append_left _).trans queues.numbers

end QueueLists

structure CheckInv (s : QueueState) (lists : QueueKind → List SeqCell) : Prop where
  queues : QueueLists s lists
  excl : Exclusive s
  ready : ∀ i cell, s.pc i = .ready cell → ∀ k, cell ∉ lists k
  distinct : ∀ i j cell, s.pc i = .ready cell → s.pc j = .ready cell → i = j
  seen : ∀ i k cell, s.pc i = .compare k cell → cell ∈ lists k
  covered : ∀ k, ∀ c ∈ lists k, timeKey (s.m.event c) ≤ s.timer.now k → s.Covered k c

theorem of_moved {pc : Nat → CheckPc} {i j : Nat} {next there : CheckPc} (at_ : update pc i next j = there)
    (other : next ≠ there) : j ≠ i ∧ pc j = there := by
  by_cases same : j = i
  · rw [same, update_self] at at_
    exact absurd at_ other
  · exact ⟨same, by rwa [update_of_ne same] at at_⟩

namespace CheckInv

variable {s s' : QueueState} {lists lists' : QueueKind → List SeqCell} {i : Nat} {pc : CheckPc} {cell : SeqCell}

variable (s' lists') in
theorem ready_moved (inv : CheckInv s lists) (moved : s'.pc = update s.pc i pc) (notReady : ∀ c, pc ≠ .ready c)
    (sub : ∀ j c, j ≠ i → s.pc j = .ready c → ∀ k, c ∈ lists' k → c ∈ lists k) :
    (∀ j c, s'.pc j = .ready c → ∀ k, c ∉ lists' k) ∧
      ∀ j j' c, s'.pc j = .ready c → s'.pc j' = .ready c → j = j' := by
  rw [moved]
  constructor
  · intro j c there k inside
    obtain ⟨other, before⟩ := of_moved there (notReady c)
    exact inv.ready j c before k (sub j c other before k inside)
  · intro j j' c first second
    exact inv.distinct j j' c (of_moved first (notReady c)).2 (of_moved second (notReady c)).2

variable (pc) in
theorem loop (inv : CheckInv s lists) (inside : (s.pc i).Inside) (inside' : pc.Inside) (queues : QueueLists s' lists')
    (moved : s'.pc = update s.pc i pc) (blocked : s'.checkBlocked = s.checkBlocked)
    (again : s'.checkAgain = s.checkAgain) (timer : s'.timer = s.timer) (event : s'.m.event = s.m.event)
    (sub : ∀ k, lists' k ⊆ lists k) (seen : ∀ k c, pc = .compare k c → c ∈ lists' k)
    (sees : ∀ k, ∀ c ∈ lists' k, timeKey (s.m.event c) ≤ s.timer.now k → (s.pc i).Sees s.m k c → pc.Sees s'.m k c) :
    CheckInv s' lists' := by
  have notReady (c : SeqCell) : pc ≠ .ready c := by
    rintro rfl
    exact inside'
  obtain ⟨ready, distinct⟩ := inv.ready_moved s' lists' moved notReady fun j c _ _ k there => sub k there
  refine ⟨queues, inv.excl.goto moved (iff_of_true inside' inside) blocked again, ready, distinct, ?_, ?_⟩
  · intro j k c there
    rw [moved] at there
    by_cases same : j = i
    · rw [same, update_self] at there
      exact seen k c there
    · rw [update_of_ne same] at there
      have also : (s.pc j).Inside := by
        rw [there]
        trivial
      exact absurd (inv.excl.one j i also inside) same
  · intro k c there due_
    rw [event, timer] at due_
    exact (inv.covered k c (sub k there) due_).loop inv.excl inside moved again (sees k c there due_)

theorem peek (inv : CheckInv s lists) {kind : QueueKind} (here : s.pc i = .peek kind) : CheckInv (s.peek i kind) lists := by
  have chain := (inv.queues.rep kind).chain
  have inside : (s.pc i).Inside := by
    rw [here]
    trivial
  rw [QueueState.peek]
  cases list : lists kind with
  | nil =>
    rw [list] at chain
    rw [show (s.prioq kind).head = none from chain]
    apply inv.loop _ inside (CheckPc.behind_inside kind) (inv.queues.goto i _) rfl rfl rfl rfl rfl (fun _ _ => id)
    · intro k c impossible
      cases kind <;> cases impossible
    · intro k c there _ sees
      rw [here] at sees
      -- nothing of this queue is left to look at
      cases kind <;> cases k
      · rw [list] at there
        exact absurd there List.not_mem_nil
      · exact Or.inr rfl
      · exact (sees.elim (fun h => by cases h) fun h => by cases h)
      · rw [list] at there
        exact absurd there List.not_mem_nil
  | cons first rest =>
    rw [list] at chain
    rw [chain.1]
    apply inv.loop (.compare kind first) inside trivial (inv.queues.goto i _) rfl rfl rfl rfl rfl (fun _ _ => id)
    · intro k c same
      cases same
      rw [list]
      exact List.mem_cons_self ..
    · intro k c there _ sees
      rw [here] at sees
      by_cases own : kind = k
      · subst own
        refine Or.inl ⟨rfl, ?_⟩
        rw [list] at there
        rcases List.mem_cons.mp there with same | later
        · rw [same]
        · have sorted := inv.queues.sorted kind
          rw [list] at sorted
          exact (List.pairwise_cons.mp sorted).1 c later
      · cases kind <;> cases k
        · exact absurd rfl own
        · exact Or.inr ⟨rfl, rfl⟩
        · exact (sees.elim (fun h => by cases h) fun h => by cases h)
        · exact absurd rfl own

theorem compare (inv : CheckInv s lists) {kind : QueueKind} (here : s.pc i = .compare kind cell) :
    CheckInv (s.compare i kind cell) lists := by
  have inside : (s.pc i).Inside := by
    rw [here]
    trivial
  have home := inv.queues.kind kind cell (inv.seen i kind cell here)
  rw [QueueState.compare]
  by_cases now : due s.timer kind (s.m.event cell) = true
  · rw [if_pos now]
    apply inv.loop (.takeOut kind) inside trivial (inv.queues.goto i _) rfl rfl rfl rfl rfl (fun _ _ => id)
    · intro k c impossible
      cases impossible
    · intro k c _ _ sees
      rw [here] at sees
      rcases sees with ⟨same, -⟩ | ⟨first, second⟩
      · subst same
        cases kind
        · exact Or.inl rfl
        · exact Or.inr rfl
      · exact Or.inl first
  · rw [if_neg now]
    apply inv.loop _ inside (CheckPc.behind_inside kind) (inv.queues.goto i _) rfl rfl rfl rfl rfl (fun _ _ => id)
    · intro k c impossible
      cases kind <;> cases impossible
    · intro k c _ due_ sees
      rw [here] at sees
      rcases sees with ⟨same, later⟩ | ⟨first, second⟩
      · -- a later event whose time has come makes the first one due
        subst same
        exact absurd ((due_iff s.timer home).mpr (le_trans later due_)) now
      · rw [first]
        exact Or.inr second

theorem takeOut (inv : CheckInv s lists) {kind : QueueKind} (here : s.pc i = .takeOut kind) :
    ∃ lists', CheckInv (s.takeOut i kind) lists' := by
  have inside : (s.pc i).Inside := by
    rw [here]
    trivial
  rw [QueueState.takeOut]
  cases list : lists kind with
  | nil =>
    rw [inv.queues.takeOut_none list]
    have same : s.setQueue kind (s.prioq kind) s.m = s := by
      rw [QueueState.setQueue, update_eq_self]
    dsimp only
    rw [same]
    refine ⟨lists, inv.loop (.peek kind) inside trivial (inv.queues.goto i _) rfl rfl rfl rfl rfl (fun _ _ => id) ?_ ?_⟩
    · intro k c impossible
      cases impossible
    · intro k c _ _ sees
      rwa [here] at sees
  | cons first rest =>
    obtain ⟨f, m', call, event, queues⟩ := inv.queues.takeOut_some list
    rw [call]
    refine ⟨_, inv.loop (.dispatch kind) inside trivial (queues.goto i _) rfl rfl rfl rfl event ?_ ?_ ?_⟩
    · intro k c there
      by_cases same : k = kind
      · subst same
        rw [update_self] at there
        rw [list]
        exact List.mem_cons_of_mem _ there
      · rwa [update_of_ne same] at there
    · intro k c impossible
      cases impossible
    · intro k c _ _ sees
      rwa [here] at sees

theorem dispatch (inv : CheckInv s lists) {kind : QueueKind} (here : s.pc i = .dispatch kind) :
    CheckInv (s.goto i (.peek kind)) lists := by
  have inside : (s.pc i).Inside := by
    rw [here]
    trivial
  apply inv.loop (.peek kind) inside trivial (inv.queues.goto i _) rfl rfl rfl rfl rfl (fun _ _ => id)
  · intro k c impossible
    cases impossible
  · intro k c _ _ sees
    rwa [here] at sees

theorem leave (inv : CheckInv s lists) (here : s.pc i = .leave) : CheckInv (s.leave i) lists := by
  have inside : (s.pc i).Inside := by
    rw [here]
    trivial
  have excl := inv.excl.leave here
  rw [QueueState.leave] at excl ⊢
  by_cases more : s.checkAgain = true
  · rw [if_pos more] at excl ⊢
    obtain ⟨ready, distinct⟩ := inv.ready_moved (({ s with checkAgain := false } : QueueState).goto i (.peek .tick)) lists
        rfl (fun c => by simp) fun _ _ _ _ _ => id
    refine ⟨⟨inv.queues.rep, inv.queues.kind, inv.queues.sorted, inv.queues.numbers⟩, excl, ready, distinct, ?_, ?_⟩
    · intro j k c there
      exact inv.seen j k c (of_moved there (by simp)).2
    · intro k c _ _
      refine Or.inr ⟨i, ?_⟩
      show (update s.pc i (.peek .tick) i).Sees s.m k c
      rw [update_self]
      exact Or.inl rfl
  · rw [if_neg more] at excl ⊢
    obtain ⟨ready, distinct⟩ := inv.ready_moved (({ s with checkBlocked := false } : QueueState).goto i .outside) lists
        rfl (fun c => by simp) fun _ _ _ _ _ => id
    refine ⟨⟨inv.queues.rep, inv.queues.kind, inv.queues.sorted, inv.queues.numbers⟩, excl, ready, distinct, ?_, ?_⟩
    · intro j k c there
      exact inv.seen j k c (of_moved there (by simp)).2
    · intro k c there due_
      rcases (inv.covered k c there due_).inside inv.excl inside with others | sees
      · exact Or.inl (others.goto (rfl : _ = update s.pc i .outside) rfl (by simp [here]))
      · rw [here] at sees
        exact absurd sees id

theorem enter (inv : CheckInv s lists) (here : s.pc i = .enter) : CheckInv (s.enter i) lists := by
  have excl := inv.excl.enter here
  rw [QueueState.enter] at excl ⊢
  by_cases busy : s.checkBlocked = true
  · rw [if_pos busy] at excl ⊢
    obtain ⟨ready, distinct⟩ := inv.ready_moved (({ s with checkAgain := true } : QueueState).goto i .outside) lists
        rfl (fun c => by simp) fun _ _ _ _ _ => id
    refine ⟨⟨inv.queues.rep, inv.queues.kind, inv.queues.sorted, inv.queues.numbers⟩, excl, ready, distinct, ?_, ?_⟩
    · intro j k c there
      exact inv.seen j k c (of_moved there (by simp)).2
    · intro k c _ _
      exact Or.inl (Or.inl rfl)
  · rw [if_neg busy] at excl ⊢
    obtain ⟨ready, distinct⟩ := inv.ready_moved (({ s with checkBlocked := true } : QueueState).goto i (.peek .tick)) lists
        rfl (fun c => by simp) fun _ _ _ _ _ => id
    refine ⟨⟨inv.queues.rep, inv.queues.kind, inv.queues.sorted, inv.queues.numbers⟩, excl, ready, distinct, ?_, ?_⟩
    · intro j k c there
      exact inv.seen j k c (of_moved there (by simp)).2
    · intro k c _ _
      refine Or.inr ⟨i, ?_⟩
      show (update s.pc i (.peek .tick) i).Sees s.m k c
      rw [update_self]
      exact Or.inl rfl

theorem cellIn (inv : CheckInv s lists) (here : s.pc i = .ready cell) : ∃ lists', CheckInv (s.cellIn i cell) lists' := by
  have fresh := inv.ready i cell here
  have out : ¬ (s.pc i).Inside := by
    rw [here]
    exact id
  rw [QueueState.cellIn]
  rcases inv.queues.cellIn fresh rfl with ⟨f, m', call, event, queues⟩ | call
  · rw [call]
    have perm : (insertCell s.m cell (lists (queueKind (s.m.event cell)))).Perm
        (cell :: lists (queueKind (s.m.event cell))) := StableQueue.insert_perm cell _
    have back (j : Nat) (c : SeqCell) (other : j ≠ i) (there : s.pc j = .ready c) (k : QueueKind)
        (inside : c ∈ update lists (queueKind (s.m.event cell))
          (insertCell s.m cell (lists (queueKind (s.m.event cell)))) k) : c ∈ lists k := by
      by_cases same : k = queueKind (s.m.event cell)
      · subst same
        rw [update_self] at inside
        rcases List.mem_cons.mp (perm.mem_iff.mp inside) with equal | old
        · rw [equal] at there
          exact absurd (inv.distinct j i cell there here) other
        · exact old
      · rwa [update_of_ne same] at inside
    obtain ⟨ready, distinct⟩ := inv.ready_moved
      (((s.setQueue (queueKind (s.m.event cell)) f m').numbered cell).goto i .enter) _ rfl (fun c => by simp) back
    refine ⟨_, queues.goto i .enter, inv.excl.goto rfl (iff_of_false id out) rfl rfl, ready, distinct, ?_, ?_⟩
    · intro j k c there
      have before := inv.seen j k c (of_moved there (by simp)).2
      by_cases same : k = queueKind (s.m.event cell)
      · subst same
        rw [update_self]
        exact perm.mem_iff.mpr (List.mem_cons_of_mem _ before)
      · rwa [update_of_ne same]
    · intro k c _ _
      exact Or.inl (QueueState.others_of_enter rfl)
  · rw [call]
    have same : s.setQueue (queueKind (s.m.event cell)) (s.prioq (queueKind (s.m.event cell))) s.m = s := by
      rw [QueueState.setQueue, update_eq_self]
    dsimp only
    rw [same, if_pos (by decide)]
    obtain ⟨ready, distinct⟩ := inv.ready_moved (s.goto i .outside) lists
        rfl (fun c => by simp)
      fun _ _ _ _ _ => id
    refine ⟨lists, inv.queues.goto i _, inv.excl.goto rfl (iff_of_false id out) rfl rfl, ready, distinct, ?_, ?_⟩
    · intro j k c there
      exact inv.seen j k c (of_moved there (by simp)).2
    · intro k c there due_
      exact (inv.covered k c there due_).frame rfl rfl (by simp [here]) out (fun _ _ _ => rfl) rfl

theorem called (inv : CheckInv s lists) (here : s.pc i = .outside) (moved : s'.pc = update s.pc i .enter)
    (m : s'.m = s.m) (prioq : s'.prioq = s.prioq) (blocked : s'.checkBlocked = s.checkBlocked)
    (again : s'.checkAgain = s.checkAgain) (stamp : s'.stamp = s.stamp) (count : s'.count = s.count)
    (dispatched : s'.dispatched = s.dispatched) : CheckInv s' lists := by
  obtain ⟨ready, distinct⟩ := inv.ready_moved s' lists moved (fun c => by simp) fun _ _ _ _ _ => id
  refine ⟨⟨?_, ?_, ?_, ?_⟩, inv.excl.goto moved (by rw [here]; exact Iff.rfl) blocked again, ready, distinct, ?_, ?_⟩
  · rw [m, prioq]
    exact inv.queues.rep
  · rw [m]
    exact inv.queues.kind
  · rw [m]
    exact inv.queues.sorted
  · rw [stamp, count, dispatched]
    exact inv.queues.numbers
  · intro j k c there
    rw [moved] at there
    exact inv.seen j k c (of_moved there (by simp)).2
  · intro k c _ _
    exact Or.inl (QueueState.others_of_enter moved)

theorem enqueue (inv : CheckInv s lists) (here : s.pc i = .outside) (away : ¬ s.Queued cell)
    (mine : ∀ j, s.pc j ≠ .ready cell) (ev : SndSeqEvent) :
    CheckInv (({ s with m := s.m.setEvent cell ev } : QueueState).goto i (.ready cell)) lists := by
  have fresh := inv.queues.not_mem away
  have event (k : QueueKind) (c : SeqCell) (inside : c ∈ lists k) : (s.m.setEvent cell ev).event c = s.m.event c := by
    apply update_of_ne
    rintro rfl
    exact fresh k inside
  have out : ¬ (s.pc i).Inside := by
    rw [here]
    exact id
  have framed : QueueLists { s with m := s.m.setEvent cell ev } lists :=
    inv.queues.frame fun k c inside => ⟨rfl, event k c inside⟩
  refine ⟨framed.goto i _, inv.excl.goto rfl (iff_of_false id out) rfl rfl, ?_, ?_, ?_, ?_⟩
  · intro j c there k
    have there : update s.pc i (.ready cell) j = .ready c := there
    by_cases same : j = i
    · rw [same, update_self] at there
      cases there
      exact fresh k
    · rw [update_of_ne same] at there
      exact inv.ready j c there k
  · intro j j' c first second
    have first : update s.pc i (.ready cell) j = .ready c := first
    have second : update s.pc i (.ready cell) j' = .ready c := second
    by_cases left : j = i <;> by_cases right : j' = i
    · rw [left, right]
    · rw [left, update_self] at first
      rw [update_of_ne right] at second
      cases first
      exact absurd second (mine j')
    · rw [right, update_self] at second
      rw [update_of_ne left] at first
      cases second
      exact absurd first (mine j)
    · rw [update_of_ne left] at first
      rw [update_of_ne right] at second
      exact inv.distinct j j' c first second
  · intro j k c there
    exact inv.seen j k c (of_moved there (by simp)).2
  · intro k c inside due_
    have same := event k c inside
    have before : timeKey (s.m.event c) ≤ s.timer.now k := same ▸ due_
    have events (j : Nat) (first : SeqCell) (there : s.pc j = .compare k first) :
        (s.m.setEvent cell ev).event first = s.m.event first := event k first (inv.seen j k first there)
    exact (inv.covered k c inside before).frame rfl rfl (by simp [here]) out events same

theorem others (inv : CheckInv s lists) {m' : SeqMemory} (calls : s.Calls (.others m')) :
    CheckInv { s with m := m' } lists := by
  have same (k : QueueKind) (c : SeqCell) (inside : c ∈ lists k) := calls c (inv.queues.queued inside)
  refine ⟨inv.queues.frame same, ⟨inv.excl.one, inv.excl.blocked, inv.excl.again⟩, inv.ready, inv.distinct, inv.seen, ?_⟩
  intro k c inside due_
  have event := (same k c inside).2
  have before : timeKey (s.m.event c) ≤ s.timer.now k := event ▸ due_
  rcases inv.covered k c inside before with others | ⟨j, sees⟩
  · exact Or.inl others
  · refine Or.inr ⟨j, ?_⟩
    show (s.pc j).Sees m' k c
    cases there : s.pc j with
    | compare at_ first =>
      rw [there] at sees
      rcases sees with ⟨here, later⟩ | tick
      · subst here
        refine Or.inl ⟨rfl, ?_⟩
        rwa [cellKey, cellKey, event, (same at_ first (inv.seen j at_ first there)).2]
      · exact Or.inr tick
    | peek at_ | takeOut at_ | dispatch at_ =>
      rw [there] at sees
      exact sees
    | outside | ready c | enter | leave =>
      rw [there] at sees
      exact absurd sees id

theorem control (inv : CheckInv s lists) {timer : SndSeqTimer} (tick : timer.curTick = s.timer.curTick)
    (time : timer.curTime = s.timer.curTime) : CheckInv { s with timer := timer } lists := by
  have now : timer.now = s.timer.now := by
    funext k
    cases k <;> simp only [SndSeqTimer.now, tick, time]
  refine ⟨⟨inv.queues.rep, inv.queues.kind, inv.queues.sorted, inv.queues.numbers⟩,
    ⟨inv.excl.one, inv.excl.blocked, inv.excl.again⟩, inv.ready, inv.distinct, inv.seen, ?_⟩
  intro k c inside due_
  exact inv.covered k c inside (by rw [← now]; exact due_)

theorem stepCall (inv : CheckInv s lists) (i : Nat) : ∃ lists', CheckInv (s.stepCall i) lists' := by
  rw [QueueState.stepCall]
  cases here : s.pc i with
  | outside => exact ⟨lists, inv⟩
  | ready cell => exact inv.cellIn here
  | enter => exact ⟨lists, inv.enter here⟩
  | peek kind => exact ⟨lists, inv.peek here⟩
  | compare kind cell => exact ⟨lists, inv.compare here⟩
  | takeOut kind => exact inv.takeOut here
  | dispatch kind => exact ⟨lists, inv.dispatch here⟩
  | leave => exact ⟨lists, inv.leave here⟩

theorem exec (inv : CheckInv s lists) {op : QueueOp} (calls : s.Calls op) : ∃ lists', CheckInv (s.exec op) lists' := by
  cases op with
  | step i => exact inv.stepCall i
  | others m' => exact ⟨lists, inv.others calls⟩
  | control timer => exact ⟨lists, inv.control calls.1 calls.2⟩
  | check i =>
    rw [QueueState.exec]
    by_cases here : s.pc i = .outside
    · rw [if_pos here]
      exact ⟨lists, inv.called here rfl rfl rfl rfl rfl rfl rfl rfl⟩
    · rw [if_neg here]
      exact ⟨lists, inv⟩
  | enqueue i cell =>
    rw [QueueState.exec]
    by_cases here : s.pc i = .outside
    · rw [if_pos here]
      exact ⟨lists, inv.enqueue here calls.1 calls.2 _⟩
    · rw [if_neg here]
      exact ⟨lists, inv⟩
  | interrupt i resolution ticks =>
    rw [QueueState.exec]
    by_cases here : s.pc i = .outside ∧ s.timer.running
    · rw [if_pos here]
      exact ⟨lists, inv.called here.1 rfl rfl rfl rfl rfl rfl rfl rfl⟩
    · rw [if_neg here]
      exact ⟨lists, inv⟩

theorem quiet (inv : CheckInv s lists) (outside : ∀ i, s.pc i = .outside) {kind : QueueKind} (inside : cell ∈ lists kind) :
    due s.timer kind (s.m.event cell) = false := by
  rw [← Bool.not_eq_true, due_iff s.timer (inv.queues.kind kind cell inside)]
  intro now
  rcases inv.covered kind cell inside now with (more | ⟨i, waiting⟩) | ⟨i, sees⟩
  · rw [(inv.excl.idle outside).2] at more
    cases more
  · rw [outside i] at waiting
    cases waiting
  · rw [outside i] at sees
    exact sees

end CheckInv

theorem checkInv_new (m : SeqMemory) (timer : SndSeqTimer) : CheckInv (.new m timer) fun _ => [] where
  queues := ⟨fun _ => ⟨rfl, Or.inl rfl, rfl⟩, fun _ _ inside => absurd inside List.not_mem_nil, fun _ => .nil, .refl _⟩
  excl := ⟨fun _ _ inside => absurd inside id, iff_of_false (by simp [QueueState.new]) (fun inside => inside.elim fun _ inside => inside),
    fun again => absurd again (by simp [QueueState.new])⟩
  ready _ _ there := by cases there
  distinct _ _ _ there := by cases there
  seen _ _ _ there := by cases there
  covered _ _ inside := absurd inside List.not_mem_nil

/-- One call at most is in the loops, each insertion was dispatched once or is in its queue, and what is
    due has been dispatched when no call is going on. -/
def QueueState.NothingLeft (s : QueueState) : Prop :=
  ∃ lists : QueueKind → List SeqCell, (∀ k, Chain s.m.next (s.prioq k).head (lists k)) ∧
    (∀ i j, (s.pc i).Inside → (s.pc j).Inside → i = j) ∧
    (s.dispatched ++ (allQueued lists).map s.stamp).Perm (List.range s.count) ∧
    ((∀ i, s.pc i = .outside) → ∀ k, ∀ c ∈ lists k, due s.timer k (s.m.event c) = false)

theorem CheckInv.nothingLeft {s : QueueState} {lists : QueueKind → List SeqCell} (inv : CheckInv s lists) :
    s.NothingLeft :=
  ⟨lists, fun k => (inv.queues.rep k).chain, inv.excl.one, inv.queues.numbers, fun outside _ _ inside => inv.quiet outside inside⟩

/-- However the calls, the insertions and the interrupts are interleaved. -/
theorem no_due_event_left (m : SeqMemory) (timer : SndSeqTimer) (ops : List QueueOp)
    (calls : Throughout QueueState.exec (fun s op _ => s.Calls op) (.new m timer) ops) :
    Throughout QueueState.exec (fun _ _ s' => s'.NothingLeft) (.new m timer) ops := by
  have run := calls.invariant (fun s => ∃ lists, CheckInv s lists) ⟨_, checkInv_new m timer⟩ ?_
  · apply run.mono
    rintro s op s' ⟨-, -, lists, inv⟩
    exact inv.nothingLeft
  · rintro s op ⟨lists, inv⟩ promised
    exact inv.exec promised

def idleTimer : SndSeqTimer := ⟨true, ⟨0, 0⟩, 0, 1000, 0, 0x10000, 0x10000⟩

/-- An event of tick 1 goes in while an interrupt checks the queue. -/
theorem no_due_event_left_overlap :
    Throughout QueueState.exec (fun _ _ s' => s'.NothingLeft) (.new (emptyMemory.setEvent ⟨0, 0⟩ { blankEvent with time := ⟨1, 0⟩ })
        idleTimer)
      [.interrupt 0 1000 1, .step 0, .enqueue 1 ⟨0, 0⟩, .step 0, .step 1, .step 1, .step 0, .step 0, .step 0, .step 0, .step 0,
        .step 0, .step 0, .step 0, .step 0] := by
  apply no_due_event_left
  refine ⟨trivial, trivial, ⟨?_, ?_⟩, trivial, trivial, trivial, trivial, trivial, trivial, trivial, trivial, trivial, trivial,
    trivial, trivial, trivial⟩
  · rintro ⟨kind, l, chain, inside⟩
    have empty : l = [] := chain.none_iff.mp rfl
    rw [empty] at inside
    exact absurd inside List.not_mem_nil
  · intro j
    show update (update (fun _ => CheckPc.outside) 0 .enter) 0 (.peek .tick) j ≠ .ready ⟨0, 0⟩
    by_cases same : j = 0
    · simp [same]
    · simp [same]

end AlsaDriver.Seq
