import AlsaDriver.Seq.Prioq

namespace AlsaDriver.Seq

open Chains Function

def timeKey (ev : SndSeqEvent) : ℕ ×ₗ ℕ :=
  if ev.isTick then toLex (ev.time.tick, 0) else toLex (ev.time.tvSec, ev.time.tvNsec)

theorem compareTimestamp_iff {a b : SndSeqEvent} (kind : a.isTick = b.isTick) :
    compareTimestamp a b = true ↔ timeKey b ≤ timeKey a := by
  cases tick : b.isTick <;> rw [tick] at kind <;>
    simp only [compareTimestamp, timeKey, kind, tick, if_true, Bool.false_eq_true, if_false, sndSeqCompareTickTime,
      sndSeqCompareRealTime, Prod.Lex.toLex_le_toLex]
  · split
    · rename_i later
      simp [later]
    · rename_i later
      simp only [Bool.and_eq_true, decide_eq_true_eq]
      omega
  · simp only [decide_eq_true_eq]
    omega

theorem compareTimestampRel_iff {a b : SndSeqEvent} (kind : a.isTick = b.isTick) :
    (compareTimestampRel a b < 0 ↔ timeKey a < timeKey b) ∧ (compareTimestampRel a b = 0 ↔ timeKey a = timeKey b) := by
  cases tick : b.isTick <;> rw [tick] at kind <;>
    simp only [compareTimestampRel, timeKey, kind, tick, if_true, Bool.false_eq_true, if_false,
      Prod.Lex.toLex_lt_toLex, toLex_inj, Prod.mk.injEq]
  · constructor <;> grind
  · constructor <;> grind

section Insert

variable {m : SeqMemory} {f : SndSeqPrioq} {cell : SeqCell} {l : List SeqCell}

structure PrioqRep (m : SeqMemory) (f : SndSeqPrioq) (l : List SeqCell) : Prop where
  chain : Chain m.next f.head l
  tail : f.tail = none ∨ f.tail = l.getLast?
  count : f.cells = l.length

def cellKey (m : SeqMemory) (cell : SeqCell) : ℕ ×ₗ ℕ := timeKey (m.event cell)

def cellPrior (m : SeqMemory) (cell : SeqCell) : Bool := (m.event cell).isPrior

def insertCell (m : SeqMemory) (cell : SeqCell) (l : List SeqCell) : List SeqCell :=
  StableQueue.insert (cellKey m) (cellPrior m) cell l

def Stops (m : SeqMemory) (cell c : SeqCell) : Prop := StableQueue.Stops (cellKey m) (cellPrior m) cell c

theorem findPlace_stops {cur : SeqCell} (count : Nat) (prev : Option SeqCell)
    (kind : (m.event cell).isTick = (m.event cur).isTick) (stops : Stops m cell cur) :
    findPlace m cell (count + 1) prev (some cur) = some (prev, some cur) := by
  obtain ⟨earlier, equal⟩ := compareTimestampRel_iff kind
  rw [findPlace]
  rcases stops with less | ⟨same, prior⟩
  · exact if_pos (earlier.mpr less)
  · have notLess : ¬ compareTimestampRel (m.event cell) (m.event cur) < 0 := by
      have zero := equal.mpr same
      omega
    rw [if_neg notLess, if_pos ⟨equal.mpr same, prior⟩]

theorem findPlace_passes {cur : SeqCell} {count : Nat} (prev : Option SeqCell)
    (kind : (m.event cell).isTick = (m.event cur).isTick) (passes : ¬ Stops m cell cur) (more : count ≠ 0) :
    findPlace m cell (count + 1) prev (some cur) = findPlace m cell count (some cur) (m.next cur) := by
  obtain ⟨earlier, equal⟩ := compareTimestampRel_iff kind
  rw [findPlace]
  rw [if_neg fun less => passes (Or.inl (earlier.mp less)),
    if_neg fun stop => passes (Or.inr ⟨equal.mp stop.1, stop.2⟩), if_neg more]

theorem findPlace_eq {before after : List SeqCell} {count : Nat} {prev cur : Option SeqCell}
    (chain : Chain m.next cur (before ++ after)) (few : (before ++ after).length < count)
    (kind : ∀ c ∈ before ++ after, (m.event cell).isTick = (m.event c).isTick)
    (passed : ∀ c ∈ before, ¬ Stops m cell c) (stopped : ∀ c, after.head? = some c → Stops m cell c) :
    findPlace m cell count prev cur = some (before.getLast?.or prev, after.head?) := by
  induction before generalizing count prev cur with
  | nil =>
    cases after with
    | nil =>
      have done : cur = none := chain
      subst done
      cases count <;> rfl
    | cons c rest =>
      obtain ⟨here, -⟩ := chain
      subst here
      cases count with
      | zero => exact absurd few (Nat.not_lt_zero _)
      | succ count => exact findPlace_stops count prev (kind c (by simp)) (stopped c rfl)
  | cons c rest ih =>
    obtain ⟨here, later⟩ := chain
    subst here
    cases count with
    | zero => exact absurd few (Nat.not_lt_zero _)
    | succ count =>
      have fewer : (rest ++ after).length < count := Nat.lt_of_succ_lt_succ few
      rw [findPlace_passes prev (kind c (by simp)) (passed c (by simp)) (by omega),
        ih later fewer (fun d inside => kind d (List.mem_cons_of_mem _ inside))
          (fun d inside => passed d (List.mem_cons_of_mem _ inside))]
      cases last : rest.getLast? with
      | none =>
        rw [List.getLast?_eq_none_iff] at last
        subst last
        rfl
      | some d => simp [List.getLast?_cons, last]

structure Relinked (m m' : SeqMemory) (changed : List SeqCell) : Prop where
  same : m' = { m with next := m'.next }
  frame : ∀ d, d ∉ changed → m'.next d = m.next d

theorem Relinked.event {m' : SeqMemory} {changed : List SeqCell} (relinked : Relinked m m' changed) :
    m'.event = m.event := by
  rw [relinked.same]

theorem relinked_setNext {changed : List SeqCell} (link : Option SeqCell) (inside : cell ∈ changed) :
    Relinked m (m.setNext cell link) changed := by
  refine ⟨rfl, fun d outside => update_of_ne ?_ _ _⟩
  rintro rfl
  exact outside inside

theorem Relinked.trans {m' m'' : SeqMemory} {changed : List SeqCell} (first : Relinked m m' changed)
    (second : Relinked m' m'' changed) : Relinked m m'' changed := by
  refine ⟨?_, fun d outside => (second.frame d outside).trans (first.frame d outside)⟩
  rw [second.same, first.same]

theorem atTail_of_sorted (rep : PrioqRep m f l) (kind : ∀ c ∈ l, (m.event cell).isTick = (m.event c).isTick)
    (sorted : l.Pairwise fun c d => cellKey m c ≤ cellKey m d) {tail : SeqCell} (fast : atTail f m cell = some tail) :
    ∃ before, l = before ++ [tail] ∧ insertCell m cell l = l ++ [cell] := by
  rw [atTail] at fast
  split at fast
  · cases fast
  · rename_i plain
    obtain ⟨last, late⟩ := Option.filter_eq_some_iff.mp fast
    rcases rep.tail with none_ | end_
    · rw [none_] at last
      cases last
    · rw [end_] at last
      obtain ⟨before, split⟩ := List.getLast?_eq_some_iff.mp last
      refine ⟨before, split, StableQueue.insert_last (by simpa [cellPrior] using plain) fun c inside => ?_⟩
      have latest : cellKey m tail ≤ cellKey m cell := (compareTimestamp_iff (kind tail (by simp [split]))).mp late
      rw [split] at inside sorted
      rcases List.mem_append.mp inside with earlier | same
      · exact le_trans ((List.pairwise_append.mp sorted).2.2 c earlier tail (by simp)) latest
      · rw [List.mem_singleton.mp same]
        exact latest

theorem linked_chain {head : Option SeqCell} {before after : List SeqCell} (chain : Chain m.next head (before ++ after))
    (fresh : cell ∉ before ++ after) :
    Chain ((linkAfter m before.getLast? cell).setNext cell after.head?).next
      (if head = after.head? then some cell else head) (before ++ cell :: after) := by
  rcases List.eq_nil_or_concat before with empty | ⟨first, prev, split⟩
  · subst empty
    have same : head = after.head? := chain.head_eq
    rw [if_pos same, ← same]
    exact chain.push fresh
  · rw [List.concat_eq_append] at split
    subst split
    rw [List.append_assoc] at chain fresh
    have other : prev ≠ cell := by
      rintro rfl
      exact fresh (by simp)
    have start : head ≠ after.head? := by
      intro same
      have nodup := chain.nodup
      cases after with
      | nil =>
        rw [chain.head_eq] at same
        simp at same
      | cons c rest =>
        have first' := chain.head_eq
        rw [same] at first'
        cases first with
        | nil =>
          cases first'
          simp at nodup
        | cons d others =>
          cases first'
          simp at nodup
    have cur : m.next prev = after.head? := by
      rcases chain_append.mp chain with ⟨q, -, -, rest⟩
      exact rest.head_eq
    have grown := chain.insert fresh
    rw [if_neg start, List.getLast?_append, List.append_assoc]
    show Chain (update (update m.next prev (some cell)) cell after.head?) head _
    rw [update_comm other, ← cur]
    exact grown

theorem inserted_tail {tail : Option SeqCell} {before after : List SeqCell} (cell : SeqCell)
    (last : tail = none ∨ tail = (before ++ after).getLast?) :
    (if after.head? = none then some cell else tail) = none ∨
      (if after.head? = none then some cell else tail) = (before ++ cell :: after).getLast? := by
  cases after with
  | nil =>
    right
    simp
  | cons c rest =>
    rw [if_neg (by simp)]
    rw [List.getLast?_append, List.getLast?_cons_cons, ← List.getLast?_append]
    exact last

theorem insertCell_sorted (sorted : l.Pairwise fun c d => cellKey m c ≤ cellKey m d) :
    (insertCell m cell l).Pairwise fun c d => cellKey m c ≤ cellKey m d := StableQueue.insert_sorted sorted

theorem findPlace_gives_up (count : Nat) (prev : Option SeqCell) {cur : Option SeqCell} {before after : List SeqCell}
    (chain : Chain m.next cur (before ++ after))
    (kind : ∀ c ∈ before ++ after, (m.event cell).isTick = (m.event c).isTick)
    (passed : ∀ c ∈ before, ¬ Stops m cell c) (stopped : ∀ c, after.head? = some c → Stops m cell c) :
    findPlace m cell count prev cur = some (before.getLast?.or prev, after.head?) ∨ findPlace m cell count prev cur = none := by
  induction before generalizing count prev cur with
  | nil =>
    cases after with
    | nil =>
      have done : cur = none := chain
      subst done
      left
      cases count <;> rfl
    | cons c rest =>
      obtain ⟨here, -⟩ := chain
      subst here
      cases count with
      | zero => exact Or.inr rfl
      | succ count => exact Or.inl (findPlace_stops count prev (kind c (by simp)) (stopped c rfl))
  | cons c rest ih =>
    obtain ⟨here, later⟩ := chain
    subst here
    cases count with
    | zero => exact Or.inr rfl
    | succ count =>
      by_cases last : count = 0
      · right
        obtain ⟨earlier, equal⟩ := compareTimestampRel_iff (kind c (by simp))
        have passes := passed c (by simp)
        rw [findPlace]
        rw [if_neg fun less => passes (Or.inl (earlier.mp less)),
          if_neg fun stop => passes (Or.inr ⟨equal.mp stop.1, stop.2⟩), if_pos last]
      · rw [findPlace_passes prev (kind c (by simp)) (passed c (by simp)) last]
        rcases ih count (some c) later (fun d inside => kind d (List.mem_cons_of_mem _ inside))
          (fun d inside => passed d (List.mem_cons_of_mem _ inside)) with found | nowhere
        · left
          rw [found]
          cases end_ : rest.getLast? with
          | none =>
            rw [List.getLast?_eq_none_iff] at end_
            subst end_
            rfl
          | some d => simp [List.getLast?_cons, end_]
        · exact Or.inr nowhere

theorem sndSeqPrioqCellIn_cases (rep : PrioqRep m f l) (fresh : cell ∉ l)
    (kind : ∀ c ∈ l, (m.event cell).isTick = (m.event c).isTick)
    (sorted : l.Pairwise fun c d => cellKey m c ≤ cellKey m d) :
    (∃ f' m', sndSeqPrioqCellIn f m cell = (0, f', m') ∧ PrioqRep m' f' (insertCell m cell l) ∧
      Relinked m m' (cell :: l)) ∨
    sndSeqPrioqCellIn f m cell = (-EINVAL, f, m) ∧ findPlace m cell PRIOQ_COUNT none f.head = none := by
  have longer : (insertCell m cell l).length = l.length + 1 := (StableQueue.insert_perm cell l).length_eq
  rw [sndSeqPrioqCellIn]
  cases fast : atTail f m cell with
  | some tail =>
    left
    obtain ⟨before, split, inserted⟩ := atTail_of_sorted rep kind sorted fast
    refine ⟨_, _, rfl, ⟨?_, ?_, ?_⟩, ?_⟩
    · have chain := rep.chain
      rw [split] at chain fresh
      have done := chain.last_next
      have grown := chain.insert fresh
      rw [inserted, split, List.append_assoc]
      rw [done] at grown
      have other : cell ≠ tail := by
        rintro rfl
        exact fresh (by simp)
      show Chain (update (update m.next tail (some cell)) cell none) f.head _
      rw [update_comm other.symm]
      exact grown
    · right
      rw [inserted]
      simp
    · rw [longer, rep.count]
      rfl
    · exact (relinked_setNext _ (by simp [split])).trans (relinked_setNext _ (by simp))
  | none =>
    obtain ⟨before, after, split, inserted, passed, stopped⟩ :=
      StableQueue.insert_split (cellKey m) (cellPrior m) cell l
    have chain := rep.chain
    rw [split] at chain kind fresh
    dsimp only
    rcases findPlace_gives_up PRIOQ_COUNT none chain kind passed stopped with found | nowhere
    · left
      rw [found, Option.or_none]
      refine ⟨_, _, rfl, ⟨?_, ?_, ?_⟩, ?_⟩
      · show Chain _ _ (StableQueue.insert (cellKey m) (cellPrior m) cell l)
        rw [inserted]
        exact linked_chain chain fresh
      · show _ ∨ _ = (StableQueue.insert (cellKey m) (cellPrior m) cell l).getLast?
        rw [inserted]
        have tail := rep.tail
        rw [split] at tail
        exact inserted_tail cell tail
      · rw [longer, rep.count]
        rfl
      · rw [split]
        cases last : before.getLast? with
        | none => exact relinked_setNext _ (by simp)
        | some prev =>
          have inside := List.mem_of_getLast? last
          exact (relinked_setNext _ (by simp [inside])).trans (relinked_setNext _ (by simp))
    · right
      rw [nowhere]
      exact ⟨rfl, rfl⟩

theorem sndSeqPrioqCellIn_eq (rep : PrioqRep m f l) (fresh : cell ∉ l) (few : l.length < PRIOQ_COUNT)
    (kind : ∀ c ∈ l, (m.event cell).isTick = (m.event c).isTick)
    (sorted : l.Pairwise fun c d => cellKey m c ≤ cellKey m d) :
    ∃ f' m', sndSeqPrioqCellIn f m cell = (0, f', m') ∧ PrioqRep m' f' (insertCell m cell l) ∧
      Relinked m m' (cell :: l) := by
  rcases sndSeqPrioqCellIn_cases rep fresh kind sorted with inserted | ⟨-, nowhere⟩
  · exact inserted
  · obtain ⟨before, after, split, -, passed, stopped⟩ :=
      StableQueue.insert_split (cellKey m) (cellPrior m) cell l
    have chain := rep.chain
    rw [split] at chain kind few
    rw [findPlace_eq chain few kind passed stopped] at nowhere
    cases nowhere

end Insert

section Out

variable {m : SeqMemory} {f : SndSeqPrioq} {l : List SeqCell}

theorem sndSeqPrioqCellOut_eq (rep : PrioqRep m f l) :
    ∃ f' m', sndSeqPrioqCellOut f m = (l.head?, f', m') ∧ PrioqRep m' f' l.tail ∧ Relinked m m' l := by
  have chain := rep.chain
  cases l with
  | nil =>
    refine ⟨f, m, ?_, rep, rfl, fun _ _ => rfl⟩
    rw [sndSeqPrioqCellOut, show f.head = none from chain]
    rfl
  | cons c rest =>
    have fresh := (List.nodup_cons.mp chain.nodup).1
    refine ⟨_, _, by rw [sndSeqPrioqCellOut, chain.1]; rfl, ⟨?_, ?_, ?_⟩, relinked_setNext _ (by simp)⟩
    · apply chain.2.frame
      intro d inside
      apply update_of_ne
      rintro rfl
      exact fresh inside
    · dsimp only
      split
      · exact Or.inl rfl
      · rename_i other
        rcases rep.tail with none_ | last
        · exact Or.inl none_
        · cases rest with
          | nil => exact absurd last other
          | cons d others => exact Or.inr last
    · have count := rep.count
      rw [List.length_cons] at count
      dsimp only
      rw [count]
      simp

end Out

section Remove

variable {m : SeqMemory} {cell : SeqCell} {l kept removed rest : List SeqCell} {s : Removal}

structure Collecting (m : SeqMemory) (l kept removed rest : List SeqCell) (s : Removal) : Prop where
  located : Located s.m.next (two s.f.head s.freefirst) (two (kept ++ rest) removed)
  prev : s.prev = kept.getLast?
  freeprev : s.freeprev = removed.getLast?
  tail : s.f.tail = none ∨ s.f.tail = (kept ++ rest).getLast?
  count : s.f.cells = (kept ++ rest).length
  relinked : Relinked m s.m l
  inside : ∀ c, c ∈ kept ++ rest ∨ c ∈ removed → c ∈ l

theorem Collecting.skip (now : Collecting m l kept removed (cell :: rest) s) :
    Collecting m l (kept ++ [cell]) removed rest { s with prev := some cell } := by
  have same : kept ++ [cell] ++ rest = kept ++ cell :: rest := by simp
  refine ⟨?_, by simp, now.freeprev, ?_, ?_, now.relinked, ?_⟩
  · rw [same]
    exact now.located
  · rw [same]
    exact now.tail
  · rw [same]
    exact now.count
  · rw [same]
    exact now.inside

theorem Collecting.unlink (now : Collecting m l kept removed (cell :: rest) s) :
    ∃ f' m', (if s.f.head = some cell then some ({ s.f with head := s.m.next cell }, s.m)
        else s.prev.map fun prev => (s.f, s.m.setNext prev (s.m.next cell))) = some (f', m') ∧
      f'.tail = s.f.tail ∧ f'.cells = s.f.cells ∧ m'.next cell = s.m.next cell ∧
      Located (update m'.next cell none) (two f'.head s.freefirst) (two (kept ++ rest) removed) ∧
      Loose (two (kept ++ rest) removed) cell ∧ Relinked m m' l := by
  have chain : Chain s.m.next s.f.head (kept ++ cell :: rest) := now.located.chain true
  rcases List.eq_nil_or_concat kept with empty | ⟨before, prev, split⟩
  · subst empty
    rw [List.nil_append] at chain
    have start : s.f.head = some cell := chain.1
    obtain ⟨located, loose⟩ := now.located.pop (rfl : two ([] ++ cell :: rest) removed true = cell :: rest) none
    rw [update_two_true] at located loose
    rw [update_two_true] at located
    rw [if_pos start]
    exact ⟨_, _, rfl, rfl, rfl, rfl, located, loose, now.relinked⟩
  · rw [List.concat_eq_append] at split
    subst split
    rw [List.append_assoc] at chain
    have there : two (before ++ [prev] ++ cell :: rest) removed true = before ++ prev :: cell :: rest :=
      List.append_assoc before [prev] (cell :: rest)
    have nodup := chain.nodup
    have other : prev ≠ cell := by
      rintro rfl
      rw [List.singleton_append, List.nodup_middle] at nodup
      simp at nodup
    have start : s.f.head ≠ some cell := by
      intro same
      have first : s.f.head = (before ++ ([prev] ++ cell :: rest)).head? := chain.head_eq
      rw [same] at first
      cases before with
      | nil =>
        cases first
        exact other rfl
      | cons c others =>
        cases first
        simp at nodup
    obtain ⟨located, loose⟩ := now.located.remove there none
    rw [update_two_true] at located loose
    have last : s.prev = some prev := by
      rw [now.prev]
      simp
    have among : prev ∈ l := now.inside prev (Or.inl (by simp))
    rw [if_neg start, last]
    refine ⟨_, _, rfl, rfl, rfl, update_of_ne other.symm _ _, ?_, ?_, now.relinked.trans (relinked_setNext _ among)⟩
    · rw [List.append_assoc]
      exact located
    · rw [List.append_assoc]
      exact loose

theorem Collecting.tail_next (now : Collecting m l kept removed (cell :: rest) s) :
    (if s.f.tail = some cell then s.m.next cell else s.f.tail) = none ∨
      (if s.f.tail = some cell then s.m.next cell else s.f.tail) = (kept ++ rest).getLast? := by
  have chain : Chain s.m.next s.f.head (kept ++ cell :: rest) := now.located.chain true
  have nodup := chain.nodup
  rcases now.tail with none_ | last
  · rw [none_, if_neg (by simp)]
    exact Or.inl rfl
  · cases rest with
    | nil =>
      have end_ : s.f.tail = some cell := by simpa using last
      rw [if_pos end_]
      exact Or.inl chain.last_next
    | cons c others =>
      have later : (kept ++ cell :: c :: others).getLast? = (kept ++ c :: others).getLast? := by
        rw [List.getLast?_append, List.getLast?_append, List.getLast?_cons_cons]
      have other : s.f.tail ≠ some cell := by
        intro same
        rw [same, later, List.getLast?_append] at last
        have among : cell ∈ c :: others := by
          have some_ : (c :: others).getLast? = some cell := by
            cases end_ : (c :: others).getLast? with
            | none => simp at end_
            | some d => simpa [end_] using last.symm
          exact List.mem_of_getLast? some_
        exact (List.nodup_cons.mp (List.nodup_append.mp nodup).2.1).1 among
      rw [if_neg other, last, later]
      exact Or.inr rfl

theorem Collecting.take (now : Collecting m l kept removed (cell :: rest) s) :
    ∃ s', s.take cell = some s' ∧ Collecting m l kept (removed ++ [cell]) rest s' := by
  obtain ⟨f', m', unlinked, tail, cells, next, located, loose, relinked⟩ := now.unlink
  have mine : cell ∈ l := now.inside cell (Or.inl (by simp))
  have last := now.tail_next
  have count : f'.cells - 1 = (kept ++ rest).length := by
    rw [cells, now.count]
    simp
    omega
  have inside : ∀ c, c ∈ kept ++ rest ∨ c ∈ removed ++ [cell] → c ∈ l := by
    intro c among
    apply now.inside c
    simp only [List.mem_append, List.mem_cons, List.not_mem_nil, or_false] at among ⊢
    rcases among with (h | h) | h | h <;> simp [h]
  rw [← tail, ← next] at last
  rw [Removal.take]
  dsimp only
  rw [unlinked, Option.bind_some]
  rcases List.eq_nil_or_concat removed with empty | ⟨before, end_, split⟩
  · subst empty
    have first : s.freefirst = none := located.chain false
    rw [if_pos first]
    refine ⟨_, rfl, ?_, now.prev, rfl, last, count, relinked.trans (relinked_setNext _ mine), inside⟩
    have pushed := located.push loose false
    rw [update_two_false, update_two_false] at pushed
    have none_ : two f'.head s.freefirst false = none := first
    rw [none_, update_idem] at pushed
    exact pushed
  · rw [List.concat_eq_append] at split
    subst split
    have first : s.freefirst ≠ none := by
      intro none_
      have chain : Chain _ s.freefirst (before ++ [end_]) := located.chain false
      have nil := chain.none_iff.mp none_
      simp at nil
    have prev : s.freeprev = some end_ := by
      rw [now.freeprev]
      simp
    have among : end_ ∈ l := now.inside end_ (Or.inr (by simp))
    rw [if_neg first, prev]
    refine ⟨_, rfl, ?_, now.prev, by simp, last, count,
      (relinked.trans (relinked_setNext _ mine)).trans (relinked_setNext _ among), inside⟩
    have place : two (kept ++ rest) (before ++ [end_]) false = before ++ [end_] := rfl
    have longer := located.append loose place (update_self ..)
    rw [update_two_false] at longer
    rw [List.append_assoc]
    exact longer

theorem Collecting.loop (match_ : SndSeqEvent → Bool) {fuel : Nat} (enough : rest.length ≤ fuel)
    (now : Collecting m l kept removed rest s) :
    ∃ s', removeLoop match_ fuel rest.head? s = some s' ∧
      Collecting m l (kept ++ rest.filter fun c => !match_ (m.event c)) (removed ++ rest.filter fun c => match_ (m.event c))
        [] s' := by
  induction rest generalizing kept removed s fuel with
  | nil => exact ⟨s, by cases fuel <;> rfl, by simpa using now⟩
  | cons cell rest ih =>
    cases fuel with
    | zero => exact absurd enough (Nat.not_succ_le_zero _)
    | succ fuel =>
      have fewer : rest.length ≤ fuel := Nat.le_of_succ_le_succ enough
      have chain : Chain s.m.next s.f.head (kept ++ cell :: rest) := now.located.chain true
      have next : s.m.next cell = rest.head? := by
        rcases chain_append.mp chain with ⟨q, -, -, later⟩
        exact later.head_eq
      have event : s.m.event cell = m.event cell := by rw [now.relinked.event]
      rw [List.head?_cons, removeLoop, event, next]
      cases hit : match_ (m.event cell) with
      | true =>
        obtain ⟨s', taken, after⟩ := now.take
        obtain ⟨s'', run, done⟩ := ih fewer after
        rw [if_pos rfl, taken, Option.bind_some]
        refine ⟨s'', run, ?_⟩
        simpa [List.filter_cons, hit] using done
      | false =>
        obtain ⟨s'', run, done⟩ := ih fewer now.skip
        rw [if_neg (by simp)]
        refine ⟨s'', run, ?_⟩
        simpa [List.filter_cons, hit] using done

end Remove

end AlsaDriver.Seq
