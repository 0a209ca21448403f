import AlsaDriver.Seq.Places

namespace AlsaDriver.Seq

open Chains Function SeqMemory

section Init

variable {T : Nat → Prop} {m : SeqMemory} {g : Ledger} {id : Nat}

def newCells (id size : Nat) : List SeqCell := ((List.range size).map (SeqCell.mk id)).reverse

theorem newCells_succ (id size : Nat) : newCells id (size + 1) = ⟨id, size⟩ :: newCells id size := by
  simp [newCells, List.range_succ]

theorem mem_newCells {size : Nat} {c : SeqCell} : c ∈ newCells id size ↔ c.pool = id ∧ c.index < size := by
  simp only [newCells, List.mem_reverse, List.mem_map, List.mem_range]
  constructor
  · rintro ⟨i, inside, rfl⟩
    exact ⟨rfl, inside⟩
  · rintro ⟨rfl, inside⟩
    exact ⟨c.index, inside, rfl⟩

structure PoolFilled (m m' : SeqMemory) (id size : Nat) : Prop where
  next : ∀ c, c.pool ≠ id → m'.next c = m.next c
  event : m'.event = m.event
  chunk : m'.chunk = m.chunk
  pool : ∃ free, m'.pool = update m.pool id { m.pool id with free := free } ∧ Chain m'.next free (newCells id size)

variable (m id) in
theorem fill (start : (m.pool id).free = none) (size : Nat) :
    PoolFilled m ((List.range size).foldl (addFreeCell id) m) id size := by
  induction size with
  | zero =>
    refine ⟨fun _ _ => rfl, rfl, rfl, none, ?_, rfl⟩
    rw [← start]
    exact (update_eq_self ..).symm
  | succ size ih =>
    obtain ⟨next, event, chunk, free, pool, chain⟩ := ih
    rw [List.range_succ, List.foldl_append]
    set before := (List.range size).foldl (addFreeCell id) m
    show PoolFilled m (addFreeCell id before size) id (size + 1)
    have record : before.pool id = { m.pool id with free := free } := by
      rw [pool, update_self]
    refine ⟨fun c other => ?_, event, chunk, some ⟨id, size⟩, ?_, ?_⟩
    · have apart : c ≠ ⟨id, size⟩ := by
        rintro rfl
        exact other rfl
      exact (update_of_ne apart ..).trans (next c other)
    · show update before.pool id { before.pool id with free := some ⟨id, size⟩ } = _
      rw [record, pool, update_idem]
    · have fresh : (⟨id, size⟩ : SeqCell) ∉ newCells id size := by
        intro inside
        exact Nat.lt_irrefl _ (mem_newCells.mp inside).2
      have pushed := chain.push fresh
      rw [newCells_succ]
      show Chain (update before.next ⟨id, size⟩ (before.pool id).free) (some ⟨id, size⟩) _
      rw [record]
      exact pushed

variable (id) in
theorem Owned.poolInit (owned : Owned T m g) (new : ¬ T id) (size : Nat) :
    ∃ h, Owned (fun x => T x ∨ x = id) ((m.setPool id (sndSeqPoolNew size)).sndSeqPoolInit id)
      (g.move (.free id) h (newCells id size) g.hand g.spare) := by
  set start := m.setPool id { sndSeqPoolNew size with allocated := true, free := none } with startIs
  have record : (m.setPool id (sndSeqPoolNew size)).pool id = sndSeqPoolNew size := update_self ..
  obtain ⟨next, event, chunk, free, pool, chain⟩ := fill start id (by simp [startIs, setPool]) size
  have filled : (m.setPool id (sndSeqPoolNew size)).sndSeqPoolInit id =
      ((List.range size).foldl (addFreeCell id) start).setPool id
        { ((List.range size).foldl (addFreeCell id) start).pool id with totalElements := size } := by
    have same : (m.setPool id (sndSeqPoolNew size)).setPool id
        { (m.setPool id (sndSeqPoolNew size)).pool id with allocated := true, free := none } = start := by
      rw [record]
      simp only [setPool, startIs, update_idem]
    rw [sndSeqPoolInit, same, record]
    rfl
  rw [filled]
  set after := (List.range size).foldl (addFreeCell id) start
  have others (x : Nat) (other : x ≠ id) : (after.setPool id { after.pool id with totalElements := size }).pool x =
      m.pool x := by
    show update after.pool id _ x = _
    rw [update_of_ne other, pool, update_of_ne other]
    exact update_of_ne other ..
  have own : (after.setPool id { after.pool id with totalElements := size }).pool id =
      ⟨free, true, size, 0, size, false⟩ := by
    show update after.pool id _ id = _
    rw [update_self, pool, update_self]
    simp [startIs, setPool, sndSeqPoolNew]
  have unknown (c : SeqCell) (mine : c.pool = id) : ¬ g.Known c := fun known => new (mine ▸ owned.tracked c known)
  have looseCell (c : SeqCell) (mine : c.pool = id) : Loose g.lists c := fun p inside => unknown c mine (Or.inl ⟨p, inside⟩)
  have plain : ¬ (Place.free id).Holds := fun holds => holds
  have empty : g.lists (.free id) = [] := by
    cases list : g.lists (.free id) with
    | nil => rfl
    | cons c rest =>
      have inside : c ∈ g.lists (.free id) := list ▸ List.mem_cons_self ..
      exact absurd (Or.inl ⟨_, inside⟩) (unknown c (owned.fits _ c inside))
  have located := owned.located.rebuild (p := .free id) chain (fun c inside => Or.inr (looseCell c (mem_newCells.mp inside).1))
    (fun c _ there => next c fun mine => there (looseCell c mine))
  have known (c : SeqCell) : (g.move (.free id) free (newCells id size) g.hand g.spare).Known c ↔
      c ∈ newCells id size ∨ g.Known c := by
    show (∃ q, c ∈ (g.move (.free id) free (newCells id size) g.hand g.spare).lists q) ∨ c ∈ g.hand ∨ c ∈ g.spare ↔
      _ ∨ (∃ q, c ∈ g.lists q) ∨ c ∈ g.hand ∨ c ∈ g.spare
    rw [Ledger.somewhere_move, Ledger.somewhere (.free id), empty]
    simp only [List.not_mem_nil, false_or, or_assoc]
  have held (c : SeqCell) : (g.move (.free id) free (newCells id size) g.hand g.spare).Held c ↔ g.Held c :=
    Ledger.held_move plain
  refine ⟨free, located, ?_, ?_, ?_, ?_, ?_, ?_, owned.apart, ?_, ?_⟩
  · intro c inside
    rcases (known c).mp inside with mine | old
    · exact Or.inr (mem_newCells.mp mine).1
    · exact Or.inl (owned.tracked c old)
  · intro x tracked
    by_cases same : x = id
    · subst same
      rw [own]
      exact update_self ..
    · rw [others x same, Ledger.move_head_of_ne (Owned.free_ne same)]
      exact owned.free x (tracked.resolve_right same)
  · intro p c inside
    rcases Ledger.mem_move.mp inside with ⟨same, mine⟩ | ⟨-, there⟩
    · rw [same]
      exact (mem_newCells.mp mine).1
    · exact owned.fits p c there
  · intro c isHeld
    have event' : (after.setPool id { after.pool id with totalElements := size }).event c = m.event c :=
      congrFun event c
    rw [Ledger.move_head_of_ne (by simp), heldPtr_congr event']
    exact owned.held c ((held c).mp isHeld)
  · intro c notHeld
    rw [Ledger.move_lists_of_ne (by simp)]
    exact owned.idle c fun isHeld => notHeld ((held c).mpr isHeld)
  · intro c taken p inside
    rcases Ledger.mem_move.mp inside with ⟨-, mine⟩ | ⟨-, there⟩
    · exact unknown c (mem_newCells.mp mine).1 (Or.inr taken)
    · exact owned.loose c taken p there
  · intro c tracked
    rw [known c, mem_newCells]
    by_cases same : c.pool = id
    · rw [same, own]
      have absent := unknown c same
      tauto
    · rw [others c.pool same, ← owned.known c (tracked.resolve_right same)]
      constructor
      · rintro (⟨mine, -⟩ | old)
        · exact absurd mine same
        · exact old
      · exact Or.inr
  · intro x tracked
    by_cases same : x = id
    · subst same
      rw [own]
      show 0 + (update g.lists (.free x) (newCells x size) (.free x)).length = size
      rw [update_self]
      simp [newCells]
    · rw [others x same, Ledger.move_lists_of_ne (Owned.free_ne same)]
      exact owned.counter x (tracked.resolve_right same)

def Ledger.empty : Ledger where
  head := fun _ => none
  lists := fun _ => []
  hand := []
  spare := []

theorem owned_empty (m : SeqMemory) : Owned (fun _ => False) m .empty where
  located := ⟨fun _ => rfl, fun _ _ _ inside => absurd inside List.not_mem_nil⟩
  tracked c known := by
    rcases known with ⟨p, inside⟩ | inside | inside <;> exact absurd inside List.not_mem_nil
  free _ tracked := absurd tracked id
  fits _ _ inside := absurd inside List.not_mem_nil
  held c held := by
    rcases held with inside | ⟨p, -, inside⟩ <;> exact absurd inside List.not_mem_nil
  idle _ _ := rfl
  loose c taken := by
    rcases taken with inside | inside <;> exact absurd inside List.not_mem_nil
  apart := List.nodup_nil
  known _ tracked := absurd tracked id
  counter _ tracked := absurd tracked id

end Init

end AlsaDriver.Seq
