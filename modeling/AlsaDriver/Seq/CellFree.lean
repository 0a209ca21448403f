import AlsaDriver.Lib.Chains
import AlsaDriver.Seq.Memory

namespace AlsaDriver.Seq

open Chains Function

def SndSeqExt.ptr : SndSeqExt → Option SeqCell
  | kernel _ _ | user _ _ => none
  | chained _ ptr => ptr

namespace SeqMemory

variable {m : SeqMemory} {cell : SeqCell} {data : List SeqCell}

def heldPtr (m : SeqMemory) (cell : SeqCell) : Option SeqCell :=
  if (m.event cell).isVariable then (m.event cell).data.ext.ptr else none

theorem heldPtr_congr {m' : SeqMemory} (same : m'.event cell = m.event cell) : m'.heldPtr cell = m.heldPtr cell := by
  rw [heldPtr, heldPtr, same]

@[simp] theorem freeCell_event (m : SeqMemory) (id : Nat) (cell : SeqCell) : (m.freeCell id cell).event = m.event := rfl

theorem freeCell_next {id : Nat} {d : SeqCell} (other : d ≠ cell) : (m.freeCell id cell).next d = m.next d :=
  update_of_ne other _ _

@[simp] theorem freeChain_event (id fuel : Nat) (p : Option SeqCell) (m : SeqMemory) :
    (freeChain id fuel p m).event = m.event := by
  induction fuel generalizing p m with
  | zero => cases p <;> rfl
  | succ fuel ih =>
    cases p with
    | none => rfl
    | some curp => exact ih _ _

@[simp] theorem freeChain_chunk (id fuel : Nat) (p : Option SeqCell) (m : SeqMemory) :
    (freeChain id fuel p m).chunk = m.chunk := by
  induction fuel generalizing p m with
  | zero => cases p <;> rfl
  | succ fuel ih =>
    cases p with
    | none => rfl
    | some curp => exact ih _ _

theorem freeChain_next {id fuel : Nat} {p : Option SeqCell} (chain : Chain m.next p data) {d : SeqCell}
    (outside : d ∉ data) : (freeChain id fuel p m).next d = m.next d := by
  induction fuel generalizing p m data with
  | zero => cases p <;> rfl
  | succ fuel ih =>
    cases data with
    | nil =>
      have none_ : p = none := chain
      subst none_
      rfl
    | cons c rest =>
      obtain ⟨first, later⟩ := chain
      subst first
      have fresh := (List.nodup_cons.mp (Chain.nodup ⟨rfl, later⟩ : (c :: rest).Nodup)).1
      obtain ⟨other, apart⟩ := not_or.mp (mt List.mem_cons.mpr outside)
      have after : Chain (m.freeCell id c).next (m.next c) rest := by
        apply later.frame
        intro e inside
        apply freeCell_next
        rintro rfl
        exact fresh inside
      exact (ih after apart).trans (freeCell_next other)

theorem sndSeqCellFree_eq (m : SeqMemory) (cell : SeqCell) :
    m.sndSeqCellFree cell =
      freeChain cell.pool (m.pool cell.pool).totalElements (m.heldPtr cell) (m.freeCell cell.pool cell) := by
  rw [sndSeqCellFree, heldPtr]
  by_cases held : (m.event cell).isVariable
  · rw [if_pos held, if_pos held]
    cases (m.event cell).data.ext <;> simp [SndSeqExt.ptr, freeChain]
  · rw [if_neg held, if_neg held, freeChain]

@[simp] theorem sndSeqCellFree_event (m : SeqMemory) (cell : SeqCell) : (m.sndSeqCellFree cell).event = m.event := by
  rw [sndSeqCellFree_eq, freeChain_event, freeCell_event]

@[simp] theorem sndSeqCellFree_chunk (m : SeqMemory) (cell : SeqCell) : (m.sndSeqCellFree cell).chunk = m.chunk := by
  rw [sndSeqCellFree_eq, freeChain_chunk]
  rfl

theorem sndSeqCellFree_next (chain : Chain m.next (m.heldPtr cell) data) (apart : cell ∉ data) {d : SeqCell}
    (other : d ≠ cell) (outside : d ∉ data) : (m.sndSeqCellFree cell).next d = m.next d := by
  rw [sndSeqCellFree_eq]
  have after : Chain (m.freeCell cell.pool cell).next (m.heldPtr cell) data := by
    apply chain.frame
    intro e inside
    apply freeCell_next
    rintro rfl
    exact apart inside
  exact (freeChain_next after outside).trans (freeCell_next other)

def footprint (data : SeqCell → List SeqCell) (cells : List SeqCell) : List SeqCell :=
  cells.flatMap fun c => c :: data c

structure Private (m : SeqMemory) (data : SeqCell → List SeqCell) (cells : List SeqCell) : Prop where
  chain : ∀ c ∈ cells, Chain m.next (m.heldPtr c) (data c)
  apart : (footprint data cells).Nodup

theorem mem_footprint {data : SeqCell → List SeqCell} {cells : List SeqCell} {d : SeqCell} :
    d ∈ footprint data cells ↔ ∃ c ∈ cells, d = c ∨ d ∈ data c := by
  simp [footprint, List.mem_flatMap]

section Footprint

variable {data : SeqCell → List SeqCell} {cells cells' : List SeqCell} {c : SeqCell}

theorem Private.frame {m' : SeqMemory} (own : Private m data cells)
    (agree : ∀ d ∈ footprint data cells, d ∉ cells → m'.next d = m.next d)
    (events : ∀ c ∈ cells, m'.event c = m.event c) : Private m' data cells := by
  refine ⟨fun c inside => ?_, own.apart⟩
  rw [heldPtr_congr (events c inside)]
  apply (own.chain c inside).frame
  intro d behind
  apply agree d (mem_footprint.mpr ⟨c, inside, Or.inr behind⟩)
  -- a cell of the list would be there twice
  intro there
  have apart := own.apart
  obtain ⟨before, after, split⟩ := List.append_of_mem inside
  rw [split, footprint, List.flatMap_append, List.flatMap_cons] at apart
  rw [split] at there
  simp only [List.cons_append, List.nodup_append, List.nodup_cons, List.mem_append, List.mem_cons] at apart there
  rcases there with early | same | late
  · exact apart.2.2 d (List.mem_flatMap.mpr ⟨d, early, by simp⟩) d (Or.inr (Or.inl behind)) rfl
  · subst same
    exact apart.2.1.1 (Or.inl behind)
  · exact apart.2.1.2.2.2 d behind d (List.mem_flatMap.mpr ⟨d, late, by simp⟩) rfl

theorem Private.perm (own : Private m data cells) (perm : cells.Perm cells') : Private m data cells' :=
  ⟨fun c inside => own.chain c (perm.mem_iff.mpr inside), (perm.flatMap_right _).nodup_iff.mp own.apart⟩

theorem Private.tail (own : Private m data (c :: cells)) : Private m data cells := by
  refine ⟨fun d inside => own.chain d (List.mem_cons_of_mem _ inside), ?_⟩
  have apart := own.apart
  rw [footprint, List.flatMap_cons] at apart
  exact (List.nodup_append.mp apart).2.1

theorem Private.cons_apart (own : Private m data (c :: cells)) {d : SeqCell} (inside : d ∈ footprint data cells) :
    d ≠ c ∧ d ∉ data c := by
  have apart := own.apart
  rw [footprint, List.flatMap_cons] at apart
  have cross := (List.nodup_append.mp apart).2.2
  constructor
  · rintro rfl
    exact cross d (by simp) d inside rfl
  · intro behind
    exact cross d (List.mem_cons_of_mem _ behind) d inside rfl

theorem Private.not_behind (own : Private m data (c :: cells)) : c ∉ data c := by
  have apart := own.apart
  rw [footprint, List.flatMap_cons] at apart
  exact (List.nodup_cons.mp (List.nodup_append.mp apart).1).1

theorem Private.free (own : Private m data (c :: cells)) :
    Private (m.sndSeqCellFree c) data cells ∧ ∀ d ∈ footprint data cells, (m.sndSeqCellFree c).next d = m.next d := by
  have agree (d : SeqCell) (inside : d ∈ footprint data cells) : (m.sndSeqCellFree c).next d = m.next d := by
    obtain ⟨other, outside⟩ := own.cons_apart inside
    exact sndSeqCellFree_next (own.chain c (List.mem_cons_self ..)) own.not_behind other outside
  exact ⟨own.tail.frame (fun d inside _ => agree d inside) (fun _ _ => by rw [sndSeqCellFree_event]), agree⟩

end Footprint

end SeqMemory

end AlsaDriver.Seq
