import AlsaDriver.Seq.Fifo
import AlsaDriver.Seq.VarEvent
import AlsaDriver.Lib.Runs
import AlsaDriver.Seq.PoolInit

namespace AlsaDriver.Seq

open Chains Function SeqMemory

section Queue

variable {m : SeqMemory} {f : SndSeqFifo} {l : List SeqCell} {cell : SeqCell}

structure FifoRep (m : SeqMemory) (f : SndSeqFifo) (l : List SeqCell) : Prop where
  chain : Chain m.next f.head l
  tail : f.tail = l.getLast?
  count : f.cells = l.length

theorem fifoCellOut_eq (rep : FifoRep m f l) :
    ∃ f' m', fifoCellOut f m = (l.head?, f', m') ∧ FifoRep m' f' l.tail ∧ f'.pool = f.pool ∧ f'.overflow = f.overflow ∧
      m' = { m with next := m'.next } ∧ ∀ d, d ∉ l → m'.next d = m.next d := by
  have chain := rep.chain
  cases l with
  | nil =>
    refine ⟨f, m, ?_, rep, rfl, rfl, rfl, fun _ _ => rfl⟩
    rw [fifoCellOut, show f.head = none from chain]
    rfl
  | cons c rest =>
    have fresh := (List.nodup_cons.mp chain.nodup).1
    refine ⟨{ f with head := m.next c, tail := if f.tail = some c then none else f.tail, cells := f.cells - 1 },
      m.setNext c none, by rw [fifoCellOut, chain.1]; rfl, ⟨?_, ?_, ?_⟩, rfl, rfl, rfl, ?_⟩
    · apply chain.2.frame
      intro d inside
      apply update_of_ne
      rintro rfl
      exact fresh inside
    · have last := rep.tail
      dsimp only
      cases rest with
      | nil =>
        have end_ : f.tail = some c := last
        rw [if_pos end_]
        rfl
      | cons d others =>
        have other : f.tail ≠ some c := by
          intro same
          rw [same, List.getLast?_cons_cons] at last
          exact fresh (List.mem_of_getLast? last.symm)
        rw [if_neg other, last]
        rfl
    · have count := rep.count
      rw [List.length_cons] at count
      dsimp only
      rw [count]
      simp
    · intro d outside
      apply update_of_ne
      rintro rfl
      exact outside (List.mem_cons_self ..)

theorem putback_rep (rep : FifoRep m f l) (fresh : cell ∉ l) (some_ : f.head ≠ none) :
    FifoRep (sndSeqFifoCellPutback f m cell).2 (sndSeqFifoCellPutback f m cell).1 (cell :: l) := by
  refine ⟨rep.chain.push fresh, ?_, ?_⟩
  · show f.tail = (cell :: l).getLast?
    cases l with
    | nil => exact absurd rep.chain some_
    | cons c rest => rw [List.getLast?_cons_cons, rep.tail]
  · show f.cells + 1 = _
    rw [rep.count]
    rfl

variable (cell) in
theorem putback_empty (rep : FifoRep m f l) (none_ : f.head = none) :
    Chain (sndSeqFifoCellPutback f m cell).2.next (sndSeqFifoCellPutback f m cell).1.head [cell] ∧
      (sndSeqFifoCellPutback f m cell).1.tail = none := by
  have empty := rep.chain.none_iff.mp none_
  refine ⟨⟨rfl, ?_⟩, ?_⟩
  · show update m.next cell f.head cell = none
    rw [update_self, none_]
  · show f.tail = none
    rw [rep.tail, empty]
    rfl

theorem appendCell_eq (rep : FifoRep m f l) (fresh : cell ∉ l) (alone : m.next cell = none) :
    FifoRep (appendCell f m cell).2 (appendCell f m cell).1 (l ++ [cell]) ∧
      (appendCell f m cell).2 = { m with next := (appendCell f m cell).2.next } ∧
      ∀ d, d ∉ l → (appendCell f m cell).2.next d = m.next d := by
  have chain := rep.chain
  rcases List.eq_nil_or_concat l with empty | ⟨before, last, split⟩
  · subst empty
    have head : f.head = none := chain
    have tail : f.tail = none := rep.tail
    have links : (appendCell f m cell).2 = m := by
      rw [appendCell, tail]
    rw [links]
    refine ⟨⟨?_, rfl, ?_⟩, rfl, fun _ _ => rfl⟩
    · show Chain m.next (if f.head = none then some cell else f.head) [cell]
      rw [if_pos head]
      exact ⟨rfl, alone⟩
    · show f.cells + 1 = _
      rw [rep.count]
      rfl
  · rw [List.concat_eq_append] at split
    subst split
    have tail : f.tail = some last := by
      rw [rep.tail]
      simp
    have head : f.head ≠ none := by
      intro none_
      have empty := chain.none_iff.mp none_
      simp at empty
    have links : (appendCell f m cell).2 = m.setNext last (some cell) := by
      rw [appendCell, tail]
    have grown := (located_one chain).append (p := ()) (fun _ => fresh) rfl alone
    have there := grown.chain ()
    rw [update_self] at there
    rw [links]
    refine ⟨⟨?_, ?_, ?_⟩, rfl, ?_⟩
    · show Chain (update m.next last (some cell)) (if f.head = none then some cell else f.head) _
      rw [if_neg head, List.append_assoc]
      exact there
    · show some cell = _
      simp
    · show f.cells + 1 = _
      rw [rep.count]
      simp
      omega
    · intro d outside
      apply update_of_ne
      rintro rfl
      exact outside (by simp)

end Queue

end AlsaDriver.Seq

namespace AlsaDriver.Seq

open Chains Function SeqMemory Runs

namespace Reader

def hand : Reader → List SeqCell
  | holding _ cell => [cell]
  | _ => []

def out : Reader → List SndSeqEvent
  | outside => []
  | loop r | asleep r | holding r _ => r.out

def Consistent : Reader → Prop
  | outside => True
  | loop r | holding r _ => r.out ≠ [] → 0 < r.result
  | asleep r => r.out = []

end Reader

def Reading.Fits (r : Reading) (ev : SndSeqEvent) : Prop :=
  ev.isVariable → roundup ev.data.ext.len SIZEOF_SND_SEQ_EVENT ≤ r.count - SIZEOF_SND_SEQ_EVENT

namespace FifoState

def userEvents (s : FifoState) (cells : List SeqCell) : List SndSeqEvent := cells.map fun c => s.m.userOf (s.m.event c)

def Good (s : FifoState) : Prop :=
  ∃ l, Chain s.m.next s.f.head l ∧ s.f.cells = l.length ∧ s.f.tail = l.getLast? ∧
    s.returned <+: s.accepted ∧ s.accepted = s.returned ++ s.reader.out ++ s.userEvents (s.reader.hand ++ l)

def Calls (s : FifoState) : FifoOp → Prop
  | .eventIn event => event.isVariable → ∃ l, s.m.Filled event.data.ext l ∧ ∀ d ∈ l, d.pool ≠ s.f.pool
  | .others m' => (∀ c, c.pool = s.f.pool → m'.next c = s.m.next c ∧ m'.event c = s.m.event c ∧
      m'.chunk c = s.m.chunk c) ∧ m'.pool s.f.pool = s.m.pool s.f.pool
  | _ => True

def NotPutBackAlone (s : FifoState) : FifoOp → Prop
  | .copy => ∀ r cell, s.reader = .holding r cell → r.Fits (s.m.event cell) ∨ s.f.head ≠ none
  | _ => True

/-- `snd_seq_fifo_new`. -/
def new (m : SeqMemory) (pool size : Nat) : FifoState where
  m := (m.setPool pool (sndSeqPoolNew size)).sndSeqPoolInit pool
  f := ⟨pool, none, none, 0, 0⟩
  reader := .outside
  accepted := []
  returned := []

end FifoState

/-- The cells of the pool are free, in the FIFO, in `hand`, or behind one of these. -/
structure FifoBase (f : SndSeqFifo) (m : SeqMemory) (g : Ledger) (hand : List SeqCell) : Prop where
  owned : Owned (fun id => id = f.pool) m g
  spare : g.spare = []
  hand : g.hand = hand
  head : g.head (.fifo 0) = f.head
  rep : FifoRep m f (g.lists (.fifo 0))
  chained : ∀ c, g.Held c → (m.event c).isVariable → ∃ len ptr, (m.event c).data.ext = .chained len ptr

section Base

variable {f : SndSeqFifo} {m m' : SeqMemory} {g : Ledger} {hand : List SeqCell} {cell : SeqCell}

theorem held_of_fifo {c : SeqCell} (inside : c ∈ g.lists (.fifo 0)) : g.Held c := Or.inr ⟨.fifo 0, trivial, inside⟩

theorem known_of_held {c : SeqCell} (held : g.Held c) : g.Known c := by
  rcases held with hand | ⟨p, -, inside⟩
  · exact Or.inr (Or.inl hand)
  · exact Or.inl ⟨p, inside⟩

namespace FifoBase

theorem userOf_congr (base : FifoBase f m g hand) {cells : List SeqCell} (held : ∀ c ∈ cells, g.Held c)
    (event : ∀ c ∈ cells, m'.event c = m.event c)
    (behind : ∀ c ∈ cells, ∀ d ∈ g.lists (.behind c), m'.next d = m.next d ∧ m'.chunk d = m.chunk d) :
    (cells.map fun c => m'.userOf (m'.event c)) = cells.map fun c => m.userOf (m.event c) := by
  apply List.map_congr_left
  intro c inside
  have chain := base.owned.located.chain (.behind c)
  rw [base.owned.held c (held c inside)] at chain
  exact SeqMemory.userOf_congr chain (event c inside) (fun d there => (behind c inside d there).1)
    (fun d there => (behind c inside d there).2)

theorem events_held (base : FifoBase f m g hand) {c : SeqCell} (inside : c ∈ hand ++ g.lists (.fifo 0)) : g.Held c := by
  rcases List.mem_append.mp inside with taken | queued
  · exact Or.inl (base.hand ▸ taken)
  · exact held_of_fifo queued

theorem cellOut (base : FifoBase f m g []) :
    ∃ f' m' g', fifoCellOut f m = ((g.lists (.fifo 0)).head?, f', m') ∧
      FifoBase f' m' g' (g.lists (.fifo 0)).head?.toList ∧ g'.lists (.fifo 0) = (g.lists (.fifo 0)).tail ∧
      f'.pool = f.pool ∧ f'.overflow = f.overflow ∧ m'.event = m.event ∧
      (g.lists (.fifo 0)).map (fun c => m'.userOf (m'.event c)) = (g.lists (.fifo 0)).map fun c => m.userOf (m.event c) := by
  obtain ⟨f', m', call, rep, pool, overflow, links, frame⟩ := fifoCellOut_eq base.rep
  have event : m'.event = m.event := by rw [links]
  have parts : (g.lists (.fifo 0)).head?.toList ++ (g.lists (.fifo 0)).tail = g.lists (.fifo 0) := by
    cases g.lists (.fifo 0) <;> rfl
  have located : Located m'.next (update g.head (.fifo 0) f'.head) (update g.lists (.fifo 0) (g.lists (.fifo 0)).tail) :=
    base.owned.located.rebuild rep.chain (fun d inside => Or.inl (List.mem_of_mem_tail inside)) (fun d outside _ => frame d outside)
  have owned := base.owned.takeOut (p := .fifo 0) trivial located (by rw [parts]) event (by rw [links])
  have held (c : SeqCell) (inside : (g.move (.fifo 0) f'.head (g.lists (.fifo 0)).tail
      ((g.lists (.fifo 0)).head?.toList ++ g.hand) g.spare).Held c) : g.Held c := by
    rcases inside with taken | ⟨p, holds, there⟩
    · rcases List.mem_append.mp taken with first | before
      · exact held_of_fifo (parts ▸ List.mem_append_left _ first)
      · exact Or.inl before
    · rcases Ledger.mem_move.mp there with ⟨-, here⟩ | ⟨-, there⟩
      · exact held_of_fifo (List.mem_of_mem_tail here)
      · exact Or.inr ⟨p, holds, there⟩
  refine ⟨f', m', g.move (.fifo 0) f'.head (g.lists (.fifo 0)).tail ((g.lists (.fifo 0)).head?.toList ++ g.hand) g.spare,
    call, ⟨?_, base.spare, ?_, Ledger.move_head_self, ?_, ?_⟩, Ledger.move_lists_self, pool, overflow, event, ?_⟩
  · rw [pool]
    exact owned
  · show _ ++ g.hand = _
    rw [base.hand, List.append_nil]
  · rw [Ledger.move_lists_self]
    exact rep
  · intro c inside variable_
    rw [event] at variable_ ⊢
    exact base.chained c (held c inside) variable_
  · apply base.userOf_congr (fun c inside => held_of_fifo inside) (fun c _ => by rw [event])
    intro c _ d behind
    refine ⟨frame d ?_, by rw [links]⟩
    intro queued
    have same := base.owned.located.apart _ _ d behind queued
    cases same

theorem cellFree (base : FifoBase f m g [cell]) :
    ∃ g', FifoBase f (m.sndSeqCellFree cell) g' [] ∧ g'.lists (.fifo 0) = g.lists (.fifo 0) ∧
      ((g.lists (.fifo 0)).map fun c => (m.sndSeqCellFree cell).userOf ((m.sndSeqCellFree cell).event c)) =
        (g.lists (.fifo 0)).map fun c => m.userOf (m.event c) := by
  have mine : cell ∈ g.hand := base.hand ▸ List.mem_cons_self ..
  obtain ⟨g', owned, hand', spare, -, -, places⟩ := base.owned.cellFree base.hand
  have lists : g'.lists (.fifo 0) = g.lists (.fifo 0) := (places (.fifo 0) (by simp) (by simp)).1
  have head : g'.head (.fifo 0) = f.head := ((places (.fifo 0) (by simp) (by simp)).2).trans base.head
  have loose := base.owned.loose cell (Or.inl mine)
  have chain := base.owned.located.chain (.behind cell)
  rw [base.owned.held cell (Or.inl mine)] at chain
  have held (c : SeqCell) (inside : g'.Held c) : g.Held c := by
    rcases inside with taken | ⟨p, holds, there⟩
    · rw [hand'] at taken
      exact absurd taken List.not_mem_nil
    · refine Or.inr ⟨p, holds, ?_⟩
      have notFree : p ≠ .free cell.pool := by
        rintro rfl
        exact holds
      have notBehind : p ≠ .behind cell := by
        rintro rfl
        exact holds
      rwa [(places p notFree notBehind).1] at there
  refine ⟨g', ⟨owned, spare.trans base.spare, hand', head, ⟨?_, ?_, ?_⟩, ?_⟩, lists, ?_⟩
  · rw [← head]
    exact owned.located.chain (.fifo 0)
  · rw [lists]
    exact base.rep.tail
  · rw [lists]
    exact base.rep.count
  · intro c inside variable_
    rw [sndSeqCellFree_event] at variable_ ⊢
    exact base.chained c (held c inside) variable_
  · apply base.userOf_congr (fun c inside => held_of_fifo inside) (fun c _ => by rw [sndSeqCellFree_event])
    intro c inside d behind
    refine ⟨sndSeqCellFree_next chain (loose _) ?_ ?_, by rw [sndSeqCellFree_chunk]⟩
    · rintro rfl
      exact loose _ behind
    · intro there
      have same := base.owned.located.apart _ _ d behind there
      rw [Place.behind.inj same] at inside
      exact loose _ inside

theorem drain {fuel : Nat} (base : FifoBase f m g []) (enough : (g.lists (.fifo 0)).length ≤ fuel) :
    ∃ g', FifoBase (drainFifo fuel f m).1 (drainFifo fuel f m).2 g' [] ∧ g'.lists (.fifo 0) = [] := by
  induction fuel generalizing f m g with
  | zero => exact ⟨g, base, List.eq_nil_of_length_eq_zero (Nat.le_zero.mp enough)⟩
  | succ fuel ih =>
    obtain ⟨f', m', g1, call, after, rest, -⟩ := base.cellOut
    rw [drainFifo, call]
    cases list : g.lists (.fifo 0) with
    | nil =>
      rw [list] at after rest
      exact ⟨g1, after, rest⟩
    | cons cell others =>
      rw [list] at after rest enough
      obtain ⟨g2, freed, same, -⟩ := after.cellFree
      apply ih freed
      rw [same, rest]
      exact Nat.le_of_succ_le_succ enough

theorem dup (base : FifoBase f m g hand) {event : SndSeqEvent}
    (filled : event.isVariable → ∃ l, m.Filled event.data.ext l ∧ ∀ d ∈ l, d.pool ≠ f.pool) :
    (∃ cell m' g', m.sndSeqEventDup f.pool event = (.ok cell, m') ∧ FifoBase f m' g' (cell :: hand) ∧
      g'.lists (.fifo 0) = g.lists (.fifo 0) ∧ m'.next cell = none ∧ m'.userOf (m'.event cell) = m.userOf event ∧
      ∀ c, g.Held c → g'.Held c ∧ m'.userOf (m'.event c) = m.userOf (m.event c)) ∨
    ∃ err m' g', m.sndSeqEventDup f.pool event = (.error err, m') ∧ err < 0 ∧ FifoBase f m' g' hand ∧
      g'.lists (.fifo 0) = g.lists (.fifo 0) ∧
      ∀ c, g.Held c → g'.Held c ∧ m'.userOf (m'.event c) = m.userOf (m.event c) := by
  have source (variable_ : event.isVariable) : m.Source (g.lists (.free f.pool)) event.data.ext := by
    obtain ⟨l, whole, apart⟩ := filled variable_
    exact ⟨l, whole.1, fun d inside free => apart d inside (base.owned.fits _ d free)⟩
  have heldOutside (c : SeqCell) (held : g.Held c) : c ∉ g.lists (.free f.pool) := fun free =>
    base.owned.not_held_of_free free held
  have keptUser {m' : SeqMemory} (kept : KeptOutside (g.lists (.free f.pool)) m m') (c : SeqCell) (held : g.Held c) :
      m'.userOf (m'.event c) = m.userOf (m.event c) := by
    have chain := base.owned.located.chain (.behind c)
    rw [base.owned.held c held] at chain
    have outside (d : SeqCell) (behind : d ∈ g.lists (.behind c)) : d ∉ g.lists (.free f.pool) := by
      intro free
      have same := base.owned.located.apart _ _ d behind free
      cases same
    exact SeqMemory.userOf_congr chain (kept.event c (heldOutside c held))
      (fun d behind => kept.next d (outside d behind)) (fun d behind => kept.chunk d (outside d behind))
  rcases sndSeqEventDup_cases base.owned rfl source with ⟨cell, m', g', data, call, dupped⟩ | ⟨err, m', g', call, undone⟩
  · left
    obtain ⟨lists, head⟩ := dupped.places (.fifo 0) (by simp) (by simp)
    have places (p : Place) (holds : p.Holds) : g'.lists p = g.lists p := by
      apply (dupped.places p _ _).1
      · rintro rfl
        exact holds
      · rintro rfl
        exact holds
    have back (c : SeqCell) (held : g'.Held c) : c = cell ∨ g.Held c := by
      rcases held with taken | ⟨p, holds, inside⟩
      · rw [dupped.hand] at taken
        exact (List.mem_cons.mp taken).imp id Or.inl
      · rw [places p holds] at inside
        exact Or.inr (Or.inr ⟨p, holds, inside⟩)
    refine ⟨cell, m', g', call, ⟨dupped.owned, dupped.spare.trans base.spare, ?_, head.trans base.head, ?_, ?_⟩, lists,
      dupped.alone, ?_, fun c held => ⟨?_, keptUser dupped.kept c held⟩⟩
    · rw [dupped.hand, base.hand]
    · rw [lists]
      refine ⟨?_, base.rep.tail, base.rep.count⟩
      apply base.rep.chain.frame
      intro d inside
      exact dupped.kept.next d (heldOutside d (held_of_fifo inside))
    · intro c held variable_
      rcases back c held with same | before
      · subst same
        rw [dupped.event] at variable_ ⊢
        split at variable_
        · rename_i isVariable
          rw [if_pos isVariable]
          exact ⟨_, _, rfl⟩
        · contradiction
      · rw [dupped.kept.event c (heldOutside c before)] at variable_ ⊢
        exact base.chained c before variable_
    · by_cases variable_ : event.isVariable
      · obtain ⟨l, whole, -⟩ := filled variable_
        exact dupped.userOf fun _ => whole
      · exact dupped.userOf (l := []) fun isVariable => absurd isVariable variable_
    · rcases held with taken | ⟨p, holds, inside⟩
      · exact Or.inl (dupped.hand ▸ List.mem_cons_of_mem _ taken)
      · exact Or.inr ⟨p, holds, (places p holds).symm ▸ inside⟩
  · right
    have other (p : Place) (holds : p.Holds) : p ≠ .free f.pool := by
      rintro rfl
      exact holds
    have same (c : SeqCell) : g'.Held c ↔ g.Held c := by
      rw [Ledger.Held, Ledger.Held, undone.same.hand]
      refine or_congr Iff.rfl (exists_congr fun p => and_congr_right fun holds => ?_)
      rw [undone.same.lists p (other p holds)]
    refine ⟨err, m', g', call, sndSeqEventDup_error call, ⟨undone.owned, undone.spare.trans base.spare,
      undone.same.hand.trans base.hand, (undone.same.head _ (other (.fifo 0) trivial)).trans base.head, ?_, ?_⟩,
      undone.same.lists _ (other (.fifo 0) trivial), fun c held => ⟨(same c).mpr held, keptUser undone.kept c held⟩⟩
    · rw [undone.same.lists _ (other (.fifo 0) trivial)]
      refine ⟨?_, base.rep.tail, base.rep.count⟩
      apply base.rep.chain.frame
      intro d inside
      exact undone.kept.next d (heldOutside d (held_of_fifo inside))
    · intro c held variable_
      have before := (same c).mp held
      rw [undone.kept.event c (heldOutside c before)] at variable_ ⊢
      exact base.chained c before variable_

theorem enqueue {f' : SndSeqFifo} {l : List SeqCell} (base : FifoBase f m g (cell :: hand)) (rep : FifoRep m' f' l)
    (cells : ∀ d, d ∈ l ↔ d = cell ∨ d ∈ g.lists (.fifo 0)) (links : m' = { m with next := m'.next })
    (frame : ∀ d, d ∉ g.lists (.fifo 0) → d ≠ cell → m'.next d = m.next d) (pool : f'.pool = f.pool) :
    ∃ g', FifoBase f' m' g' hand ∧ g'.lists (.fifo 0) = l ∧
      ∀ c, g.Held c → m'.userOf (m'.event c) = m.userOf (m.event c) := by
  have mine : cell ∈ g.hand := base.hand ▸ List.mem_cons_self ..
  have loose := base.owned.loose cell (Or.inl mine)
  have event : m'.event = m.event := by rw [links]
  have located : Located m'.next (update g.head (.fifo 0) f'.head) (update g.lists (.fifo 0) l) := by
    apply base.owned.located.rebuild rep.chain
    · intro d inside
      rcases (cells d).mp inside with same | queued
      · exact Or.inr (same ▸ loose)
      · exact Or.inl queued
    · intro d outside notLoose
      apply frame d outside
      rintro rfl
      exact notLoose loose
  have owned := base.owned.put (p := .fifo 0) trivial base.hand located cells event (by rw [links])
  refine ⟨g.move (.fifo 0) f'.head l hand g.spare, ⟨by rw [pool]; exact owned, base.spare, rfl, Ledger.move_head_self, ?_, ?_⟩, Ledger.move_lists_self, ?_⟩
  · rw [Ledger.move_lists_self]
    exact rep
  · intro c held variable_
    have before : g.Held c := by
      rcases held with taken | ⟨p, holds, inside⟩
      · exact Or.inl (base.hand ▸ List.mem_cons_of_mem _ taken)
      · rcases Ledger.mem_move.mp inside with ⟨-, here⟩ | ⟨-, there⟩
        · rcases (cells c).mp here with same | queued
          · exact Or.inl (same ▸ mine)
          · exact held_of_fifo queued
        · exact Or.inr ⟨p, holds, there⟩
    rw [event] at variable_ ⊢
    exact base.chained c before variable_
  · intro c held
    have chain := base.owned.located.chain (.behind c)
    rw [base.owned.held c held] at chain
    apply SeqMemory.userOf_congr chain (by rw [event]) _ (fun d _ => by rw [links])
    intro d behind
    apply frame d
    · intro queued
      have same := base.owned.located.apart _ _ d behind queued
      cases same
    · rintro rfl
      exact loose _ behind

end FifoBase

end Base

structure FifoInv (s : FifoState) (g : Ledger) : Prop where
  base : FifoBase s.f s.m g s.reader.hand
  consistent : s.reader.Consistent
  account : s.accepted = s.returned ++ s.reader.out ++ s.userEvents (s.reader.hand ++ g.lists (.fifo 0))

namespace FifoInv

variable {s : FifoState} {g : Ledger}

theorem good (inv : FifoInv s g) : s.Good := by
  have rep := inv.base.rep
  refine ⟨_, rep.chain, rep.count, rep.tail, ?_, inv.account⟩
  rw [inv.account, List.append_assoc]
  exact List.prefix_append ..

theorem finish (inv : FifoInv s g) {r : Reading} {err : Int} (out : s.reader.out = r.out) (empty : s.reader.hand = [])
    (keeps : err < 0 → ¬ (err = -EAGAIN ∧ 0 < r.result) → r.out = []) : FifoInv (s.finish r err) g := by
  have account := inv.account
  have base := inv.base
  rw [empty] at base
  refine ⟨base, trivial, ?_⟩
  show s.accepted = _ ++ [] ++ s.userEvents ([] ++ _)
  rw [out, empty] at account
  rw [account, List.append_nil]
  congr 1
  show _ = if (if err = -EAGAIN ∧ 0 < r.result then 0 else err) < 0 then s.returned else s.returned ++ r.out
  by_cases again : err = -EAGAIN ∧ 0 < r.result
  · rw [if_pos again, if_neg (by decide)]
  · rw [if_neg again]
    by_cases failed : err < 0
    · rw [if_pos failed, keeps failed again, List.append_nil]
    · rw [if_neg failed]

theorem eventIn (inv : FifoInv s g) {event : SndSeqEvent} (calls : s.Calls (.eventIn event)) :
    ∃ g', FifoInv (s.eventIn event) g' := by
  rcases inv.base.dup calls with ⟨cell, m', g1, call, base, lists, alone, new, kept⟩ |
    ⟨err, m', g', call, failed, base, lists, kept⟩
  · have mine : cell ∈ g1.hand := base.hand ▸ List.mem_cons_self ..
    have fresh : cell ∉ g1.lists (.fifo 0) := base.owned.loose cell (Or.inl mine) _
    obtain ⟨rep, links, frame⟩ := appendCell_eq base.rep fresh alone
    obtain ⟨g2, base', lists', kept'⟩ := base.enqueue rep (fun d => by rw [List.mem_append, List.mem_singleton, or_comm])
      links (fun d outside _ => frame d outside) rfl
    have step : s.eventIn event = { s with
        f := (appendCell s.f m' cell).1
        m := (appendCell s.f m' cell).2
        accepted := s.accepted ++ [s.m.userOf event] } := by
      rw [FifoState.eventIn, sndSeqFifoEventIn, call]
      rfl
    rw [step]
    refine ⟨g2, base', inv.consistent, ?_⟩
    show s.accepted ++ _ = s.returned ++ s.reader.out ++
      List.map (fun c => (appendCell s.f m' cell).2.userOf ((appendCell s.f m' cell).2.event c)) _
    have old : (s.reader.hand ++ g.lists (.fifo 0)).map
          (fun c => (appendCell s.f m' cell).2.userOf ((appendCell s.f m' cell).2.event c)) =
        s.userEvents (s.reader.hand ++ g.lists (.fifo 0)) := by
      apply List.map_congr_left
      intro c inside
      obtain ⟨held, same⟩ := kept c (inv.base.events_held inside)
      rw [kept' c held, same]
    rw [lists', lists, ← List.append_assoc, List.map_append, old, List.map_singleton, kept' cell (Or.inl mine), new,
      inv.account]
    simp only [List.append_assoc]
  · have ne : err ≠ 0 := by
      rintro rfl
      exact absurd failed (Int.lt_irrefl _)
    refine ⟨g', ?_⟩
    have events : s.userEvents (s.reader.hand ++ g.lists (.fifo 0)) =
        (s.reader.hand ++ g'.lists (.fifo 0)).map fun c => m'.userOf (m'.event c) := by
      rw [lists]
      apply List.map_congr_left
      intro c inside
      exact (kept c (inv.base.events_held inside)).2.symm
    have account := inv.account
    rw [events] at account
    rw [FifoState.eventIn, sndSeqFifoEventIn, call]
    dsimp only
    rw [if_neg ne]
    split
    · exact ⟨⟨base.owned, base.spare, base.hand, base.head, ⟨base.rep.chain, base.rep.tail, base.rep.count⟩, base.chained⟩,
        inv.consistent, account⟩
    · exact ⟨base, inv.consistent, account⟩

theorem read (inv : FifoInv s g) (idle : s.reader = .outside) (count : Nat) (nonblock : Bool) :
    ∃ g', FifoInv (s.read count nonblock) g' := by
  have base := inv.base
  rw [idle] at base
  rw [FifoState.read]
  split
  · have cleared : FifoBase { s.f with overflow := 0 } s.m g [] :=
      ⟨base.owned, base.spare, base.hand, base.head, ⟨base.rep.chain, base.rep.tail, base.rep.count⟩, base.chained⟩
    have enough : (g.lists (.fifo 0)).length ≤ (s.m.pool s.f.pool).totalElements := by
      apply base.owned.length_le base.rep.chain.nodup
      · intro c inside
        exact Or.inl ⟨_, inside⟩
      · intro c inside
        exact base.owned.tracked c (Or.inl ⟨_, inside⟩)
    obtain ⟨g', drained, empty⟩ := cleared.drain enough
    refine ⟨g', ?_, ?_, ?_⟩
    · show FifoBase _ _ _ s.reader.hand
      rw [idle]
      exact drained
    · show s.reader.Consistent
      rw [idle]
      trivial
    · show [] = [] ++ s.reader.out ++ List.map _ (s.reader.hand ++ g'.lists (.fifo 0))
      rw [idle, empty]
      rfl
  · refine ⟨g, base, fun some_ => absurd rfl some_, ?_⟩
    have account := inv.account
    rw [idle] at account
    exact account

theorem cellOut (inv : FifoInv s g) {r : Reading} (out : s.reader.out = r.out) (empty : s.reader.hand = [])
    (known : r.out ≠ [] → 0 < r.result) : ∃ g', FifoInv (s.cellOut r) g' := by
  have base := inv.base
  rw [empty] at base
  have account := inv.account
  rw [out, empty, List.nil_append] at account
  have idle (noResult : ¬ 0 < r.result) : r.out = [] := by
    by_contra some_
    exact noResult (known some_)
  rw [FifoState.cellOut]
  split
  · exact ⟨g, inv.finish out empty fun failed => absurd failed (Int.lt_irrefl _)⟩
  · obtain ⟨f', m', g', call, base', lists, -, -, -, events⟩ := base.cellOut
    cases first : g.lists (.fifo 0) with
    | nil =>
      rw [call, first]
      dsimp only [List.head?]
      split
      · refine ⟨g, inv.finish out empty fun _ notAgain => idle fun some_ => notAgain ⟨rfl, some_⟩⟩
      · rename_i blocks
        have nothing := idle fun some_ => blocks (Or.inr some_)
        exact ⟨g, base, nothing, by rw [← List.nil_append (g.lists _)] at account; exact account⟩
    | cons cell rest =>
      rw [first] at lists base' events account
      rw [call, first]
      refine ⟨g', base', known, ?_⟩
      show s.accepted = s.returned ++ r.out ++ List.map (fun c => m'.userOf (m'.event c)) (cell :: g'.lists (.fifo 0))
      rw [lists, List.tail_cons, events]
      exact account

theorem copyLen_chained {r : Reading} {ev : SndSeqEvent} (chained : ev.isVariable → ∃ len ptr, ev.data.ext = .chained len ptr) :
    (r.Fits ev → ∃ len, FifoState.copyLen r ev = .ok len ∧ 0 < len) ∧
      (¬ r.Fits ev → FifoState.copyLen r ev = .error (-EAGAIN)) := by
  rw [FifoState.copyLen]
  split
  · rename_i variable_
    obtain ⟨len, ptr, ext⟩ := chained variable_
    rw [sndSeqExpandVarEvent, if_neg (not_not.mpr variable_)]
    constructor
    · intro fits
      rw [if_neg (Nat.not_lt.mpr (fits variable_)), ext]
      exact ⟨_, rfl, by simp [SIZEOF_SND_SEQ_EVENT]⟩
    · intro notFits
      have small : r.count - SIZEOF_SND_SEQ_EVENT < roundup ev.data.ext.len SIZEOF_SND_SEQ_EVENT := by
        by_contra large
        exact notFits fun _ => Nat.not_lt.mp large
      rw [if_pos small]
      rfl
  · rename_i fixed
    constructor
    · intro _
      exact ⟨_, rfl, by decide⟩
    · intro notFits
      exact absurd (fun variable_ => absurd variable_ fixed) notFits

theorem copy_fits (inv : FifoInv s g) {r : Reading} {cell : SeqCell} (reader : s.reader = .holding r cell)
    (fits : r.Fits (s.m.event cell)) : ∃ g', FifoInv (s.copy r cell) g' := by
  have base := inv.base
  have account := inv.account
  rw [reader] at base account
  have mine : cell ∈ g.hand := base.hand ▸ List.mem_cons_self ..
  obtain ⟨len, ok, positive⟩ := (copyLen_chained (base.chained cell (Or.inl mine))).1 fits
  obtain ⟨g', base', lists, events⟩ := base.cellFree
  rw [FifoState.copy, ok]
  refine ⟨g', base', fun _ => Nat.lt_of_lt_of_le positive (Nat.le_add_left ..), ?_⟩
  show s.accepted = s.returned ++ (r.out ++ [_]) ++
    List.map (fun c => (s.m.sndSeqCellFree cell).userOf ((s.m.sndSeqCellFree cell).event c)) (g'.lists (.fifo 0))
  rw [lists, events, account]
  simp [Reader.out, Reader.hand, FifoState.userEvents]

theorem copy_large (inv : FifoInv s g) {r : Reading} {cell : SeqCell} (reader : s.reader = .holding r cell)
    (large : ¬ r.Fits (s.m.event cell)) :
    s.copy r cell = ({ s with
      f := (sndSeqFifoCellPutback s.f s.m cell).1
      m := (sndSeqFifoCellPutback s.f s.m cell).2 } : FifoState).finish r (-EAGAIN) := by
  have base := inv.base
  rw [reader] at base
  have mine : cell ∈ g.hand := base.hand ▸ List.mem_cons_self ..
  rw [FifoState.copy, (copyLen_chained (base.chained cell (Or.inl mine))).2 large]

theorem copy_putback (inv : FifoInv s g) {r : Reading} {cell : SeqCell} (reader : s.reader = .holding r cell)
    (large : ¬ r.Fits (s.m.event cell)) (some_ : s.f.head ≠ none) : ∃ g', FifoInv (s.copy r cell) g' := by
  rw [inv.copy_large reader large]
  have base := inv.base
  have account := inv.account
  have known := inv.consistent
  rw [reader] at base account known
  have mine : cell ∈ g.hand := base.hand ▸ List.mem_cons_self ..
  have fresh := base.owned.loose cell (Or.inl mine) (.fifo 0)
  have rep := putback_rep base.rep fresh some_
  obtain ⟨g', base', lists, kept⟩ := base.enqueue rep (fun d => List.mem_cons) rfl
    (fun d _ other => update_of_ne other ..) rfl
  refine ⟨g', ?_⟩
  have events : (cell :: g.lists (.fifo 0)).map (fun c => (sndSeqFifoCellPutback s.f s.m cell).2.userOf
      ((sndSeqFifoCellPutback s.f s.m cell).2.event c)) = s.userEvents (cell :: g.lists (.fifo 0)) := by
    apply List.map_congr_left
    intro c inside
    exact kept c (base.events_held inside)
  have looping : FifoInv ({ s with
      f := (sndSeqFifoCellPutback s.f s.m cell).1
      m := (sndSeqFifoCellPutback s.f s.m cell).2
      reader := .loop r } : FifoState) g' := by
    refine ⟨base', known, ?_⟩
    show s.accepted = s.returned ++ r.out ++ List.map (fun c => (sndSeqFifoCellPutback s.f s.m cell).2.userOf
      ((sndSeqFifoCellPutback s.f s.m cell).2.event c)) ([] ++ g'.lists (.fifo 0))
    rw [lists, List.nil_append, events]
    exact account
  apply looping.finish rfl rfl
  intro _ notAgain
  by_contra some_
  exact notAgain ⟨rfl, known some_⟩

theorem copy_alone (inv : FifoInv s g) {r : Reading} {cell : SeqCell} (reader : s.reader = .holding r cell)
    (large : ¬ r.Fits (s.m.event cell)) (none_ : s.f.head = none) : ¬ (s.copy r cell).Good := by
  rw [inv.copy_large reader large]
  rintro ⟨l, chain, -, tail, -⟩
  obtain ⟨alone, noTail⟩ := putback_empty cell inv.base.rep none_
  have same : l = [cell] := chain.unique alone
  rw [same] at tail
  have none' : none = some cell := noTail.symm.trans tail
  cases none'

theorem others (inv : FifoInv s g) {m' : SeqMemory} (calls : s.Calls (.others m')) : FifoInv { s with m := m' } g := by
  obtain ⟨cells, pool⟩ := calls
  have owned := inv.base.owned
  have mine (c : SeqCell) (known : g.Known c) : c.pool = s.f.pool := owned.tracked c known
  have event (c : SeqCell) (held : g.Held c) : m'.event c = s.m.event c := (cells c (mine c (known_of_held held))).2.1
  have owned' : Owned _ m' g := owned.frame (fun c known => (cells c (mine c known)).1) event
    (fun id tracked => by rw [tracked, pool])
  refine ⟨⟨owned', inv.base.spare, inv.base.hand, inv.base.head, ⟨?_, inv.base.rep.tail, inv.base.rep.count⟩, ?_⟩,
    inv.consistent, ?_⟩
  · apply inv.base.rep.chain.frame
    intro c inside
    exact (cells c (mine c (Or.inl ⟨_, inside⟩))).1
  · intro c held variable_
    rw [show ({ s with m := m' } : FifoState).m.event c = s.m.event c from event c held] at variable_ ⊢
    exact inv.base.chained c held variable_
  · show s.accepted = _ ++ _ ++ List.map (fun c => m'.userOf (m'.event c)) _
    rw [inv.base.userOf_congr (fun c inside => inv.base.events_held inside)
      (fun c inside => event c (inv.base.events_held inside))]
    · exact inv.account
    · intro c _ d behind
      have known := mine d (Or.inl ⟨_, behind⟩)
      exact ⟨(cells d known).1, (cells d known).2.2⟩

theorem exec (inv : FifoInv s g) {op : FifoOp} (calls : s.Calls op) (condition : s.NotPutBackAlone op) :
    ∃ g', FifoInv (s.exec op) g' := by
  cases op with
  | eventIn event => exact inv.eventIn calls
  | others m' => exact ⟨g, inv.others calls⟩
  | read count nonblock =>
    cases reader : s.reader with
    | outside =>
      rw [FifoState.exec, reader]
      exact inv.read reader count nonblock
    | loop r | asleep r | holding r cell =>
      rw [FifoState.exec, reader]
      exact ⟨g, inv⟩
  | cellOut =>
    have known := inv.consistent
    cases reader : s.reader with
    | loop r =>
      rw [reader] at known
      rw [FifoState.exec, reader]
      apply inv.cellOut _ _ known <;> rw [reader] <;> rfl
    | asleep r =>
      rw [reader] at known
      rw [FifoState.exec, reader]
      apply inv.cellOut _ _ (fun some_ => absurd known some_) <;> rw [reader] <;> rfl
    | outside | holding r cell =>
      rw [FifoState.exec, reader]
      exact ⟨g, inv⟩
  | copy =>
    cases reader : s.reader with
    | holding r cell =>
      rw [FifoState.exec, reader]
      by_cases fits : r.Fits (s.m.event cell)
      · exact inv.copy_fits reader fits
      · exact inv.copy_putback reader fits ((condition r cell reader).resolve_left fits)
    | outside | loop r | asleep r =>
      rw [FifoState.exec, reader]
      exact ⟨g, inv⟩
  | signal =>
    have known := inv.consistent
    cases reader : s.reader with
    | asleep r =>
      rw [reader] at known
      rw [FifoState.exec, reader]
      refine ⟨g, inv.finish ?_ ?_ fun _ _ => known⟩ <;> rw [reader] <;> rfl
    | outside | loop r | holding r cell =>
      rw [FifoState.exec, reader]
      exact ⟨g, inv⟩

theorem good_exec_iff (inv : FifoInv s g) {op : FifoOp} (calls : s.Calls op) :
    (s.exec op).Good ↔ s.NotPutBackAlone op := by
  constructor
  · intro good
    cases op with
    | copy =>
      intro r cell reader
      by_contra missing
      obtain ⟨large, none_⟩ := not_or.mp missing
      rw [FifoState.exec, reader] at good
      exact inv.copy_alone reader large (not_not.mp none_) good
    | eventIn | read | cellOut | signal | others => trivial
  · intro condition
    obtain ⟨g', after⟩ := inv.exec calls condition
    exact after.good

end FifoInv

theorem fifoInv_new (m : SeqMemory) (pool size : Nat) : ∃ g, FifoInv (FifoState.new m pool size) g := by
  obtain ⟨h, owned⟩ := (owned_empty m).poolInit pool (fun none_ => none_) size
  refine ⟨Ledger.empty.move (.free pool) h (newCells pool size) [] [],
    ⟨?_, rfl, rfl, rfl, ⟨rfl, rfl, rfl⟩, ?_⟩, trivial, rfl⟩
  · have only : (fun x => False ∨ x = pool) = fun x => x = pool := funext fun _ => propext (or_iff_right id)
    rw [only] at owned
    exact owned
  · rintro c (taken | ⟨p, holds, inside⟩)
    · exact absurd taken List.not_mem_nil
    · rcases Ledger.mem_move.mp inside with ⟨same, -⟩ | ⟨-, there⟩
      · rw [same] at holds
        exact absurd holds id
      · exact absurd there List.not_mem_nil

/-- The FIFO loses nothing as long as no event is put back alone. -/
theorem fifo_loses_nothing (m : SeqMemory) (pool size : Nat) (ops : List FifoOp)
    (calls : Throughout FifoState.exec (fun s op _ => s.Calls op) (.new m pool size) ops) :
    Throughout FifoState.exec (fun _ _ s' => s'.Good) (.new m pool size) ops ↔
      Throughout FifoState.exec (fun s op _ => s.NotPutBackAlone op) (.new m pool size) ops := by
  apply throughout_iff (fun s => ∃ g, FifoInv s g) _ _ _ _ (fifoInv_new m pool size) calls
  · rintro s op ⟨g, inv⟩ promised
    exact inv.good_exec_iff promised
  · rintro s op ⟨g, inv⟩ promised condition
    exact inv.exec promised condition

def longEvent : SndSeqEvent :=
  { blankEvent with
    type := SNDRV_SEQ_EVENT_SYSEX
    flags := SNDRV_SEQ_EVENT_LENGTH_VARIABLE
    data := { blankEvent.data with ext := .kernel 10 (List.replicate 10 7) } }

def shortEvent : SndSeqEvent := { blankEvent with type := SNDRV_SEQ_EVENT_NOTEON }

theorem calls_short (s : FifoState) : s.Calls (.eventIn shortEvent) := fun variable_ => absurd variable_ (by decide)

theorem calls_long (s : FifoState) : s.Calls (.eventIn longEvent) :=
  fun _ => ⟨[], ⟨rfl, Nat.le_refl 10⟩, fun _ inside => absurd inside List.not_mem_nil⟩

/-- A short event that is read, and a long one that is put back before another event. -/
theorem fifo_loses_nothing_short :
    Throughout FifoState.exec (fun _ _ s' => s'.Good) (.new emptyMemory 0 8)
      [.eventIn shortEvent, .eventIn longEvent, .eventIn shortEvent, .read 56 false, .cellOut, .copy, .cellOut, .copy] := by
  refine (fifo_loses_nothing emptyMemory 0 8 _ ?_).mpr ?_
  · exact ⟨calls_short _, calls_long _, calls_short _, trivial, trivial, trivial, trivial, trivial, trivial⟩
  · refine ⟨trivial, trivial, trivial, trivial, trivial, ?_, trivial, ?_, trivial⟩
    · intro r cell reader
      right
      decide
    · intro r cell reader
      right
      decide

/-- The long event is put back alone, and the event after it is lost. -/
theorem fifo_loses_event :
    let ops : List FifoOp := [.eventIn longEvent, .read 28 true, .cellOut, .copy, .eventIn shortEvent, .read 100 true,
      .cellOut, .copy, .cellOut]
    let s : FifoState := .new emptyMemory 0 4
    Throughout FifoState.exec (fun s op _ => s.Calls op) s ops ∧
      ¬ Throughout FifoState.exec (fun _ _ s' => s'.Good) s ops ∧
      (ops.foldl FifoState.exec s).accepted.length = 2 ∧ (ops.foldl FifoState.exec s).returned.length = 1 ∧
      (ops.foldl FifoState.exec s).f.head = none := by
  refine ⟨⟨calls_long _, trivial, trivial, trivial, calls_short _, trivial, trivial, trivial, trivial, trivial⟩, ?_,
    by decide, by decide, by decide⟩
  rintro ⟨-, -, -, ⟨l, chain, count, tail, -⟩, -⟩
  have some_ : l = [⟨0, 3⟩] := chain.unique ⟨by decide, rfl⟩
  rw [some_] at tail
  exact absurd tail (by decide)

end AlsaDriver.Seq
