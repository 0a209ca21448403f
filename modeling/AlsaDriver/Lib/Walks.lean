import Mathlib.Data.Fintype.Card
import Mathlib.Data.Set.Finite.Lattice
import Mathlib.Logic.Function.Basic
import Mathlib.Logic.Relation
import Mathlib.Order.WellFounded

namespace Walks

universe u

open Relation

section

variable {α : Type u} (next : α → Option α)

def Step (a b : α) : Prop := next a = some b

/-- The walk from `a` comes to an end within `n` steps. -/
def stops : Nat → α → Bool
  | 0, _ => false
  | n + 1, a => (next a).elim true fun b => stops n b

variable {next} {a b : α} {n m : Nat}

theorem stops_end (last : next a = none) : stops next (n + 1) a = true := by
  rw [stops, last]
  rfl

theorem stops_step (step : Step next a b) : stops next (n + 1) a = stops next n b := by
  rw [stops, step]
  rfl

theorem stops_succ (stopped : stops next n a = true) : stops next (n + 1) a = true := by
  induction n generalizing a with
  | zero => exact Bool.noConfusion stopped
  | succ n ih =>
    cases step : next a with
    | none => exact stops_end step
    | some b =>
      rw [stops_step step] at stopped ⊢
      exact ih stopped

theorem stops_mono (stopped : stops next n a = true) (more : n ≤ m) : stops next m a = true := by
  induction more with
  | refl => exact stopped
  | step _ ih => exact stops_succ ih

theorem not_stops (cycle : TransGen (Step next) a a) : stops next n a = false := by
  induction n generalizing a with
  | zero => rfl
  | succ n ih =>
    obtain ⟨b, step, back⟩ := TransGen.head'_iff.mp cycle
    rw [stops_step step]
    exact ih (TransGen.tail' back step)

theorem stops_of_acyclic [Finite α] (acyclic : ∀ a, ¬ TransGen (Step next) a a) : ∃ n, ∀ a, stops next n a = true := by
  have trans : IsTrans α fun b a => TransGen (Step next) a b := ⟨fun _ _ _ first second => TransGen.trans second first⟩
  have irrefl : Std.Irrefl fun b a : α => TransGen (Step next) a b := ⟨acyclic⟩
  have founded : WellFounded fun b a : α => TransGen (Step next) a b := Finite.wellFounded_of_trans_of_irrefl _
  have each : ∀ a, ∃ n, stops next n a = true := by
    intro a
    induction a using founded.induction with
    | _ a ih =>
      cases step : next a with
      | none => exact ⟨1, stops_end step⟩
      | some b =>
        obtain ⟨n, stopped⟩ := ih b (TransGen.single step)
        exact ⟨n + 1, (stops_step step).trans stopped⟩
  choose bound stopped using each
  obtain ⟨n, most⟩ := (Set.finite_range bound).bddAbove
  exact ⟨n, fun a => stops_mono (stopped a) (most (Set.mem_range_self a))⟩

end

section

variable {α : Type u} [Fintype α]

def unvisited (visited : α → Bool) : Nat := (Finset.univ.filter fun a => visited a = false).card

variable {visited visited' : α → Bool} {a : α}

theorem unvisited_le : unvisited visited ≤ Fintype.card α := Finset.card_filter_le _ _

theorem unvisited_mono (more : ∀ a, visited a = true → visited' a = true) : unvisited visited' ≤ unvisited visited := by
  apply Finset.card_le_card
  intro a member
  rw [Finset.mem_filter] at member ⊢
  refine ⟨member.1, Bool.eq_false_iff.mpr fun seen => ?_⟩
  exact Bool.false_ne_true (member.2.symm.trans (more a seen))

theorem unvisited_update [DecidableEq α] (fresh : visited a = false) :
    unvisited (Function.update visited a true) < unvisited visited := by
  apply Finset.card_lt_card
  refine ⟨fun b member => ?_, fun all => ?_⟩
  · rw [Finset.mem_filter, Function.update_apply] at member
    rw [Finset.mem_filter]
    split at member
    · exact Bool.noConfusion member.2
    · exact member
  · have member := all (Finset.mem_filter.mpr ⟨Finset.mem_univ a, fresh⟩)
    rw [Finset.mem_filter, Function.update_self] at member
    exact Bool.noConfusion member.2

end

end Walks
