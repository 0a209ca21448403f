import Mathlib.Logic.Function.Basic
import AlsaDriver.Lib.Machine

/-!
Rules that narrow a space, called in turn until none of them has anything new to look at. A rule is called again
only when a variable it depends on was written after its last call.
-/

namespace RuleLoop

open Machine

universe u v

structure Rule (V : Type u) (S : Type v) where
  var : V
  deps : List V
  call : S → Int × S

structure LoopState (V : Type u) (S : Type v) where
  space : S
  rstamps : Nat → Nat
  vstamps : V → Nat
  stamp : Nat
  again : Bool
  k : Nat

variable {V : Type u} {S : Type v}

def loopStart (requested : V → Bool) (space : S) : LoopState V S where
  space := space
  rstamps := fun _ => 0
  vstamps := fun v => if requested v then 1 else 0
  stamp := 2
  again := false
  k := 0

def LoopState.fires (s : LoopState V S) (r : Rule V S) : Bool := r.deps.any fun d => s.vstamps d > s.rstamps s.k

/-- Nothing rule `j` depends on was written after its last call. -/
def Fresh (rules : List (Rule V S)) (s : LoopState V S) (j : Nat) : Prop :=
  ∀ r, rules[j]? = some r → ∀ d ∈ r.deps, s.vstamps d ≤ s.rstamps j

theorem LoopState.fresh_of_idle {rules : List (Rule V S)} {s : LoopState V S} {r : Rule V S}
    (current : rules[s.k]? = some r) (idle : s.fires r = false) : Fresh rules s s.k := by
  intro r' same d listed
  obtain rfl := Option.some.inj (current.symm.trans same)
  have calm := List.any_eq_false.mp idle d listed
  simpa using calm

variable [DecidableEq V]

/-- After rule `r` was called and did not fail. -/
def LoopState.called (s : LoopState V S) (r : Rule V S) (changed : Int) (space : S) : LoopState V S :=
  { space := space
    rstamps := Function.update s.rstamps s.k s.stamp
    vstamps := if changed != 0 then Function.update s.vstamps r.var s.stamp else s.vstamps
    stamp := s.stamp + 1
    again := changed != 0 || s.again
    k := s.k + 1 }

def loopStep (rules : List (Rule V S)) (s : LoopState V S) : Outcome (LoopState V S) (Int × S) :=
  match rules[s.k]? with
  | none => if s.again then .next { s with again := false, k := 0 } else .halt (0, s.space)
  | some r =>
    if s.fires r then
      let (changed, space) := r.call s.space
      if changed < 0 then .halt (changed, space) else .next (s.called r changed space)
    else .next { s with k := s.k + 1 }

theorem loopStep_next {rules : List (Rule V S)} {s s' : LoopState V S} (move : loopStep rules s = .next s') :
    (s' = { s with again := false, k := 0 }) ∨
    (∃ r, rules[s.k]? = some r ∧ s.fires r = false ∧ s' = { s with k := s.k + 1 }) ∨
    (∃ r, rules[s.k]? = some r ∧ 0 ≤ (r.call s.space).1 ∧ s' = s.called r (r.call s.space).1 (r.call s.space).2) := by
  unfold loopStep at move
  split at move
  · split at move
    · exact Or.inl (Outcome.next.inj move).symm
    · cases move
  · rename_i r current
    split at move
    · dsimp only at move
      split at move
      · cases move
      · rename_i success
        exact Or.inr (Or.inr ⟨r, current, Int.not_lt.mp success, (Outcome.next.inj move).symm⟩)
    · rename_i idle
      exact Or.inr (Or.inl ⟨r, current, by simpa using idle, (Outcome.next.inj move).symm⟩)

theorem loopStep_halt {rules : List (Rule V S)} {s : LoopState V S} {result : Int × S}
    (stop : loopStep rules s = .halt result) (success : 0 ≤ result.1) :
    rules[s.k]? = none ∧ s.again = false ∧ result = (0, s.space) := by
  unfold loopStep at stop
  split at stop
  · rename_i done
    split at stop
    · cases stop
    · rename_i quiet
      exact ⟨done, by simpa using quiet, (Outcome.halt.inj stop).symm⟩
  · split at stop
    · dsimp only at stop
      split at stop
      · rename_i failure
        cases stop
        exact absurd success (Int.not_le.mpr failure)
      · cases stop
    · cases stop

section Settled

variable {rules : List (Rule V S)} {inv holds : S → Prop} {watch : Nat → Prop}

/-- What each rule does about `holds`: a watched rule establishes it, and another one keeps it unless it writes a
    variable that a watched rule depends on. -/
structure Settles (rules : List (Rule V S)) (inv holds : S → Prop) (watch : Nat → Prop) : Prop where
  keeps : ∀ (k : Nat) (r : Rule V S), rules[k]? = some r → ∀ space, inv space → 0 ≤ (r.call space).1 → inv (r.call space).2
  establishes : ∀ (k : Nat) (r : Rule V S), rules[k]? = some r → watch k → ∀ space, inv space → 0 ≤ (r.call space).1 → holds (r.call space).2
  follows : ∀ (k : Nat) (r : Rule V S), rules[k]? = some r → ¬ watch k → ∀ space, inv space → holds space → 0 ≤ (r.call space).1 →
    holds (r.call space).2 ∨ (r.call space).1 ≠ 0 ∧ ∃ (j : Nat) (w : Rule V S), watch j ∧ rules[j]? = some w ∧ r.var ∈ w.deps

/-- The invariant of the loop: `holds` can only fail while a watched rule is to be called again. -/
structure Settling (rules : List (Rule V S)) (inv holds : S → Prop) (watch : Nat → Prop) (s : LoopState V S) : Prop where
  inv : inv s.space
  vars : ∀ v, s.vstamps v < s.stamp
  calls : ∀ j, s.rstamps j < s.stamp
  holds : (∀ j, watch j → Fresh rules s j) → holds s.space
  passed : s.again = false → ∀ j < s.k, Fresh rules s j

omit [DecidableEq V] in
theorem Settling.move {s : LoopState V S} (settling : Settling rules inv holds watch s) (again : Bool) (k : Nat)
    (passed : again = false → ∀ j < k, Fresh rules s j) :
    Settling rules inv holds watch { s with again := again, k := k } :=
  ⟨settling.inv, settling.vars, settling.calls, settling.holds, passed⟩

theorem LoopState.called_vars {s : LoopState V S} (vars : ∀ v, s.vstamps v < s.stamp) (r : Rule V S) (changed : Int)
    (space : S) (v : V) : s.vstamps v ≤ (s.called r changed space).vstamps v ∧
      (s.called r changed space).vstamps v ≤ s.stamp := by
  have before := vars v
  unfold LoopState.called
  dsimp only
  split
  · by_cases same : v = r.var
    · subst same
      rw [Function.update_self]
      omega
    · rw [Function.update_of_ne same]
      omega
  · omega

theorem Settling.fresh_before {s : LoopState V S} (settling : Settling rules inv holds watch s) {r : Rule V S}
    {changed : Int} {space : S} {j : Nat} (other : j ≠ s.k) (fresh : Fresh rules (s.called r changed space) j) :
    Fresh rules s j := by
  intro w listed d dep
  have after := fresh w listed d dep
  have same : (s.called r changed space).rstamps j = s.rstamps j := Function.update_of_ne other ..
  rw [same] at after
  exact Nat.le_trans (LoopState.called_vars settling.vars r changed space d).1 after

theorem Settling.called {s : LoopState V S} (rule : Settles rules inv holds watch)
    (settling : Settling rules inv holds watch s) {r : Rule V S} (current : rules[s.k]? = some r)
    (success : 0 ≤ (r.call s.space).1) :
    Settling rules inv holds watch (s.called r (r.call s.space).1 (r.call s.space).2) := by
  have keeps := rule.keeps s.k r current s.space settling.inv success
  have vars := LoopState.called_vars settling.vars r (r.call s.space).1 (r.call s.space).2
  refine ⟨keeps, fun v => Nat.lt_succ_of_le (vars v).2, fun j => ?_, fun fresh => ?_, fun quiet j before => ?_⟩
  · show Function.update s.rstamps s.k s.stamp j < s.stamp + 1
    have earlier := settling.calls j
    by_cases same : j = s.k
    · rw [same, Function.update_self]
      omega
    · rw [Function.update_of_ne same]
      omega
  · by_cases watched : watch s.k
    · exact rule.establishes s.k r current watched s.space settling.inv success
    · have others {j : Nat} (watched' : watch j) : j ≠ s.k := fun same => watched (same ▸ watched')
      have before := settling.holds fun j watched' => settling.fresh_before (others watched') (fresh j watched')
      obtain kept | ⟨written, j, w, watched', listed, dep⟩ :=
        rule.follows s.k r current watched s.space settling.inv before success
      · exact kept
      · -- the watched rule `j` would have to be called again
        have stale := fresh j watched' w listed r.var dep
        have stamped : (s.called r (r.call s.space).1 (r.call s.space).2).vstamps r.var = s.stamp := by
          unfold LoopState.called
          dsimp only
          rw [if_pos (bne_iff_ne.mpr written), Function.update_self]
        have kept : (s.called r (r.call s.space).1 (r.call s.space).2).rstamps j = s.rstamps j :=
          Function.update_of_ne (others watched') ..
        rw [stamped, kept] at stale
        exact absurd (settling.calls j) (Nat.not_lt.mpr stale)
  · have still : (r.call s.space).1 = 0 ∧ s.again = false := by
      simpa [LoopState.called] using quiet
    have same : (s.called r (r.call s.space).1 (r.call s.space).2).vstamps = s.vstamps := by
      unfold LoopState.called
      dsimp only
      rw [if_neg (by simp [still.1])]
    intro w listed d dep
    rw [same]
    show _ ≤ Function.update s.rstamps s.k s.stamp j
    by_cases here : j = s.k
    · rw [here, Function.update_self]
      exact Nat.le_of_lt (settling.vars d)
    · rw [Function.update_of_ne here]
      exact settling.passed still.2 j (Nat.lt_of_le_of_ne (Nat.lt_succ_iff.mp before) here) w listed d dep

theorem Settling.next (rule : Settles rules inv holds watch) (s s' : LoopState V S)
    (settling : Settling rules inv holds watch s) (move : loopStep rules s = .next s') :
    Settling rules inv holds watch s' := by
  obtain rfl | ⟨r, current, idle, rfl⟩ | ⟨r, current, success, rfl⟩ := loopStep_next move
  · exact settling.move false 0 fun _ _ before => absurd before (Nat.not_lt_zero _)
  · refine settling.move s.again (s.k + 1) fun quiet j before => ?_
    obtain earlier | rfl := Nat.lt_succ_iff_lt_or_eq.mp before
    · exact settling.passed quiet j earlier
    · exact LoopState.fresh_of_idle current idle
  · exact settling.called rule current success

theorem loop_settles (rule : Settles rules inv holds watch) {requested : V → Bool} {space t : S} (start : inv space)
    {j : Nat} {w : Rule V S} {d : V} (watched : watch j) (listed : rules[j]? = some w) (dep : d ∈ w.deps)
    (asked : requested d = true) {n : Nat}
    (ends : runFor (loopStep rules) n (loopStart requested space) = .halt (0, t)) : inv t ∧ holds t := by
  have initially : Settling rules inv holds watch (loopStart requested space) := by
    refine ⟨start, fun v => ?_, fun _ => Nat.zero_lt_two, fun fresh => ?_, fun _ _ before => absurd before (Nat.not_lt_zero _)⟩
    · show (if requested v then 1 else 0) < 2
      split <;> omega
    · have stale : (if requested d then 1 else 0) ≤ 0 := fresh j watched w listed d dep
      rw [if_pos asked] at stale
      omega
  have run := runFor_invariant (Settling rules inv holds watch) (fun result => 0 ≤ result.1 → inv result.2 ∧ holds result.2)
    initially (Settling.next rule) (fun s result settling stop success => ?_) n
  · rw [ends] at run
    exact run (Int.le_refl 0)
  · obtain ⟨done, quiet, rfl⟩ := loopStep_halt stop success
    refine ⟨settling.inv, settling.holds fun j _ => ?_⟩
    by_cases before : j < s.k
    · exact settling.passed quiet j before
    · intro r listed
      have beyond : rules[j]? = none := List.getElem?_eq_none_iff.mpr
        (Nat.le_trans (List.getElem?_eq_none_iff.mp done) (Nat.not_lt.mp before))
      rw [beyond] at listed
      cases listed

end Settled

theorem loop_still {rules : List (Rule V S)} {space : S} (still : ∀ r ∈ rules, r.call space = (0, space))
    (requested : V → Bool) : ∃ n, runFor (loopStep rules) n (loopStart requested space) = .halt (0, space) := by
  have turns (left : Nat) (s : LoopState V S) (same : s.space = space) (quiet : s.again = false)
      (rest : rules.length - s.k = left) : ∃ n, runFor (loopStep rules) n s = .halt (0, space) := by
    induction left generalizing s with
    | zero =>
      have done : rules[s.k]? = none := List.getElem?_eq_none_iff.mpr (by omega)
      refine ⟨1, runFor_succ_halt ?_ 0⟩
      unfold loopStep
      rw [done]
      dsimp only
      rw [if_neg (by simp [quiet]), same]
    | succ left ih =>
      have inside : s.k < rules.length := by omega
      have current : rules[s.k]? = some rules[s.k] := List.getElem?_eq_getElem inside
      by_cases fires : s.fires rules[s.k] = true
      · have call : rules[s.k].call s.space = (0, s.space) := by
          rw [same]
          exact still _ (List.getElem_mem inside)
        have move : loopStep rules s = .next (s.called rules[s.k] 0 s.space) := by
          simp only [loopStep, current, fires, if_true, call]
          rfl
        obtain ⟨n, ends⟩ := ih (s.called rules[s.k] 0 s.space) same (by simpa [LoopState.called] using quiet) (by
          show rules.length - (s.k + 1) = left
          omega)
        exact ⟨n + 1, by rw [runFor_succ_next move, ends]⟩
      · have move : loopStep rules s = .next { s with k := s.k + 1 } := by
          unfold loopStep
          rw [current]
          dsimp only
          rw [if_neg fires]
        obtain ⟨n, ends⟩ := ih { s with k := s.k + 1 } same quiet (by
          show rules.length - (s.k + 1) = left
          omega)
        exact ⟨n + 1, by rw [runFor_succ_next move, ends]⟩
  exact turns _ (loopStart requested space) rfl rfl rfl

end RuleLoop
