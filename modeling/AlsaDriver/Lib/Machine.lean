import Mathlib.Order.Basic

namespace Machine

universe u v

inductive Outcome (S : Type u) (R : Type v) where
  | next (s : S)
  | halt (r : R)

variable {S : Type u} {R : Type v}

/-- At most `n` steps from `s`. -/
def runFor (step : S → Outcome S R) : Nat → S → Outcome S R
  | 0, s => .next s
  | n + 1, s =>
    match step s with
    | .next s' => runFor step n s'
    | .halt r => .halt r

@[simp] theorem runFor_zero (step : S → Outcome S R) (s : S) : runFor step 0 s = .next s := rfl

theorem runFor_succ_next {step : S → Outcome S R} {s s' : S} (move : step s = .next s') (n : Nat) :
    runFor step (n + 1) s = runFor step n s' := by
  simp only [runFor, move]

theorem runFor_succ_halt {step : S → Outcome S R} {s : S} {r : R} (stop : step s = .halt r) (n : Nat) :
    runFor step (n + 1) s = .halt r := by
  simp only [runFor, stop]

theorem runFor_add_next {step : S → Outcome S R} {n : Nat} {s s' : S} (before : runFor step n s = .next s') (m : Nat) :
    runFor step (n + m) s = runFor step m s' := by
  induction n generalizing s with
  | zero =>
    obtain rfl : s = s' := Outcome.next.inj before
    rw [Nat.zero_add]
  | succ n ih =>
    rw [Nat.add_right_comm]
    cases move : step s with
    | next t =>
      rw [runFor_succ_next move] at before ⊢
      exact ih before
    | halt r =>
      rw [runFor_succ_halt move] at before
      cases before

theorem runFor_halt_mono {step : S → Outcome S R} {n m : Nat} {s : S} {r : R} (stop : runFor step n s = .halt r)
    (more : n ≤ m) : runFor step m s = .halt r := by
  induction m generalizing n s with
  | zero => rwa [Nat.le_zero.mp more] at stop
  | succ m ih =>
    cases n with
    | zero => cases stop
    | succ n =>
      cases move : step s with
      | next t =>
        rw [runFor_succ_next move] at stop ⊢
        exact ih stop (Nat.le_of_succ_le_succ more)
      | halt q =>
        rw [runFor_succ_halt move] at stop ⊢
        exact stop

/-- The invariant rule: a property of the start that every step keeps holds in every state of the
    run, and a result then comes from a step of such a state. -/
theorem runFor_invariant {step : S → Outcome S R} (inv : S → Prop) (final : R → Prop) {s : S} (start : inv s)
    (keeps : ∀ t t', inv t → step t = .next t' → inv t') (ends : ∀ t r, inv t → step t = .halt r → final r)
    (n : Nat) : match runFor step n s with
      | .next t => inv t
      | .halt r => final r := by
  induction n generalizing s with
  | zero => exact start
  | succ n ih =>
    cases move : step s with
    | next t =>
      rw [runFor_succ_next move]
      exact ih (keeps s t start move)
    | halt r =>
      rw [runFor_succ_halt move]
      exact ends s r start move

theorem runFor_next_invariant {step : S → Outcome S R} (inv : S → Prop) {s t : S} {n : Nat} (start : inv s)
    (keeps : ∀ t t', inv t → step t = .next t' → inv t') (reached : runFor step n s = .next t) : inv t := by
  have whole := runFor_invariant inv (fun _ => True) start keeps (fun _ _ _ _ => trivial) n
  rwa [reached] at whole

theorem runFor_halts_within (rank : S → Nat) {step : S → Outcome S R} (s : S)
    (descends : ∀ n t t', runFor step n s = .next t → step t = .next t' → rank t' < rank t) :
    ∃ r, runFor step (rank s + 1) s = .halt r := by
  generalize value : rank s = a
  induction a using Nat.strongRecOn generalizing s with
  | ind a ih =>
    cases move : step s with
    | next t =>
      have lower : rank t < a := value ▸ descends 0 s t rfl move
      obtain ⟨r, stop⟩ := ih (rank t) lower t (fun n u u' reached onward =>
        descends (n + 1) u u' (by rw [runFor_succ_next move, reached]) onward) rfl
      exact ⟨r, by rw [runFor_succ_next move, runFor_halt_mono stop lower]⟩
    | halt r => exact ⟨r, runFor_succ_halt move a⟩

end Machine
