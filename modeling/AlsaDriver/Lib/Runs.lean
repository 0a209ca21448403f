import Mathlib.Logic.Basic

namespace Runs

universe u v

variable {S : Type u} {L : Type v}

/-- Every step of the run that takes the labels `ls` in turn satisfies `P`. -/
def Throughout (exec : S → L → S) (P : S → L → S → Prop) : S → List L → Prop
  | _, [] => True
  | s, l :: rest => P s l (exec s l) ∧ Throughout exec P (exec s l) rest

variable {exec : S → L → S}

instance instDecidableThroughout {P : S → L → S → Prop} [decided : ∀ s l s', Decidable (P s l s')] :
    (s : S) → (ls : List L) → Decidable (Throughout exec P s ls)
  | _, [] => .isTrue trivial
  | s, l :: rest => @instDecidableAnd _ _ (decided s l (exec s l)) (instDecidableThroughout (exec s l) rest)

theorem Throughout.mono {P Q : S → L → S → Prop} {s : S} {ls : List L} (run : Throughout exec P s ls)
    (weaker : ∀ s l s', P s l s' → Q s l s') : Throughout exec Q s ls := by
  induction ls generalizing s with
  | nil => trivial
  | cons l rest ih => exact ⟨weaker _ _ _ run.1, ih run.2⟩

theorem Throughout.and {P Q : S → L → S → Prop} {s : S} {ls : List L} (left : Throughout exec P s ls)
    (right : Throughout exec Q s ls) : Throughout exec (fun s l s' => P s l s' ∧ Q s l s') s ls := by
  induction ls generalizing s with
  | nil => trivial
  | cons l rest ih => exact ⟨⟨left.1, right.1⟩, ih left.2 right.2⟩

theorem Throughout.of_mem {P : S → L → S → Prop} {s : S} {ls : List L} (all : ∀ l ∈ ls, ∀ s, P s l (exec s l)) :
    Throughout exec P s ls := by
  induction ls generalizing s with
  | nil => trivial
  | cons l rest ih =>
    exact ⟨all l (List.mem_cons_self ..) s, ih fun l inside => all l (List.mem_cons_of_mem _ inside)⟩

theorem throughout_labels {C : L → Prop} {s : S} {ls : List L} :
    Throughout exec (fun _ l _ => C l) s ls ↔ ∀ l ∈ ls, C l := by
  induction ls generalizing s with
  | nil => exact iff_of_true trivial fun l none => absurd none List.not_mem_nil
  | cons l rest ih => exact (and_congr_right fun _ => ih).trans List.forall_mem_cons.symm

theorem throughout_append {P : S → L → S → Prop} {s : S} {before after : List L} :
    Throughout exec P s (before ++ after) ↔
      Throughout exec P s before ∧ Throughout exec P (before.foldl exec s) after := by
  induction before generalizing s with
  | nil => simp [Throughout]
  | cons l rest ih => exact (and_congr_right fun _ => ih).trans and_assoc.symm

theorem Throughout.invariant {P : S → L → S → Prop} (inv : S → Prop) {s : S} {ls : List L} (start : inv s)
    (run : Throughout exec P s ls) (keeps : ∀ s l, inv s → P s l (exec s l) → inv (exec s l)) :
    Throughout exec (fun s l s' => P s l s' ∧ inv s ∧ inv s') s ls := by
  induction ls generalizing s with
  | nil => trivial
  | cons l rest ih =>
    have next := keeps s l start run.1
    exact ⟨⟨run.1, start, next⟩, ih next run.2⟩

theorem Throughout.steps {P Q : S → L → S → Prop} (inv : S → Prop) {s : S} {ls : List L} (start : inv s)
    (run : Throughout exec P s ls)
    (step : ∀ s l, inv s → P s l (exec s l) → Q s l (exec s l) ∧ inv (exec s l)) : Throughout exec Q s ls := by
  induction ls generalizing s with
  | nil => trivial
  | cons l rest ih =>
    obtain ⟨now, next⟩ := step s l start run.1
    exact ⟨now, ih next run.2⟩

/-- The first step that breaks `Q` is the first one that misses the condition `C`: where the
    condition decides `Q` under the invariant and keeps the invariant, whole runs agree. -/
theorem throughout_iff {P : S → L → S → Prop} (inv : S → Prop) (Q : S → L → S → Prop) (C : S → L → Prop)
    (decides : ∀ s l, inv s → P s l (exec s l) → (Q s l (exec s l) ↔ C s l))
    (keeps : ∀ s l, inv s → P s l (exec s l) → C s l → inv (exec s l)) {s : S} {ls : List L} (start : inv s)
    (run : Throughout exec P s ls) :
    Throughout exec Q s ls ↔ Throughout exec (fun s l _ => C s l) s ls := by
  induction ls generalizing s with
  | nil => exact Iff.rfl
  | cons l rest ih =>
    have first := decides s l start run.1
    constructor
    · rintro ⟨holds, later⟩
      have condition := first.mp holds
      exact ⟨condition, (ih (keeps s l start run.1 condition) run.2).mp later⟩
    · rintro ⟨condition, later⟩
      exact ⟨first.mpr condition, (ih (keeps s l start run.1 condition) run.2).mpr later⟩

end Runs
