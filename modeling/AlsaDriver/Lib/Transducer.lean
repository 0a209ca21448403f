import Mathlib.Data.List.Basic

namespace Transducer

universe u v w

variable {S : Type u} {A : Type v} {B : Type w} (step : S → A → S × List B)

def run : S → List A → S × List B
  | s, [] => (s, [])
  | s, a :: rest => ((run (step s a).1 rest).1, (step s a).2 ++ (run (step s a).1 rest).2)

def feed (device : S → List A → S × List B) : S → List (List A) → S × List B
  | s, [] => (s, [])
  | s, piece :: rest => ((feed device (device s piece).1 rest).1, (device s piece).2 ++ (feed device (device s piece).1 rest).2)

variable {step}

theorem run_append (s : S) (first second : List A) :
    run step s (first ++ second) =
      ((run step (run step s first).1 second).1, (run step s first).2 ++ (run step (run step s first).1 second).2) := by
  induction first generalizing s with
  | nil => rfl
  | cons a rest ih =>
    rw [List.cons_append, run, run, ih, List.append_assoc]

theorem run_still {s : S} {out : A → B} {word : List A} (copied : ∀ a ∈ word, step s a = (s, [out a])) :
    run step s word = (s, word.map out) := by
  induction word with
  | nil => rfl
  | cons a rest ih =>
    have first := copied a List.mem_cons_self
    rw [run, first, ih fun b inside => copied b (List.mem_cons_of_mem a inside)]
    rfl

end Transducer
