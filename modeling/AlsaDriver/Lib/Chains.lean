import Mathlib.Data.List.Nodup
import Mathlib.Logic.Function.Basic

namespace Chains

open Function

universe u v

variable {C : Type u} {P : Type v} {next : C → Option C}

/-- The links lead from `p` through the cells of the list to the end. -/
def Chain (next : C → Option C) : Option C → List C → Prop
  | p, [] => p = none
  | p, c :: rest => p = some c ∧ Chain next (next c) rest

/-- The links lead from `p` through the cells of the list to `q`. -/
def Seg (next : C → Option C) : Option C → List C → Option C → Prop
  | p, [], q => p = q
  | p, c :: rest, q => p = some c ∧ Seg next (next c) rest q

theorem Chain.frame {next' : C → Option C} {p : Option C} {l : List C} (chain : Chain next p l)
    (agree : ∀ c ∈ l, next' c = next c) : Chain next' p l := by
  induction l generalizing p with
  | nil => exact chain
  | cons c rest ih =>
    refine ⟨chain.1, ?_⟩
    rw [agree c (List.mem_cons_self ..)]
    exact ih chain.2 fun d inside => agree d (List.mem_cons_of_mem _ inside)

theorem Seg.frame {next' : C → Option C} {p q : Option C} {l : List C} (seg : Seg next p l q)
    (agree : ∀ c ∈ l, next' c = next c) : Seg next' p l q := by
  induction l generalizing p with
  | nil => exact seg
  | cons c rest ih =>
    refine ⟨seg.1, ?_⟩
    rw [agree c (List.mem_cons_self ..)]
    exact ih seg.2 fun d inside => agree d (List.mem_cons_of_mem _ inside)

theorem chain_append {p : Option C} {before after : List C} :
    Chain next p (before ++ after) ↔ ∃ q, Seg next p before q ∧ Chain next q after := by
  induction before generalizing p with
  | nil => simp [Seg]
  | cons c rest ih => simp [Chain, Seg, ih, and_assoc]

theorem Chain.unique {p : Option C} {l l' : List C} (chain : Chain next p l) (other : Chain next p l') : l = l' := by
  induction l generalizing p l' with
  | nil =>
    cases l' with
    | nil => rfl
    | cons c rest =>
      rw [show p = none from chain] at other
      cases other.1
  | cons c rest ih =>
    cases l' with
    | nil =>
      rw [show p = none from other] at chain
      cases chain.1
    | cons d rest' =>
      have same : c = d := Option.some.inj (chain.1.symm.trans other.1)
      subst same
      rw [ih chain.2 other.2]

theorem Chain.nodup {p : Option C} {l : List C} (chain : Chain next p l) : l.Nodup := by
  induction l generalizing p with
  | nil => exact List.nodup_nil
  | cons c rest ih =>
    apply List.nodup_cons.mpr
    refine ⟨?_, ih chain.2⟩
    intro again
    -- two ways to the end from the same cell would have different lengths
    rcases List.append_of_mem again with ⟨before, after, split⟩
    have later := chain.2
    rw [split] at later
    rcases chain_append.mp later with ⟨q, -, back⟩
    have same := chain.2.unique back.2
    rw [split] at same
    have lengths := congrArg List.length same
    simp at lengths
    omega

theorem Chain.head_eq {p : Option C} {l : List C} (chain : Chain next p l) : p = l.head? := by
  cases l with
  | nil => exact chain
  | cons c rest => exact chain.1

theorem Chain.none_iff {p : Option C} {l : List C} (chain : Chain next p l) : p = none ↔ l = [] := by
  rw [chain.head_eq, List.head?_eq_none_iff]

theorem Chain.last_next {p : Option C} {before : List C} {last : C} (chain : Chain next p (before ++ [last])) :
    next last = none := by
  rcases chain_append.mp chain with ⟨q, -, -, done⟩
  exact done

def two {A : Type*} (first second : A) : Bool → A := fun b => if b then first else second

theorem update_two_true {A : Type*} (first second a : A) : update (two first second) true a = two a second := by
  funext b
  cases b <;> simp [two]

theorem update_two_false {A : Type*} (first second a : A) : update (two first second) false a = two first a := by
  funext b
  cases b <;> simp [two]

variable [DecidableEq C] [DecidableEq P]

structure Located (next : C → Option C) (head : P → Option C) (lists : P → List C) : Prop where
  chain : ∀ p, Chain next (head p) (lists p)
  apart : ∀ p q c, c ∈ lists p → c ∈ lists q → p = q

def Loose (lists : P → List C) (c : C) : Prop := ∀ p, c ∉ lists p

namespace Located

variable {head : P → Option C} {lists : P → List C} {p : P} {c : C}

omit [DecidableEq P] in
theorem loose_link (located : Located next head lists) (loose : Loose lists c) (link : Option C) :
    Located (update next c link) head lists := by
  refine ⟨fun q => (located.chain q).frame fun d inside => ?_, located.apart⟩
  apply update_of_ne
  intro same
  exact loose q (same ▸ inside)

theorem pop (located : Located next head lists) {rest : List C} (front : lists p = c :: rest) (link : Option C) :
    Located (update next c link) (update head p (next c)) (update lists p rest) ∧ Loose (update lists p rest) c := by
  have chain := located.chain p
  rw [front] at chain
  have fresh := (List.nodup_cons.mp chain.nodup).1
  have only (q : P) (inside : c ∈ lists q) : q = p :=
    located.apart q p c inside (front ▸ List.mem_cons_self ..)
  have subset (q : P) (d : C) (inside : d ∈ update lists p rest q) : d ∈ lists q := by
    by_cases same : q = p
    · subst same
      rw [update_self] at inside
      exact front ▸ List.mem_cons_of_mem _ inside
    · rwa [update_of_ne same] at inside
  have loose : Loose (update lists p rest) c := by
    intro q inside
    have same := only q (subset q c inside)
    subst same
    rw [update_self] at inside
    exact fresh inside
  refine ⟨⟨fun q => ?_, fun q r d left right => located.apart q r d (subset q d left) (subset r d right)⟩, loose⟩
  have there : Chain next (update head p (next c) q) (update lists p rest q) := by
    by_cases same : q = p
    · subst same
      rw [update_self, update_self]
      exact chain.2
    · rw [update_of_ne same, update_of_ne same]
      exact located.chain q
  apply there.frame
  intro d inside
  apply update_of_ne
  rintro rfl
  exact loose q inside

omit [DecidableEq C] in
theorem apart_insert (located : Located next head lists) (loose : Loose lists c) {l : List C}
    (cells : ∀ d, d ∈ l ↔ d = c ∨ d ∈ lists p) (q r : P) (d : C) (left : d ∈ update lists p l q)
    (right : d ∈ update lists p l r) : q = r := by
  have cases' (q : P) (inside : d ∈ update lists p l q) : d ∈ lists q ∨ q = p ∧ d = c := by
    by_cases same : q = p
    · subst same
      rw [update_self] at inside
      rcases (cells d).mp inside with new | old
      · exact Or.inr ⟨rfl, new⟩
      · exact Or.inl old
    · rw [update_of_ne same] at inside
      exact Or.inl inside
  rcases cases' q left with old | ⟨here, new⟩
  · rcases cases' r right with old' | ⟨-, rfl⟩
    · exact located.apart q r d old old'
    · exact absurd old (loose q)
  · rcases cases' r right with old' | ⟨here', -⟩
    · exact absurd (new ▸ old') (loose r)
    · rw [here, here']

theorem push (located : Located next head lists) (loose : Loose lists c) (p : P) :
    Located (update next c (head p)) (update head p (some c)) (update lists p (c :: lists p)) := by
  refine ⟨fun q => ?_, located.apart_insert loose fun d => List.mem_cons⟩
  have kept := located.loose_link loose (head p)
  by_cases same : q = p
  · subst same
    rw [update_self, update_self]
    refine ⟨rfl, ?_⟩
    rw [update_self]
    exact kept.chain q
  · rw [update_of_ne same, update_of_ne same]
    exact kept.chain q

theorem insert (located : Located next head lists) (loose : Loose lists c) {prev : C} {before after : List C}
    (place : lists p = before ++ prev :: after) :
    Located (update (update next c (next prev)) prev (some c)) head
      (update lists p (before ++ prev :: c :: after)) := by
  have other : prev ≠ c := by
    rintro rfl
    exact loose p (by simp [place])
  have kept := located.loose_link loose (next prev)
  refine ⟨fun q => ?_, located.apart_insert loose fun d => ?_⟩
  · by_cases same : q = p
    · subst same
      have chain := kept.chain q
      have nodup := chain.nodup
      rw [place] at chain nodup
      rcases chain_append.mp chain with ⟨m, first, there, rest⟩
      have unseen : ∀ d ∈ before ++ after, d ≠ prev := by
        rintro d inside rfl
        exact (List.nodup_middle.mp nodup).notMem inside
      rw [update_self]
      apply chain_append.mpr
      refine ⟨m, first.frame fun d inside => ?_, there, ?_⟩
      · exact update_of_ne (unseen d (List.mem_append_left _ inside)) _ _
      · rw [update_self]
        refine ⟨rfl, ?_⟩
        rw [update_of_ne other.symm, update_self]
        rw [update_of_ne other] at rest
        exact rest.frame fun d inside => update_of_ne (unseen d (List.mem_append_right _ inside)) _ _
    · rw [update_of_ne same]
      apply (kept.chain q).frame
      intro d inside
      apply update_of_ne
      rintro rfl
      exact same (located.apart q p d inside (by simp [place]))
  · simp only [place, List.mem_append, List.mem_cons]
    constructor
    · rintro (h | h | h | h) <;> simp [h]
    · rintro (h | h | h | h) <;> simp [h]

theorem remove (located : Located next head lists) {prev : C} {before after : List C}
    (place : lists p = before ++ prev :: c :: after) (link : Option C) :
    Located (update (update next prev (next c)) c link) head (update lists p (before ++ prev :: after)) ∧
      Loose (update lists p (before ++ prev :: after)) c := by
  have chain := located.chain p
  have nodup := chain.nodup
  rw [place] at chain nodup
  have subset (q : P) (d : C) (inside : d ∈ update lists p (before ++ prev :: after) q) : d ∈ lists q := by
    by_cases same : q = p
    · subst same
      rw [update_self] at inside
      rw [place]
      simp only [List.mem_append, List.mem_cons] at inside ⊢
      rcases inside with h | h | h <;> simp [h]
    · rwa [update_of_ne same] at inside
  have gone : c ∉ before ++ prev :: after := by
    have split : before ++ prev :: c :: after = (before ++ [prev]) ++ c :: after := by simp
    rw [split] at nodup
    have out := (List.nodup_middle.mp nodup).notMem
    simpa using out
  have loose : Loose (update lists p (before ++ prev :: after)) c := by
    intro q inside
    have same : q = p := located.apart q p c (subset q c inside) (by simp [place])
    subst same
    rw [update_self] at inside
    exact gone inside
  have other : prev ≠ c := by
    rintro rfl
    exact gone (by simp)
  refine ⟨⟨fun q => ?_, fun q r d left right => located.apart q r d (subset q d left) (subset r d right)⟩, loose⟩
  by_cases same : q = p
  · subst same
    rw [update_self]
    rcases chain_append.mp chain with ⟨m, first, there, -, rest⟩
    have unseen : ∀ d ∈ before ++ c :: after, d ≠ prev := by
      rintro d inside rfl
      exact (List.nodup_middle.mp nodup).notMem inside
    have step (d : C) (inside : d ∈ before ++ after) :
        update (update next prev (next c)) c link d = next d := by
      have apart : d ≠ c := by
        rintro rfl
        refine gone ?_
        simp only [List.mem_append, List.mem_cons] at inside ⊢
        rcases inside with h | h <;> simp [h]
      have apart' : d ≠ prev := by
        apply unseen
        simp only [List.mem_append, List.mem_cons] at inside ⊢
        rcases inside with h | h <;> simp [h]
      rw [update_of_ne apart, update_of_ne apart']
    apply chain_append.mpr
    refine ⟨m, first.frame fun d inside => step d (List.mem_append_left _ inside), there, ?_⟩
    rw [update_of_ne other, update_self]
    exact rest.frame fun d inside => step d (List.mem_append_right _ inside)
  · rw [update_of_ne same]
    apply (located.chain q).frame
    intro d inside
    have apart : d ≠ c := by
      rintro rfl
      exact same (located.apart q p d inside (by simp [place]))
    have apart' : d ≠ prev := by
      rintro rfl
      exact same (located.apart q p d inside (by simp [place]))
    rw [update_of_ne apart, update_of_ne apart']

theorem append (located : Located next head lists) (loose : Loose lists c) {before : List C} {last : C}
    (place : lists p = before ++ [last]) (done : next c = none) :
    Located (update next last (some c)) head (update lists p (before ++ [last, c])) := by
  have chain := located.chain p
  rw [place] at chain
  have longer := located.insert loose place
  rwa [chain.last_next, ← done, update_eq_self] at longer

omit [DecidableEq C] in
theorem rebuild (located : Located next head lists) {next' : C → Option C} {h : Option C} {l : List C}
    (chain : Chain next' h l) (cells : ∀ d ∈ l, d ∈ lists p ∨ Loose lists d)
    (frame : ∀ d, d ∉ lists p → ¬ Loose lists d → next' d = next d) :
    Located next' (update head p h) (update lists p l) := by
  have back (q : P) (d : C) (other : q ≠ p) (inside : d ∈ update lists p l q) : d ∈ lists q := by
    rwa [update_of_ne other] at inside
  have mixed (q : P) (d : C) (other : q ≠ p) (inside : d ∈ lists q) (here : d ∈ l) : False := by
    rcases cells d here with there | loose
    · exact other (located.apart q p d inside there)
    · exact loose q inside
  refine ⟨fun q => ?_, fun q r d left right => ?_⟩
  · by_cases same : q = p
    · subst same
      rw [update_self, update_self]
      exact chain
    · rw [update_of_ne same, update_of_ne same]
      apply (located.chain q).frame
      intro d inside
      apply frame
      · intro here
        exact same (located.apart q p d inside here)
      · intro loose
        exact loose q inside
  · by_cases left' : q = p <;> by_cases right' : r = p
    · rw [left', right']
    · rw [left', update_self] at left
      exact absurd (mixed r d right' (back r d right' right) left) id
    · rw [right', update_self] at right
      exact absurd (mixed q d left' (back q d left' left) right) id
    · exact located.apart q r d (back q d left' left) (back r d right' right)

end Located

omit [DecidableEq C] in
theorem located_one {h : Option C} {l : List C} (chain : Chain next h l) :
    Located next (fun _ : Unit => h) (fun _ => l) := ⟨fun _ => chain, fun _ _ _ _ _ => rfl⟩

theorem Chain.push {h : Option C} {l : List C} (chain : Chain next h l) {c : C} (fresh : c ∉ l) :
    Chain (update next c h) (some c) (c :: l) := by
  refine ⟨rfl, ?_⟩
  rw [update_self]
  apply chain.frame
  intro d inside
  apply update_of_ne
  rintro rfl
  exact fresh inside

theorem Chain.insert {h : Option C} {before after : List C} {prev c : C} (chain : Chain next h (before ++ prev :: after))
    (fresh : c ∉ before ++ prev :: after) :
    Chain (update (update next c (next prev)) prev (some c)) h (before ++ prev :: c :: after) := by
  have longer := (located_one chain).insert (p := ()) (fun _ => fresh) rfl
  have there := longer.chain ()
  rwa [update_self] at there

omit [DecidableEq C] in
theorem located_two {h h' : Option C} {l l' : List C} (chain : Chain next h l) (chain' : Chain next h' l')
    (apart : ∀ c ∈ l, c ∉ l') : Located next (two h h') (two l l') := by
  refine ⟨fun b => ?_, fun b b' c left right => ?_⟩
  · cases b
    · exact chain'
    · exact chain
  · cases b <;> cases b'
    · rfl
    · exact absurd left (apart c right)
    · exact absurd right (apart c left)
    · rfl

end Chains
