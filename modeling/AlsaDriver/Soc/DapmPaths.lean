import Mathlib.Logic.Function.Basic
import AlsaDriver.Lib.Words
import AlsaDriver.Soc.Dapm
import AlsaDriver.Lib.Routes

namespace AlsaDriver.Soc

structure SndSocDapmWidget where
  id : SndSocDapmType
  active : Bool
  connected : Bool
  ext : Bool
  ignoreSuspend : Bool

structure SndSocDapmPath (W : Type) where
  source : Option W
  sink : Option W
  connect : Bool
  weak : Bool

inductive CtlPower
  | d0
  | d1
  | d2
  | d3hot
  | d3cold
  deriving DecidableEq

/-- The widgets of a card and the paths between them; a path is in the list of each widget at most
    once, and only in the lists of its own two ends. -/
structure DapmCard (W P : Type) where
  widget : W → SndSocDapmWidget
  path : P → SndSocDapmPath W
  sinks : W → List P
  sources : W → List P
  power : CtlPower
  widgets : List W
  paths : List P
  widget_listed : ∀ w, w ∈ widgets
  path_listed : ∀ p, p ∈ paths
  sinks_source : ∀ w p, p ∈ sinks w → (path p).source = some w
  sources_sink : ∀ w p, p ∈ sources w → (path p).sink = some w
  sinks_nodup : ∀ w, (sinks w).Nodup
  sources_nodup : ∀ w, (sources w).Nodup

inductive Direction
  | output
  | input
  deriving DecidableEq

structure DapmWalk (W P : Type) where
  outputs : W → Int
  inputs : W → Int
  walked : P → Bool
  walking : P → Bool

namespace DapmWalk

variable {W P : Type}

def count (s : DapmWalk W P) : Direction → W → Int
  | .output => s.outputs
  | .input => s.inputs

def dapmReset (s : DapmWalk W P) : DapmWalk W P := { s with outputs := fun _ => -1, inputs := fun _ => -1 }

section

variable [DecidableEq W]

def setCount (s : DapmWalk W P) (d : Direction) (w : W) (con : Int) : DapmWalk W P :=
  match d with
  | .output => { s with outputs := Function.update s.outputs w con }
  | .input => { s with inputs := Function.update s.inputs w con }

@[simp] theorem setCount_walked (s : DapmWalk W P) (d : Direction) (w : W) (con : Int) :
    (s.setCount d w con).walked = s.walked := by
  cases d <;> rfl

@[simp] theorem setCount_walking (s : DapmWalk W P) (d : Direction) (w : W) (con : Int) :
    (s.setCount d w con).walking = s.walking := by
  cases d <;> rfl

@[simp] theorem setCount_count (s : DapmWalk W P) (d : Direction) (w : W) (con : Int) :
    (s.setCount d w con).count d = Function.update (s.count d) w con := by
  cases d <;> rfl

theorem setCount_other (s : DapmWalk W P) {d d' : Direction} (other : d' ≠ d) (w : W) (con : Int) :
    (s.setCount d w con).count d' = s.count d' := by
  cases d <;> cases d' <;> first | rfl | exact absurd rfl other

end

variable [DecidableEq P]

def mark (s : DapmWalk W P) (p : P) : DapmWalk W P :=
  { s with walked := Function.update s.walked p true, walking := Function.update s.walking p true }

def leave (s : DapmWalk W P) (p : P) : DapmWalk W P := { s with walking := Function.update s.walking p false }

@[simp] theorem mark_walked (s : DapmWalk W P) (p : P) : (s.mark p).walked = Function.update s.walked p true := rfl

@[simp] theorem mark_walking (s : DapmWalk W P) (p : P) : (s.mark p).walking = Function.update s.walking p true := rfl

@[simp] theorem leave_walked (s : DapmWalk W P) (p : P) : (s.leave p).walked = s.walked := rfl

@[simp] theorem leave_walking (s : DapmWalk W P) (p : P) : (s.leave p).walking = Function.update s.walking p false := rfl

@[simp] theorem mark_count (s : DapmWalk W P) (d : Direction) (p : P) : (s.mark p).count d = s.count d := by
  cases d <;> rfl

@[simp] theorem leave_count (s : DapmWalk W P) (d : Direction) (p : P) : (s.leave p).count d = s.count d := by
  cases d <;> rfl

end DapmWalk

def SndSocDapmType.isSupply : SndSocDapmType → Bool
  | .supply | .regulatorSupply | .clockSupply => true
  | _ => false

namespace DapmCard

variable {W P : Type} (card : DapmCard W P)

def sndSocDapmSuspendCheck (w : W) : Int :=
  match card.power with
  | .d3hot | .d3cold => if (card.widget w).ignoreSuspend then 1 else 0
  | _ => 1

/-- The tests of `is_connected_output_ep` that end the search at this widget. -/
def outputEndpoint (w : W) : Bool :=
  let widget := card.widget w
  (match widget.id with
    | .adc | .aifOut | .daiOut => widget.active
    | _ => false) ||
  (widget.connected &&
    ((widget.id == .output && !widget.ext) || widget.id == .hp || widget.id == .spk ||
      (widget.id == .line && !(card.sources w).isEmpty)))

/-- The tests of `is_connected_input_ep` that end the search at this widget. -/
def inputEndpoint (w : W) : Bool :=
  let widget := card.widget w
  (match widget.id with
    | .dac | .aifIn | .daiIn => widget.active
    | _ => false) ||
  (widget.connected &&
    ((widget.id == .input && !widget.ext) || widget.id == .vmid || widget.id == .mic ||
      (widget.id == .line && !(card.sinks w).isEmpty) || widget.id == .siggen))

def endpoint : Direction → W → Bool
  | .output => card.outputEndpoint
  | .input => card.inputEndpoint

def near : Direction → W → List P
  | .output => card.sinks
  | .input => card.sources

def far (d : Direction) (p : P) : Option W :=
  match d with
  | .output => (card.path p).sink
  | .input => (card.path p).source

/-- The addition of the code's `int`. -/
def addInt (con r : Int) : Int := Words.toSigned 32 (con + r)

variable [DecidableEq W] [DecidableEq P]

/-- The loop of the search over the paths of `w` that are left, with `con` so far. -/
def visitPaths (d : Direction) (visit : W → DapmWalk W P → Option (Int × DapmWalk W P)) (w : W) :
    List P → Int → DapmWalk W P → Option (Int × DapmWalk W P)
  | [], con, s => some (con, s.setCount d w con)
  | p :: rest, con, s =>
    if (card.path p).weak then visitPaths d visit w rest con s
    else if s.walking p then some (1, s)
    else if s.walked p then visitPaths d visit w rest con s
    else
      match card.far d p, (card.path p).connect with
      | some u, true =>
        match visit u (s.mark p) with
        | none => none
        | some (r, s') => visitPaths d visit w rest (addInt con r) (s'.leave p)
      | _, _ => visitPaths d visit w rest con s

/-- The search without a list of widgets to fill; no result when `fuel` nested calls do not suffice. -/
def isConnectedEp (d : Direction) : Nat → W → DapmWalk W P → Option (Int × DapmWalk W P)
  | 0, _, _ => none
  | fuel + 1, w, s =>
    if 0 ≤ s.count d w then some (s.count d w, s)
    else if (card.widget w).id.isSupply then some (0, s)
    else if card.endpoint d w then
      some (card.sndSocDapmSuspendCheck w, s.setCount d w (card.sndSocDapmSuspendCheck w))
    else card.visitPaths d (isConnectedEp d fuel) w (card.near d w) 0 s

def isConnectedOutputEp : Nat → W → DapmWalk W P → Option (Int × DapmWalk W P) := card.isConnectedEp .output

def isConnectedInputEp : Nat → W → DapmWalk W P → Option (Int × DapmWalk W P) := card.isConnectedEp .input

def clearPaths (d : Direction) (clear : W → (P → Bool) → Option (P → Bool)) : List P → (P → Bool) → Option (P → Bool)
  | [], walked => some walked
  | p :: rest, walked =>
    if walked p then
      match card.far d p with
      | none => none
      | some u => (clear u (Function.update walked p false)).bind (clearPaths d clear rest)
    else clearPaths d clear rest walked

/-- Called with the list of `w`. -/
def dapmClearWalk (d : Direction) : Nat → W → (P → Bool) → Option (P → Bool)
  | 0, _, _ => none
  | fuel + 1, w, walked => card.clearPaths d (dapmClearWalk d fuel) (card.near d w) walked

def dapmClearWalkOutput : Nat → W → (P → Bool) → Option (P → Bool) := card.dapmClearWalk .output

def dapmClearWalkInput : Nat → W → (P → Bool) → Option (P → Bool) := card.dapmClearWalk .input

def evaluate (d : Direction) (w : W) (s : DapmWalk W P) : Option (Int × DapmWalk W P) := do
  let (r, found) ← card.isConnectedEp d (card.paths.length + 1) w s
  let walked ← card.dapmClearWalk d (card.paths.length + 1) w found.walked
  some (r, { found with walked := walked })

end DapmCard

end AlsaDriver.Soc

namespace AlsaDriver.Soc.DapmCard

open Function Routes

variable {W P : Type} {card : DapmCard W P} {d : Direction}

theorem near_nodup (card : DapmCard W P) (d : Direction) (w : W) : (card.near d w).Nodup := by
  cases d
  · exact card.sinks_nodup w
  · exact card.sources_nodup w

theorem near_inj {p : P} {u w : W} (first : p ∈ card.near d u) (second : p ∈ card.near d w) : u = w := by
  cases d
  · exact Option.some.inj ((card.sinks_source u p first).symm.trans (card.sinks_source w p second))
  · exact Option.some.inj ((card.sources_sink u p first).symm.trans (card.sources_sink w p second))

/-! The marks of the paths. -/

def unwalked (card : DapmCard W P) (walked : P → Bool) : Nat := card.paths.countP fun p => !walked p

/-- Walked paths one after the other, from one of `roots` on. -/
inductive Trail (card : DapmCard W P) (d : Direction) (walked : P → Bool) (roots : List P) : P → Prop
  | here {p : P} : p ∈ roots → walked p = true → Trail card d walked roots p
  | next {p q : P} {u : W} : Trail card d walked roots p → card.far d p = some u → q ∈ card.near d u →
      walked q = true → Trail card d walked roots q

theorem Trail.mono {m m' : P → Bool} {roots : List P} {p : P} (trail : Trail card d m roots p)
    (more : ∀ q, m q = true → m' q = true) : Trail card d m' roots p := by
  induction trail with
  | here root walked => exact .here root (more _ walked)
  | next _ far near walked ih => exact .next ih far near (more _ walked)

theorem Trail.behind {m : P → Bool} {roots : List P} {p q : P} {u : W} (root : p ∈ roots) (walked : m p = true)
    (far : card.far d p = some u) (trail : Trail card d m (card.near d u) q) : Trail card d m roots q := by
  induction trail with
  | here near found => exact .next (.here root walked) far near found
  | next _ further near found ih => exact .next ih further near found

structure Marks (card : DapmCard W P) (d : Direction) (roots : List P) (s s' : DapmWalk W P) : Prop where
  walking : s'.walking = s.walking
  grows : ∀ p, s.walked p = true → s'.walked p = true
  trail : ∀ p, s'.walked p = true → s.walked p = true ∨ Trail card d s'.walked roots p
  ends : ∀ p, s'.walked p = true → s.walked p = true ∨ (card.far d p).isSome = true
  other : ∀ d', d' ≠ d → s'.count d' = s.count d'

theorem Marks.same {roots : List P} {s s' : DapmWalk W P} (walked : s'.walked = s.walked)
    (walking : s'.walking = s.walking) (other : ∀ d', d' ≠ d → s'.count d' = s.count d') : Marks card d roots s s' :=
  ⟨walking, fun _ found => walked ▸ found, fun _ found => .inl (walked ▸ found), fun _ found => .inl (walked ▸ found), other⟩

theorem Marks.unwalked_le {roots : List P} {s s' : DapmWalk W P} (marks : Marks card d roots s s') :
    card.unwalked s'.walked ≤ card.unwalked s.walked := by
  apply List.countP_mono_left
  intro p _ left
  have grows := marks.grows p
  cases found : s.walked p
  · rfl
  · simp [grows found] at left

theorem Marks.trans {roots : List P} {s s' s'' : DapmWalk W P} (first : Marks card d roots s s')
    (second : Marks card d roots s' s'') : Marks card d roots s s'' := by
  refine ⟨second.walking.trans first.walking, fun p found => second.grows p (first.grows p found), ?_, ?_,
    fun d' away => (second.other d' away).trans (first.other d' away)⟩
  · intro p found
    rcases second.trail p found with before | trail
    · rcases first.trail p before with old | trail
      · exact .inl old
      · exact .inr (trail.mono second.grows)
    · exact .inr trail
  · intro p found
    rcases second.ends p found with before | ends
    · exact first.ends p before
    · exact .inr ends

/-- What the clear function makes of the marks: it unmarks the paths of `roots`, and behind every
    path that it unmarks. -/
structure Cleared (card : DapmCard W P) (d : Direction) (roots : List P) (m m' : P → Bool) : Prop where
  shrinks : ∀ p, m' p = true → m p = true
  roots : ∀ p ∈ roots, m' p = false
  behind : ∀ p u q, m p = true → m' p = false → card.far d p = some u → q ∈ card.near d u → m' q = false

theorem Trail.walked {m : P → Bool} {roots : List P} {p : P} (trail : Trail card d m roots p) : m p = true := by
  cases trail <;> assumption

theorem Cleared.trail {roots : List P} {m m' : P → Bool} {p : P} (cleared : Cleared card d roots m m')
    (trail : Trail card d m roots p) : m' p = false := by
  induction trail with
  | here root _ => exact cleared.roots _ root
  | next before far near _ ih => exact cleared.behind _ _ _ before.walked ih far near

theorem Cleared.gone {roots : List P} {m m' : P → Bool} {p : P} (cleared : Cleared card d roots m m')
    (gone : m p = false) : m' p = false := by
  have shrinks := cleared.shrinks p
  rw [gone] at shrinks
  simpa using shrinks

variable [DecidableEq P]

theorem unwalked_mark {walked : P → Bool} {p : P} (new : walked p = false) :
    card.unwalked (update walked p true) < card.unwalked walked := by
  apply countP_lt _ (card.path_listed p)
  · simp
  · simp [new]
  · intro q _ left
    by_cases same : q = p
    · simp [same] at left
    · simpa [same] using left

theorem Marks.down {roots : List P} {s s' : DapmWalk W P} {p : P} {u : W} (root : p ∈ roots)
    (far : card.far d p = some u) (idle : s.walking p = false) (marks : Marks card d (card.near d u) (s.mark p) s') :
    Marks card d roots s (s'.leave p) := by
  have marked : s'.walked p = true := marks.grows p (by simp [DapmWalk.mark])
  have marks_of {q : P} (before : (s.mark p).walked q = true) (other : q ≠ p) : s.walked q = true := by
    simpa [DapmWalk.mark, other] using before
  refine ⟨?_, fun q found => ?_, fun q found => ?_, fun q found => ?_, fun d' away => ?_⟩
  · show update s'.walking p false = s.walking
    rw [marks.walking]
    show update (update s.walking p true) p false = s.walking
    rw [update_idem, ← idle, update_eq_self]
  · apply marks.grows q
    by_cases same : q = p
    · simp [DapmWalk.mark, same]
    · simpa [DapmWalk.mark, same] using found
  · rcases marks.trail q found with before | trail
    · by_cases same : q = p
      · rw [same]
        exact .inr (.here root marked)
      · exact .inl (marks_of before same)
    · exact .inr (trail.behind root marked far)
  · rcases marks.ends q found with before | ends
    · by_cases same : q = p
      · exact .inr (by rw [same, far]; rfl)
      · exact .inl (marks_of before same)
    · exact .inr ends
  · rw [DapmWalk.leave_count, marks.other d' away, DapmWalk.mark_count]

theorem Cleared.down {rest : List P} {m m' m'' : P → Bool} {p : P} {u : W} (far : card.far d p = some u)
    (first : Cleared card d (card.near d u) (update m p false) m') (second : Cleared card d rest m' m'') :
    Cleared card d (p :: rest) m m'' := by
  have before {q : P} (found : update m p false q = true) : q ≠ p ∧ m q = true := by
    by_cases same : q = p
    · simp [same] at found
    · exact ⟨same, by simpa [same] using found⟩
  have done : m' p = false := first.gone (by simp)
  refine ⟨fun q found => (before (first.shrinks q (second.shrinks q found))).2, ?_, ?_⟩
  · intro q root
    rcases List.mem_cons.mp root with same | later
    · exact same ▸ second.gone done
    · exact second.roots q later
  · intro q v n found unmarked further near
    by_cases kept : m' q = true
    · exact second.behind q v n kept unmarked further near
    · rw [Bool.not_eq_true] at kept
      by_cases same : q = p
      · obtain rfl : u = v := Option.some.inj (far.symm.trans (same ▸ further))
        exact second.gone (first.roots n near)
      · exact second.gone (first.behind q v n (by simpa [same] using found) kept further near)

theorem clearPaths_cleared {clear : W → (P → Bool) → Option (P → Bool)} {fuel : Nat}
    (works : ∀ u m, card.paths.countP m < fuel → (∀ p, m p = true → (card.far d p).isSome = true) →
      ∃ m', clear u m = some m' ∧ Cleared card d (card.near d u) m m')
    (ps : List P) {m : P → Bool} (enough : card.paths.countP m < fuel + 1)
    (ends : ∀ p, m p = true → (card.far d p).isSome = true) :
    ∃ m', card.clearPaths d clear ps m = some m' ∧ Cleared card d ps m m' := by
  induction ps generalizing m with
  | nil =>
    refine ⟨m, rfl, fun _ found => found, fun p root => absurd root List.not_mem_nil, fun p _ _ found gone => ?_⟩
    simp [found] at gone
  | cons p rest ih =>
    unfold clearPaths
    by_cases walked : m p = true
    · obtain ⟨u, far⟩ := Option.isSome_iff_exists.mp (ends p walked)
      have fewer : card.paths.countP (update m p false) < card.paths.countP m := by
        apply countP_lt _ (card.path_listed p) (by simp) walked
        intro q _ found
        by_cases same : q = p
        · simp [same] at found
        · simpa [same] using found
      have ends' (q : P) (found : update m p false q = true) : (card.far d q).isSome = true := by
        by_cases same : q = p
        · simp [same] at found
        · exact ends q (by simpa [same] using found)
      obtain ⟨m', found, first⟩ := works u (update m p false) (by omega) ends'
      have less : card.paths.countP m' ≤ card.paths.countP (update m p false) :=
        List.countP_mono_left fun q _ => first.shrinks q
      obtain ⟨m'', found', second⟩ := ih (m := m') (by omega) fun q found => ends' q (first.shrinks q found)
      refine ⟨m'', ?_, Cleared.down far first second⟩
      rw [if_pos walked]
      simp only [far, found]
      exact found'
    · obtain ⟨m', found, cleared⟩ := ih enough ends
      rw [Bool.not_eq_true] at walked
      refine ⟨m', ?_, cleared.shrinks, fun q root => ?_, cleared.behind⟩
      · simpa [walked] using found
      · rcases List.mem_cons.mp root with same | later
        · exact same ▸ cleared.gone walked
        · exact cleared.roots q later

theorem dapmClearWalk_cleared {fuel : Nat} (w : W) {m : P → Bool} (enough : card.paths.countP m < fuel)
    (ends : ∀ p, m p = true → (card.far d p).isSome = true) :
    ∃ m', card.dapmClearWalk d fuel w m = some m' ∧ Cleared card d (card.near d w) m m' := by
  induction fuel generalizing w m with
  | zero => exact absurd enough (Nat.not_lt_zero _)
  | succ fuel ih => exact clearPaths_cleared (fun u m enough ends => ih u enough ends) (card.near d w) enough ends

variable [DecidableEq W]

theorem visitPaths_marks {visit : W → DapmWalk W P → Option (Int × DapmWalk W P)} {fuel : Nat} {roots : List P} {w : W}
    (works : ∀ u s, card.unwalked s.walked < fuel → ∃ r s', visit u s = some (r, s') ∧ Marks card d (card.near d u) s s')
    {ps : List P} (listed : ∀ p ∈ ps, p ∈ roots) (con : Int) {s : DapmWalk W P}
    (enough : card.unwalked s.walked < fuel + 1) :
    ∃ r s', card.visitPaths d visit w ps con s = some (r, s') ∧ Marks card d roots s s' := by
  induction ps generalizing con s with
  | nil => exact ⟨con, _, rfl, .same (by simp) (by simp) fun _ away => s.setCount_other away w con⟩
  | cons p rest ih =>
    have later : ∀ q ∈ rest, q ∈ roots := fun q inside => listed q (List.mem_cons_of_mem p inside)
    have root : p ∈ roots := listed p List.mem_cons_self
    unfold visitPaths
    split
    · exact ih later con enough
    · split
      · exact ⟨1, s, rfl, .same rfl rfl fun _ _ => rfl⟩
      · split
        · exact ih later con enough
        · next idle fresh =>
          rw [Bool.not_eq_true] at idle fresh
          split
          · next u far _ =>
            have fewer : card.unwalked (s.mark p).walked < card.unwalked s.walked := unwalked_mark fresh
            obtain ⟨r, s', found, marks⟩ := works u (s.mark p) (by omega)
            have down := marks.down root far idle
            obtain ⟨r', s'', found', marks'⟩ := ih later (addInt con r) (s := s'.leave p) (by
              have := down.unwalked_le
              omega)
            exact ⟨r', s'', by rw [found]; exact found', down.trans marks'⟩
          · exact ih later con enough

theorem isConnectedEp_marks {fuel : Nat} (w : W) {s : DapmWalk W P} (enough : card.unwalked s.walked < fuel) :
    ∃ r s', card.isConnectedEp d fuel w s = some (r, s') ∧ Marks card d (card.near d w) s s' := by
  induction fuel generalizing w s with
  | zero => exact absurd enough (Nat.not_lt_zero _)
  | succ fuel ih =>
    unfold isConnectedEp
    split
    · exact ⟨_, s, rfl, .same rfl rfl fun _ _ => rfl⟩
    · split
      · exact ⟨0, s, rfl, .same rfl rfl fun _ _ => rfl⟩
      · split
        · exact ⟨_, _, rfl, .same (by simp) (by simp) fun _ away => s.setCount_other away w _⟩
        · exact visitPaths_marks (fun u s enough => ih u enough) (fun _ listed => listed) 0 enough

def Unmarked (s : DapmWalk W P) : Prop := ∀ p, s.walked p = false ∧ s.walking p = false

theorem evaluate_unmarked (card : DapmCard W P) {s : DapmWalk W P} (unmarked : Unmarked s) (d : Direction) (w : W) :
    ∃ r found s', card.isConnectedEp d (card.paths.length + 1) w s = some (r, found) ∧
      card.evaluate d w s = some (r, s') ∧ s' = { found with walked := s'.walked } ∧ Unmarked s' ∧
      ∀ d', d' ≠ d → s'.count d' = s.count d' := by
  have enough : card.unwalked s.walked < card.paths.length + 1 := Nat.lt_succ_of_le List.countP_le_length
  obtain ⟨r, found, search, marks⟩ := isConnectedEp_marks (d := d) w enough
  have fresh (p : P) : s.walked p ≠ true := by simp [(unmarked p).1]
  have ends (p : P) (walked : found.walked p = true) : (card.far d p).isSome = true :=
    (marks.ends p walked).resolve_left (fresh p)
  have enough' : card.paths.countP found.walked < card.paths.length + 1 := Nat.lt_succ_of_le List.countP_le_length
  obtain ⟨m, clear, cleared⟩ := dapmClearWalk_cleared w enough' ends
  refine ⟨r, found, { found with walked := m }, search, ?_, rfl, fun p => ⟨?_, ?_⟩, ?_⟩
  · simp [evaluate, search, clear]
  · by_cases walked : found.walked p = true
    · exact cleared.trail ((marks.trail p walked).resolve_left (fresh p))
    · exact cleared.gone (by simpa using walked)
  · show found.walking p = false
    rw [marks.walking]
    exact (unmarked p).2
  · intro d' away
    rw [← marks.other d' away]
    cases d' <;> rfl

end AlsaDriver.Soc.DapmCard
