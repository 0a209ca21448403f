import AlsaDriver.Lib.Runs
import AlsaDriver.Soc.DapmPaths
import Mathlib.Data.List.Count

namespace AlsaDriver.Soc.DapmCard

open Function Relation Routes Runs

variable {W P : Type} {card : DapmCard W P} {d : Direction}

/-! What the searches look for. -/

def live (card : DapmCard W P) (d : Direction) (p : P) : Option W :=
  if (card.path p).weak = false ∧ (card.path p).connect = true then card.far d p else none

/-- The widgets after `w`; the search ends at supplies and at endpoints. -/
def onward (card : DapmCard W P) (d : Direction) (w : W) : List W :=
  if (card.widget w).id.isSupply = true ∨ card.endpoint d w = true then [] else (card.near d w).filterMap (card.live d)

def Active (card : DapmCard W P) (d : Direction) (w : W) : Prop :=
  (card.widget w).id.isSupply = false ∧ card.endpoint d w = true ∧ card.sndSocDapmSuspendCheck w = 1

def Complete (card : DapmCard W P) (d : Direction) : W → Prop := Leads (card.onward d) (card.Active d)

theorem suspendCheck_cases (card : DapmCard W P) (w : W) :
    card.sndSocDapmSuspendCheck w = 0 ∨ card.sndSocDapmSuspendCheck w = 1 := by
  unfold sndSocDapmSuspendCheck
  repeat' split
  all_goals simp

theorem complete_supply {w : W} (supply : (card.widget w).id.isSupply = true) : ¬ card.Complete d w := by
  have none_ : card.onward d w = [] := if_pos (.inl supply)
  rw [Complete, leads_of_nil none_]
  simp [Active, supply]

theorem complete_endpoint {w : W} (plain : (card.widget w).id.isSupply = false) (ends : card.endpoint d w = true) :
    card.Complete d w ↔ card.sndSocDapmSuspendCheck w = 1 := by
  have none_ : card.onward d w = [] := if_pos (.inr ends)
  rw [Complete, leads_of_nil none_]
  simp [Active, plain, ends]

theorem onward_pass {w : W} (plain : (card.widget w).id.isSupply = false) (pass : card.endpoint d w = false) :
    card.onward d w = (card.near d w).filterMap (card.live d) := if_neg (by simp [plain, pass])

theorem complete_pass {w : W} (plain : (card.widget w).id.isSupply = false) (pass : card.endpoint d w = false) :
    card.Complete d w ↔ ∃ u ∈ (card.near d w).filterMap (card.live d), card.Complete d u := by
  rw [Complete, leads_iff, onward_pass plain pass]
  simp [Active, pass]

/-! How large the counts can become. -/

def known (card : DapmCard W P) (c : W → Int) : Nat := card.widgets.countP fun u => 0 ≤ c u

def unknown (card : DapmCard W P) (c : W → Int) : List W := card.widgets.filter fun u => c u < 0

theorem mem_unknown {c : W → Int} {u : W} : u ∈ card.unknown c ↔ c u < 0 := by
  simp [unknown, card.widget_listed u]

theorem known_lt {c : W → Int} {v : W} (open_ : c v < 0) : card.known c < card.widgets.length :=
  List.countP_lt_length_iff.mpr ⟨v, card.widget_listed v, by simpa using open_⟩

/-! Where a search that is under way stands. -/

def Passed (card : DapmCard W P) (d : Direction) (s : DapmWalk W P) (p : P) : Prop :=
  s.walking p = false ∧ (s.walked p = true ∨ card.live d p = none)

/-- A search that is under way has stopped in the list of `w` at a path that it walks down. -/
def Entered (card : DapmCard W P) (d : Direction) (s : DapmWalk W P) (w : W) : Prop :=
  (card.widget w).id.isSupply = false ∧ card.endpoint d w = false ∧
    ∃ before p after, card.near d w = before ++ p :: after ∧ (card.path p).weak = false ∧ s.walking p = true ∧
      ∀ q ∈ before, card.Passed d s q

theorem Entered.frame {s s' : DapmWalk W P} {w : W} (entered : card.Entered d s w)
    (frame : ∀ p ∈ card.near d w, s'.walked p = s.walked p ∧ s'.walking p = s.walking p) : card.Entered d s' w := by
  obtain ⟨plain, pass, before, p, after, list, strong, walking, passed⟩ := entered
  have inside (q : P) (listed : q ∈ before) : q ∈ card.near d w := by simp [list, listed]
  refine ⟨plain, pass, before, p, after, list, strong, ?_, fun q listed => ?_⟩
  · rw [(frame p (by simp [list])).2]
    exact walking
  · obtain ⟨walked', walking'⟩ := frame q (inside q listed)
    rw [Passed, walked', walking']
    exact passed q listed

/-! One search. -/

variable [DecidableEq W]

/-- The ways to go on from `u` through widgets that have their count. -/
def bound (card : DapmCard W P) (d : Direction) (c : W → Int) (u : W) : Nat :=
  along (card.onward d) (card.known c) (card.unknown c) u

/-- No widget has more ways on without meeting a widget twice than an `int` can count. -/
def Fits (card : DapmCard W P) : Prop := ∀ d w, routes (card.onward d) card.widgets.length [] w < 2 ^ 31

theorem bound_le {c : W → Int} {n : Nat} {A : List W} (more : card.known c ≤ n) (less : ∀ x ∈ A, c x < 0) (u : W) :
    card.bound d c u ≤ along (card.onward d) n A u := by
  have fewer (x : W) (avoided : x ∈ A) : x ∈ card.unknown c := mem_unknown.mpr (less x avoided)
  exact along_mono (fun b => routes_mono more fewer b) fewer u

theorem bound_mono (card : DapmCard W P) {c c' : W → Int} (keeps : ∀ u, 0 ≤ c u → 0 ≤ c' u) (u : W) : card.bound d c u ≤ card.bound d c' u := by
  apply bound_le
  · apply List.countP_mono_left
    intro x _ before
    simpa using keeps x (by simpa using before)
  · intro x avoided
    have negative := mem_unknown.mp avoided
    have kept := keeps x
    omega

theorem sum_bound {c : W → Int} {n : Nat} {A : List W} {v : W} (more : card.known c ≤ n) (open_ : c v < 0)
    (less : ∀ x ∈ A, c x < 0) : ((card.onward d v).map (card.bound d c)).sum ≤ routes (card.onward d) (n + 1) A v := by
  rw [routes_succ]
  apply List.sum_le_sum
  intro u _
  apply bound_le more
  intro x avoided
  rcases List.mem_cons.mp avoided with same | later
  · exact same ▸ open_
  · exact less x later

theorem sum_fits (fits : card.Fits) {c : W → Int} {v : W} (open_ : c v < 0) :
    ((card.onward d v).map (card.bound d c)).sum < 2 ^ 31 := by
  obtain ⟨n, size⟩ := Nat.exists_eq_add_of_lt (known_lt open_)
  have whole := sum_bound (d := d) (n := card.known c + n) (A := []) (Nat.le_add_right ..) open_ (by simp)
  have top := fits d v
  rw [size] at top
  omega

theorem sum_known (card : DapmCard W P) {c : W → Int} {v : W} (open_ : c v < 0) {con : Int} (nonneg : 0 ≤ con) :
    ((card.onward d v).map (card.bound d c)).sum ≤ card.bound d (update c v con) v := by
  have outside : v ∉ card.unknown (update c v con) := by
    rw [mem_unknown]
    simpa using nonneg
  have more : card.known c < card.known (update c v con) := by
    apply countP_lt _ (card.widget_listed v) (by simpa using open_) (by simpa using nonneg)
    intro x _ before
    by_cases same : x = v
    · simpa [same] using nonneg
    · simpa [same] using before
  obtain ⟨n, size⟩ := Nat.exists_eq_add_of_lt more
  have whole := sum_bound (d := d) (n := card.known c + n) (A := card.unknown (update c v con))
    (Nat.le_add_right ..) open_ fun x avoided => by
      have negative := mem_unknown.mp avoided
      by_cases same : x = v
      · exact same ▸ open_
      · simpa [same] using negative
  rw [bound, along, if_neg outside, size]
  exact whole.trans (Nat.le_max_right ..)

/-- The counts and the marks while the searches of `stack` are under way. -/
structure Colours (card : DapmCard W P) (d : Direction) (stack : List W) (s : DapmWalk W P) : Prop where
  idle : ∀ u, u ∉ stack → ∀ p ∈ card.near d u, s.walking p = false ∧ (s.count d u < 0 → s.walked p = false)
  opened : ∀ u ∈ stack, s.count d u < 0
  exact : ∀ u, 0 ≤ s.count d u → (0 < s.count d u ↔ card.Complete d u) ∧ s.count d u ≤ card.bound d (s.count d) u

/-- What a search of `w` finds and leaves. -/
structure Found (card : DapmCard W P) (d : Direction) (stack : List W) (w : W) (s : DapmWalk W P) (r : Int)
    (s' : DapmWalk W P) : Prop where
  colours : card.Colours d stack s'
  kept : ∀ u, 0 ≤ s.count d u → s'.count d u = s.count d u
  frame : ∀ u ∈ stack, ∀ p ∈ card.near d u, s'.walked p = s.walked p ∧ s'.walking p = s.walking p
  nonneg : 0 ≤ r
  exact : 0 < r ↔ card.Complete d w
  bounded : r ≤ card.bound d (s'.count d) w

theorem one_le_bound (card : DapmCard W P) (c : W → Int) (u : W) : 1 ≤ card.bound d c u := one_le_along ..

theorem Colours.setCount {stack : List W} {s : DapmWalk W P} {w : W} {con : Int} (colours : card.Colours d (w :: stack) s)
    (outside : w ∉ stack) (quiet : ∀ p ∈ card.near d w, s.walking p = false) (nonneg : 0 ≤ con)
    (exact_ : 0 < con ↔ card.Complete d w) (bounded : con ≤ card.bound d ((s.setCount d w con).count d) w) :
    card.Colours d stack (s.setCount d w con) := by
  have keeps (u : W) (before : 0 ≤ s.count d u) : 0 ≤ (s.setCount d w con).count d u := by
    by_cases same : u = w
    · simpa [same] using nonneg
    · simpa [same] using before
  refine ⟨fun u away p near => ?_, fun u inside => ?_, fun u nonneg' => ?_⟩
  · by_cases same : u = w
    · rw [same] at near
      simp [same, quiet p near, not_lt.mpr nonneg]
    · simpa [same] using colours.idle u (by simp [same, away]) p near
  · have other : u ≠ w := fun same => outside (same ▸ inside)
    simpa [other] using colours.opened u (List.mem_cons_of_mem w inside)
  · by_cases same : u = w
    · rw [same]
      simp only [DapmWalk.setCount_count, update_self] at bounded ⊢
      exact ⟨exact_, bounded⟩
    · have count : (s.setCount d w con).count d u = s.count d u := by simp [same]
      rw [count] at nonneg' ⊢
      obtain ⟨right, top⟩ := colours.exact u nonneg'
      have more := card.bound_mono (d := d) keeps u
      exact ⟨right, by omega⟩

theorem Colours.enter {stack : List W} {s : DapmWalk W P} {w : W} (colours : card.Colours d stack s)
    (open_ : s.count d w < 0) : card.Colours d (w :: stack) s := by
  refine ⟨fun u outside => colours.idle u fun inside => outside (List.mem_cons_of_mem w inside), ?_, colours.exact⟩
  intro u inside
  rcases List.mem_cons.mp inside with same | before
  · exact same ▸ open_
  · exact colours.opened u before

theorem Colours.congr {stack : List W} {s s' : DapmWalk W P} (colours : card.Colours d stack s)
    (count : s'.count d = s.count d)
    (frame : ∀ u, u ∉ stack → ∀ p ∈ card.near d u, s'.walked p = s.walked p ∧ s'.walking p = s.walking p) :
    card.Colours d stack s' := by
  refine ⟨fun u outside p near => ?_, ?_, ?_⟩
  · obtain ⟨walked, walking⟩ := frame u outside p near
    rw [count, walked, walking]
    exact colours.idle u outside p near
  · rw [count]
    exact colours.opened
  · rw [count]
    exact colours.exact

/-- The loop at `v` between two paths. -/
structure Progress (card : DapmCard W P) (d : Direction) (stack : List W) (v : W) (done rest : List P) (con : Int)
    (s : DapmWalk W P) : Prop where
  list : card.near d v = done ++ rest
  colours : card.Colours d (v :: stack) s
  entered : ∀ u ∈ stack, card.Entered d s u
  passed : ∀ q ∈ done, card.Passed d s q
  fresh : ∀ q ∈ rest, s.walked q = false ∧ s.walking q = false
  nonneg : 0 ≤ con
  exact : 0 < con ↔ ∃ u ∈ done.filterMap (card.live d), card.Complete d u
  bounded : con ≤ (((done.filterMap (card.live d)).map (card.bound d (s.count d))).sum : Nat)

theorem Progress.skip {stack : List W} {v : W} {done rest : List P} {p : P} {con : Int} {s : DapmWalk W P}
    (progress : card.Progress d stack v done (p :: rest) con s) (dead : card.live d p = none) :
    card.Progress d stack v (done ++ [p]) rest con s := by
  have quiet := (progress.fresh p List.mem_cons_self).2
  have same : (done ++ [p]).filterMap (card.live d) = done.filterMap (card.live d) := by simp [dead]
  refine ⟨by simp [progress.list], progress.colours, progress.entered, fun q inside => ?_,
    fun q inside => progress.fresh q (List.mem_cons_of_mem p inside), progress.nonneg, ?_, ?_⟩
  · rcases List.mem_append.mp inside with before | last
    · exact progress.passed q before
    · rw [List.mem_singleton.mp last]
      exact ⟨quiet, .inr dead⟩
  · rw [same]
    exact progress.exact
  · rw [same]
    exact progress.bounded

variable {stack : List W} {v u : W} {done rest : List P} {p : P} {con r : Int} {s s' : DapmWalk W P}

theorem Progress.near (progress : card.Progress d stack v done (p :: rest) con s) : p ∈ card.near d v := by
  simp [progress.list]

theorem Progress.apart (progress : card.Progress d stack v done (p :: rest) con s) {x : W} {q : P} (other : x ≠ v)
    (near : q ∈ card.near d x) : q ≠ p :=
  fun same => other (near_inj near (same ▸ progress.near))

theorem Progress.before (progress : card.Progress d stack v done (p :: rest) con s) {q : P}
    (inside : q ∈ done ∨ q ∈ rest) : q ≠ p := by
  have distinct := card.near_nodup d v
  rw [progress.list, List.nodup_append] at distinct
  obtain ⟨-, later, cross⟩ := distinct
  rcases inside with inside | inside
  · exact cross q inside p List.mem_cons_self
  · exact fun same => (List.nodup_cons.mp later).1 (same ▸ inside)

theorem Colours.atEndpoint {stack : List W} {s : DapmWalk W P} {w : W} (colours : card.Colours d stack s)
    (plain : (card.widget w).id.isSupply = false) (ends : card.endpoint d w = true) (open_ : s.count d w < 0)
    (outside : w ∉ stack) :
    card.Found d stack w s (card.sndSocDapmSuspendCheck w) (s.setCount d w (card.sndSocDapmSuspendCheck w)) := by
  have one := card.one_le_bound (d := d) ((s.setCount d w (card.sndSocDapmSuspendCheck w)).count d) w
  have check := suspendCheck_cases card w
  have nonneg : 0 ≤ card.sndSocDapmSuspendCheck w := by omega
  have exact_ : 0 < card.sndSocDapmSuspendCheck w ↔ card.Complete d w := by
    rw [complete_endpoint plain ends]
    omega
  have quiet (p : P) (near : p ∈ card.near d w) : s.walking p = false := (colours.idle w outside p near).1
  refine ⟨(colours.enter open_).setCount outside quiet nonneg exact_ (by omega), fun u before => ?_, fun u _ p _ => by simp,
    nonneg, exact_, by omega⟩
  have other : u ≠ w := fun same => by
    rw [same] at before
    omega
  simp [other]

variable [DecidableEq P]

theorem Entered.again {s : DapmWalk W P} {w : W} (entered : card.Entered d s w)
    (visit : W → DapmWalk W P → Option (Int × DapmWalk W P)) (con : Int) :
    card.visitPaths d visit w (card.near d w) con s = some (1, s) := by
  obtain ⟨-, -, before, p, after, list, strong, walking, passed⟩ := entered
  rw [list]
  clear list
  induction before with
  | nil => simp [visitPaths, strong, walking]
  | cons q before ih =>
    have step := passed q List.mem_cons_self
    have go := ih fun q inside => passed q (List.mem_cons_of_mem _ inside)
    obtain ⟨quiet, walked | dead⟩ := step
    · simp [visitPaths, quiet, walked, go]
    · rw [List.cons_append, visitPaths]
      by_cases weak : (card.path q).weak = true
      · rw [if_pos weak]
        exact go
      · rw [if_neg weak, if_neg (by simp [quiet])]
        split
        · exact go
        · split
          · next far connect => simp [live, weak, connect, far] at dead
          · exact go

def Works (card : DapmCard W P) (d : Direction) (visit : W → DapmWalk W P → Option (Int × DapmWalk W P)) : Prop :=
  ∀ w s r s' stack, visit w s = some (r, s') → card.Colours d stack s → (∀ u ∈ stack, card.Entered d s u) →
    (∀ u ∈ stack, TransGen (Edge (card.onward d)) u w) → card.Found d stack w s r s'

theorem Progress.mark (progress : card.Progress d stack v done (p :: rest) con s) (outside : v ∉ stack)
    (plain : (card.widget v).id.isSupply = false) (pass : card.endpoint d v = false)
    (live_ : card.live d p = some u) :
    card.Colours d (v :: stack) (s.mark p) ∧ ∀ x ∈ v :: stack, card.Entered d (s.mark p) x := by
  have same {q : P} (other : q ≠ p) : (s.mark p).walked q = s.walked q ∧ (s.mark p).walking q = s.walking q := by
    simp [other]
  constructor
  · apply progress.colours.congr (s.mark_count d p)
    intro x away q near
    exact same (progress.apart (fun back => away (back ▸ List.mem_cons_self)) near)
  · intro x inside
    rcases List.mem_cons.mp inside with now | before
    · rw [now]
      refine ⟨plain, pass, done, p, rest, progress.list, ?_, by simp, fun q passed => ?_⟩
      · cases weak : (card.path p).weak
        · rfl
        · simp [live, weak] at live_
      · obtain ⟨walked, walking⟩ := same (progress.before (.inl passed))
        rw [Passed, walked, walking]
        exact progress.passed q passed
    · apply (progress.entered x before).frame
      intro q near
      exact same (progress.apart (fun back => outside (back ▸ before)) near)

theorem Progress.leave (fits : card.Fits) (progress : card.Progress d stack v done (p :: rest) con s)
    (outside : v ∉ stack) (plain : (card.widget v).id.isSupply = false) (pass : card.endpoint d v = false)
    (live_ : card.live d p = some u) (found : card.Found d (v :: stack) u (s.mark p) r s') :
    card.Progress d stack v (done ++ [p]) rest (addInt con r) (s'.leave p) := by
  have list : card.near d v = done ++ [p] ++ rest := by simp [progress.list]
  have grown : (done ++ [p]).filterMap (card.live d) = done.filterMap (card.live d) ++ [u] := by simp [live_]
  have keeps (x : W) (before : 0 ≤ s.count d x) : 0 ≤ s'.count d x := by
    have kept := found.kept x (by simpa using before)
    rw [kept]
    simpa using before
  have more : ((done.filterMap (card.live d)).map (card.bound d (s.count d))).sum ≤
      ((done.filterMap (card.live d)).map (card.bound d (s'.count d))).sum :=
    List.sum_le_sum fun x _ => card.bound_mono keeps x
  have total : con + r ≤ ((((done ++ [p]).filterMap (card.live d)).map (card.bound d (s'.count d))).sum : Nat) := by
    have bounded := progress.bounded
    have bounded' := found.bounded
    rw [grown, List.map_append, List.sum_append, List.map_cons, List.map_nil, List.sum_cons, List.sum_nil]
    omega
  have part : (((done ++ [p]).filterMap (card.live d)).map (card.bound d (s'.count d))).sum ≤
      ((card.onward d v).map (card.bound d (s'.count d))).sum := by
    rw [onward_pass plain pass, list]
    generalize done ++ [p] = front
    simp
  have high := sum_fits fits (found.colours.opened v List.mem_cons_self) (d := d)
  have sum : addInt con r = con + r := by
    have low := progress.nonneg
    have low' := found.nonneg
    apply Words.toSigned_of_range <;> omega
  have frame {q : P} (near : q ∈ card.near d v) (other : q ≠ p) :
      (s'.leave p).walked q = s.walked q ∧ (s'.leave p).walking q = s.walking q := by
    simpa [other] using found.frame v List.mem_cons_self q near
  refine ⟨list, ?_, ?_, ?_, ?_, ?_, ?_, ?_⟩
  · apply found.colours.congr (s'.leave_count d p)
    intro x away q near
    simp [progress.apart (fun back => away (back ▸ List.mem_cons_self)) near]
  · intro x inside
    apply (progress.entered x inside).frame
    intro q near
    have other : q ≠ p := progress.apart (fun back => outside (back ▸ inside)) near
    simpa [other] using found.frame x (List.mem_cons_of_mem v inside) q near
  · intro q inside
    rcases List.mem_append.mp inside with before | last
    · obtain ⟨walked, walking⟩ := frame (by simp [list, before]) (progress.before (.inl before))
      rw [Passed, walked, walking]
      exact progress.passed q before
    · rw [List.mem_singleton.mp last]
      obtain ⟨walked, -⟩ := found.frame v List.mem_cons_self p progress.near
      exact ⟨by simp, .inl (by simp [walked])⟩
  · intro q inside
    obtain ⟨walked, walking⟩ := frame (by simp [list, inside]) (progress.before (.inr inside))
    rw [walked, walking]
    exact progress.fresh q (List.mem_cons_of_mem p inside)
  · rw [sum]
    exact Int.add_nonneg progress.nonneg found.nonneg
  · have before := progress.exact
    have now := found.exact
    have low := progress.nonneg
    have low' := found.nonneg
    rw [sum, grown]
    simp only [List.mem_append, List.mem_singleton, or_and_right, exists_or, exists_eq_left, ← before, ← now]
    omega
  · rw [sum, DapmWalk.leave_count]
    exact total

theorem visitPaths_found (fits : card.Fits) {visit : W → DapmWalk W P → Option (Int × DapmWalk W P)}
    (works : card.Works d visit) (plain : (card.widget v).id.isSupply = false) (pass : card.endpoint d v = false)
    (outside : v ∉ stack) (above : ∀ x ∈ stack, TransGen (Edge (card.onward d)) x v)
    (progress : card.Progress d stack v done rest con s) (run : card.visitPaths d visit v rest con s = some (r, s')) :
    card.Found d stack v s r s' := by
  induction rest generalizing done con s with
  | nil =>
    obtain ⟨rfl, rfl⟩ : con = r ∧ s.setCount d v con = s' := by simpa [visitPaths] using run
    have whole : card.onward d v = done.filterMap (card.live d) := by simp [onward_pass plain pass, progress.list]
    have open_ := progress.colours.opened v List.mem_cons_self
    have exact_ : 0 < con ↔ card.Complete d v := by
      rw [complete_pass plain pass, ← onward_pass plain pass, whole]
      exact progress.exact
    have bounded : con ≤ card.bound d ((s.setCount d v con).count d) v := by
      have top := card.sum_known (d := d) open_ progress.nonneg
      have low := progress.bounded
      rw [whole] at top
      rw [DapmWalk.setCount_count]
      omega
    have quiet (p : P) (near : p ∈ card.near d v) : s.walking p = false :=
      (progress.passed p (by simpa [progress.list] using near)).1
    refine ⟨progress.colours.setCount outside quiet progress.nonneg exact_ bounded, fun x before => ?_, fun x _ p _ => ?_,
      progress.nonneg, exact_, bounded⟩
    · have other : x ≠ v := fun same => by
        rw [same] at before
        omega
      simp [other]
    · simp
  | cons p rest ih =>
    obtain ⟨unwalked, idle⟩ := progress.fresh p List.mem_cons_self
    unfold visitPaths at run
    rw [if_neg (by simp [idle] : ¬ s.walking p = true), if_neg (by simp [unwalked] : ¬ s.walked p = true)] at run
    split at run
    · next weak => exact ih (progress.skip (by simp [live, weak])) run
    · next strong =>
      split at run
      · next u far connect =>
        have live_ : card.live d p = some u := by simp [live, strong, connect, far]
        obtain ⟨colours, entered⟩ := progress.mark outside plain pass live_
        have edge : Edge (card.onward d) v u := by
          show u ∈ card.onward d v
          rw [onward_pass plain pass]
          exact List.mem_filterMap.mpr ⟨p, progress.near, live_⟩
        have above' (x : W) (inside : x ∈ v :: stack) : TransGen (Edge (card.onward d)) x u := by
          rcases List.mem_cons.mp inside with same | before
          · exact same ▸ TransGen.single edge
          · exact (above x before).tail edge
        split at run
        · cases run
        · next r₁ s₁ search =>
          have found := works u (s.mark p) r₁ s₁ (v :: stack) search colours entered above'
          have rest_ := ih (progress.leave fits outside plain pass live_ found) run
          refine ⟨rest_.colours, fun x before => ?_, fun x inside q near => ?_, rest_.nonneg, rest_.exact, rest_.bounded⟩
          · have kept := found.kept x (by simpa using before)
            rw [DapmWalk.mark_count] at kept
            rw [rest_.kept x (by simpa [kept] using before), DapmWalk.leave_count, kept]
          · have other : q ≠ p := progress.apart (fun back => outside (back ▸ inside)) near
            obtain ⟨walked, walking⟩ := rest_.frame x inside q near
            obtain ⟨walked', walking'⟩ := found.frame x (List.mem_cons_of_mem v inside) q near
            rw [walked, walking]
            exact ⟨by simpa [other] using walked', by simpa [other] using walking'⟩
      · next dead =>
        have dead' : card.live d p = none := by
          unfold live
          split
          · next both =>
            cases far : card.far d p
            · rfl
            · exact absurd both.2 (dead _ far)
          · rfl
        exact ih (progress.skip dead') run

theorem isConnectedEp_found (fits : card.Fits) (fuel : Nat) : card.Works d (card.isConnectedEp d fuel) := by
  induction fuel with
  | zero => exact fun w s r s' stack run => by cases run
  | succ fuel ih =>
    intro w s r s' stack run colours entered above
    unfold isConnectedEp at run
    split at run
    · next known_ =>
      obtain ⟨rfl, rfl⟩ : s.count d w = r ∧ s = s' := by simpa using run
      obtain ⟨exact_, bounded⟩ := colours.exact w known_
      exact ⟨colours, fun _ _ => rfl, fun _ _ _ _ => ⟨rfl, rfl⟩, known_, exact_, bounded⟩
    · next open_ =>
      rw [not_le] at open_
      split at run
      · next supply =>
        obtain ⟨rfl, rfl⟩ : 0 = r ∧ s = s' := by simpa using run
        have none_ := complete_supply (d := d) supply
        exact ⟨colours, fun _ _ => rfl, fun _ _ _ _ => ⟨rfl, rfl⟩, Int.le_refl 0, by simp [none_], Int.natCast_nonneg _⟩
      · next plain =>
        rw [Bool.not_eq_true] at plain
        split at run
        · next ends =>
          obtain ⟨rfl, rfl⟩ : card.sndSocDapmSuspendCheck w = r ∧ s.setCount d w (card.sndSocDapmSuspendCheck w) = s' := by
            simpa using run
          exact colours.atEndpoint plain ends open_ fun under => by simp [(entered w under).2.1] at ends
        · next pass =>
          rw [Bool.not_eq_true] at pass
          by_cases under : w ∈ stack
          · rw [(entered w under).again] at run
            obtain ⟨rfl, rfl⟩ : 1 = r ∧ s = s' := by simpa using run
            have cycle : card.Complete d w := Leads.cycle (above w under)
            have one := card.one_le_bound (d := d) (s.count d) w
            exact ⟨colours, fun _ _ => rfl, fun _ _ _ _ => ⟨rfl, rfl⟩, by decide, by simp [cycle], by omega⟩
          · have idle (p : P) (near : p ∈ card.near d w) : s.walked p = false ∧ s.walking p = false :=
              ⟨(colours.idle w under p near).2 open_, (colours.idle w under p near).1⟩
            exact visitPaths_found fits ih plain pass under above
              ⟨rfl, colours.enter open_, entered, fun _ inside => absurd inside List.not_mem_nil, idle, Int.le_refl 0,
                by simp, by simp⟩ run

def Exact (card : DapmCard W P) (s : DapmWalk W P) : Prop :=
  ∀ d u, 0 ≤ s.count d u → (0 < s.count d u ↔ card.Complete d u) ∧ s.count d u ≤ card.bound d (s.count d) u

theorem evaluate_exact (fits : card.Fits) {s s' : DapmWalk W P} {w : W} {r : Int} (unmarked : Unmarked s)
    (exact_ : card.Exact s) (run : card.evaluate d w s = some (r, s')) :
    (r ≠ 0 ↔ card.Complete d w) ∧ card.Exact s' := by
  obtain ⟨r', found, left, search, whole, shape, -, other⟩ := card.evaluate_unmarked unmarked d w
  obtain ⟨rfl, rfl⟩ : r' = r ∧ left = s' := by
    rw [whole] at run
    simpa using run
  have colours : card.Colours d [] s :=
    ⟨fun u _ p _ => ⟨(unmarked p).2, fun _ => (unmarked p).1⟩, fun u inside => absurd inside List.not_mem_nil, exact_ d⟩
  have result := isConnectedEp_found fits _ w s r' found [] search colours
    (fun u inside => absurd inside List.not_mem_nil) fun u inside => absurd inside List.not_mem_nil
  have count : left.count d = found.count d := by
    rw [shape]
    cases d <;> rfl
  constructor
  · rw [← result.exact]
    have low := result.nonneg
    omega
  · intro d'
    by_cases same : d' = d
    · rw [same, count]
      exact result.colours.exact
    · rw [other d' same]
      exact exact_ d'

end AlsaDriver.Soc.DapmCard

namespace AlsaDriver.Soc

open Routes Runs

/-- What happens to a card: its switches and streams are set anew before the counts are reset, and a
    widget is evaluated. -/
inductive DapmOp (W P : Type)
  | reset (card : DapmCard W P)
  | evaluate (d : Direction) (w : W)

structure Dapm (W P : Type) where
  card : DapmCard W P
  walk : DapmWalk W P

namespace Dapm

variable {W P : Type} [DecidableEq W]

def Settled (s : Dapm W P) : Prop := DapmCard.Unmarked s.walk ∧ (s.card.Fits → s.card.Exact s.walk)

theorem settled_of_unknown {s : Dapm W P} (unmarked : DapmCard.Unmarked s.walk) (unknown : ∀ d u, s.walk.count d u = -1) :
    s.Settled := by
  refine ⟨unmarked, fun _ d u known => ?_⟩
  rw [unknown] at known
  cases known

variable [DecidableEq P]

def exec (s : Dapm W P) : DapmOp W P → Dapm W P
  | .reset card => ⟨card, s.walk.dapmReset⟩
  | .evaluate d w => ⟨s.card, ((s.card.evaluate d w s.walk).map Prod.snd).getD s.walk⟩

def Finds (s : Dapm W P) : DapmOp W P → Dapm W P → Prop
  | .reset _, _ => True
  | .evaluate d w, s' => ∃ r, s.card.evaluate d w s.walk = some (r, s'.walk) ∧ DapmCard.Unmarked s'.walk ∧
      (s.card.Fits → (r ≠ 0 ↔ Leads (s.card.onward d) (s.card.Active d) w))

def start (card : DapmCard W P) : Dapm W P := ⟨card, fun _ => -1, fun _ => -1, fun _ => false, fun _ => false⟩

/-- Whatever was evaluated before, an evaluation finds the endpoints and the cycles. -/
theorem evaluations_find (card : DapmCard W P) (ops : List (DapmOp W P)) : Throughout exec Finds (start card) ops := by
  have settled : (start card).Settled := settled_of_unknown (fun _ => ⟨rfl, rfl⟩) fun d _ => by cases d <;> rfl
  apply (Throughout.of_mem (P := fun _ _ _ => True) fun _ _ _ => trivial).steps Settled settled
  intro s op inv _
  cases op with
  | reset card => exact ⟨trivial, settled_of_unknown inv.1 fun d _ => by cases d <;> rfl⟩
  | evaluate d w =>
    obtain ⟨unmarked, exact_⟩ := inv
    obtain ⟨r, -, s', -, run, -, unmarked', -⟩ := s.card.evaluate_unmarked unmarked d w
    have next : s.exec (.evaluate d w) = ⟨s.card, s'⟩ := by simp [exec, run]
    rw [next]
    refine ⟨⟨r, run, unmarked', fun fits => ?_⟩, unmarked', fun fits => ?_⟩
    · exact (DapmCard.evaluate_exact fits unmarked (exact_ fits) run).1
    · exact (DapmCard.evaluate_exact fits unmarked (exact_ fits) run).2

def mixerLoop : DapmCard Bool Bool where
  widget := fun _ => ⟨.mixer, false, true, false, false⟩
  path := fun p => ⟨some p, some !p, true, false⟩
  sinks := fun w => [w]
  sources := fun w => [!w]
  power := .d0
  widgets := [false, true]
  paths := [false, true]
  widget_listed := by decide
  path_listed := by decide
  sinks_source := by decide
  sources_sink := by decide
  sinks_nodup := by decide
  sources_nodup := by decide

/-- The loop counts as a connection although no endpoint is there. -/
theorem mixerLoop_connected :
    ¬ ∀ r s', mixerLoop.evaluate .output false (start mixerLoop).walk = some (r, s') →
      (r ≠ 0 ↔ ∃ u, Relation.ReflTransGen (Edge (mixerLoop.onward .output)) false u ∧ mixerLoop.endpoint .output u = true) := by
  intro claim
  obtain ⟨r, -, s', -, run, -, -, -⟩ :=
    mixerLoop.evaluate_unmarked (s := (start mixerLoop).walk) (fun _ => ⟨rfl, rfl⟩) .output false
  have one : (mixerLoop.evaluate .output false (start mixerLoop).walk).map Prod.fst = some 1 := by decide
  obtain rfl : r = 1 := by simpa [run] using one
  obtain ⟨u, -, ends⟩ := (claim 1 s' run).mp (by decide)
  have none_ : mixerLoop.endpoint .output u = false := by cases u <;> rfl
  simp [none_] at ends

end Dapm

end AlsaDriver.Soc
