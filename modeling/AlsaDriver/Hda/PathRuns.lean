import Mathlib
import AlsaDriver.Hda.Paths

namespace AlsaDriver.Hda

structure Hop where
  nid : HdaNid
  idx : Nat

namespace HdaCodec

variable {codec : HdaCodec} {from_ to_ : HdaNid} {anchor : Int}

/-! The paths that the search can take, read from their end to their start. -/

def hops (codec : HdaCodec) (to_ : HdaNid) : List Hop := (codec.conn to_).zipIdx.map fun h => ⟨h.1, h.2⟩

def Hit (to_ : HdaNid) (anchor : Int) : Prop := (to_.toNat : Int) ≠ anchor ∧ to_ = BitVec.ofInt 16 (-anchor)

instance instDecidableHit (to_ : HdaNid) (anchor : Int) : Decidable (Hit to_ anchor) :=
  inferInstanceAs (Decidable ((to_.toNat : Int) ≠ anchor ∧ to_ = BitVec.ofInt 16 (-anchor)))

/-- The anchor that is left to be passed before `to_`. -/
def left (to_ : HdaNid) (anchor : Int) : Int := if (to_.toNat : Int) = anchor then 0 else anchor

/-- Every way of at most `levels` connections, in the order of the connection lists, those that are
    complete with their first connection before the others. -/
def ways (codec : HdaCodec) (from_ : HdaNid) : Nat → HdaNid → Int → List (List Hop)
  | 0, _, _ => []
  | levels + 1, to_, anchor =>
    if Hit to_ anchor then []
    else
      ((codec.hops to_).filter fun h => codec.starts from_ h.nid && decide (left to_ anchor ≤ 0)).map (fun h => [h]) ++
        (codec.hops to_).flatMap fun h =>
          if codec.inner h.nid then (ways codec from_ levels h.nid (left to_ anchor)).map (fun rest => h :: rest) else []

def fill (codec : HdaCodec) : HdaNid → List Hop → NidPath → Option NidPath
  | _, [], p => some p
  | to_, h :: rest, p => (fill codec h.nid rest p).bind (codec.found to_ h.nid h.idx)

theorem tryConns_eq (parse : HdaNid → NidPath → Option (Bool × NidPath)) (first : HdaNid → Option (List Hop)) (p : NidPath)
    (works : ∀ c, parse c p = match first c with
      | none => some (false, p)
      | some rest => (codec.fill c rest p).map fun p' => (true, p')) (l : List (HdaNid × Nat)) :
    codec.tryConns parse to_ l p =
      match l.findSome? fun h => if codec.inner h.1 then (first h.1).map fun rest => (⟨h.1, h.2⟩ : Hop) :: rest else none with
      | none => some (false, p)
      | some way => (codec.fill to_ way p).map fun p' => (true, p') := by
  induction l with
  | nil => rfl
  | cons h rest ih =>
    obtain ⟨c, i⟩ := h
    rw [tryConns, List.findSome?_cons]
    by_cases inside : codec.inner c = true
    · rw [if_pos inside, if_pos inside, works]
      cases next : first c with
      | none => exact ih
      | some way =>
        simp only [Option.map_some, fill]
        cases codec.fill c way p with
        | none => rfl
        | some p' => rfl
    · rw [if_neg inside, if_neg inside]
      exact ih

theorem head_ways (levels : Nat) (to_ : HdaNid) (anchor : Int) :
    (codec.ways from_ (levels + 1) to_ anchor).head? =
      if Hit to_ anchor then none
      else match (codec.conn to_).zipIdx.find? fun h => codec.starts from_ h.1 && decide (left to_ anchor ≤ 0) with
        | some h => some [⟨h.1, h.2⟩]
        | none => (codec.conn to_).zipIdx.findSome? fun h =>
            if codec.inner h.1 then
              ((codec.ways from_ levels h.1 (left to_ anchor)).head?).map fun rest => (⟨h.1, h.2⟩ : Hop) :: rest
            else none := by
  rw [ways]
  split
  · rfl
  · rw [List.head?_append, List.head?_map, List.head?_filter, List.head?_flatMap, hops, List.find?_map, List.findSome?_map]
    have deeper (h : HdaNid × Nat) :
        (if codec.inner h.1 then (ways codec from_ levels h.1 (left to_ anchor)).map (fun rest => (⟨h.1, h.2⟩ : Hop) :: rest)
          else []).head? =
        if codec.inner h.1 then
          ((codec.ways from_ levels h.1 (left to_ anchor)).head?).map fun rest => (⟨h.1, h.2⟩ : Hop) :: rest
        else none := by
      split
      · exact List.head?_map ..
      · rfl
    simp only [Function.comp_def, deeper]
    cases (codec.conn to_).zipIdx.find? fun h => codec.starts from_ h.1 && decide (left to_ anchor ≤ 0) with
    | none => rfl
    | some h => rfl

theorem parse_succ (levels : Nat) (to_ : HdaNid) (anchor : Int) (p : NidPath) :
    codec.parseNidPath from_ (levels + 1) to_ anchor p =
      if Hit to_ anchor then some (false, p)
      else match (codec.conn to_).zipIdx.find? fun h => codec.starts from_ h.1 && decide (left to_ anchor ≤ 0) with
        | some h => (codec.found to_ h.1 h.2 p).map fun p' => (true, p')
        | none =>
          if levels = 0 then some (false, p)
          else codec.tryConns (fun c p => codec.parseNidPath from_ levels c (left to_ anchor) p) to_
            (codec.conn to_).zipIdx p := by
  rw [parseNidPath]
  rfl

theorem parse_eq (levels : Nat) (to_ : HdaNid) (anchor : Int) (p : NidPath) :
    codec.parseNidPath from_ levels to_ anchor p =
      match (codec.ways from_ levels to_ anchor).head? with
      | none => some (false, p)
      | some way => (codec.fill to_ way p).map fun p' => (true, p') := by
  induction levels generalizing to_ anchor p with
  | zero => rfl
  | succ levels ih =>
    rw [head_ways, parse_succ]
    by_cases hit : Hit to_ anchor
    · rw [if_pos hit, if_pos hit]
    · rw [if_neg hit, if_neg hit]
      cases (codec.conn to_).zipIdx.find? fun h => codec.starts from_ h.1 && decide (left to_ anchor ≤ 0) with
      | some h => rfl
      | none =>
        have deeper := @tryConns_eq codec to_ (fun c p => codec.parseNidPath from_ levels c (left to_ anchor) p)
          (fun c => (codec.ways from_ levels c (left to_ anchor)).head?) p (fun c => ih c _ p) (codec.conn to_).zipIdx
        cases levels with
        | zero =>
          have none_ : ((codec.conn to_).zipIdx.findSome? fun h => if codec.inner h.1 then
              ((codec.ways from_ 0 h.1 (left to_ anchor)).head?).map fun rest => (⟨h.1, h.2⟩ : Hop) :: rest
            else none) = none := by
            apply List.findSome?_eq_none_iff.mpr
            intro h _
            simp [ways]
          simp only [none_, if_pos]
        | succ levels => exact deeper

/-! What a path is. -/

/-- The widgets of a path, read from its end: each is in the connection list of the one before, the
    last can be its start, and those between may be passed. -/
inductive Route (codec : HdaCodec) (from_ : HdaNid) : List HdaNid → Prop
  | last {w s : HdaNid} : s ∈ codec.conn w → codec.starts from_ s = true → Route codec from_ [w, s]
  | step {w c : HdaNid} {rest : List HdaNid} : c ∈ codec.conn w → codec.inner c = true → Route codec from_ (c :: rest) →
      Route codec from_ (w :: c :: rest)

structure Meets (anchor : Int) (nodes : List HdaNid) : Prop where
  passed : 0 < anchor → ∃ n ∈ nodes, (n.toNat : Int) = anchor
  avoided : anchor < 0 → ∀ n ∈ nodes, (n.toNat : Int) ≠ -anchor

structure Admissible (codec : HdaCodec) (from_ to_ : HdaNid) (anchor : Int) (nodes : List HdaNid) : Prop where
  route : codec.Route from_ nodes
  ends : nodes.head? = some to_
  fits : nodes.length ≤ maxNidPathDepth
  meets : Meets anchor nodes

def Passes : Int → List HdaNid → Prop
  | anchor, [] => anchor ≤ 0
  | anchor, w :: rest => ¬ Hit w anchor ∧ Passes (left w anchor) rest

theorem mem_hops {h : Hop} : h ∈ codec.hops to_ ↔ (codec.conn to_)[h.idx]? = some h.nid := by
  obtain ⟨nid, idx⟩ := h
  simp [hops, List.mem_map, Prod.exists, List.mk_mem_zipIdx_iff_getElem?]

theorem mem_ways_succ {levels : Nat} {way : List Hop} :
    way ∈ codec.ways from_ (levels + 1) to_ anchor ↔ ¬ Hit to_ anchor ∧
      ((∃ h ∈ codec.hops to_, (codec.starts from_ h.nid = true ∧ left to_ anchor ≤ 0) ∧ way = [h]) ∨
        ∃ h ∈ codec.hops to_, codec.inner h.nid = true ∧
          ∃ rest ∈ codec.ways from_ levels h.nid (left to_ anchor), way = h :: rest) := by
  rw [ways]
  by_cases hit : Hit to_ anchor
  · simp [hit]
  · rw [if_neg hit, List.mem_append, List.mem_map, List.mem_flatMap]
    simp only [List.mem_filter, Bool.and_eq_true, decide_eq_true_eq]
    constructor
    · rintro (⟨h, ⟨listed, starts⟩, rfl⟩ | ⟨h, listed, deeper⟩)
      · exact ⟨hit, .inl ⟨h, listed, starts, rfl⟩⟩
      · by_cases inside : codec.inner h.nid = true
        · rw [if_pos inside] at deeper
          obtain ⟨rest, further, rfl⟩ := List.mem_map.mp deeper
          exact ⟨hit, .inr ⟨h, listed, inside, rest, further, rfl⟩⟩
        · rw [if_neg inside] at deeper
          cases deeper
    · rintro ⟨-, ⟨h, listed, starts, rfl⟩ | ⟨h, listed, inside, rest, further, rfl⟩⟩
      · exact .inl ⟨h, ⟨listed, starts⟩, rfl⟩
      · refine .inr ⟨h, listed, ?_⟩
        rw [if_pos inside]
        exact List.mem_map.mpr ⟨rest, further, rfl⟩

def nodes (to_ : HdaNid) (way : List Hop) : List HdaNid := to_ :: way.map Hop.nid

theorem ways_sound {levels : Nat} {way : List Hop} (listed : way ∈ codec.ways from_ levels to_ anchor) :
    codec.Route from_ (nodes to_ way) ∧ way.length ≤ levels ∧ Passes anchor (nodes to_ way).dropLast := by
  induction levels generalizing to_ anchor way with
  | zero => cases listed
  | succ levels ih =>
    obtain ⟨clear, ⟨h, hop, ⟨starts, passed⟩, rfl⟩ | ⟨h, hop, inside, rest, further, rfl⟩⟩ := mem_ways_succ.mp listed
    · have connected := List.mem_of_getElem? (mem_hops.mp hop)
      exact ⟨.last connected starts, Nat.succ_le_succ (Nat.zero_le _), clear, passed⟩
    · have connected := List.mem_of_getElem? (mem_hops.mp hop)
      obtain ⟨route, length, passes⟩ := ih further
      exact ⟨.step connected inside route, Nat.succ_le_succ length, clear, passes⟩

theorem ways_complete {ns : List HdaNid} {levels : Nat} (route : codec.Route from_ ns) (ends : ns.head? = some to_)
    (length : ns.length ≤ levels + 1) (passes : Passes anchor ns.dropLast) :
    ∃ way, way ∈ codec.ways from_ levels to_ anchor := by
  induction route generalizing levels to_ anchor with
  | @last w s connected starts =>
    obtain rfl : w = to_ := Option.some.inj ends
    obtain ⟨levels, rfl⟩ := Nat.exists_eq_add_of_lt (Nat.lt_of_succ_lt_succ length)
    obtain ⟨i, at_⟩ := List.getElem?_of_mem connected
    exact ⟨_, mem_ways_succ.mpr ⟨passes.1, .inl ⟨⟨s, i⟩, mem_hops.mpr at_, ⟨starts, passes.2⟩, rfl⟩⟩⟩
  | @step w c rest connected inside further ih =>
    obtain rfl : w = to_ := Option.some.inj ends
    obtain ⟨i, at_⟩ := List.getElem?_of_mem connected
    cases levels with
    | zero =>
      simp at length
    | succ levels =>
      obtain ⟨way, listed⟩ := ih rfl (by simpa using length) passes.2
      exact ⟨_, mem_ways_succ.mpr ⟨passes.1, .inr ⟨⟨c, i⟩, mem_hops.mpr at_, inside, way, listed, rfl⟩⟩⟩

theorem passes_zero (ws : List HdaNid) : Passes 0 ws := by
  induction ws with
  | nil => exact Int.le_refl 0
  | cons w rest ih =>
    constructor
    · rintro ⟨other, same⟩
      rw [same] at other
      exact other rfl
    · have stays : left w 0 = 0 := by
        unfold left
        split <;> rfl
      rw [stays]
      exact ih

theorem Passes.meets {ws : List HdaNid} (passes : Passes anchor ws) :
    (0 < anchor → ∃ n ∈ ws, (n.toNat : Int) = anchor) ∧ (anchor < 0 → ∀ n ∈ ws, n ≠ BitVec.ofInt 16 (-anchor)) := by
  induction ws generalizing anchor with
  | nil =>
    have done : anchor ≤ 0 := passes
    exact ⟨fun positive => by omega, fun _ n inside => absurd inside List.not_mem_nil⟩
  | cons w rest ih =>
    obtain ⟨clear, further⟩ := passes
    by_cases here : (w.toNat : Int) = anchor
    · exact ⟨fun _ => ⟨w, List.mem_cons_self, here⟩, fun negative => by omega⟩
    · rw [left, if_neg here] at further
      obtain ⟨passed, avoided⟩ := ih further
      constructor
      · intro positive
        obtain ⟨n, inside, same⟩ := passed positive
        exact ⟨n, List.mem_cons_of_mem w inside, same⟩
      · intro negative n inside
        rcases List.mem_cons.mp inside with same | later
        · exact fun hit => clear ⟨here, same ▸ hit⟩
        · exact avoided negative n later

theorem passes_of {ws : List HdaNid} (passed : 0 < anchor → ∃ n ∈ ws, (n.toNat : Int) = anchor)
    (clear : anchor ≠ 0 → ∀ n ∈ ws, n ≠ BitVec.ofInt 16 (-anchor)) : Passes anchor ws := by
  induction ws with
  | nil =>
    show anchor ≤ 0
    by_contra positive
    obtain ⟨n, inside, -⟩ := passed (by omega)
    cases inside
  | cons w rest ih =>
    have unhit : ¬ Hit w anchor := by
      rintro ⟨other, same⟩
      by_cases zero : anchor = 0
      · rw [zero] at other same
        rw [same] at other
        exact other rfl
      · exact clear zero w List.mem_cons_self same
    refine ⟨unhit, ?_⟩
    by_cases here : (w.toNat : Int) = anchor
    · rw [left, if_pos here]
      exact passes_zero rest
    · rw [left, if_neg here]
      refine ih (fun positive => ?_) fun other n inside => clear other n (List.mem_cons_of_mem w inside)
      obtain ⟨n, inside, same⟩ := passed positive
      rcases List.mem_cons.mp inside with first | later
      · exact absurd (first ▸ same) here
      · exact ⟨n, later, same⟩

def Picks (codec : HdaCodec) : HdaNid → List Hop → Prop
  | _, [] => True
  | to_, h :: rest =>
    ((codec.conn to_)[h.idx]? = some h.nid ∧ ∀ j < h.idx, (codec.conn to_)[j]? ≠ some h.nid) ∧ Picks codec h.nid rest

theorem first_place {c : HdaNid} {i : Nat} {before after : List (HdaNid × Nat)}
    (split : (codec.conn to_).zipIdx = before ++ (c, i) :: after) (other : ∀ h ∈ before, h.1 ≠ c) :
    (codec.conn to_)[i]? = some c ∧ ∀ j < i, (codec.conn to_)[j]? ≠ some c := by
  have at_ : (codec.conn to_).zipIdx[before.length]? = some (c, i) := by simp [split]
  rw [List.getElem?_zipIdx] at at_
  obtain ⟨found, place⟩ : (codec.conn to_)[before.length]? = some c ∧ before.length = i := by
    cases here : (codec.conn to_)[before.length]? with
    | none => simp [here] at at_
    | some u => simpa [here] using at_
  refine ⟨place ▸ found, fun j less same => ?_⟩
  have at_j : (codec.conn to_).zipIdx[j]? = some (c, j) := by simp [List.getElem?_zipIdx, same]
  rw [split, List.getElem?_append_left (by omega)] at at_j
  exact other _ (List.mem_of_getElem? at_j) rfl

theorem head_picks {levels : Nat} {way : List Hop} (head : (codec.ways from_ levels to_ anchor).head? = some way) :
    codec.Picks to_ way := by
  induction levels generalizing to_ anchor way with
  | zero => cases head
  | succ levels ih =>
    rw [head_ways] at head
    split at head
    · cases head
    · split at head
      · next h direct =>
        obtain rfl : [⟨h.1, h.2⟩] = way := Option.some.inj head
        obtain ⟨test, before, after, split, none_⟩ := List.find?_eq_some_iff_append.mp direct
        refine ⟨first_place split fun u inside same => ?_, trivial⟩
        have fails := none_ u inside
        rw [same] at fails
        change (!(codec.starts from_ h.1 && decide (left to_ anchor ≤ 0))) = true at fails
        rw [test] at fails
        cases fails
      · next deeper =>
        obtain ⟨before, h, after, split, some_, none_⟩ := List.findSome?_eq_some_iff.mp head
        by_cases inside : codec.inner h.1 = true
        · rw [if_pos inside, Option.map_eq_some_iff] at some_
          obtain ⟨rest, first, rfl⟩ := some_
          refine ⟨first_place split fun u listed same => ?_, ih first⟩
          have fails := none_ u listed
          rw [same, if_pos inside, first] at fails
          cases fails
        · rw [if_neg inside] at some_
          cases some_

/-! What the search stores. -/

theorem take_succ_set {α : Type} {l : List α} {n : Nat} (x : α) (inside : n < l.length) :
    (l.set n x).take (n + 1) = l.take n ++ [x] := by
  rw [List.take_succ_eq_append_getElem (by simpa using inside), List.getElem_set_self, List.take_set_of_le (Nat.le_refl n)]

structure Filled (way : List Hop) (p p' : NidPath) : Prop where
  depth : p'.depth = way.length
  path : p'.path.take way.length = (way.map Hop.nid).reverse
  idx : (p'.idx.drop 1).take way.length = (way.map fun h => BitVec.ofNat 8 h.idx).reverse

theorem fill_filled (codec : HdaCodec) {p : NidPath} (fresh : p.depth = 0) (to_ : HdaNid) {way : List Hop} (short : way.length < maxNidPathDepth) :
    ∃ p', codec.fill to_ way p = some p' ∧ Filled way p p' := by
  induction way generalizing to_ with
  | nil => exact ⟨p, rfl, fresh, by simp, by simp⟩
  | cons h rest ih =>
    obtain ⟨p', filled, depth, path, idx⟩ := ih h.nid (Nat.lt_of_succ_lt short)
    have room : p'.depth + 1 < maxNidPathDepth := by rw [depth]; exact short
    have step : codec.found to_ h.nid h.idx p' = some _ := if_pos room
    refine ⟨_, by rw [fill, filled, Option.bind_some]; exact step, ?_, ?_, ?_⟩
    · exact congrArg Nat.succ depth
    · show (p'.path.set p'.depth h.nid).take (rest.length + 1) = _
      rw [depth, take_succ_set _ (by rw [p'.path_size]; exact Nat.lt_of_succ_lt short), path, List.map_cons, List.reverse_cons]
    · show ((p'.idx.set (p'.depth + 1) _).drop 1).take (rest.length + 1) = _
      have size := p'.idx_size
      rw [depth, List.drop_set, if_neg (by omega), Nat.add_sub_cancel, take_succ_set _ (by
        rw [List.length_drop]
        simp only [List.length_cons] at short
        omega), idx, List.map_cons, List.reverse_cons]

theorem fill_none {p : NidPath} (fresh : p.depth = 0) (to_ : HdaNid) {way : List Hop} (long : maxNidPathDepth ≤ way.length) :
    codec.fill to_ way p = none := by
  induction way generalizing to_ with
  | nil => cases long
  | cons h rest ih =>
    by_cases short : rest.length < maxNidPathDepth
    · obtain ⟨p', filled, depth, -, -⟩ := fill_filled codec fresh h.nid short
      have full : ¬ p'.depth + 1 < maxNidPathDepth := by
        rw [depth]
        exact Nat.not_lt.mpr long
      rw [fill, filled, Option.bind_some, found, if_neg full]
    · rw [fill, ih h.nid (Nat.not_lt.mp short)]
      rfl

theorem Picks.at {way : List Hop} (picks : codec.Picks to_ way) {j : Nat} {h : Hop} (place : way[j]? = some h) :
    ∃ w, (nodes to_ way)[j]? = some w ∧ (nodes to_ way)[j + 1]? = some h.nid ∧ (codec.conn w)[h.idx]? = some h.nid ∧
      ∀ l < h.idx, (codec.conn w)[l]? ≠ some h.nid := by
  induction way generalizing to_ j with
  | nil => cases place
  | cons g rest ih =>
    obtain ⟨⟨taken, first⟩, further⟩ := picks
    cases j with
    | zero =>
      obtain rfl : g = h := Option.some.inj place
      exact ⟨to_, rfl, rfl, taken, first⟩
    | succ j => exact ih further place

/-- A path as the caller gets it: the widgets from the start to the end, and for each of them but the
    first the place of the one before in its connection list. -/
structure Sound (codec : HdaCodec) (from_ to_ : HdaNid) (anchor : Int) (p : NidPath) : Prop where
  nodes : ∃ ns, codec.Admissible from_ to_ anchor ns ∧ p.depth = ns.length ∧ p.path.take p.depth = ns.reverse
  index : ∀ i w u, i + 1 < p.depth → p.path[i + 1]? = some w → p.path[i]? = some u →
    ∃ x, p.idx[i + 1]? = some x ∧ (codec.conn w)[x.toNat]? = some u

structure Stored (to_ : HdaNid) (way : List Hop) (p : NidPath) : Prop where
  depth : p.depth = (HdaCodec.nodes to_ way).length
  path : p.path.take p.depth = (HdaCodec.nodes to_ way).reverse
  idx : (p.idx.drop 1).take way.length = (way.map fun h => BitVec.ofNat 8 h.idx).reverse

theorem nodes_length (to_ : HdaNid) (way : List Hop) : (nodes to_ way).length = way.length + 1 := by simp [nodes]

theorem Stored.at {way : List Hop} {p : NidPath} (stored : Stored to_ way p) {i : Nat} (inside : i < p.depth) :
    p.path[i]? = (HdaCodec.nodes to_ way)[p.depth - 1 - i]? := by
  have same : (p.path.take p.depth)[i]? = p.path[i]? := List.getElem?_take_of_lt inside
  have depth := stored.depth
  rw [← same, stored.path, List.getElem?_reverse (by omega), ← depth]

theorem Stored.idx_at {way : List Hop} {p : NidPath} (stored : Stored to_ way p) {j : Nat} {h : Hop}
    (place : way[j]? = some h) : p.idx[way.length - 1 - j + 1]? = some (BitVec.ofNat 8 h.idx) := by
  obtain ⟨inside, -⟩ := List.getElem?_eq_some_iff.mp place
  have same : ((p.idx.drop 1).take way.length)[way.length - 1 - j]? = p.idx[way.length - 1 - j + 1]? := by
    rw [List.getElem?_take_of_lt (by omega), List.getElem?_drop, Nat.add_comm]
  rw [← same, stored.idx, List.getElem?_reverse (by simp; omega), List.getElem?_map, List.length_map]
  have back : way.length - 1 - (way.length - 1 - j) = j := by omega
  rw [back, place]
  rfl

theorem Stored.index_iff {way : List Hop} {p : NidPath} (stored : Stored to_ way p) (picks : codec.Picks to_ way) :
    (∀ i w u, i + 1 < p.depth → p.path[i + 1]? = some w → p.path[i]? = some u →
      ∃ x, p.idx[i + 1]? = some x ∧ (codec.conn w)[x.toNat]? = some u) ↔ ∀ h ∈ way, h.idx < 256 := by
  have depth : p.depth = way.length + 1 := stored.depth.trans (nodes_length to_ way)
  constructor
  · intro index h listed
    obtain ⟨j, place⟩ := List.getElem?_of_mem listed
    obtain ⟨inside, -⟩ := List.getElem?_eq_some_iff.mp place
    obtain ⟨w, at_w, at_h, -, first⟩ := picks.at place
    have up : p.path[way.length - 1 - j + 1]? = some w := by
      rw [stored.at (by omega), ← at_w]
      congr 1
      omega
    have down : p.path[way.length - 1 - j]? = some h.nid := by
      rw [stored.at (by omega), ← at_h]
      congr 1
      omega
    obtain ⟨x, stored_x, found⟩ := index _ w h.nid (by omega) up down
    obtain rfl : BitVec.ofNat 8 h.idx = x := Option.some.inj ((stored.idx_at place).symm.trans stored_x)
    rw [BitVec.toNat_ofNat] at found
    by_contra large
    exact first _ (by omega) found
  · intro small i w u inside up down
    obtain ⟨h, place⟩ : ∃ h, way[way.length - 1 - i]? = some h := ⟨_, List.getElem?_eq_getElem (by omega)⟩
    obtain ⟨w', at_w, at_h, taken, -⟩ := picks.at place
    rw [stored.at inside] at up
    rw [stored.at (by omega)] at down
    have above : p.depth - 1 - (i + 1) = way.length - 1 - i := by omega
    have below : p.depth - 1 - i = way.length - 1 - i + 1 := by omega
    rw [above, at_w] at up
    rw [below, at_h] at down
    cases up
    cases down
    have index := stored.idx_at place
    have back : way.length - 1 - (way.length - 1 - i) = i := by omega
    rw [back] at index
    refine ⟨_, index, ?_⟩
    rw [BitVec.toNat_ofNat, Nat.mod_eq_of_lt (small h (List.mem_of_getElem? place))]
    exact taken

/-! The search as a whole. -/

theorem ofInt_of_toNat {n : HdaNid} {x : Int} (same : (n.toNat : Int) = x) : n = BitVec.ofInt 16 x := by
  rw [← same, BitVec.ofInt_natCast, BitVec.ofNat_toNat, BitVec.setWidth_eq]

def StartsClear (anchor : Int) (way : List Hop) : Prop := anchor < 0 → ∀ h ∈ way.getLast?, (h.nid.toNat : Int) ≠ -anchor

/-- The anchor condition sets a path apart from what the search takes: it is met at the start only, or
    the number that the search excludes is on the way. -/
def Blocked (anchor : Int) (ns : List HdaNid) : Prop :=
  anchor ≠ 0 ∧ ((∃ s ∈ ns.getLast?, (s.toNat : Int) = anchor) ∨ ∃ w ∈ ns.dropLast, w = BitVec.ofInt 16 (-anchor))

theorem meets_iff {levels : Nat} {way : List Hop} (listed : way ∈ codec.ways from_ levels to_ anchor) :
    Meets anchor (nodes to_ way) ↔ StartsClear anchor way := by
  obtain ⟨-, -, passes⟩ := ways_sound listed
  obtain ⟨passed, avoided⟩ := passes.meets
  obtain ⟨front, h, rfl⟩ : ∃ front h, way = front ++ [h] := by
    rcases List.eq_nil_or_concat way with empty | ⟨front, h, whole⟩
    · rw [empty] at listed
      cases levels with
      | zero => cases listed
      | succ levels => simp [mem_ways_succ] at listed
    · exact ⟨front, h, whole.trans List.concat_eq_append⟩
  have split : nodes to_ (front ++ [h]) = (to_ :: front.map Hop.nid) ++ [h.nid] := by simp [nodes]
  rw [split, List.dropLast_concat] at passed avoided
  rw [split, StartsClear, List.getLast?_concat]
  constructor
  · intro meets negative g last
    obtain rfl : h = g := Option.some.inj last
    exact meets.avoided negative h.nid (by simp)
  · intro clear
    refine ⟨fun positive => ?_, fun negative n inside => ?_⟩
    · obtain ⟨n, inside, same⟩ := passed positive
      exact ⟨n, List.mem_append_left _ inside, same⟩
    · rcases List.mem_append.mp inside with between | last
      · exact fun same => avoided negative n between (ofInt_of_toNat same)
      · rw [List.mem_singleton.mp last]
        exact clear negative h rfl

theorem admissible_found {ns : List HdaNid} (admissible : codec.Admissible from_ to_ anchor ns)
    (open_ : ¬ Blocked anchor ns) : ∃ way, way ∈ codec.ways from_ maxNidPathDepth to_ anchor := by
  have long := admissible.fits
  apply ways_complete admissible.route admissible.ends (by omega)
  apply passes_of
  · intro positive
    obtain ⟨n, inside, same⟩ := admissible.meets.passed positive
    have whole : ns ≠ [] := List.ne_nil_of_mem inside
    rw [← List.dropLast_append_getLast whole, List.mem_append] at inside
    rcases inside with between | last
    · exact ⟨n, between, same⟩
    · have start : ns.getLast? = some n := by rw [List.getLast?_eq_some_getLast whole, List.mem_singleton.mp last]
      exact absurd ⟨by omega, .inl ⟨n, start, same⟩⟩ open_
  · intro other n between same
    exact open_ ⟨other, .inr ⟨n, between, same⟩⟩

def ParseHolds (codec : HdaCodec) (from_ to_ : HdaNid) (anchor : Int) (p : NidPath) : Prop :=
  ∃ ret p', codec.sndHdaParseNidPath from_ to_ anchor p = some (ret, p') ∧ (ret = true → codec.Sound from_ to_ anchor p') ∧
    (ret = false → p' = p ∧ ∀ ns, ¬ codec.Admissible from_ to_ anchor ns)

/-- The first way has at most nine connections, at places that a byte holds, and does not start at the
    widget to be avoided; where there is none, no path is set apart by its anchor. -/
def ParseFits (codec : HdaCodec) (from_ to_ : HdaNid) (anchor : Int) : Prop :=
  match (codec.ways from_ maxNidPathDepth to_ anchor).head? with
  | none => ∀ ns, codec.Admissible from_ to_ anchor ns → ¬ Blocked anchor ns
  | some way => way.length < maxNidPathDepth ∧ (∀ h ∈ way, h.idx < 256) ∧ StartsClear anchor way

theorem set_size (p : NidPath) (nid : HdaNid) : (p.path.set p.depth nid).length = maxNidPathDepth := by
  rw [List.length_set, p.path_size]

def ended (to_ : HdaNid) (p : NidPath) : NidPath :=
  { p with
    depth := p.depth + 1
    path := p.path.set p.depth to_
    path_size := set_size p to_ }

theorem parse_stored {p : NidPath} (fresh : p.depth = 0) {way : List Hop}
    (head : (codec.ways from_ maxNidPathDepth to_ anchor).head? = some way) (short : way.length < maxNidPathDepth) :
    ∃ p', codec.sndHdaParseNidPath from_ to_ anchor p = some (true, p') ∧ Stored to_ way p' := by
  obtain ⟨filled, fill, depth, path, idx⟩ := fill_filled codec fresh to_ short
  have room : filled.depth < maxNidPathDepth := by rw [depth]; exact short
  refine ⟨ended to_ filled, ?_, ?_, ?_, idx⟩
  · rw [sndHdaParseNidPath, parse_eq, head]
    simp only [fill, Option.map_some]
    exact if_pos room
  · show filled.depth + 1 = _
    rw [depth, nodes_length]
  · show (filled.path.set filled.depth to_).take (filled.depth + 1) = _
    rw [depth, take_succ_set _ (by rw [filled.path_size]; exact short), path, nodes, List.reverse_cons]

theorem parse_sound {way : List Hop} {p : NidPath} (head : (codec.ways from_ maxNidPathDepth to_ anchor).head? = some way)
    (short : way.length < maxNidPathDepth) (stored : Stored to_ way p) :
    codec.Sound from_ to_ anchor p ↔ (∀ h ∈ way, h.idx < 256) ∧ StartsClear anchor way := by
  have listed : way ∈ codec.ways from_ maxNidPathDepth to_ anchor := List.mem_of_mem_head? head
  rw [← stored.index_iff (head_picks head), ← meets_iff listed]
  constructor
  · intro sound
    obtain ⟨ns, admissible, -, path⟩ := sound.nodes
    have same : nodes to_ way = ns := List.reverse_injective (stored.path.symm.trans path)
    exact ⟨sound.index, same ▸ admissible.meets⟩
  · rintro ⟨index, meets⟩
    have fits : (nodes to_ way).length ≤ maxNidPathDepth := by rw [nodes_length]; exact short
    exact ⟨⟨nodes to_ way, ⟨(ways_sound listed).1, rfl, fits, meets⟩, stored.depth, stored.path⟩, index⟩

theorem parse_none {p : NidPath} (head : (codec.ways from_ maxNidPathDepth to_ anchor).head? = none) :
    codec.sndHdaParseNidPath from_ to_ anchor p = some (false, p) := by
  rw [sndHdaParseNidPath, parse_eq, head]

theorem parse_long {p : NidPath} (fresh : p.depth = 0) {way : List Hop}
    (head : (codec.ways from_ maxNidPathDepth to_ anchor).head? = some way) (long : maxNidPathDepth ≤ way.length) :
    codec.sndHdaParseNidPath from_ to_ anchor p = none := by
  rw [sndHdaParseNidPath, parse_eq, head]
  simp only [fill_none fresh to_ long, Option.map_none]

theorem parse_iff {p : NidPath} (fresh : p.depth = 0) :
    codec.ParseHolds from_ to_ anchor p ↔ codec.ParseFits from_ to_ anchor := by
  unfold ParseHolds ParseFits
  cases head : (codec.ways from_ maxNidPathDepth to_ anchor).head? with
  | none =>
    have empty : codec.ways from_ maxNidPathDepth to_ anchor = [] := List.head?_eq_none_iff.mp head
    rw [parse_none head]
    constructor
    · rintro ⟨ret, p', run, -, fails⟩ ns admissible
      cases run
      exact absurd admissible ((fails rfl).2 ns)
    · intro apart
      refine ⟨false, p, rfl, ?_, ?_⟩
      · intro succeeds
        cases succeeds
      · intro _
        refine ⟨rfl, fun ns admissible => ?_⟩
        obtain ⟨way, listed⟩ := admissible_found admissible (apart ns admissible)
        rw [empty] at listed
        cases listed
  | some way =>
    by_cases short : way.length < maxNidPathDepth
    · obtain ⟨p', run, stored⟩ := parse_stored fresh head short
      have sound := parse_sound head short stored
      rw [run]
      constructor
      · rintro ⟨ret, p'', same, holds, -⟩
        cases same
        exact ⟨short, sound.mp (holds rfl)⟩
      · rintro ⟨-, rest⟩
        exact ⟨true, p', rfl, fun _ => sound.mpr rest, fun fails => by cases fails⟩
    · rw [parse_long fresh head (Nat.not_lt.mp short)]
      constructor
      · rintro ⟨ret, p', none_, -⟩
        cases none_
      · exact fun fits => absurd fits.1 short

/-! Paths that are known already. -/

structure Anchor where
  value : Int
  small : value.natAbs < 2 ^ 16

def widgets (p : NidPath) : List HdaNid := p.path.take p.depth

def AddHolds (codec : HdaCodec) (from_ to_ : HdaNid) (anchor : Int) (allocated : Bool) : Prop :=
  ∃ ret paths, codec.sndHdaAddNewPath from_ to_ anchor allocated = some (ret, paths) ∧ ∀ p ∈ ret, Meets anchor (widgets p)

def searching (codec : HdaCodec) : HdaCodec := { codec with paths := codec.paths ++ [NidPath.zero] }

/-- What `snd_hda_add_new_path` looks at comes before the search, or the first way is short and does not
    start at the widget to be avoided; a known path does not have that widget either. -/
def AddFits (codec : HdaCodec) (from_ to_ : HdaNid) (anchor : Int) (allocated : Bool) : Prop :=
  (from_ = 0 ∨ to_ = 0 ∨ codec.isReachablePath from_ to_ = true) →
    match codec.getNidPath from_ to_ anchor with
    | some p => anchor < 0 → ∀ n ∈ widgets p, (n.toNat : Int) ≠ -anchor
    | none => allocated = true →
      ∀ way ∈ (codec.searching.ways from_ maxNidPathDepth to_ anchor).head?,
        way.length < maxNidPathDepth ∧ StartsClear anchor way

theorem meets_reverse {ns : List HdaNid} : Meets anchor ns.reverse ↔ Meets anchor ns := by
  constructor <;> exact fun meets => ⟨by simpa using meets.passed, by simpa using meets.avoided⟩

theorem known_meets (a : Anchor) {p : NidPath} (known : codec.getNidPath from_ to_ a.value = some p) :
    Meets a.value (widgets p) ↔ (a.value < 0 → ∀ n ∈ widgets p, (n.toNat : Int) ≠ -a.value) := by
  refine ⟨Meets.avoided, fun avoided => ⟨fun positive => ?_, avoided⟩⟩
  have test := List.find?_some known
  have small := a.small
  have inside : isNidContained p (BitVec.ofInt 16 a.value) = true := by
    have unzero : a.value ≠ 0 := by omega
    have unneg : ¬ a.value < 0 := by omega
    simp [unzero, unneg] at test
    exact test.2.2
  refine ⟨BitVec.ofInt 16 a.value, by simpa [isNidContained, widgets] using inside, ?_⟩
  rw [BitVec.toNat_ofInt]
  omega

theorem add_iff (a : Anchor) (allocated : Bool) :
    codec.AddHolds from_ to_ a.value allocated ↔ codec.AddFits from_ to_ a.value allocated := by
  have none_ : ∀ p ∈ (none : Option NidPath), Meets a.value (widgets p) := fun p is => by cases is
  unfold AddHolds AddFits sndHdaAddNewPath
  by_cases away : from_ ≠ 0 ∧ to_ ≠ 0 ∧ codec.isReachablePath from_ to_ = false
  · rw [if_pos away]
    refine iff_of_true ⟨none, codec.paths, rfl, none_⟩ fun reached => ?_
    obtain ⟨from', to', unreached⟩ := away
    rcases reached with zero | zero | yes
    · exact absurd zero from'
    · exact absurd zero to'
    · rw [unreached] at yes
      cases yes
  · rw [if_neg away]
    have reached : from_ = 0 ∨ to_ = 0 ∨ codec.isReachablePath from_ to_ = true := by
      by_contra none_
      simp only [not_or, Bool.not_eq_true] at none_
      exact away none_
    cases known : codec.getNidPath from_ to_ a.value with
    | some p =>
      have met := known_meets a known
      constructor
      · rintro ⟨ret, paths, run, meets⟩ -
        cases run
        exact met.mp (meets p rfl)
      · intro fits
        refine ⟨some p, codec.paths, rfl, fun q is => ?_⟩
        cases is
        exact met.mpr (fits reached)
    | none =>
      cases allocated
      · exact iff_of_true ⟨none, codec.paths, rfl, none_⟩ fun _ fails => by cases fails
      · have searched : ({ codec with paths := codec.paths ++ [NidPath.zero] } : HdaCodec) = codec.searching := rfl
        dsimp only
        rw [if_pos rfl, searched]
        cases head : (codec.searching.ways from_ maxNidPathDepth to_ a.value).head? with
        | none =>
          rw [parse_none head]
          exact iff_of_true ⟨none, codec.paths, rfl, none_⟩ fun _ _ way is => by cases is
        | some way =>
          by_cases short : way.length < maxNidPathDepth
          · obtain ⟨p', run, stored⟩ := parse_stored (p := NidPath.zero) rfl head short
            have met : Meets a.value (widgets p') ↔ StartsClear a.value way := by
              rw [widgets, stored.path, meets_reverse, meets_iff (List.mem_of_mem_head? head)]
            rw [run]
            constructor
            · rintro ⟨ret, paths, same, meets⟩ - - way' is
              cases same
              cases is
              exact ⟨short, met.mp (meets p' rfl)⟩
            · intro fits
              refine ⟨some p', codec.paths ++ [p'], rfl, fun q is => ?_⟩
              cases is
              exact met.mpr (fits reached rfl way rfl).2
          · rw [parse_long rfl head (Nat.not_lt.mp short)]
            constructor
            · rintro ⟨ret, paths, same, -⟩
              cases same
            · exact fun fits => absurd (fits reached rfl way rfl).1 short

/-- The search and the paths that are known are right exactly in these cases. -/
theorem path_search_iff (codec : HdaCodec) (from_ to_ : HdaNid) (a : Anchor) (p : NidPath) (allocated : Bool) :
    codec.ParseHolds from_ to_ a.value { p with depth := 0 } ∧ codec.AddHolds from_ to_ a.value allocated ↔
      codec.ParseFits from_ to_ a.value ∧ codec.AddFits from_ to_ a.value allocated :=
  and_congr (parse_iff rfl) (add_iff a allocated)

def chain : HdaCodec where
  getWcaps := fun _ => 0x200000
  conn := fun nid => if 2 < nid ∧ nid ≤ 12 then [nid - 1] else []
  paths := []

/-- The path of eleven widgets is stored behind the ends of the arrays. -/
theorem chain_overruns : ¬ (chain.ParseHolds 2 12 0 NidPath.zero ∧ chain.AddHolds 2 12 0 true) := by
  rintro ⟨⟨ret, p', run, -⟩, -⟩
  have outside : (chain.sndHdaParseNidPath 2 12 0 NidPath.zero).isNone = true := by decide
  rw [run] at outside
  cases outside

end HdaCodec

end AlsaDriver.Hda
