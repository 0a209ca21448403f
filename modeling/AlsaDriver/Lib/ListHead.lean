import Mathlib.Logic.Function.Basic
import Mathlib.Data.List.Nodup

namespace ListHead

universe u

/-- The `next` and `prev` pointers of intrusive list nodes. -/
structure Links (N : Type u) where
  next : N → N
  prev : N → N

variable {N : Type u} [DecidableEq N]

def initListHead (h : Links N) (list : N) : Links N where
  next := Function.update h.next list list
  prev := Function.update h.prev list list

/-- `__list_add`: `new` goes between the neighbours `prev` and `next`. -/
def listInsert (h : Links N) (new prev next : N) : Links N where
  next := Function.update (Function.update h.next new next) prev new
  prev := Function.update (Function.update h.prev next new) new prev

def listAddTail (h : Links N) (new head : N) : Links N := listInsert h new (h.prev head) head

/-- `__list_del`: the neighbours `prev` and `next` of an entry point at each other. -/
def listJoin (h : Links N) (prev next : N) : Links N where
  next := Function.update h.next prev next
  prev := Function.update h.prev next prev

/-- `list_del`; `poison` stands in for the two poison values. -/
def listDel (h : Links N) (poison entry : N) : Links N :=
  let h := listJoin h (h.prev entry) (h.next entry)
  { next := Function.update h.next entry poison, prev := Function.update h.prev entry poison }

omit [DecidableEq N] in
/-- The nodes between `a` and `b`, linked both ways. -/
def Links.Path (h : Links N) : N → List N → N → Prop
  | a, [], b => h.next a = b ∧ h.prev b = a
  | a, x :: rest, b => (h.next a = x ∧ h.prev x = a) ∧ Links.Path h x rest b

/-- `head` is the head of the circular list of `nodes`. -/
structure Links.Ring (h : Links N) (head : N) (nodes : List N) : Prop where
  nodup : (head :: nodes).Nodup
  path : h.Path head nodes head

omit [DecidableEq N]

theorem Links.path_append {h : Links N} {a x b : N} {left right : List N} :
    h.Path a (left ++ x :: right) b ↔ h.Path a left x ∧ h.Path x right b := by
  induction left generalizing a with
  | nil => exact Iff.rfl
  | cons y rest ih =>
    simp only [List.cons_append, Links.Path, ih]
    exact and_assoc.symm

theorem Links.Path.frame {h h' : Links N} {a b : N} {nodes : List N} (path : h.Path a nodes b)
    (next : ∀ x ∈ a :: nodes, h'.next x = h.next x) (prev : ∀ x ∈ nodes ++ [b], h'.prev x = h.prev x) :
    h'.Path a nodes b := by
  induction nodes generalizing a with
  | nil =>
    have first := next a (List.mem_singleton.mpr rfl)
    have last := prev b (List.mem_singleton.mpr rfl)
    exact ⟨first.trans path.1, last.trans path.2⟩
  | cons x rest ih =>
    have first := next a List.mem_cons_self
    have second := prev x List.mem_cons_self
    refine ⟨⟨first.trans path.1.1, second.trans path.1.2⟩, ih path.2 ?_ ?_⟩
    · intro y member
      exact next y (List.mem_cons_of_mem a member)
    · intro y member
      exact prev y (List.mem_cons_of_mem x member)

theorem Links.Ring.frame {h h' : Links N} {head : N} {nodes : List N} (ring : h.Ring head nodes)
    (same : ∀ x ∈ head :: nodes, h'.next x = h.next x ∧ h'.prev x = h.prev x) : h'.Ring head nodes := by
  refine ⟨ring.nodup, ring.path.frame (fun x member => (same x member).1) ?_⟩
  intro x member
  apply (same x _).2
  rcases List.mem_append.mp member with inside | last
  · exact List.mem_cons_of_mem head inside
  · rw [List.mem_singleton.mp last]
    exact List.mem_cons_self

theorem Links.Path.prev_mem {h : Links N} {a b : N} {nodes : List N} (path : h.Path a nodes b) :
    h.prev b ∈ a :: nodes := by
  induction nodes generalizing a with
  | nil =>
    rw [path.2]
    exact List.mem_cons_self
  | cons x rest ih => exact List.mem_cons_of_mem a (ih path.2)

theorem Links.Path.next_mem {h : Links N} {a b : N} {nodes : List N} (path : h.Path a nodes b) :
    h.next a ∈ nodes ++ [b] := by
  cases nodes with
  | nil =>
    rw [path.1]
    exact List.mem_singleton.mpr rfl
  | cons x rest =>
    rw [path.1.1]
    exact List.mem_cons_self

variable [DecidableEq N]

theorem Links.ring_initListHead (h : Links N) (list : N) : (initListHead h list).Ring list [] :=
  ⟨List.nodup_singleton list, Function.update_self .., Function.update_self ..⟩

theorem initListHead_other (h : Links N) {list x : N} (other : x ≠ list) :
    (initListHead h list).next x = h.next x ∧ (initListHead h list).prev x = h.prev x :=
  ⟨Function.update_of_ne other .., Function.update_of_ne other ..⟩

theorem Links.Path.insertLast {h : Links N} {a b new : N} {nodes : List N} (path : h.Path a nodes b)
    (nodup : (a :: nodes).Nodup) (target : b ∉ nodes) (fresh : new ∉ a :: nodes) (other : new ≠ b) :
    (listInsert h new (h.prev b) b).Path a (nodes ++ [new]) b := by
  induction nodes generalizing a with
  | nil =>
    have last : h.prev b = a := path.2
    have different : new ≠ a := fun same => fresh (by rw [same]; exact List.mem_cons_self)
    refine ⟨⟨?_, ?_⟩, ?_, ?_⟩
    · simp [listInsert, last]
    · simp [listInsert, last]
    · simp [listInsert, last, different]
    · simp [listInsert, other.symm]
  | cons x rest ih =>
    have member := path.2.prev_mem
    have before : a ≠ h.prev b := fun same => (List.nodup_cons.mp nodup).1 (same ▸ member)
    have newFirst : a ≠ new := fun same => fresh (same ▸ List.mem_cons_self)
    have newSecond : x ≠ new := fun same => fresh (same ▸ List.mem_cons_of_mem a List.mem_cons_self)
    have notTarget : x ≠ b := fun same => target (same ▸ List.mem_cons_self)
    refine ⟨⟨?_, ?_⟩, ?_⟩
    · simp [listInsert, before, newFirst, path.1.1]
    · simp [listInsert, newSecond, notTarget, path.1.2]
    · apply ih path.2 (List.nodup_cons.mp nodup).2
      · exact fun inside => target (List.mem_cons_of_mem x inside)
      · exact fun inside => fresh (List.mem_cons_of_mem a inside)

theorem Links.Ring.addTail {h : Links N} {head new : N} {nodes : List N} (ring : h.Ring head nodes)
    (fresh : new ∉ head :: nodes) : (listAddTail h new head).Ring head (nodes ++ [new]) := by
  have parts := List.nodup_cons.mp ring.nodup
  constructor
  · rw [← List.cons_append, List.nodup_append]
    refine ⟨ring.nodup, List.nodup_singleton new, ?_⟩
    intro x inside y last same
    rw [List.mem_singleton] at last
    exact fresh (last ▸ same ▸ inside)
  · apply ring.path.insertLast ring.nodup parts.1 fresh
    exact fun same => fresh (same ▸ List.mem_cons_self)

theorem listAddTail_other {h : Links N} {head new x : N} {nodes : List N} (ring : h.Ring head nodes)
    (outside : x ∉ head :: nodes) (other : x ≠ new) :
    (listAddTail h new head).next x = h.next x ∧ (listAddTail h new head).prev x = h.prev x := by
  have last : x ≠ h.prev head := fun same => outside (same ▸ ring.path.prev_mem)
  have first : x ≠ head := fun same => outside (same ▸ List.mem_cons_self)
  simp [listAddTail, listInsert, last, first, other]

theorem Links.Path.delete {h : Links N} {a b entry : N} (poison : N) {left right : List N}
    (before : h.Path a left entry) (after : h.Path entry right b) (nodup : (a :: (left ++ entry :: right)).Nodup)
    (target : b ∉ left ++ entry :: right) : (listDel h poison entry).Path a (left ++ right) b := by
  have leaves : b ≠ entry := fun same => target (by simp [same])
  induction left generalizing a with
  | nil =>
    have previous : h.prev entry = a := before.2
    obtain ⟨first, second⟩ := List.nodup_cons.mp nodup
    obtain ⟨third, -⟩ := List.nodup_cons.mp second
    have start : a ≠ entry := fun same => first (by simp [same])
    cases right with
    | nil =>
      have following : h.next entry = b := after.1
      constructor
      · simp [listDel, listJoin, previous, following, start]
      · simp [listDel, listJoin, previous, following, leaves]
    | cons x rest =>
      have following : h.next entry = x := after.1.1
      have different : x ≠ entry := fun same => third (same ▸ List.mem_cons_self)
      obtain ⟨fourth, -⟩ := List.nodup_cons.mp (List.nodup_cons.mp second).2
      refine ⟨⟨?_, ?_⟩, after.2.frame ?_ ?_⟩
      · simp [listDel, listJoin, previous, following, start]
      · simp [listDel, listJoin, previous, following, different]
      · intro y member
        have past : y ≠ entry := fun same => third (same ▸ member)
        have later : y ≠ a := fun same => first (same ▸ List.mem_cons_of_mem entry member)
        simp [listDel, listJoin, previous, past, later]
      · intro y member
        have past : y ≠ entry ∧ y ≠ x := by
          rcases List.mem_append.mp member with inside | last
          · exact ⟨fun same => third (same ▸ List.mem_cons_of_mem x inside), fun same => fourth (same ▸ inside)⟩
          · rw [List.mem_singleton.mp last]
            exact ⟨leaves, fun same => target (by simp [same])⟩
        simp [listDel, listJoin, following, past.1, past.2]
  | cons x rest ih =>
    obtain ⟨first, second⟩ := List.nodup_cons.mp nodup
    obtain ⟨third, -⟩ := List.nodup_cons.mp second
    have previous := before.2.prev_mem
    have following := after.next_mem
    have start : a ≠ entry := fun same => first (by simp [same])
    have different : x ≠ entry := fun same => third (by simp [same])
    have notPrevious : a ≠ h.prev entry := by
      intro same
      rw [← same] at previous
      apply first
      rcases List.mem_cons.mp previous with here | inside
      · exact here ▸ List.mem_cons_self
      · exact List.mem_cons_of_mem x (List.mem_append_left _ inside)
    have notNext : x ≠ h.next entry := by
      intro same
      rw [← same] at following
      rcases List.mem_append.mp following with inside | last
      · exact third (List.mem_append_right _ (List.mem_cons_of_mem entry inside))
      · exact target (List.mem_singleton.mp last ▸ List.mem_cons_self)
    refine ⟨⟨?_, ?_⟩, ih before.2 second ?_⟩
    · simp [listDel, listJoin, start, notPrevious, before.1.1]
    · simp [listDel, listJoin, different, notNext, before.1.2]
    · exact fun inside => target (List.mem_cons_of_mem x inside)

theorem Links.Ring.delete {h : Links N} {head entry : N} (poison : N) {left right : List N}
    (ring : h.Ring head (left ++ entry :: right)) : (listDel h poison entry).Ring head (left ++ right) := by
  obtain ⟨before, after⟩ := Links.path_append.mp ring.path
  constructor
  · have sublist : (left ++ right).Sublist (left ++ entry :: right) :=
      List.Sublist.append_left (List.sublist_cons_self entry right) left
    exact ring.nodup.sublist (sublist.cons_cons head)
  · exact before.delete poison after ring.nodup (List.nodup_cons.mp ring.nodup).1

theorem listDel_other {h : Links N} {head entry x : N} (poison : N) {left right : List N}
    (ring : h.Ring head (left ++ entry :: right)) (outside : x ∉ head :: (left ++ entry :: right)) :
    (listDel h poison entry).next x = h.next x ∧ (listDel h poison entry).prev x = h.prev x := by
  obtain ⟨before, after⟩ := Links.path_append.mp ring.path
  have previous := before.prev_mem
  have following := after.next_mem
  simp only [List.mem_cons, List.mem_append, List.not_mem_nil, or_false, not_or] at outside previous following
  have notPrevious : x ≠ h.prev entry := by
    rintro rfl
    rcases previous with first | inside
    · exact outside.1 first
    · exact outside.2.1 inside
  have notNext : x ≠ h.next entry := by
    rintro rfl
    rcases following with inside | last
    · exact outside.2.2.2 inside
    · exact outside.1 last
  simp [listDel, listJoin, outside.2.2.1, notPrevious, notNext]

end ListHead
