import Mathlib.Data.List.Nodup
import Mathlib.Logic.Function.Basic

namespace NodeLists

universe u v

/-- Where a node is: by itself, on the list of a head, or as `list_del` leaves it. -/
inductive Place (H : Type u) where
  | alone
  | on (head : H)
  | deleted
  deriving DecidableEq

/-- Lists of nodes. An operation on a node that corrupts the memory only says so in `broken`. -/
structure Lists (H : Type u) (N : Type v) where
  items : H → List N
  place : N → Place H
  broken : Bool
  nodup : ∀ h, (items h).Nodup
  linked : ∀ h n, n ∈ items h ↔ place n = .on h

def Place.isOn {H : Type u} : Place H → Bool
  | .on _ => true
  | _ => false

namespace Lists

variable {H : Type u} {N : Type v} (l : Lists H N)

theorem empty_linked (h : H) (n : N) : n ∈ ([] : List N) ↔ (Place.alone : Place H) = .on h :=
  iff_of_false List.not_mem_nil fun same => by cases same

/-- All heads and all nodes as `INIT_LIST_HEAD` leaves them. -/
def empty : Lists H N := ⟨fun _ => [], fun _ => .alone, false, fun _ => List.nodup_nil, empty_linked⟩

variable {l} in
theorem isOn_of_alone {n : N} (alone : l.place n = .alone) : (l.place n).isOn = false := by
  rw [alone]
  rfl

variable {l} in
theorem isOn_of_ne {n : N} (off : ∀ h, l.place n ≠ .on h) : (l.place n).isOn = false := by
  cases place : l.place n with
  | alone => rfl
  | on h => exact absurd place (off h)
  | deleted => rfl

variable [DecidableEq H] [DecidableEq N]

omit [DecidableEq N] in
variable {l} in
theorem nodup_link {n : N} (free : (l.place n).isOn = false) (h g : H) :
    (Function.update l.items h (l.items h ++ [n]) g).Nodup := by
  rw [Function.update_apply]
  split
  · apply List.Nodup.append (l.nodup h) (List.nodup_singleton n)
    rw [List.disjoint_singleton, l.linked]
    intro inside
    rw [inside] at free
    cases free
  · exact l.nodup g

variable {l} in
theorem linked_link {n : N} (free : (l.place n).isOn = false) (h g : H) (m : N) :
    m ∈ Function.update l.items h (l.items h ++ [n]) g ↔ Function.update l.place n (.on h) m = .on g := by
  have outside (k : H) : n ∉ l.items k := by
    rw [l.linked]
    intro inside
    rw [inside] at free
    cases free
  rw [Function.update_apply, Function.update_apply]
  split
  · rename_i here
    rw [List.mem_append, List.mem_singleton, l.linked, here]
    split
    · rename_i new
      exact iff_of_true (.inr new) rfl
    · rename_i old
      exact or_iff_left old
  · rename_i other
    split
    · rename_i new
      rw [new]
      exact iff_of_false (outside g) fun same => other (Place.on.inj same).symm
    · exact l.linked g m

omit [DecidableEq H] in
variable {l} in
theorem linked_unlink (n : N) {left : Place H} (free : left.isOn = false) (h : H) (m : N) :
    m ∈ (l.items h).erase n ↔ Function.update l.place n left m = .on h := by
  rw [(l.nodup h).mem_erase_iff, l.linked, Function.update_apply]
  split
  · rename_i same
    apply iff_of_false fun both => both.1 same
    intro inside
    rw [inside] at free
    cases free
  · rename_i other
    exact and_iff_right other

def link (n : N) (h : H) (free : (l.place n).isOn = false) : Lists H N where
  items := Function.update l.items h (l.items h ++ [n])
  place := Function.update l.place n (.on h)
  broken := l.broken
  nodup := nodup_link free h
  linked := linked_link free h

def unlink (n : N) (left : Place H) (free : left.isOn = false) : Lists H N where
  items := fun h => (l.items h).erase n
  place := Function.update l.place n left
  broken := l.broken
  nodup := fun h => (l.nodup h).erase n
  linked := linked_unlink n free

def corrupt : Lists H N := { l with broken := true }

def addTail (n : N) (h : H) : Lists H N :=
  if free : (l.place n).isOn = false then l.link n h free else l.corrupt

def delInit (n : N) : Lists H N := if l.place n = .deleted then l.corrupt else l.unlink n .alone rfl

/-- `list_del`. -/
def del (n : N) : Lists H N := if l.place n = .deleted then l.corrupt else l.unlink n .deleted rfl

def moveTail (n : N) (h : H) : Lists H N := if l.place n = .deleted then l.corrupt else (l.delInit n).addTail n h

section

variable {l} {n : N} {h : H}

theorem addTail_eq (free : (l.place n).isOn = false) : l.addTail n h = l.link n h free := dif_pos free

theorem delInit_eq (sound : l.place n ≠ .deleted) : l.delInit n = l.unlink n .alone rfl := if_neg sound

theorem del_eq (sound : l.place n ≠ .deleted) : l.del n = l.unlink n .deleted rfl := if_neg sound

theorem place_addTail (free : (l.place n).isOn = false) : (l.addTail n h).place = Function.update l.place n (.on h) := by
  rw [addTail_eq free]
  rfl

theorem broken_addTail (free : (l.place n).isOn = false) : (l.addTail n h).broken = l.broken := by
  rw [addTail_eq free]
  rfl

theorem place_delInit (sound : l.place n ≠ .deleted) : (l.delInit n).place = Function.update l.place n .alone := by
  rw [delInit_eq sound]
  rfl

theorem items_delInit (sound : l.place n ≠ .deleted) (g : H) : (l.delInit n).items g = (l.items g).erase n := by
  rw [delInit_eq sound]
  rfl

theorem broken_delInit (sound : l.place n ≠ .deleted) : (l.delInit n).broken = l.broken := by
  rw [delInit_eq sound]
  rfl

theorem place_del (sound : l.place n ≠ .deleted) : (l.del n).place = Function.update l.place n .deleted := by
  rw [del_eq sound]
  rfl

theorem items_del (sound : l.place n ≠ .deleted) (g : H) : (l.del n).items g = (l.items g).erase n := by
  rw [del_eq sound]
  rfl

theorem broken_del (sound : l.place n ≠ .deleted) : (l.del n).broken = l.broken := by
  rw [del_eq sound]
  rfl

theorem free_delInit (sound : l.place n ≠ .deleted) : ((l.delInit n).place n).isOn = false := by
  rw [place_delInit sound, Function.update_self]
  rfl

theorem moveTail_eq (sound : l.place n ≠ .deleted) : l.moveTail n h = (l.delInit n).addTail n h := if_neg sound

theorem place_moveTail (sound : l.place n ≠ .deleted) : (l.moveTail n h).place = Function.update l.place n (.on h) := by
  rw [moveTail_eq sound, place_addTail (free_delInit sound), place_delInit sound, Function.update_idem]

theorem broken_moveTail (sound : l.place n ≠ .deleted) : (l.moveTail n h).broken = l.broken := by
  rw [moveTail_eq sound, broken_addTail (free_delInit sound), broken_delInit sound]

end

end Lists

end NodeLists
