import Mathlib.Data.List.GetD
import Mathlib.Data.Nat.ModEq
import Mathlib.Tactic.Common

namespace Ring

universe u

variable {α : Type u}

/-- The buffer after a copy of `data` to the places from `pos` on. -/
def copyIn (buffer : Nat → α) (pos : Nat) (data : List α) : Nat → α := fun i =>
  if pos ≤ i then data.getD (i - pos) (buffer i) else buffer i

def copyOut (buffer : Nat → α) (pos len : Nat) : List α := (List.range len).map fun i => buffer (pos + i)

/-- The `len` places from `start` on, around the end of a ring of `size` places. -/
def window (size : Nat) (buffer : Nat → α) (start len : Nat) : List α :=
  (List.range len).map fun i => buffer ((start + i) % size)

variable {buffer : Nat → α} {size pos start len : Nat} {data : List α}

@[simp] theorem length_copyOut : (copyOut buffer pos len).length = len := by simp [copyOut]

@[simp] theorem length_window : (window size buffer start len).length = len := by simp [window]

@[simp] theorem window_zero : window size buffer start 0 = [] := rfl

@[simp] theorem copyIn_nil : copyIn buffer pos [] = buffer := by
  funext i
  simp [copyIn]

theorem copyIn_before {i : Nat} (before : i < pos) : copyIn buffer pos data i = buffer i :=
  if_neg (Nat.not_le_of_lt before)

theorem copyIn_behind {i : Nat} (behind : pos + data.length ≤ i) : copyIn buffer pos data i = buffer i := by
  have outside : data.length ≤ i - pos := by omega
  rw [copyIn, if_pos (by omega), List.getD_eq_default _ _ outside]

theorem copyIn_inside {i : Nat} (inside : i < data.length) : copyIn buffer pos data (pos + i) = data[i] := by
  rw [copyIn, if_pos (Nat.le_add_right ..), Nat.add_sub_cancel_left, List.getD_eq_getElem _ _ inside]

theorem window_mod : window size buffer (start % size) len = window size buffer start len := by
  simp only [window, Nat.mod_add_mod]

theorem window_add (first rest : Nat) : window size buffer start (first + rest) =
    window size buffer start first ++ window size buffer (start + first) rest := by
  simp only [window, List.range_add, List.map_append, List.map_map, Function.comp_def, Nat.add_assoc]

theorem take_window {k : Nat} (short : k ≤ len) :
    (window size buffer start len).take k = window size buffer start k := by
  obtain ⟨rest, rfl⟩ := Nat.exists_eq_add_of_le short
  rw [window_add, List.take_left' length_window]

theorem drop_window {k : Nat} (short : k ≤ len) :
    (window size buffer start len).drop k = window size buffer (start + k) (len - k) := by
  obtain ⟨rest, rfl⟩ := Nat.exists_eq_add_of_le short
  rw [window_add, List.drop_left' length_window, Nat.add_sub_cancel_left]

theorem window_straight (fits : start + len ≤ size) : window size buffer start len = copyOut buffer start len := by
  apply List.map_congr_left
  intro i inside
  have below : i < len := List.mem_range.mp inside
  rw [Nat.mod_eq_of_lt (by omega)]

theorem window_around {first rest : Nat} (around : start + first = size) (fits : rest ≤ size) :
    window size buffer start (first + rest) = copyOut buffer start first ++ copyOut buffer 0 rest := by
  have back : window size buffer (start + first) rest = window size buffer 0 rest := by
    rw [around, ← window_mod, Nat.mod_self]
  rw [window_add, window_straight around.le, back, window_straight (by omega)]

theorem place_ne {i k : Nat} (inside : i < len) (fits : len + k < size) :
    (start + i) % size ≠ (start + len + k) % size := by
  intro same
  have divides : size ∣ start + len + k - (start + i) :=
    (Nat.modEq_iff_dvd' (by omega)).mp same
  have short := Nat.le_of_dvd (by omega) divides
  omega

theorem window_copyIn_behind (place : pos = (start + len) % size) (straight : pos + data.length ≤ size)
    (fits : len + data.length ≤ size) :
    window size (copyIn buffer pos data) start len = window size buffer start len := by
  apply List.map_congr_left
  intro i inside
  have below : i < len := List.mem_range.mp inside
  by_cases before : (start + i) % size < pos
  · exact copyIn_before before
  · apply copyIn_behind
    by_contra touched
    obtain ⟨k, at_k⟩ := Nat.exists_eq_add_of_le (Nat.le_of_not_lt before)
    have small : k < data.length := by omega
    have wrapped : (start + len + k) % size = pos + k := by
      rw [← Nat.mod_add_mod, ← place, Nat.mod_eq_of_lt (by omega)]
    exact place_ne below (by omega) (at_k.trans wrapped.symm)

theorem window_push (place : pos = (start + len) % size) (straight : pos + data.length ≤ size)
    (fits : len + data.length ≤ size) :
    window size (copyIn buffer pos data) start (len + data.length) = window size buffer start len ++ data := by
  have pushed : window size (copyIn buffer pos data) (start + len) data.length = data := by
    rw [← window_mod, ← place, window_straight straight]
    apply List.ext_getElem length_copyOut
    intro i inside _
    simp only [copyOut, List.getElem_map, List.getElem_range]
    exact copyIn_inside (by simpa using inside)
  rw [window_add, window_copyIn_behind place straight fits, pushed]

theorem window_push_around (place : pos = (start + len) % size) (inside : pos < size) (long : size ≤ pos + data.length)
    (fits : len + data.length ≤ size) :
    window size (copyIn (copyIn buffer pos (data.take (size - pos))) 0 (data.drop (size - pos))) start (len + data.length) =
      window size buffer start len ++ data := by
  have first : (data.take (size - pos)).length = size - pos := by
    rw [List.length_take]
    omega
  have second : (data.drop (size - pos)).length = data.length - (size - pos) := List.length_drop
  have around : 0 = (start + (len + (data.take (size - pos)).length)) % size := by
    rw [first, ← Nat.add_assoc, ← Nat.mod_add_mod, ← place, Nat.add_sub_cancel' inside.le, Nat.mod_self]
  have both := @window_push _ (copyIn buffer pos (data.take (size - pos))) _ _ _ _
    (data.drop (size - pos)) around (by omega) (by omega)
  rw [window_push place (by omega) (by omega), List.append_assoc, List.take_append_drop, first, second,
    Nat.add_assoc, Nat.add_sub_cancel' (by omega)] at both
  exact both

theorem copyOut_add (first rest : Nat) :
    copyOut buffer pos (first + rest) = copyOut buffer pos first ++ copyOut buffer (pos + first) rest := by
  simp only [copyOut, List.range_add, List.map_append, List.map_map, Function.comp_def, Nat.add_assoc]

theorem copyIn_singleton (e : α) : copyIn buffer pos [e] = Function.update buffer pos e := by
  funext i
  rw [Function.update_apply]
  by_cases before : i < pos
  · rw [copyIn_before before, if_neg (Nat.ne_of_lt before)]
  · obtain ⟨k, rfl⟩ := Nat.exists_eq_add_of_le (Nat.le_of_not_lt before)
    cases k with
    | zero =>
      rw [copyIn_inside (Nat.one_pos : 0 < [e].length)]
      exact (if_pos (Nat.add_zero pos)).symm
    | succ k =>
      have behind : pos + [e].length ≤ pos + (k + 1) := Nat.add_le_add_left (Nat.succ_pos k) pos
      rw [copyIn_behind behind, if_neg (by omega)]

theorem window_update_push (e : α) (place : pos = (start + len) % size) (fits : len + 1 ≤ size) :
    window size (Function.update buffer pos e) start (len + 1) = window size buffer start len ++ [e] := by
  have inside : (start + len) % size < size := Nat.mod_lt _ (by omega)
  rw [← copyIn_singleton]
  have straight : pos + [e].length ≤ size := by
    rw [place]
    exact inside
  exact window_push place straight fits

theorem window_succ : window size buffer start (len + 1) = window size buffer start len ++ [buffer ((start + len) % size)] := by
  rw [window_add]
  rfl

end Ring
