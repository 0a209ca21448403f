import Mathlib
import AlsaDriver.Lib.Ring

namespace Relay

open Ring

universe u

variable {α : Type u}

/-- A ring of `size` places has the elements of `xs` from `lo` to `hi`, each at its own place. -/
def Holds (size : Nat) (ring : Nat → α) (xs : List α) (lo hi : Nat) : Prop :=
  ∀ i, lo ≤ i → i < hi → xs[i]? = some (ring (i % size))

/-- The ring with `data` stored from the place of `pos` on, around its end. -/
def fill (size : Nat) : (Nat → α) → Nat → List α → Nat → α
  | ring, _, [] => ring
  | ring, pos, e :: rest => fill size (Function.update ring (pos % size) e) (pos + 1) rest

theorem mod_ne {size i j : Nat} (less : i < j) (near : j < i + size) : i % size ≠ j % size := by
  intro same
  have divides : size ∣ j - i := (Nat.modEq_iff_dvd' (by omega)).mp same
  have large := Nat.le_of_dvd (by omega) divides
  omega

theorem mod_advance {size pos n : Nat} (fits : pos % size + n ≤ size) :
    (if pos % size + n = size then 0 else pos % size + n) = (pos + n) % size := by
  rw [← Nat.mod_add_mod pos size n]
  split
  · rename_i full
    rw [full, Nat.mod_self]
  · rename_i short
    rw [Nat.mod_eq_of_lt (show pos % size + n < size by omega)]

theorem mod_wrap {size n : Nat} (pos : Nat) (positive : 0 < size) (fits : n ≤ size) :
    (if size ≤ pos % size + n then pos % size + n - size else pos % size + n) = (pos + n) % size := by
  have inside := Nat.mod_lt pos positive
  rw [← Nat.mod_add_mod pos size n]
  split
  · rename_i around
    rw [Nat.mod_eq_sub_mod around, Nat.mod_eq_of_lt (show pos % size + n - size < size by omega)]
  · rename_i short
    rw [Nat.mod_eq_of_lt (show pos % size + n < size by omega)]

theorem mod_distance {size n : Nat} (pos : Nat) (short : n < size) :
    (if (((pos + n) % size : Nat) : Int) - (pos % size : Nat) < 0 then
        (((pos + n) % size : Nat) : Int) - (pos % size : Nat) + size
      else (((pos + n) % size : Nat) : Int) - (pos % size : Nat)) = n := by
  have inside := Nat.mod_lt pos (Nat.zero_lt_of_lt short)
  have moved := mod_wrap pos (Nat.zero_lt_of_lt short) short.le
  rw [← moved]
  split <;> split <;> omega

section holds

variable {size : Nat} {ring : Nat → α} {xs ys : List α} {lo lo' hi hi' : Nat}

theorem Holds.mono (holds : Holds size ring xs lo hi) (low : lo ≤ lo') (high : hi' ≤ hi) : Holds size ring xs lo' hi' :=
  fun i above below => holds i (by omega) (by omega)

theorem holds_none : Holds size ring xs lo lo := fun _ above below => absurd above (Nat.not_le_of_lt below)

theorem Holds.append (holds : Holds size ring xs lo hi) (ys : List α) : Holds size ring (xs ++ ys) lo hi := by
  intro i above below
  have here := holds i above below
  obtain ⟨inside, -⟩ := List.getElem?_eq_some_iff.mp here
  rw [List.getElem?_append_left inside, here]

theorem Holds.push (holds : Holds size ring xs lo xs.length) (room : xs.length < lo + size) (e : α) :
    Holds size (Function.update ring (xs.length % size) e) (xs ++ [e]) lo (xs.length + 1) := by
  intro i above below
  rcases Nat.lt_succ_iff_lt_or_eq.mp below with inside | rfl
  · rw [Function.update_of_ne (mod_ne inside (by omega)), List.getElem?_append_left inside]
    exact holds i above inside
  · simp

theorem Holds.fill (holds : Holds size ring xs lo xs.length) (data : List α)
    (room : xs.length + data.length ≤ lo + size) :
    Holds size (fill size ring xs.length data) (xs ++ data) lo (xs.length + data.length) := by
  induction data generalizing ring xs with
  | nil => simpa [Relay.fill] using holds
  | cons e rest ih =>
    have first := holds.push (by simp at room; omega) e
    have next : (xs ++ [e]).length = xs.length + 1 := by simp
    rw [← next] at first
    have later := ih first (by simp at room ⊢; omega)
    rw [next, List.append_assoc] at later
    rw [Relay.fill, List.length_cons]
    have count : xs.length + (rest.length + 1) = xs.length + 1 + rest.length := by omega
    rw [count]
    exact later

theorem fill_congr {pos pos' : Nat} (same : pos % size = pos' % size) (data : List α) :
    fill size ring pos data = fill size ring pos' data := by
  induction data generalizing ring pos pos' with
  | nil => rfl
  | cons e rest ih =>
    rw [fill, fill, same]
    exact ih (Nat.ModEq.add_right 1 same)

theorem Holds.copy {source : Nat → α} {size' a b n : Nat} (holds : Holds size ring xs lo hi)
    (from_ : Holds size' source xs a b) (above : a ≤ hi) (below : hi + n ≤ b) (straight : hi % size + n ≤ size)
    (straight' : hi % size' + n ≤ size') (room : hi + n ≤ lo + size) :
    Holds size (copyIn ring (hi % size) (copyOut source (hi % size') n)) xs lo (hi + n) := by
  intro i above' below'
  by_cases old : i < hi
  · have apart : i % size < hi % size ∨ hi % size + n ≤ i % size := by
      by_contra touched
      rw [not_or, Nat.not_lt, Nat.not_le] at touched
      obtain ⟨k, at_k⟩ := Nat.exists_eq_add_of_le touched.1
      have same : (hi + k) % size = i % size := by
        rw [← Nat.mod_add_mod, Nat.mod_eq_of_lt (by omega), at_k]
      exact mod_ne (by omega : i < hi + k) (by omega) same.symm
    rcases apart with before | behind
    · rw [copyIn_before before]
      exact holds i above' old
    · rw [copyIn_behind (by simpa using behind)]
      exact holds i above' old
  · obtain ⟨k, rfl⟩ := Nat.exists_eq_add_of_le (Nat.le_of_not_lt old)
    have short : k < n := by omega
    have place : (hi + k) % size = hi % size + k := by rw [← Nat.mod_add_mod, Nat.mod_eq_of_lt (by omega)]
    have place' : (hi + k) % size' = hi % size' + k := by rw [← Nat.mod_add_mod, Nat.mod_eq_of_lt (by omega)]
    rw [from_ (hi + k) (by omega) (by omega), place, copyIn_inside (by simpa using short), place']
    simp [copyOut]

theorem Holds.window (holds : Holds size ring xs lo hi) (order : lo ≤ hi) :
    window size ring lo (hi - lo) = (xs.take hi).drop lo := by
  apply List.ext_getElem?
  intro k
  rw [List.getElem?_drop, List.getElem?_take]
  by_cases inside : k < hi - lo
  · rw [if_pos (by omega), holds (lo + k) (by omega) (by omega)]
    simp [Ring.window, inside]
  · rw [if_neg (by omega)]
    simp [Ring.window]
    omega

/-- What has been taken from the ring so far and what it still holds make up a front of `xs`. -/
theorem Holds.join {front : List α} (holds : Holds size ring xs front.length hi) (order : front.length ≤ hi)
    (taken : front = xs.take front.length) : front ++ Ring.window size ring front.length (hi - front.length) = xs.take hi := by
  have first : xs.take front.length = (xs.take hi).take front.length := by
    rw [List.take_take, Nat.min_eq_left order]
  rw [holds.window order]
  nth_rewrite 1 [taken]
  rw [first, List.take_append_drop]

end holds

/-- A ring whose writer and reader move on before they use a place: element `i` is at place `i + 1`. -/
def Queued (size : Nat) (ring : Nat → α) (xs : List α) (lo : Nat) : Prop :=
  ∀ i, lo ≤ i → i < xs.length → xs[i]? = some (ring ((i % size + 1) % size))

section queued

variable {size : Nat} {ring : Nat → α} {xs : List α} {lo : Nat}

theorem Queued.put (queued : Queued size ring xs lo) (room : xs.length < lo + size) (e : α) :
    Queued size (Function.update ring ((xs.length % size + 1) % size) e) (xs ++ [e]) lo := by
  intro i above below
  rw [List.length_append, List.length_singleton] at below
  rcases Nat.lt_succ_iff_lt_or_eq.mp below with inside | last
  · have apart : (i % size + 1) % size ≠ (xs.length % size + 1) % size := by
      rw [Nat.mod_add_mod, Nat.mod_add_mod]
      exact mod_ne (Nat.succ_lt_succ inside) (by omega)
    rw [Function.update_of_ne apart, List.getElem?_append_left inside]
    exact queued i above inside
  · subst last
    simp

theorem pointer_eq_iff {i j : Nat} (order : i ≤ j) (near : j < i + size) : i % size = j % size ↔ i = j := by
  constructor
  · intro same
    by_contra other
    exact mod_ne (by omega) near same
  · intro same
    rw [same]

theorem pointer_distance {i j : Nat} (order : i ≤ j) (near : j < i + size) : (j % size + size - i % size) % size = j - i := by
  obtain ⟨n, rfl⟩ := Nat.exists_eq_add_of_le order
  have inside := Nat.mod_lt i (show 0 < size by omega)
  have moved := mod_wrap (n := n) i (show 0 < size by omega) (by omega)
  rw [← moved, Nat.add_sub_cancel_left]
  split
  · have back : i % size + n - size + size - i % size = n := by omega
    rw [back, Nat.mod_eq_of_lt (by omega)]
  · have ahead : i % size + n + size - i % size = n + size := by omega
    rw [ahead, Nat.add_mod_right, Nat.mod_eq_of_lt (by omega)]

/-- Such a ring with its write and read pointers: `xs` went in, and `lo` of it came out. -/
structure Tracks (size : Nat) (ring : Nat → α) (wp rp : Nat) (xs : List α) (lo : Nat) : Prop where
  le : lo ≤ xs.length
  room : xs.length < lo + size
  wp : wp = xs.length % size
  rp : rp = lo % size
  queued : Queued size ring xs lo

variable {wp rp : Nat}

theorem tracks_nil (positive : 0 < size) : Tracks size ring 0 0 ([] : List α) 0 := by
  refine ⟨Nat.le_refl _, by simpa using positive, by simp, by simp, ?_⟩
  intro i above below
  simp at below

theorem Tracks.wp_lt (tracks : Tracks size ring wp rp xs lo) : wp < size := by
  have le := tracks.le
  have room := tracks.room
  rw [tracks.wp]
  exact Nat.mod_lt _ (by omega)

theorem Tracks.empty_iff (tracks : Tracks size ring wp rp xs lo) : rp = wp ↔ lo = xs.length := by
  rw [tracks.rp, tracks.wp]
  exact pointer_eq_iff tracks.le tracks.room

theorem Tracks.full_iff (tracks : Tracks size ring wp rp xs lo) : (wp + 1) % size = rp ↔ lo + size ≤ xs.length + 1 := by
  have le := tracks.le
  have room := tracks.room
  rw [tracks.wp, tracks.rp, Nat.mod_add_mod]
  by_cases full : lo + size ≤ xs.length + 1
  · have count : xs.length + 1 = lo + size := by omega
    rw [count, Nat.add_mod_right]
    exact iff_of_true rfl (Nat.le_refl _)
  · exact iff_of_false (mod_ne (by omega) (by omega)).symm full

theorem Tracks.put (tracks : Tracks size ring wp rp xs lo) (room : xs.length + 1 < lo + size) (e : α) :
    Tracks size (Function.update ring ((wp + 1) % size) e) ((wp + 1) % size) rp (xs ++ [e]) lo := by
  have le := tracks.le
  have put := tracks.queued.put tracks.room e
  rw [← tracks.wp] at put
  apply Tracks.mk
  · rw [List.length_append]
    exact le.trans (Nat.le_add_right _ _)
  · simpa using room
  · rw [tracks.wp, Nat.mod_add_mod, List.length_append, List.length_singleton]
  · exact tracks.rp
  · exact put

theorem Tracks.get (tracks : Tracks size ring wp rp xs lo) (inside : lo < xs.length) : xs[lo] = ring ((rp + 1) % size) := by
  have first := tracks.queued lo (Nat.le_refl lo) inside
  rw [List.getElem?_eq_getElem inside, ← tracks.rp] at first
  simpa using first

theorem Tracks.pop (tracks : Tracks size ring wp rp xs lo) (inside : lo < xs.length) :
    Tracks size ring wp ((rp + 1) % size) xs (lo + 1) := by
  have room := tracks.room
  apply Tracks.mk
  · exact inside
  · omega
  · exact tracks.wp
  · rw [tracks.rp, Nat.mod_add_mod]
  · exact fun i above => tracks.queued i (Nat.le_of_succ_le above)

theorem Tracks.window (tracks : Tracks size ring wp rp xs lo) :
    window size ring (rp + 1) ((wp + size - rp) % size) = xs.drop lo := by
  rw [tracks.wp, tracks.rp, pointer_distance tracks.le tracks.room]
  apply List.ext_getElem?
  intro k
  rw [List.getElem?_drop]
  by_cases inside : k < xs.length - lo
  · rw [tracks.queued (lo + k) (by omega) (by omega)]
    have place : (lo % size + 1 + k) % size = ((lo + k) % size + 1) % size := by
      rw [Nat.mod_add_mod, Nat.add_assoc, Nat.mod_add_mod, Nat.add_assoc, Nat.add_comm 1 k]
    simp [Ring.window, inside, place]
  · rw [List.getElem?_eq_none (show xs.length ≤ lo + k by omega)]
    simp [Ring.window]
    omega

end queued

end Relay
