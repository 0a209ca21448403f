import Mathlib.Data.List.TakeWhile
import AlsaDriver.Rawmidi.OutputRuns
import AlsaDriver.Lib.Scan
import AlsaDriver.Lib.Runs

namespace AlsaDriver.Usb

open Rawmidi Words

def MAX_AKAI_SYSEX_LEN : Nat := 9

/-- The output endpoint with its port, whose `max_transfer` is an `int`. -/
structure AkaiOut where
  substream : SndRawmidiSubstream
  active : Bool
  maxTransfer : Nat
  small : maxTransfer < 2 ^ 31

/-- What a turn of the loop of `snd_usbmidi_akai_output` does with the bytes that it has peeked. -/
inductive AkaiTurn where
  | wait
  | skip (count : Nat)
  | send (count : Nat)
  deriving DecidableEq

def markerAt (tmp : List Byte) : Nat := 1 + (tmp.tail.takeWhile fun b => decide (b < 0xf0)).length

def akaiTurn (tmp : List Byte) : AkaiTurn :=
  let count := tmp.length
  if count = 0 then .wait
  else
    -- try to skip non-SysEx data
    let pos := (tmp.takeWhile fun b => decide (b ≠ 0xf0)).length
    if 0 < pos then .skip pos
    else
      let stop := markerAt tmp
      -- next SysEx started before the end of current one
      if stop < count ∧ tmp.getD stop 0 = 0xf0 then .skip stop
      else if stop < count ∧ tmp.getD stop 0 = 0xf7 then .send (stop + 1)
      -- less than 9 bytes and no end byte
      else if count < MAX_AKAI_SYSEX_LEN then .wait
      else .skip count

def akaiChunk (msg : List Byte) : List Byte := (0x10 ||| BitVec.ofNat 8 msg.length) :: msg

namespace AkaiOut

variable (ep : AkaiOut)

def pending : List Byte := ep.substream.runtime.pending

/-- `buf_end`, as it is compared with the unsigned `transfer_buffer_length`. -/
def bufEnd : Nat := toUnsigned 32 ((ep.maxTransfer : Int) - MAX_AKAI_SYSEX_LEN - 1)

def transmitAck (count : Nat) : AkaiOut := { ep with substream := ep.substream.sndRawmidiTransmitAck count }

/-- The loop of `snd_usbmidi_akai_output`; `urb` is the buffer up to its transfer length. A turn takes a byte at least,
    or is the last one. -/
def akaiLoop : Nat → AkaiOut → List Byte → AkaiOut × List Byte
  | 0, ep, urb => (ep, urb)
  | fuel + 1, ep, urb =>
    if urb.length < ep.bufEnd then
      let tmp := ep.substream.runtime.transmitPeek MAX_AKAI_SYSEX_LEN
      match akaiTurn tmp with
      | .wait => ({ ep with active := false }, urb)
      | .skip count => akaiLoop fuel (ep.transmitAck count) urb
      | .send count => akaiLoop fuel (ep.transmitAck count) (urb ++ akaiChunk (tmp.take count))
    else (ep, urb)

/-- `snd_usbmidi_akai_output` for a buffer that `snd_usbmidi_do_output` has emptied. -/
def akaiOutput : AkaiOut × List Byte :=
  if ep.active = false then (ep, []) else akaiLoop (ep.pending.length + 1) ep []

/-- `snd_rawmidi_kernel_write1` of a kernel buffer, with the bytes that are taken. -/
def write (data : List Byte) : AkaiOut × List Byte :=
  let r := ep.substream.runtime
  if ep.substream.append = true ∧ toSigned 64 r.avail < data.length then (ep, [])
  else
    let done := SndRawmidiRuntime.writeKernel data.length r data 0
    ({ ep with
        substream := { ep.substream with runtime := done.2 }
        active := if done.2.avail < done.2.bufferSize then true else ep.active }, data.take done.1)

end AkaiOut

structure AkaiLink where
  ep : AkaiOut
  written : List Byte
  urbs : List (List Byte)

inductive AkaiOp where
  | write (data : List Byte)
  | trigger (up : Bool)
  | output

namespace AkaiLink

def exec (s : AkaiLink) : AkaiOp → AkaiLink
  | .write data => { s with ep := (s.ep.write data).1, written := s.written ++ (s.ep.write data).2 }
  | .trigger up => { s with ep := { s.ep with active := up } }
  | .output =>
    { s with
      ep := s.ep.akaiOutput.1
      urbs := if s.ep.akaiOutput.2 = [] then s.urbs else s.urbs ++ [s.ep.akaiOutput.2] }

end AkaiLink

end AlsaDriver.Usb

namespace AlsaDriver.Usb

open Rawmidi Words Scan Runs

def AkaiSysex (msg : List Byte) : Prop :=
  ∃ data : List Byte, msg = 0xf0 :: (data ++ [0xf7]) ∧ (∀ b ∈ data, b < 0xf0) ∧ msg.length ≤ MAX_AKAI_SYSEX_LEN

def dataAt (l : List Byte) : List Byte := l.takeWhile fun b => decide (b < 0xf0)

def statusAt (l : List Byte) : Option Byte := (l.dropWhile fun b => decide (b < 0xf0)).head?

def sysexAt : List Byte → Option (List Byte)
  | [] => none
  | b :: rest =>
    if b = 0xf0 ∧ (dataAt rest).length ≤ 7 ∧ statusAt rest = some 0xf7 then some (b :: (dataAt rest ++ [0xf7])) else none

def Interrupted : List Byte → Prop
  | [] => False
  | b :: rest => b = 0xf0 ∧ (dataAt rest).length ≤ 7 ∧ (statusAt rest).any (fun c => c != 0xf0 && c != 0xf7) = true

instance : (l : List Byte) → Decidable (Interrupted l)
  | [] => .isFalse id
  | _ :: _ => inferInstanceAs (Decidable (_ ∧ _ ∧ _))

abbrev sysexes (stream : List Byte) : List (List Byte) := scan sysexAt stream

inductive Clean : List Byte → Prop
  | nil : Clean []
  | next {b : Byte} {rest : List Byte} : ¬ Interrupted (b :: rest) → Clean rest → Clean (b :: rest)
  | cut {l : List Byte} : Interrupted l → (∀ i < MAX_AKAI_SYSEX_LEN, sysexAt (l.drop i) = none) →
      Clean (l.drop MAX_AKAI_SYSEX_LEN) → Clean l

section Shapes

variable {d z : List Byte} {b c : Byte}

theorem dataAt_append (data : ∀ b ∈ d, b < 0xf0) (z : List Byte) : dataAt (d ++ z) = d ++ dataAt z := by
  apply List.takeWhile_append_of_pos
  simpa using data

theorem statusAt_append (data : ∀ b ∈ d, b < 0xf0) (z : List Byte) : statusAt (d ++ z) = statusAt z := by
  unfold statusAt
  rw [List.dropWhile_append_of_pos]
  simpa using data

theorem dataAt_status (status : 0xf0 ≤ c) : dataAt (c :: z) = [] := by
  unfold dataAt
  rw [List.takeWhile_cons_of_neg]
  simpa using status

theorem statusAt_status (status : 0xf0 ≤ c) : statusAt (c :: z) = some c := by
  unfold statusAt
  rw [List.dropWhile_cons_of_neg]
  · rfl
  · simpa using status

theorem dataAt_below (l : List Byte) : ∀ b ∈ dataAt l, b < 0xf0 := by
  intro b listed
  simpa using List.mem_takeWhile_imp listed

theorem sysexAt_other (other : b ≠ 0xf0) : sysexAt (b :: z) = none := if_neg fun found => other found.1

theorem sysexAt_marker (data : ∀ b ∈ d, b < 0xf0) (status : 0xf0 ≤ c) :
    sysexAt (0xf0 :: (d ++ c :: z)) = if d.length ≤ 7 ∧ c = 0xf7 then some (0xf0 :: (d ++ [0xf7])) else none := by
  simp [sysexAt, dataAt_append data, statusAt_append data, dataAt_status status, statusAt_status status]

theorem interrupted_marker (data : ∀ b ∈ d, b < 0xf0) (status : 0xf0 ≤ c) :
    Interrupted (0xf0 :: (d ++ c :: z)) ↔ d.length ≤ 7 ∧ c ≠ 0xf0 ∧ c ≠ 0xf7 := by
  simp [Interrupted, dataAt_append data, statusAt_append data, dataAt_status status, statusAt_status status]

theorem sysexAt_unended (data : ∀ b ∈ d, b < 0xf0) : sysexAt (0xf0 :: d) = none := by
  have ends : statusAt d = none := by
    have same := statusAt_append data []
    rw [List.append_nil] at same
    exact same
  simp [sysexAt, ends]

theorem sysexAt_long (data : ∀ b ∈ d, b < 0xf0) (long : 8 ≤ d.length) : sysexAt (0xf0 :: (d ++ z)) = none := by
  apply if_neg
  rintro ⟨-, short, -⟩
  rw [dataAt_append data, List.length_append] at short
  omega

theorem interrupted_long (data : ∀ b ∈ d, b < 0xf0) (long : 8 ≤ d.length) : ¬ Interrupted (0xf0 :: (d ++ z)) := by
  rintro ⟨-, short, -⟩
  rw [dataAt_append data, List.length_append] at short
  omega

theorem sysexAt_iff {l msg : List Byte} : sysexAt l = some msg ↔ AkaiSysex msg ∧ msg <+: l := by
  constructor
  · intro found
    cases l with
    | nil => cases found
    | cons b rest =>
      rw [sysexAt] at found
      split at found
      · next is =>
        obtain ⟨rfl, short, ends⟩ := is
        cases found
        have after : rest = dataAt rest ++ rest.dropWhile fun b => decide (b < 0xf0) := List.takeWhile_append_dropWhile.symm
        unfold statusAt at ends
        obtain ⟨tail, rest_⟩ := List.head?_eq_some_iff.mp ends
        rw [rest_] at after
        refine ⟨⟨dataAt rest, rfl, dataAt_below rest, ?_⟩, tail, ?_⟩
        · simp [MAX_AKAI_SYSEX_LEN]
          omega
        · conv_rhs => rw [after]
          simp
      · cases found
  · rintro ⟨⟨data, rfl, below, short⟩, z, rfl⟩
    have fits : data.length ≤ 7 := by
      simp [MAX_AKAI_SYSEX_LEN] at short
      omega
    simp only [List.cons_append, List.append_assoc, List.nil_append]
    rw [sysexAt_marker below (by decide), if_pos ⟨fits, rfl⟩]

end Shapes

/-- At the first `n` places neither a message starts nor one that is cut. -/
def Quiet (l : List Byte) (n : Nat) : Prop := ∀ i < n, sysexAt (l.drop i) = none ∧ ¬ Interrupted (l.drop i)

section Skipping

variable {l d z : List Byte} {b : Byte} {n : Nat}

theorem Quiet.cons (none_ : sysexAt (b :: l) = none) (whole : ¬ Interrupted (b :: l)) (quiet : Quiet l n) :
    Quiet (b :: l) (n + 1) := by
  intro i small
  cases i with
  | zero => exact ⟨none_, whole⟩
  | succ i => exact quiet i (Nat.lt_of_succ_lt_succ small)

theorem quiet_bytes (no : ∀ b ∈ d, b ≠ 0xf0) (z : List Byte) : Quiet (d ++ z) d.length := by
  induction d with
  | nil => exact fun i small => absurd small (Nat.not_lt_zero i)
  | cons b rest ih =>
    have other := no b List.mem_cons_self
    exact Quiet.cons (sysexAt_other other) (fun cut => other cut.1) (ih fun c listed => no c (List.mem_cons_of_mem b listed))

theorem quiet_data (data : ∀ b ∈ d, b < 0xf0) (z : List Byte) : Quiet (d ++ z) d.length := by
  apply quiet_bytes
  rintro b listed rfl
  exact absurd (data _ listed) (by decide)

theorem Quiet.found (quiet : Quiet l n) : sysexes l = sysexes (l.drop n) := scan_drop fun i small => (quiet i small).1

theorem Clean.drop (clean : Clean l) (quiet : Quiet l n) : Clean (l.drop n) := by
  induction n generalizing l with
  | zero => exact clean
  | succ n ih =>
    cases clean with
    | nil => exact Clean.nil
    | next whole rest => exact ih rest fun i small => quiet (i + 1) (Nat.succ_lt_succ small)
    | cut interrupted none_ rest => exact absurd interrupted (quiet 0 (Nat.succ_pos n)).2

theorem clean_of_whole (whole : ∀ i < l.length, ¬ Interrupted (l.drop i)) : Clean l := by
  induction l with
  | nil => exact Clean.nil
  | cons b rest ih => exact Clean.next (whole 0 (Nat.succ_pos _)) (ih fun i small => whole (i + 1) (Nat.succ_lt_succ small))

theorem Clean.cut_drop (clean : Clean l) (interrupted : Interrupted l) :
    (∀ i < MAX_AKAI_SYSEX_LEN, sysexAt (l.drop i) = none) ∧ Clean (l.drop MAX_AKAI_SYSEX_LEN) := by
  cases clean with
  | nil => exact absurd interrupted id
  | next whole rest => exact absurd interrupted whole
  | cut interrupted none_ rest => exact ⟨none_, rest⟩

end Skipping

inductive Seen : List Byte → AkaiTurn → Prop
  | none_ : Seen [] .wait
  | other {d z : List Byte} : d ≠ [] → (∀ b ∈ d, b ≠ 0xf0) → Seen (d ++ z) (.skip d.length)
  | restart {d z : List Byte} : (∀ b ∈ d, b < 0xf0) → Seen (0xf0 :: (d ++ 0xf0 :: z)) (.skip (d.length + 1))
  | message {d z : List Byte} : (∀ b ∈ d, b < 0xf0) → Seen (0xf0 :: (d ++ 0xf7 :: z)) (.send (d.length + 2))
  | begun {d : List Byte} : (∀ b ∈ d, b < 0xf0) → d.length < 8 → Seen (0xf0 :: d) .wait
  | long {d : List Byte} : (∀ b ∈ d, b < 0xf0) → d.length = 8 → Seen (0xf0 :: d) (.skip 9)
  | cutShort {d z : List Byte} {c : Byte} : (∀ b ∈ d, b < 0xf0) → 0xf0 ≤ c → c ≠ 0xf0 → c ≠ 0xf7 →
      d.length + z.length < 7 → Seen (0xf0 :: (d ++ c :: z)) .wait
  | cut {d z : List Byte} {c : Byte} : (∀ b ∈ d, b < 0xf0) → 0xf0 ≤ c → c ≠ 0xf0 → c ≠ 0xf7 →
      d.length + z.length = 7 → Seen (0xf0 :: (d ++ c :: z)) (.skip 9)

theorem getD_marker {d z : List Byte} {b c : Byte} (e : Byte) : (b :: (d ++ c :: z)).getD (1 + d.length) e = c := by
  rw [Nat.add_comm, List.getD_cons_succ]
  simp

theorem akaiTurn_seen {tmp : List Byte} (short : tmp.length ≤ MAX_AKAI_SYSEX_LEN) : Seen tmp (akaiTurn tmp) := by
  unfold MAX_AKAI_SYSEX_LEN at short
  cases tmp with
  | nil => exact Seen.none_
  | cons b rest =>
    unfold akaiTurn
    dsimp only
    rw [if_neg (by simp)]
    by_cases start : b = 0xf0
    · subst start
      rw [if_neg (by simp)]
      have below := dataAt_below rest
      have split : rest = dataAt rest ++ rest.dropWhile fun b => decide (b < 0xf0) := List.takeWhile_append_dropWhile.symm
      have marker : markerAt (0xf0 :: rest) = 1 + (dataAt rest).length := rfl
      rw [marker]
      generalize dataAt rest = d at below split
      cases after : rest.dropWhile fun b => decide (b < 0xf0) with
      | nil =>
        rw [after, List.append_nil] at split
        subst split
        have past : ¬ 1 + rest.length < (0xf0 :: rest : List Byte).length := by
          rw [List.length_cons]
          omega
        rw [if_neg fun found => past found.1, if_neg fun found => past found.1]
        simp only [List.length_cons] at short ⊢
        by_cases few : rest.length + 1 < MAX_AKAI_SYSEX_LEN
        · rw [if_pos few]
          exact Seen.begun below (Nat.lt_of_succ_lt_succ few)
        · rw [if_neg few]
          unfold MAX_AKAI_SYSEX_LEN at few
          have eight : rest.length = 8 := by omega
          rw [eight]
          exact Seen.long below eight
      | cons c z =>
        rw [after] at split
        subst split
        have status : 0xf0 ≤ c := by
          have head := List.head?_dropWhile_not (fun b => decide (b < (0xf0 : Byte))) (d ++ c :: z)
          rw [after] at head
          simpa using head
        have inside : 1 + d.length < (0xf0 :: (d ++ c :: z) : List Byte).length := by simp; omega
        rw [getD_marker]
        by_cases again : c = 0xf0
        · subst again
          rw [if_pos ⟨inside, rfl⟩, Nat.add_comm]
          exact Seen.restart below
        · rw [if_neg fun found => again found.2]
          by_cases ends : c = 0xf7
          · subst ends
            rw [if_pos ⟨inside, rfl⟩]
            have length : 1 + d.length + 1 = d.length + 2 := by omega
            rw [length]
            exact Seen.message below
          · rw [if_neg fun found => ends found.2]
            simp only [List.length_cons, List.length_append] at short ⊢
            by_cases few : d.length + (z.length + 1) + 1 < MAX_AKAI_SYSEX_LEN
            · rw [if_pos few]
              unfold MAX_AKAI_SYSEX_LEN at few
              exact Seen.cutShort below status again ends (by omega)
            · rw [if_neg few]
              unfold MAX_AKAI_SYSEX_LEN at few
              have nine : d.length + (z.length + 1) + 1 = 9 := by omega
              rw [nine]
              exact Seen.cut below status again ends (by omega)
    · have first : ((b :: rest).takeWhile fun b => decide (b ≠ 0xf0)) ≠ [] := by
        rw [List.takeWhile_cons_of_pos (by simpa using start)]
        exact List.cons_ne_nil _ _
      rw [if_pos (List.length_pos_iff.mpr first)]
      have others : ∀ c ∈ (b :: rest).takeWhile fun b => decide (b ≠ 0xf0), c ≠ 0xf0 := by
        intro c listed
        simpa using List.mem_takeWhile_imp listed
      have split : b :: rest = ((b :: rest).takeWhile fun b => decide (b ≠ 0xf0)) ++
          (b :: rest).dropWhile fun b => decide (b ≠ 0xf0) := List.takeWhile_append_dropWhile.symm
      have seen : Seen _ _ := Seen.other (z := (b :: rest).dropWhile fun b => decide (b ≠ 0xf0)) first others
      rw [← split] at seen
      exact seen

structure Takes (q : List Byte) (n : Nat) (sent : List (List Byte)) : Prop where
  some_ : 0 < n
  inside : n ≤ q.length
  found : ∀ x, Clean (q ++ x) → sysexes (q ++ x) = sent ++ sysexes (q.drop n ++ x)
  clean : ∀ x, Clean (q ++ x) → Clean (q.drop n ++ x)

section Turns

variable {q : List Byte} {n : Nat}

theorem takes_quiet (some_ : 0 < n) (inside : n ≤ q.length) (quiet : ∀ x, Quiet (q ++ x) n) : Takes q n [] := by
  have behind (x : List Byte) : (q ++ x).drop n = q.drop n ++ x := List.drop_append_of_le_length inside
  constructor
  · exact some_
  · exact inside
  · intro x clean
    rw [(quiet x).found, behind, List.nil_append]
  · intro x clean
    rw [← behind]
    exact clean.drop (quiet x)

theorem takes_cut (inside : MAX_AKAI_SYSEX_LEN ≤ q.length) (interrupted : ∀ x, Interrupted (q ++ x)) :
    Takes q MAX_AKAI_SYSEX_LEN [] := by
  have behind (x : List Byte) : (q ++ x).drop MAX_AKAI_SYSEX_LEN = q.drop MAX_AKAI_SYSEX_LEN ++ x :=
    List.drop_append_of_le_length inside
  constructor
  · decide
  · exact inside
  · intro x clean
    rw [← behind]
    exact scan_drop (clean.cut_drop (interrupted x)).1
  · intro x clean
    rw [← behind]
    exact (clean.cut_drop (interrupted x)).2

theorem turn_skip (turn : akaiTurn (q.take MAX_AKAI_SYSEX_LEN) = .skip n) : Takes q n [] := by
  have seen := akaiTurn_seen (List.length_take_le MAX_AKAI_SYSEX_LEN q)
  have whole : q = q.take MAX_AKAI_SYSEX_LEN ++ q.drop MAX_AKAI_SYSEX_LEN := (List.take_append_drop ..).symm
  rw [turn] at seen
  generalize q.drop MAX_AKAI_SYSEX_LEN = w at whole
  generalize q.take MAX_AKAI_SYSEX_LEN = t at seen whole
  subst whole
  cases seen with
  | @other d z some_ others =>
    apply takes_quiet (List.length_pos_iff.mpr some_)
    · simp
    · intro x
      rw [List.append_assoc, List.append_assoc]
      exact quiet_bytes others _
  | @restart d z data =>
    apply takes_quiet (Nat.succ_pos _)
    · simp
    · intro x
      simp only [List.cons_append, List.append_assoc]
      apply Quiet.cons
      · rw [sysexAt_marker data (by decide)]
        exact if_neg fun found => absurd found.2 (by decide)
      · rw [interrupted_marker data (by decide)]
        exact fun found => found.2.1 rfl
      · exact quiet_data data _
  | @long d data eight =>
    have nine : d.length + 1 = 9 := by omega
    rw [← nine]
    apply takes_quiet (Nat.succ_pos _)
    · simp
    · intro x
      simp only [List.cons_append, List.append_assoc]
      exact Quiet.cons (sysexAt_long data eight.ge) (interrupted_long data eight.ge) (quiet_data data _)
  | @cut d z c data status again ends length =>
    apply takes_cut
    · simp [MAX_AKAI_SYSEX_LEN]
      omega
    · intro x
      simp only [List.cons_append, List.append_assoc]
      rw [interrupted_marker data status]
      exact ⟨by omega, again, ends⟩

theorem turn_send (turn : akaiTurn (q.take MAX_AKAI_SYSEX_LEN) = .send n) :
    Takes q n [q.take n] ∧ n ≤ MAX_AKAI_SYSEX_LEN := by
  have short := List.length_take_le MAX_AKAI_SYSEX_LEN q
  have seen := akaiTurn_seen short
  have whole : q = q.take MAX_AKAI_SYSEX_LEN ++ q.drop MAX_AKAI_SYSEX_LEN := (List.take_append_drop ..).symm
  rw [turn] at seen
  generalize q.drop MAX_AKAI_SYSEX_LEN = w at whole
  generalize q.take MAX_AKAI_SYSEX_LEN = t at seen whole short
  subst whole
  cases seen with
  | @message d z data =>
    simp only [List.length_cons, List.length_append] at short
    have fits : d.length + 2 ≤ MAX_AKAI_SYSEX_LEN := by omega
    have seven : d.length ≤ 7 := Nat.le_of_add_le_add_right fits
    have taken : (0xf0 :: (d ++ 0xf7 :: z) ++ w : List Byte).take (d.length + 2) = 0xf0 :: (d ++ [0xf7]) := by
      simp [List.take_append]
    have behind (x : List Byte) : (0xf0 :: (d ++ 0xf7 :: z) ++ w : List Byte).drop (d.length + 2) ++ x = z ++ (w ++ x) := by
      simp [List.drop_append]
    have quiet (x : List Byte) : Quiet (d ++ 0xf7 :: (z ++ (w ++ x))) (d.length + 1) := by
      have others : ∀ b ∈ d ++ [0xf7], b ≠ 0xf0 := by
        rintro b listed rfl
        rcases List.mem_append.mp listed with listed | listed
        · exact absurd (data _ listed) (by decide)
        · exact absurd (List.mem_singleton.mp listed) (by decide)
      have all := quiet_bytes others (z ++ (w ++ x))
      rw [List.length_append, List.append_assoc] at all
      exact all
    have dropped (x : List Byte) : (d ++ 0xf7 :: (z ++ (w ++ x)) : List Byte).drop (d.length + 1) = z ++ (w ++ x) := by
      simp [List.drop_append]
    have found (x : List Byte) : sysexAt (0xf0 :: (d ++ 0xf7 :: x)) = some (0xf0 :: (d ++ [0xf7])) := by
      rw [sysexAt_marker data (by decide), if_pos ⟨seven, rfl⟩]
    refine ⟨⟨Nat.succ_pos _, ?_, ?_, ?_⟩, fits⟩
    · simp
    · intro x clean
      rw [behind, taken]
      simp only [List.cons_append, List.append_assoc, List.nil_append]
      have step := scan_some (found (z ++ (w ++ x))) fun i small => (quiet x i small).1
      rw [dropped x] at step
      exact step
    · intro x clean
      rw [behind, ← dropped x]
      simp only [List.cons_append, List.append_assoc] at clean
      have rest : Clean (d ++ 0xf7 :: (z ++ (w ++ x))) := by
        cases clean with
        | next whole rest => exact rest
        | cut interrupted none_ rest => exact absurd rfl ((interrupted_marker data (by decide)).mp interrupted).2.2
      exact rest.drop (quiet x)

theorem turn_wait (turn : akaiTurn (q.take MAX_AKAI_SYSEX_LEN) = .wait) (clean : Clean q) :
    sysexes q = [] ∧ q.length < MAX_AKAI_SYSEX_LEN := by
  have seen := akaiTurn_seen (List.length_take_le MAX_AKAI_SYSEX_LEN q)
  rw [turn] at seen
  have all : (q.take MAX_AKAI_SYSEX_LEN).length < MAX_AKAI_SYSEX_LEN → q.take MAX_AKAI_SYSEX_LEN = q := by
    intro few
    rw [List.length_take] at few
    exact List.take_of_length_le (by omega)
  generalize q.take MAX_AKAI_SYSEX_LEN = t at seen all
  cases seen with
  | none_ =>
    rw [← all (by decide)]
    exact ⟨rfl, by decide⟩
  | @begun d data few =>
    rw [← all (Nat.succ_lt_succ few)]
    refine ⟨?_, Nat.succ_lt_succ few⟩
    have rest := (quiet_data data []).found
    rw [List.append_nil, List.drop_length] at rest
    exact (scan_cons_none (sysexAt_unended data)).trans rest
  | @cutShort d z c data status again ends few =>
    have short : (0xf0 :: (d ++ c :: z) : List Byte).length < MAX_AKAI_SYSEX_LEN := by
      simp [MAX_AKAI_SYSEX_LEN]
      omega
    have same := all short
    rw [← same] at clean ⊢
    have interrupted : Interrupted (0xf0 :: (d ++ c :: z)) := (interrupted_marker data status).mpr ⟨by omega, again, ends⟩
    exact ⟨scan_eq_nil fun i small => (clean.cut_drop interrupted).1 i (Nat.lt_trans small short), short⟩

end Turns

namespace AkaiOut

variable {ep ep' : AkaiOut} {urb urb' : List Byte} {n fuel : Nat} {sent : List (List Byte)}

theorem bufEnd_large (large : MAX_AKAI_SYSEX_LEN < ep.maxTransfer) : ep.bufEnd = ep.maxTransfer - 10 := by
  have small := ep.small
  unfold MAX_AKAI_SYSEX_LEN at large
  have same : (ep.maxTransfer : Int) - MAX_AKAI_SYSEX_LEN - 1 = ((ep.maxTransfer - 10 : Nat) : Int) := by
    unfold MAX_AKAI_SYSEX_LEN
    omega
  rw [bufEnd, same]
  exact toUnsigned_natCast (by omega)

theorem bufEnd_small (small : ep.maxTransfer ≤ MAX_AKAI_SYSEX_LEN) : 2 ^ 32 - 10 ≤ ep.bufEnd := by
  unfold MAX_AKAI_SYSEX_LEN at small
  unfold bufEnd toUnsigned MAX_AKAI_SYSEX_LEN
  omega

structure Sends (ep ep' : AkaiOut) (urb urb' : List Byte) (sent : List (List Byte)) : Prop where
  ring : ep'.substream.runtime.OutputRing
  maxTransfer : ep'.maxTransfer = ep.maxTransfer
  chunks : urb' = urb ++ sent.flatMap akaiChunk
  found : ∀ x, Clean (ep.pending ++ x) → sysexes (ep.pending ++ x) = sent ++ sysexes (ep'.pending ++ x)
  clean : ∀ x, Clean (ep.pending ++ x) → Clean (ep'.pending ++ x)
  room : MAX_AKAI_SYSEX_LEN < ep.maxTransfer → urb.length ≤ ep.maxTransfer → urb'.length ≤ ep.maxTransfer

def Ended (ep ep' : AkaiOut) (urb' : List Byte) : Prop :=
  ep'.active = false ∧ (Clean ep'.pending → sysexes ep'.pending = [] ∧ ep'.pending.length < MAX_AKAI_SYSEX_LEN) ∨
    ep'.active = ep.active ∧ ep.bufEnd ≤ urb'.length

theorem transmitAck_spec (ring : ep.substream.runtime.OutputRing) (inside : n ≤ ep.pending.length) :
    (ep.transmitAck n).substream.runtime.OutputRing ∧ (ep.transmitAck n).pending = ep.pending.drop n := by
  have few : n ≤ ep.substream.runtime.bufferSize - ep.substream.runtime.avail := by
    simpa [pending] using inside
  obtain ⟨ring', -, rest⟩ := ring.ack few
  exact ⟨ring', rest⟩

theorem length_chunk (msg : List Byte) : (akaiChunk msg).length = msg.length + 1 := rfl

theorem Sends.turn (ring : ep.substream.runtime.OutputRing) (takes : Takes ep.pending n sent)
    {sent' : List (List Byte)} (rest : Sends (ep.transmitAck n) ep' (urb ++ sent.flatMap akaiChunk) urb' sent')
    (fits : urb.length < ep.bufEnd → (sent.flatMap akaiChunk).length ≤ 10) (goes : urb.length < ep.bufEnd) :
    Sends ep ep' urb urb' (sent ++ sent') := by
  obtain ⟨-, behind⟩ := transmitAck_spec ring takes.inside
  constructor
  · exact rest.ring
  · exact rest.maxTransfer
  · rw [rest.chunks, List.flatMap_append, List.append_assoc]
  · intro x clean
    have later := rest.found x
    rw [behind] at later
    rw [takes.found x clean, later (takes.clean x clean), List.append_assoc]
  · intro x clean
    have later := rest.clean x
    rw [behind] at later
    exact later (takes.clean x clean)
  · intro large room
    have last := bufEnd_large large
    have chunk := fits goes
    apply rest.room large
    show (urb ++ _).length ≤ ep.maxTransfer
    rw [List.length_append]
    omega

theorem akaiLoop_spec (ring : ep.substream.runtime.OutputRing) (enough : ep.pending.length < fuel) :
    ∃ sent, Sends ep (akaiLoop fuel ep urb).1 urb (akaiLoop fuel ep urb).2 sent ∧
      Ended ep (akaiLoop fuel ep urb).1 (akaiLoop fuel ep urb).2 := by
  induction fuel generalizing ep urb with
  | zero => exact absurd enough (Nat.not_lt_zero _)
  | succ fuel ih =>
    rw [akaiLoop]
    by_cases goes : urb.length < ep.bufEnd
    · rw [if_pos goes]
      dsimp only
      rw [ring.transmitPeek]
      have peeked : ep.substream.runtime.pending.take MAX_AKAI_SYSEX_LEN = ep.pending.take MAX_AKAI_SYSEX_LEN := rfl
      rw [peeked]
      cases turn : akaiTurn (ep.pending.take MAX_AKAI_SYSEX_LEN) with
      | wait =>
        refine ⟨[], ⟨ring, rfl, ?_, fun x _ => rfl, fun x => id, fun _ => id⟩, Or.inl ⟨rfl, fun clean => turn_wait turn clean⟩⟩
        simp
      | skip count =>
        have takes := turn_skip turn
        obtain ⟨ring', behind⟩ := transmitAck_spec ring takes.inside
        have fewer : (ep.transmitAck count).pending.length < fuel := by
          have some_ := takes.some_
          have inside := takes.inside
          rw [behind, List.length_drop]
          omega
        obtain ⟨sent, sends, ended⟩ := @ih _ urb ring' fewer
        refine ⟨[] ++ sent, Sends.turn ring takes ?_ (fun _ => Nat.zero_le _) goes, ended⟩
        simpa using sends
      | send count =>
        obtain ⟨takes, short⟩ := turn_send turn
        obtain ⟨ring', behind⟩ := transmitAck_spec ring takes.inside
        have fewer : (ep.transmitAck count).pending.length < fuel := by
          have some_ := takes.some_
          have inside := takes.inside
          rw [behind, List.length_drop]
          omega
        have taken : (ep.pending.take MAX_AKAI_SYSEX_LEN).take count = ep.pending.take count := by
          rw [List.take_take, Nat.min_eq_left short]
        dsimp only
        rw [taken]
        obtain ⟨sent, sends, ended⟩ := @ih _ (urb ++ akaiChunk (ep.pending.take count)) ring' fewer
        have one : [ep.pending.take count].flatMap akaiChunk = akaiChunk (ep.pending.take count) := by simp
        refine ⟨[ep.pending.take count] ++ sent, Sends.turn ring takes ?_ (fun _ => ?_) goes, ended⟩
        · rw [one]
          exact sends
        · rw [one, length_chunk, List.length_take]
          unfold MAX_AKAI_SYSEX_LEN at short
          omega
    · rw [if_neg goes]
      exact ⟨[], ⟨ring, rfl, by simp, fun x _ => rfl, fun x => id, fun _ => id⟩, Or.inr ⟨rfl, Nat.le_of_not_lt goes⟩⟩

theorem write_spec (ring : ep.substream.runtime.OutputRing) (data : List Byte) :
    (ep.write data).1.substream.runtime.OutputRing ∧ (ep.write data).1.pending = ep.pending ++ (ep.write data).2 ∧
      (ep.write data).1.maxTransfer = ep.maxTransfer := by
  unfold write
  dsimp only
  split
  · exact ⟨ring, (List.append_nil _).symm, rfl⟩
  · obtain ⟨ring', -, -, more, -⟩ := @SndRawmidiRuntime.OutputRing.writeKernel _ data data.length 0 ring (Nat.zero_le _)
    exact ⟨ring', more, rfl⟩

def Room (ep : AkaiOut) : Prop :=
  11 ≤ ep.maxTransfer ∨ ep.pending = [] ∨
    ep.maxTransfer ≤ MAX_AKAI_SYSEX_LEN ∧ ((sysexes ep.pending).flatMap akaiChunk).length ≤ ep.maxTransfer

theorem akaiOutput_spec (ring : ep.substream.runtime.OutputRing) (active : ep.active = true) (clean : Clean ep.pending)
    (room : ep.Room) : ∃ sent, Sends ep ep.akaiOutput.1 [] ep.akaiOutput.2 sent ∧ ep.akaiOutput.2.length ≤ ep.maxTransfer ∧
      (ep.akaiOutput.1.active = false ∧ sysexes ep.akaiOutput.1.pending = [] ∧
          ep.akaiOutput.1.pending.length < MAX_AKAI_SYSEX_LEN ∨ ep.akaiOutput.2 ≠ [] ∨ ep.pending = []) := by
  unfold akaiOutput
  rw [if_neg (by simp [active])]
  obtain ⟨sent, sends, ended⟩ := akaiLoop_spec ring (Nat.lt_succ_self _)
  generalize akaiLoop (ep.pending.length + 1) ep [] = done at sends ended
  have all := sends.found [] (by simpa using clean)
  have later := sends.clean [] (by simpa using clean)
  simp only [List.append_nil] at all later
  have chunks : done.2 = sent.flatMap akaiChunk := sends.chunks
  have bounded : done.2.length ≤ ep.maxTransfer := by
    rcases room with large | empty | ⟨-, fits⟩
    · exact sends.room (Nat.lt_of_lt_of_le (by decide) large) (Nat.zero_le _)
    · rw [empty] at all
      have none_ : sent = [] := (List.append_eq_nil_iff.mp all.symm).1
      rw [chunks, none_]
      exact Nat.zero_le _
    · rw [all, List.flatMap_append, List.length_append, ← chunks] at fits
      omega
  refine ⟨sent, sends, bounded, ?_⟩
  rcases ended with ⟨off, waits⟩ | ⟨-, full⟩
  · obtain ⟨none_, short⟩ := waits later
    exact Or.inl ⟨off, none_, short⟩
  · rcases room with large | empty | ⟨small, fits⟩
    · refine Or.inr (Or.inl ?_)
      rw [bufEnd_large (Nat.lt_of_lt_of_le (by decide) large)] at full
      apply List.ne_nil_of_length_pos
      omega
    · exact Or.inr (Or.inr empty)
    · have last := bufEnd_small small
      unfold MAX_AKAI_SYSEX_LEN at small
      omega

end AkaiOut

namespace AkaiLink

variable {s : AkaiLink}

structure Framed (s : AkaiLink) : Prop where
  found : ∃ sent : List (List (List Byte)),
    s.urbs = sent.map (fun msgs => msgs.flatMap akaiChunk) ∧ sysexes s.written = sent.flatten ++ sysexes s.ep.pending
  bounded : ∀ urb ∈ s.urbs, urb.length ≤ s.ep.maxTransfer

structure Delivers (s : AkaiLink) (op : AkaiOp) (s' : AkaiLink) : Prop where
  framed : s'.Framed
  moves : op = .output → s.ep.active = true → s.ep.pending ≠ [] →
    s'.ep.active = false ∧ sysexes s'.ep.pending = [] ∧ s'.ep.pending.length < MAX_AKAI_SYSEX_LEN ∨ s'.urbs ≠ s.urbs

def Ready (s : AkaiLink) : AkaiOp → Prop
  | .write data => Clean (s.written ++ (s.ep.write data).2)
  | .trigger _ => True
  | .output => s.ep.active = true → s.ep.Room

structure Inv (s : AkaiLink) : Prop where
  ring : s.ep.substream.runtime.OutputRing
  clean : Clean s.written
  pending : ∀ x, Clean (s.written ++ x) → Clean (s.ep.pending ++ x)
  found : ∃ sent : List (List (List Byte)), s.urbs = sent.map (fun msgs => msgs.flatMap akaiChunk) ∧
    ∀ x, Clean (s.written ++ x) → sysexes (s.written ++ x) = sent.flatten ++ sysexes (s.ep.pending ++ x)
  bounded : ∀ urb ∈ s.urbs, urb.length ≤ s.ep.maxTransfer

theorem Inv.framed (inv : s.Inv) : s.Framed := by
  obtain ⟨sent, urbs, all⟩ := inv.found
  have now := all [] (by simpa using inv.clean)
  simp only [List.append_nil] at now
  exact ⟨⟨sent, urbs, now⟩, inv.bounded⟩

theorem Inv.write (inv : s.Inv) (data : List Byte) (clean : Clean (s.written ++ (s.ep.write data).2)) :
    (s.exec (.write data)).Inv := by
  obtain ⟨ring, pending, same⟩ := AkaiOut.write_spec inv.ring data
  obtain ⟨sent, urbs, all⟩ := inv.found
  refine ⟨ring, clean, ?_, ⟨sent, urbs, ?_⟩, ?_⟩
  · intro x later
    show Clean ((s.ep.write data).1.pending ++ x)
    rw [pending, List.append_assoc]
    exact inv.pending _ (by simpa [exec] using later)
  · intro x later
    show sysexes (s.written ++ (s.ep.write data).2 ++ x) = _ ++ sysexes ((s.ep.write data).1.pending ++ x)
    rw [pending, List.append_assoc, List.append_assoc]
    exact all _ (by simpa [exec] using later)
  · intro urb listed
    show urb.length ≤ (s.ep.write data).1.maxTransfer
    rw [same]
    exact inv.bounded urb listed

theorem Inv.output (inv : s.Inv) (active : s.ep.active = true) (room : s.ep.Room) :
    (s.exec .output).Inv ∧ Delivers s .output (s.exec .output) := by
  have now := inv.pending [] (by simpa using inv.clean)
  rw [List.append_nil] at now
  obtain ⟨more, sends, bounded, moves⟩ := AkaiOut.akaiOutput_spec inv.ring active now room
  obtain ⟨sent, urbs, all⟩ := inv.found
  have chunks : s.ep.akaiOutput.2 = more.flatMap akaiChunk := sends.chunks
  have inv' : (s.exec .output).Inv := by
    refine ⟨sends.ring, inv.clean, ?_, ?_, ?_⟩
    · exact fun x clean => sends.clean x (inv.pending x clean)
    · have behind (x : List Byte) (clean : Clean (s.written ++ x)) :
          sysexes (s.written ++ x) = (sent ++ [more]).flatten ++ sysexes ((s.exec .output).ep.pending ++ x) := by
        rw [all x clean, sends.found x (inv.pending x clean)]
        simp [exec]
      by_cases nothing : s.ep.akaiOutput.2 = []
      · have none_ : more = [] := by
          rw [chunks] at nothing
          cases more with
          | nil => rfl
          | cons msg rest => simp [akaiChunk] at nothing
        refine ⟨sent, ?_, fun x clean => ?_⟩
        · simp [exec, nothing, urbs]
        · have step : sysexes ((s.exec .output).written ++ x) = _ := behind x clean
          rw [none_] at step
          simpa using step
      · refine ⟨sent ++ [more], ?_, behind⟩
        show (if s.ep.akaiOutput.2 = [] then s.urbs else s.urbs ++ [s.ep.akaiOutput.2]) = _
        rw [if_neg nothing, urbs, chunks]
        simp
    · intro urb listed
      show urb.length ≤ s.ep.akaiOutput.1.maxTransfer
      rw [sends.maxTransfer]
      by_cases nothing : s.ep.akaiOutput.2 = []
      · exact inv.bounded urb (by simpa [exec, nothing] using listed)
      · have either : urb ∈ s.urbs ∨ urb = s.ep.akaiOutput.2 := by simpa [exec, nothing] using listed
        rcases either with before | rfl
        · exact inv.bounded urb before
        · exact bounded
  refine ⟨inv', inv'.framed, ?_⟩
  rintro - - some_
  rcases moves with waits | sent_ | empty
  · exact Or.inl waits
  · refine Or.inr ?_
    simp [exec, sent_]
  · exact absurd empty some_

theorem Inv.exec (inv : s.Inv) {op : AkaiOp} (ready : s.Ready op) : Delivers s op (s.exec op) ∧ (s.exec op).Inv := by
  cases op with
  | write data =>
    have inv' := inv.write data ready
    exact ⟨⟨inv'.framed, fun same => by cases same⟩, inv'⟩
  | trigger up =>
    have inv' : (s.exec (.trigger up)).Inv := ⟨inv.ring, inv.clean, inv.pending, inv.found, inv.bounded⟩
    exact ⟨⟨inv'.framed, fun same => by cases same⟩, inv'⟩
  | output =>
    by_cases active : s.ep.active = true
    · obtain ⟨inv', delivers⟩ := inv.output active (ready active)
      exact ⟨delivers, inv'⟩
    · have still : s.exec .output = s := by
        simp [AkaiLink.exec, AkaiOut.akaiOutput, active]
      rw [still]
      exact ⟨⟨inv.framed, fun _ on => absurd on active⟩, inv⟩

def start (buffer : Nat → Byte) (size : Nat) (sized : BufferSize size) (append : Bool) (maxTransfer : Nat)
    (small : maxTransfer < 2 ^ 31) : AkaiLink where
  ep := ⟨(Output.fresh buffer size sized append).sub, false, maxTransfer, small⟩
  written := []
  urbs := []

theorem start_inv {buffer : Nat → Byte} {size : Nat} {sized : BufferSize size} {append : Bool} {maxTransfer : Nat}
    {small : maxTransfer < 2 ^ 31} : (start buffer size sized append maxTransfer small).Inv := by
  have first := Output.fresh_inv buffer size sized append 0
  have empty : (start buffer size sized append maxTransfer small).ep.pending = [] := by
    apply List.eq_nil_of_length_eq_zero
    show (SndRawmidiRuntime.pending _).length = 0
    rw [SndRawmidiRuntime.length_pending]
    exact Nat.sub_self size
  refine ⟨first.ring, Clean.nil, ?_, ⟨[], rfl, ?_⟩, ?_⟩
  · intro x clean
    rw [empty]
    exact clean
  · intro x clean
    rw [empty]
    rfl
  · exact fun urb listed => absurd listed List.not_mem_nil

/-- Every SysEx message that fits is sent in order, as soon as it is there. -/
theorem sysex_framed (buffer : Nat → Byte) (size : Nat) (sized : BufferSize size) (append : Bool) (maxTransfer : Nat)
    (small : maxTransfer < 2 ^ 31) (ops : List AkaiOp)
    (ready : Throughout AkaiLink.exec (fun s op _ => s.Ready op) (start buffer size sized append maxTransfer small) ops) :
    Throughout AkaiLink.exec Delivers (start buffer size sized append maxTransfer small) ops :=
  ready.steps Inv start_inv fun _ _ inv step => inv.exec step

theorem maxTransfer_small : 64 < 2 ^ 31 := by decide

/-- A message between other bytes, and the start of another one. -/
theorem sysex_framed_two :
    Throughout AkaiLink.exec Delivers (start (fun _ => 0) 32 bufferSize_least false 64 maxTransfer_small)
      [.write [0x90, 60, 0xf0, 1, 0xf7, 0xf0], .output, .write [2, 0xf7], .output] :=
  sysex_framed _ _ _ _ _ _ _ 
    ⟨clean_of_whole (by decide), fun _ => Or.inl (by decide), clean_of_whole (by decide), fun _ => Or.inl (by decide), trivial⟩

/-- A message behind one that is cut waits for bytes that need not come. -/
theorem cut_sysex_waits : ¬ ∀ (buffer : Nat → Byte) (size : Nat) (sized : BufferSize size) (append : Bool) (maxTransfer : Nat)
    (small : maxTransfer < 2 ^ 31) (ops : List AkaiOp),
    Throughout AkaiLink.exec Delivers (start buffer size sized append maxTransfer small) ops := by
  intro claim
  obtain ⟨-, delivers, -⟩ := claim (fun _ => 0) 32 bufferSize_least false 64 maxTransfer_small
    [.write [0xf0, 1, 0xf8, 0xf0, 2, 0xf7], .output]
  rcases delivers.moves rfl (by decide) (by decide) with ⟨-, none_, -⟩ | sent
  · exact absurd none_ (by decide)
  · exact absurd (by decide) sent

end AkaiLink

end AlsaDriver.Usb
