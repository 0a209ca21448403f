import AlsaDriver.Lib.Delimited
import AlsaDriver.Info.Buffer

namespace AlsaDriver.Info

open Delimited

def newline : Byte := 0x0a

/-- What a call of `snd_info_get_line` returns, the bytes that it stores, and the places that it reads. -/
structure LineCall where
  ret : Nat
  stored : List Byte
  reads : List Nat
  deriving DecidableEq, Repr

namespace InfoBuffer

/-- The loop of `snd_info_get_line`; `line` are the bytes stored so far, `reads` the places read. -/
def getLineLoop : Nat → InfoBuffer → Nat → List Byte → List Nat → InfoBuffer × List Byte × List Nat
  | 0, b, _, line, reads => (b, line, reads)
  | fuel + 1, b, len, line, reads =>
    if b.stop then (b, line, reads)
    else
      let c := b.bytes.getD b.curr 0
      let reads := reads ++ [b.curr]
      let b := { b with curr := b.curr + 1, stop := decide (b.curr + 1 ≥ b.size) }
      if c = newline then (b, line, reads)
      else if len ≠ 0 then getLineLoop fuel b (len - 1) (line ++ [c]) reads
      else getLineLoop fuel b len line reads

/-- `snd_info_get_line`; each pass but the last one leaves fewer bytes in front of `size`. -/
def getLine (b : InfoBuffer) (len : Nat) : LineCall × InfoBuffer :=
  if len = 0 ∨ b.stop = true ∨ b.error ≠ 0 then (⟨1, [], []⟩, b)
  else
    let r := getLineLoop (b.size - b.curr + 1) b len [] []
    (⟨0, r.2.1 ++ [0], r.2.2⟩, r.1)

def getLines : InfoBuffer → List Nat → List LineCall × InfoBuffer
  | b, [] => ([], b)
  | b, len :: rest =>
    let (call, b) := b.getLine len
    let (calls, b) := getLines b rest
    (call :: calls, b)

end InfoBuffer

def isBlank (c : Byte) : Bool := c == 0x20 || c == 0x09

/-- `src` is stepped over blanks; none where it leaves the line. -/
def skipBlanks : List Byte → Option (List Byte)
  | [] => none
  | c :: src => if isBlank c then skipBlanks src else some (c :: src)

def copyToken (ends : Byte → Bool) : List Byte → Int → Option (List Byte × List Byte)
  | [], len => if len - 1 > 0 then none else some ([], [])
  | c :: src, len =>
    if len - 1 > 0 ∧ c ≠ 0 ∧ ends c = false then (copyToken ends src (len - 1)).map fun r => (c :: r.1, r.2)
    else some ([], c :: src)

/-- `snd_info_get_str`, with what is stored and what is left of the line; none where it reads outside of the line. -/
def getStr (src : List Byte) (len : Int) : Option (List Byte × List Byte) := do
  let src ← skipBlanks src
  let quote ← src.head?
  let (token, src) ←
    if quote = 0x22 ∨ quote = 0x27 then do
      let (token, src) ← copyToken (· == quote) src.tail len
      let c ← src.head?
      some (token, if c = quote then src.tail else src)
    else copyToken isBlank src len
  let src ← skipBlanks src
  some (token ++ [0], src)

end AlsaDriver.Info

namespace AlsaDriver.Info

open Delimited

namespace InfoBuffer

variable {b : InfoBuffer} {c : Byte} {text line : List Byte} {reads : List Nat} {fuel len : Nat}

/-- The text that is left in front of `size`. -/
structure At (b : InfoBuffer) (text : List Byte) : Prop where
  left : (b.bytes.take b.size).drop b.curr = text
  long : b.size ≤ b.bytes.length
  curr : b.curr ≤ b.size
  stop : b.stop = true ↔ text = []
  error : b.error = 0

theorem At.length (at_ : b.At text) : text.length = b.size - b.curr := by
  have long := at_.long
  rw [← at_.left]
  simp [long]

theorem At.next (at_ : b.At (c :: text)) : b.stop = false ∧ b.curr < b.size ∧ b.bytes.getD b.curr 0 = c ∧
    At { b with curr := b.curr + 1, stop := decide (b.curr + 1 ≥ b.size) } text := by
  have length := at_.length
  have long := at_.long
  have inside : b.curr < b.size := by
    simp only [List.length_cons] at length
    omega
  have start : b.bytes[b.curr] :: (b.bytes.take b.size).drop (b.curr + 1) = c :: text := by
    have split := List.drop_eq_getElem_cons (l := b.bytes.take b.size) (i := b.curr) (by simp; omega)
    rw [List.getElem_take, at_.left] at split
    exact split.symm
  obtain ⟨head, rest⟩ := List.cons.inj start
  refine ⟨?_, inside, ?_, rest, long, inside, ?_, at_.error⟩
  · have going : ¬ b.stop = true := fun stopped => List.cons_ne_nil c text (at_.stop.mp stopped)
    simpa using going
  · rw [List.getD_eq_getElem?_getD, List.getElem?_eq_getElem (by omega), head]
    rfl
  · rw [← rest]
    simp only [decide_eq_true_eq, List.drop_eq_nil_iff, List.length_take]
    omega

theorem getLineLoop_stop (stopped : b.stop = true) : getLineLoop fuel b len line reads = (b, line, reads) := by
  cases fuel with
  | zero => rfl
  | succ fuel => rw [getLineLoop, if_pos stopped]

theorem getLineLoop_eq (len : Nat) (line : List Byte) (reads : List Nat) (at_ : b.At text) (some_ : text ≠ [])
    (enough : text.length ≤ fuel) : ∃ b' extra,
    getLineLoop fuel b len line reads = (b', line ++ (first newline text).take len, reads ++ extra) ∧
      b'.At (after newline text) ∧ b'.size = b.size ∧ ∀ i ∈ extra, i < b.size := by
  induction fuel generalizing b text len line reads with
  | zero => exact absurd (List.length_eq_zero_iff.mp (Nat.le_zero.mp enough)) some_
  | succ fuel ih =>
    cases text with
    | nil => exact absurd rfl some_
    | cons c rest =>
      obtain ⟨going, inside, char, next⟩ := at_.next
      rw [getLineLoop, if_neg (by simp [going]), char]
      dsimp only
      generalize bumped : ({ b with curr := b.curr + 1, stop := decide (b.curr + 1 ≥ b.size) } : InfoBuffer) = b1 at next ⊢
      have same : b1.size = b.size := bumped ▸ rfl
      by_cases ends : c = newline
      · rw [if_pos ends, ends]
        refine ⟨b1, [b.curr], ?_, ?_, same, by simpa using inside⟩
        · simp [first_delimiter]
        · simpa [after, first_delimiter] using next
      · rw [if_neg ends, first_other ends]
        have later : after newline (c :: rest) = after newline rest := by simp [after, first_other ends]
        rw [later]
        have takes : (if len ≠ 0 then getLineLoop fuel b1 (len - 1) (line ++ [c]) (reads ++ [b.curr])
            else getLineLoop fuel b1 len line (reads ++ [b.curr])) =
            getLineLoop fuel b1 (len - 1) (line ++ [c].take len) (reads ++ [b.curr]) := by
          cases len <;> simp
        rw [takes]
        have whole : [c].take len ++ (first newline rest).take (len - 1) = (c :: first newline rest).take len := by
          cases len <;> simp
        by_cases last : rest = []
        · subst last
          refine ⟨b1, [b.curr], ?_, next, same, by simpa using inside⟩
          rw [getLineLoop_stop (next.stop.mpr rfl), ← whole]
          simp
        · obtain ⟨b', extra, run, at', size, read⟩ :=
            ih (len - 1) (line ++ [c].take len) (reads ++ [b.curr]) next last (by simpa using enough)
          refine ⟨b', b.curr :: extra, ?_, at', size.trans same, ?_⟩
          · rw [run, ← whole]
            simp
          · intro i listed
            rcases List.mem_cons.mp listed with rfl | listed
            · exact inside
            · exact same ▸ read i listed

theorem getLine_eq (at_ : b.At text) (some_ : text ≠ []) (room : 0 < len) : ∃ b' reads,
    b.getLine len = (⟨0, (first newline text).take len ++ [0], reads⟩, b') ∧ b'.At (after newline text) ∧
      b'.size = b.size ∧ ∀ i ∈ reads, i < b.size := by
  have enough : text.length ≤ b.size - b.curr + 1 := by
    have length := at_.length
    omega
  obtain ⟨b', extra, run, at', size, reads⟩ := getLineLoop_eq len [] [] at_ some_ enough
  have going : ¬ (len = 0 ∨ b.stop = true ∨ b.error ≠ 0) := by
    rintro (none_ | stopped | wrong)
    · omega
    · exact some_ (at_.stop.mp stopped)
    · exact wrong at_.error
  refine ⟨b', extra, ?_, at', size, reads⟩
  unfold getLine
  rw [if_neg going, run]
  rfl

theorem getLine_end (at_ : b.At []) : b.getLine len = (⟨1, [], []⟩, b) := if_pos (Or.inr (Or.inl (at_.stop.mpr rfl)))

end InfoBuffer

def LineCall.line (call : LineCall) : Option (List Byte) := if call.ret = 0 then some call.stored else none

def expectedLines : List (List Byte) → List Nat → List (Option (List Byte))
  | _, [] => []
  | [], _ :: rest => none :: expectedLines [] rest
  | line :: lines, len :: rest => some (line.take (len - 1) ++ [0]) :: expectedLines lines rest

def GivesToken (src : List Byte) (len : Int) : Prop :=
  ∃ token rest, getStr src len = some (token, rest) ∧ token.length ≤ len ∧ rest <:+ src ∧ 0 ∈ rest

theorem skipBlanks_eq {src : List Byte} (ends : 0 ∈ src) : ∃ rest, skipBlanks src = some rest ∧ rest <:+ src ∧ 0 ∈ rest := by
  induction src with
  | nil => exact absurd ends List.not_mem_nil
  | cons c src ih =>
    rw [skipBlanks]
    by_cases blank : isBlank c = true
    · rw [if_pos blank]
      have later : 0 ∈ src := by
        rcases List.mem_cons.mp ends with rfl | later
        · exact absurd blank (by decide)
        · exact later
      obtain ⟨rest, run, within, kept⟩ := ih later
      exact ⟨rest, run, within.trans (List.suffix_cons c src), kept⟩
    · rw [if_neg blank]
      exact ⟨c :: src, rfl, List.suffix_refl _, ends⟩

theorem copyToken_eq (stops : Byte → Bool) {src : List Byte} {len : Int} (ends : 0 ∈ src) (room : 1 ≤ len) :
    ∃ token rest, copyToken stops src len = some (token, rest) ∧ token.length < len ∧ rest <:+ src ∧ 0 ∈ rest := by
  induction src generalizing len with
  | nil => exact absurd ends List.not_mem_nil
  | cons c src ih =>
    rw [copyToken]
    by_cases copies : len - 1 > 0 ∧ c ≠ 0 ∧ stops c = false
    · rw [if_pos copies]
      have later : 0 ∈ src := (List.mem_cons.mp ends).resolve_left (Ne.symm copies.2.1)
      obtain ⟨token, rest, run, short, within, kept⟩ := ih later (show 1 ≤ len - 1 by omega)
      refine ⟨c :: token, rest, by rw [run]; rfl, ?_, within.trans (List.suffix_cons c src), kept⟩
      rw [List.length_cons, Nat.cast_succ]
      omega
    · rw [if_neg copies]
      exact ⟨[], c :: src, rfl, by simp; omega, List.suffix_refl _, ends⟩

theorem behind {c : Byte} {src : List Byte} (ends : 0 ∈ c :: src) (other : c ≠ 0) : 0 ∈ src :=
  (List.mem_cons.mp ends).resolve_left (Ne.symm other)

theorem givesToken (src : List Byte) (len : Int) (ends : 0 ∈ src) (room : 1 ≤ len) : GivesToken src len := by
  obtain ⟨word, skip, within, kept⟩ := skipBlanks_eq ends
  cases word with
  | nil => exact absurd kept List.not_mem_nil
  | cons quote word =>
    by_cases quoted : quote = 0x22 ∨ quote = 0x27
    · have other : quote ≠ 0 := by rcases quoted with rfl | rfl <;> decide
      obtain ⟨token, rest, copy, short, inner, left⟩ := copyToken_eq (· == quote) (behind kept other) room
      cases rest with
      | nil => exact absurd left List.not_mem_nil
      | cons c rest =>
        have next : 0 ∈ (if c = quote then rest else c :: rest) := by
          split
          · next same => exact behind left (same ▸ other)
          · exact left
        obtain ⟨final, skip', inside, terminated⟩ := skipBlanks_eq next
        refine ⟨token ++ [0], final, ?_, by simp; omega, ?_, terminated⟩
        · unfold getStr
          rw [skip]
          simp only [Option.bind_eq_bind, Option.bind_some, List.head?_cons, if_pos quoted, List.tail_cons, copy, skip']
        · have step : (if c = quote then rest else c :: rest) <:+ c :: rest := by
            split
            · exact List.suffix_cons c rest
            · exact List.suffix_refl _
          exact inside.trans (step.trans (inner.trans ((List.suffix_cons quote word).trans within)))
    · obtain ⟨token, rest, copy, short, inner, left⟩ := copyToken_eq isBlank kept room
      obtain ⟨final, skip', inside, terminated⟩ := skipBlanks_eq left
      refine ⟨token ++ [0], final, ?_, by simp; omega, inside.trans (inner.trans within), terminated⟩
      unfold getStr
      rw [skip]
      simp only [Option.bind_eq_bind, Option.bind_some, List.head?_cons, if_neg quoted, copy, skip']

namespace InfoBuffer

structure ReadsLines (b : InfoBuffer) (text : List Byte) (lens : List Nat) : Prop where
  lines : (b.getLines lens).1.map LineCall.line = expectedLines (pieces newline text) lens
  inside : ∀ call ∈ (b.getLines lens).1, ∀ i ∈ call.reads, i < b.size
  fits : ∀ p ∈ (b.getLines lens).1.zip lens, p.1.stored.length ≤ p.2
  consumed : (pieces newline text).length ≤ lens.length → (b.getLines lens).2.curr = b.size
  tokens : ∀ call ∈ (b.getLines lens).1, ∀ src, src <:+ call.stored → 0 ∈ src → ∀ len : Int, 1 ≤ len → GivesToken src len

variable {b b' : InfoBuffer} {text : List Byte} {lens : List Nat} {len : Nat}

theorem consumed_of_empty (at_ : b.At []) : b.curr = b.size := by
  have length := at_.length
  have curr := at_.curr
  simp only [List.length_nil] at length
  omega

theorem cut_eq {line : List Byte} {len : Nat} (fits : line.length < len) : line.take len = line.take (len - 1) := by
  rw [List.take_of_length_le (by omega), List.take_of_length_le (by omega)]

theorem readsLines_end (at_ : b.At []) (later : b.ReadsLines [] lens) : b.ReadsLines [] (len :: lens) := by
  have calls : b.getLines (len :: lens) = (⟨1, [], []⟩ :: (b.getLines lens).1, (b.getLines lens).2) := by
    rw [getLines, getLine_end at_]
  constructor
  · rw [calls]
    simpa [LineCall.line, expectedLines] using later.lines
  · rw [calls]
    intro call listed
    rcases List.mem_cons.mp listed with rfl | listed
    · simp
    · exact later.inside call listed
  · rw [calls]
    intro p listed
    rcases List.mem_cons.mp listed with rfl | listed
    · simp
    · exact later.fits p listed
  · rw [calls]
    exact fun _ => later.consumed (by simp)
  · rw [calls]
    intro call listed
    rcases List.mem_cons.mp listed with rfl | listed
    · intro src within ends
      rw [List.suffix_nil.mp within] at ends
      exact absurd ends List.not_mem_nil
    · exact later.tokens call listed

theorem readsLines_cons {call : LineCall} (run : b.getLine len = (call, b')) (some_ : text ≠ []) (size : b'.size = b.size)
    (ret : call.ret = 0) (stored : call.stored = (first newline text).take len ++ [0])
    (inside : ∀ i ∈ call.reads, i < b.size) :
    b.ReadsLines text (len :: lens) ↔ (first newline text).length < len ∧ b'.ReadsLines (after newline text) lens := by
  have calls : b.getLines (len :: lens) = (call :: (b'.getLines lens).1, (b'.getLines lens).2) := by rw [getLines, run]
  have lines : pieces newline text = first newline text :: pieces newline (after newline text) := pieces_eq some_
  constructor
  · intro works
    have short : call.stored.length ≤ len := works.fits (call, len) (by simp [calls])
    have fits : (first newline text).length < len := by
      rw [stored] at short
      simp only [List.length_append, List.length_take, List.length_singleton] at short
      omega
    refine ⟨fits, ?_, ?_, ?_, ?_, ?_⟩
    · have same := works.lines
      rw [calls, lines] at same
      exact (List.cons.inj same).2
    · intro other listed i read
      exact size ▸ works.inside other (by simp [calls, listed]) i read
    · exact fun p listed => works.fits p (by simp [calls, listed])
    · intro short
      have all := works.consumed (by simpa [lines] using short)
      rw [calls] at all
      exact all.trans size.symm
    · exact fun other listed => works.tokens other (by simp [calls, listed])
  · rintro ⟨fits, later⟩
    constructor
    · rw [calls, lines, List.map_cons, later.lines]
      simp [LineCall.line, expectedLines, ret, stored, cut_eq fits]
    · rw [calls]
      intro other listed i read
      rcases List.mem_cons.mp listed with rfl | listed
      · exact inside i read
      · exact size ▸ later.inside other listed i read
    · rw [calls]
      intro p listed
      rcases List.mem_cons.mp listed with rfl | listed
      · simp only [stored, List.length_append, List.length_take, List.length_singleton]
        omega
      · exact later.fits p listed
    · intro short
      rw [calls]
      exact (later.consumed (by simpa [lines] using short)).trans size
    · exact fun other _ src _ ends len positive => givesToken src len ends positive

theorem readsLines_iff (at_ : b.At text) (room : ∀ len ∈ lens, 0 < len) :
    b.ReadsLines text lens ↔ ∀ p ∈ (pieces newline text).zip lens, p.1.length < p.2 := by
  induction lens generalizing b text with
  | nil =>
    refine iff_of_true ⟨?_, by simp [getLines], by simp, ?_, by simp [getLines]⟩ (by simp)
    · cases pieces newline text <;> rfl
    · intro done
      cases text with
      | nil => exact consumed_of_empty at_
      | cons c rest =>
        rw [pieces_eq (List.cons_ne_nil c rest)] at done
        simp at done
  | cons len rest ih =>
    have others := fun l listed => room l (List.mem_cons_of_mem len listed)
    by_cases none_ : text = []
    · subst none_
      exact iff_of_true (readsLines_end at_ ((ih at_ others).mpr (by simp))) (by simp)
    · obtain ⟨b', reads, run, at', size, inside⟩ := getLine_eq at_ none_ (room len List.mem_cons_self)
      rw [readsLines_cons run none_ size rfl rfl inside, ih at' others, pieces_eq none_, List.zip_cons_cons]
      simp only [List.forall_mem_cons]

/-- The buffer as `snd_info_text_entry_release` gives it to the entry's `write`. -/
structure Written (b : InfoBuffer) : Prop where
  long : b.size ≤ b.bytes.length
  curr : b.curr = 0
  stop : b.stop = false
  error : b.error = 0

theorem Written.at (written : b.Written) (some_ : 0 < b.size) : b.At (b.bytes.take b.size) := by
  have long := written.long
  refine ⟨?_, long, ?_, ?_, written.error⟩
  · rw [written.curr, List.drop_zero]
  · rw [written.curr]
    exact Nat.zero_le _
  · have filled : b.bytes.take b.size ≠ [] := by
      intro none_
      have length := congrArg List.length none_
      simp only [List.length_take, List.length_nil] at length
      omega
    simp only [written.stop, filled, Bool.false_eq_true]

theorem Written.read_empty (written : b.Written) (empty : b.size = 0) (room : 0 < len) : 0 ∈ (b.getLine len).1.reads := by
  have going : ¬ (len = 0 ∨ b.stop = true ∨ b.error ≠ 0) := by
    simp [written.stop, written.error]
    omega
  unfold getLine
  rw [if_neg going, empty, written.curr, getLineLoop, written.stop, if_neg Bool.false_ne_true, written.curr]
  dsimp only
  have stopped : ({ b with curr := 0 + 1, stop := decide (0 + 1 ≥ b.size) } : InfoBuffer).stop = true := by simp [empty]
  split
  · simp
  · split
    · rw [getLineLoop_stop stopped]
      simp
    · rw [getLineLoop_stop stopped]
      simp

theorem lines_read_iff (written : b.Written) (room : ∀ len ∈ lens, 0 < len) :
    b.ReadsLines (b.bytes.take b.size) lens ↔
      (lens = [] ∨ 0 < b.size) ∧ ∀ p ∈ (pieces newline (b.bytes.take b.size)).zip lens, p.1.length < p.2 := by
  by_cases some_ : 0 < b.size
  · rw [readsLines_iff (written.at some_) room]
    simp [some_]
  · have empty : b.size = 0 := by omega
    cases lens with
    | nil =>
      refine iff_of_true ?_ (by simp)
      constructor <;> simp [getLines, expectedLines, empty, written.curr]
    | cons len rest =>
      refine iff_of_false ?_ (by simp [empty])
      intro works
      have outside := works.inside (b.getLine len).1 (by simp [getLines]) 0
        (written.read_empty empty (room len List.mem_cons_self))
      omega

/-- Two lines, of which the first one just fits. -/
theorem lines_read_two : ReadsLines ⟨0x1000, [0x61, 0x62, 0x0a, 0x63, 0, 0], 0, 4, 6, false, 0⟩ [0x61, 0x62, 0x0a, 0x63] [3, 8, 8] :=
  (lines_read_iff ⟨by decide, rfl, rfl, rfl⟩ (by decide)).mpr (by decide)

/-- A line of four characters in an array of four: the terminator is stored behind the array. -/
theorem terminator_leaves_array :
    ¬ ∀ (b : InfoBuffer) (lens : List Nat), b.Written → (∀ len ∈ lens, 0 < len) → b.ReadsLines (b.bytes.take b.size) lens := by
  intro claim
  have works := claim ⟨0x1000, [0x61, 0x62, 0x63, 0x64], 0, 4, 4, false, 0⟩ [4] ⟨by decide, rfl, rfl, rfl⟩ (by decide)
  have fits := works.fits (⟨0, [0x61, 0x62, 0x63, 0x64, 0], [0, 1, 2, 3]⟩, 4) (by decide)
  exact absurd fits (by decide)

end InfoBuffer

end AlsaDriver.Info
