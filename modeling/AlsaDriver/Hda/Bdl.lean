import Mathlib
import AlsaDriver.Memory.SgTable

namespace AlsaDriver.Hda

open Memory

def azxMaxBdlEntries : Nat := 256

structure AzxBdle where
  lower : Nat
  upper : Nat
  size : Nat
  ioc : Nat
deriving DecidableEq

namespace AzxBdle

def fetched (entry : AzxBdle) : List Nat := (List.range entry.size).map fun i => entry.upper * 2 ^ 32 + entry.lower + i

/-- How many bytes are through at each interrupt, when `ofs` of them have gone before. -/
def interrupts : Nat → List AzxBdle → List Nat
  | _, [] => []
  | ofs, entry :: rest => (if entry.ioc = 1 then [ofs + entry.size] else []) ++ interrupts (ofs + entry.size) rest

end AzxBdle

section setup

variable (table : Nat → SndSgPage) (boundary : Bool)

/-- The size of an entry; with `boundary`, for `AZX_DCAPS_4K_BDLE_BOUNDARY`, it does not cross 4K. -/
def bdleChunk (ofs size : Nat) : Nat :=
  let chunk := sndSgbufGetChunkSize table ofs size
  if boundary then
    let remain := 0x1000 - (ofs &&& 0xfff)
    if remain < chunk then remain else chunk
  else chunk

def bdleAt (ofs size : Nat) (withIoc : Bool) : AzxBdle where
  lower := sndSgbufGetAddr table ofs % 2 ^ 32
  upper := sndSgbufGetAddr table ofs >>> 32 % 2 ^ 32
  size := bdleChunk table boundary ofs size
  ioc := if size - bdleChunk table boundary ofs size = 0 ∧ withIoc = true then 0x01 else 0

variable {table boundary}

theorem chunkLoop_pos {ofs size left start pg : Nat} (some_ : 0 < size) (here : ofs / 4096 ≤ start) :
    0 < chunkLoop table ofs size left start pg := by
  induction left generalizing start pg with
  | zero => exact some_
  | succ left ih =>
    rw [chunkLoop]
    split
    · exact ih (Nat.le_succ_of_le here)
    · simp only [pageShift, Nat.shiftLeft_eq]
      omega

theorem and_fff (ofs : Nat) : ofs &&& 0xfff = ofs % 4096 := Nat.and_two_pow_sub_one_eq_mod ofs 12

theorem bdleChunk_pos (table : Nat → SndSgPage) (boundary : Bool) (ofs : Nat) {size : Nat} (some_ : 0 < size) : 0 < bdleChunk table boundary ofs size := by
  have chunk : 0 < sndSgbufGetChunkSize table ofs size := by
    apply chunkLoop_pos some_
    simp [pageShift, Nat.shiftRight_eq_div_pow]
  simp only [bdleChunk, and_fff]
  split
  · split <;> omega
  · exact chunk

variable (table boundary)

/-- `none` is `-EINVAL`; otherwise the offset behind the entries, and all entries up to there. -/
def setupBdle (size : Nat) (withIoc : Bool) (ofs : Nat) (bdl : List AzxBdle) : Option (Nat × List AzxBdle) :=
  if some_ : 0 < size then
    if azxMaxBdlEntries ≤ bdl.length then none
    else
      have := bdleChunk_pos table boundary ofs some_
      setupBdle (size - bdleChunk table boundary ofs size) withIoc (ofs + bdleChunk table boundary ofs size)
        (bdl ++ [bdleAt table boundary ofs size withIoc])
  else some (ofs, bdl)
termination_by size

def entriesFor (size : Nat) (withIoc : Bool) (ofs : Nat) : List AzxBdle :=
  if some_ : 0 < size then
    have := bdleChunk_pos table boundary ofs some_
    bdleAt table boundary ofs size withIoc ::
      entriesFor (size - bdleChunk table boundary ofs size) withIoc (ofs + bdleChunk table boundary ofs size)
  else []
termination_by size

variable {table boundary}

structure Chunk (table : Nat → SndSgPage) (boundary : Bool) (ofs size n : Nat) : Prop where
  pos : 0 < n
  le : n ≤ size
  straight : Straight table ofs n
  ends : n = size ∨ (ofs + n) % 4096 = 0
  bounded : boundary = true → ofs % 4096 + n ≤ 4096

theorem bdleChunk_spec (narrow : Narrow table) (boundary : Bool) (ofs : Nat) {size : Nat} (some_ : 0 < size) :
    Chunk table boundary ofs size (bdleChunk table boundary ofs size) := by
  obtain ⟨pos, le, straight, ends⟩ := chunkSize_spec narrow ofs some_
  simp only [bdleChunk, and_fff]
  cases boundary with
  | false => exact ⟨pos, le, straight, ends, fun set => absurd set Bool.false_ne_true⟩
  | true =>
    rw [if_pos rfl]
    split
    · exact ⟨by omega, by omega, straight.mono (by omega), .inr (by omega), fun _ => by omega⟩
    · exact ⟨pos, le, straight, ends, fun _ => by omega⟩

theorem entriesFor_zero {withIoc : Bool} {ofs : Nat} : entriesFor table boundary 0 withIoc ofs = [] := by
  rw [entriesFor]
  simp

theorem entriesFor_pos {size ofs : Nat} (some_ : 0 < size) (withIoc : Bool) :
    entriesFor table boundary size withIoc ofs = bdleAt table boundary ofs size withIoc ::
      entriesFor table boundary (size - bdleChunk table boundary ofs size) withIoc (ofs + bdleChunk table boundary ofs size) := by
  rw [entriesFor]
  simp [some_]

theorem setupBdle_eq (narrow : Narrow table) (size ofs : Nat) (withIoc : Bool) {bdl : List AzxBdle}
    (short : bdl.length ≤ azxMaxBdlEntries) :
    setupBdle table boundary size withIoc ofs bdl =
      if bdl.length + (entriesFor table boundary size withIoc ofs).length ≤ azxMaxBdlEntries then
        some (ofs + size, bdl ++ entriesFor table boundary size withIoc ofs)
      else none := by
  induction size using Nat.strong_induction_on generalizing ofs bdl with
  | h size ih =>
    rcases Nat.eq_zero_or_pos size with zero | some_
    · subst zero
      rw [setupBdle, entriesFor_zero]
      simp [short]
    · have chunk := bdleChunk_spec narrow boundary ofs some_
      have pos := chunk.pos
      have le := chunk.le
      rw [setupBdle, entriesFor_pos some_]
      simp only [some_, dif_pos, List.length_cons]
      by_cases full : azxMaxBdlEntries ≤ bdl.length
      · rw [if_pos full, if_neg (by omega)]
      · have more : (bdl ++ [bdleAt table boundary ofs size withIoc]).length = bdl.length + 1 := by simp
        rw [if_neg full, ih _ (by omega) _ (by omega), more]
        have count : ∀ n, bdl.length + 1 + n = bdl.length + (n + 1) := by omega
        rw [count, List.append_assoc, List.singleton_append]
        congr 3
        omega

theorem bdleAt_fetched (narrow : Narrow table) {ofs size : Nat} (some_ : 0 < size) (withIoc : Bool) :
    (bdleAt table boundary ofs size withIoc).fetched =
      (List.range (bdleChunk table boundary ofs size)).map fun i => sndSgbufGetAddr table (ofs + i) := by
  have chunk := bdleChunk_spec narrow boundary ofs some_
  apply List.map_congr_left
  intro i inside
  rw [chunk.straight i (List.mem_range.mp inside)]
  have page := narrow (ofs / 4096)
  have addr := sndSgbufGetAddr_eq table ofs
  have small : sndSgbufGetAddr table ofs / 2 ^ 32 < 2 ^ 32 := by
    rw [addr]
    omega
  show sndSgbufGetAddr table ofs >>> 32 % 2 ^ 32 * 2 ^ 32 + sndSgbufGetAddr table ofs % 2 ^ 32 + i = _
  rw [Nat.shiftRight_eq_div_pow, Nat.mod_eq_of_lt small]
  omega

theorem entriesFor_fetched (narrow : Narrow table) (boundary : Bool) (size ofs : Nat) (withIoc : Bool) :
    (entriesFor table boundary size withIoc ofs).flatMap AzxBdle.fetched =
      (List.range size).map fun i => sndSgbufGetAddr table (ofs + i) := by
  induction size using Nat.strong_induction_on generalizing ofs with
  | h size ih =>
    rcases Nat.eq_zero_or_pos size with zero | some_
    · subst zero
      simp [entriesFor_zero]
    · have chunk := bdleChunk_spec narrow boundary ofs some_
      have pos := chunk.pos
      obtain ⟨rest, size_eq⟩ := Nat.exists_eq_add_of_le chunk.le
      rw [entriesFor_pos some_, List.flatMap_cons, bdleAt_fetched narrow some_, ih _ (by omega)]
      generalize bdleChunk table boundary ofs size = n at *
      rw [size_eq, Nat.add_sub_cancel_left, List.range_add, List.map_append, List.map_map]
      simp only [Function.comp_def, Nat.add_assoc]

theorem entriesFor_interrupts (narrow : Narrow table) {size : Nat} (some_ : 0 < size) (ofs : Nat) (withIoc : Bool) :
    AzxBdle.interrupts ofs (entriesFor table boundary size withIoc ofs) = if withIoc then [ofs + size] else [] := by
  induction size using Nat.strong_induction_on generalizing ofs with
  | h size ih =>
    have chunk := bdleChunk_spec narrow boundary ofs some_
    have pos := chunk.pos
    have le := chunk.le
    rw [entriesFor_pos some_, AzxBdle.interrupts]
    rcases Nat.eq_zero_or_pos (size - bdleChunk table boundary ofs size) with done | more
    · have all : bdleChunk table boundary ofs size = size := by omega
      rw [done, entriesFor_zero, AzxBdle.interrupts]
      cases withIoc <;> simp [bdleAt, all]
    · have left : ¬ size - bdleChunk table boundary ofs size = 0 := by omega
      have quiet : (bdleAt table boundary ofs size withIoc).ioc = 0 := by simp [bdleAt, left]
      have end_ : ofs + bdleChunk table boundary ofs size + (size - bdleChunk table boundary ofs size) = ofs + size := by omega
      have rest := ih _ (by omega) more (ofs + bdleChunk table boundary ofs size)
      rw [end_] at rest
      rw [quiet]
      exact rest

theorem entriesFor_size (narrow : Narrow table) (size ofs : Nat) (withIoc : Bool) :
    ∀ entry ∈ entriesFor table boundary size withIoc ofs, 0 < entry.size ∧
      (boundary = true → entry.lower % 4096 + entry.size ≤ 4096) := by
  induction size using Nat.strong_induction_on generalizing ofs with
  | h size ih =>
    rcases Nat.eq_zero_or_pos size with zero | some_
    · subst zero
      simp [entriesFor_zero]
    · have chunk := bdleChunk_spec narrow boundary ofs some_
      have pos := chunk.pos
      rw [entriesFor_pos some_]
      intro entry inside
      rcases List.mem_cons.mp inside with here | later
      · subst here
        refine ⟨pos, fun set => ?_⟩
        have bounded := chunk.bounded set
        have addr := sndSgbufGetAddr_eq table ofs
        show sndSgbufGetAddr table ofs % 2 ^ 32 % 4096 + _ ≤ 4096
        rw [Nat.mod_mod_of_dvd _ (by decide), addr]
        show _ + bdleChunk table boundary ofs size ≤ 4096
        omega
      · exact ih _ (by omega) _ entry later

theorem entriesFor_length (narrow : Narrow table) (boundary : Bool) {size : Nat} (some_ : 0 < size) (ofs : Nat) (withIoc : Bool) :
    (entriesFor table boundary size withIoc ofs).length ≤ (ofs + size - 1) / 4096 - ofs / 4096 + 1 := by
  induction size using Nat.strong_induction_on generalizing ofs with
  | h size ih =>
    have chunk := bdleChunk_spec narrow boundary ofs some_
    have pos := chunk.pos
    have le := chunk.le
    rw [entriesFor_pos some_, List.length_cons]
    rcases Nat.eq_zero_or_pos (size - bdleChunk table boundary ofs size) with done | more
    · rw [done, entriesFor_zero]
      simp
    · have rest := ih _ (by omega) more (ofs + bdleChunk table boundary ofs size)
      rcases chunk.ends with all | page
      · omega
      · omega

end setup

section segments

variable {table : Nat → SndSgPage} {boundary : Bool}

def total (segments : List (Nat × Bool)) : Nat := (segments.map Prod.fst).sum

def marks : Nat → List (Nat × Bool) → List Nat
  | _, [] => []
  | ofs, (size, withIoc) :: rest => (if withIoc then [ofs + size] else []) ++ marks (ofs + size) rest

variable (table boundary)

def allEntries : Nat → List (Nat × Bool) → List AzxBdle
  | _, [] => []
  | ofs, (size, withIoc) :: rest => entriesFor table boundary size withIoc ofs ++ allEntries (ofs + size) rest

def setupSegment (state : Nat × List AzxBdle) (segment : Nat × Bool) : Option (Nat × List AzxBdle) :=
  setupBdle table boundary segment.1 segment.2 state.1 state.2

variable {table boundary}

@[simp] theorem total_nil : total [] = 0 := rfl

@[simp] theorem total_cons (size : Nat) (withIoc : Bool) (rest : List (Nat × Bool)) :
    total ((size, withIoc) :: rest) = size + total rest := by simp [total]

@[simp] theorem total_append (before after : List (Nat × Bool)) : total (before ++ after) = total before + total after := by
  simp [total]

@[simp] theorem total_replicate (n size : Nat) (withIoc : Bool) : total (List.replicate n (size, withIoc)) = n * size := by
  simp [total]

theorem marks_append (ofs : Nat) (before after : List (Nat × Bool)) :
    marks ofs (before ++ after) = marks ofs before ++ marks (ofs + total before) after := by
  induction before generalizing ofs with
  | nil => rfl
  | cons segment rest ih =>
    obtain ⟨size, withIoc⟩ := segment
    rw [List.cons_append, marks, marks, ih, total_cons, List.append_assoc, Nat.add_assoc]

theorem marks_replicate (ofs n size : Nat) (withIoc : Bool) :
    marks ofs (List.replicate n (size, withIoc)) = if withIoc then (List.range n).map fun i => ofs + (i + 1) * size else [] := by
  induction n with
  | zero => simp [marks]
  | succ n ih =>
    rw [List.replicate_succ', marks_append, ih, total_replicate]
    cases withIoc with
    | false => simp [marks]
    | true =>
      rw [List.range_succ, List.map_append]
      simp [marks, Nat.add_assoc, Nat.add_mul]

theorem interrupts_append (ofs : Nat) (before after : List AzxBdle) :
    AzxBdle.interrupts ofs (before ++ after) =
      AzxBdle.interrupts ofs before ++ AzxBdle.interrupts (ofs + (before.map AzxBdle.size).sum) after := by
  induction before generalizing ofs with
  | nil => simp [AzxBdle.interrupts]
  | cons entry rest ih =>
    rw [List.cons_append, AzxBdle.interrupts, AzxBdle.interrupts, ih, List.append_assoc, List.map_cons, List.sum_cons,
      Nat.add_assoc]

theorem entriesFor_sum (narrow : Narrow table) (size ofs : Nat) (withIoc : Bool) :
    ((entriesFor table boundary size withIoc ofs).map AzxBdle.size).sum = size := by
  have bytes := congrArg List.length (entriesFor_fetched narrow boundary size ofs withIoc)
  rw [List.length_flatMap, List.length_map, List.length_range] at bytes
  have each : AzxBdle.size = fun entry : AzxBdle => entry.fetched.length := by
    funext entry
    simp [AzxBdle.fetched]
  rw [each]
  exact bytes

theorem setupSegments (narrow : Narrow table) (boundary : Bool) (segments : List (Nat × Bool)) (ofs : Nat)
    {bdl : List AzxBdle} (short : bdl.length ≤ azxMaxBdlEntries) :
    segments.foldlM (setupSegment table boundary) (ofs, bdl) =
      if bdl.length + (allEntries table boundary ofs segments).length ≤ azxMaxBdlEntries then
        some (ofs + total segments, bdl ++ allEntries table boundary ofs segments)
      else none := by
  induction segments generalizing ofs bdl with
  | nil => simp [allEntries, short]
  | cons segment rest ih =>
    obtain ⟨size, withIoc⟩ := segment
    rw [List.foldlM_cons, setupSegment, setupBdle_eq narrow _ _ _ short, allEntries, List.length_append]
    by_cases fits : bdl.length + (entriesFor table boundary size withIoc ofs).length ≤ azxMaxBdlEntries
    · have short' : (bdl ++ entriesFor table boundary size withIoc ofs).length ≤ azxMaxBdlEntries := by
        rw [List.length_append]
        exact fits
      rw [if_pos fits]
      show rest.foldlM (setupSegment table boundary) (ofs + size, bdl ++ entriesFor table boundary size withIoc ofs) = _
      rw [ih _ short', List.length_append, total_cons, Nat.add_assoc, List.append_assoc, Nat.add_assoc]
    · rw [if_neg fits, if_neg (by omega)]
      rfl

theorem allEntries_fetched (narrow : Narrow table) (boundary : Bool) (ofs : Nat) (segments : List (Nat × Bool)) :
    (allEntries table boundary ofs segments).flatMap AzxBdle.fetched =
      (List.range (total segments)).map fun i => sndSgbufGetAddr table (ofs + i) := by
  induction segments generalizing ofs with
  | nil => simp [allEntries]
  | cons segment rest ih =>
    obtain ⟨size, withIoc⟩ := segment
    rw [allEntries, List.flatMap_append, entriesFor_fetched narrow boundary, ih, total_cons, List.range_add, List.map_append, List.map_map]
    simp only [Function.comp_def, Nat.add_assoc]

theorem allEntries_interrupts (narrow : Narrow table) (ofs : Nat) {segments : List (Nat × Bool)}
    (some_ : ∀ segment ∈ segments, 0 < segment.1) :
    AzxBdle.interrupts ofs (allEntries table boundary ofs segments) = marks ofs segments := by
  induction segments generalizing ofs with
  | nil => rfl
  | cons segment rest ih =>
    obtain ⟨size, withIoc⟩ := segment
    rw [List.forall_mem_cons] at some_
    rw [allEntries, interrupts_append, entriesFor_interrupts narrow some_.1, entriesFor_sum narrow, ih _ some_.2, marks]

theorem allEntries_size (narrow : Narrow table) (ofs : Nat) (segments : List (Nat × Bool)) :
    ∀ entry ∈ allEntries table boundary ofs segments, 0 < entry.size ∧
      (boundary = true → entry.lower % 4096 + entry.size ≤ 4096) := by
  induction segments generalizing ofs with
  | nil => simp [allEntries]
  | cons segment rest ih =>
    obtain ⟨size, withIoc⟩ := segment
    intro entry inside
    rw [allEntries, List.mem_append] at inside
    rcases inside with here | later
    · exact entriesFor_size narrow size ofs withIoc entry here
    · exact ih _ entry later

theorem allEntries_length (narrow : Narrow table) (boundary : Bool) (ofs : Nat) {segments : List (Nat × Bool)}
    (some_ : ∀ segment ∈ segments, 0 < segment.1) :
    (allEntries table boundary ofs segments).length ≤ (ofs + total segments - 1) / 4096 - ofs / 4096 + segments.length := by
  induction segments generalizing ofs with
  | nil => simp [allEntries]
  | cons segment rest ih =>
    obtain ⟨size, withIoc⟩ := segment
    rw [List.forall_mem_cons] at some_
    have first := entriesFor_length narrow boundary some_.1 ofs withIoc
    have later := ih (ofs + size) some_.2
    have positive : 0 < size := some_.1
    rw [allEntries, List.length_append, total_cons, List.length_cons]
    dsimp only at first
    cases rest with
    | nil =>
      rw [allEntries, List.length_nil, total_nil]
      omega
    | cons next rest =>
      have more : 0 < total (next :: rest) := by
        have next_pos := some_.2 next (List.mem_cons_self ..)
        obtain ⟨size', withIoc'⟩ := next
        rw [total_cons]
        exact Nat.add_pos_left next_pos _
      omega

end segments

/-- The sizes of a stream, with values for which no `int` overflows. -/
structure PeriodSetup where
  table : Nat → SndSgPage
  boundary : Bool
  bufsize : Nat
  periodBytes : Nat
  noPeriodWakeup : Bool
  bdlPosAdj : Int
  rate : Nat
  frameBits : Nat
  narrow : Narrow table
  period_pos : 0 < periodBytes
  period_le : periodBytes ≤ bufsize
  bufsize_lt : bufsize < 2 ^ 31
  adj_small : bdlPosAdj < 2 ^ 16
  bits_small : frameBits ≤ 2 ^ 12

theorem narrow_rounds : Narrow fun k => ⟨0, (k % 16) * 4096⟩ := by
  intro k
  have short := Nat.mod_lt k (show 0 < 16 by decide)
  simp [pageOf, pageShift, Nat.shiftRight_eq_div_pow]
  omega

instance : Inhabited PeriodSetup where
  default :=
    { table := fun k => ⟨0, (k % 16) * 4096⟩, boundary := false, bufsize := 65536, periodBytes := 16384, noPeriodWakeup := false
      bdlPosAdj := 32, rate := 48000, frameBits := 32
      narrow := narrow_rounds
      period_pos := by decide, period_le := by decide, bufsize_lt := by decide, adj_small := by decide
      bits_small := by decide }

namespace PeriodSetup

variable (s : PeriodSetup)

def periods : Nat := s.bufsize / s.periodBytes

/-- `pos_adj` in bytes, with the unsigned product of its frames and the rate. -/
def wantedAdj : Int :=
  let posAlign := s.bdlPosAdj.toNat
  let frames := (posAlign * s.rate + 47999) % 2 ^ 32 / 48000
  let frames := if frames = 0 then posAlign else (frames + posAlign - 1) / posAlign * posAlign
  (BitVec.ofNat 32 (frames * s.frameBits / 8)).toInt

/-- `pos_adj` with the first entries of the list. -/
def adjusted : Int × Option (Nat × List AzxBdle) :=
  if s.noPeriodWakeup = false ∧ 0 < s.bdlPosAdj then
    if s.periodBytes ≤ s.wantedAdj then (0, some (0, []))
    else (s.wantedAdj, setupBdle s.table s.boundary s.wantedAdj.toNat true 0 [])
  else (0, some (0, []))

def setupPeriod (posAdj : Int) (state : Nat × List AzxBdle) (i : Nat) : Option (Nat × List AzxBdle) :=
  if i = s.periods - 1 ∧ posAdj ≠ 0 then
    setupBdle s.table s.boundary (s.periodBytes - posAdj).toNat false state.1 state.2
  else setupBdle s.table s.boundary s.periodBytes (!s.noPeriodWakeup) state.1 state.2

/-- The entries that are programmed, or `none` for `-EINVAL`. -/
def azxSetupPeriods : Option (List AzxBdle) :=
  s.adjusted.2.bind fun state => ((List.range s.periods).foldlM (s.setupPeriod s.adjusted.1) state).map Prod.snd

variable {s}

theorem wantedAdj_nonneg (on : 0 < s.bdlPosAdj) : 0 ≤ s.wantedAdj := by
  have small := s.adj_small
  have bits := s.bits_small
  obtain ⟨align, at_align⟩ := Int.eq_ofNat_of_zero_le on.le
  unfold wantedAdj
  rw [at_align] at on small ⊢
  simp only [Int.toNat_natCast] at on small ⊢
  have short : (align * s.rate + 47999) % 2 ^ 32 / 48000 < 90000 := by omega
  generalize (align * s.rate + 47999) % 2 ^ 32 / 48000 = frames at short
  have rounded : (if frames = 0 then align else (frames + align - 1) / align * align) < 2 ^ 18 := by
    split
    · omega
    · have below := Nat.div_mul_le_self (frames + align - 1) align
      omega
  generalize (if frames = 0 then align else (frames + align - 1) / align * align) = count at rounded
  have product : count * s.frameBits ≤ 2 ^ 18 * 2 ^ 12 := Nat.mul_le_mul rounded.le bits
  have fits : count * s.frameBits / 8 < 2 ^ 31 := by omega
  have value : (BitVec.ofNat 32 (count * s.frameBits / 8)).toNat = count * s.frameBits / 8 := by
    rw [BitVec.toNat_ofNat]
    exact Nat.mod_eq_of_lt (by omega)
  rw [BitVec.toInt_eq_toNat_of_lt (by omega)]
  apply Int.natCast_nonneg

def pieces (s : PeriodSetup) (posAdj : Nat) : List (Nat × Bool) :=
  List.replicate (s.periods - 1) (s.periodBytes, !s.noPeriodWakeup) ++
    [if posAdj = 0 then (s.periodBytes, !s.noPeriodWakeup) else (s.periodBytes - posAdj, false)]

theorem periods_pos : 0 < s.periods := Nat.div_pos s.period_le s.period_pos

theorem setupPeriods_pieces (posAdj : Nat) (state : Nat × List AzxBdle) :
    (List.range s.periods).foldlM (s.setupPeriod posAdj) state =
      (s.pieces posAdj).foldlM (setupSegment s.table s.boundary) state := by
  obtain ⟨m, count⟩ := Nat.exists_eq_add_of_le' (periods_pos (s := s))
  have most : ∀ n ≤ m, ∀ state, (List.range n).foldlM (s.setupPeriod posAdj) state =
      (List.replicate n (s.periodBytes, !s.noPeriodWakeup)).foldlM (setupSegment s.table s.boundary) state := by
    intro n few
    induction n with
    | zero => exact fun _ => rfl
    | succ n ih =>
      intro state
      have inner : ¬ n = m := by omega
      rw [List.range_succ, List.replicate_succ', List.foldlM_append, List.foldlM_append, ih (by omega)]
      simp [setupPeriod, setupSegment, count, inner]
  have last : ∀ state, s.setupPeriod posAdj state m = setupSegment s.table s.boundary state
      (if posAdj = 0 then (s.periodBytes, !s.noPeriodWakeup) else (s.periodBytes - posAdj, false)) := by
    intro state
    by_cases zero : posAdj = 0
    · simp [setupPeriod, setupSegment, zero]
    · have size : ((s.periodBytes : Int) - posAdj).toNat = s.periodBytes - posAdj := by omega
      simp [setupPeriod, setupSegment, zero, count, size]
  rw [pieces, count, Nat.add_sub_cancel, List.range_succ, List.foldlM_append, List.foldlM_append, most m (Nat.le_refl m)]
  simp only [List.foldlM_cons, List.foldlM_nil, last]

theorem setupBdle_zero (table : Nat → SndSgPage) (boundary withIoc : Bool) (ofs : Nat) (bdl : List AzxBdle) :
    setupBdle table boundary 0 withIoc ofs bdl = some (ofs, bdl) := by
  rw [setupBdle]
  simp

theorem adjusted_cases (s : PeriodSetup) : ∃ posAdj : Nat, s.adjusted.1 = posAdj ∧ posAdj < s.periodBytes ∧
    (posAdj ≠ 0 → s.noPeriodWakeup = false) ∧ s.adjusted.2 = setupBdle s.table s.boundary posAdj true 0 [] := by
  have none_ := setupBdle_zero s.table s.boundary true 0 []
  unfold adjusted
  split
  · rename_i on
    obtain ⟨n, value⟩ := Int.eq_ofNat_of_zero_le (wantedAdj_nonneg on.2)
    rw [value]
    split
    · exact ⟨0, rfl, s.period_pos, fun none_ => absurd rfl none_, none_.symm⟩
    · rename_i small
      exact ⟨n, rfl, by omega, fun _ => on.1, rfl⟩
  · exact ⟨0, rfl, s.period_pos, fun none_ => absurd rfl none_, none_.symm⟩

/-- All pieces, with the one that `pos_adj` puts before the periods. -/
def allPieces (s : PeriodSetup) (posAdj : Nat) : List (Nat × Bool) :=
  (if posAdj = 0 then [] else [(posAdj, true)]) ++ s.pieces posAdj

theorem azxSetupPeriods_eq {posAdj : Nat} (value : s.adjusted.1 = posAdj)
    (first : s.adjusted.2 = setupBdle s.table s.boundary posAdj true 0 []) :
    s.azxSetupPeriods = ((s.allPieces posAdj).foldlM (setupSegment s.table s.boundary) (0, [])).map Prod.snd := by
  have steps : ∀ state, (List.range s.periods).foldlM (s.setupPeriod s.adjusted.1) state =
      (s.pieces posAdj).foldlM (setupSegment s.table s.boundary) state := by
    intro state
    rw [value]
    exact setupPeriods_pieces posAdj state
  unfold azxSetupPeriods
  simp only [steps, first]
  by_cases zero : posAdj = 0
  · rw [allPieces, if_pos zero, List.nil_append, zero, setupBdle_zero]
    rfl
  · rw [allPieces, if_neg zero, List.singleton_append, List.foldlM_cons]
    show _ = Option.map Prod.snd ((setupBdle s.table s.boundary posAdj true 0 []).bind _)
    rw [Option.map_bind]
    rfl

theorem total_pieces {posAdj : Nat} (short : posAdj < s.periodBytes) :
    total (s.allPieces posAdj) = s.periods * s.periodBytes := by
  obtain ⟨m, count⟩ := Nat.exists_eq_add_of_le' (periods_pos (s := s))
  rw [allPieces, pieces, count, Nat.add_sub_cancel]
  by_cases zero : posAdj = 0
  · simp [zero, Nat.add_mul]
  · simp [zero, Nat.add_mul]
    omega

theorem pieces_pos {posAdj : Nat} (short : posAdj < s.periodBytes) : ∀ segment ∈ s.allPieces posAdj, 0 < segment.1 := by
  have period_pos := s.period_pos
  intro segment inside
  by_cases zero : posAdj = 0
  · simp only [allPieces, pieces, zero, if_true, List.nil_append, List.mem_append, List.mem_singleton, List.mem_replicate] at inside
    rcases inside with ⟨-, rfl⟩ | rfl <;> exact period_pos
  · simp only [allPieces, pieces, zero, if_false, List.mem_append, List.mem_singleton, List.mem_replicate] at inside
    rcases inside with rfl | ⟨-, rfl⟩ | rfl
    · exact Nat.pos_of_ne_zero zero
    · exact period_pos
    · exact Nat.sub_pos_of_lt short

theorem length_pieces (posAdj : Nat) : (s.allPieces posAdj).length ≤ s.periods + 1 := by
  have some_ := periods_pos (s := s)
  by_cases zero : posAdj = 0
  · simp [allPieces, pieces, zero]
  · simp [allPieces, pieces, zero]
    omega

def wakeups (s : PeriodSetup) (posAdj : Nat) : List Nat :=
  if s.noPeriodWakeup then []
  else (List.range s.periods).map fun i => if posAdj = 0 then (i + 1) * s.periodBytes else posAdj + i * s.periodBytes

theorem marks_pieces {posAdj : Nat} (awake : posAdj ≠ 0 → s.noPeriodWakeup = false) :
    marks 0 (s.allPieces posAdj) = s.wakeups posAdj := by
  obtain ⟨m, count⟩ := Nat.exists_eq_add_of_le' (periods_pos (s := s))
  rw [allPieces, pieces, wakeups, count, Nat.add_sub_cancel]
  by_cases zero : posAdj = 0
  · subst zero
    rw [if_pos rfl, if_pos rfl, List.nil_append, marks_append, marks_replicate, total_replicate]
    cases s.noPeriodWakeup with
    | true => simp [marks]
    | false =>
      rw [List.range_succ, List.map_append]
      simp [marks, Nat.add_mul]
  · rw [if_neg zero, if_neg zero, awake zero, List.singleton_append, marks, marks_append, marks_replicate, List.range_succ_eq_map]
    simp [marks, zero, Function.comp_def]

structure Programmed (s : PeriodSetup) (posAdj : Nat) (bdl : List AzxBdle) : Prop where
  few : bdl.length ≤ azxMaxBdlEntries
  fetched : bdl.flatMap AzxBdle.fetched = (List.range (s.periods * s.periodBytes)).map (sndSgbufGetAddr s.table)
  interrupts : AzxBdle.interrupts 0 bdl = s.wakeups posAdj
  sizes : ∀ entry ∈ bdl, 0 < entry.size ∧ (s.boundary = true → entry.lower % 4096 + entry.size ≤ 4096)

end PeriodSetup

end AlsaDriver.Hda
