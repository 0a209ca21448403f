import AlsaDriver.Pcm.HwParams.Feasible
import AlsaDriver.Usb.Formats

namespace AlsaDriver.Usb

open Pcm OpenBounds

theorem pcmFormatToBits_test (formats : BitVec 64) (f : Nat) :
    formats &&& pcmFormatToBits f = 0 ↔ sndMaskTest ⟨formats⟩ f = false := by
  unfold pcmFormatToBits sndMaskTest
  constructor
  · intro nothing
    have bit := congrArg (fun bits => BitVec.getLsbD bits f) nothing
    by_cases inside : f < 64
    · simpa [inside] using bit
    · exact BitVec.getLsbD_of_ge _ _ (not_lt.mp inside)
  · intro clear
    apply BitVec.eq_of_getLsbD_eq
    intro i _
    rw [BitVec.getLsbD_and, BitVec.getLsbD_twoPow]
    by_cases same : f = i
    · subst same
      simp [clear]
    · simp [same]

theorem fits_iff {fp : Audioformat} {f : Nat} {channels rate : UInt32} : fp.fits f channels rate = true ↔
    sndMaskTest ⟨fp.formats⟩ f = true ∧ fp.channels = channels ∧ fp.rateMin ≤ rate ∧ rate ≤ fp.rateMax ∧
      (fp.continuous = true ∨ rate ∈ fp.rateTable) := by
  unfold Audioformat.fits
  have bits := pcmFormatToBits_test fp.formats f
  split
  · rename_i nothing
    have clear := bits.mp (by simpa using nothing)
    simp [clear]
  · rename_i something
    have set_ : sndMaskTest ⟨fp.formats⟩ f = true :=
      (Bool.not_eq_false _).mp fun clear => something (beq_iff_eq.mpr (bits.mpr clear))
    split
    · rename_i other
      simp only [bne_iff_ne, ne_eq] at other
      simp [other]
    · rename_i same
      simp only [bne_iff_ne, ne_eq, not_not] at same
      split
      · rename_i outside
        simp only [Bool.or_eq_true, decide_eq_true_eq] at outside
        constructor
        · intro absurd_
          cases absurd_
        · rintro ⟨-, -, low, high, -⟩
          rcases outside with below | above
          · exact absurd below (UInt32.not_lt.mpr low)
          · exact absurd above (UInt32.not_lt.mpr high)
      · rename_i inside
        simp only [Bool.or_eq_true, decide_eq_true_eq, not_or, gt_iff_lt, UInt32.not_lt] at inside
        simp [set_, same, inside.1, inside.2]

section Find

variable (subs : SndUsbSubstream) {f : Nat} {channels rate : UInt32}

theorem consider_isSome (fp : Audioformat) (found : Option Audioformat)
    (some_ : found.isSome = true ∨ fp.fits f channels rate = true) :
    (subs.consider f channels rate found fp).isSome = true := by
  unfold SndUsbSubstream.consider
  split
  · split <;> rfl
  · rename_i other
    exact some_.resolve_right other

theorem findFormat_isSome {fp : Audioformat} (member : fp ∈ subs.fmtList) (fits : fp.fits f channels rate = true) :
    (subs.findFormat f channels rate).isSome = true := by
  have keeps (l : List Audioformat) (found : Option Audioformat)
      (some_ : found.isSome = true ∨ ∃ fp ∈ l, fp.fits f channels rate = true) :
      (l.foldl (subs.consider f channels rate) found).isSome = true := by
    induction l generalizing found with
    | nil =>
      obtain some_ | ⟨_, none_, _⟩ := some_
      · exact some_
      · cases none_
    | cons first rest ih =>
      refine ih _ ?_
      obtain some_ | ⟨fp', inside, fits⟩ := some_
      · exact Or.inl (consider_isSome subs first found (Or.inl some_))
      obtain rfl | inside := List.mem_cons.mp inside
      · exact Or.inl (consider_isSome subs fp' found (Or.inr fits))
      · exact Or.inr ⟨fp', inside, fits⟩
  exact keeps subs.fmtList none (Or.inr ⟨fp, member, fits⟩)

theorem findFormat_fits (found : (subs.findFormat f channels rate).isSome = true) :
    ∃ fp ∈ subs.fmtList, fp.fits f channels rate = true := by
  by_contra none_
  have keeps (l : List Audioformat) (inside : ∀ fp ∈ l, fp ∈ subs.fmtList) :
      l.foldl (subs.consider f channels rate) none = none := by
    induction l with
    | nil => rfl
    | cons first rest ih =>
      have skipped : subs.consider f channels rate none first = none := by
        unfold SndUsbSubstream.consider
        exact if_neg fun fits => none_ ⟨first, inside first (List.mem_cons_self ..), fits⟩
      rw [List.foldl_cons, skipped]
      exact ih fun fp member => inside fp (List.mem_cons_of_mem _ member)
  unfold SndUsbSubstream.findFormat at found
  rw [keeps subs.fmtList fun _ => id] at found
  cases found

end Find

theorem sndMaskEmpty_intersect (mask v : SndMask) :
    sndMaskEmpty (sndMaskIntersect mask v) = false ↔ ∃ k, sndMaskTest mask k = true ∧ sndMaskTest v k = true := by
  constructor
  · intro some_
    by_contra none_
    simp only [sndMaskEmpty, beq_eq_false_iff_ne] at some_
    refine some_ (BitVec.eq_of_getLsbD_eq fun i _ => ?_)
    simp only [sndMaskIntersect, BitVec.getLsbD_and]
    by_cases both : mask.bits.getLsbD i = true ∧ v.bits.getLsbD i = true
    · exact absurd ⟨i, both⟩ none_
    · simpa using both
  · rintro ⟨k, left, right⟩
    refine sndMaskEmpty_of_test (k := k) ?_
    simp only [sndMaskTest] at left right
    simp [sndMaskTest, sndMaskIntersect, left, right]

theorem atMost_iff (isOpen : Bool) (a b : UInt32) :
    (decide (a > b) || (a == b && isOpen)) = false ↔ AtMost isOpen a.toNat b.toNat := by
  simp only [AtMost, Bool.or_eq_false_iff, Bool.and_eq_false_iff, decide_eq_false_iff_not, beq_eq_false_iff_ne, gt_iff_lt,
    UInt32.lt_iff_toNat_lt, ne_eq, ← UInt32.toNat_inj]
  cases isOpen <;> simp

theorem atLeast_iff (isOpen : Bool) (a b : UInt32) :
    (decide (a < b) || (a == b && isOpen)) = false ↔ AtLeast isOpen b.toNat a.toNat := by
  simp only [AtLeast, Bool.or_eq_false_iff, Bool.and_eq_false_iff, decide_eq_false_iff_not, beq_eq_false_iff_ne,
    UInt32.lt_iff_toNat_lt, ne_eq, ← UInt32.toNat_inj]
  cases isOpen <;> simp

/-- The checks of `hw_check_valid_format` except the one of the packet interval. -/
structure Meets (params : HwSpace) (fp : Audioformat) : Prop where
  formats : ∃ k, sndMaskTest ⟨fp.formats⟩ k = true ∧ sndMaskTest (params.masks .format) k = true
  channels : (params.intervals .channels).min ≤ fp.channels ∧ fp.channels ≤ (params.intervals .channels).max
  low : AtMost (params.intervals .rate).openmax fp.rateMin.toNat (params.intervals .rate).max.toNat
  high : AtLeast (params.intervals .rate).openmin (params.intervals .rate).min.toNat fp.rateMax.toNat

variable {subs : SndUsbSubstream} {params : HwSpace}

theorem hwCheckValidFormat_iff (fp : Audioformat) : subs.hwCheckValidFormat params fp = true ↔ Meets params fp ∧
    (subs.fullSpeed = false → AtMost (params.intervals .periodTime).openmax (packetTime fp.datainterval).toNat
      (params.intervals .periodTime).max.toNat) := by
  have format := sndMaskEmpty_intersect ⟨fp.formats⟩ (params.masks .format)
  have low := atMost_iff (params.intervals .rate).openmax fp.rateMin (params.intervals .rate).max
  have high := atLeast_iff (params.intervals .rate).openmin fp.rateMax (params.intervals .rate).min
  have time := atMost_iff (params.intervals .periodTime).openmax (packetTime fp.datainterval)
    (params.intervals .periodTime).max
  unfold SndUsbSubstream.hwCheckValidFormat
  dsimp only
  constructor
  · intro valid
    split at valid
    · cases valid
    rename_i formats
    split at valid
    · cases valid
    rename_i channels
    split at valid
    · cases valid
    rename_i below
    split at valid
    · cases valid
    rename_i above
    split at valid
    · cases valid
    rename_i inTime
    simp only [Bool.or_eq_true, decide_eq_true_eq, not_or, gt_iff_lt, UInt32.not_lt] at channels
    refine ⟨⟨format.mp (Bool.eq_false_iff.mpr formats), channels, low.mp (Bool.eq_false_iff.mpr below),
      high.mp (Bool.eq_false_iff.mpr above)⟩, fun fast => ?_⟩
    rw [fast] at inTime
    exact time.mp (by simpa using inTime)
  · rintro ⟨meets, inTime⟩
    have channels : ¬ (decide (fp.channels < (params.intervals .channels).min) ||
        decide (fp.channels > (params.intervals .channels).max)) = true := by
      simp only [Bool.or_eq_true, decide_eq_true_eq, not_or, gt_iff_lt, UInt32.not_lt]
      exact meets.channels
    rw [if_neg (Bool.eq_false_iff.mp (format.mpr meets.formats)), if_neg channels,
      if_neg (Bool.eq_false_iff.mp (low.mpr meets.low)), if_neg (Bool.eq_false_iff.mp (high.mpr meets.high))]
    cases speed : subs.fullSpeed with
    | true => rfl
    | false =>
      rw [if_neg]
      have fits := time.mpr (inTime speed)
      simpa using fits

theorem mem_validFormats {fp : Audioformat} : fp ∈ subs.validFormats params ↔
    fp ∈ subs.fmtList ∧ subs.hwCheckValidFormat params fp = true := List.mem_filter

section Hull

theorem foldl_widen_some (low high : Audioformat → UInt32) (l : List Audioformat) (rmin rmax : UInt32) : ∃ rmin' rmax',
    l.foldl (widen low high) (some (rmin, rmax)) = some (rmin', rmax') ∧ rmin' ≤ rmin ∧ rmax ≤ rmax' ∧
      ∀ fp ∈ l, rmin' ≤ low fp ∧ high fp ≤ rmax' := by
  induction l generalizing rmin rmax with
  | nil => exact ⟨rmin, rmax, rfl, UInt32.le_refl _, UInt32.le_refl _, fun _ none_ => absurd none_ List.not_mem_nil⟩
  | cons fp rest ih =>
    obtain ⟨rmin', rmax', hull, below, above, all⟩ :=
      ih (if rmin > low fp then low fp else rmin) (if rmax < high fp then high fp else rmax)
    refine ⟨rmin', rmax', hull, ?_, ?_, fun other member => ?_⟩
    · grind
    · grind
    · obtain rfl | inside := List.mem_cons.mp member
      · grind
      · exact all other inside

theorem foldl_widen (low high : Audioformat → UInt32) {l : List Audioformat} {fp : Audioformat} (member : fp ∈ l) : ∃ rmin rmax,
    l.foldl (widen low high) none = some (rmin, rmax) ∧ ∀ fp ∈ l, rmin ≤ low fp ∧ high fp ≤ rmax := by
  cases l with
  | nil => cases member
  | cons first rest =>
    obtain ⟨rmin, rmax, hull, below, above, all⟩ := foldl_widen_some low high rest (low first) (high first)
    refine ⟨rmin, rmax, hull, fun other inside => ?_⟩
    obtain rfl | inside := List.mem_cons.mp inside
    · exact ⟨below, above⟩
    · exact all other inside

theorem sndIntervalClipMin_contains {it : SndInterval} {x : ℚ} (inside : it.Contains x) {rmin : UInt32}
    (bound : (rmin.toNat : ℚ) ≤ x) : (sndIntervalClipMin it rmin).2.Contains x := by
  unfold sndIntervalClipMin
  split
  · exact ⟨⟨⟨bound, fun isOpen => Bool.noConfusion isOpen⟩, inside.high, inside.integral⟩, inside.nonempty⟩
  · exact inside

theorem sndIntervalClipMax_contains {it : SndInterval} {x : ℚ} (inside : it.Contains x) {rmax : UInt32}
    (bound : x ≤ (rmax.toNat : ℚ)) : (sndIntervalClipMax it rmax).2.Contains x := by
  unfold sndIntervalClipMax
  split
  · exact ⟨⟨inside.low, ⟨bound, fun isOpen => Bool.noConfusion isOpen⟩, inside.integral⟩, inside.nonempty⟩
  · exact inside

variable {low high : Audioformat → UInt32} {p : HwPoint} {fp : Audioformat} (inside : p.In params) (valid : fp ∈ subs.validFormats params)
include inside valid

theorem hwRuleHull_keeps {var : IntervalParam} (below : ((low fp).toNat : ℚ) ≤ p.value var)
    (above : p.value var ≤ ((high fp).toNat : ℚ)) :
    0 ≤ (subs.hwRuleHull var low high params).1 ∧ p.In (subs.hwRuleHull var low high params).2 := by
  obtain ⟨rmin, rmax, hull, all⟩ := foldl_widen low high valid
  obtain ⟨least, most⟩ := all fp valid
  have first := sndIntervalClipMin_contains (inside.intervals var)
    (le_trans (by exact_mod_cast UInt32.le_iff_toNat_le.mp least) below)
  have second := sndIntervalClipMax_contains first (le_trans above (by exact_mod_cast UInt32.le_iff_toNat_le.mp most))
  unfold SndUsbSubstream.hwRuleHull
  dsimp only
  rw [hull]
  dsimp only
  rw [if_neg (by simp [sndIntervalCheckempty_of_covers second.toCovers])]
  refine ⟨?_, inside.setInterval second⟩
  dsimp only
  split <;> decide

end Hull

theorem foldl_or_test (l : List Audioformat) (fbits : BitVec 64) (k : Nat) :
    sndMaskTest ⟨l.foldl (fun fbits fp => fbits ||| fp.formats) fbits⟩ k = true ↔
      sndMaskTest ⟨fbits⟩ k = true ∨ ∃ fp ∈ l, sndMaskTest ⟨fp.formats⟩ k = true := by
  induction l generalizing fbits with
  | nil => simp
  | cons fp rest ih =>
    rw [List.foldl_cons, ih]
    simp only [sndMaskTest, BitVec.getLsbD_or, Bool.or_eq_true, List.exists_mem_cons_iff, or_assoc]

theorem packetTime_toNat {datainterval : UInt8} (bound : datainterval ≤ 24) :
    (packetTime datainterval).toNat = 125 * 2 ^ datainterval.toNat := by
  have table : ∀ d : Fin 25, (packetTime (UInt8.ofNat d.val)).toNat = 125 * 2 ^ d.val := by decide
  have known : datainterval.toNat < 25 := Nat.lt_succ_of_le (UInt8.le_iff_toNat_le.mp bound)
  have here := table ⟨datainterval.toNat, known⟩
  rwa [UInt8.ofNat_toNat] at here

theorem packetTime_mono {a b : UInt8} (le : a ≤ b) (bound : b ≤ 24) : (packetTime a).toNat ≤ (packetTime b).toNat := by
  rw [packetTime_toNat bound, packetTime_toNat (UInt8.le_trans le bound)]
  exact Nat.mul_le_mul_left _ (Nat.pow_le_pow_right Nat.zero_lt_two (UInt8.le_iff_toNat_le.mp le))

theorem foldl_bounds {α : Type} (le : α → α → Prop) (refl : ∀ a, le a a) (trans : ∀ a b c, le a b → le b c → le a c)
    {op : α → Audioformat → α} {field : Audioformat → α} (left : ∀ a fp, le (op a fp) a)
    (right : ∀ a fp, le (op a fp) (field fp)) (l : List Audioformat) (a : α) :
    le (l.foldl op a) a ∧ ∀ fp ∈ l, le (l.foldl op a) (field fp) := by
  induction l generalizing a with
  | nil => exact ⟨refl a, fun _ none_ => absurd none_ List.not_mem_nil⟩
  | cons first rest ih =>
    obtain ⟨below, all⟩ := ih (op a first)
    refine ⟨trans _ _ _ below (left a first), fun fp member => ?_⟩
    obtain rfl | inside := List.mem_cons.mp member
    · exact trans _ _ _ below (right a fp)
    · exact all fp inside

theorem foldl_datainterval_le {l : List Audioformat} {fp : Audioformat} (member : fp ∈ l) :
    l.foldl (fun least fp => min least fp.datainterval) 0xff ≤ fp.datainterval := by
  have least (a b : UInt8) : min a b = if a ≤ b then a else b := rfl
  exact (foldl_bounds (· ≤ ·) UInt8.le_refl (fun _ _ _ => UInt8.le_trans) (fun a fp => by grind)
    (fun a fp => by grind) l 0xff).2 fp member

theorem foldl_min_le {field : Audioformat → UInt32} {l : List Audioformat} {fp : Audioformat} (member : fp ∈ l) (a : UInt32) :
    l.foldl (fun least fp => min least (field fp)) a ≤ field fp := by
  have least (a b : UInt32) : min a b = if a ≤ b then a else b := rfl
  exact (foldl_bounds (· ≤ ·) UInt32.le_refl (fun _ _ _ => UInt32.le_trans) (fun a fp => by grind)
    (fun a fp => by grind) l a).2 fp member

theorem le_foldl_max {field : Audioformat → UInt32} {l : List Audioformat} {fp : Audioformat} (member : fp ∈ l) (a : UInt32) :
    field fp ≤ l.foldl (fun most fp => max most (field fp)) a := by
  have most (a b : UInt32) : max a b = if a ≤ b then b else a := rfl
  exact (foldl_bounds (· ≥ ·) UInt32.le_refl (fun _ _ _ first second => UInt32.le_trans second first)
    (fun a fp => by grind) (fun a fp => by grind) l a).2 fp member

/-- The list has the value at an entry that `snd_interval_list` looks at. -/
def Listed (list : List UInt32) (mask : UInt32) (x : UInt32) : Prop := ∃ n, list[n]? = some x ∧ listSelects mask n = true

theorem listed_iff (list : List UInt32) (x : UInt32) : Listed list 0 x ↔ x ∈ list := by
  rw [List.mem_iff_getElem?]
  exact exists_congr fun n => and_iff_left rfl

theorem listRange_cons (i : SndInterval) (mask : UInt32) (k : Nat) (x : UInt32) (rest : List UInt32) (range : SndInterval) :
    listRange i mask k (x :: rest) range = listRange i mask (k + 1) rest
      (if listSelects mask k && sndIntervalTest i x then { range with min := min range.min x, max := max range.max x }
      else range) := by
  rw [listRange]
  split <;> rfl

structure Ranges (i : SndInterval) (mask : UInt32) (k : Nat) (list : List UInt32) (range result : SndInterval) : Prop where
  lower : result.min ≤ range.min
  upper : range.max ≤ result.max
  covers : ∀ n x, list[n]? = some x → listSelects mask (k + n) = true → sndIntervalTest i x = true →
    result.min ≤ x ∧ x ≤ result.max
  least : result.min = range.min ∨
    ∃ n, list[n]? = some result.min ∧ listSelects mask (k + n) = true ∧ sndIntervalTest i result.min = true
  unused : (∀ n x, list[n]? = some x → listSelects mask (k + n) = true → sndIntervalTest i x ≠ true) → result = range
  flags : result = { range with min := result.min, max := result.max }

theorem listRange_ranges (i : SndInterval) (mask : UInt32) (list : List UInt32) (k : Nat) (range : SndInterval) :
    Ranges i mask k list range (listRange i mask k list range) := by
  induction list generalizing k range with
  | nil => exact ⟨UInt32.le_refl _, UInt32.le_refl _, fun n x entry => by simp at entry, Or.inl rfl,
      fun _ => rfl, rfl⟩
  | cons x rest ih =>
    rw [listRange_cons]
    have next := ih (k + 1) (if listSelects mask k && sndIntervalTest i x then
      { range with min := min range.min x, max := max range.max x } else range)
    generalize listRange i mask (k + 1) rest _ = result at next ⊢
    obtain ⟨lower, upper, covers, least, unused, flags⟩ := next
    have low : min range.min x = if range.min ≤ x then range.min else x := rfl
    have high : max range.max x = if range.max ≤ x then x else range.max := rfl
    refine ⟨?_, ?_, fun n y entry selected test => ?_, ?_, fun none_ => ?_, ?_⟩
    · grind
    · grind
    · cases n with
      | zero =>
        obtain rfl := Option.some.inj entry
        grind
      | succ n => exact covers n y entry (by rwa [Nat.add_right_comm, Nat.add_assoc]) test
    · obtain start | ⟨n, entry, selected, test⟩ := least
      · by_cases here : (listSelects mask k && sndIntervalTest i x) = true
        · rw [if_pos here] at start
          by_cases first : range.min ≤ x
          · left
            rw [start]
            exact low.trans (if_pos first)
          · right
            have same : result.min = x := start.trans (low.trans (if_neg first))
            obtain ⟨selected, test⟩ := (Bool.and_eq_true _ _).mp here
            exact ⟨0, congrArg some same.symm, selected, same ▸ test⟩
        · left
          rw [start, if_neg here]
      · exact Or.inr ⟨n + 1, entry, by rwa [Nat.add_right_comm, Nat.add_assoc] at selected, test⟩
    · have skipped : ¬ (listSelects mask k && sndIntervalTest i x) = true := by
        intro here
        obtain ⟨selected, test⟩ := (Bool.and_eq_true _ _).mp here
        exact none_ 0 x rfl selected test
      rw [if_neg skipped] at unused
      exact unused fun n y entry selected => none_ (n + 1) y entry (by rwa [Nat.add_right_comm, Nat.add_assoc] at selected)
    · rw [flags]
      split <;> rfl

theorem sndIntervalTest_of_contains {i : SndInterval} {x : UInt32} (inside : i.Contains x.toNat) : sndIntervalTest i x = true := by
  have low := inside.low
  have high := inside.high
  simp only [AtLeast, AtMost, Nat.cast_le, Nat.cast_lt] at low high
  have below : (decide (i.min > x) || (i.min == x && i.openmin)) = false := (atMost_iff _ _ _).mpr ⟨low.1, low.2⟩
  have above : (decide (i.max < x) || (i.max == x && i.openmax)) = false := (atLeast_iff _ _ _).mpr ⟨high.1, high.2⟩
  unfold sndIntervalTest
  rw [below, Bool.false_or, above]
  rfl

theorem listRange_covers {i : SndInterval} {list : List UInt32} {mask x : UInt32} (inside : i.Contains x.toNat)
    (listed : Listed list mask x) :
    (listRange i mask 0 list { sndIntervalAny with min := UINT_MAX, max := 0 }).Covers x.toNat := by
  obtain ⟨n, entry, selected⟩ := listed
  have ranges := listRange_ranges i mask list 0 { sndIntervalAny with min := UINT_MAX, max := 0 }
  obtain ⟨low, high⟩ := ranges.covers n x entry (by rwa [Nat.zero_add]) (sndIntervalTest_of_contains inside)
  rw [ranges.flags]
  refine ⟨⟨?_, fun isOpen => Bool.noConfusion isOpen⟩, ⟨?_, fun isOpen => Bool.noConfusion isOpen⟩,
    fun integer => Bool.noConfusion integer⟩
  · exact_mod_cast UInt32.le_iff_toNat_le.mp low
  · exact_mod_cast UInt32.le_iff_toNat_le.mp high

theorem Listed.nonempty {list : List UInt32} {mask x : UInt32} (listed : Listed list mask x) : ¬ (list.length == 0) = true := by
  obtain ⟨n, entry, -⟩ := listed
  intro none_
  have empty : list = [] := List.eq_nil_of_length_eq_zero (by simpa using none_)
  rw [empty] at entry
  cases entry

theorem sndIntervalList_contains {i : SndInterval} {list : List UInt32} {mask x : UInt32} (inside : i.Contains x.toNat)
    (listed : Listed list mask x) :
    0 ≤ (sndIntervalList i list mask).1 ∧ (sndIntervalList i list mask).2.Contains x.toNat := by
  unfold sndIntervalList
  rw [if_neg listed.nonempty]
  exact sndIntervalRefine_contains inside (listRange_covers inside listed)

structure SndUsbSubstream.Supports (subs : SndUsbSubstream) (fp : Audioformat) (p : HwPoint) : Prop where
  rate : ∃ rate : UInt32, p.value .rate = rate.toNat ∧ fp.fits (p.choice .format) fp.channels rate = true
  channels : p.value .channels = fp.channels.toNat
  periodTime : subs.fullSpeed = false → ((packetTime fp.datainterval).toNat : ℚ) ≤ p.value .periodTime

section Keeps

variable {p : HwPoint} {fp : Audioformat} (inside : p.In params)
include inside

theorem valid_of_supports (member : fp ∈ subs.fmtList) (supports : subs.Supports fp p) : fp ∈ subs.validFormats params := by
  obtain ⟨rate, value, fits⟩ := supports.rate
  obtain ⟨format, -, low, high, -⟩ := fits_iff.mp fits
  have rates := inside.intervals .rate
  have counts := inside.intervals .channels
  have times := inside.intervals .periodTime
  rw [value] at rates
  rw [supports.channels] at counts
  have lower : (fp.rateMin.toNat : ℚ) ≤ rate.toNat := by exact_mod_cast UInt32.le_iff_toNat_le.mp low
  have upper : (rate.toNat : ℚ) ≤ fp.rateMax.toNat := by exact_mod_cast UInt32.le_iff_toNat_le.mp high
  refine mem_validFormats.mpr ⟨member, (hwCheckValidFormat_iff fp).mpr ⟨⟨⟨_, format, inside.masks .format⟩, ?_, ?_, ?_⟩,
    fun fast => ?_⟩⟩
  · refine ⟨UInt32.le_iff_toNat_le.mpr ?_, UInt32.le_iff_toNat_le.mpr ?_⟩
    · exact_mod_cast counts.low.1
    · exact_mod_cast counts.high.1
  · refine ⟨?_, fun isOpen => ?_⟩
    · exact_mod_cast lower.trans rates.high.1
    · exact_mod_cast lower.trans_lt (rates.high.2 isOpen)
  · refine ⟨?_, fun isOpen => ?_⟩
    · exact_mod_cast rates.low.1.trans upper
    · exact_mod_cast (rates.low.2 isOpen).trans_le upper
  · have slow := supports.periodTime fast
    refine ⟨?_, fun isOpen => ?_⟩
    · exact_mod_cast slow.trans times.high.1
    · exact_mod_cast slow.trans_lt (times.high.2 isOpen)

variable (member : fp ∈ subs.fmtList) (supports : subs.Supports fp p)
include member supports

theorem hwRuleRate_keeps : 0 ≤ (subs.hwRuleRate params).1 ∧ p.In (subs.hwRuleRate params).2 := by
  obtain ⟨rate, value, fits⟩ := supports.rate
  obtain ⟨-, -, low, high, -⟩ := fits_iff.mp fits
  refine hwRuleHull_keeps inside (valid_of_supports inside member supports) ?_ ?_
  · rw [value]
    exact_mod_cast UInt32.le_iff_toNat_le.mp low
  · rw [value]
    exact_mod_cast UInt32.le_iff_toNat_le.mp high

theorem hwRuleChannels_keeps : 0 ≤ (subs.hwRuleChannels params).1 ∧ p.In (subs.hwRuleChannels params).2 :=
  hwRuleHull_keeps inside (valid_of_supports inside member supports) supports.channels.ge supports.channels.le

theorem hwRuleFormat_keeps : 0 ≤ (subs.hwRuleFormat params).1 ∧ p.In (subs.hwRuleFormat params).2 := by
  obtain ⟨rate, -, fits⟩ := supports.rate
  have format := (fits_iff.mp fits).1
  have bits := (foldl_or_test (subs.validFormats params) 0 (p.choice .format)).mpr
    (Or.inr ⟨fp, valid_of_supports inside member supports, format⟩)
  have both : sndMaskTest (sndMaskIntersect (params.masks .format)
      ⟨(subs.validFormats params).foldl (fun fbits fp => fbits ||| fp.formats) 0⟩) (p.choice .format) = true := by
    have offered := inside.masks .format
    simp only [sndMaskTest, sndMaskIntersect, BitVec.getLsbD_and, Bool.and_eq_true] at bits offered ⊢
    exact ⟨offered, bits⟩
  unfold SndUsbSubstream.hwRuleFormat
  dsimp only
  rw [if_neg (Bool.eq_false_iff.mp (sndMaskEmpty_of_test both))]
  refine ⟨?_, inside.setMask both⟩
  dsimp only
  split <;> decide

theorem hwRulePeriodTime_keeps (fast : subs.fullSpeed = false) :
    0 ≤ (subs.hwRulePeriodTime params).1 ∧ p.In (subs.hwRulePeriodTime params).2 := by
  have valid := valid_of_supports inside member supports
  have least := foldl_datainterval_le valid
  have known : (subs.validFormats params).foldl (fun least fp => min least fp.datainterval) 0xff ≠ 0xff := by
    intro none_
    rw [none_] at least
    exact absurd (UInt8.le_trans least fp.interval_le) (by decide)
  have bound := sndIntervalClipMin_contains (inside.intervals .periodTime)
    (le_trans (by exact_mod_cast packetTime_mono least fp.interval_le) (supports.periodTime fast))
  unfold SndUsbSubstream.hwRulePeriodTime
  dsimp only
  rw [if_neg (by simpa using known), if_neg (by simp [sndIntervalCheckempty_of_covers bound.toCovers])]
  refine ⟨?_, inside.setInterval bound⟩
  dsimp only
  split <;> decide

theorem knotRule_keeps {list : List UInt32} (installed : subs.rateList = some list) :
    0 ≤ (sndPcmHwRuleList params .rate list 0).1 ∧ p.In (sndPcmHwRuleList params .rate list 0).2 := by
  obtain ⟨rate, value, fits⟩ := supports.rate
  obtain ⟨-, -, -, -, offers⟩ := fits_iff.mp fits
  have rates := inside.intervals .rate
  rw [value] at rates
  have listed : Listed list 0 rate := by
    rw [listed_iff]
    unfold SndUsbSubstream.rateList at installed
    split at installed
    · cases installed
    rename_i discrete
    split at installed
    · cases installed
    obtain rfl := Option.some.inj installed
    have table : rate ∈ fp.rateTable :=
      offers.resolve_left fun continuous => discrete (List.any_eq_true.mpr ⟨fp, member, continuous⟩)
    exact List.mem_flatMap.mpr ⟨fp, member, table⟩
  obtain ⟨success, contains⟩ := sndIntervalList_contains rates listed
  rw [← value] at contains
  exact ⟨success, inside.setInterval contains⟩

end Keeps

theorem ptmin_fullSpeed (full : subs.fullSpeed = true) : subs.periodTimeRules = [] := by
  unfold SndUsbSubstream.periodTimeRules SndUsbSubstream.paramPeriodTime SndUsbSubstream.ptmin
  rw [if_pos full]
  rfl

theorem setupRules_keep {p : HwPoint} {fp : Audioformat} (inside : p.In params) (member : fp ∈ subs.fmtList)
    (supports : subs.Supports fp p) : ∀ r ∈ subs.setupRules, 0 ≤ (r.call params).1 ∧ p.In (r.call params).2 := by
  intro r listed
  unfold SndUsbSubstream.setupRules at listed
  obtain listed | listed := List.mem_append.mp listed
  · obtain listed | listed := List.mem_append.mp listed
    · simp only [SndUsbSubstream.formatRules, List.mem_cons, List.not_mem_nil, or_false] at listed
      rcases listed with rfl | rfl | rfl
      · exact hwRuleRate_keeps inside member supports
      · exact hwRuleChannels_keeps inside member supports
      · exact hwRuleFormat_keeps inside member supports
    · have fast : subs.fullSpeed = false := by
        by_contra full
        rw [ptmin_fullSpeed (by simpa using full)] at listed
        cases listed
      unfold SndUsbSubstream.periodTimeRules at listed
      split at listed
      · cases listed
      · obtain rfl := List.mem_singleton.mp listed
        exact hwRulePeriodTime_keeps inside member supports fast
  · unfold SndUsbSubstream.knotRules at listed
    split at listed
    · cases listed
    · rename_i list installed
      obtain rfl := List.mem_singleton.mp listed
      exact knotRule_keeps inside member supports installed

end AlsaDriver.Usb
