import Mathlib.Tactic.FieldSimp
import AlsaDriver.Pcm.HwParams.IntervalPoints
import AlsaDriver.Pcm.HwParams.Progress

namespace AlsaDriver.Pcm

open OpenBounds Machine

structure HwPoint where
  choice : MaskParam → Nat
  value : IntervalParam → ℚ

structure HwPoint.In (p : HwPoint) (s : HwSpace) : Prop where
  masks : ∀ k, sndMaskTest (s.masks k) (p.choice k) = true
  intervals : ∀ k, (s.intervals k).Contains (p.value k)

/-- The configuration satisfies the defining equation of every rule, with each quantity the rules
    relate strictly between zero and `UINT_MAX`. -/
structure HwPoint.Feasible (p : HwPoint) : Prop where
  width : 0 < sndPcmFormatPhysicalWidth (p.choice .format)
  sampleBits : p.value .sampleBits = sndPcmFormatPhysicalWidth (p.choice .format)
  frameBits : p.value .frameBits = p.value .sampleBits * p.value .channels
  periodBytes : p.value .periodBytes = p.value .periodSize * p.value .frameBits / 8
  bufferBytes : p.value .bufferBytes = p.value .bufferSize * p.value .frameBits / 8
  periodTime : p.value .periodTime = p.value .periodSize * 1000000 / p.value .rate
  bufferTime : p.value .bufferTime = p.value .bufferSize * 1000000 / p.value .rate
  bufferSize : p.value .bufferSize = p.value .periodSize * p.value .periods
  representable : ∀ k, k ≠ .tickTime → Representable (p.value k)

theorem HwPoint.Feasible.positive {p : HwPoint} (feasible : p.Feasible) {k : IntervalParam} (quantity : k ≠ .tickTime) :
    0 < p.value k := (feasible.representable k quantity).positive

theorem HwPoint.In.setInterval {p : HwPoint} {s : HwSpace} {k : IntervalParam} {i : SndInterval} (inside : p.In s)
    (contains : i.Contains (p.value k)) : p.In (s.setInterval k i) := by
  refine ⟨inside.masks, fun j => ?_⟩
  by_cases same : j = k
  · subst same
    simpa [HwSpace.setInterval] using contains
  · simpa [HwSpace.setInterval, same] using inside.intervals j

theorem HwPoint.In.setMask {p : HwPoint} {s : HwSpace} {k : MaskParam} {m : SndMask} (inside : p.In s)
    (contains : sndMaskTest m (p.choice k) = true) : p.In (s.setMask k m) := by
  refine ⟨fun j => ?_, inside.intervals⟩
  by_cases same : j = k
  · subst same
    simpa [HwSpace.setMask] using contains
  · simpa [HwSpace.setMask, same] using inside.masks j

theorem sndMaskEmpty_of_test {m : SndMask} {k : Nat} (member : sndMaskTest m k = true) :
    sndMaskEmpty m = false := by
  simp only [sndMaskEmpty, beq_eq_false_iff_ne]
  intro zero
  simp [sndMaskTest, zero] at member

theorem sndMaskRefine_test {mask v : SndMask} {k : Nat} (member : sndMaskTest mask k = true)
    (other : sndMaskTest v k = true) :
    0 ≤ (sndMaskRefine mask v).1 ∧ sndMaskTest (sndMaskRefine mask v).2 k = true := by
  have both : sndMaskTest (sndMaskIntersect mask v) k = true := by
    simp only [sndMaskTest] at member other
    simp [sndMaskTest, sndMaskIntersect, member, other]
  simp only [sndMaskRefine, sndMaskEmpty_of_test both, Bool.false_eq_true, if_false]
  refine ⟨?_, both⟩
  split <;> decide

theorem sndIntervalNormaliseWraps_of_covers {i : SndInterval} {x : ℚ} (inside : i.Covers x) :
    sndIntervalNormaliseWraps i = false := by
  have low : i.openmin = true → i.min ≠ UINT_MAX := by
    intro isOpen top
    have above : (UINT_MAX.toNat : ℚ) < i.max.toNat := (top ▸ inside.low.2 isOpen).trans_le inside.high.1
    have room : UINT_MAX.toNat < i.max.toNat := by exact_mod_cast above
    have bound := i.max.toNat_lt
    rw [UINT_MAX_toNat] at room
    omega
  have high : i.openmax = true → i.max ≠ 0 := by
    intro isOpen bottom
    have below : (i.min.toNat : ℚ) < (0 : UInt32).toNat := inside.low.1.trans_lt (bottom ▸ inside.high.2 isOpen)
    have room : i.min.toNat < (0 : UInt32).toNat := by exact_mod_cast below
    rw [UInt32.toNat_zero] at room
    omega
  simp only [sndIntervalNormaliseWraps, Bool.and_eq_false_imp, Bool.or_eq_false_iff, beq_eq_false_iff_ne]
  exact fun _ => ⟨low, high⟩

/-- A rule function keeps the configuration `p` in every space that holds it, and is regular there. -/
structure RuleFunc.KeepsAt (func : RuleFunc) (p : HwPoint) (t : SndInterval) (s : HwSpace) : Prop where
  success : 0 ≤ (func.call t s).1
  inside : p.In (func.call t s).2
  regular : func.degenerate t s = false

def RuleFunc.Keeps (func : RuleFunc) (p : HwPoint) : Prop := ∀ t s, p.In s → func.KeepsAt p t s

theorem refine_keeps {p : HwPoint} {s : HwSpace} {t : SndInterval} {func : RuleFunc} {var : IntervalParam}
    {v : SndInterval} (inside : p.In s) (range : func.range t s = some (var, v))
    (covers : v.Covers (p.value var)) : func.KeepsAt p t s := by
  obtain ⟨success, contains⟩ := sndIntervalRefine_contains (inside.intervals var) covers
  have call := (RuleFunc.call_of_range range).2
  refine ⟨by rwa [call], by rw [call]; exact inside.setInterval contains, ?_⟩
  rw [RuleFunc.degenerate_of_range range]
  exact sndIntervalNormaliseWraps_of_covers (sndIntervalMeet_covers (inside.intervals var).toCovers covers)

section Rules

variable {p : HwPoint} (feasible : p.Feasible)
include feasible

theorem mul_keeps {var a b : IntervalParam} (quantity : var ≠ .tickTime) (left : a ≠ .tickTime)
    (right : b ≠ .tickTime) (equation : p.value var = p.value a * p.value b) : (RuleFunc.mul var a b).Keeps p := by
  intro t s inside
  refine refine_keeps inside rfl (SndInterval.Contains.toCovers ?_)
  rw [equation]
  exact sndIntervalMul_contains (inside.intervals a) (inside.intervals b) (feasible.positive left)
    (feasible.positive right) (equation ▸ (feasible.representable var quantity).below)

theorem div_keeps {var a b : IntervalParam} (quantity : var ≠ .tickTime) (left : a ≠ .tickTime)
    (right : b ≠ .tickTime) (equation : p.value var = p.value a / p.value b) : (RuleFunc.div var a b).Keeps p := by
  intro t s inside
  refine refine_keeps inside rfl (SndInterval.Contains.toCovers ?_)
  rw [equation]
  exact sndIntervalDiv_contains (inside.intervals a) (inside.intervals b) (feasible.positive left)
    (feasible.positive right) (equation ▸ (feasible.representable var quantity).below)

theorem muldivk_keeps {var a b : IntervalParam} {k : UInt32} (divisor : k ≠ 0) (quantity : var ≠ .tickTime)
    (left : a ≠ .tickTime) (right : b ≠ .tickTime)
    (equation : p.value var = p.value a * p.value b / k.toNat) : (RuleFunc.muldivk var a b k).Keeps p := by
  intro t s inside
  refine refine_keeps inside rfl (SndInterval.Contains.toCovers ?_)
  rw [equation]
  exact sndIntervalMuldivk_contains divisor (inside.intervals a) (inside.intervals b)
    (feasible.positive left) (feasible.positive right)
    (equation ▸ (feasible.representable var quantity).below)

theorem mulkdiv_keeps {var a b : IntervalParam} {k : UInt32} (factor : k ≠ 0) (quantity : var ≠ .tickTime)
    (left : a ≠ .tickTime) (right : b ≠ .tickTime)
    (equation : p.value var = p.value a * k.toNat / p.value b) : (RuleFunc.mulkdiv var a b k).Keeps p := by
  intro t s inside
  refine refine_keeps inside rfl (SndInterval.Contains.toCovers ?_)
  rw [equation]
  exact sndIntervalMulkdiv_contains factor (inside.intervals a) (inside.intervals b)
    (feasible.positive left) (feasible.positive right)
    (equation ▸ (feasible.representable var quantity).below)

theorem formatBits_choice {mask : SndMask} (member : sndMaskTest mask (p.choice .format) = true) :
    ∃ bits, formatBits mask (p.choice .format) = some bits ∧ p.value .sampleBits = (bits.toNat : ℚ) := by
  have width := feasible.width
  have small : ((sndPcmFormatPhysicalWidth (p.choice .format)).toNat : ℚ) < UINT_MAX.toNat := by
    have bound := (feasible.representable .sampleBits (by decide)).below
    rw [feasible.sampleBits] at bound
    refine lt_of_eq_of_lt ?_ bound
    exact_mod_cast Int.toNat_of_nonneg width.le
  have less : (sndPcmFormatPhysicalWidth (p.choice .format)).toNat < UINT_MAX.toNat := by exact_mod_cast small
  refine ⟨UInt32.ofNat (sndPcmFormatPhysicalWidth (p.choice .format)).toNat, ?_, ?_⟩
  · simp only [formatBits, member, if_true, if_neg (not_le.mpr width)]
  · rw [UINT_MAX_toNat] at less
    rw [UInt32.toNat_ofNat_of_lt' (by rw [show UInt32.size = 4294967296 from rfl]; omega), feasible.sampleBits]
    exact_mod_cast (Int.toNat_of_nonneg width.le).symm

theorem choice_lt : p.choice .format < 64 := by
  by_contra large
  have width := feasible.width
  rw [sndPcmFormatPhysicalWidth, if_pos (by rw [SNDRV_PCM_FORMAT_LAST]; omega)] at width
  exact absurd width (by decide)

theorem choice_mem : p.choice .format ∈ List.range (SNDRV_PCM_FORMAT_LAST + 1) := by
  rw [List.mem_range]
  by_contra large
  have width := feasible.width
  rw [sndPcmFormatPhysicalWidth, if_pos (by omega)] at width
  exact absurd width (by decide)

omit feasible in
theorem sndMaskReset_test {m : SndMask} {k j : Nat} (other : k ≠ j) (bound : j < 64) :
    sndMaskTest (sndMaskReset m k) j = sndMaskTest m j := by
  simp [sndMaskTest, sndMaskReset, bound, other.symm]

omit feasible in
theorem formatLoop_test {i : SndInterval} {mask : SndMask} {j : Nat} {bits : UInt32} (bound : j < 64)
    (width : formatBits mask j = some bits) (inside : (bits < i.min || bits > i.max) = false) (ks : List Nat)
    (m : SndMask) (member : sndMaskTest m j = true) : sndMaskTest (formatLoop i mask ks m) j = true := by
  induction ks generalizing m with
  | nil => exact member
  | cons k rest ih =>
    unfold formatLoop
    split
    · exact ih m member
    · rename_i other found
      refine ih _ ?_
      split
      · rename_i outside
        have different : k ≠ j := by
          rintro rfl
          rw [width] at found
          rw [Option.some.inj found, outside] at inside
          cases inside
        rwa [sndMaskReset_test different bound]
      · exact member

theorem format_keeps {dep : IntervalParam} (equation : p.value dep = p.value .sampleBits) :
    (RuleFunc.format dep).Keeps p := by
  intro t s inside
  obtain ⟨bits, width, value⟩ := formatBits_choice feasible (inside.masks .format)
  have contains := inside.intervals dep
  rw [equation, value] at contains
  have low : (s.intervals dep).min.toNat ≤ bits.toNat := by exact_mod_cast contains.low.1
  have high : bits.toNat ≤ (s.intervals dep).max.toNat := by exact_mod_cast contains.high.1
  have within : (bits < (s.intervals dep).min || bits > (s.intervals dep).max) = false := by
    simp only [gt_iff_lt, UInt32.lt_iff_toNat_lt, Bool.or_eq_false_iff, decide_eq_false_iff_not]
    omega
  have any : sndMaskTest sndMaskAny (p.choice .format) = true := by
    simp only [sndMaskTest, sndMaskAny, BitVec.getLsbD_allOnes, choice_lt feasible, decide_true]
  obtain ⟨success, member⟩ := sndMaskRefine_test (inside.masks .format)
    (formatLoop_test (choice_lt feasible) width within (List.range (SNDRV_PCM_FORMAT_LAST + 1)) _ any)
  exact ⟨success, inside.setMask member, rfl⟩

omit feasible in
theorem sampleBitsLoop_widens (mask : SndMask) (ks : List Nat) (t : SndInterval) :
    (sampleBitsLoop mask ks t).min.toNat ≤ t.min.toNat ∧ t.max.toNat ≤ (sampleBitsLoop mask ks t).max.toNat ∧
      (sampleBitsLoop mask ks t).openmin = t.openmin ∧ (sampleBitsLoop mask ks t).openmax = t.openmax := by
  induction ks generalizing t with
  | nil => exact ⟨le_rfl, le_rfl, rfl, rfl⟩
  | cons k rest ih =>
    unfold sampleBitsLoop
    split
    · exact ih t
    · rename_i bits _
      dsimp only
      refine ⟨(ih _).1.trans ?_, le_trans ?_ (ih _).2.1, (ih _).2.2.1.trans ?_, (ih _).2.2.2.trans ?_⟩
      · split_ifs with first <;> simp_all [UInt32.lt_iff_toNat_lt] <;> omega
      · split_ifs with first second <;> simp_all [UInt32.lt_iff_toNat_lt] <;> omega
      · split_ifs <;> rfl
      · split_ifs <;> rfl

omit feasible in
theorem sampleBitsLoop_reaches {mask : SndMask} {j : Nat} {bits : UInt32} (width : formatBits mask j = some bits)
    (ks : List Nat) (member : j ∈ ks) (t : SndInterval) :
    (sampleBitsLoop mask ks t).min.toNat ≤ bits.toNat ∧ bits.toNat ≤ (sampleBitsLoop mask ks t).max.toNat := by
  induction ks generalizing t with
  | nil => cases member
  | cons k rest ih =>
    rcases List.mem_cons.mp member with rfl | later
    · unfold sampleBitsLoop
      simp only [width]
      have widens := sampleBitsLoop_widens mask rest
      refine ⟨(widens _).1.trans ?_, le_trans ?_ (widens _).2.1⟩
      · split_ifs with first <;> simp_all [UInt32.lt_iff_toNat_lt]
      · split_ifs with first second <;> simp_all [UInt32.lt_iff_toNat_lt]
    · unfold sampleBitsLoop
      split
      · exact ih later t
      · exact ih later _

theorem sampleBits_keeps {var : IntervalParam} (equation : p.value var = p.value .sampleBits) :
    (RuleFunc.sampleBits var).Keeps p := by
  intro t s inside
  obtain ⟨bits, width, value⟩ := formatBits_choice feasible (inside.masks .format)
  let start : SndInterval := { t with min := UINT_MAX, max := 0, openmin := false, openmax := false }
  have widens := sampleBitsLoop_widens (s.masks .format) (List.range (SNDRV_PCM_FORMAT_LAST + 1)) start
  have reaches := sampleBitsLoop_reaches width _ (choice_mem feasible) start
  refine refine_keeps inside rfl ⟨⟨?_, ?_⟩, ⟨?_, ?_⟩, fun _ => ⟨bits.toNat, ?_⟩⟩
  · rw [equation, value]
    exact_mod_cast reaches.1
  · intro isOpen
    have closed : (RuleFunc.range.sampleBitsRange t s).openmin = false := widens.2.2.1
    rw [closed] at isOpen
    cases isOpen
  · rw [equation, value]
    exact_mod_cast reaches.2
  · intro isOpen
    have closed : (RuleFunc.range.sampleBitsRange t s).openmax = false := widens.2.2.2
    rw [closed] at isOpen
    cases isOpen
  · rw [equation, value]
    rfl

theorem initRules_keep {func : RuleFunc} (member : func ∈ initRules) : func.Keeps p := by
  have channels := (feasible.positive (k := .channels) (by decide)).ne'
  have bits := (feasible.positive (k := .sampleBits) (by decide)).ne'
  have frame := (feasible.positive (k := .frameBits) (by decide)).ne'
  have rate := (feasible.positive (k := .rate) (by decide)).ne'
  have size := (feasible.positive (k := .periodSize) (by decide)).ne'
  have periods := (feasible.positive (k := .periods) (by decide)).ne'
  have buffer := (feasible.positive (k := .bufferSize) (by decide)).ne'
  have million : ((1000000 : UInt32).toNat : ℚ) = 1000000 := by exact_mod_cast (rfl : (1000000 : UInt32).toNat = 1000000)
  have eight : ((8 : UInt32).toNat : ℚ) = 8 := by exact_mod_cast (rfl : (8 : UInt32).toNat = 8)
  simp only [initRules, List.mem_cons, List.not_mem_nil, or_false] at member
  rcases member with rfl | rfl | rfl | rfl | rfl | rfl | rfl | rfl | rfl | rfl | rfl | rfl | rfl | rfl | rfl |
    rfl | rfl | rfl | rfl | rfl
  · exact format_keeps feasible rfl
  · exact sampleBits_keeps feasible rfl
  · refine div_keeps feasible (by decide) (by decide) (by decide) ?_
    rw [feasible.frameBits]
    field_simp
  · exact mul_keeps feasible (by decide) (by decide) (by decide) feasible.frameBits
  · refine mulkdiv_keeps feasible (by decide) (by decide) (by decide) (by decide) ?_
    rw [feasible.periodBytes, eight]
    field_simp
  · refine mulkdiv_keeps feasible (by decide) (by decide) (by decide) (by decide) ?_
    rw [feasible.bufferBytes, eight]
    field_simp
  · refine div_keeps feasible (by decide) (by decide) (by decide) ?_
    rw [feasible.frameBits]
    field_simp
  · refine mulkdiv_keeps feasible (by decide) (by decide) (by decide) (by decide) ?_
    rw [feasible.periodTime, million]
    field_simp
  · refine mulkdiv_keeps feasible (by decide) (by decide) (by decide) (by decide) ?_
    rw [feasible.bufferTime, million]
    field_simp
  · refine div_keeps feasible (by decide) (by decide) (by decide) ?_
    rw [feasible.bufferSize]
    field_simp
  · refine div_keeps feasible (by decide) (by decide) (by decide) ?_
    rw [feasible.bufferSize]
    field_simp
  · refine mulkdiv_keeps feasible (by decide) (by decide) (by decide) (by decide) ?_
    rw [feasible.periodBytes, eight]
    field_simp
  · refine muldivk_keeps feasible (by decide) (by decide) (by decide) (by decide) ?_
    rw [feasible.periodTime, million]
    field_simp
  · exact mul_keeps feasible (by decide) (by decide) (by decide) feasible.bufferSize
  · refine mulkdiv_keeps feasible (by decide) (by decide) (by decide) (by decide) ?_
    rw [feasible.bufferBytes, eight]
    field_simp
  · refine muldivk_keeps feasible (by decide) (by decide) (by decide) (by decide) ?_
    rw [feasible.bufferTime, million]
    field_simp
  · exact muldivk_keeps feasible (by decide) (by decide) (by decide) (by decide) (eight ▸ feasible.periodBytes)
  · exact muldivk_keeps feasible (by decide) (by decide) (by decide) (by decide) (eight ▸ feasible.bufferBytes)
  · exact mulkdiv_keeps feasible (by decide) (by decide) (by decide) (by decide) (million ▸ feasible.periodTime)
  · exact mulkdiv_keeps feasible (by decide) (by decide) (by decide) (by decide) (million ▸ feasible.bufferTime)

end Rules

end AlsaDriver.Pcm
