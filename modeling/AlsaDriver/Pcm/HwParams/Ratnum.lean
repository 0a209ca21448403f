import AlsaDriver.Pcm.HwParams.RatBest

namespace AlsaDriver.Pcm

open OpenBounds Nearest Aligned RatBest

structure SndRatnum where
  num : UInt32
  denMin : UInt32
  denMax : UInt32
  denStep : UInt32
  deriving DecidableEq, Repr

/-- `if (diff < 0) diff = -diff` on the bits of the `int`. -/
def absDiff (diff : UInt32) : UInt32 := if 0x80000000 ≤ diff then 0 - diff else diff

def ratnumLowEnd (min : UInt32) : UInt32 := if min == 0 then 1 else min

def ratnumLowerBest (q : UInt32) (r : SndRatnum) : RatBest :=
  let den := divUp r.num q
  let den :=
    if den > r.denMax then r.denMax
    else
      let m := (den - r.denMin) % r.denStep
      if m != 0 then den - m else den
  ⟨r.num, den, absDiff (r.num - q * den)⟩

def ratnumLower (q : UInt32) (r : SndRatnum) : Option RatBest :=
  if divUp r.num q < r.denMin then none else some (ratnumLowerBest q r)

/-- Aligning to a step rounds the denominator up, past `den_max` too. -/
def ratnumUpperBest (q : UInt32) (r : SndRatnum) : RatBest :=
  let den := divDown r.num q
  let den :=
    if den < r.denMin then r.denMin
    else
      let m := (den - r.denMin) % r.denStep
      if m != 0 then den + (r.denStep - m) else den
  ⟨r.num, den, absDiff (q * den - r.num)⟩

def ratnumUpper (q : UInt32) (r : SndRatnum) : Option RatBest :=
  if divDown r.num q > r.denMax then none else some (ratnumUpperBest q r)

def sndIntervalRatnum (i : SndInterval) (rats : List SndRatnum) : RatResult :=
  let low := ratLoop (ratnumLower (ratnumLowEnd i.min)) rats .start
  if low.den == 0 then ratFail i
  else if i.max == 0 then ratFail i
  else
    let high := ratLoop (ratnumUpper i.max) rats .start
    if high.den == 0 then ratFail i
    else ratRefine i low high (if high.diff * low.den < low.diff * high.den then high else low)

def RatnumPair (rats : List SndRatnum) (n d : Nat) : Prop :=
  ∃ r ∈ rats, n = r.num.toNat ∧ ∃ j : Nat, d = r.denMin.toNat + j * r.denStep.toNat ∧ d ≤ r.denMax.toNat

def RatnumRealises (rats : List SndRatnum) (v : ℚ) : Prop := ∃ n d, RatnumPair rats n d ∧ v = (n : ℚ) / d

structure RatnumRight (i : SndInterval) (rats : List SndRatnum) (result : RatResult) : Prop where
  keeps : KeepsRealisable (RatnumRealises rats) i result
  single : 0 ≤ result.err → sndIntervalSingle result.interval → ∃ n d, result.reported = some (n, d) ∧
    RatnumPair rats n.toNat d.toNat ∧ result.interval.Contains ((n.toNat : ℚ) / d.toNat)

namespace SndRatnum

def ceil (r : SndRatnum) (q : Nat) : Nat := r.num.toNat / q + if r.num.toNat % q = 0 then 0 else 1

/-- The denominator of the entry nearest to the lower end `q`. -/
def lowDen (r : SndRatnum) (q : Nat) : Nat :=
  if r.denMax.toNat < r.ceil q then r.denMax.toNat else (down r.denMin.toNat r.denStep.toNat (r.ceil q : Nat)).toNat

/-- The denominator of the entry nearest to the upper end `q`. -/
def highDen (r : SndRatnum) (q : Nat) : Nat :=
  if r.num.toNat / q < r.denMin.toNat then r.denMin.toNat
  else (up false r.denMin.toNat r.denStep.toNat (r.num.toNat / q : Nat)).toNat

def gap (r : SndRatnum) (q d : Nat) : ℚ := |(r.num.toNat : ℚ) / d - q|

structure WellFormed (r : SndRatnum) : Prop where
  num : 0 < r.num.toNat
  den : 0 < r.denMin.toNat
  order : r.denMin.toNat ≤ r.denMax.toNat
  step : 0 < r.denStep.toNat

/-- The product of the end and the denominator, and its distance from the numerator, fit in an `int`. -/
def ProductFits (r : SndRatnum) (q d : Nat) : Prop :=
  q * d < 2 ^ 31 ∧ r.num.toNat < q * d + 2 ^ 31

instance (r : SndRatnum) (q d : Nat) : Decidable (r.ProductFits q d) := inferInstanceAs (Decidable (_ ∧ _))

end SndRatnum

section Candidates

variable {q : UInt32} {r : SndRatnum}

theorem absDiff_toNat {a b : UInt32} (below : a.toNat < b.toNat + 2 ^ 31) (above : b.toNat < a.toNat + 2 ^ 31) :
    ((absDiff (a - b)).toNat : ℚ) = |(a.toNat : ℚ) - b.toNat| := by
  have top := a.toNat_lt
  have top' := b.toNat_lt
  rcases le_or_gt b.toNat a.toNat with order | order
  · have difference : (a - b).toNat = a.toNat - b.toNat := UInt32.toNat_sub_of_le _ _ (UInt32.le_iff_toNat_le.mpr order)
    have small : ¬ 0x80000000 ≤ a - b := by
      rw [UInt32.le_iff_toNat_le, difference]
      exact not_le.mpr (show a.toNat - b.toNat < 2147483648 by omega)
    rw [absDiff, if_neg small, difference, Nat.cast_sub order, abs_of_nonneg]
    exact sub_nonneg.mpr (by exact_mod_cast order)
  · have difference : (a - b).toNat = 2 ^ 32 - (b.toNat - a.toNat) := by
      rw [UInt32.toNat_sub]
      omega
    have large : 0x80000000 ≤ a - b := by
      rw [UInt32.le_iff_toNat_le, difference]
      exact (show 2147483648 ≤ 2 ^ 32 - (b.toNat - a.toNat) by omega)
    have negated : (0 - (a - b)).toNat = b.toNat - a.toNat := by
      rw [UInt32.toNat_sub, difference, UInt32.toNat_zero]
      omega
    rw [absDiff, if_pos large, negated, Nat.cast_sub order.le, abs_of_neg, neg_sub]
    exact sub_neg.mpr (by exact_mod_cast order)

theorem divUp_ceil (r : SndRatnum) (positive : 0 < q.toNat) : (divUp r.num q).toNat = r.ceil q.toNat :=
  divUp_toNat r.num q positive

theorem SndRatnum.denMin_le_lowDen (formed : r.WellFormed) {q : Nat} (reaches : r.denMin.toNat ≤ r.ceil q) :
    r.denMin.toNat ≤ r.lowDen q := by
  unfold lowDen
  split
  · exact formed.order
  · have least := le_down (o := r.denMin.toNat) (b := (r.ceil q : Nat))
      (by exact_mod_cast formed.step : (0 : Int) < r.denStep.toNat) (by exact_mod_cast reaches) rfl
    omega

theorem SndRatnum.denMin_le_highDen (formed : r.WellFormed) (q : Nat) : r.denMin.toNat ≤ r.highDen q := by
  unfold highDen
  split
  · exact le_refl _
  · rename_i above
    have past := (atLeast_up false r.denMin.toNat (r.num.toNat / q : Nat)
      (by exact_mod_cast formed.step : (0 : Int) < r.denStep.toNat)).1
    omega

theorem ratnumLowerBest_den (positive : 0 < q.toNat) (reaches : r.denMin.toNat ≤ r.ceil q.toNat) :
    (ratnumLowerBest q r).den.toNat = r.lowDen q.toNat := by
  have ceil := divUp_ceil r positive
  have above : divUp r.num q > r.denMax ↔ r.denMax.toNat < r.ceil q.toNat := by
    rw [gt_iff_lt, UInt32.lt_iff_toNat_lt, ceil]
  by_cases clamped : r.denMax.toNat < r.ceil q.toNat
  · rw [SndRatnum.lowDen, if_pos clamped, ratnumLowerBest]
    simp only [above, clamped, if_true]
  · rw [SndRatnum.lowDen, if_neg clamped, ← ceil]
    simp only [ratnumLowerBest, above, clamped, if_false]
    exact alignDown_toNat (ceil.symm ▸ reaches)

theorem ratnumUpperBest_den (formed : r.WellFormed) (positive : 0 < q.toNat)
    (fits : r.ProductFits q.toNat (r.highDen q.toNat)) : (ratnumUpperBest q r).den.toNat = r.highDen q.toNat := by
  have floor := divDown_toNat r.num q positive
  have below : divDown r.num q < r.denMin ↔ r.num.toNat / q.toNat < r.denMin.toNat := by
    rw [UInt32.lt_iff_toNat_lt, floor]
  by_cases clamped : r.num.toNat / q.toNat < r.denMin.toNat
  · rw [SndRatnum.highDen, if_pos clamped, ratnumUpperBest]
    simp only [below, clamped, if_true]
  · have small : r.highDen q.toNat < 2 ^ 31 := (Nat.le_mul_of_pos_left _ positive).trans_lt fits.1
    rw [SndRatnum.highDen, if_neg clamped, ← floor] at small ⊢
    simp only [ratnumUpperBest, below, clamped, if_false]
    exact alignUp_toNat (floor.symm ▸ not_lt.mp clamped) formed.step (by omega)

theorem SndRatnum.ProductFits.gap_eq {d : UInt32} (fits : r.ProductFits q.toNat d.toNat) (positive : 0 < d.toNat) :
    ((absDiff (r.num - q * d)).toNat : ℚ) / d.toNat = r.gap q.toNat d.toNat ∧
      ((absDiff (q * d - r.num)).toNat : ℚ) / d.toNat = r.gap q.toNat d.toNat := by
  have small := fits.1
  have near := fits.2
  have product : (q * d).toNat = q.toNat * d.toNat := by
    rw [UInt32.toNat_mul]
    omega
  have below : (q * d).toNat < r.num.toNat + 2 ^ 31 := by omega
  have above : r.num.toNat < (q * d).toNat + 2 ^ 31 := by rwa [product]
  have cast : (0 : ℚ) < d.toNat := Nat.cast_pos.mpr positive
  have quotient : |(r.num.toNat : ℚ) - (q * d).toNat| / d.toNat = r.gap q.toNat d.toNat := by
    rw [product, SndRatnum.gap, Nat.cast_mul, ← abs_of_pos cast, ← abs_div, abs_of_pos cast, sub_div,
      mul_div_cancel_right₀ _ cast.ne']
  rw [absDiff_toNat above below, absDiff_toNat below above, abs_sub_comm ((q * d).toNat : ℚ)]
  exact ⟨quotient, quotient⟩

theorem ratnumLowerBest_cost (formed : r.WellFormed) (positive : 0 < q.toNat) (reaches : r.denMin.toNat ≤ r.ceil q.toNat)
    (fits : r.ProductFits q.toNat (r.lowDen q.toNat)) :
    cost (ratnumLowerBest q r) = r.gap q.toNat (r.lowDen q.toNat) := by
  have den := ratnumLowerBest_den positive reaches
  have above : 0 < (ratnumLowerBest q r).den.toNat := by
    rw [den]
    exact formed.den.trans_le (SndRatnum.denMin_le_lowDen formed reaches)
  rw [← den] at fits ⊢
  exact (fits.gap_eq above).1

theorem ratnumUpperBest_cost (formed : r.WellFormed) (positive : 0 < q.toNat)
    (fits : r.ProductFits q.toNat (r.highDen q.toNat)) :
    cost (ratnumUpperBest q r) = r.gap q.toNat (r.highDen q.toNat) := by
  have den := ratnumUpperBest_den formed positive fits
  have above : 0 < (ratnumUpperBest q r).den.toNat := by
    rw [den]
    exact formed.den.trans_le (SndRatnum.denMin_le_highDen formed q.toNat)
  rw [← den] at fits ⊢
  exact (fits.gap_eq above).2

end Candidates

/-- The entries are well formed, and the products of the two searches and of the choice between
    their candidates fit. -/
structure RatnumFits (i : SndInterval) (rats : List SndRatnum) : Prop where
  formed : ∀ r ∈ rats, r.WellFormed
  low : ∀ r ∈ rats, r.denMin.toNat ≤ r.ceil (ratnumLowEnd i.min).toNat →
    r.ProductFits (ratnumLowEnd i.min).toNat (r.lowDen (ratnumLowEnd i.min).toNat)
  high : ∀ r ∈ rats, r.num.toNat / i.max.toNat ≤ r.denMax.toNat → r.ProductFits i.max.toNat (r.highDen i.max.toNat)
  crossLow : (rats.filterMap (ratnumLower (ratnumLowEnd i.min))).Pairwise CrossFits
  crossHigh : (rats.filterMap (ratnumUpper i.max)).Pairwise CrossFits
  cross : ∀ c ∈ rats.filterMap (ratnumLower (ratnumLowEnd i.min)), ∀ d ∈ rats.filterMap (ratnumUpper i.max), CrossFits c d

def NearestLow (i : SndInterval) (rats : List SndRatnum) (r : SndRatnum) : Prop :=
  FirstLeast (fun r => r.gap (ratnumLowEnd i.min).toNat (r.lowDen (ratnumLowEnd i.min).toNat))
    (rats.filter fun r => r.denMin.toNat ≤ r.ceil (ratnumLowEnd i.min).toNat) r

def NearestHigh (i : SndInterval) (rats : List SndRatnum) (r : SndRatnum) : Prop :=
  FirstLeast (fun r => r.gap i.max.toNat (r.highDen i.max.toNat))
    (rats.filter fun r => r.num.toNat / i.max.toNat ≤ r.denMax.toNat) r

def Between (i : SndInterval) (b c : SndRatnum) (x : ℚ) : Prop :=
  i.Contains x ∧ FloorAtLeast b.num.toNat (b.lowDen (ratnumLowEnd i.min).toNat) x ∧
    CeilAtMost c.num.toNat (c.highDen i.max.toNat) x

def nearerPair (i : SndInterval) (b c : SndRatnum) : Nat × Nat :=
  if c.gap i.max.toNat (c.highDen i.max.toNat) <
      b.gap (ratnumLowEnd i.min).toNat (b.lowDen (ratnumLowEnd i.min).toNat) then
    (c.num.toNat, c.highDen i.max.toNat)
  else (b.num.toNat, b.lowDen (ratnumLowEnd i.min).toNat)

/-- The nearest entries admit every realisable value of the interval, and where the values they
    admit share their integer part, the nearer of the two is one of those. -/
structure NearestSuffice (i : SndInterval) (rats : List SndRatnum) : Prop where
  low : ∀ v, RatnumRealises rats v → i.Contains v →
    ∃ b, NearestLow i rats b ∧ FloorAtLeast b.num.toNat (b.lowDen (ratnumLowEnd i.min).toNat) v
  high : ∀ v, RatnumRealises rats v → i.Contains v →
    ∃ c, NearestHigh i rats c ∧ CeilAtMost c.num.toNat (c.highDen i.max.toNat) v
  single : ∀ b c, 0 < i.max.toNat → NearestLow i rats b → NearestHigh i rats c → (∃ x, Between i b c x) →
    (∃ m : Nat, ∀ x, Between i b c x → (m : ℚ) ≤ x ∧ x < m + 1) →
      RatnumPair rats (nearerPair i b c).1 (nearerPair i b c).2 ∧
        Between i b c (((nearerPair i b c).1 : ℚ) / (nearerPair i b c).2)

section Search

variable {i : SndInterval} {rats : List SndRatnum}

theorem ratnumLowEnd_pos (min : UInt32) : 0 < (ratnumLowEnd min).toNat := by
  unfold ratnumLowEnd
  split
  · exact Nat.one_pos
  · rename_i nonzero
    exact (ne_zero_iff_toNat min).mp fun zero => nonzero (beq_iff_eq.mpr zero)

theorem RatnumFits.lowerCandidates (rats : List SndRatnum) {q : UInt32} (positive : 0 < q.toNat) :
    rats.filterMap (ratnumLower q) = (rats.filter fun r => r.denMin.toNat ≤ r.ceil q.toNat).map (ratnumLowerBest q) := by
  rw [← filterMap_guard]
  refine List.filterMap_congr fun r inside => ?_
  have same : divUp r.num q < r.denMin ↔ ¬ r.denMin.toNat ≤ r.ceil q.toNat := by
    rw [UInt32.lt_iff_toNat_lt, divUp_ceil r positive, not_le]
  simp only [ratnumLower, same, decide_eq_true_eq, ite_not]

theorem RatnumFits.upperCandidates (rats : List SndRatnum) {q : UInt32} (positive : 0 < q.toNat) :
    rats.filterMap (ratnumUpper q) = (rats.filter fun r => r.num.toNat / q.toNat ≤ r.denMax.toNat).map (ratnumUpperBest q) := by
  rw [← filterMap_guard]
  refine List.filterMap_congr fun r inside => ?_
  have same : divDown r.num q > r.denMax ↔ ¬ r.num.toNat / q.toNat ≤ r.denMax.toNat := by
    rw [gt_iff_lt, UInt32.lt_iff_toNat_lt, divDown_toNat _ _ positive, not_le]
  simp only [ratnumUpper, same, decide_eq_true_eq, ite_not]

theorem RatnumFits.lower_search (fits : RatnumFits i rats)
    (some_ : (rats.filter fun r => r.denMin.toNat ≤ r.ceil (ratnumLowEnd i.min).toNat) ≠ []) : ∃ b, NearestLow i rats b ∧
      ratLoop (ratnumLower (ratnumLowEnd i.min)) rats .start = ratnumLowerBest (ratnumLowEnd i.min) b := by
  have positive := ratnumLowEnd_pos i.min
  refine ratLoop_nearest (lowerCandidates rats positive) fits.crossLow (fun r there => ?_) some_
  have inside := List.mem_of_mem_filter there
  have reaches := of_decide_eq_true (List.mem_filter.mp there).2
  have formed := fits.formed r inside
  rw [ratnumLowerBest_den positive reaches]
  exact ⟨formed.num, formed.den.trans_le (SndRatnum.denMin_le_lowDen formed reaches),
    ratnumLowerBest_cost formed positive reaches (fits.low r inside reaches)⟩

theorem RatnumFits.upper_search (fits : RatnumFits i rats) (positive : 0 < i.max.toNat)
    (some_ : (rats.filter fun r => r.num.toNat / i.max.toNat ≤ r.denMax.toNat) ≠ []) : ∃ c, NearestHigh i rats c ∧
      ratLoop (ratnumUpper i.max) rats .start = ratnumUpperBest i.max c := by
  refine ratLoop_nearest (upperCandidates rats positive) fits.crossHigh (fun r there => ?_) some_
  have inside := List.mem_of_mem_filter there
  have reaches := of_decide_eq_true (List.mem_filter.mp there).2
  have formed := fits.formed r inside
  rw [ratnumUpperBest_den formed positive (fits.high r inside reaches)]
  exact ⟨formed.num, formed.den.trans_le (SndRatnum.denMin_le_highDen formed _),
    ratnumUpperBest_cost formed positive (fits.high r inside reaches)⟩

theorem RatnumFits.realised_pos (fits : RatnumFits i rats) {v : ℚ} (real : RatnumRealises rats v) : 0 < v := by
  obtain ⟨n, d, ⟨r, inside, rfl, j, rfl, -⟩, rfl⟩ := real
  have formed := fits.formed r inside
  exact div_pos (Nat.cast_pos.mpr formed.num) (Nat.cast_pos.mpr (Nat.add_pos_left formed.den _))

theorem RatnumFits.reaches_high (fits : RatnumFits i rats) {v : ℚ} (real : RatnumRealises rats v) (below : v ≤ i.max.toNat) :
    (rats.filter fun r => r.num.toNat / i.max.toNat ≤ r.denMax.toNat) ≠ [] := by
  obtain ⟨n, d, ⟨r, inside, rfl, j, rfl, last⟩, rfl⟩ := real
  have formed := fits.formed r inside
  have den : (0 : ℚ) < (r.denMin.toNat + j * r.denStep.toNat : Nat) := Nat.cast_pos.mpr (Nat.add_pos_left formed.den _)
  have bound : r.num.toNat ≤ i.max.toNat * (r.denMin.toNat + j * r.denStep.toNat) := by
    exact_mod_cast (div_le_iff₀ den).mp below
  exact List.ne_nil_of_mem (List.mem_filter.mpr ⟨inside, decide_eq_true ((Nat.div_le_of_le_mul bound).trans last)⟩)

theorem ratnumRight_ratFail : RatnumRight i rats (ratFail i) ↔ ∀ v, RatnumRealises rats v → ¬ i.Contains v :=
  ⟨fun right => keepsRealisable_ratFail.mp right.keeps,
    fun none => ⟨keepsRealisable_ratFail.mpr none, fun fine => absurd fine EINVAL_failure⟩⟩

theorem nearestSuffice_of_none (none : ∀ b c, 0 < i.max.toNat → NearestLow i rats b → ¬ NearestHigh i rats c)
    (one : (∀ b, ¬ NearestLow i rats b) ∨ ∀ v, RatnumRealises rats v → ¬ i.Contains v) :
    NearestSuffice i rats ↔ ∀ v, RatnumRealises rats v → ¬ i.Contains v := by
  constructor
  · intro suffice v real inside
    obtain ⟨b, near, -⟩ := suffice.low v real inside
    exact one.elim (fun no => no b near) fun nothing => nothing v real inside
  · exact fun nothing => ⟨fun v real inside => absurd inside (nothing v real),
      fun v real inside => absurd inside (nothing v real), fun b c top low high => absurd high (none b c top low)⟩

theorem ratnumRight_ratRefine_iff {b c : SndRatnum} {lower upper single : RatBest} {x : ℚ} (inside : i.Contains x)
    (top : 0 < i.max.toNat) (low : NearestLow i rats b) (high : NearestHigh i rats c)
    (lowNum : lower.num = b.num) (lowDen : lower.den.toNat = b.lowDen (ratnumLowEnd i.min).toNat)
    (highNum : upper.num = c.num) (highDen : upper.den.toNat = c.highDen i.max.toNat)
    (positive : 0 < lower.den.toNat) (positive' : 0 < upper.den.toNat)
    (pair : (single.num.toNat, single.den.toNat) = nearerPair i b c) :
    RatnumRight i rats (ratRefine i lower upper single) ↔ NearestSuffice i rats := by
  have contains (y : ℚ) : (ratRefine i lower upper single).interval.Contains y ↔ Between i b c y := by
    rw [Between, ← lowNum, ← highNum, ← lowDen, ← highDen]
    exact sndIntervalRefine_ratBounds positive positive' inside
  have one := ratRefine_single_iff lower upper single inside
  simp only [contains] at one
  have reported (fine : 0 ≤ (ratRefine i lower upper single).err ∧
      sndIntervalSingle (ratRefine i lower upper single).interval) :
      (ratRefine i lower upper single).reported = some (single.num, single.den) := if_pos fine
  have keeps := keepsRealisable_ratRefine (i := i) (RatnumRealises rats) single positive positive'
  rw [lowNum, highNum, lowDen, highDen] at keeps
  constructor
  · intro right
    have admitted := keeps.mp right.keeps
    refine ⟨fun v real there => ⟨b, low, (admitted v real there).1⟩, fun v real there => ⟨c, high, (admitted v real there).2⟩, ?_⟩
    intro b' c' _ low' high' some_ share
    obtain rfl := low.unique low'
    obtain rfl := high.unique high'
    have fine := one.mpr ⟨some_, share⟩
    obtain ⟨n, d, same, real, there⟩ := right.single fine.1 fine.2
    rw [reported fine, Option.some_inj, Prod.mk.injEq] at same
    rw [contains, ← same.1, ← same.2] at there
    rw [← same.1, ← same.2] at real
    rw [← pair]
    exact ⟨real, there⟩
  · intro suffice
    refine ⟨keeps.mpr fun v real there => ⟨?_, ?_⟩, fun fine single' => ⟨single.num, single.den, reported ⟨fine, single'⟩, ?_⟩⟩
    · obtain ⟨b', low', admits⟩ := suffice.low v real there
      obtain rfl := low.unique low'
      exact admits
    · obtain ⟨c', high', admits⟩ := suffice.high v real there
      obtain rfl := high.unique high'
      exact admits
    · have shared := one.mp ⟨fine, single'⟩
      rw [contains]
      have right := suffice.single b c top low high shared.1 shared.2
      rw [← pair] at right
      exact right

end Search

def dividedClock : SndRatnum := ⟨12, 1, 4, 1⟩

theorem dividedClock_fits : RatnumFits { sndIntervalAny with min := 3, max := 6 } [dividedClock] where
  formed := by
    intro r inside
    rw [List.mem_singleton.mp inside]
    exact ⟨by decide, by decide, by decide, by decide⟩
  low := by decide
  high := by decide
  crossLow := by decide
  crossHigh := by decide
  cross := by decide

theorem contains_of_closed {low high : UInt32} {v : ℚ} (above : (low.toNat : ℚ) ≤ v) (below : v ≤ high.toNat) :
    SndInterval.Contains { sndIntervalAny with min := low, max := high } v :=
  ⟨⟨⟨above, fun isOpen => absurd isOpen Bool.false_ne_true⟩, ⟨below, fun isOpen => absurd isOpen Bool.false_ne_true⟩,
    fun flag => absurd flag Bool.false_ne_true⟩, rfl⟩

theorem dividedClock_suffices : NearestSuffice { sndIntervalAny with min := 3, max := 6 } [dividedClock] := by
  have low : FirstLeast (fun r : SndRatnum => r.gap 3 (r.lowDen 3)) [dividedClock] dividedClock :=
    ⟨[], [], rfl, fun _ inside => absurd inside List.not_mem_nil, fun _ inside => absurd inside List.not_mem_nil⟩
  have high : FirstLeast (fun r : SndRatnum => r.gap 6 (r.highDen 6)) [dividedClock] dividedClock :=
    ⟨[], [], rfl, fun _ inside => absurd inside List.not_mem_nil, fun _ inside => absurd inside List.not_mem_nil⟩
  have four : dividedClock.lowDen 3 = 4 := by decide
  have two : dividedClock.highDen 6 = 2 := by decide
  have floor {v : ℚ} (above : ((3 : Nat) : ℚ) ≤ v) : FloorAtLeast 12 (dividedClock.lowDen 3) v := by
    rw [four]
    refine floorAtLeast_of_le (Nat.succ_pos 3) (le_trans ?_ above)
    norm_num
  have ceil {v : ℚ} (below : v ≤ (6 : Nat)) : CeilAtMost 12 (dividedClock.highDen 6) v := by
    rw [two]
    refine ceilAtMost_of_le (Nat.succ_pos 1) (below.trans ?_)
    norm_num
  refine ⟨fun v _ inside => ⟨dividedClock, low, floor inside.low.1⟩,
    fun v _ inside => ⟨dividedClock, high, ceil inside.high.1⟩, fun b c _ near near' _ share => ?_⟩
  obtain rfl := List.mem_singleton.mp (List.mem_of_mem_filter near.mem)
  obtain rfl := List.mem_singleton.mp (List.mem_of_mem_filter near'.mem)
  obtain ⟨m, share⟩ := share
  have order : ((3 : Nat) : ℚ) ≤ (6 : Nat) := by norm_num
  have first := share (3 : Nat) ⟨contains_of_closed (le_refl _) order, floor (le_refl _), ceil order⟩
  have last := share (6 : Nat) ⟨contains_of_closed order (le_refl _), floor order, ceil (le_refl _)⟩
  push_cast at first last
  linarith [first.1, last.2]

theorem threeToSix_nonempty : ∃ x, SndInterval.Contains { sndIntervalAny with min := 3, max := 6 } x := by
  have order : ((3 : Nat) : ℚ) ≤ (6 : Nat) := by norm_num
  exact ⟨(3 : Nat), contains_of_closed (le_refl _) order⟩

def crossedClocks : List SndRatnum := [⟨11, 1, 3, 1⟩, ⟨6, 1, 1, 1⟩]

theorem crossedClocks_fits : RatnumFits { sndIntervalAny with min := 5, max := 10 } crossedClocks where
  formed := by
    intro r inside
    rcases List.mem_pair.mp inside with rfl | rfl
    · exact ⟨by decide, by decide, by decide, by decide⟩
    · exact ⟨by decide, by decide, by decide, by decide⟩
  low := by decide
  high := by decide
  crossLow := by decide
  crossHigh := by decide
  cross := by decide

end AlsaDriver.Pcm
