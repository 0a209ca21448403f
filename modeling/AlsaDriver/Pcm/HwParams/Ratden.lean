import Mathlib.Data.Nat.ModEq
import AlsaDriver.Pcm.HwParams.RatBest

namespace AlsaDriver.Pcm

open OpenBounds Nearest Aligned RatBest

structure SndRatden where
  numMin : UInt32
  numMax : UInt32
  numStep : UInt32
  den : UInt32
  deriving DecidableEq, Repr

/-- The candidate of one entry for the lower end; an end below the entry is clamped to `num_max`. -/
def ratdenLowerBest (q : UInt32) (r : SndRatden) : RatBest :=
  let num := mul q r.den
  let num :=
    if num < r.numMin then r.numMax
    else
      let m := (num - r.numMin) % r.numStep
      if m != 0 then num + (r.numStep - m) else num
  ⟨num, r.den, num - q * r.den⟩

def ratdenLower (q : UInt32) (r : SndRatden) : Option RatBest :=
  if mul q r.den > r.numMax then none else some (ratdenLowerBest q r)

def ratdenUpperBest (q : UInt32) (r : SndRatden) : RatBest :=
  let num := mul q r.den
  let num :=
    if num > r.numMax then r.numMax
    else
      let m := (num - r.numMin) % r.numStep
      if m != 0 then num - m else num
  ⟨num, r.den, q * r.den - num⟩

def ratdenUpper (q : UInt32) (r : SndRatden) : Option RatBest :=
  if mul q r.den < r.numMin then none else some (ratdenUpperBest q r)

def sndIntervalRatden (i : SndInterval) (rats : List SndRatden) : RatResult :=
  let low := ratLoop (ratdenLower i.min) rats .start
  if low.den == 0 then ratFail i
  else
    let high := ratLoop (ratdenUpper i.max) rats .start
    if high.den == 0 then ratFail i
    else ratRefine i low high high

def RatdenRealises (rats : List SndRatden) (v : ℚ) : Prop :=
  ∃ r ∈ rats, ∃ j : Nat, r.numMin.toNat + j * r.numStep.toNat ≤ r.numMax.toNat ∧
    v = ((r.numMin.toNat + j * r.numStep.toNat : Nat) : ℚ) / r.den.toNat

namespace SndRatden

/-- The numerator where the search for the end `q` starts: the first of the entry's from the end
    on, but the last one when the end lies below the entry. -/
def first (r : SndRatden) (q : Nat) : Nat :=
  if q * r.den.toNat < r.numMin.toNat then r.numMax.toNat
  else (up false r.numMin.toNat r.numStep.toNat (q * r.den.toNat : Nat)).toNat

structure WellFormed (r : SndRatden) : Prop where
  den : 0 < r.den.toNat
  order : r.numMin.toNat ≤ r.numMax.toNat
  step : 0 < r.numStep.toNat

end SndRatden

structure RatdenFits (i : SndInterval) (rats : List SndRatden) : Prop where
  formed : ∀ r ∈ rats, r.WellFormed
  low : ∀ r ∈ rats, i.min.toNat * r.den.toNat < 2 ^ 32
  high : ∀ r ∈ rats, i.max.toNat * r.den.toNat < 2 ^ 32
  rounded : ∀ r ∈ rats, i.min.toNat * r.den.toNat ≤ r.numMax.toNat → r.first i.min.toNat < 2 ^ 32
  crossLow : (rats.filterMap (ratdenLower i.min)).Pairwise CrossFits
  crossHigh : (rats.filterMap (ratdenUpper i.max)).Pairwise CrossFits

/-- The entries that the search of the lower end compares: those that reach it, from behind the
    last one that starts at zero and is not the last of all. -/
def comparedRatdens (i : SndInterval) (rats : List SndRatden) : List SndRatden :=
  current (fun r => i.min == 0 && r.numMin == 0) (rats.filter fun r => i.min.toNat * r.den.toNat ≤ r.numMax.toNat)

section Candidates

variable {q : UInt32} {r : SndRatden} {n : Nat}

theorem mul_eq_product (fits : q.toNat * r.den.toNat < 2 ^ 32) : (mul q r.den).toNat = q.toNat * r.den.toNat := by
  rw [mul_toNat, UINT_MAX_toNat]
  omega

theorem product_fits (fits : q.toNat * r.den.toNat < 2 ^ 32) : (q * r.den).toNat = q.toNat * r.den.toNat := by
  rw [UInt32.toNat_mul, Nat.mod_eq_of_lt fits]

theorem SndRatden.le_first (formed : r.WellFormed) (reaches : q.toNat * r.den.toNat ≤ r.numMax.toNat) :
    q.toNat * r.den.toNat ≤ r.first q.toNat := by
  unfold first
  split
  · exact reaches
  · have above := (atLeast_up false r.numMin.toNat (q.toNat * r.den.toNat : Nat)
      (by exact_mod_cast formed.step : (0 : Int) < r.numStep.toNat)).1
    omega

theorem ratdenLowerBest_num (formed : r.WellFormed) (fits : q.toNat * r.den.toNat < 2 ^ 32)
    (rounded : r.first q.toNat < 2 ^ 32) : (ratdenLowerBest q r).num.toNat = r.first q.toNat := by
  have product := mul_eq_product fits
  have below : mul q r.den < r.numMin ↔ q.toNat * r.den.toNat < r.numMin.toNat := by
    rw [UInt32.lt_iff_toNat_lt, product]
  by_cases clamped : q.toNat * r.den.toNat < r.numMin.toNat
  · rw [ratdenLowerBest, SndRatden.first, if_pos clamped]
    simp only [below, clamped, if_true]
  · rw [SndRatden.first, if_neg clamped, ← product] at rounded ⊢
    simp only [ratdenLowerBest, below, clamped, if_false]
    exact alignUp_toNat (product.symm ▸ not_lt.mp clamped) formed.step rounded

theorem ratdenLowerBest_diff (formed : r.WellFormed) (fits : q.toNat * r.den.toNat < 2 ^ 32)
    (reaches : q.toNat * r.den.toNat ≤ r.numMax.toNat) (rounded : r.first q.toNat < 2 ^ 32) :
    (ratdenLowerBest q r).diff.toNat = r.first q.toNat - q.toNat * r.den.toNat := by
  have num := ratdenLowerBest_num formed fits rounded
  have above := SndRatden.le_first formed reaches
  have product := product_fits fits
  have difference : (ratdenLowerBest q r).diff = (ratdenLowerBest q r).num - q * r.den := rfl
  rw [difference, UInt32.toNat_sub_of_le, num, product]
  rw [UInt32.le_iff_toNat_le, num, product]
  exact above

theorem ratdenUpperBest_num (fits : q.toNat * r.den.toNat < 2 ^ 32) (reaches : r.numMin.toNat ≤ q.toNat * r.den.toNat) :
    (ratdenUpperBest q r).num.toNat =
      if r.numMax.toNat < q.toNat * r.den.toNat then r.numMax.toNat
      else (down r.numMin.toNat r.numStep.toNat (q.toNat * r.den.toNat : Nat)).toNat := by
  have product := mul_eq_product fits
  have above : mul q r.den > r.numMax ↔ r.numMax.toNat < q.toNat * r.den.toNat := by
    rw [gt_iff_lt, UInt32.lt_iff_toNat_lt, product]
  by_cases clamped : r.numMax.toNat < q.toNat * r.den.toNat
  · rw [if_pos clamped, ratdenUpperBest]
    simp only [above, clamped, if_true]
  · rw [if_neg clamped, ← product]
    simp only [ratdenUpperBest, above, clamped, if_false]
    exact alignDown_toNat (product.symm ▸ reaches)

theorem ratdenUpperBest_le (formed : r.WellFormed) (fits : q.toNat * r.den.toNat < 2 ^ 32)
    (reaches : r.numMin.toNat ≤ q.toNat * r.den.toNat) : (ratdenUpperBest q r).num.toNat ≤ q.toNat * r.den.toNat := by
  have num := ratdenUpperBest_num fits reaches
  split at num
  · omega
  · have below := down_le (o := r.numMin.toNat) (b := (q.toNat * r.den.toNat : Nat))
      (by exact_mod_cast formed.step : (0 : Int) < r.numStep.toNat)
    omega

theorem ratdenUpperBest_diff (formed : r.WellFormed) (fits : q.toNat * r.den.toNat < 2 ^ 32)
    (reaches : r.numMin.toNat ≤ q.toNat * r.den.toNat) :
    (ratdenUpperBest q r).diff.toNat = q.toNat * r.den.toNat - (ratdenUpperBest q r).num.toNat := by
  have difference : (ratdenUpperBest q r).diff = q * r.den - (ratdenUpperBest q r).num := rfl
  have below := ratdenUpperBest_le formed fits reaches
  have product := product_fits fits
  rw [difference, UInt32.toNat_sub_of_le, product]
  rw [UInt32.le_iff_toNat_le, product]
  exact below

theorem le_ratdenUpperBest {j : Nat} (formed : r.WellFormed) (fits : q.toNat * r.den.toNat < 2 ^ 32)
    (last : r.numMin.toNat + j * r.numStep.toNat ≤ r.numMax.toNat)
    (below : r.numMin.toNat + j * r.numStep.toNat ≤ q.toNat * r.den.toNat) :
    r.numMin.toNat + j * r.numStep.toNat ≤ (ratdenUpperBest q r).num.toNat := by
  have num := ratdenUpperBest_num fits ((Nat.le_add_right _ _).trans below)
  split at num
  · omega
  · have aligned : ((r.numMin.toNat + j * r.numStep.toNat : Nat) : Int) ≡ r.numMin.toNat [ZMOD r.numStep.toNat] := by
      push_cast
      exact Int.add_mul_modulus_modEq_iff.mpr rfl
    have least := le_down (b := (q.toNat * r.den.toNat : Nat)) (by exact_mod_cast formed.step : (0 : Int) < r.numStep.toNat)
      (by exact_mod_cast below) aligned
    omega

end Candidates

section Search

variable {i : SndInterval} {rats : List SndRatden} {v : ℚ}

theorem RatdenFits.lowerCandidates (fits : RatdenFits i rats) : rats.filterMap (ratdenLower i.min) =
    (rats.filter fun r => i.min.toNat * r.den.toNat ≤ r.numMax.toNat).map (ratdenLowerBest i.min) := by
  rw [← filterMap_guard]
  refine List.filterMap_congr fun r inside => ?_
  have same : mul i.min r.den > r.numMax ↔ ¬ i.min.toNat * r.den.toNat ≤ r.numMax.toNat := by
    rw [gt_iff_lt, UInt32.lt_iff_toNat_lt, mul_eq_product (fits.low r inside), not_le]
  simp only [ratdenLower, same, decide_eq_true_eq, ite_not]

theorem RatdenFits.upperCandidates (fits : RatdenFits i rats) : rats.filterMap (ratdenUpper i.max) =
    (rats.filter fun r => r.numMin.toNat ≤ i.max.toNat * r.den.toNat).map (ratdenUpperBest i.max) := by
  rw [← filterMap_guard]
  refine List.filterMap_congr fun r inside => ?_
  have same : mul i.max r.den < r.numMin ↔ ¬ r.numMin.toNat ≤ i.max.toNat * r.den.toNat := by
    rw [UInt32.lt_iff_toNat_lt, mul_eq_product (fits.high r inside), not_le]
  simp only [ratdenUpper, same, decide_eq_true_eq, ite_not]

theorem RatdenFits.stale_lower (fits : RatdenFits i rats) {r : SndRatden} (inside : r ∈ rats)
    (reaches : i.min.toNat * r.den.toNat ≤ r.numMax.toNat) :
    stale (ratdenLowerBest i.min r) = (i.min == 0 && r.numMin == 0) := by
  have formed := fits.formed r inside
  have above := SndRatden.le_first formed reaches
  rw [Bool.eq_iff_iff, stale, beq_iff_eq, Bool.and_eq_true, beq_iff_eq, beq_iff_eq, ← UInt32.toNat_inj,
    ← UInt32.toNat_inj, ← UInt32.toNat_inj, UInt32.toNat_zero,
    ratdenLowerBest_num formed (fits.low r inside) (fits.rounded r inside reaches)]
  constructor
  · intro zero
    have product : i.min.toNat * r.den.toNat = 0 := by omega
    refine ⟨(Nat.mul_eq_zero.mp product).resolve_right formed.den.ne', ?_⟩
    by_contra positive
    rw [SndRatden.first, product, if_pos (Nat.pos_of_ne_zero positive)] at zero
    exact positive (Nat.le_zero.mp (zero ▸ formed.order))
  · rintro ⟨zero, zero'⟩
    rw [SndRatden.first, zero, zero', Nat.zero_mul, if_neg (Nat.lt_irrefl 0), up]
    rfl

theorem RatdenFits.cost_lower (fits : RatdenFits i rats) {r : SndRatden} (inside : r ∈ rats)
    (reaches : i.min.toNat * r.den.toNat ≤ r.numMax.toNat) :
    cost (ratdenLowerBest i.min r) = (r.first i.min.toNat : ℚ) / r.den.toNat - i.min.toNat := by
  have formed := fits.formed r inside
  have above := SndRatden.le_first formed reaches
  have nonzero : (r.den.toNat : ℚ) ≠ 0 := Nat.cast_ne_zero.mpr formed.den.ne'
  have den : (ratdenLowerBest i.min r).den = r.den := rfl
  rw [cost, ratdenLowerBest_diff formed (fits.low r inside) reaches (fits.rounded r inside reaches), den, Nat.cast_sub above,
    sub_div, Nat.cast_mul, mul_div_cancel_right₀ _ nonzero]

theorem RatdenFits.cost_upper (fits : RatdenFits i rats) {r : SndRatden} (inside : r ∈ rats)
    (reaches : r.numMin.toNat ≤ i.max.toNat * r.den.toNat) :
    cost (ratdenUpperBest i.max r) = i.max.toNat - value (ratdenUpperBest i.max r) := by
  have formed := fits.formed r inside
  have below := ratdenUpperBest_le formed (fits.high r inside) reaches
  have nonzero : (r.den.toNat : ℚ) ≠ 0 := Nat.cast_ne_zero.mpr formed.den.ne'
  have den : (ratdenUpperBest i.max r).den = r.den := rfl
  rw [cost, ratdenUpperBest_diff formed (fits.high r inside) reaches, value, den, Nat.cast_sub below,
    sub_div, Nat.cast_mul, mul_div_cancel_right₀ _ nonzero]

theorem RatdenFits.lower_den (fits : RatdenFits i rats) (c : RatBest) (inside : c ∈ rats.filterMap (ratdenLower i.min)) :
    0 < c.den.toNat := by
  rw [fits.lowerCandidates] at inside
  obtain ⟨r, there, rfl⟩ := List.mem_map.mp inside
  exact (fits.formed r (List.mem_of_mem_filter there)).den

theorem RatdenFits.upper_den (fits : RatdenFits i rats) (c : RatBest) (inside : c ∈ rats.filterMap (ratdenUpper i.max)) :
    0 < c.den.toNat := by
  rw [fits.upperCandidates] at inside
  obtain ⟨r, there, rfl⟩ := List.mem_map.mp inside
  exact (fits.formed r (List.mem_of_mem_filter there)).den

theorem RatdenFits.lower_search (fits : RatdenFits i rats) (some_ : rats.filterMap (ratdenLower i.min) ≠ []) :
    ∃ b ∈ comparedRatdens i rats, ratLoop (ratdenLower i.min) rats .start = ratdenLowerBest i.min b ∧
      ∀ r ∈ comparedRatdens i rats,
        (b.first i.min.toNat : ℚ) / b.den.toNat ≤ (r.first i.min.toNat : ℚ) / r.den.toNat := by
  have reaching {r : SndRatden} (there : r ∈ rats.filter fun r => i.min.toNat * r.den.toNat ≤ r.numMax.toNat) :
      r ∈ rats ∧ i.min.toNat * r.den.toNat ≤ r.numMax.toNat :=
    ⟨List.mem_of_mem_filter there, of_decide_eq_true (List.mem_filter.mp there).2⟩
  have bottom (s : RatBest) (inside : s ∈ rats.filterMap (ratdenLower i.min)) (old : stale s) (d : RatBest)
      (inside' : d ∈ rats.filterMap (ratdenLower i.min)) (less : cost d ≤ cost s) : stale d := by
    rw [fits.lowerCandidates] at inside inside'
    obtain ⟨r, there, rfl⟩ := List.mem_map.mp inside
    obtain ⟨r', there', rfl⟩ := List.mem_map.mp inside'
    obtain ⟨member, reaches⟩ := reaching there
    obtain ⟨member', reaches'⟩ := reaching there'
    rw [fits.stale_lower member reaches, Bool.and_eq_true, beq_iff_eq, beq_iff_eq] at old
    have zero : r.first i.min.toNat = 0 := by
      rw [SndRatden.first, old.1, old.2, UInt32.toNat_zero, Nat.zero_mul, if_neg (Nat.lt_irrefl 0), up]
      rfl
    rw [fits.cost_lower member reaches, fits.cost_lower member' reaches', zero, Nat.cast_zero, zero_div,
      sub_le_sub_iff_right, old.1, UInt32.toNat_zero] at less
    have den := Nat.cast_pos (α := ℚ).mpr (fits.formed r' member').den
    have numerator : r'.first 0 = 0 := by
      have bound := (div_le_iff₀ den).mp less
      rw [zero_mul] at bound
      exact Nat.le_zero.mp (by exact_mod_cast bound)
    have same := ratdenLowerBest_num (fits.formed r' member') (fits.low r' member') (fits.rounded r' member' reaches')
    rw [old.1, UInt32.toNat_zero, numerator] at same
    rw [stale, beq_iff_eq, ← UInt32.toNat_inj, old.1, same]
    rfl
  obtain ⟨b, best, first⟩ := foldl_pick_current bottom some_
  have compared : current stale (rats.filterMap (ratdenLower i.min)) =
      (comparedRatdens i rats).map (ratdenLowerBest i.min) := by
    rw [fits.lowerCandidates, current_map, comparedRatdens]
    refine congrArg _ (current_congr fun r there => ?_)
    exact fits.stale_lower (reaching there).1 (reaching there).2
  rw [compared] at first
  obtain ⟨b, nearest, rfl⟩ := firstLeast_map.mp first
  refine ⟨b, nearest.mem, ?_, fun r there => ?_⟩
  · rw [ratLoop_pick fits.crossLow fits.lower_den, best, Option.getD_some]
  · have less := nearest.le there
    have kept := reaching (current_subset nearest.mem)
    have kept' := reaching (current_subset there)
    rw [fits.cost_lower kept.1 kept.2, fits.cost_lower kept'.1 kept'.2] at less
    exact (sub_le_sub_iff_right _).mp less

theorem RatdenFits.upper_search (fits : RatdenFits i rats) (real : RatdenRealises rats v) (below : v ≤ i.max.toNat) :
    0 < (ratLoop (ratdenUpper i.max) rats .start).den.toNat ∧
      CeilAtMost (ratLoop (ratdenUpper i.max) rats .start).num.toNat
        (ratLoop (ratdenUpper i.max) rats .start).den.toNat v := by
  obtain ⟨r, inside, j, last, rfl⟩ := real
  have formed := fits.formed r inside
  have den := Nat.cast_pos (α := ℚ).mpr formed.den
  have below : r.numMin.toNat + j * r.numStep.toNat ≤ i.max.toNat * r.den.toNat := by
    exact_mod_cast (div_le_iff₀ den).mp below
  have reaches : r.numMin.toNat ≤ i.max.toNat * r.den.toNat := (Nat.le_add_right _ _).trans below
  have there : ratdenUpperBest i.max r ∈ rats.filterMap (ratdenUpper i.max) := by
    rw [fits.upperCandidates]
    exact List.mem_map_of_mem (List.mem_filter.mpr ⟨inside, decide_eq_true reaches⟩)
  have distance {c : RatBest} (member : c ∈ rats.filterMap (ratdenUpper i.max)) : cost c = i.max.toNat - value c := by
    rw [fits.upperCandidates] at member
    obtain ⟨s, reached, rfl⟩ := List.mem_map.mp member
    exact fits.cost_upper (List.mem_of_mem_filter reached) (of_decide_eq_true (List.mem_filter.mp reached).2)
  have top (s : RatBest) (member : s ∈ rats.filterMap (ratdenUpper i.max)) (old : stale s) (c : RatBest)
      (member' : c ∈ rats.filterMap (ratdenUpper i.max)) : cost c ≤ cost s := by
    have num : s.num = 0 := beq_iff_eq.mp old
    have zero : value s = 0 := by rw [value, num, UInt32.toNat_zero, Nat.cast_zero, zero_div]
    rw [distance member, distance member', zero, sub_zero]
    exact sub_le_self _ (div_nonneg (Nat.cast_nonneg _) (Nat.cast_nonneg _))
  obtain ⟨b, member, best, least⟩ := foldl_pick_least top (List.ne_nil_of_mem there)
  rw [ratLoop_pick fits.crossHigh fits.upper_den, best, Option.getD_some]
  refine ⟨fits.upper_den b member, ceilAtMost_of_le (fits.upper_den b member) ?_⟩
  have less := least _ there
  rw [distance member, distance there, sub_le_sub_iff_left] at less
  refine le_trans ?_ less
  refine (div_le_div_iff_of_pos_right den).mpr ?_
  exact_mod_cast le_ratdenUpperBest formed (fits.high r inside) last below

end Search

/-- The search for the lower end keeps every realisable value of the interval just when each of
    them has an entry, among those compared, that starts at it or below. -/
theorem sndIntervalRatden_keeps_iff (i : SndInterval) (rats : List SndRatden) (fits : RatdenFits i rats) :
    KeepsRealisable (RatdenRealises rats) i (sndIntervalRatden i rats) ↔
      ∀ v, RatdenRealises rats v → i.Contains v →
        ∃ r ∈ comparedRatdens i rats, FloorAtLeast (r.first i.min.toNat) r.den.toNat v := by
  unfold sndIntervalRatden
  dsimp only
  by_cases none : rats.filterMap (ratdenLower i.min) = []
  · have nothing : comparedRatdens i rats = [] := by
      rw [fits.lowerCandidates, List.map_eq_nil_iff] at none
      rw [comparedRatdens, none]
      rfl
    have failed : ((ratLoop (ratdenLower i.min) rats .start).den == 0) = true := by
      rw [ratLoop_eq, none]
      rfl
    rw [if_pos failed, keepsRealisable_ratFail, nothing]
    refine forall_congr' fun v => forall_congr' fun _ => ⟨fun out inside => (out inside).elim, fun some_ inside => ?_⟩
    obtain ⟨r, there, -⟩ := some_ inside
    exact absurd there List.not_mem_nil
  · obtain ⟨b, member, low, nearest⟩ := fits.lower_search none
    have reached := List.mem_filter.mp (current_subset member)
    have formed := fits.formed b reached.1
    have num := ratdenLowerBest_num formed (fits.low b reached.1) (fits.rounded b reached.1 (of_decide_eq_true reached.2))
    have den : (ratdenLowerBest i.min b).den = b.den := rfl
    have found : ¬ ((ratdenLowerBest i.min b).den == 0) = true := by
      rw [beq_iff_eq]
      exact (ne_zero_iff_toNat _).mpr formed.den
    rw [low, if_neg found]
    split
    · rename_i failed
      have nothing (v : ℚ) (real : RatdenRealises rats v) : ¬ i.Contains v := by
        intro inside
        have positive := (fits.upper_search real inside.high.1).1
        rw [beq_iff_eq.mp failed] at positive
        exact absurd positive (Nat.lt_irrefl 0)
      rw [keepsRealisable_ratFail]
      exact ⟨fun _ v real inside => absurd inside (nothing v real), fun _ => nothing⟩
    · rename_i fine
      have positive : 0 < (ratLoop (ratdenUpper i.max) rats .start).den.toNat :=
        (ne_zero_iff_toNat _).mp fun zero => fine (beq_iff_eq.mpr zero)
      rw [keepsRealisable_ratRefine _ _ (den ▸ formed.den) positive, num, den]
      refine forall_congr' fun v => forall_congr' fun real => forall_congr' fun inside => ?_
      refine ⟨fun admitted => ⟨b, member, admitted.1⟩, fun some_ => ⟨?_, (fits.upper_search real inside.high.1).2⟩⟩
      obtain ⟨r, there, admits⟩ := some_
      have formed' := fits.formed r (List.mem_of_mem_filter (current_subset there))
      exact admits.mono formed.den formed'.den (nearest r there)

def steppedRates : List SndRatden := [⟨8000, 48000, 8000, 1⟩]

def dividedRates : List SndRatden := [⟨10, 40, 10, 1⟩, ⟨20, 90, 10, 3⟩]

theorem dividedRates_fits : RatdenFits { sndIntervalAny with min := 10, max := 30 } dividedRates where
  formed := by
    intro r inside
    rcases List.mem_pair.mp inside with rfl | rfl
    · exact ⟨by decide, by decide, by decide⟩
    · exact ⟨by decide, by decide, by decide⟩
  low := by decide
  high := by decide
  rounded := by decide
  crossLow := by decide
  crossHigh := by decide

theorem sndIntervalRatden_keeps_dividedRates :
    KeepsRealisable (RatdenRealises dividedRates) { sndIntervalAny with min := 10, max := 30 }
      (sndIntervalRatden { sndIntervalAny with min := 10, max := 30 } dividedRates) := by
  refine (sndIntervalRatden_keeps_iff _ _ dividedRates_fits).mpr fun v _ inside => ?_
  have compared : (⟨10, 40, 10, 1⟩ : SndRatden) ∈
      comparedRatdens { sndIntervalAny with min := 10, max := 30 } dividedRates := by decide
  refine ⟨_, compared, floorAtLeast_of_le Nat.one_pos ?_⟩
  have start : SndRatden.first ⟨10, 40, 10, 1⟩ 10 = 10 := by decide
  have low : ((10 : Nat) : ℚ) ≤ v := inside.low.1
  rw [show (10 : UInt32).toNat = 10 from rfl, start]
  simpa using low

theorem steppedRates_fits : RatdenFits { sndIntervalAny with min := 5512, max := 32000 } steppedRates where
  formed := by
    intro r inside
    rw [List.mem_singleton.mp inside]
    exact ⟨by decide, by decide, by decide⟩
  low := by decide
  high := by decide
  rounded := by decide
  crossLow := by decide
  crossHigh := by decide

/-- An end below the multiples starts the search at the last of them. -/
theorem steppedRates_lost : RatdenFits { sndIntervalAny with min := 5512, max := 32000 } steppedRates ∧
    ¬ KeepsRealisable (RatdenRealises steppedRates) { sndIntervalAny with min := 5512, max := 32000 }
      (sndIntervalRatden { sndIntervalAny with min := 5512, max := 32000 } steppedRates) := by
  refine ⟨steppedRates_fits, fun keeps => ?_⟩
  have low : ((5512 : Nat) : ℚ) < 8000 := by norm_num
  have high : (8000 : ℚ) < (32000 : Nat) := by norm_num
  have real : (8000 : ℚ) = (8000 + 0 * 8000 : Nat) / (1 : Nat) := by norm_num
  refine keeps.fails (by decide) 8000 ⟨_, List.mem_singleton.mpr rfl, 0, by decide, real⟩ ?_
  exact ⟨⟨AtLeast.of_lt low, AtMost.of_lt high, fun flag => absurd flag Bool.false_ne_true⟩, rfl⟩

end AlsaDriver.Pcm
