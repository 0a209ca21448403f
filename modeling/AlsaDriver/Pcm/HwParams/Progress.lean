import Mathlib.Algebra.Order.BigOperators.Group.List
import AlsaDriver.Pcm.HwParams.IntervalShrink
import AlsaDriver.Pcm.HwParams.Refine

namespace AlsaDriver.Pcm

open Machine

/-- `m` offers fewer choices than `old`. -/
structure SndMask.Shrinks (m old : SndMask) : Prop where
  subset : ∀ k, sndMaskTest m k = true → sndMaskTest old k = true
  strict : m ≠ old

/-- The variable `v` is strictly smaller in `s'` than in `s`, and every other variable is the same. -/
def HwSpace.ShrinksAt (v : HwParam) (s' s : HwSpace) : Prop :=
  match v with
  | .mask k => ∃ m, s' = s.setMask k m ∧ m.Shrinks (s.masks k)
  | .interval k => ∃ i, s' = s.setInterval k i ∧ i.Shrinks (s.intervals k) ∧ sndIntervalCheckempty i = false

theorem sndMaskIntersect_le (mask v : SndMask) : (sndMaskIntersect mask v).bits.toNat ≤ mask.bits.toNat := by
  simp only [sndMaskIntersect, BitVec.toNat_and]
  exact Nat.and_le_left

theorem sndMaskRefine_shrinks (mask v : SndMask) (changed : (sndMaskRefine mask v).1 ≠ 0)
    (success : 0 ≤ (sndMaskRefine mask v).1) : (sndMaskRefine mask v).2.Shrinks mask := by
  unfold sndMaskRefine at changed success ⊢
  dsimp only at changed success ⊢
  split at success
  · exact absurd success EINVAL_failure
  rename_i nonempty
  rw [if_neg nonempty] at changed ⊢
  refine ⟨fun k member => ?_, fun same => ?_⟩
  · simp only [sndMaskTest, sndMaskIntersect, BitVec.getLsbD_and, Bool.and_eq_true] at member ⊢
    exact member.1
  · refine changed (if_pos ?_)
    rw [sndMaskEq, beq_iff_eq]
    exact congrArg SndMask.bits same

theorem sndMaskRefine_same (mask v : SndMask) (unchanged : (sndMaskRefine mask v).1 = 0) :
    (sndMaskRefine mask v).2 = mask := by
  unfold sndMaskRefine at unchanged ⊢
  dsimp only at unchanged ⊢
  split at unchanged
  · exact absurd unchanged (show -EINVAL ≠ 0 by decide)
  rename_i nonempty
  rw [if_neg nonempty]
  simp only [sndMaskEq, beq_iff_eq] at unchanged
  split at unchanged
  · rename_i same
    cases mask
    exact congrArg SndMask.mk same
  · cases unchanged

def HwSpace.rank (s : HwSpace) : Nat :=
  (maskParams.map fun k => (s.masks k).bits.toNat).sum + (intervalParams.map fun k => (s.intervals k).width).sum

theorem SndMask.Shrinks.toNat_lt {m old : SndMask} (shrinks : m.Shrinks old) : m.bits.toNat < old.bits.toNat := by
  have meet : sndMaskIntersect old m = m := by
    obtain ⟨subset, -⟩ := shrinks
    cases m with
    | mk bits =>
      refine congrArg SndMask.mk (BitVec.eq_of_getLsbD_eq fun k _ => ?_)
      simp only [BitVec.getLsbD_and]
      cases member : bits.getLsbD k with
      | true => simpa [sndMaskTest] using subset k member
      | false => exact Bool.and_false _
  refine lt_of_le_of_ne (meet ▸ sndMaskIntersect_le old m) fun same => shrinks.strict ?_
  cases m
  cases old
  exact congrArg SndMask.mk (BitVec.eq_of_toNat_eq same)

theorem sum_update_lt {K : Type} [DecidableEq K] (keys : List K) (f : K → Nat) {k : K} {a : Nat} (member : k ∈ keys)
    (less : a < f k) : (keys.map (Function.update f k a)).sum < (keys.map f).sum := by
  refine List.sum_lt_sum _ _ (fun j _ => ?_) ⟨k, member, by simpa using less⟩
  by_cases same : j = k
  · subst same
    simpa using less.le
  · simp [same]

theorem sum_update_le {K : Type} [DecidableEq K] (keys : List K) (f : K → Nat) {k : K} {a : Nat} (le : a ≤ f k) :
    (keys.map (Function.update f k a)).sum ≤ (keys.map f).sum := by
  refine List.sum_le_sum fun j _ => ?_
  by_cases same : j = k
  · subst same
    simpa using le
  · simp [same]

theorem HwSpace.setInterval_widths (s : HwSpace) (k : IntervalParam) (i : SndInterval) :
    (fun j => ((s.setInterval k i).intervals j).width) =
      Function.update (fun j => (s.intervals j).width) k i.width := by
  funext j
  by_cases same : j = k
  · subst same
    simp [HwSpace.setInterval]
  · simp [HwSpace.setInterval, same]

theorem HwSpace.setMask_numbers (s : HwSpace) (k : MaskParam) (m : SndMask) :
    (fun j => ((s.setMask k m).masks j).bits.toNat) =
      Function.update (fun j => (s.masks j).bits.toNat) k m.bits.toNat := by
  funext j
  by_cases same : j = k
  · subst same
    simp [HwSpace.setMask]
  · simp [HwSpace.setMask, same]

theorem HwSpace.setInterval_rank_le (s : HwSpace) {k : IntervalParam} {i : SndInterval}
    (within : i.Within (s.intervals k)) : (s.setInterval k i).rank ≤ s.rank := by
  unfold HwSpace.rank
  rw [setInterval_widths, setInterval_masks]
  have widths := sum_update_le intervalParams (fun j => (s.intervals j).width) within.width_le
  omega

theorem HwSpace.ShrinksAt.rank_lt {v : HwParam} {s' s : HwSpace} (shrinks : s'.ShrinksAt v s) :
    s'.rank < s.rank := by
  unfold HwSpace.ShrinksAt at shrinks
  split at shrinks
  · obtain ⟨m, rfl, fewer⟩ := shrinks
    unfold HwSpace.rank
    rw [setMask_numbers, setMask_intervals]
    have numbers := sum_update_lt maskParams (fun j => (s.masks j).bits.toNat) (mem_maskParams _) fewer.toNat_lt
    omega
  · obtain ⟨i, rfl, smaller, nonempty⟩ := shrinks
    unfold HwSpace.rank
    rw [setInterval_widths, setInterval_masks]
    have widths := sum_update_lt intervalParams (fun j => (s.intervals j).width) (mem_intervalParams _)
      (smaller.width_lt nonempty)
    omega

def RuleFunc.range (t : SndInterval) (s : HwSpace) : RuleFunc → Option (IntervalParam × SndInterval)
  | .mul var a b => some (var, sndIntervalMul (s.intervals a) (s.intervals b) t)
  | .div var a b => some (var, sndIntervalDiv (s.intervals a) (s.intervals b) t)
  | .muldivk var a b k => some (var, sndIntervalMuldivk (s.intervals a) (s.intervals b) k t)
  | .mulkdiv var a b k => some (var, sndIntervalMulkdiv (s.intervals a) k (s.intervals b) t)
  | .sampleBits var => some (var, sampleBitsRange t s)
  | .list var values mask => if values.length == 0 then none else some (var, listRanges s var values mask)
  | .pow2 var => some (var, listRanges s var pow2Sizes 0)
  | .bufferBytesMax var max =>
    some (var, { t with min := 0, max := max, openmin := false, openmax := false, integer := true })
  | .format _ | .step _ _ _ => none
where
  sampleBitsRange (t : SndInterval) (s : HwSpace) : SndInterval :=
    { sampleBitsLoop (s.masks .format) (List.range (SNDRV_PCM_FORMAT_LAST + 1))
        { t with min := UINT_MAX, max := 0, openmin := false, openmax := false } with integer := true }
  listRanges (s : HwSpace) (var : IntervalParam) (values : List UInt32) (mask : UInt32) : SndInterval :=
    listRange (s.intervals var) mask 0 values { sndIntervalAny with min := UINT_MAX, max := 0 }

def RuleFunc.degenerate (t : SndInterval) (s : HwSpace) (func : RuleFunc) : Bool :=
  match func with
  | .step var size _ =>
    sndIntervalStepWraps (s.intervals var) size || sndIntervalStepStalls (s.intervals var) size
  | _ =>
    match func.range t s with
    | some (var, v) => sndIntervalRefineWraps (s.intervals var) v
    | none => false

theorem RuleFunc.call_of_range {t : SndInterval} {s : HwSpace} {func : RuleFunc} {var : IntervalParam}
    {v : SndInterval} (range : func.range t s = some (var, v)) :
    func.var = .interval var ∧ func.call t s =
      ((sndIntervalRefine (s.intervals var) v).1, s.setInterval var (sndIntervalRefine (s.intervals var) v).2) := by
  cases func with
  | list var' values mask =>
    simp only [RuleFunc.range] at range
    split at range
    · cases range
    · rename_i nonempty
      cases range
      refine ⟨rfl, ?_⟩
      simp only [RuleFunc.call, sndPcmHwRuleList, sndIntervalList, nonempty]
      rfl
  | format dep => cases range
  | step var' size positive => cases range
  | _ =>
    cases range
    exact ⟨rfl, rfl⟩

theorem RuleFunc.degenerate_of_range {t : SndInterval} {s : HwSpace} {func : RuleFunc} {var : IntervalParam}
    {v : SndInterval} (range : func.range t s = some (var, v)) :
    func.degenerate t s = sndIntervalRefineWraps (s.intervals var) v := by
  unfold RuleFunc.degenerate
  split
  · cases range
  · rw [range]

theorem RuleFunc.refine_progress {t : SndInterval} {s : HwSpace} {func : RuleFunc} {var : IntervalParam}
    {v : SndInterval} (range : func.range t s = some (var, v))
    (regular : sndIntervalRefineWraps (s.intervals var) v = false) (success : 0 ≤ (func.call t s).1) :
    (func.call t s).2.rank ≤ s.rank ∧
      ((func.call t s).1 ≠ 0 → (func.call t s).2.ShrinksAt func.var s) := by
  obtain ⟨target, call⟩ := call_of_range range
  rw [call] at success ⊢
  rw [target]
  obtain ⟨within, nonempty, shrinks⟩ := sndIntervalRefine_shrinks _ _ regular success
  exact ⟨s.setInterval_rank_le within, fun changed => ⟨_, rfl, shrinks changed, nonempty⟩⟩

/-- A successful rule call away from the degenerate firings never grows the space, and shrinks the
    variable of the rule when it reports a change. -/
theorem RuleFunc.call_progress (t : SndInterval) (s : HwSpace) (func : RuleFunc)
    (regular : func.degenerate t s = false) (success : 0 ≤ (func.call t s).1) :
    (func.call t s).2.rank ≤ s.rank ∧
      ((func.call t s).1 ≠ 0 → (func.call t s).2.ShrinksAt func.var s) := by
  cases range : func.range t s with
  | some target =>
    obtain ⟨var, v⟩ := target
    exact refine_progress range (degenerate_of_range range ▸ regular) success
  | none =>
    cases func with
    | format dep =>
      by_cases changed : ((RuleFunc.format dep).call t s).1 = 0
      · have same := sndMaskRefine_same _ _ changed
        have kept : ((RuleFunc.format dep).call t s).2 = s := by
          simp only [RuleFunc.call, sndPcmHwRuleFormat, same, HwSpace.setMask, Function.update_eq_self]
        exact ⟨by rw [kept], fun reported => absurd changed reported⟩
      · have shrinks : ((RuleFunc.format dep).call t s).2.ShrinksAt (RuleFunc.format dep).var s :=
          ⟨_, rfl, sndMaskRefine_shrinks _ _ changed success⟩
        exact ⟨shrinks.rank_lt.le, fun _ => shrinks⟩
    | step var size positive =>
      simp only [RuleFunc.degenerate, Bool.or_eq_false_iff] at regular
      have call : (RuleFunc.step var size positive).call t s =
          ((sndIntervalStep (s.intervals var) 0 size).1,
            s.setInterval var (sndIntervalStep (s.intervals var) 0 size).2) := rfl
      rw [call] at success ⊢
      obtain ⟨within, nonempty, shrinks⟩ := sndIntervalStep_shrinks _ _ ((ne_zero_iff_toNat size).mp positive) regular.1
        regular.2 success
      exact ⟨s.setInterval_rank_le within, fun changed => ⟨_, rfl, shrinks changed, nonempty⟩⟩
    | list var values mask =>
      simp only [RuleFunc.range] at range
      split at range
      · rename_i noValues
        simp only [RuleFunc.call, sndPcmHwRuleList, sndIntervalList, noValues] at success
        exact absurd success EINVAL_failure
      · cases range
    | _ => cases range

/-- No rule that the turn in state `s` calls is at a degenerate firing. -/
def RegularTurn (stack : HwSpace → SndInterval) (rules : List SndPcmHwRule) (s : RefineState) : Prop :=
  ∀ r, rules[s.k]? = some r → s.fires r = true →
    r.func.degenerate (stack s.params.space) s.params.space = false

def turnRank (rules : List SndPcmHwRule) (s : RefineState) : Nat :=
  2 * (rules.length + 1) * s.params.space.rank + (rules.length + 1) * s.again.toNat + (rules.length - s.k)

theorem turnRank_lt {stack : HwSpace → SndInterval} {rules : List SndPcmHwRule} {s s' : RefineState}
    (regular : RegularTurn stack rules s) (move : refineStep stack rules s = .next s') :
    turnRank rules s' < turnRank rules s := by
  unfold turnRank
  rcases refineStep_next move with ⟨last, again, rfl⟩ | ⟨r, current, -, rfl⟩ |
    ⟨r, current, fires, success, space, again, k⟩
  · simp only [again, Bool.toNat_true, Bool.toNat_false]
    omega
  · have more := (List.getElem?_eq_some_iff.mp current).1
    dsimp only
    omega
  · have more := (List.getElem?_eq_some_iff.mp current).1
    obtain ⟨le, shrinks⟩ := r.func.call_progress _ _ (regular r current fires) success
    have same := Nat.mul_le_mul_left (2 * (rules.length + 1)) le
    rw [space, again, k]
    by_cases changed : (s.call stack r).1 = 0
    · simp only [RefineState.call] at changed ⊢
      simp only [changed, bne_self_eq_false, Bool.false_or]
      omega
    · have lower := Nat.mul_le_mul_left (2 * (rules.length + 1)) (Nat.succ_le_of_lt (shrinks changed).rank_lt)
      have flag := Nat.mul_le_mul_left (rules.length + 1) (Bool.toNat_le ((s.call stack r).1 != 0 || s.again))
      rw [Nat.succ_eq_add_one, Nat.mul_add] at lower
      simp only [RefineState.call] at lower flag ⊢
      omega

theorem refineLoop_halts {stack : HwSpace → SndInterval} {rules : List SndPcmHwRule} {params : SndPcmHwParams}
    (regular : ∀ n s, refineLoop stack rules n params = .next s → RegularTurn stack rules s) :
    ∃ result, refineLoop stack rules (turnRank rules (refineStart params) + 1) params = .halt result :=
  runFor_halts_within (turnRank rules) (refineStart params) fun n s _ reached move =>
    turnRank_lt (regular n s reached) move

end AlsaDriver.Pcm
