import AlsaDriver.Pcm.HwParams.Solver

namespace AlsaDriver.Pcm

open Machine

structure RuleLoopProgresses (stack : HwSpace → SndInterval) (rules : List SndPcmHwRule) (params : SndPcmHwParams) :
    Prop where
  halts : ∃ n result, refineLoop stack rules n params = .halt result
  shrinks : ∀ n s r, refineLoop stack rules n params = .next s → rules[s.k]? = some r → s.fires r = true →
    0 < (s.call stack r).1 → (s.call stack r).2.ShrinksAt r.var s.params.space

theorem ruleLoop_progresses {stack : HwSpace → SndInterval} {rules : List SndPcmHwRule} {params : SndPcmHwParams}
    (regular : ∀ n s, refineLoop stack rules n params = .next s → RegularTurn stack rules s) :
    RuleLoopProgresses stack rules params := by
  refine ⟨?_, fun n s r reached current fires changed => ?_⟩
  · obtain ⟨result, stop⟩ := refineLoop_halts regular
    exact ⟨_, result, stop⟩
  · exact (r.func.call_progress _ _ (regular n s reached r current fires) changed.le).2 changed.ne'

theorem ruleLoop_progresses_stereo :
    RuleLoopProgresses (fun _ => sndIntervalAny) sndPcmHwConstraintsInit.rules stereoParams :=
  ruleLoop_progresses (refineLoop_regular stereoPoint_feasible _ stereoPoint_in_stereoParams)

theorem sndIntervalStep_stalls {i : SndInterval} {step : UInt32} (stalls : sndIntervalStepStalls i step = true)
    (nonempty : sndIntervalCheckempty i = false) : sndIntervalStep i 0 step = (1, i) := by
  simp only [sndIntervalStepStalls, Bool.and_eq_true, beq_iff_eq, Bool.not_eq_true'] at stalls
  obtain ⟨⟨⟨low, closed⟩, high⟩, isOpen⟩ := stalls
  have kept : sndIntervalStepMin i 0 step = (false, i) := by simp [sndIntervalStepMin, low, closed]
  have reported : sndIntervalStepMax i 0 step = (true, i) := by
    unfold sndIntervalStepMax
    rw [UInt32.sub_zero, high]
    dsimp only
    rw [if_pos (by simp [isOpen]), UInt32.sub_zero]
  simp [sndIntervalStep, kept, reported, nonempty]

section StepPair

variable {var : IntervalParam} {size size' : UInt32} {positive : size ≠ 0} {positive' : size' ≠ 0}

def stepRule (var : IntervalParam) (size : UInt32) (positive : size ≠ 0) : SndPcmHwRule :=
  ⟨0, .step var size positive, [.interval var]⟩

theorem stepRule_fires (s : RefineState) :
    s.fires (stepRule var size positive) = decide (s.rstamps s.k < s.vstamps (.interval var)) := by
  simp [RefineState.fires, stepRule, SndPcmHwRule.deps, RuleFunc.operands]

theorem stepRule_call {stack : HwSpace → SndInterval} {s : RefineState}
    (stalls : sndIntervalStepStalls (s.params.space.intervals var) size = true)
    (nonempty : sndIntervalCheckempty (s.params.space.intervals var) = false) :
    s.call stack (stepRule var size positive) = (1, s.params.space) := by
  simp only [RefineState.call, stepRule, RuleFunc.call, sndPcmHwRuleStep, sndIntervalStep_stalls stalls nonempty,
    HwSpace.setInterval, Function.update_eq_self]

theorem stepRule_turn (stack : HwSpace → SndInterval) {rules : List SndPcmHwRule} {s : RefineState}
    (current : rules[s.k]? = some (stepRule var size positive))
    (older : s.rstamps s.k < s.vstamps (.interval var))
    (stalls : sndIntervalStepStalls (s.params.space.intervals var) size = true)
    (nonempty : sndIntervalCheckempty (s.params.space.intervals var) = false) :
    ∃ s', refineStep stack rules s = .next s' ∧ s'.params.space = s.params.space ∧ s'.k = s.k + 1 ∧
      s'.again = true ∧ s'.stamp = s.stamp + 1 ∧ s'.vstamps (.interval var) = s.stamp ∧
      s'.rstamps = Function.update s.rstamps s.k s.stamp := by
  have fires : s.fires (stepRule var size positive) = true := by rw [stepRule_fires, decide_eq_true_eq]; exact older
  unfold refineStep
  simp only [current, fires, if_true, stepRule_call stalls nonempty]
  exact ⟨_, rfl, rfl, rfl, rfl, rfl, Function.update_self .., rfl⟩

def stepRules (var : IntervalParam) (size size' : UInt32) (positive : size ≠ 0) (positive' : size' ≠ 0) :
    List SndPcmHwRule := [stepRule var size positive, stepRule var size' positive']

/-- Two step rules on one variable after `m` passes in which each has reported a change and made none. -/
structure StalledAt (var : IntervalParam) (space : HwSpace) (m : Nat) (s : RefineState) : Prop where
  kept : s.params.space = space
  start : s.k = 0
  stamp : s.stamp.toNat = 2 * m + 2
  trigger : (s.vstamps (.interval var)).toNat = 2 * m + 1
  first : (s.rstamps 0).toNat ≤ 2 * m
  second : (s.rstamps 1).toNat ≤ 2 * m + 1

variable (stack : HwSpace → SndInterval) {space : HwSpace}
  (stalls : sndIntervalStepStalls (space.intervals var) size = true)
  (stalls' : sndIntervalStepStalls (space.intervals var) size' = true)
  (nonempty : sndIntervalCheckempty (space.intervals var) = false)
include stalls stalls' nonempty

theorem stalledAt_pass {m : Nat} {s : RefineState} (stalled : StalledAt var space m s) (room : 2 * m + 4 < 2 ^ 32) :
    ∃ s', runFor (refineStep stack (stepRules var size size' positive positive')) 3 s = .next s' ∧
      StalledAt var space (m + 1) s' := by
  obtain ⟨rfl, start, stamp, trigger, first, second⟩ := stalled
  have next : (s.stamp + 1).toNat = 2 * m + 3 := by
    rw [UInt32.toNat_add, UInt32.toNat_one]
    omega
  have after : (s.stamp + 1 + 1).toNat = 2 * m + 4 := by
    rw [UInt32.toNat_add, UInt32.toNat_one]
    omega
  have current (k : Nat) (s : RefineState) (here : s.k = k) {r : SndPcmHwRule}
      (listed : (stepRules var size size' positive positive')[k]? = some r) :
      (stepRules var size size' positive positive')[s.k]? = some r := here ▸ listed
  obtain ⟨s₁, one, space₁, k₁, again₁, stamp₁, trigger₁, rstamps₁⟩ := stepRule_turn stack
    (current 0 _ start rfl) (by rw [start, UInt32.lt_iff_toNat_lt]; omega) stalls nonempty
  rw [start, Nat.zero_add] at k₁
  rw [start] at rstamps₁
  have older : s₁.rstamps s₁.k < s₁.vstamps (.interval var) := by
    rw [k₁, trigger₁, rstamps₁, Function.update_of_ne (by decide), UInt32.lt_iff_toNat_lt]
    omega
  obtain ⟨s₂, two, space₂, k₂, again₂, stamp₂, trigger₂, rstamps₂⟩ := stepRule_turn stack
    (current 1 _ k₁ rfl) older (by rwa [space₁]) (by rwa [space₁])
  rw [k₁] at k₂ rstamps₂
  have three : refineStep stack (stepRules var size size' positive positive') s₂ =
      .next { s₂ with again := false, k := 0 } := by
    unfold refineStep
    rw [k₂]
    exact if_pos again₂
  have reached : runFor (refineStep stack (stepRules var size size' positive positive')) 3 s =
      .next { s₂ with again := false, k := 0 } := by
    rw [runFor_succ_next one, runFor_succ_next two, runFor_succ_next three, runFor_zero]
  refine ⟨_, reached, space₂.trans space₁, rfl, ?_, ?_, ?_, ?_⟩
  · rw [stamp₂, stamp₁, after]
    omega
  · rw [trigger₂, stamp₁, next]
    omega
  · rw [rstamps₂, rstamps₁, Function.update_of_ne (by decide), Function.update_self]
    omega
  · rw [rstamps₂, Function.update_self, stamp₁]
    omega

theorem stalledAt_run {params : SndPcmHwParams} (same : params.space = space)
    (requested : params.requests (.interval var) = true) (m : Nat) (room : 2 * m + 2 < 2 ^ 32) :
    ∃ s, refineLoop stack (stepRules var size size' positive positive') (3 * m) params = .next s ∧
      StalledAt var space m s := by
  induction m with
  | zero =>
    refine ⟨refineStart params, rfl, same, rfl, rfl, ?_, Nat.le_refl 0, Nat.zero_le _⟩
    simp [refineStart, requested]
  | succ m ih =>
    obtain ⟨s, before, stalled⟩ := ih (by omega)
    obtain ⟨s', pass, later⟩ := stalledAt_pass stack stalls stalls' nonempty stalled (by omega)
    exact ⟨s', by rw [Nat.mul_succ, refineLoop, runFor_add_next before, pass], later⟩

end StepPair

def openPeriodSize : SndInterval := ⟨0, 8, false, true, false, false⟩

def openParams : SndPcmHwParams := { stereoParams with space := initSpace.setInterval .periodSize openPeriodSize }

def fourRules : List SndPcmHwRule := stepRules .periodSize 4 4 (by decide) (by decide)

theorem fourRules_stall (stack : HwSpace → SndInterval) (m : Nat) (room : 2 * m + 2 < 2 ^ 32) :
    ∃ s, refineLoop stack fourRules (3 * m) openParams = .next s ∧ StalledAt .periodSize openParams.space m s :=
  stalledAt_run stack (by decide) (by decide) (by decide) rfl (by decide) m room

theorem not_shrinksAt_self (v : HwParam) (s : HwSpace) : ¬ s.ShrinksAt v s := fun shrinks =>
  absurd shrinks.rank_lt (Nat.lt_irrefl _)

/-- Two rules that want a multiple of four frames report a change in every pass until the stamps
    wrap around, while the space stays as it was. -/
theorem ruleLoop_stalls :
    (∀ m, 2 * m + 2 < 2 ^ 32 → ∃ s, refineLoop (fun _ => sndIntervalAny) fourRules (3 * m) openParams = .next s ∧
      s.params.space = openParams.space ∧
      (s.call (fun _ => sndIntervalAny) (stepRule .periodSize 4 (by decide))).1 = 1) ∧
    ¬ RuleLoopProgresses (fun _ => sndIntervalAny) fourRules openParams := by
  have call (s : RefineState) (same : s.params.space = openParams.space) :
      s.call (fun _ => sndIntervalAny) (stepRule .periodSize 4 (by decide)) = (1, s.params.space) :=
    stepRule_call (by rw [same]; decide) (by rw [same]; decide)
  refine ⟨fun m room => ?_, fun progresses => ?_⟩
  · obtain ⟨s, reached, stalled⟩ := fourRules_stall _ m room
    exact ⟨s, reached, stalled.kept, by rw [call s stalled.kept]⟩
  · have first := call (refineStart openParams) rfl
    have shrinks := progresses.shrinks 0 (refineStart openParams) _ rfl rfl (by decide) (by rw [first]; decide)
    rw [first] at shrinks
    exact not_shrinksAt_self _ _ shrinks

end AlsaDriver.Pcm
