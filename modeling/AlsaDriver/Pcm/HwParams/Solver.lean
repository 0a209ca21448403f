import Mathlib.Tactic.NormNum
import AlsaDriver.Pcm.HwParams.Feasible

namespace AlsaDriver.Pcm

open Machine

section Prelude

variable {constrs : SndPcmHwConstraints} {p : HwPoint} (box : p.In constrs.space)
include box

theorem refineMasks_keeps (ks : List MaskParam) (params : SndPcmHwParams) (inside : p.In params.space) :
    (refineMasks constrs ks params).1 = 0 ∧ p.In (refineMasks constrs ks params).2.space := by
  induction ks generalizing params with
  | nil => exact ⟨rfl, inside⟩
  | cons k rest ih =>
    unfold refineMasks
    rw [if_neg (by simp [sndMaskEmpty_of_test (inside.masks k)])]
    split
    · exact ih params inside
    · obtain ⟨success, member⟩ := sndMaskRefine_test (inside.masks k) (box.masks k)
      dsimp only
      rw [if_neg (not_lt.mpr success)]
      refine ih _ ?_
      split
      · exact inside.setMask member
      · exact inside.setMask member

theorem refineIntervals_keeps (ks : List IntervalParam) (params : SndPcmHwParams) (inside : p.In params.space) :
    (refineIntervals constrs ks params).1 = 0 ∧ p.In (refineIntervals constrs ks params).2.space := by
  induction ks generalizing params with
  | nil => exact ⟨rfl, inside⟩
  | cons k rest ih =>
    unfold refineIntervals
    rw [if_neg (by simp [sndIntervalEmpty, (inside.intervals k).nonempty])]
    split
    · exact ih params inside
    · obtain ⟨success, contains⟩ := sndIntervalRefine_contains (inside.intervals k) (box.intervals k).toCovers
      dsimp only
      rw [if_neg (not_lt.mpr success)]
      refine ih _ ?_
      split
      · exact inside.setInterval contains
      · exact inside.setInterval contains

end Prelude

theorem refineReset_space (params : SndPcmHwParams) : (refineReset params).space = params.space := by
  unfold refineReset
  dsimp only
  split <;> split <;> rfl

theorem refineFixed_space (stream : RefineStream) (params : SndPcmHwParams) :
    (refineFixed stream params).space = params.space := by
  unfold refineFixed
  dsimp only
  split <;> split <;> split <;> rfl

theorem refineFinish_result (stream : RefineStream) (params : SndPcmHwParams) :
    (refineFinish stream params).2.space = params.space ∧ ((refineFinish stream params).1 = 0 ∨
      (refineFinish stream params).1 = (stream.fifoSize (refineFixed stream params)).1) := by
  unfold refineFinish
  dsimp only
  split
  · split
    · exact ⟨refineFixed_space stream params, Or.inr rfl⟩
    · exact ⟨refineFixed_space stream params, Or.inl rfl⟩
  · exact ⟨refineFixed_space stream params, Or.inl rfl⟩

theorem initRules_func {r : SndPcmHwRule} {k : Nat} (current : sndPcmHwConstraintsInit.rules[k]? = some r) :
    r.func ∈ initRules := by
  have member := List.mem_of_getElem? current
  rw [sndPcmHwConstraintsInit_rules, List.mem_map] at member
  obtain ⟨func, listed, rfl⟩ := member
  exact listed

section Loop

variable {p : HwPoint} (feasible : p.Feasible) (stack : HwSpace → SndInterval)
include feasible

theorem refineStep_keeps (s s' : RefineState) (inside : p.In s.params.space)
    (move : refineStep stack sndPcmHwConstraintsInit.rules s = .next s') : p.In s'.params.space := by
  rcases refineStep_next move with ⟨-, -, rfl⟩ | ⟨r, -, -, rfl⟩ | ⟨r, current, -, -, space, -, -⟩
  · exact inside
  · exact inside
  · rw [space]
    exact (initRules_keep feasible (initRules_func current) _ _ inside).inside

theorem refineStep_halt_keeps (s : RefineState) (result : Int × SndPcmHwParams) (inside : p.In s.params.space)
    (stop : refineStep stack sndPcmHwConstraintsInit.rules s = .halt result) :
    result.1 = 0 ∧ p.In result.2.space := by
  rcases refineStep_halt stop with rfl | ⟨r, current, -, failure, -, -⟩
  · exact ⟨rfl, inside⟩
  · have success := (initRules_keep feasible (initRules_func current) (stack s.params.space) _ inside).success
    exact absurd success (not_le.mpr failure)

variable {params : SndPcmHwParams} (inside : p.In params.space)
include inside

theorem refineLoop_keeps (n : Nat) (s : RefineState)
    (reached : refineLoop stack sndPcmHwConstraintsInit.rules n params = .next s) : p.In s.params.space :=
  runFor_next_invariant (fun s : RefineState => p.In s.params.space) inside
    (refineStep_keeps feasible stack) reached

theorem refineLoop_regular (n : Nat) (s : RefineState)
    (reached : refineLoop stack sndPcmHwConstraintsInit.rules n params = .next s) :
    RegularTurn stack sndPcmHwConstraintsInit.rules s := fun _ current _ =>
  (initRules_keep feasible (initRules_func current) _ _
    (refineLoop_keeps feasible stack inside n s reached)).regular

theorem refineLoop_result : ∃ n final, refineLoop stack sndPcmHwConstraintsInit.rules n params = .halt (0, final) ∧
    p.In final.space := by
  obtain ⟨⟨err, final⟩, stop⟩ := refineLoop_halts (refineLoop_regular feasible stack inside)
  have ends := runFor_invariant (fun s : RefineState => p.In s.params.space)
    (fun result : Int × SndPcmHwParams => result.1 = 0 ∧ p.In result.2.space) (s := refineStart params) inside (refineStep_keeps feasible stack) (refineStep_halt_keeps feasible stack)
    (turnRank sndPcmHwConstraintsInit.rules (refineStart params) + 1)
  unfold refineLoop at stop
  rw [stop] at ends
  obtain ⟨rfl, kept⟩ := ends
  exact ⟨_, final, stop, kept⟩

end Loop

theorem refineEnter_keeps {constrs : SndPcmHwConstraints} {p : HwPoint} {params : SndPcmHwParams}
    (inside : p.In params.space) (box : p.In constrs.space) :
    (refineEnter constrs params).1 = 0 ∧ p.In (refineEnter constrs params).2.space := by
  obtain ⟨success, masked⟩ := refineMasks_keeps box maskParams (refineReset params)
    (by rwa [refineReset_space])
  unfold refineEnter
  dsimp only
  rw [if_neg (by omega)]
  exact refineIntervals_keeps box intervalParams _ masked

/-- A feasible configuration inside the parameters and the constraint box survives
    `snd_pcm_hw_refine`: it is inside at every turn of the rule loop, the loop ends without an
    error, and it is inside the parameters the function returns. -/
theorem sndPcmHwRefine_keeps_feasible (stack : HwSpace → SndInterval) (stream : RefineStream)
    {params : SndPcmHwParams} {p : HwPoint} (generic : stream.constrs.rules = sndPcmHwConstraintsInit.rules)
    (feasible : p.Feasible) (inside : p.In params.space) (box : p.In stream.constrs.space) :
    (refineEnter stream.constrs params).1 = 0 ∧
    (∀ n s, refineLoop stack stream.constrs.rules n (refineEnter stream.constrs params).2 = .next s →
      p.In s.params.space) ∧
    ∃ n final, refineLoop stack stream.constrs.rules n (refineEnter stream.constrs params).2 = .halt (0, final) ∧
      p.In final.space ∧
      ∀ fuel, n ≤ fuel → ∃ err params', sndPcmHwRefine stack fuel stream params = some (err, params') ∧
        p.In params'.space ∧ (err = 0 ∨ ∃ query, err = (stream.fifoSize query).1) := by
  obtain ⟨success, entered⟩ := refineEnter_keeps inside box
  rw [generic]
  refine ⟨success, refineLoop_keeps feasible stack entered, ?_⟩
  obtain ⟨n, final, stop, kept⟩ := refineLoop_result feasible stack entered
  refine ⟨n, final, stop, kept, fun fuel more => ?_⟩
  have result : sndPcmHwRefine stack fuel stream params = some (refineFinish stream final) := by
    unfold sndPcmHwRefine
    rw [generic]
    simp only [success, lt_irrefl, if_false, runFor_halt_mono stop more]
  obtain ⟨space, code⟩ := refineFinish_result stream final
  cases finished : refineFinish stream final with
  | mk err params' =>
    rw [finished] at space code result
    rw [← space] at kept
    refine ⟨err, params', result, kept, ?_⟩
    rcases code with done | failed
    · exact Or.inl done
    · exact Or.inr ⟨_, failed⟩

def stereoPoint : HwPoint where
  choice
    | .access => 3
    | .format => 2
    | .subformat => 0
  value
    | .sampleBits => 16
    | .frameBits => 32
    | .channels => 2
    | .rate => 48000
    | .periodTime => 64000 / 3
    | .periodSize => 1024
    | .periodBytes => 4096
    | .periods => 4
    | .bufferTime => 256000 / 3
    | .bufferSize => 4096
    | .bufferBytes => 16384
    | .tickTime => 0

def stereoStream : RefineStream where
  constrs := sndPcmHwConstraintsInit
  info := 0
  fifoSize := fun _ => (0, 0)

def stereoParams : SndPcmHwParams where
  flags := 0
  space := initSpace.setInterval .rate ⟨44100, 48000, true, false, false, false⟩
  rmask := UINT_MAX
  cmask := 0
  info := 0
  msbits := 0
  rateNum := 0
  rateDen := 0
  fifoSize := 0

theorem stereoPoint_feasible : stereoPoint.Feasible := by
  refine ⟨by decide, ?_, ?_, ?_, ?_, ?_, ?_, ?_, fun k quantity => ?_⟩
  all_goals try simp only [stereoPoint]
  · exact_mod_cast (by decide : (16 : ℤ) = sndPcmFormatPhysicalWidth 2)
  all_goals try norm_num
  cases k
  all_goals first
    | exact absurd rfl quantity
    | exact ⟨by norm_num, by rw [UINT_MAX_toNat]; norm_num⟩

theorem sndIntervalAny_contains {x : ℚ} (low : 0 ≤ x) (high : x ≤ UINT_MAX.toNat) :
    sndIntervalAny.Contains x :=
  ⟨⟨⟨low, fun isOpen => nomatch isOpen⟩, ⟨high, fun isOpen => nomatch isOpen⟩, fun integer => nomatch integer⟩, rfl⟩

theorem in_initSpace {p : HwPoint} (choices : ∀ k, p.choice k < 64) (low : ∀ k, 0 ≤ p.value k)
    (high : ∀ k, p.value k ≤ UINT_MAX.toNat)
    (integral : ∀ k ∈ [IntervalParam.channels, .bufferSize, .bufferBytes, .sampleBits, .frameBits],
      ∃ n : ℤ, p.value k = n) : p.In initSpace := by
  refine ⟨fun k => ?_, fun k => ?_⟩
  · simp only [initSpace, sndMaskTest, sndMaskAny, BitVec.getLsbD_allOnes, choices k, decide_true]
  · have any := sndIntervalAny_contains (low k) (high k)
    unfold initSpace
    dsimp only
    split
    · rename_i listed
      exact ⟨⟨any.low, any.high, fun _ => integral k listed⟩, rfl⟩
    · exact any

theorem stereoPoint_in_initSpace : stereoPoint.In initSpace := by
  refine in_initSpace (fun k => by cases k <;> decide) (fun k => ?_) (fun k => ?_) (fun k listed => ?_)
  · cases k <;> norm_num [stereoPoint]
  · rw [UINT_MAX_toNat]
    cases k <;> norm_num [stereoPoint]
  · simp only [List.mem_cons, List.not_mem_nil, or_false] at listed
    rcases listed with rfl | rfl | rfl | rfl | rfl
    exacts [⟨2, rfl⟩, ⟨4096, rfl⟩, ⟨16384, rfl⟩, ⟨16, rfl⟩, ⟨32, rfl⟩]

theorem stereoPoint_in_stereoParams : stereoPoint.In stereoParams.space := by
  have above : ((44100 : UInt32).toNat : ℚ) < 48000 := by exact_mod_cast (by decide : (44100 : UInt32).toNat < 48000)
  have top : (48000 : ℚ) ≤ (48000 : UInt32).toNat := by exact_mod_cast (by decide : 48000 ≤ (48000 : UInt32).toNat)
  exact stereoPoint_in_initSpace.setInterval ⟨⟨⟨above.le, fun _ => above⟩, ⟨top, fun isOpen => nomatch isOpen⟩,
    fun integer => nomatch integer⟩, rfl⟩

theorem sndPcmHwRefine_keeps_stereo : ∃ fuel err params',
    sndPcmHwRefine (fun _ => sndIntervalAny) fuel stereoStream stereoParams = some (err, params') ∧
      stereoPoint.In params'.space ∧ err = 0 := by
  obtain ⟨-, -, n, final, -, -, returns⟩ := sndPcmHwRefine_keeps_feasible
    (fun _ => sndIntervalAny) stereoStream rfl stereoPoint_feasible stereoPoint_in_stereoParams stereoPoint_in_initSpace
  obtain ⟨err, params', result, kept, done | ⟨query, failed⟩⟩ := returns n le_rfl
  · exact ⟨n, err, params', result, kept, done⟩
  · exact ⟨n, err, params', result, kept, failed⟩

end AlsaDriver.Pcm
