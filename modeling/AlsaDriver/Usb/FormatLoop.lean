import AlsaDriver.Usb.FormatRules

namespace AlsaDriver.Usb

open Pcm OpenBounds Machine RuleLoop

def window (i : SndInterval) : UInt32 × UInt32 × Bool × Bool := (i.min, i.max, i.openmin, i.openmax)

/-- An integer interval has no open end, as `snd_interval_refine` leaves it. -/
def Closed (i : SndInterval) : Prop := i.integer = true → i.openmin = false ∧ i.openmax = false

theorem normalise_closed (i : SndInterval) : Closed (sndIntervalNormalise i) := by
  intro integer
  unfold sndIntervalNormalise at integer ⊢
  split
  · unfold sndIntervalCloseMax sndIntervalCloseMin
    split <;> split <;> simp_all
  split
  · rename_i single
    simp only [Bool.and_eq_true, Bool.not_eq_true'] at single
    exact ⟨single.1.1, single.1.2⟩
  · rename_i fraction _
    rw [if_neg fraction] at integer
    split at integer
    · simp_all
    · exact absurd integer fraction

theorem normalise_window {i : SndInterval} (closed : Closed i) : window (sndIntervalNormalise i) = window i := by
  unfold sndIntervalNormalise
  split
  · rename_i integer
    obtain ⟨low, high⟩ := closed integer
    unfold sndIntervalCloseMax sndIntervalCloseMin
    simp [low, high]
  · split <;> rfl

theorem meet_still {i v : SndInterval} (still : (sndIntervalMeet i v).1 = false) : (sndIntervalMeet i v).2 = i := by
  have low : (sndIntervalRefineMin i v).1 = false → (sndIntervalRefineMin i v).2 = i := by
    unfold sndIntervalRefineMin
    split
    · exact fun changed => Bool.noConfusion changed
    split
    · exact fun changed => Bool.noConfusion changed
    · exact fun _ => rfl
  have high : (sndIntervalRefineMax i v).1 = false → (sndIntervalRefineMax i v).2 = i := by
    unfold sndIntervalRefineMax
    split
    · exact fun changed => Bool.noConfusion changed
    split
    · exact fun changed => Bool.noConfusion changed
    · exact fun _ => rfl
  have integer : (sndIntervalRefineInteger i v).1 = false → (sndIntervalRefineInteger i v).2 = i := by
    unfold sndIntervalRefineInteger
    split
    · exact fun changed => Bool.noConfusion changed
    · exact fun _ => rfl
  unfold sndIntervalMeet at still ⊢
  dsimp only at still ⊢
  simp only [Bool.or_eq_false_iff] at still
  obtain ⟨⟨first, second⟩, third⟩ := still
  rw [low first] at second third ⊢
  rw [high second] at third ⊢
  exact integer third

theorem refine_success {i v : SndInterval} (success : 0 ≤ (sndIntervalRefine i v).1) :
    (sndIntervalRefine i v).2 = sndIntervalNormalise (sndIntervalMeet i v).2 ∧
      sndIntervalCheckempty (sndIntervalNormalise (sndIntervalMeet i v).2) = false ∧
      ((sndIntervalRefine i v).1 = 0 → (sndIntervalMeet i v).1 = false) := by
  unfold sndIntervalRefine at success ⊢
  split at success
  · exact absurd success EINVAL_failure
  · rename_i some_
    rw [if_neg some_]
    dsimp only at success ⊢
    split at success
    · exact absurd success EINVAL_failure
    · rename_i nonempty
      rw [if_neg nonempty]
      refine ⟨rfl, by simpa using nonempty, fun zero => ?_⟩
      dsimp only at zero
      split at zero
      · cases zero
      · rename_i same
        simpa using same

theorem refine_closed {i v : SndInterval} (success : 0 ≤ (sndIntervalRefine i v).1) : Closed (sndIntervalRefine i v).2 := by
  rw [(refine_success success).1]
  exact normalise_closed _

theorem refine_still {i v : SndInterval} (closed : Closed i) (still : (sndIntervalRefine i v).1 = 0) :
    window (sndIntervalRefine i v).2 = window i := by
  obtain ⟨result, -, meets⟩ := refine_success still.ge
  rw [result, meet_still (meets still), normalise_window closed]

theorem refineInteger_integer (i v : SndInterval) :
    (sndIntervalRefineInteger i v).2.integer = (i.integer || v.integer) := by
  unfold sndIntervalRefineInteger
  cases left : i.integer <;> cases right : v.integer <;> simp [left]

theorem meet_integer (i v : SndInterval) : (sndIntervalMeet i v).2.integer = (i.integer || v.integer) := by
  have low (i : SndInterval) : (sndIntervalRefineMin i v).2.integer = i.integer := by
    unfold sndIntervalRefineMin
    split
    · rfl
    · split <;> rfl
  have high (i : SndInterval) : (sndIntervalRefineMax i v).2.integer = i.integer := by
    unfold sndIntervalRefineMax
    split
    · rfl
    · split <;> rfl
  calc (sndIntervalMeet i v).2.integer = ((sndIntervalRefineMax (sndIntervalRefineMin i v).2 v).2.integer || v.integer) :=
        refineInteger_integer _ v
    _ = (i.integer || v.integer) := by rw [high, low]

theorem normalise_integer {i : SndInterval} (integer : i.integer = true) : (sndIntervalNormalise i).integer = true := by
  unfold sndIntervalNormalise sndIntervalCloseMax sndIntervalCloseMin
  rw [if_pos integer]
  split <;> split <;> exact integer

theorem refine_integer {i v : SndInterval} (success : 0 ≤ (sndIntervalRefine i v).1)
    (integer : i.integer = true ∨ v.integer = true) : (sndIntervalRefine i v).2.integer = true := by
  rw [(refine_success success).1]
  refine normalise_integer ?_
  rw [meet_integer]
  exact (Bool.or_eq_true _ _).mpr integer

structure Normal (s : HwSpace) : Prop where
  integer : (s.intervals .channels).integer = true
  channels : Closed (s.intervals .channels)
  rate : Closed (s.intervals .rate)

/-- The variables that `find_format` is asked for are as before, as far as the rules see. -/
structure Same (s' s : HwSpace) : Prop where
  format : s'.masks .format = s.masks .format
  channels : window (s'.intervals .channels) = window (s.intervals .channels)
  rate : window (s'.intervals .rate) = window (s.intervals .rate)

structure Tame (r : Rule HwParam HwSpace) : Prop where
  normal : ∀ s, Normal s → 0 ≤ (r.call s).1 → Normal (r.call s).2
  still : ∀ s, Normal s → (r.call s).1 = 0 → Same (r.call s).2 s
  masks : ∀ s k, r.var ≠ .mask k → (r.call s).2.masks k = s.masks k
  intervals : ∀ s k, r.var ≠ .interval k → (r.call s).2.intervals k = s.intervals k

theorem HwSpace.setInterval_of_ne {s : HwSpace} {k j : IntervalParam} {i : SndInterval} (other : j ≠ k) :
    (s.setInterval k i).intervals j = s.intervals j := Function.update_of_ne other ..

theorem HwSpace.setInterval_self (s : HwSpace) (k : IntervalParam) (i : SndInterval) : (s.setInterval k i).intervals k = i :=
  Function.update_self ..

theorem HwSpace.setMask_self (s : HwSpace) (k : MaskParam) (m : SndMask) : (s.setMask k m).masks k = m :=
  Function.update_self ..

theorem tame_interval {var : IntervalParam} {deps : List HwParam} {call : HwSpace → Int × HwSpace}
    (writes : ∀ s, ∃ i, (call s).2 = s.setInterval var i)
    (integer : ∀ s, 0 ≤ (call s).1 → (s.intervals var).integer = true → ((call s).2.intervals var).integer = true)
    (closed : ∀ s, 0 ≤ (call s).1 → Closed (s.intervals var) → Closed ((call s).2.intervals var))
    (still : ∀ s, Closed (s.intervals var) → (call s).1 = 0 → window ((call s).2.intervals var) = window (s.intervals var)) :
    Tame ⟨.interval var, deps, call⟩ := by
  have others (s : HwSpace) (k : IntervalParam) (other : k ≠ var) : (call s).2.intervals k = s.intervals k := by
    obtain ⟨i, written⟩ := writes s
    rw [written]
    exact Function.update_of_ne other ..
  have masks (s : HwSpace) : (call s).2.masks = s.masks := by
    obtain ⟨i, written⟩ := writes s
    rw [written]
    rfl
  refine ⟨fun s normal success => ⟨?_, ?_, ?_⟩, fun s normal zero => ⟨congrFun (masks s) _, ?_, ?_⟩,
    fun s k _ => congrFun (masks s) k, fun s k other => others s k fun same => other (congrArg HwParam.interval same.symm)⟩
  · by_cases same : IntervalParam.channels = var
    · subst same
      exact integer s success normal.integer
    · exact (congrArg SndInterval.integer (others s _ same)).trans normal.integer
  · by_cases same : IntervalParam.channels = var
    · subst same
      exact closed s success normal.channels
    · exact (congrArg Closed (others s _ same)).mpr normal.channels
  · by_cases same : IntervalParam.rate = var
    · subst same
      exact closed s success normal.rate
    · exact (congrArg Closed (others s _ same)).mpr normal.rate
  · by_cases same : IntervalParam.channels = var
    · subst same
      exact still s normal.channels zero
    · exact congrArg window (others s _ same)
  · by_cases same : IntervalParam.rate = var
    · subst same
      exact still s normal.rate zero
    · exact congrArg window (others s _ same)

theorem clipMin_kept (i : SndInterval) (rmin : UInt32) : (sndIntervalClipMin i rmin).2.integer = i.integer ∧
    (Closed i → Closed (sndIntervalClipMin i rmin).2) ∧
      ((sndIntervalClipMin i rmin).1 = false → (sndIntervalClipMin i rmin).2 = i) := by
  unfold sndIntervalClipMin
  split
  · exact ⟨rfl, fun closed integer => ⟨rfl, (closed integer).2⟩, fun changed => Bool.noConfusion changed⟩
  · exact ⟨rfl, id, fun _ => rfl⟩

theorem clipMax_kept (i : SndInterval) (rmax : UInt32) : (sndIntervalClipMax i rmax).2.integer = i.integer ∧
    (Closed i → Closed (sndIntervalClipMax i rmax).2) ∧
      ((sndIntervalClipMax i rmax).1 = false → (sndIntervalClipMax i rmax).2 = i) := by
  unfold sndIntervalClipMax
  split
  · exact ⟨rfl, fun closed integer => ⟨(closed integer).1, rfl⟩, fun changed => Bool.noConfusion changed⟩
  · exact ⟨rfl, id, fun _ => rfl⟩

variable {subs : SndUsbSubstream}

theorem hwRuleHull_success {var : IntervalParam} {low high : Audioformat → UInt32} {s : HwSpace}
    (success : 0 ≤ (subs.hwRuleHull var low high s).1) : ∃ rmin rmax,
      (subs.validFormats s).foldl (widen low high) none = some (rmin, rmax) ∧
      (subs.hwRuleHull var low high s).2 =
        s.setInterval var (sndIntervalClipMax (sndIntervalClipMin (s.intervals var) rmin).2 rmax).2 ∧
      ((subs.hwRuleHull var low high s).1 = 0 → (sndIntervalClipMin (s.intervals var) rmin).1 = false ∧
        (sndIntervalClipMax (sndIntervalClipMin (s.intervals var) rmin).2 rmax).1 = false) := by
  unfold SndUsbSubstream.hwRuleHull at success ⊢
  dsimp only at success ⊢
  cases hull : (subs.validFormats s).foldl (widen low high) none with
  | none =>
    rw [hull] at success
    exact absurd success EINVAL_failure
  | some ends =>
    rw [hull] at success
    obtain ⟨rmin, rmax⟩ := ends
    dsimp only at success ⊢
    split at success
    · exact absurd success EINVAL_failure
    · rename_i nonempty
      rw [if_neg nonempty]
      refine ⟨rmin, rmax, rfl, rfl, fun zero => ?_⟩
      dsimp only at zero
      split at zero
      · cases zero
      · rename_i same
        simpa using same

theorem hwRuleHull_writes (var : IntervalParam) (low high : Audioformat → UInt32) (s : HwSpace) :
    ∃ i, (subs.hwRuleHull var low high s).2 = s.setInterval var i := by
  unfold SndUsbSubstream.hwRuleHull
  dsimp only
  split
  · exact ⟨_, rfl⟩
  · split <;> exact ⟨_, rfl⟩

theorem hwRuleHull_tame (var : IntervalParam) (low high : Audioformat → UInt32) (deps : List HwParam) :
    Tame ⟨.interval var, deps, subs.hwRuleHull var low high⟩ := by
  refine tame_interval (hwRuleHull_writes var low high) (fun s success integer => ?_) (fun s success closed => ?_)
    fun s _ zero => ?_
  · obtain ⟨rmin, rmax, -, result, -⟩ := hwRuleHull_success success
    rw [result, HwSpace.setInterval_self, (clipMax_kept _ _).1, (clipMin_kept _ _).1]
    exact integer
  · obtain ⟨rmin, rmax, -, result, -⟩ := hwRuleHull_success success
    rw [result, HwSpace.setInterval_self]
    exact (clipMax_kept _ _).2.1 ((clipMin_kept _ _).2.1 closed)
  · obtain ⟨rmin, rmax, -, result, same⟩ := hwRuleHull_success zero.ge
    obtain ⟨lower, upper⟩ := same zero
    rw [result, HwSpace.setInterval_self, (clipMax_kept _ _).2.2 upper, (clipMin_kept _ _).2.2 lower]

theorem hwRulePeriodTime_success {s : HwSpace} (success : 0 ≤ (subs.hwRulePeriodTime s).1) : ∃ pmin,
    (subs.hwRulePeriodTime s).2 = s.setInterval .periodTime (sndIntervalClipMin (s.intervals .periodTime) pmin).2 ∧
      ((subs.hwRulePeriodTime s).1 = 0 → (sndIntervalClipMin (s.intervals .periodTime) pmin).1 = false) := by
  unfold SndUsbSubstream.hwRulePeriodTime at success ⊢
  dsimp only at success ⊢
  split at success
  · exact absurd success EINVAL_failure
  rename_i known
  rw [if_neg known]
  split at success
  · exact absurd success EINVAL_failure
  rename_i nonempty
  rw [if_neg nonempty]
  refine ⟨_, rfl, fun zero => ?_⟩
  dsimp only at zero
  split at zero
  · cases zero
  · rename_i same
    simpa using same

theorem hwRulePeriodTime_writes (s : HwSpace) : ∃ i, (subs.hwRulePeriodTime s).2 = s.setInterval .periodTime i := by
  unfold SndUsbSubstream.hwRulePeriodTime
  dsimp only
  split
  · exact ⟨_, rfl⟩
  · split <;> exact ⟨_, rfl⟩

theorem hwRulePeriodTime_tame (deps : List HwParam) : Tame ⟨.interval .periodTime, deps, subs.hwRulePeriodTime⟩ := by
  refine tame_interval hwRulePeriodTime_writes (fun s success integer => ?_) (fun s success closed => ?_) fun s _ zero => ?_
  · obtain ⟨pmin, result, -⟩ := hwRulePeriodTime_success success
    rw [result, HwSpace.setInterval_self, (clipMin_kept _ _).1]
    exact integer
  · obtain ⟨pmin, result, -⟩ := hwRulePeriodTime_success success
    rw [result, HwSpace.setInterval_self]
    exact (clipMin_kept _ _).2.1 closed
  · obtain ⟨pmin, result, same⟩ := hwRulePeriodTime_success zero.ge
    rw [result, HwSpace.setInterval_self, (clipMin_kept _ _).2.2 (same zero)]

theorem hwRuleFormat_tame (deps : List HwParam) : Tame ⟨.mask .format, deps, subs.hwRuleFormat⟩ := by
  have intervals (s : HwSpace) : (subs.hwRuleFormat s).2.intervals = s.intervals := by
    unfold SndUsbSubstream.hwRuleFormat
    dsimp only
    split <;> rfl
  refine ⟨fun s normal _ => ?_, fun s _ zero => ?_, fun s k other => ?_, fun s k _ => congrFun (intervals s) k⟩
  · obtain ⟨integer, channels, rate⟩ := normal
    rw [← intervals s] at integer channels rate
    exact ⟨integer, channels, rate⟩
  · refine ⟨?_, congrArg window (congrFun (intervals s) _), congrArg window (congrFun (intervals s) _)⟩
    unfold SndUsbSubstream.hwRuleFormat at zero ⊢
    dsimp only at zero ⊢
    split at zero
    · exact absurd zero.ge EINVAL_failure
    · rename_i some_
      rw [if_neg some_]
      dsimp only at zero ⊢
      split at zero
      · rename_i same
        have kept := congrArg SndMask.mk (beq_iff_eq.mp same)
        rw [HwSpace.setMask_self]
        exact kept.symm
      · cases zero
  · have only : k ≠ .format := fun same => other (congrArg HwParam.mask same.symm)
    show (subs.hwRuleFormat s).2.masks k = s.masks k
    unfold SndUsbSubstream.hwRuleFormat
    dsimp only
    split <;> exact Function.update_of_ne only ..

theorem sndIntervalList_success {i : SndInterval} {list : List UInt32} {mask : UInt32}
    (success : 0 ≤ (sndIntervalList i list mask).1) : sndIntervalList i list mask =
      sndIntervalRefine i (listRange i mask 0 list { sndIntervalAny with min := UINT_MAX, max := 0 }) := by
  unfold sndIntervalList at success ⊢
  split at success
  · exact absurd success EINVAL_failure
  · rename_i some_
    rw [if_neg some_]

theorem list_tame (list : List UInt32) (mask : UInt32) (deps : List HwParam) :
    Tame ⟨.interval .rate, deps, fun s => sndPcmHwRuleList s .rate list mask⟩ := by
  refine tame_interval (fun s => ⟨_, rfl⟩) (fun s success integer => ?_) (fun s success _ => ?_) fun s closed zero => ?_
  · have result := sndIntervalList_success success
    show ((s.setInterval .rate (sndIntervalList (s.intervals .rate) list mask).2).intervals .rate).integer = true
    rw [HwSpace.setInterval_self, result]
    exact refine_integer (result ▸ success) (Or.inl integer)
  · have result := sndIntervalList_success success
    show Closed ((s.setInterval .rate (sndIntervalList (s.intervals .rate) list mask).2).intervals .rate)
    rw [HwSpace.setInterval_self, result]
    exact refine_closed (result ▸ success)
  · have result := sndIntervalList_success zero.ge
    show window ((s.setInterval .rate (sndIntervalList (s.intervals .rate) list mask).2).intervals .rate) = _
    rw [HwSpace.setInterval_self, result]
    exact refine_still closed (result ▸ zero)

/-- The rules `snd_pcm_hw_refine` goes through. -/
abbrev SndUsbSubstream.hwRules (subs : SndUsbSubstream) : List (Rule HwParam HwSpace) := subs.setupRules ++ subs.knownRules

theorem hwRules_tame : ∀ r ∈ subs.hwRules, Tame r := by
  intro r listed
  obtain listed | listed := List.mem_append.mp listed
  · unfold SndUsbSubstream.setupRules at listed
    obtain listed | listed := List.mem_append.mp listed
    · obtain listed | listed := List.mem_append.mp listed
      · simp only [SndUsbSubstream.formatRules, List.mem_cons, List.not_mem_nil, or_false] at listed
        rcases listed with rfl | rfl | rfl
        · exact hwRuleHull_tame ..
        · exact hwRuleHull_tame ..
        · exact hwRuleFormat_tame _
      · unfold SndUsbSubstream.periodTimeRules at listed
        split at listed
        · cases listed
        · obtain rfl := List.mem_singleton.mp listed
          exact hwRulePeriodTime_tame _
    · unfold SndUsbSubstream.knotRules at listed
      split at listed
      · cases listed
      · obtain rfl := List.mem_singleton.mp listed
        exact list_tame ..
  · unfold SndUsbSubstream.knownRules at listed
    split at listed
    · obtain rfl := List.mem_singleton.mp listed
      exact list_tame ..
    · cases listed

def SomeMeets (subs : SndUsbSubstream) (s : HwSpace) : Prop := ∃ fp ∈ subs.fmtList, Meets s fp

theorem Meets.congr {s s' : HwSpace} {fp : Audioformat} (meets : Meets s fp) (same : Same s' s) : Meets s' fp := by
  obtain ⟨format, channels, rate⟩ := same
  simp only [window, Prod.mk.injEq] at channels rate
  obtain ⟨channelsMin, channelsMax, -, -⟩ := channels
  obtain ⟨rateMin, rateMax, openmin, openmax⟩ := rate
  refine ⟨?_, ?_, ?_, ?_⟩
  · rw [format]
    exact meets.formats
  · rw [channelsMin, channelsMax]
    exact meets.channels
  · rw [rateMax, openmax]
    exact meets.low
  · rw [rateMin, openmin]
    exact meets.high

theorem Tame.same {r : Rule HwParam HwSpace} (tame : Tame r) {s : HwSpace} (format : r.var ≠ .mask .format)
    (channels : r.var ≠ .interval .channels) (rate : r.var ≠ .interval .rate) : Same (r.call s).2 s :=
  ⟨tame.masks s _ format, congrArg window (tame.intervals s _ channels), congrArg window (tame.intervals s _ rate)⟩

theorem clipMin_ends (i : SndInterval) (rmin : UInt32) :
    (sndIntervalClipMin i rmin).2.max = i.max ∧ ∀ x, i.min ≤ x → rmin ≤ x → (sndIntervalClipMin i rmin).2.min ≤ x := by
  unfold sndIntervalClipMin
  split
  · exact ⟨rfl, fun x _ bound => bound⟩
  · exact ⟨rfl, fun x bound _ => bound⟩

theorem clipMax_ends (i : SndInterval) (rmax : UInt32) :
    (sndIntervalClipMax i rmax).2.min = i.min ∧ ∀ x, x ≤ i.max → x ≤ rmax → x ≤ (sndIntervalClipMax i rmax).2.max := by
  unfold sndIntervalClipMax
  split
  · exact ⟨rfl, fun x _ bound => bound⟩
  · exact ⟨rfl, fun x bound _ => bound⟩

theorem hwRuleChannels_meets {s : HwSpace} (success : 0 ≤ (subs.hwRuleChannels s).1) :
    SomeMeets subs (subs.hwRuleChannels s).2 := by
  obtain ⟨rmin, rmax, hull, result, -⟩ := hwRuleHull_success success
  have some_ : subs.validFormats s ≠ [] := by
    intro nil
    rw [nil] at hull
    cases hull
  obtain ⟨fp, valid⟩ := List.exists_mem_of_ne_nil _ some_
  obtain ⟨member, checked⟩ := mem_validFormats.mp valid
  obtain ⟨meets, -⟩ := (hwCheckValidFormat_iff fp).mp checked
  obtain ⟨rmin', rmax', hull', all⟩ := foldl_widen Audioformat.channels Audioformat.channels valid
  obtain ⟨rfl, rfl⟩ := Prod.mk.inj (Option.some.inj (hull.symm.trans hull'))
  obtain ⟨least, most⟩ := all fp valid
  have written : (subs.hwRuleChannels s).2 = s.setInterval .channels
      (sndIntervalClipMax (sndIntervalClipMin (s.intervals .channels) rmin).2 rmax).2 := result
  obtain ⟨minMax, low⟩ := clipMin_ends (s.intervals .channels) rmin
  obtain ⟨maxMin, high⟩ := clipMax_ends (sndIntervalClipMin (s.intervals .channels) rmin).2 rmax
  rw [written]
  refine ⟨fp, member, meets.formats, ?_, ?_, ?_⟩
  · rw [HwSpace.setInterval_self, maxMin]
    exact ⟨low _ meets.channels.1 least, high _ (minMax ▸ meets.channels.2) most⟩
  · rw [HwSpace.setInterval_of_ne (by decide)]
    exact meets.low
  · rw [HwSpace.setInterval_of_ne (by decide)]
    exact meets.high

theorem hwRuleFormat_meets {s : HwSpace} (success : 0 ≤ (subs.hwRuleFormat s).1) :
    SomeMeets subs (subs.hwRuleFormat s).2 := by
  have tame : Tame ⟨.mask .format, [], subs.hwRuleFormat⟩ := hwRuleFormat_tame []
  have intervals (k : IntervalParam) : (subs.hwRuleFormat s).2.intervals k = s.intervals k :=
    tame.intervals s k HwParam.noConfusion
  have written : (subs.hwRuleFormat s).2.masks .format = sndMaskIntersect (s.masks .format)
        ⟨(subs.validFormats s).foldl (fun fbits fp => fbits ||| fp.formats) 0⟩ ∧
      sndMaskEmpty ((subs.hwRuleFormat s).2.masks .format) = false := by
    unfold SndUsbSubstream.hwRuleFormat at success ⊢
    dsimp only at success ⊢
    split at success
    · exact absurd success EINVAL_failure
    · rename_i some_
      rw [if_neg some_, HwSpace.setMask_self]
      exact ⟨rfl, Bool.eq_false_iff.mpr some_⟩
  obtain ⟨written, nonempty⟩ := written
  rw [written] at nonempty
  obtain ⟨k, offered, bits⟩ := (sndMaskEmpty_intersect _ _).mp nonempty
  obtain none_ | ⟨fp, valid, format⟩ := (foldl_or_test _ _ _).mp bits
  · simp [sndMaskTest] at none_
  obtain ⟨member, checked⟩ := mem_validFormats.mp valid
  obtain ⟨meets, -⟩ := (hwCheckValidFormat_iff fp).mp checked
  refine ⟨fp, member, ⟨k, format, ?_⟩, ?_, ?_, ?_⟩
  · rw [written]
    simp only [sndMaskTest, sndMaskIntersect, BitVec.getLsbD_and, Bool.and_eq_true] at offered bits ⊢
    exact ⟨offered, bits⟩
  · rw [intervals]
    exact meets.channels
  · rw [intervals]
    exact meets.low
  · rw [intervals]
    exact meets.high

theorem meets_settles : Settles subs.hwRules Normal (SomeMeets subs) fun k => k = 1 ∨ k = 2 := by
  refine ⟨fun k r listed s normal success => ?_, fun k r listed watched s normal success => ?_,
    fun k r listed _ s normal meets success => ?_⟩
  · exact (hwRules_tame r (List.mem_of_getElem? listed)).normal s normal success
  · obtain rfl | rfl := watched
    · obtain rfl := Option.some.inj listed
      exact hwRuleChannels_meets success
    · obtain rfl := Option.some.inj listed
      exact hwRuleFormat_meets success
  · have tame := hwRules_tame r (List.mem_of_getElem? listed)
    obtain ⟨fp, member, meets⟩ := meets
    by_cases zero : (r.call s).1 = 0
    · exact Or.inl ⟨fp, member, meets.congr (tame.still s normal zero)⟩
    by_cases rate : r.var = .interval .rate
    · refine Or.inr ⟨zero, 1, _, Or.inl rfl, rfl, ?_⟩
      rw [rate]
      exact List.mem_cons_of_mem _ (List.mem_cons_self ..)
    by_cases channels : r.var = .interval .channels
    · refine Or.inr ⟨zero, 2, _, Or.inr rfl, rfl, ?_⟩
      rw [channels]
      exact List.mem_cons_of_mem _ (List.mem_cons_self ..)
    by_cases format : r.var = .mask .format
    · refine Or.inr ⟨zero, 1, _, Or.inl rfl, rfl, ?_⟩
      rw [format]
      exact List.mem_cons_self ..
    · exact Or.inl ⟨fp, member, meets.congr (tame.same format channels rate)⟩

theorem meet_plain {i v : SndInterval} (low : v.openmin = false) (high : v.openmax = false) (fraction : v.integer = false)
    (closed : Closed i) : Closed (sndIntervalMeet i v).2 ∧
      (sndIntervalMeet i v).2.min = (if i.min < v.min then v.min else i.min) ∧
      (sndIntervalMeet i v).2.max = (if i.max > v.max then v.max else i.max) := by
  have first : sndIntervalRefineMin i v = sndIntervalClipMin i v.min := by
    unfold sndIntervalRefineMin sndIntervalClipMin
    simp [low]
  have second (i : SndInterval) : sndIntervalRefineMax i v = sndIntervalClipMax i v.max := by
    unfold sndIntervalRefineMax sndIntervalClipMax
    simp [high]
  have third (i : SndInterval) : sndIntervalRefineInteger i v = (false, i) := by
    unfold sndIntervalRefineInteger
    simp [fraction]
  have meet : (sndIntervalMeet i v).2 = (sndIntervalClipMax (sndIntervalClipMin i v.min).2 v.max).2 := by
    unfold sndIntervalMeet
    dsimp only
    rw [third, second, first]
  rw [meet]
  refine ⟨(clipMax_kept _ _).2.1 ((clipMin_kept _ _).2.1 closed), ?_, ?_⟩
  · rw [(clipMax_ends _ _).1]
    unfold sndIntervalClipMin
    split <;> rfl
  · rw [← (clipMin_ends i v.min).1]
    unfold sndIntervalClipMax
    split <;> rfl

theorem sndIntervalList_min {i : SndInterval} {list : List UInt32} {mask : UInt32} (closed : Closed i)
    (success : 0 ≤ (sndIntervalList i list mask).1) : Listed list mask (sndIntervalList i list mask).2.min := by
  have whole := sndIntervalList_success success
  rw [whole] at success ⊢
  have ranges := listRange_ranges i mask list 0 { sndIntervalAny with min := UINT_MAX, max := 0 }
  generalize listRange i mask 0 list _ = range at success ranges ⊢
  have flags := ranges.flags
  obtain ⟨normal, least, most⟩ := meet_plain (v := range) (by rw [flags]; rfl) (by rw [flags]; rfl) (by rw [flags]; rfl) closed
  obtain ⟨result, nonempty, -⟩ := refine_success success
  have ends := normalise_window normal
  simp only [window, Prod.mk.injEq] at ends
  obtain ⟨sameMin, sameMax, -, -⟩ := ends
  -- an entry of the list that is inside
  have chosen {n : Nat} (entry : list[n]? = some range.min) (selected : listSelects mask (0 + n) = true)
      (test : sndIntervalTest i range.min = true) : Listed list mask (sndIntervalRefine i range).2.min := by
    have above : ¬ range.min < i.min := by
      intro below
      simp [sndIntervalTest, below] at test
    have same : (sndIntervalRefine i range).2.min = range.min := by
      rw [result, sameMin, least]
      split
      · rfl
      · rename_i other
        exact UInt32.le_antisymm (UInt32.not_lt.mp above) (UInt32.not_lt.mp other)
    rw [same]
    exact ⟨n, entry, by rwa [Nat.zero_add] at selected⟩
  by_cases some_ : ∃ n x, list[n]? = some x ∧ listSelects mask (0 + n) = true ∧ sndIntervalTest i x = true
  · obtain start | ⟨n, entry, selected, test⟩ := ranges.least
    · obtain ⟨n, x, entry, selected, test⟩ := some_
      have top : x = range.min := by
        have lower := (ranges.covers n x entry selected test).1
        have full : range.min = UINT_MAX := start
        rw [full] at lower ⊢
        rw [UInt32.le_iff_toNat_le, UINT_MAX_toNat] at lower
        rw [← UInt32.toNat_inj, UINT_MAX_toNat]
        have bound := x.toNat_lt
        omega
      rw [top] at entry test
      exact chosen entry selected test
    · exact chosen entry selected test
  · have same := ranges.unused fun n x entry selected test => some_ ⟨n, x, entry, selected, test⟩
    have top : range.min = UINT_MAX := by rw [same]
    have bottom : range.max = 0 := by rw [same]
    have above : (sndIntervalMeet i range).2.min = UINT_MAX := by
      rw [least, top]
      split
      · rfl
      · rename_i other
        rw [UInt32.lt_iff_toNat_lt, UINT_MAX_toNat] at other
        rw [← UInt32.toNat_inj, UINT_MAX_toNat]
        have bound := i.min.toNat_lt
        omega
    have below : (sndIntervalMeet i range).2.max = 0 := by
      rw [most, bottom]
      split
      · rfl
      · rename_i other
        rw [gt_iff_lt, UInt32.lt_iff_toNat_lt] at other
        rw [← UInt32.toNat_inj]
        simp only [UInt32.toNat_zero] at other ⊢
        omega
    unfold sndIntervalCheckempty at nonempty
    rw [sameMin, sameMax, above, below] at nonempty
    simp [show (0 : UInt32) < UINT_MAX by decide] at nonempty

theorem list_settles {list : List UInt32} {mask : UInt32} {deps : List HwParam} {j : Nat}
    (installed : subs.hwRules[j]? = some ⟨.interval .rate, .interval .rate :: deps, fun s => sndPcmHwRuleList s .rate list mask⟩) :
    Settles subs.hwRules Normal (fun s => Listed list mask (s.intervals .rate).min) fun k => k = j := by
  refine ⟨fun k r listed s normal success => ?_, fun k r listed watched s normal success => ?_,
    fun k r listed _ s normal meets success => ?_⟩
  · exact (hwRules_tame r (List.mem_of_getElem? listed)).normal s normal success
  · subst watched
    obtain rfl := Option.some.inj (installed.symm.trans listed)
    show Listed list mask ((s.setInterval .rate (sndIntervalList (s.intervals .rate) list mask).2).intervals .rate).min
    rw [HwSpace.setInterval_self]
    exact sndIntervalList_min normal.rate success
  · have tame := hwRules_tame r (List.mem_of_getElem? listed)
    by_cases zero : (r.call s).1 = 0
    · left
      have same := (tame.still s normal zero).rate
      simp only [window, Prod.mk.injEq] at same
      rw [same.1]
      exact meets
    by_cases rate : r.var = .interval .rate
    · refine Or.inr ⟨zero, j, _, rfl, installed, ?_⟩
      rw [rate]
      exact List.mem_cons_self ..
    · left
      rw [tame.intervals s _ rate]
      exact meets

end AlsaDriver.Usb
