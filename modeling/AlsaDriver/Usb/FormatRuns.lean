import AlsaDriver.Pcm.HwParams.Solver
import AlsaDriver.Usb.FormatLoop

namespace AlsaDriver.Usb

open Pcm OpenBounds Machine RuleLoop

variable {subs : SndUsbSubstream}

section Enter

variable {constrs : SndPcmHwConstraints}

theorem refineMasks_result (ks : List MaskParam) (nodup : ks.Nodup) (params : SndPcmHwParams)
    (requested : ∀ k, params.requests k = true) (success : 0 ≤ (refineMasks constrs ks params).1) :
    (refineMasks constrs ks params).2.space.intervals = params.space.intervals ∧
      (refineMasks constrs ks params).2.rmask = params.rmask ∧
      (∀ k ∈ ks, (refineMasks constrs ks params).2.space.masks k =
        (sndMaskRefine (params.space.masks k) (constrs.space.masks k)).2) ∧
      ∀ k ∉ ks, (refineMasks constrs ks params).2.space.masks k = params.space.masks k := by
  induction ks generalizing params with
  | nil => exact ⟨rfl, rfl, fun _ none_ => absurd none_ List.not_mem_nil, fun _ _ => rfl⟩
  | cons k rest ih =>
    obtain ⟨new, nodup⟩ := List.nodup_cons.mp nodup
    unfold refineMasks at success ⊢
    dsimp only at success ⊢
    split at success
    · exact absurd success EINVAL_failure
    rename_i some_
    have asked : ¬ (!params.requests (.mask k)) = true := by rw [requested]; decide
    rw [if_neg asked] at success
    rw [if_neg some_, if_neg asked]
    split at success
    · rename_i failure
      exact absurd success (not_le.mpr failure)
    rename_i ok
    rw [if_neg ok]
    generalize narrowed : (if (sndMaskRefine (params.space.masks k) (constrs.space.masks k)).1 != 0 then _ else _ :
      SndPcmHwParams) = next at success ⊢
    have space : next.space = params.space.setMask k (sndMaskRefine (params.space.masks k) (constrs.space.masks k)).2 := by
      rw [← narrowed]
      split <;> rfl
    have rmask : next.rmask = params.rmask := by
      rw [← narrowed]
      split <;> rfl
    obtain ⟨intervals, kept, all, others⟩ := ih nodup next (fun j => by
      unfold SndPcmHwParams.requests
      rw [rmask]
      exact requested j) success
    refine ⟨?_, kept.trans rmask, fun j member => ?_, fun j other => ?_⟩
    · rw [intervals, space]
      rfl
    · obtain rfl | inside := List.mem_cons.mp member
      · rw [others _ new, space, HwSpace.setMask_self]
      · have different : j ≠ k := fun same => new (same ▸ inside)
        rw [all j inside, space]
        exact congrArg (fun mask => (sndMaskRefine mask _).2) (Function.update_of_ne different ..)
    · obtain ⟨different, outside⟩ := not_or.mp fun member => other (List.mem_cons.mpr member)
      rw [others j outside, space]
      exact Function.update_of_ne different ..

theorem refineIntervals_result (ks : List IntervalParam) (nodup : ks.Nodup) (params : SndPcmHwParams)
    (requested : ∀ k, params.requests k = true) (success : 0 ≤ (refineIntervals constrs ks params).1) :
    (refineIntervals constrs ks params).2.space.masks = params.space.masks ∧
      (∀ k ∈ ks, 0 ≤ (sndIntervalRefine (params.space.intervals k) (constrs.space.intervals k)).1 ∧
        (refineIntervals constrs ks params).2.space.intervals k =
          (sndIntervalRefine (params.space.intervals k) (constrs.space.intervals k)).2) ∧
      ∀ k ∉ ks, (refineIntervals constrs ks params).2.space.intervals k = params.space.intervals k := by
  induction ks generalizing params with
  | nil => exact ⟨rfl, fun _ none_ => absurd none_ List.not_mem_nil, fun _ _ => rfl⟩
  | cons k rest ih =>
    obtain ⟨new, nodup⟩ := List.nodup_cons.mp nodup
    unfold refineIntervals at success ⊢
    dsimp only at success ⊢
    split at success
    · exact absurd success EINVAL_failure
    rename_i some_
    have asked : ¬ (!params.requests (.interval k)) = true := by rw [requested]; decide
    rw [if_neg asked] at success
    rw [if_neg some_, if_neg asked]
    split at success
    · rename_i failure
      exact absurd success (not_le.mpr failure)
    rename_i ok
    rw [if_neg ok]
    generalize narrowed : (if (sndIntervalRefine (params.space.intervals k) (constrs.space.intervals k)).1 != 0 then _ else _ :
      SndPcmHwParams) = next at success ⊢
    have space : next.space =
        params.space.setInterval k (sndIntervalRefine (params.space.intervals k) (constrs.space.intervals k)).2 := by
      rw [← narrowed]
      split <;> rfl
    have rmask : next.rmask = params.rmask := by
      rw [← narrowed]
      split <;> rfl
    obtain ⟨masks, all, others⟩ := ih nodup next (fun j => by
      unfold SndPcmHwParams.requests
      rw [rmask]
      exact requested j) success
    refine ⟨?_, fun j member => ?_, fun j other => ?_⟩
    · rw [masks, space]
      rfl
    · obtain rfl | inside := List.mem_cons.mp member
      · rw [others _ new, space, HwSpace.setInterval_self]
        exact ⟨not_lt.mp ok, rfl⟩
      · have different : j ≠ k := fun same => new (same ▸ inside)
        obtain ⟨fine, result⟩ := all j inside
        rw [result]
        rw [space, HwSpace.setInterval_of_ne different] at fine ⊢
        exact ⟨fine, rfl⟩
    · obtain ⟨different, outside⟩ := not_or.mp fun member => other (List.mem_cons.mpr member)
      rw [others j outside, space]
      exact HwSpace.setInterval_of_ne different

theorem refineEnter_result {params : SndPcmHwParams} (requested : ∀ k, params.requests k = true)
    (success : 0 ≤ (refineEnter constrs params).1) :
    (∀ k, (refineEnter constrs params).2.space.masks k =
      (sndMaskRefine (params.space.masks k) (constrs.space.masks k)).2) ∧
    ∀ k, 0 ≤ (sndIntervalRefine (params.space.intervals k) (constrs.space.intervals k)).1 ∧
      (refineEnter constrs params).2.space.intervals k =
        (sndIntervalRefine (params.space.intervals k) (constrs.space.intervals k)).2 := by
  have reset : (refineReset params).rmask = params.rmask := by
    unfold refineReset
    dsimp only
    split <;> split <;> rfl
  have again (j : HwParam) : (refineReset params).requests j = true := by
    unfold SndPcmHwParams.requests
    rw [reset]
    exact requested j
  unfold refineEnter at success ⊢
  dsimp only at success ⊢
  split at success
  · rename_i failure
    exact absurd success (not_le.mpr failure)
  rename_i ok
  rw [if_neg ok]
  obtain ⟨intervals, rmask, masks, -⟩ := refineMasks_result maskParams (by decide) (refineReset params) again (not_lt.mp ok)
  rw [refineReset_space] at intervals masks
  obtain ⟨kept, all, -⟩ := refineIntervals_result intervalParams (by decide) _ (fun j => by
    unfold SndPcmHwParams.requests
    rw [rmask]
    exact again j) success
  refine ⟨fun k => ?_, fun k => ?_⟩
  · rw [kept]
    exact masks k (mem_maskParams k)
  · have here := all k (mem_intervalParams k)
    rw [intervals] at here
    exact here

end Enter

theorem requests_all (params : SndPcmHwParams) (k : HwParam) :
    ({ params with rmask := 0xffffffff } : SndPcmHwParams).requests k = true := by
  unfold SndPcmHwParams.requests
  have table : ∀ k, (0xffffffff : UInt32) &&& HwParam.bit k ≠ 0 := by
    intro k
    cases k with
    | mask k => cases k <;> decide
    | interval k => cases k <;> decide
  exact bne_iff_ne.mpr (table k)

theorem minmax_integer {s : HwSpace} {var : IntervalParam} {min max : UInt32}
    (success : 0 ≤ (sndPcmHwConstraintMinmax s var min max).1) (integer : (s.intervals var).integer = true) :
    ((sndPcmHwConstraintMinmax s var min max).2.intervals var).integer = true := by
  unfold sndPcmHwConstraintMinmax at success ⊢
  dsimp only at success ⊢
  rw [HwSpace.setInterval_self]
  exact refine_integer success (Or.inl integer)

theorem constraints_channels {box : HwSpace} (opened : subs.constraints = some box) :
    (box.intervals .channels).integer = true := by
  unfold SndUsbSubstream.constraints at opened
  dsimp only at opened
  split at opened
  · cases opened
  split at opened
  · cases opened
  rename_i channels
  split at opened
  · cases opened
  obtain rfl := Option.some.inj opened
  exact minmax_integer (not_lt.mp channels) rfl

theorem refineEnter_normal {box : HwSpace} (integer : (box.intervals .channels).integer = true) {params : SndPcmHwParams}
    (requested : ∀ k, params.requests k = true) (success : 0 ≤ (refineEnter ⟨box, []⟩ params).1) :
    Normal (refineEnter ⟨box, []⟩ params).2.space := by
  obtain ⟨-, intervals⟩ := refineEnter_result requested success
  obtain ⟨fine, channels⟩ := intervals .channels
  obtain ⟨fine', rate⟩ := intervals .rate
  refine ⟨?_, ?_, ?_⟩
  · rw [channels]
    exact refine_integer fine (Or.inr integer)
  · rw [channels]
    exact refine_closed fine
  · rw [rate]
    exact refine_closed fine'

def SndUsbSubstream.Allows (subs : SndUsbSubstream) (rate : UInt32) : Prop :=
  (∀ list, subs.rateList = some list → rate ∈ list) ∧
    (subs.rates &&& (SNDRV_PCM_RATE_KNOT ||| SNDRV_PCM_RATE_CONTINUOUS) = 0 → Listed knownRates subs.rates rate)

theorem hwRefine_success {box : HwSpace} (opened : subs.constraints = some box) {fuel : Nat} {params : SndPcmHwParams}
    {s : HwSpace} (refined : subs.hwRefine box fuel params = some (0, s)) :
    Normal s ∧ SomeMeets subs s ∧ subs.Allows (s.intervals .rate).min := by
  unfold SndUsbSubstream.hwRefine at refined
  dsimp only at refined
  split at refined
  · rename_i failure
    obtain ⟨zero, -⟩ := Prod.mk.inj (Option.some.inj refined)
    exact absurd zero.ge (not_le.mpr failure)
  rename_i entered
  have start := refineEnter_normal (constraints_channels opened) (requests_all params) (not_lt.mp entered)
  cases ends : runFor (loopStep subs.hwRules) fuel (loopStart ({ params with rmask := 0xffffffff } : SndPcmHwParams).requests
      (refineEnter ⟨box, []⟩ { params with rmask := 0xffffffff }).2.space) with
  | next _ =>
    rw [ends] at refined
    cases refined
  | halt result =>
    rw [ends] at refined
    obtain rfl := Option.some.inj refined
    obtain ⟨normal, meets⟩ := loop_settles meets_settles start (Or.inl rfl) rfl (List.mem_cons_self ..)
      (requests_all params _) ends
    have allowed {list : List UInt32} {mask : UInt32}
        (installed : ⟨.interval .rate, [.interval .rate], fun s => sndPcmHwRuleList s .rate list mask⟩ ∈ subs.hwRules) :
        Listed list mask (s.intervals .rate).min := by
      obtain ⟨j, listed⟩ := List.getElem?_of_mem installed
      exact (loop_settles (list_settles listed) start rfl listed (List.mem_cons_self ..) (requests_all params _) ends).2
    refine ⟨normal, meets, fun list installed => ?_, fun fixed => ?_⟩
    · refine (listed_iff _ _).mp (allowed (List.mem_append_left _ (List.mem_append_right _ ?_)))
      unfold SndUsbSubstream.knotRules
      rw [installed]
      exact List.mem_singleton.mpr rfl
    · refine allowed (List.mem_append_right _ ?_)
      unfold SndUsbSubstream.knownRules
      rw [if_pos (beq_iff_eq.mpr fixed)]
      exact List.mem_singleton.mpr rfl

/-- Every rate between the ends of an audioformat that the lists allow is offered by an audioformat with its format and
    channels. -/
def SndUsbSubstream.CoversRates (subs : SndUsbSubstream) : Prop :=
  ∀ fp ∈ subs.fmtList, ∀ f rate, sndMaskTest ⟨fp.formats⟩ f = true → fp.rateMin ≤ rate → rate ≤ fp.rateMax →
    subs.Allows rate → ∃ fp' ∈ subs.fmtList, fp'.fits f fp.channels rate = true

structure SndUsbSubstream.Consistent (subs : SndUsbSubstream) : Prop where
  keeps : ∀ fp ∈ subs.fmtList, ∀ p, subs.Supports fp p → ∀ r ∈ subs.setupRules, ∀ params, p.In params →
    0 ≤ (r.call params).1 ∧ p.In (r.call params).2
  finds : ∀ box, subs.constraints = some box → ∀ fuel params s, subs.hwRefine box fuel params = some (0, s) →
    ∀ f, (∀ k, sndMaskTest (s.masks .format) k = true ↔ k = f) → sndIntervalSingle (s.intervals .channels) = true →
    sndIntervalSingle (s.intervals .rate) = true →
      (subs.findFormat f (sndIntervalValue (s.intervals .channels)) (sndIntervalValue (s.intervals .rate))).isSome = true

theorem Meets.single {s : HwSpace} {fp : Audioformat} (normal : Normal s) (meets : Meets s fp)
    (channels : sndIntervalSingle (s.intervals .channels) = true) (rate : sndIntervalSingle (s.intervals .rate) = true) :
    fp.channels = (s.intervals .channels).min ∧ fp.rateMin ≤ (s.intervals .rate).min ∧ (s.intervals .rate).min ≤ fp.rateMax := by
  obtain ⟨-, openmax⟩ := normal.channels normal.integer
  obtain ⟨least, most⟩ := meets.channels
  have low := meets.low
  have high := meets.high.1
  unfold sndIntervalSingle at channels rate
  rw [openmax, Bool.and_false, Bool.or_false, beq_iff_eq] at channels
  rw [← channels] at most
  refine ⟨UInt32.le_antisymm most least, ?_, UInt32.le_iff_toNat_le.mpr high⟩
  rw [UInt32.le_iff_toNat_le]
  obtain same | next := (Bool.or_eq_true _ _).mp rate
  · rw [beq_iff_eq.mp same]
    exact low.1
  · obtain ⟨next, isOpen⟩ := (Bool.and_eq_true _ _).mp next
    have below := low.2 isOpen
    rw [← beq_iff_eq.mp next, UInt32.toNat_add, UInt32.toNat_one] at below
    omega

theorem finds_of_covers (covers : subs.CoversRates) {box : HwSpace} (opened : subs.constraints = some box) {fuel : Nat}
    {params : SndPcmHwParams} {s : HwSpace} (refined : subs.hwRefine box fuel params = some (0, s)) {f : Nat}
    (format : ∀ k, sndMaskTest (s.masks .format) k = true ↔ k = f)
    (channels : sndIntervalSingle (s.intervals .channels) = true) (rate : sndIntervalSingle (s.intervals .rate) = true) :
    (subs.findFormat f (sndIntervalValue (s.intervals .channels)) (sndIntervalValue (s.intervals .rate))).isSome = true := by
  obtain ⟨normal, ⟨fp, member, meets⟩, allows⟩ := hwRefine_success opened refined
  obtain ⟨same, low, high⟩ := meets.single normal channels rate
  obtain ⟨k, offered, chosen⟩ := meets.formats
  obtain rfl := (format k).mp chosen
  obtain ⟨fp', member', fits⟩ := covers fp member k _ offered low high allows
  rw [same] at fits
  exact findFormat_isSome subs member' fits

section Request

def single (x : UInt32) : SndInterval :=
  { min := x, max := x, openmin := false, openmax := false, integer := true, empty := false }

theorem single_contains (x : UInt32) : (single x).Contains x.toNat :=
  ⟨⟨⟨le_rfl, fun isOpen => Bool.noConfusion isOpen⟩, ⟨le_rfl, fun isOpen => Bool.noConfusion isOpen⟩,
    fun _ => ⟨x.toNat, rfl⟩⟩, rfl⟩

theorem refine_single {x : UInt32} {v : SndInterval} (covers : v.Covers x.toNat) :
    sndIntervalRefine (single x) v = (0, single x) := by
  have below := covers.low
  have above := covers.high
  simp only [AtLeast, AtMost, Nat.cast_le, Nat.cast_lt] at below above
  have low : sndIntervalRefineMin (single x) v = (false, single x) := by
    have first : ¬ (single x).min < v.min := by
      rw [UInt32.lt_iff_toNat_lt]
      exact not_lt.mpr below.1
    unfold sndIntervalRefineMin
    rw [if_neg first, if_neg]
    intro same
    simp only [Bool.and_eq_true, beq_iff_eq] at same
    have strict := below.2 same.2
    rw [← same.1.1] at strict
    exact absurd strict (lt_irrefl _)
  have high : sndIntervalRefineMax (single x) v = (false, single x) := by
    have first : ¬ (single x).max > v.max := by
      rw [gt_iff_lt, UInt32.lt_iff_toNat_lt]
      exact not_lt.mpr above.1
    unfold sndIntervalRefineMax
    rw [if_neg first, if_neg]
    intro same
    simp only [Bool.and_eq_true, beq_iff_eq] at same
    have strict := above.2 same.2
    rw [← same.1.1] at strict
    exact absurd strict (lt_irrefl _)
  have integer : sndIntervalRefineInteger (single x) v = (false, single x) := rfl
  have meet : sndIntervalMeet (single x) v = (false, single x) := by
    unfold sndIntervalMeet
    dsimp only
    rw [low, high, integer]
    rfl
  have point : sndIntervalCheckempty (sndIntervalNormalise (single x)) = false :=
    sndIntervalCheckempty_of_covers (sndIntervalNormalise_covers (single_contains x).toCovers)
  unfold sndIntervalRefine
  rw [if_neg (by exact Bool.false_ne_true), meet]
  dsimp only
  rw [point]
  rfl

def request (f : Nat) (channels rate : UInt32) : HwSpace where
  masks := fun k => if k = .format then ⟨BitVec.twoPow 64 f⟩ else sndMaskAny
  intervals := fun k =>
    if k = .channels then single channels
    else if k = .rate then single rate
    else if k = .periodTime then single UINT_MAX
    else sndIntervalAny

def requestPoint (f : Nat) (channels rate : UInt32) : HwPoint where
  choice := fun k => if k = .format then f else 0
  value := fun k =>
    if k = .channels then channels.toNat
    else if k = .rate then rate.toNat
    else if k = .periodTime then UINT_MAX.toNat
    else 0

def requestParams (f : Nat) (channels rate : UInt32) : SndPcmHwParams where
  flags := 0
  space := request f channels rate
  rmask := 0
  cmask := 0
  info := 0
  msbits := 0
  rateNum := 0
  rateDen := 0
  fifoSize := 0

variable {f : Nat} (known : f < 64) (channels rate : UInt32)

theorem twoPow_test (known : f < 64) (k : Nat) : sndMaskTest ⟨BitVec.twoPow 64 f⟩ k = true ↔ k = f := by
  simp only [sndMaskTest, BitVec.getLsbD_twoPow, Bool.and_eq_true, decide_eq_true_eq]
  omega

include known

theorem requestPoint_in : (requestPoint f channels rate).In (request f channels rate) := by
  refine ⟨fun k => ?_, fun k => ?_⟩
  · cases k with
    | format => exact (twoPow_test known f).mpr rfl
    | _ => exact (by decide : sndMaskTest sndMaskAny 0 = true)
  · cases k with
    | channels => exact single_contains channels
    | rate => exact single_contains rate
    | periodTime => exact single_contains UINT_MAX
    | _ => exact sndIntervalAny_contains le_rfl (Nat.cast_nonneg _)

theorem requestPoint_in_initSpace : (requestPoint f channels rate).In initSpace := by
  have natural (k : IntervalParam) : ∃ n : Nat, (requestPoint f channels rate).value k = n ∧ n ≤ UINT_MAX.toNat := by
    have top (x : UInt32) : x.toNat ≤ UINT_MAX.toNat := by
      have bound := x.toNat_lt
      rw [UINT_MAX_toNat]
      omega
    cases k with
    | channels => exact ⟨_, rfl, top channels⟩
    | rate => exact ⟨_, rfl, top rate⟩
    | periodTime => exact ⟨_, rfl, le_rfl⟩
    | _ => exact ⟨0, by exact_mod_cast rfl, Nat.zero_le _⟩
  refine in_initSpace (fun k => ?_) (fun k => ?_) (fun k => ?_) fun k _ => ?_
  · show (if k = .format then f else 0) < 64
    split
    · exact known
    · decide
  · obtain ⟨n, value, -⟩ := natural k
    rw [value]
    exact Nat.cast_nonneg _
  · obtain ⟨n, value, bound⟩ := natural k
    rw [value]
    exact_mod_cast bound
  · obtain ⟨n, value, -⟩ := natural k
    exact ⟨n, value⟩

omit known in
theorem minmax_keeps {p : HwPoint} {s : HwSpace} (inside : p.In s) (var : IntervalParam) (min max : UInt32)
    (low : (min.toNat : ℚ) ≤ p.value var) (high : p.value var ≤ (max.toNat : ℚ)) :
    0 ≤ (sndPcmHwConstraintMinmax s var min max).1 ∧ p.In (sndPcmHwConstraintMinmax s var min max).2 := by
  obtain ⟨success, contains⟩ := sndIntervalRefine_contains (inside.intervals var)
    (v := { min := min, max := max, openmin := false, openmax := false, integer := false, empty := false })
    ⟨⟨low, fun isOpen => Bool.noConfusion isOpen⟩, ⟨high, fun isOpen => Bool.noConfusion isOpen⟩,
      fun integer => Bool.noConfusion integer⟩
  exact ⟨success, inside.setInterval contains⟩

variable {fp : Audioformat} (member : fp ∈ subs.fmtList)
  (format : sndMaskTest ⟨fp.formats⟩ f = true) (low : fp.rateMin ≤ rate) (high : rate ≤ fp.rateMax)
include member format low high

theorem constraints_request :
    ∃ box, subs.constraints = some box ∧ (requestPoint f fp.channels rate).In box := by
  have inside := requestPoint_in_initSpace known fp.channels rate
  have top : (subs.ptmin.toNat : ℚ) ≤ (requestPoint f fp.channels rate).value .periodTime := by
    show (subs.ptmin.toNat : ℚ) ≤ UINT_MAX.toNat
    have bound := subs.ptmin.toNat_lt
    rw [UINT_MAX_toNat]
    exact_mod_cast (by omega : subs.ptmin.toNat ≤ 4294967295)
  have time := minmax_keeps inside .periodTime subs.ptmin UINT_MAX top le_rfl
  have bits : sndMaskTest ⟨subs.formats⟩ f = true := (foldl_or_test _ _ _).mpr (Or.inr ⟨fp, member, format⟩)
  generalize timed : sndPcmHwConstraintMinmax initSpace .periodTime subs.ptmin UINT_MAX = first at time
  have both : sndMaskTest (sndMaskIntersect (first.2.masks .format) ⟨subs.formats⟩) f = true := by
    have offered : sndMaskTest (first.2.masks .format) f = true := time.2.masks .format
    simp only [sndMaskTest, sndMaskIntersect, BitVec.getLsbD_and, Bool.and_eq_true] at bits offered ⊢
    exact ⟨offered, bits⟩
  have masked : (sndPcmHwConstraintMask64 first.2 .format subs.formats).1 = 0 ∧
      (requestPoint f fp.channels rate).In (sndPcmHwConstraintMask64 first.2 .format subs.formats).2 := by
    unfold sndPcmHwConstraintMask64
    dsimp only
    rw [if_neg (Bool.eq_false_iff.mp (sndMaskEmpty_of_test both))]
    exact ⟨rfl, time.2.setMask both⟩
  generalize narrowed : sndPcmHwConstraintMask64 first.2 .format subs.formats = second at masked
  have counted := minmax_keeps masked.2 .channels subs.channelsMin subs.channelsMax
    (show (subs.channelsMin.toNat : ℚ) ≤ fp.channels.toNat by
      exact_mod_cast UInt32.le_iff_toNat_le.mp (foldl_min_le member 256))
    (show (fp.channels.toNat : ℚ) ≤ subs.channelsMax.toNat by
      exact_mod_cast UInt32.le_iff_toNat_le.mp (le_foldl_max member 0))
  generalize limited : sndPcmHwConstraintMinmax second.2 .channels subs.channelsMin subs.channelsMax = third at counted
  have rated := minmax_keeps counted.2 .rate subs.rateMin subs.rateMax
    (show (subs.rateMin.toNat : ℚ) ≤ rate.toNat by
      exact_mod_cast UInt32.le_iff_toNat_le.mp (UInt32.le_trans (foldl_min_le member 0x7fffffff) low))
    (show (rate.toNat : ℚ) ≤ subs.rateMax.toNat by
      exact_mod_cast UInt32.le_iff_toNat_le.mp (UInt32.le_trans high (le_foldl_max member 0)))
  refine ⟨_, ?_, rated.2⟩
  unfold SndUsbSubstream.constraints
  dsimp only
  rw [timed, narrowed, limited, if_neg (not_lt.mpr masked.1.ge), if_neg (not_lt.mpr counted.1), if_neg (not_lt.mpr rated.1)]

end Request

theorem intersect_twoPow {f : Nat} {m : SndMask} (bit : sndMaskTest m f = true) :
    sndMaskIntersect ⟨BitVec.twoPow 64 f⟩ m = ⟨BitVec.twoPow 64 f⟩ := by
  refine congrArg SndMask.mk (BitVec.eq_of_getLsbD_eq fun i _ => ?_)
  rw [BitVec.getLsbD_and, BitVec.getLsbD_twoPow]
  by_cases same : f = i
  · subst same
    simp only [sndMaskTest] at bit
    rw [bit, Bool.and_true]
  · simp [same]

theorem sndMaskRefine_mask (mask v : SndMask) : (sndMaskRefine mask v).2 = sndMaskIntersect mask v := by
  unfold sndMaskRefine
  dsimp only
  split <;> rfl

section Still

variable {s : HwSpace} {fp : Audioformat} {x : UInt32} (valid : fp ∈ subs.validFormats s)
include valid

theorem hwRuleHull_single {var : IntervalParam} {low high : Audioformat → UInt32} (point : s.intervals var = single x)
    (below : low fp ≤ x) (above : x ≤ high fp) : subs.hwRuleHull var low high s = (0, s) := by
  obtain ⟨rmin, rmax, hull, all⟩ := foldl_widen low high valid
  obtain ⟨least, most⟩ := all fp valid
  have first : sndIntervalClipMin (single x) rmin = (false, single x) :=
    if_neg (UInt32.not_lt.mpr (UInt32.le_trans least below))
  have second : sndIntervalClipMax (single x) rmax = (false, single x) :=
    if_neg (UInt32.not_lt.mpr (UInt32.le_trans above most))
  have same : s.setInterval var (single x) = s := by
    rw [← point]
    exact congrArg (HwSpace.mk s.masks) (Function.update_eq_self ..)
  unfold SndUsbSubstream.hwRuleHull
  dsimp only
  rw [hull, point]
  dsimp only
  rw [first]
  dsimp only
  rw [second]
  dsimp only
  rw [if_neg (by simp [sndIntervalCheckempty_of_covers (single_contains x).toCovers]), same]
  rfl

theorem hwRuleFormat_single {f : Nat} (known : f < 64) (point : s.masks .format = ⟨BitVec.twoPow 64 f⟩)
    (format : sndMaskTest ⟨fp.formats⟩ f = true) : subs.hwRuleFormat s = (0, s) := by
  have bits : sndMaskTest ⟨(subs.validFormats s).foldl (fun fbits fp => fbits ||| fp.formats) 0⟩ f = true :=
    (foldl_or_test _ _ _).mpr (Or.inr ⟨fp, valid, format⟩)
  have meet := intersect_twoPow bits
  have same : s.setMask .format ⟨BitVec.twoPow 64 f⟩ = s := by
    rw [← point]
    exact congrArg (HwSpace.mk · s.intervals) (Function.update_eq_self ..)
  unfold SndUsbSubstream.hwRuleFormat
  dsimp only
  rw [point, meet, if_neg (Bool.eq_false_iff.mp (sndMaskEmpty_of_test ((twoPow_test known f).mpr rfl))), same]
  exact congrArg (fun changed => (changed, s)) (if_pos (beq_iff_eq.mpr rfl))

theorem hwRulePeriodTime_single (point : s.intervals .periodTime = single UINT_MAX) : subs.hwRulePeriodTime s = (0, s) := by
  have least := foldl_datainterval_le valid
  have known : (subs.validFormats s).foldl (fun least fp => min least fp.datainterval) 0xff ≠ 0xff := by
    intro none_
    rw [none_] at least
    exact absurd (UInt8.le_trans least fp.interval_le) (by decide)
  have first (pmin : UInt32) : sndIntervalClipMin (single UINT_MAX) pmin = (false, single UINT_MAX) := by
    refine if_neg (UInt32.not_lt.mpr ?_)
    have bound := pmin.toNat_lt
    rw [UInt32.le_iff_toNat_le]
    show pmin.toNat ≤ UINT_MAX.toNat
    rw [UINT_MAX_toNat]
    omega
  have same : s.setInterval .periodTime (single UINT_MAX) = s := by
    rw [← point]
    exact congrArg (HwSpace.mk s.masks) (Function.update_eq_self ..)
  unfold SndUsbSubstream.hwRulePeriodTime
  dsimp only
  rw [if_neg (by simpa using known), point, first]
  dsimp only
  rw [if_neg (by simp [sndIntervalCheckempty_of_covers (single_contains UINT_MAX).toCovers]), same]
  rfl

omit valid in
theorem list_single {list : List UInt32} {mask : UInt32} (point : s.intervals .rate = single x)
    (listed : Listed list mask x) : sndPcmHwRuleList s .rate list mask = (0, s) := by
  have same : s.setInterval .rate (single x) = s := by
    rw [← point]
    exact congrArg (HwSpace.mk s.masks) (Function.update_eq_self ..)
  unfold sndPcmHwRuleList sndIntervalList
  dsimp only
  rw [point, if_neg listed.nonempty, refine_single (listRange_covers (single_contains x) listed), same]

end Still

theorem hwRefine_request {f : Nat} {rate : UInt32} {fp : Audioformat} (member : fp ∈ subs.fmtList)
    (format : sndMaskTest ⟨fp.formats⟩ f = true) (low : fp.rateMin ≤ rate) (high : rate ≤ fp.rateMax)
    (allows : subs.Allows rate) : ∃ box fuel s, subs.constraints = some box ∧
      subs.hwRefine box fuel (requestParams f fp.channels rate) = some (0, s) ∧
      s.masks .format = ⟨BitVec.twoPow 64 f⟩ ∧ s.intervals .channels = single fp.channels ∧
      s.intervals .rate = single rate := by
  have known : f < 64 := BitVec.lt_of_getLsbD format
  obtain ⟨box, opened, boxed⟩ := constraints_request known rate member format low high
  have inside := requestPoint_in known fp.channels rate
  have entered : (refineEnter ⟨box, []⟩ { requestParams f fp.channels rate with rmask := 0xffffffff }).1 = 0 :=
    (@refineEnter_keeps ⟨box, []⟩ _ { requestParams f fp.channels rate with rmask := 0xffffffff } inside boxed).1
  obtain ⟨masks, intervals⟩ := refineEnter_result (requests_all (requestParams f fp.channels rate)) entered.ge
  generalize spaced : (refineEnter ⟨box, []⟩ { requestParams f fp.channels rate with rmask := 0xffffffff }).2.space = s
    at masks intervals
  have formats : s.masks .format = ⟨BitVec.twoPow 64 f⟩ := by
    rw [masks, sndMaskRefine_mask]
    exact intersect_twoPow (boxed.masks .format)
  have point (var : IntervalParam) {x : UInt32} (asked : (request f fp.channels rate).intervals var = single x)
      (value : (requestPoint f fp.channels rate).value var = x.toNat) : s.intervals var = single x := by
    have covers := (boxed.intervals var).toCovers
    rw [value] at covers
    rw [(intervals var).2]
    show (sndIntervalRefine ((request f fp.channels rate).intervals var) _).2 = _
    rw [asked, refine_single covers]
  have channels := point .channels rfl rfl
  have rates := point .rate rfl rfl
  have times := point .periodTime rfl rfl
  have valid : fp ∈ subs.validFormats s := by
    refine mem_validFormats.mpr ⟨member, (hwCheckValidFormat_iff fp).mpr ⟨⟨⟨f, format, ?_⟩, ?_, ?_, ?_⟩, fun _ => ?_⟩⟩
    · rw [formats]
      exact (twoPow_test known f).mpr rfl
    · rw [channels]
      exact ⟨UInt32.le_refl _, UInt32.le_refl _⟩
    · rw [rates]
      exact ⟨UInt32.le_iff_toNat_le.mp low, fun isOpen => Bool.noConfusion isOpen⟩
    · rw [rates]
      exact ⟨UInt32.le_iff_toNat_le.mp high, fun isOpen => Bool.noConfusion isOpen⟩
    · rw [times]
      refine ⟨?_, fun isOpen => Bool.noConfusion isOpen⟩
      have bound := (packetTime fp.datainterval).toNat_lt
      show _ ≤ UINT_MAX.toNat
      rw [UINT_MAX_toNat]
      omega
  have still : ∀ r ∈ subs.hwRules, r.call s = (0, s) := by
    intro r listed
    obtain listed | listed := List.mem_append.mp listed
    · unfold SndUsbSubstream.setupRules at listed
      obtain listed | listed := List.mem_append.mp listed
      · obtain listed | listed := List.mem_append.mp listed
        · simp only [SndUsbSubstream.formatRules, List.mem_cons, List.not_mem_nil, or_false] at listed
          rcases listed with rfl | rfl | rfl
          · exact hwRuleHull_single valid rates low high
          · exact hwRuleHull_single valid channels (UInt32.le_refl _) (UInt32.le_refl _)
          · exact hwRuleFormat_single valid known formats format
        · unfold SndUsbSubstream.periodTimeRules at listed
          split at listed
          · cases listed
          · obtain rfl := List.mem_singleton.mp listed
            exact hwRulePeriodTime_single valid times
      · unfold SndUsbSubstream.knotRules at listed
        split at listed
        · cases listed
        · rename_i list installed
          obtain rfl := List.mem_singleton.mp listed
          exact list_single rates ((listed_iff _ _).mpr (allows.1 list installed))
    · unfold SndUsbSubstream.knownRules at listed
      split at listed
      · rename_i fixed
        obtain rfl := List.mem_singleton.mp listed
        exact list_single rates (allows.2 (beq_iff_eq.mp fixed))
      · cases listed
  obtain ⟨fuel, ends⟩ := loop_still still ({ requestParams f fp.channels rate with rmask := 0xffffffff } : SndPcmHwParams).requests
  refine ⟨box, fuel, s, opened, ?_, formats, channels, rates⟩
  unfold SndUsbSubstream.hwRefine
  dsimp only
  rw [if_neg (not_lt.mpr entered.ge), spaced, ends]

theorem covers_of_finds (consistent : subs.Consistent) : subs.CoversRates := by
  intro fp member f rate format low high allows
  obtain ⟨box, fuel, s, opened, refined, mask, channels, rates⟩ := hwRefine_request member format low high allows
  have known : f < 64 := BitVec.lt_of_getLsbD format
  have found := consistent.finds box opened fuel _ s refined f (fun k => by rw [mask]; exact twoPow_test known k)
    (by rw [channels]; simp [sndIntervalSingle, single]) (by rw [rates]; simp [sndIntervalSingle, single])
  rw [channels, rates] at found
  exact findFormat_fits subs found

/-- The refinement and `find_format` agree exactly when the rate tables leave no gap that the ends of an audioformat
    span. -/
theorem consistent_iff (subs : SndUsbSubstream) : subs.Consistent ↔ subs.CoversRates :=
  ⟨covers_of_finds, fun covers => ⟨fun _ member _ supports r listed _ inside => setupRules_keep inside member supports r listed,
    fun _ opened _ _ _ refined _ format channels rate => finds_of_covers covers opened refined format channels rate⟩⟩

theorem everyMicroframe : (0 : UInt8) ≤ 24 := by decide

def stereo : Audioformat where
  formats := 4
  channels := 2
  epAttr := USB_ENDPOINT_SYNC_ASYNC
  datainterval := 0
  maxpacksize := 392
  rates := 0x440
  rateMin := 44100
  rateMax := 96000
  rateTable := [44100, 96000]
  interval_le := everyMicroframe

def mono : Audioformat where
  formats := 4
  channels := 1
  epAttr := USB_ENDPOINT_SYNC_ASYNC
  datainterval := 0
  maxpacksize := 98
  rates := 0x80
  rateMin := 48000
  rateMax := 48000
  rateTable := [48000]
  interval_le := everyMicroframe

def stereoAndMono : SndUsbSubstream where
  fmtList := [stereo, mono]
  fullSpeed := false
  playback := true

/-- Stereo at 48 kHz is accepted, and `find_format` does not find it. -/
theorem stereo_gap : ¬ stereoAndMono.Consistent := by
  intro consistent
  have noKnot : stereoAndMono.rateList = none := by decide
  have allows : stereoAndMono.Allows 48000 := by
    refine ⟨fun list installed => ?_, fun _ => ⟨7, rfl, by decide⟩⟩
    rw [noKnot] at installed
    cases installed
  obtain ⟨fp, member, fits⟩ := covers_of_finds consistent stereo (List.mem_cons_self ..) 2 48000 (by decide) (by decide)
    (by decide) allows
  simp only [stereoAndMono, List.mem_cons, List.not_mem_nil, or_false] at member
  rcases member with rfl | rfl
  · exact absurd fits (by decide)
  · exact absurd fits (by decide)

end AlsaDriver.Usb
