import Mathlib.Logic.Function.Basic
import AlsaDriver.Pcm.HwParams.Interval

namespace AlsaDriver.Pcm

/-- `struct snd_mask`, the `SNDRV_MASK_BITS` bits in use with `bits[0]` in the low half. -/
structure SndMask where
  bits : BitVec 64
  deriving DecidableEq, Repr

def sndMaskAny : SndMask := ⟨BitVec.allOnes 64⟩

def sndMaskEmpty (mask : SndMask) : Bool := mask.bits == 0

def sndMaskTest (mask : SndMask) (val : Nat) : Bool := mask.bits.getLsbD val

def sndMaskReset (mask : SndMask) (val : Nat) : SndMask := ⟨mask.bits &&& ~~~BitVec.twoPow 64 val⟩

def sndMaskIntersect (mask v : SndMask) : SndMask := ⟨mask.bits &&& v.bits⟩

def sndMaskEq (mask v : SndMask) : Bool := mask.bits == v.bits

def sndMaskRefine (mask v : SndMask) : Int × SndMask :=
  let old := mask
  let mask := sndMaskIntersect mask v
  if sndMaskEmpty mask then (-EINVAL, mask) else (if sndMaskEq mask old then 0 else 1, mask)

def sndMaskMin (mask : SndMask) : Nat := ((List.range 64).find? (sndMaskTest mask)).getD 0

def sndMaskMax (mask : SndMask) : Nat := ((List.range 64).reverse.find? (sndMaskTest mask)).getD 0

inductive MaskParam where
  | access
  | format
  | subformat
  deriving DecidableEq, Repr

inductive IntervalParam where
  | sampleBits
  | frameBits
  | channels
  | rate
  | periodTime
  | periodSize
  | periodBytes
  | periods
  | bufferTime
  | bufferSize
  | bufferBytes
  | tickTime
  deriving DecidableEq, Repr

/-- `snd_pcm_hw_param_t`: the variables of the configuration space. -/
inductive HwParam where
  | mask (k : MaskParam)
  | interval (k : IntervalParam)
  deriving DecidableEq, Repr

/-- `SNDRV_PCM_HW_PARAM_FIRST_MASK` to `SNDRV_PCM_HW_PARAM_LAST_MASK`. -/
def maskParams : List MaskParam := [.access, .format, .subformat]

/-- `SNDRV_PCM_HW_PARAM_FIRST_INTERVAL` to `SNDRV_PCM_HW_PARAM_LAST_INTERVAL`. -/
def intervalParams : List IntervalParam :=
  [.sampleBits, .frameBits, .channels, .rate, .periodTime, .periodSize, .periodBytes, .periods,
    .bufferTime, .bufferSize, .bufferBytes, .tickTime]

theorem mem_maskParams (k : MaskParam) : k ∈ maskParams := by cases k <;> decide

theorem mem_intervalParams (k : IntervalParam) : k ∈ intervalParams := by cases k <;> decide

/-- The number of a variable, which is its bit in `rmask` and `cmask`. -/
def HwParam.number : HwParam → Nat
  | .mask .access => 0
  | .mask .format => 1
  | .mask .subformat => 2
  | .interval .sampleBits => 8
  | .interval .frameBits => 9
  | .interval .channels => 10
  | .interval .rate => 11
  | .interval .periodTime => 12
  | .interval .periodSize => 13
  | .interval .periodBytes => 14
  | .interval .periods => 15
  | .interval .bufferTime => 16
  | .interval .bufferSize => 17
  | .interval .bufferBytes => 18
  | .interval .tickTime => 19

def HwParam.bit (k : HwParam) : UInt32 := 1 <<< UInt32.ofNat k.number

/-- The variables of `struct snd_pcm_hw_params`, and of the constraint box of a stream. -/
structure HwSpace where
  masks : MaskParam → SndMask
  intervals : IntervalParam → SndInterval

def HwSpace.setMask (s : HwSpace) (k : MaskParam) (m : SndMask) : HwSpace :=
  { s with masks := Function.update s.masks k m }

def HwSpace.setInterval (s : HwSpace) (k : IntervalParam) (i : SndInterval) : HwSpace :=
  { s with intervals := Function.update s.intervals k i }

@[simp] theorem HwSpace.setMask_intervals (s : HwSpace) (k : MaskParam) (m : SndMask) :
    (s.setMask k m).intervals = s.intervals := rfl

@[simp] theorem HwSpace.setInterval_masks (s : HwSpace) (k : IntervalParam) (i : SndInterval) :
    (s.setInterval k i).masks = s.masks := rfl

structure SndPcmHwParams where
  flags : UInt32
  space : HwSpace
  rmask : UInt32
  cmask : UInt32
  info : UInt32
  msbits : UInt32
  rateNum : UInt32
  rateDen : UInt32
  fifoSize : UInt64

def SndPcmHwParams.requests (params : SndPcmHwParams) (k : HwParam) : Bool := params.rmask &&& k.bit != 0

/-- The `phys` column of `pcm_formats[]`; the entries the table leaves out are zero. -/
def pcmFormatsPhys : List Nat :=
  [8, 8, 16, 16, 16, 16, 32, 32, 32, 32, 32, 32, 32, 32, 32, 32, 64, 64, 32, 32, 8, 8, 4, 0, 0, 0,
    0, 0, 0, 0, 0, 0, 24, 24, 24, 24, 24, 24, 24, 24, 24, 24, 24, 24, 3, 8, 5, 8, 8, 16]

def SNDRV_PCM_FORMAT_LAST : Nat := 49

def sndPcmFormatPhysicalWidth (format : Nat) : Int :=
  if format > SNDRV_PCM_FORMAT_LAST then -EINVAL
  else if pcmFormatsPhys.getD format 0 == 0 then -EINVAL
  else pcmFormatsPhys.getD format 0

example : pcmFormatsPhys.length = SNDRV_PCM_FORMAT_LAST + 1 := by decide

end AlsaDriver.Pcm

namespace AlsaDriver.Pcm

def sndPcmHwRuleMul (t : SndInterval) (params : HwSpace) (var a b : IntervalParam) : Int × HwSpace :=
  let t := sndIntervalMul (params.intervals a) (params.intervals b) t
  let (changed, i) := sndIntervalRefine (params.intervals var) t
  (changed, params.setInterval var i)

def sndPcmHwRuleDiv (t : SndInterval) (params : HwSpace) (var a b : IntervalParam) : Int × HwSpace :=
  let t := sndIntervalDiv (params.intervals a) (params.intervals b) t
  let (changed, i) := sndIntervalRefine (params.intervals var) t
  (changed, params.setInterval var i)

def sndPcmHwRuleMuldivk (t : SndInterval) (params : HwSpace) (var a b : IntervalParam) (k : UInt32) :
    Int × HwSpace :=
  let t := sndIntervalMuldivk (params.intervals a) (params.intervals b) k t
  let (changed, i) := sndIntervalRefine (params.intervals var) t
  (changed, params.setInterval var i)

def sndPcmHwRuleMulkdiv (t : SndInterval) (params : HwSpace) (var a b : IntervalParam) (k : UInt32) :
    Int × HwSpace :=
  let t := sndIntervalMulkdiv (params.intervals a) k (params.intervals b) t
  let (changed, i) := sndIntervalRefine (params.intervals var) t
  (changed, params.setInterval var i)

/-- The width the two format loops look at for entry `k`; `none` where they `continue`. -/
def formatBits (mask : SndMask) (k : Nat) : Option UInt32 :=
  if sndMaskTest mask k then
    let bits := sndPcmFormatPhysicalWidth k
    if bits ≤ 0 then none else some (UInt32.ofNat bits.toNat)
  else none

def formatLoop (i : SndInterval) (mask : SndMask) : List Nat → SndMask → SndMask
  | [], m => m
  | k :: rest, m =>
    match formatBits mask k with
    | none => formatLoop i mask rest m
    | some bits => formatLoop i mask rest (if bits < i.min || bits > i.max then sndMaskReset m k else m)

def sndPcmHwRuleFormat (params : HwSpace) (dep : IntervalParam) : Int × HwSpace :=
  let mask := params.masks .format
  let m := formatLoop (params.intervals dep) mask (List.range (SNDRV_PCM_FORMAT_LAST + 1)) sndMaskAny
  let (changed, mask) := sndMaskRefine mask m
  (changed, params.setMask .format mask)

def sampleBitsLoop (mask : SndMask) : List Nat → SndInterval → SndInterval
  | [], t => t
  | k :: rest, t =>
    match formatBits mask k with
    | none => sampleBitsLoop mask rest t
    | some bits =>
      let t := if t.min > bits then { t with min := bits } else t
      let t := if t.max < bits then { t with max := bits } else t
      sampleBitsLoop mask rest t

def sndPcmHwRuleSampleBits (t : SndInterval) (params : HwSpace) (var : IntervalParam) : Int × HwSpace :=
  let t := { t with min := UINT_MAX, max := 0, openmin := false, openmax := false }
  let t := sampleBitsLoop (params.masks .format) (List.range (SNDRV_PCM_FORMAT_LAST + 1)) t
  let t := { t with integer := true }
  let (changed, i) := sndIntervalRefine (params.intervals var) t
  (changed, params.setInterval var i)

def sndPcmHwRuleList (params : HwSpace) (var : IntervalParam) (list : List UInt32) (mask : UInt32) :
    Int × HwSpace :=
  let (changed, i) := sndIntervalList (params.intervals var) list mask
  (changed, params.setInterval var i)

def pow2Sizes : List UInt32 := (List.range 31).map fun k => 1 <<< UInt32.ofNat k

def sndPcmHwRulePow2 (params : HwSpace) (var : IntervalParam) : Int × HwSpace :=
  sndPcmHwRuleList params var pow2Sizes 0

def sndPcmHwRuleBufferBytesMax (t : SndInterval) (params : HwSpace) (var : IntervalParam)
    (bufferBytesMax : UInt32) : Int × HwSpace :=
  let t := { t with min := 0, max := bufferBytesMax, openmin := false, openmax := false, integer := true }
  let (changed, i) := sndIntervalRefine (params.intervals var) t
  (changed, params.setInterval var i)

def sndPcmHwRuleStep (params : HwSpace) (var : IntervalParam) (step : UInt32) : Int × HwSpace :=
  let (changed, i) := sndIntervalStep (params.intervals var) 0 step
  (changed, params.setInterval var i)

/-- The generic rule functions with what they read of their rule: the operands `deps[0]` and
    `deps[1]`, the variable they refine and `private`. -/
inductive RuleFunc where
  | mul (var a b : IntervalParam)
  | div (var a b : IntervalParam)
  | muldivk (var a b : IntervalParam) (k : UInt32)
  | mulkdiv (var a b : IntervalParam) (k : UInt32)
  | format (dep : IntervalParam)
  | sampleBits (var : IntervalParam)
  | list (var : IntervalParam) (values : List UInt32) (mask : UInt32)
  | pow2 (var : IntervalParam)
  | bufferBytesMax (var : IntervalParam) (max : UInt32)
  | step (var : IntervalParam) (size : UInt32) (positive : size ≠ 0)

def RuleFunc.var : RuleFunc → HwParam
  | .mul var _ _ | .div var _ _ | .muldivk var _ _ _ | .mulkdiv var _ _ _ | .sampleBits var
  | .list var _ _ | .pow2 var | .bufferBytesMax var _ | .step var _ _ => .interval var
  | .format _ => .mask .format

def RuleFunc.operands : RuleFunc → List HwParam
  | .mul _ a b | .div _ a b | .muldivk _ a b _ | .mulkdiv _ a b _ => [.interval a, .interval b]
  | .format dep => [.interval dep]
  | .sampleBits _ | .list _ _ _ | .pow2 _ | .bufferBytesMax _ _ | .step _ _ _ => []

/-- Calling the function of a rule; `t` is the uninitialised local the function works in. -/
def RuleFunc.call (t : SndInterval) (params : HwSpace) : RuleFunc → Int × HwSpace
  | .mul var a b => sndPcmHwRuleMul t params var a b
  | .div var a b => sndPcmHwRuleDiv t params var a b
  | .muldivk var a b k => sndPcmHwRuleMuldivk t params var a b k
  | .mulkdiv var a b k => sndPcmHwRuleMulkdiv t params var a b k
  | .format dep => sndPcmHwRuleFormat params dep
  | .sampleBits var => sndPcmHwRuleSampleBits t params var
  | .list var values mask => sndPcmHwRuleList params var values mask
  | .pow2 var => sndPcmHwRulePow2 params var
  | .bufferBytesMax var max => sndPcmHwRuleBufferBytesMax t params var max
  | .step var size _ => sndPcmHwRuleStep params var size

structure SndPcmHwRule where
  cond : UInt32
  func : RuleFunc
  further : List HwParam

def SndPcmHwRule.var (r : SndPcmHwRule) : HwParam := r.func.var

/-- `deps[]` up to its terminator: the operands of the function come first. -/
def SndPcmHwRule.deps (r : SndPcmHwRule) : List HwParam := r.func.operands ++ r.further

structure SndPcmHwConstraints where
  space : HwSpace
  rules : List SndPcmHwRule

def sndPcmHwRuleAdd (constrs : SndPcmHwConstraints) (cond : UInt32) (func : RuleFunc) (further : List HwParam) :
    SndPcmHwConstraints :=
  { constrs with rules := constrs.rules ++ [⟨cond, func, further⟩] }

/-- The rules of `snd_pcm_hw_constraints_init` in the order in which it adds them. -/
def initRules : List RuleFunc :=
  [.format .sampleBits,
    .sampleBits .sampleBits,
    .div .sampleBits .frameBits .channels,
    .mul .frameBits .sampleBits .channels,
    .mulkdiv .frameBits .periodBytes .periodSize 8,
    .mulkdiv .frameBits .bufferBytes .bufferSize 8,
    .div .channels .frameBits .sampleBits,
    .mulkdiv .rate .periodSize .periodTime 1000000,
    .mulkdiv .rate .bufferSize .bufferTime 1000000,
    .div .periods .bufferSize .periodSize,
    .div .periodSize .bufferSize .periods,
    .mulkdiv .periodSize .periodBytes .frameBits 8,
    .muldivk .periodSize .periodTime .rate 1000000,
    .mul .bufferSize .periodSize .periods,
    .mulkdiv .bufferSize .bufferBytes .frameBits 8,
    .muldivk .bufferSize .bufferTime .rate 1000000,
    .muldivk .periodBytes .periodSize .frameBits 8,
    .muldivk .bufferBytes .bufferSize .frameBits 8,
    .mulkdiv .periodTime .periodSize .rate 1000000,
    .mulkdiv .bufferTime .bufferSize .rate 1000000]

def initDeps : RuleFunc → List HwParam
  | .sampleBits _ => [.mask .format, .interval .sampleBits]
  | _ => []

def initSpace : HwSpace where
  masks := fun _ => sndMaskAny
  intervals := fun k =>
    if k ∈ [IntervalParam.channels, .bufferSize, .bufferBytes, .sampleBits, .frameBits] then
      (sndIntervalSetinteger sndIntervalAny).2
    else sndIntervalAny

/-- `snd_pcm_hw_constraints_init` with every allocation succeeding. -/
def sndPcmHwConstraintsInit : SndPcmHwConstraints :=
  initRules.foldl (fun constrs func => sndPcmHwRuleAdd constrs 0 func (initDeps func)) ⟨initSpace, []⟩

theorem foldl_ruleAdd_rules (funcs : List RuleFunc) (constrs : SndPcmHwConstraints) :
    (funcs.foldl (fun constrs func => sndPcmHwRuleAdd constrs 0 func (initDeps func)) constrs).rules =
      constrs.rules ++ funcs.map fun func => ⟨0, func, initDeps func⟩ := by
  induction funcs generalizing constrs with
  | nil => simp
  | cons func rest ih =>
    simp only [List.foldl_cons, ih]
    simp [sndPcmHwRuleAdd]

theorem sndPcmHwConstraintsInit_rules :
    sndPcmHwConstraintsInit.rules = initRules.map fun func => ⟨0, func, initDeps func⟩ :=
  foldl_ruleAdd_rules initRules ⟨initSpace, []⟩

end AlsaDriver.Pcm
