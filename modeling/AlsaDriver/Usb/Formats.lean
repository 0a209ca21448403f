import AlsaDriver.Lib.RuleLoop
import AlsaDriver.Pcm.HwParams.Refine

namespace AlsaDriver.Usb

open Pcm Machine RuleLoop

def SNDRV_PCM_RATE_CONTINUOUS : UInt32 := 0x40000000
def SNDRV_PCM_RATE_KNOT : UInt32 := 0x80000000

def USB_ENDPOINT_SYNCTYPE : UInt8 := 0x0c
def USB_ENDPOINT_SYNC_ASYNC : UInt8 := 0x04
def USB_ENDPOINT_SYNC_ADAPTIVE : UInt8 := 0x08

/-- `rates[]` of `pcm_native.c`, the list of `snd_pcm_known_rates`. -/
def knownRates : List UInt32 :=
  [5512, 8000, 11025, 16000, 22050, 32000, 44100, 48000, 64000, 88200, 96000, 176400, 192000]

/-- `struct audioformat`. The packet interval in microseconds, `125 * (1 << datainterval)`, has to fit an `int`. -/
structure Audioformat where
  formats : BitVec 64
  channels : UInt32
  epAttr : UInt8
  datainterval : UInt8
  maxpacksize : UInt32
  rates : UInt32
  rateMin : UInt32
  rateMax : UInt32
  rateTable : List UInt32
  interval_le : datainterval ≤ 24

/-- `125 * (1 << datainterval)`. -/
def packetTime (datainterval : UInt8) : UInt32 := 125 * ((1 : UInt32) <<< datainterval.toUInt32)

def Audioformat.continuous (fp : Audioformat) : Bool := fp.rates &&& SNDRV_PCM_RATE_CONTINUOUS != 0

def pcmFormatToBits (pcmFormat : Nat) : BitVec 64 := BitVec.twoPow 64 pcmFormat

structure SndUsbSubstream where
  fmtList : List Audioformat
  fullSpeed : Bool
  playback : Bool

variable (subs : SndUsbSubstream)

/-- The checks of `find_format` before it compares audioformats. -/
def Audioformat.fits (fp : Audioformat) (pcmFormat : Nat) (channels curRate : UInt32) : Bool :=
  if fp.formats &&& pcmFormatToBits pcmFormat == 0 then false
  else if fp.channels != channels then false
  else if curRate < fp.rateMin || curRate > fp.rateMax then false
  else fp.continuous || fp.rateTable.contains curRate

def SndUsbSubstream.avoids (attr : UInt8) : Bool :=
  (attr == USB_ENDPOINT_SYNC_ASYNC && subs.playback) || (attr == USB_ENDPOINT_SYNC_ADAPTIVE && !subs.playback)

/-- Which of two audioformats that fit `find_format` goes on with. -/
def SndUsbSubstream.prefer (found fp : Audioformat) : Audioformat :=
  let curAttr := found.epAttr &&& USB_ENDPOINT_SYNCTYPE
  let attr := fp.epAttr &&& USB_ENDPOINT_SYNCTYPE
  if attr != curAttr && subs.avoids attr then found
  else if attr != curAttr && subs.avoids curAttr then fp
  else if fp.maxpacksize > found.maxpacksize then fp
  else found

/-- One turn of the loop of `find_format`. -/
def SndUsbSubstream.consider (pcmFormat : Nat) (channels curRate : UInt32) (found : Option Audioformat) (fp : Audioformat) :
    Option Audioformat :=
  if fp.fits pcmFormat channels curRate then
    match found with
    | none => some fp
    | some found => some (subs.prefer found fp)
  else found

def SndUsbSubstream.findFormat (pcmFormat : Nat) (channels curRate : UInt32) : Option Audioformat :=
  subs.fmtList.foldl (subs.consider pcmFormat channels curRate) none

def SndUsbSubstream.hwCheckValidFormat (params : HwSpace) (fp : Audioformat) : Bool :=
  let it := params.intervals .rate
  let ct := params.intervals .channels
  let fmts := params.masks .format
  let pt := params.intervals .periodTime
  let checkFmts := sndMaskIntersect ⟨fp.formats⟩ fmts
  if sndMaskEmpty checkFmts then false
  else if fp.channels < ct.min || fp.channels > ct.max then false
  else if fp.rateMin > it.max || (fp.rateMin == it.max && it.openmax) then false
  else if fp.rateMax < it.min || (fp.rateMax == it.min && it.openmin) then false
  else
    let ptime := packetTime fp.datainterval
    if !subs.fullSpeed && (ptime > pt.max || (ptime == pt.max && pt.openmax)) then false else true

def SndUsbSubstream.validFormats (params : HwSpace) : List Audioformat :=
  subs.fmtList.filter (subs.hwCheckValidFormat params)

/-- The loop of `hw_rule_rate` and `hw_rule_channels`; `none` as long as `changed` is zero. -/
def widen (low high : Audioformat → UInt32) (hull : Option (UInt32 × UInt32)) (fp : Audioformat) : Option (UInt32 × UInt32) :=
  match hull with
  | none => some (low fp, high fp)
  | some (rmin, rmax) =>
    some (if rmin > low fp then low fp else rmin, if rmax < high fp then high fp else rmax)

def sndIntervalClipMin (it : SndInterval) (rmin : UInt32) : Bool × SndInterval :=
  if it.min < rmin then (true, { it with min := rmin, openmin := false }) else (false, it)

def sndIntervalClipMax (it : SndInterval) (rmax : UInt32) : Bool × SndInterval :=
  if it.max > rmax then (true, { it with max := rmax, openmax := false }) else (false, it)

/-- `hw_rule_rate` and `hw_rule_channels`, which differ in the interval and in the fields that bound it. -/
def SndUsbSubstream.hwRuleHull (var : IntervalParam) (low high : Audioformat → UInt32) (params : HwSpace) : Int × HwSpace :=
  let it := params.intervals var
  match (subs.validFormats params).foldl (widen low high) none with
  | none => (-EINVAL, params.setInterval var { it with empty := true })
  | some (rmin, rmax) =>
    let (lower, it) := sndIntervalClipMin it rmin
    let (upper, it) := sndIntervalClipMax it rmax
    if sndIntervalCheckempty it then (-EINVAL, params.setInterval var { it with empty := true })
    else (if lower || upper then 1 else 0, params.setInterval var it)

def SndUsbSubstream.hwRuleRate (params : HwSpace) : Int × HwSpace :=
  subs.hwRuleHull .rate Audioformat.rateMin Audioformat.rateMax params

def SndUsbSubstream.hwRuleChannels (params : HwSpace) : Int × HwSpace :=
  subs.hwRuleHull .channels Audioformat.channels Audioformat.channels params

def SndUsbSubstream.hwRuleFormat (params : HwSpace) : Int × HwSpace :=
  let fmt := params.masks .format
  let fbits := (subs.validFormats params).foldl (fun fbits fp => fbits ||| fp.formats) 0
  let mask := sndMaskIntersect fmt ⟨fbits⟩
  if sndMaskEmpty mask then (-EINVAL, params.setMask .format mask)
  else (if sndMaskEq fmt mask then 0 else 1, params.setMask .format mask)

def SndUsbSubstream.hwRulePeriodTime (params : HwSpace) : Int × HwSpace :=
  let it := params.intervals .periodTime
  let minDatainterval := (subs.validFormats params).foldl (fun least fp => min least fp.datainterval) 0xff
  if minDatainterval == 0xff then (-EINVAL, params.setInterval .periodTime { it with empty := true })
  else
    let (lower, it) := sndIntervalClipMin it (packetTime minDatainterval)
    if sndIntervalCheckempty it then (-EINVAL, params.setInterval .periodTime { it with empty := true })
    else (if lower then 1 else 0, params.setInterval .periodTime it)

/-- The list `snd_usb_pcm_check_knot` installs, if it does. -/
def SndUsbSubstream.rateList : Option (List UInt32) :=
  if subs.fmtList.any Audioformat.continuous then none
  else if !subs.fmtList.any fun fp => fp.rates &&& SNDRV_PCM_RATE_KNOT != 0 then none
  else some (subs.fmtList.flatMap Audioformat.rateTable)

/-- What `setup_hw_info` puts into `runtime->hw`. -/
def SndUsbSubstream.formats : BitVec 64 := subs.fmtList.foldl (fun formats fp => formats ||| fp.formats) 0

def SndUsbSubstream.rates : UInt32 := subs.fmtList.foldl (fun rates fp => rates ||| fp.rates) 0

def SndUsbSubstream.rateMin : UInt32 := subs.fmtList.foldl (fun least fp => min least fp.rateMin) 0x7fffffff

def SndUsbSubstream.rateMax : UInt32 := subs.fmtList.foldl (fun most fp => max most fp.rateMax) 0

def SndUsbSubstream.channelsMin : UInt32 := subs.fmtList.foldl (fun least fp => min least fp.channels) 256

def SndUsbSubstream.channelsMax : UInt32 := subs.fmtList.foldl (fun most fp => max most fp.channels) 0

def SndUsbSubstream.ptmin : UInt32 :=
  if subs.fullSpeed then 1000
  else subs.fmtList.foldl (fun ptmin fp => min ptmin (packetTime fp.datainterval)) UINT_MAX

/-- `param_period_time_if_needed`. -/
def SndUsbSubstream.paramPeriodTime : List HwParam := if subs.ptmin == 1000 then [] else [.interval .periodTime]

/-- `snd_pcm_hw_rule_rate`, which `snd_pcm_hw_constraints_complete` adds. -/
def SndUsbSubstream.sndPcmHwRuleRate (params : HwSpace) : Int × HwSpace :=
  sndPcmHwRuleList params .rate knownRates subs.rates

/-- The three rules of `setup_hw_info` that are always there. -/
def SndUsbSubstream.formatRules : List (Rule HwParam HwSpace) :=
  [⟨.interval .rate, [.mask .format, .interval .channels] ++ subs.paramPeriodTime, subs.hwRuleRate⟩,
    ⟨.interval .channels, [.mask .format, .interval .rate] ++ subs.paramPeriodTime, subs.hwRuleChannels⟩,
    ⟨.mask .format, [.interval .rate, .interval .channels] ++ subs.paramPeriodTime, subs.hwRuleFormat⟩]

def SndUsbSubstream.periodTimeRules : List (Rule HwParam HwSpace) :=
  if subs.paramPeriodTime.isEmpty then []
  else [⟨.interval .periodTime, [.mask .format, .interval .channels, .interval .rate], subs.hwRulePeriodTime⟩]

def SndUsbSubstream.knotRules : List (Rule HwParam HwSpace) :=
  match subs.rateList with
  | none => []
  | some list => [⟨.interval .rate, [.interval .rate], fun params => sndPcmHwRuleList params .rate list 0⟩]

/-- The rules of the driver, as `setup_hw_info` adds them. -/
def SndUsbSubstream.setupRules : List (Rule HwParam HwSpace) :=
  subs.formatRules ++ subs.periodTimeRules ++ subs.knotRules

def SndUsbSubstream.knownRules : List (Rule HwParam HwSpace) :=
  if subs.rates &&& (SNDRV_PCM_RATE_KNOT ||| SNDRV_PCM_RATE_CONTINUOUS) == 0 then
    [⟨.interval .rate, [.interval .rate], subs.sndPcmHwRuleRate⟩]
  else []

def sndPcmHwConstraintMinmax (s : HwSpace) (var : IntervalParam) (min max : UInt32) : Int × HwSpace :=
  let (changed, i) := sndIntervalRefine (s.intervals var)
    { min := min, max := max, openmin := false, openmax := false, integer := false, empty := false }
  (changed, s.setInterval var i)

def sndPcmHwConstraintMask64 (s : HwSpace) (var : MaskParam) (mask : BitVec 64) : Int × HwSpace :=
  let m := sndMaskIntersect (s.masks var) ⟨mask⟩
  (if sndMaskEmpty m then -EINVAL else 0, s.setMask var m)

/-- The constraint box an open substream has for its format, channels, rate and period time; `none` when the open
    fails. -/
def SndUsbSubstream.constraints : Option HwSpace :=
  let (_, s) := sndPcmHwConstraintMinmax initSpace .periodTime subs.ptmin UINT_MAX
  let (err, s) := sndPcmHwConstraintMask64 s .format subs.formats
  if err < 0 then none
  else
    let (err, s) := sndPcmHwConstraintMinmax s .channels subs.channelsMin subs.channelsMax
    if err < 0 then none
    else
      let (err, s) := sndPcmHwConstraintMinmax s .rate subs.rateMin subs.rateMax
      if err < 0 then none else some s

/-- `snd_pcm_hw_refine` as `snd_pcm_hw_params` calls it, with the rules above; `none` when the rule loop has not
    ended after `fuel` turns. -/
def SndUsbSubstream.hwRefine (box : HwSpace) (fuel : Nat) (params : SndPcmHwParams) : Option (Int × HwSpace) :=
  let params := { params with rmask := 0xffffffff }
  let (err, entered) := refineEnter ⟨box, []⟩ params
  if err < 0 then some (err, entered.space)
  else
    match runFor (loopStep (subs.setupRules ++ subs.knownRules)) fuel (loopStart params.requests entered.space) with
    | .next _ => none
    | .halt result => some result

end AlsaDriver.Usb
