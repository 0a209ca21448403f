import Mathlib.Data.Rat.Cast.Order

namespace AlsaDriver.Pcm

def EINVAL : Int := 22

theorem EINVAL_failure : ¬ 0 ≤ -EINVAL := by decide

def UINT_MAX : UInt32 := 0xffffffff

theorem ne_zero_iff_toNat (a : UInt32) : a ≠ 0 ↔ 0 < a.toNat := by
  rw [ne_eq, ← UInt32.toNat_inj, UInt32.toNat_zero, Nat.pos_iff_ne_zero]

/-- `struct snd_interval`: the end points, which of them are excluded, and the two status bits. -/
structure SndInterval where
  min : UInt32
  max : UInt32
  openmin : Bool
  openmax : Bool
  integer : Bool
  empty : Bool
  deriving DecidableEq, Repr

def sndIntervalAny : SndInterval where
  min := 0
  max := UINT_MAX
  openmin := false
  openmax := false
  integer := false
  empty := false

def sndIntervalNone (i : SndInterval) : SndInterval := { i with empty := true }

def sndIntervalCheckempty (i : SndInterval) : Bool :=
  i.min > i.max || (i.min == i.max && (i.openmin || i.openmax))

def sndIntervalEmpty (i : SndInterval) : Bool := i.empty

def sndIntervalSingle (i : SndInterval) : Bool :=
  i.min == i.max || (i.min + 1 == i.max && i.openmax)

def sndIntervalValue (i : SndInterval) : UInt32 := i.min

def sndIntervalMin (i : SndInterval) : UInt32 := i.min

def sndIntervalMax (i : SndInterval) : UInt32 := if i.openmax then i.max - 1 else i.max

def sndIntervalTest (i : SndInterval) (val : UInt32) : Bool :=
  !((i.min > val || (i.min == val && i.openmin)) || i.max < val || (i.max == val && i.openmax))

def sndIntervalSetinteger (i : SndInterval) : Int × SndInterval :=
  if i.integer then (0, i)
  else if i.openmin && i.openmax && i.min == i.max then (-EINVAL, i)
  else (1, { i with integer := true })

/-- Quotient and remainder of `div32`, which divides by zero into `UINT_MAX`. -/
def div32 (a b : UInt32) : UInt32 × UInt32 :=
  if b == 0 then (UINT_MAX, 0) else (a / b, a % b)

def divDown (a b : UInt32) : UInt32 := if b == 0 then UINT_MAX else a / b

/-- The saturating product of `pcm_lib.c`. -/
def mul (a b : UInt32) : UInt32 :=
  if a == 0 then 0 else if divDown UINT_MAX a < b then UINT_MAX else a * b

/-- `a * b / c` in 64 bits with its remainder, saturated at `UINT_MAX`. -/
def muldiv32 (a b c : UInt32) : UInt32 × UInt32 :=
  let n := a.toUInt64 * b.toUInt64
  if c == 0 then (UINT_MAX, 0)
  else if n / c.toUInt64 ≥ UINT_MAX.toUInt64 then (UINT_MAX, 0)
  else ((n / c.toUInt64).toUInt32, (n % c.toUInt64).toUInt32)

/-- The comparison of the lower ends in `snd_interval_refine`, with its `changed` flag. -/
def sndIntervalRefineMin (i v : SndInterval) : Bool × SndInterval :=
  if i.min < v.min then (true, { i with min := v.min, openmin := v.openmin })
  else if i.min == v.min && !i.openmin && v.openmin then (true, { i with openmin := true })
  else (false, i)

def sndIntervalRefineMax (i v : SndInterval) : Bool × SndInterval :=
  if i.max > v.max then (true, { i with max := v.max, openmax := v.openmax })
  else if i.max == v.max && !i.openmax && v.openmax then (true, { i with openmax := true })
  else (false, i)

def sndIntervalRefineInteger (i v : SndInterval) : Bool × SndInterval :=
  if !i.integer && v.integer then (true, { i with integer := true }) else (false, i)

def sndIntervalCloseMin (i : SndInterval) : SndInterval :=
  if i.openmin then { i with min := i.min + 1, openmin := false } else i

def sndIntervalCloseMax (i : SndInterval) : SndInterval :=
  if i.openmax then { i with max := i.max - 1, openmax := false } else i

def sndIntervalNormalise (i : SndInterval) : SndInterval :=
  if i.integer then sndIntervalCloseMax (sndIntervalCloseMin i)
  else if !i.openmin && !i.openmax && i.min == i.max then { i with integer := true }
  else i

/-- The intersection `snd_interval_refine` has computed when it tests for emptiness. -/
def sndIntervalMeet (i v : SndInterval) : Bool × SndInterval :=
  let (low, i) := sndIntervalRefineMin i v
  let (high, i) := sndIntervalRefineMax i v
  let (integer, i) := sndIntervalRefineInteger i v
  (low || high || integer, i)

def sndIntervalRefine (i v : SndInterval) : Int × SndInterval :=
  if sndIntervalEmpty i then (-EINVAL, i)
  else
    let (changed, i) := sndIntervalMeet i v
    let i := sndIntervalNormalise i
    if sndIntervalCheckempty i then (-EINVAL, sndIntervalNone i)
    else (if changed then 1 else 0, i)

/-- `c = a * b`; an empty operand leaves the other fields of `c` as they are. -/
def sndIntervalMul (a b c : SndInterval) : SndInterval :=
  if a.empty || b.empty then sndIntervalNone c
  else
    { min := mul a.min b.min
      openmin := a.openmin || b.openmin
      max := mul a.max b.max
      openmax := a.openmax || b.openmax
      integer := a.integer && b.integer
      empty := false }

def sndIntervalDiv (a b c : SndInterval) : SndInterval :=
  if a.empty || b.empty then sndIntervalNone c
  else
    let (low, r) := div32 a.min b.max
    let c := { c with empty := false, min := low, openmin := r != 0 || a.openmin || b.openmax }
    let c :=
      if b.min > 0 then
        let (high, r) := div32 a.max b.min
        if r != 0 then { c with max := high + 1, openmax := true }
        else { c with max := high, openmax := a.openmax || b.openmin }
      else { c with max := UINT_MAX, openmax := false }
    { c with integer := false }

def sndIntervalMuldivk (a b : SndInterval) (k : UInt32) (c : SndInterval) : SndInterval :=
  if a.empty || b.empty then sndIntervalNone c
  else
    let (low, r) := muldiv32 a.min b.min k
    let c := { c with empty := false, min := low, openmin := r != 0 || a.openmin || b.openmin }
    let (high, r) := muldiv32 a.max b.max k
    let c :=
      if r != 0 then { c with max := high + 1, openmax := true }
      else { c with max := high, openmax := a.openmax || b.openmax }
    { c with integer := false }

def sndIntervalMulkdiv (a : SndInterval) (k : UInt32) (b c : SndInterval) : SndInterval :=
  if a.empty || b.empty then sndIntervalNone c
  else
    let (low, r) := muldiv32 a.min k b.max
    let c := { c with empty := false, min := low, openmin := r != 0 || a.openmin || b.openmax }
    let c :=
      if b.min > 0 then
        let (high, r) := muldiv32 a.max k b.min
        if r != 0 then { c with max := high + 1, openmax := true }
        else { c with max := high, openmax := a.openmax || b.openmin }
      else { c with max := UINT_MAX, openmax := false }
    { c with integer := false }

/-- Whether `snd_interval_list` looks at entry `k`: bit `k` of a non-zero mask, the shift count
    being taken modulo 32 as the machine does. -/
def listSelects (mask : UInt32) (k : Nat) : Bool :=
  mask == 0 || mask &&& (1 <<< UInt32.ofNat (k % 32)) != 0

/-- The loop of `snd_interval_list` over the entries from index `k` on. -/
def listRange (i : SndInterval) (mask : UInt32) : Nat → List UInt32 → SndInterval → SndInterval
  | _, [], range => range
  | k, x :: rest, range =>
    if listSelects mask k && sndIntervalTest i x then
      listRange i mask (k + 1) rest { range with min := Min.min range.min x, max := Max.max range.max x }
    else listRange i mask (k + 1) rest range

def sndIntervalList (i : SndInterval) (list : List UInt32) (mask : UInt32) : Int × SndInterval :=
  if list.length == 0 then (-EINVAL, { i with empty := true })
  else sndIntervalRefine i (listRange i mask 0 list { sndIntervalAny with min := UINT_MAX, max := 0 })

/-- The lower half of `snd_interval_step`, with its `changed` flag. -/
def sndIntervalStepMin (i : SndInterval) (min step : UInt32) : Bool × SndInterval :=
  let n := (i.min - min) % step
  if n != 0 || i.openmin then (true, { i with min := i.min + (step - n) }) else (false, i)

def sndIntervalStepMax (i : SndInterval) (min step : UInt32) : Bool × SndInterval :=
  let n := (i.max - min) % step
  if n != 0 || i.openmax then (true, { i with max := i.max - n }) else (false, i)

def sndIntervalStep (i : SndInterval) (min step : UInt32) : Int × SndInterval :=
  let (low, i) := sndIntervalStepMin i min step
  let (high, i) := sndIntervalStepMax i min step
  if sndIntervalCheckempty i then (-EINVAL, { i with empty := true })
  else (if low || high then 1 else 0, i)

end AlsaDriver.Pcm
