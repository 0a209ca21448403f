import Mathlib.Logic.Function.Basic
import AlsaDriver.Lib.Words
import AlsaDriver.Control.Card

namespace AlsaDriver.Control

open Words

/-- `SNDRV_CTL_ELEM_TYPE_*`, as far as `vmaster.c` tells them apart. -/
inductive LinkType where
  | boolean
  | integer
  | other
  deriving DecidableEq

structure LinkCtlInfo where
  type : LinkType
  count : Nat
  minVal : Int
  maxVal : Int

/-- A slave with the control it wraps: `elemInfo` is what the `info` callback of that control returns, and `hardware`
    are the values that its `get` callback reads and its `put` callback writes. -/
structure LinkSlave where
  info : LinkCtlInfo
  vals : Nat → Int
  needUpdate : Bool
  elemInfo : LinkCtlInfo
  hardware : Nat → Int

/-- The master with its list of slaves, of which there are `num`. -/
structure LinkMaster where
  num : Nat
  slaves : Nat → LinkSlave
  info : LinkCtlInfo
  val : Int

/-- Conversion of a `long` or of an overflowing sum to an `int`. -/
def toInt (x : Int) : Int := toSigned 32 x

namespace LinkSlave

variable (slave : LinkSlave)

def slaveUpdate : LinkSlave :=
  { slave with vals := fun ch => if ch < slave.info.count then toInt (slave.hardware ch) else slave.vals ch }

def slaveInit : Int × LinkSlave :=
  if slave.info.count ≠ 0 then (0, if slave.needUpdate then slave.slaveUpdate else slave)
  else
    let slave := { slave with info := { slave.info with type := slave.elemInfo.type, count := slave.elemInfo.count } }
    if slave.info.count > 2 || slave.info.type == .other then (-EINVAL, slave)
    else
      let slave := { slave with
        info := { slave.info with minVal := toInt slave.elemInfo.minVal, maxVal := toInt slave.elemInfo.maxVal } }
      (0, slave.slaveUpdate)

/-- The `put` callback of the wrapped control. -/
def put (value : Nat → Int) : LinkSlave :=
  { slave with hardware := fun ch => if ch < slave.elemInfo.count then value ch else slave.hardware ch }

/-- The loop of `slave_put` over the channels. -/
def store (value : Nat → Int) : LinkSlave :=
  { slave with
    vals := fun ch => if ch < slave.info.count ∧ slave.vals ch ≠ value ch then toInt (value ch) else slave.vals ch }

/-- What `slave_put_val` makes of a channel, for the master's value and maximum. -/
def attenuate (val maxVal : Int) (value : Int) : Int :=
  match slave.info.type with
  | .boolean => if val ≠ 0 then value % 2 else 0
  | .integer =>
    let vol := toInt value
    let vol := toInt (vol + toInt (val - maxVal))
    if vol < slave.info.minVal then slave.info.minVal
    else if vol > slave.info.maxVal then slave.info.maxVal
    else vol
  | .other => value

end LinkSlave

namespace LinkMaster

variable (s : LinkMaster)

def setSlave (i : Nat) (slave : LinkSlave) : LinkMaster := { s with slaves := Function.update s.slaves i slave }

def masterInit : Int × LinkMaster :=
  if s.info.count ≠ 0 then (0, s)
  else if s.num = 0 then (-ENOENT, s)
  else
    let (err, slave) := (s.slaves 0).slaveInit
    let s := s.setSlave 0 slave
    if err < 0 then (err, s)
    else (1, { s with info := { slave.info with count := 1 }, val := slave.info.maxVal })

def slaveGetVal (i : Nat) (value : Nat → Int) : Int × (Nat → Int) × LinkMaster :=
  let (err, slave) := (s.slaves i).slaveInit
  let s := s.setSlave i slave
  if err < 0 then (err, value, s)
  else (0, fun ch => if ch < slave.info.count then slave.vals ch else value ch, s)

def slavePutVal (i : Nat) (value : Nat → Int) : Int × (Nat → Int) × LinkMaster :=
  let (err, s) := s.masterInit
  if err < 0 then (err, value, s)
  else
    let slave := s.slaves i
    let value := fun ch => if ch < slave.info.count then slave.attenuate s.val s.info.maxVal (value ch) else value ch
    (0, value, s.setSlave i (slave.put value))

def slaveGet (i : Nat) (value : Nat → Int) : Int × (Nat → Int) × LinkMaster := s.slaveGetVal i value

def slavePut (i : Nat) (value : Nat → Int) : Int × (Nat → Int) × LinkMaster :=
  let (err, slave) := (s.slaves i).slaveInit
  if err < 0 then (err, value, s.setSlave i slave)
  else
    let changed := (List.range slave.info.count).any fun ch => slave.vals ch != value ch
    let s := s.setSlave i (slave.store value)
    if !changed then (0, value, s)
    else
      let (err, value, s) := s.slavePutVal i value
      if err < 0 then (err, value, s) else (1, value, s)

def masterGet (value : Nat → Int) : Int × (Nat → Int) × LinkMaster :=
  let (err, s) := s.masterInit
  if err < 0 then (err, value, s) else (0, Function.update value 0 s.val, s)

/-- One turn of the loop of `sync_slaves`. -/
def syncSlave (oldVal newVal : Int) (done : (Nat → Int) × LinkMaster) (i : Nat) : (Nat → Int) × LinkMaster :=
  let (_, uval, s) := { done.2 with val := oldVal }.slaveGetVal i done.1
  let (_, uval, s) := { s with val := newVal }.slavePutVal i uval
  (uval, s)

/-- `uval` is what `kmalloc` left in the value. -/
def syncSlaves (uval : Nat → Int) (oldVal newVal : Int) : LinkMaster :=
  ((List.range s.num).foldl (syncSlave oldVal newVal) (uval, s)).2

def masterPut (uval : Nat → Int) (value : Int) : Int × LinkMaster :=
  let (err, s) := s.masterInit
  if err < 0 then (err, s)
  else
    let oldVal := s.val
    let newVal := toInt value
    if newVal = oldVal then (0, s) else (1, s.syncSlaves uval oldVal newVal)

def sndCtlSyncVmaster (uval : Nat → Int) (hookOnly : Bool) : LinkMaster :=
  if hookOnly then s
  else
    let (err, s) := s.masterInit
    if err < 0 then s else s.syncSlaves uval s.val s.val

/-- The accesses to the master and to a slave `i`, and `snd_ctl_sync_vmaster`. -/
inductive VmasterOp where
  | masterGet
  | masterPut (value : Int)
  | slaveGet (i : Nat)
  | slavePut (i : Nat) (value : Nat → Int)
  | sync (hookOnly : Bool)

def exec (uval : Nat → Int) (s : LinkMaster) : VmasterOp → LinkMaster
  | .masterGet => (s.masterGet uval).2.2
  | .masterPut value => (s.masterPut uval value).2
  | .slaveGet i => if i < s.num then (s.slaveGet i uval).2.2 else s
  | .slavePut i value => if i < s.num then (s.slavePut i value).2.2 else s
  | .sync hookOnly => s.sndCtlSyncVmaster uval hookOnly

end LinkMaster

end AlsaDriver.Control

namespace AlsaDriver.Control

open Words

/-- The value is one an `int` can have. -/
def Fits (x : Int) : Prop := -2 ^ 31 ≤ x ∧ x < 2 ^ 31

instance instDecidableFits (x : Int) : Decidable (Fits x) := instDecidableAnd

theorem toInt_of_fits {x : Int} (fits : Fits x) : toInt x = x := toSigned_of_range fits.1 fits.2

theorem toInt_add (x y : Int) : toInt (x + toInt y) = toInt (x + y) := Int.add_bmod_bmod

def LinkMaster.VmasterOp.own (u : Nat → Nat → Int) : LinkMaster.VmasterOp → Nat → Nat → Int
  | .slavePut i value => Function.update u i value
  | _ => u

def LinkMaster.VmasterOp.master (m : Int) : LinkMaster.VmasterOp → Int
  | .masterPut value => value
  | _ => m

/-- A master and the slaves that were added to it: controls of one type and range with one or two channels, whose
    hardware has some value in that range. -/
structure VmasterSetup where
  type : LinkType
  minVal : Int
  maxVal : Int
  num : Nat
  channels : Nat → Nat
  hardware : Nat → Nat → Int
  supported : type ≠ .other
  range : minVal ≤ maxVal
  low : Fits minVal
  high : Fits maxVal
  switch : type = .boolean → minVal = 0 ∧ maxVal = 1
  monoOrStereo : ∀ i, channels i = 1 ∨ channels i = 2
  inside : ∀ i ch, minVal ≤ hardware i ch ∧ hardware i ch ≤ maxVal

namespace VmasterSetup

variable (v : VmasterSetup)

def elemInfo (i : Nat) : LinkCtlInfo := ⟨v.type, v.channels i, v.minVal, v.maxVal⟩

def initial : LinkMaster where
  num := v.num
  slaves := fun i => ⟨⟨v.type, 0, 0, 0⟩, fun _ => 0, false, v.elemInfo i, v.hardware i⟩
  info := ⟨v.type, 0, 0, 0⟩
  val := 0

def level (u m : Int) : Int :=
  match v.type with
  | .boolean => if m ≠ 0 then u % 2 else 0
  | _ => max v.minVal (min (u + m - v.maxVal) v.maxVal)

def own (ops : List LinkMaster.VmasterOp) : Nat → Nat → Int := ops.foldl LinkMaster.VmasterOp.own v.hardware

def master (ops : List LinkMaster.VmasterOp) : Int :=
  ops.foldl LinkMaster.VmasterOp.master v.maxVal

/-- No written value and no sum of a slave's and the master's attenuation leaves an `int`. -/
def NoOverflow (u : Nat → Nat → Int) (m : Int) : Prop :=
  Fits m ∧ ∀ i < v.num, ∀ ch < v.channels i, Fits (u i ch) ∧ (v.type = .integer → Fits (u i ch + m - v.maxVal))

instance instDecidableNoOverflow (u : Nat → Nat → Int) (m : Int) : Decidable (v.NoOverflow u m) := instDecidableAnd

end VmasterSetup

variable {v : VmasterSetup}

/-- A slave that was not accessed yet, or that has its own values `u` cached, while its hardware has `h`. -/
structure SlaveKept (v : VmasterSetup) (i : Nat) (slave : LinkSlave) (u h : Nat → Int) : Prop where
  elemInfo : slave.elemInfo = v.elemInfo i
  cached : slave.needUpdate = false
  hardware : ∀ ch < v.channels i, slave.hardware ch = h ch
  vals : (slave.info.count = 0 ∧ ∀ ch < v.channels i, h ch = u ch) ∨
    (slave.info = v.elemInfo i ∧ ∀ ch < v.channels i, slave.vals ch = u ch)

theorem channels_pos (v : VmasterSetup) (i : Nat) : v.channels i ≠ 0 ∧ v.channels i ≤ 2 := by
  obtain one | two := v.monoOrStereo i <;> omega

theorem slaveInit_kept {i : Nat} {slave : LinkSlave} {u h : Nat → Int} (kept : SlaveKept v i slave u h)
    (fits : ∀ ch < v.channels i, Fits (u ch)) : slave.slaveInit.1 = 0 ∧ SlaveKept v i slave.slaveInit.2 u h ∧
      slave.slaveInit.2.info = v.elemInfo i ∧ ∀ ch < v.channels i, slave.slaveInit.2.vals ch = u ch := by
  obtain ⟨some_, few⟩ := channels_pos v i
  unfold LinkSlave.slaveInit
  obtain ⟨fresh, same⟩ | ⟨info, vals⟩ := kept.vals
  · rw [if_neg (not_not.mpr fresh)]
    dsimp only
    rw [kept.elemInfo, if_neg]
    · have ready : LinkCtlInfo.mk v.type (v.channels i) (toInt v.minVal) (toInt v.maxVal) = v.elemInfo i := by
        rw [toInt_of_fits v.low, toInt_of_fits v.high]
        rfl
      have read (ch : Nat) (inside : ch < v.channels i) :
          (if ch < v.channels i then toInt (slave.hardware ch) else slave.vals ch) = u ch := by
        rw [if_pos inside, kept.hardware ch inside, same ch inside, toInt_of_fits (fits ch inside)]
      exact ⟨rfl, ⟨rfl, kept.cached, kept.hardware, Or.inr ⟨ready, read⟩⟩, ready, read⟩
    · have supported := v.supported
      simp only [VmasterSetup.elemInfo, Bool.or_eq_true, decide_eq_true_eq, beq_iff_eq, not_or, gt_iff_lt]
      exact ⟨by omega, supported⟩
  · have inited : slave.info.count ≠ 0 := by
      rw [info]
      exact some_
    rw [if_pos inited, kept.cached]
    exact ⟨rfl, kept, info, vals⟩

theorem attenuate_level {i : Nat} {slave : LinkSlave} (info : slave.info = v.elemInfo i) {u m : Int} (first : Fits u)
    (sum : v.type = .integer → Fits (u + m - v.maxVal)) : slave.attenuate m v.maxVal u = v.level u m := by
  have range := v.range
  have supported := v.supported
  unfold LinkSlave.attenuate VmasterSetup.level
  rw [info]
  unfold VmasterSetup.elemInfo
  dsimp only
  cases type : v.type with
  | boolean => rfl
  | integer =>
    dsimp only
    rw [toInt_of_fits first, toInt_add, ← Int.add_sub_assoc, toInt_of_fits (sum type)]
    split
    · omega
    · split <;> omega
  | other => exact absurd type supported

/-- The master, at value `m`, and its slaves. -/
structure VmasterKept (v : VmasterSetup) (s : LinkMaster) (u h : Nat → Nat → Int) (m : Int) : Prop where
  num : s.num = v.num
  slaves : ∀ i < v.num, SlaveKept v i (s.slaves i) (u i) (h i)
  master : (s.info.count = 0 ∧ m = v.maxVal) ∨ (s.info = ⟨v.type, 1, v.minVal, v.maxVal⟩ ∧ s.val = m)

theorem setSlave_self (s : LinkMaster) (i : Nat) (slave : LinkSlave) : (s.setSlave i slave).slaves i = slave :=
  Function.update_self ..

theorem setSlave_of_ne (s : LinkMaster) {i j : Nat} (slave : LinkSlave) (other : j ≠ i) :
    (s.setSlave i slave).slaves j = s.slaves j := Function.update_of_ne other ..

variable {s : LinkMaster} {u h : Nat → Nat → Int} {m : Int}

theorem VmasterKept.setSlave (kept : VmasterKept v s u h m) {i : Nat} {slave : LinkSlave} {u' h' : Nat → Int}
    (slaveKept : SlaveKept v i slave u' h') :
    VmasterKept v (s.setSlave i slave) (Function.update u i u') (Function.update h i h') m := by
  refine ⟨kept.num, fun j known => ?_, kept.master⟩
  by_cases same : j = i
  · subst same
    rw [setSlave_self, Function.update_self, Function.update_self]
    exact slaveKept
  · rw [setSlave_of_ne s slave same, Function.update_of_ne same, Function.update_of_ne same]
    exact kept.slaves j known

theorem VmasterKept.setSlave_same (kept : VmasterKept v s u h m) {i : Nat} {slave : LinkSlave}
    (slaveKept : SlaveKept v i slave (u i) (h i)) : VmasterKept v (s.setSlave i slave) u h m := by
  have set_ := kept.setSlave slaveKept
  rwa [Function.update_eq_self, Function.update_eq_self] at set_

theorem VmasterKept.withVal (kept : VmasterKept v s u h m) (inited : s.info = ⟨v.type, 1, v.minVal, v.maxVal⟩) (m' : Int) :
    VmasterKept v { s with val := m' } u h m' := ⟨kept.num, kept.slaves, Or.inr ⟨inited, rfl⟩⟩

/-- The slaves' own values fit an `int`. -/
def Small (v : VmasterSetup) (u : Nat → Nat → Int) : Prop := ∀ i < v.num, ∀ ch < v.channels i, Fits (u i ch)

theorem masterInit_kept (kept : VmasterKept v s u h m) (small : Small v u) (some_ : 0 < v.num) :
    0 ≤ s.masterInit.1 ∧ VmasterKept v s.masterInit.2 u h m ∧ s.masterInit.2.info = ⟨v.type, 1, v.minVal, v.maxVal⟩ ∧
      s.masterInit.2.val = m ∧ ∀ i, (s.slaves i).info = v.elemInfo i → (s.masterInit.2.slaves i).info = v.elemInfo i := by
  unfold LinkMaster.masterInit
  obtain ⟨fresh, top⟩ | ⟨info, val⟩ := kept.master
  · obtain ⟨success, slave, ready, -⟩ := slaveInit_kept (kept.slaves 0 some_) (small 0 some_)
    have slaves := kept.setSlave_same slave
    rw [if_neg (not_not.mpr fresh), if_neg (by rw [kept.num]; omega)]
    dsimp only
    rw [success, if_neg (Int.lt_irrefl 0)]
    have inited : ({ (s.slaves 0).slaveInit.2.info with count := 1 } : LinkCtlInfo) = ⟨v.type, 1, v.minVal, v.maxVal⟩ := by
      rw [ready]
      rfl
    have full : (s.slaves 0).slaveInit.2.info.maxVal = m := by
      rw [ready, top]
      rfl
    refine ⟨show (0 : Int) ≤ 1 by decide, ⟨slaves.num, slaves.slaves, Or.inr ⟨inited, full⟩⟩, inited, full, fun i same => ?_⟩
    show ((s.setSlave 0 (s.slaves 0).slaveInit.2).slaves i).info = _
    by_cases first : i = 0
    · subst first
      rw [setSlave_self]
      exact ready
    · rw [setSlave_of_ne s _ first]
      exact same
  · rw [if_pos (by rw [info]; exact Nat.one_ne_zero)]
    exact ⟨Int.le_refl 0, kept, info, val, fun _ => id⟩

theorem slavePutVal_kept (kept : VmasterKept v s u h m) (small : Small v u) {i : Nat} (known : i < v.num)
    (ready : (s.slaves i).info = v.elemInfo i) {value : Nat → Int} (values : ∀ ch < v.channels i, value ch = u i ch)
    (sums : ∀ ch < v.channels i, v.type = .integer → Fits (u i ch + m - v.maxVal)) :
    0 ≤ (s.slavePutVal i value).1 ∧
      VmasterKept v (s.slavePutVal i value).2.2 u (Function.update h i fun ch => v.level (u i ch) m) m ∧
      (s.slavePutVal i value).2.2.info = ⟨v.type, 1, v.minVal, v.maxVal⟩ := by
  obtain ⟨success, inited, info, val, readies⟩ := masterInit_kept kept small (Nat.zero_lt_of_lt known)
  have slave := inited.slaves i known
  have now := readies i ready
  unfold LinkMaster.slavePutVal
  dsimp only
  rw [if_neg (Int.not_lt.mpr success)]
  refine ⟨Int.le_refl 0, ?_, info⟩
  have put : SlaveKept v i ((s.masterInit.2.slaves i).put fun ch => if ch < (s.masterInit.2.slaves i).info.count then
      (s.masterInit.2.slaves i).attenuate s.masterInit.2.val s.masterInit.2.info.maxVal (value ch) else value ch)
      (u i) (fun ch => v.level (u i ch) m) := by
    refine ⟨slave.elemInfo, slave.cached, fun ch inside => ?_, Or.inr ⟨now, ?_⟩⟩
    · have channel : ch < (s.masterInit.2.slaves i).elemInfo.count := by
        rw [slave.elemInfo]
        exact inside
      have channel' : ch < (s.masterInit.2.slaves i).info.count := by
        rw [now]
        exact inside
      show (if ch < (s.masterInit.2.slaves i).elemInfo.count then _ else _) = _
      rw [if_pos channel, if_pos channel', val, info, values ch inside]
      exact attenuate_level now (small i known ch inside) (sums ch inside)
    · obtain ⟨fresh, -⟩ | ⟨-, vals⟩ := slave.vals
      · rw [now] at fresh
        exact absurd fresh (channels_pos v i).1
      · exact vals
  have set_ := inited.setSlave put
  rwa [Function.update_eq_self] at set_

theorem VmasterKept.congr {u' h' : Nat → Nat → Int} (kept : VmasterKept v s u h m)
    (own : ∀ i < v.num, ∀ ch < v.channels i, u i ch = u' i ch)
    (hardware : ∀ i < v.num, ∀ ch < v.channels i, h i ch = h' i ch) : VmasterKept v s u' h' m := by
  refine ⟨kept.num, fun i known => ?_, kept.master⟩
  obtain ⟨elemInfo, cached, same, vals⟩ := kept.slaves i known
  refine ⟨elemInfo, cached, fun ch inside => (same ch inside).trans (hardware i known ch inside), ?_⟩
  obtain ⟨fresh, equal⟩ | ⟨info, equal⟩ := vals
  · exact Or.inl ⟨fresh, fun ch inside => by rw [← hardware i known ch inside, equal ch inside, own i known ch inside]⟩
  · exact Or.inr ⟨info, fun ch inside => (equal ch inside).trans (own i known ch inside)⟩

def Attenuated (v : VmasterSetup) (s : LinkMaster) (u : Nat → Nat → Int) (m : Int) : Prop :=
  VmasterKept v s u (fun i ch => v.level (u i ch) m) m

theorem slaveGetVal_kept (kept : VmasterKept v s u h m) (small : Small v u) {i : Nat} (known : i < v.num) (value : Nat → Int) :
    (s.slaveGetVal i value).1 = 0 ∧ (∀ ch < v.channels i, (s.slaveGetVal i value).2.1 ch = u i ch) ∧
      VmasterKept v (s.slaveGetVal i value).2.2 u h m ∧ (s.slaveGetVal i value).2.2.info = s.info ∧
      ((s.slaveGetVal i value).2.2.slaves i).info = v.elemInfo i := by
  obtain ⟨success, slave, ready, vals⟩ := slaveInit_kept (kept.slaves i known) (small i known)
  unfold LinkMaster.slaveGetVal
  dsimp only
  rw [success, if_neg (Int.lt_irrefl 0)]
  refine ⟨rfl, fun ch inside => ?_, kept.setSlave_same slave, rfl, ?_⟩
  · have channel : ch < (s.slaves i).slaveInit.2.info.count := by
      rw [ready]
      exact inside
    exact (if_pos channel).trans (vals ch inside)
  · exact (congrArg LinkSlave.info (setSlave_self s i _)).trans ready

theorem slavePut_kept (kept : Attenuated v s u m) (small : Small v u) {i : Nat} (known : i < v.num) {value : Nat → Int}
    (next : v.NoOverflow (Function.update u i value) m) :
    Attenuated v (s.slavePut i value).2.2 (Function.update u i value) m := by
  have small' : Small v (Function.update u i value) := fun j inside ch channel => (next.2 j inside ch channel).1
  have fits (ch : Nat) (inside : ch < v.channels i) : Fits (value ch) := by
    have here := small' i known ch inside
    rwa [Function.update_self] at here
  obtain ⟨success, slave, ready, vals⟩ := slaveInit_kept (kept.slaves i known) (small i known)
  unfold LinkMaster.slavePut
  dsimp only
  rw [success, if_neg (Int.lt_irrefl 0)]
  generalize (s.slaves i).slaveInit.2 = before at slave ready vals
  have count : before.info.count = v.channels i := by
    rw [ready]
    rfl
  have stored : SlaveKept v i (before.store value) value fun ch => v.level (u i ch) m := by
    refine ⟨slave.elemInfo, slave.cached, slave.hardware, Or.inr ⟨ready, fun ch inside => ?_⟩⟩
    unfold LinkSlave.store
    dsimp only
    split
    · exact toInt_of_fits (fits ch inside)
    · rename_i same
      by_contra other
      exact same ⟨by rw [count]; exact inside, other⟩
  -- the cache has the new values, the hardware not yet
  have cached : VmasterKept v (s.setSlave i (before.store value)) (Function.update u i value)
      (fun i ch => v.level (u i ch) m) m := by
    have written := kept.setSlave stored
    rwa [Function.update_eq_self i fun i ch => v.level (u i ch) m] at written
  split
  · rename_i same
    refine cached.congr (fun _ _ _ _ => rfl) fun j inside ch channel => ?_
    by_cases here : j = i
    · subst here
      rw [Function.update_self]
      have equal := List.any_eq_false.mp (Bool.not_eq_true' _ ▸ same) ch (List.mem_range.mpr (by rw [count]; exact channel))
      have equal : before.vals ch = value ch := by simpa using equal
      rw [← equal, vals ch channel]
    · rw [Function.update_of_ne here]
  · have readied : ((s.setSlave i (before.store value)).slaves i).info = v.elemInfo i :=
      (congrArg LinkSlave.info (setSlave_self s i _)).trans ready
    obtain ⟨done, put, -⟩ := slavePutVal_kept cached small' known readied
      (fun ch _ => (congrFun (Function.update_self i value u) ch).symm) fun ch inside => (next.2 i known ch inside).2
    rw [if_neg (Int.not_lt.mpr done)]
    refine put.congr (fun _ _ _ _ => rfl) fun j _ ch _ => ?_
    by_cases here : j = i
    · subst here
      rw [Function.update_self, Function.update_self]
    · rw [Function.update_of_ne here, Function.update_of_ne here]

section Sync

variable (small : Small v u) {newVal : Int}
  (sums : ∀ i < v.num, ∀ ch < v.channels i, v.type = .integer → Fits (u i ch + newVal - v.maxVal))
include small sums

theorem syncSlave_kept {done : (Nat → Int) × LinkMaster} (oldVal : Int)
    (kept : VmasterKept v { done.2 with val := newVal } u h newVal)
    (inited : done.2.info = ⟨v.type, 1, v.minVal, v.maxVal⟩) {i : Nat} (known : i < v.num) :
    VmasterKept v (LinkMaster.syncSlave oldVal newVal done i).2 u
        (Function.update h i fun ch => v.level (u i ch) newVal) newVal ∧
      (LinkMaster.syncSlave oldVal newVal done i).2.info = ⟨v.type, 1, v.minVal, v.maxVal⟩ := by
  have old : VmasterKept v { done.2 with val := oldVal } u h oldVal := kept.withVal inited oldVal
  obtain ⟨-, values, got, info, ready⟩ := slaveGetVal_kept old small known done.1
  have new := got.withVal (info.trans inited) newVal
  obtain ⟨-, put, info'⟩ := slavePutVal_kept new small known ready values (sums i known)
  exact ⟨put, info'⟩

theorem syncSlaves_fold (oldVal : Int) {l : List Nat} (all : ∀ i ∈ l, i < v.num) (done : (Nat → Int) × LinkMaster)
    (kept : VmasterKept v { done.2 with val := newVal } u h newVal)
    (inited : done.2.info = ⟨v.type, 1, v.minVal, v.maxVal⟩) :
    VmasterKept v { (l.foldl (LinkMaster.syncSlave oldVal newVal) done).2 with val := newVal } u
        (fun i ch => if i ∈ l then v.level (u i ch) newVal else h i ch) newVal ∧
      (l.foldl (LinkMaster.syncSlave oldVal newVal) done).2.info = ⟨v.type, 1, v.minVal, v.maxVal⟩ := by
  induction l generalizing done h with
  | nil => exact ⟨kept.congr (fun _ _ _ _ => rfl) fun _ _ _ _ => (if_neg List.not_mem_nil).symm, inited⟩
  | cons i rest ih =>
    obtain ⟨next, info⟩ := syncSlave_kept small sums oldVal kept inited (all i (List.mem_cons_self ..))
    obtain ⟨last, info'⟩ := ih (fun j inside => all j (List.mem_cons_of_mem _ inside)) _ (next.withVal info newVal) info
    refine ⟨last.congr (fun _ _ _ _ => rfl) fun j _ ch _ => ?_, info'⟩
    by_cases here : j = i
    · subst here
      rw [Function.update_self, if_pos (List.mem_cons_self ..)]
      exact ite_id _
    · rw [Function.update_of_ne here]
      simp [here]

theorem syncSlaves_kept (uval : Nat → Int) (kept : VmasterKept v s u h m) (some_ : 0 < v.num)
    (inited : s.info = ⟨v.type, 1, v.minVal, v.maxVal⟩) (oldVal : Int) :
    Attenuated v (s.syncSlaves uval oldVal newVal) u newVal := by
  obtain ⟨n, succ⟩ := Nat.exists_eq_succ_of_ne_zero (Nat.pos_iff_ne_zero.mp some_)
  have below (i : Nat) (inside : i ∈ List.range n) : i < v.num := by
    have := List.mem_range.mp inside
    omega
  obtain ⟨before, info⟩ := syncSlaves_fold small sums oldVal below (uval, s) (kept.withVal inited newVal) inited
  obtain ⟨last, -⟩ := syncSlave_kept small sums oldVal before info (i := n) (by omega)
  unfold LinkMaster.syncSlaves
  rw [kept.num, succ, List.range_succ, List.foldl_append]
  refine last.congr (fun _ _ _ _ => rfl) fun j known ch _ => ?_
  by_cases here : j = n
  · subst here
    rw [Function.update_self]
  · rw [Function.update_of_ne here, if_pos (List.mem_range.mpr (by omega))]

end Sync

open LinkMaster

theorem exec_attenuated (uval : Nat → Int) (op : VmasterOp) (kept : Attenuated v s u m) (some_ : 0 < v.num)
    (small : Small v u) (next : v.NoOverflow (op.own u) (op.master m)) :
    Attenuated v (s.exec uval op) (op.own u) (op.master m) := by
  cases op with
  | masterGet =>
    obtain ⟨success, inited, -⟩ := masterInit_kept kept small some_
    show Attenuated v (s.masterGet uval).2.2 u m
    unfold LinkMaster.masterGet
    dsimp only
    rw [if_neg (Int.not_lt.mpr success)]
    exact inited
  | masterPut value =>
    obtain ⟨success, inited, info, val, -⟩ := masterInit_kept kept small some_
    have same : toInt value = value := toInt_of_fits next.1
    show Attenuated v (s.masterPut uval value).2 u value
    unfold LinkMaster.masterPut
    dsimp only
    rw [if_neg (Int.not_lt.mpr success), val, same]
    split
    · rename_i equal
      rw [equal]
      exact inited
    · exact syncSlaves_kept small (fun i known ch inside => (next.2 i known ch inside).2) uval inited some_ info m
  | slaveGet i =>
    show Attenuated v (if i < s.num then _ else s) u m
    split
    · rename_i known
      exact (slaveGetVal_kept kept small (kept.num ▸ known) uval).2.2.1
    · exact kept
  | slavePut i value =>
    show Attenuated v (if i < s.num then _ else s) (Function.update u i value) m
    split
    · rename_i known
      exact slavePut_kept kept small (kept.num ▸ known) next
    · rename_i unknown
      rw [kept.num] at unknown
      refine kept.congr (fun j inside ch _ => ?_) fun j inside ch _ => ?_
      · rw [Function.update_of_ne (by omega)]
      · rw [Function.update_of_ne (by omega)]
  | sync hookOnly =>
    show Attenuated v (s.sndCtlSyncVmaster uval hookOnly) u m
    unfold LinkMaster.sndCtlSyncVmaster
    cases hookOnly with
    | true => exact kept
    | false =>
      obtain ⟨success, inited, info, val, -⟩ := masterInit_kept kept small some_
      dsimp only
      rw [if_neg Bool.false_ne_true, if_neg (Int.not_lt.mpr success), val]
      exact syncSlaves_kept small (fun i known ch inside => (next.2 i known ch inside).2) uval inited some_ info m

theorem level_max (v : VmasterSetup) {u : Int} (low : v.minVal ≤ u) (high : u ≤ v.maxVal) : v.level u v.maxVal = u := by
  unfold VmasterSetup.level
  split
  · rename_i switch
    obtain ⟨zero, one⟩ := v.switch switch
    rw [if_pos (by omega)]
    omega
  · omega

theorem initial_attenuated (v : VmasterSetup) : Attenuated v v.initial v.hardware v.maxVal := by
  refine ⟨rfl, fun i _ => ⟨rfl, rfl, fun ch _ => ?_, Or.inl ⟨rfl, fun ch _ => ?_⟩⟩, Or.inl ⟨rfl, rfl⟩⟩
  · exact (level_max v (v.inside i ch).1 (v.inside i ch).2).symm
  · exact level_max v (v.inside i ch).1 (v.inside i ch).2

/-- What an application sees of the slaves' own values `u` and the master's value `m`, and what the hardware has. -/
structure VmasterSetup.Shows (v : VmasterSetup) (s : LinkMaster) (u : Nat → Nat → Int) (m : Int) : Prop where
  hardware : ∀ i < v.num, ∀ ch < v.channels i, (s.slaves i).hardware ch = v.level (u i ch) m
  reads : ∀ i < v.num, ∀ value, (s.slaveGet i value).1 = 0 ∧ ∀ ch < v.channels i, (s.slaveGet i value).2.1 ch = u i ch
  master : 0 < v.num → ∀ value, (s.masterGet value).2.1 0 = m
  restored : m = v.maxVal → ∀ i < v.num, ∀ ch < v.channels i, v.minVal ≤ u i ch → u i ch ≤ v.maxVal →
    (s.slaves i).hardware ch = u i ch

theorem Attenuated.shows (kept : Attenuated v s u m) (small : Small v u) : v.Shows s u m := by
  refine ⟨fun i known => (kept.slaves i known).hardware, fun i known value => ?_, fun some_ value => ?_,
    fun top i known ch inside low high => ?_⟩
  · obtain ⟨success, values, -⟩ := slaveGetVal_kept kept small known value
    exact ⟨success, values⟩
  · obtain ⟨success, -, -, val, -⟩ := masterInit_kept kept small some_
    unfold LinkMaster.masterGet
    dsimp only
    rw [if_neg (Int.not_lt.mpr success)]
    show Function.update value 0 s.masterInit.2.val 0 = m
    rw [Function.update_self, val]
  · rw [(kept.slaves i known).hardware ch inside, top]
    exact level_max v low high

theorem VmasterSetup.NoOverflow.small (safe : v.NoOverflow u m) : Small v u := fun i known ch inside =>
  (safe.2 i known ch inside).1

theorem run_attenuated (v : VmasterSetup) (some_ : 0 < v.num) (uval : Nat → Int) (ops : List VmasterOp)
    (safe : ∀ before, before <+: ops → v.NoOverflow (v.own before) (v.master before)) :
    Attenuated v (ops.foldl (exec uval) v.initial) (v.own ops) (v.master ops) := by
  induction ops using List.reverseRecOn with
  | nil => exact initial_attenuated v
  | append_singleton ops op ih =>
    have earlier := ih fun before prefix_ => safe before (prefix_.trans (List.prefix_append ..))
    have next := safe (ops ++ [op]) (List.prefix_refl _)
    unfold VmasterSetup.own VmasterSetup.master at next ⊢
    simp only [List.foldl_append, List.foldl_cons, List.foldl_nil] at next ⊢
    exact exec_attenuated uval op earlier some_ (safe ops (List.prefix_append ..)).small next

/-- In every state of a run without an overflow, each slave's hardware has its own value attenuated by the master's. -/
theorem vmaster_attenuates (v : VmasterSetup) (uval : Nat → Int) (ops : List VmasterOp)
    (safe : ∀ before, before <+: ops → v.NoOverflow (v.own before) (v.master before)) (before : List VmasterOp)
    (reached : before <+: ops) : v.Shows (before.foldl (exec uval) v.initial) (v.own before) (v.master before) := by
  have safe' (earlier : List VmasterOp) (prefix_ : earlier <+: before) := safe earlier (prefix_.trans reached)
  obtain none_ | some_ := Nat.eq_zero_or_pos v.num
  · refine ⟨fun i known => ?_, fun i known => ?_, fun some_ => ?_, fun _ i known => ?_⟩ <;> omega
  · exact (run_attenuated v some_ uval before safe').shows (safe before reached).small

theorem integer_supported : LinkType.integer ≠ .other := by decide

theorem volumes_range : (-100 : Int) ≤ 0 := by decide

theorem volumes_low : Fits (-100) := by decide

theorem volumes_high : Fits 0 := by decide

theorem volumes_switch : LinkType.integer = .boolean → (-100 : Int) = 0 ∧ (0 : Int) = 1 := by decide

theorem volumes_stereo (_ : Nat) : 2 = 1 ∨ 2 = 2 := Or.inr rfl

theorem volumes_inside (_ _ : Nat) : (-100 : Int) ≤ -50 ∧ (-50 : Int) ≤ 0 := by decide

def volumes : VmasterSetup where
  type := .integer
  minVal := -100
  maxVal := 0
  num := 2
  channels := fun _ => 2
  hardware := fun _ _ => -50
  supported := integer_supported
  range := volumes_range
  low := volumes_low
  high := volumes_high
  switch := volumes_switch
  monoOrStereo := volumes_stereo
  inside := volumes_inside

def turnedDown : List VmasterOp := [.masterPut (-20), .slavePut 1 fun _ => -10, .slaveGet 0]

theorem vmaster_attenuates_volumes : volumes.Shows (turnedDown.foldl (exec fun _ => 0) volumes.initial)
    (volumes.own turnedDown) (volumes.master turnedDown) :=
  vmaster_attenuates volumes (fun _ => 0) turnedDown
    (fun before prefix_ => (by decide +kernel : ∀ before ∈ turnedDown.inits, volumes.NoOverflow (volumes.own before)
      (volumes.master before)) before ((List.mem_inits before turnedDown).mpr prefix_))
    turnedDown (List.prefix_refl _)

/-- The least value of an `int` turns the slaves up to their maximum. -/
theorem vmaster_overflows : ¬ ∀ (v : VmasterSetup) (uval : Nat → Int) (ops : List VmasterOp),
    v.Shows (ops.foldl (exec uval) v.initial) (v.own ops) (v.master ops) := by
  intro all
  have hardware := (all volumes (fun _ => 0) [.masterPut (-2 ^ 31)]).hardware 0 (by decide) 0 (by decide)
  exact absurd hardware (by decide +kernel)

end AlsaDriver.Control
