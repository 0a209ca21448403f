import AlsaDriver.Control.Authority
import AlsaDriver.Control.Identity

namespace AlsaDriver.Control

def ENOSPC : Int := 28

def SNDRV_CTL_EVENT_MASK_INFO : BitVec 32 := 0x2

def SNDRV_CTL_ELEM_ACCESS_READ : BitVec 32 := 0x1
def SNDRV_CTL_ELEM_ACCESS_TLV_READ : BitVec 32 := 0x10
def SNDRV_CTL_ELEM_ACCESS_TLV_COMMAND : BitVec 32 := 0x40
def SNDRV_CTL_ELEM_ACCESS_LOCK : BitVec 32 := 0x200
def SNDRV_CTL_ELEM_ACCESS_OWNER : BitVec 32 := 0x400

structure SndCtlElemValue where
  id : SndCtlElemId
  value : List (BitVec 8)

structure KctlCallbacks where
  info : SndCtlElemInfo → Int × SndCtlElemInfo
  get : Option (SndCtlElemValue → Int × SndCtlElemValue)
  tlvLength : BitVec 32

/-- `snd_ctl_elem_user_info`: the stored structure takes the place of the whole request. -/
def sndCtlElemUserInfo (stored : SndCtlElemInfo) : SndCtlElemInfo → Int × SndCtlElemInfo := fun _ => (0, stored)

/-- `snd_ctl_elem_user_tlv` but for a write. -/
def UserElement.readTlv (ue : UserElement) (size : Nat) (fault : Bool) : Int :=
  if ue.tlvData.length = 0 then - ENXIO
  else if size < ue.tlvData.length then -ENOSPC
  else if fault then -EFAULT
  else 0

namespace Kctl

variable {c : Kctl}

theorem user_inactive (access : BitVec 32) :
    (access ||| SNDRV_CTL_ELEM_ACCESS_INACTIVE) &&& SNDRV_CTL_ELEM_ACCESS_USER = access &&& SNDRV_CTL_ELEM_ACCESS_USER ∧
      (access &&& ~~~SNDRV_CTL_ELEM_ACCESS_INACTIVE) &&& SNDRV_CTL_ELEM_ACCESS_USER = access &&& SNDRV_CTL_ELEM_ACCESS_USER := by
  constructor
  · rw [BitVec.and_or_distrib_right, show SNDRV_CTL_ELEM_ACCESS_INACTIVE &&& SNDRV_CTL_ELEM_ACCESS_USER = 0#32 by decide,
      BitVec.or_zero]
  · rw [BitVec.and_assoc, show ~~~SNDRV_CTL_ELEM_ACCESS_INACTIVE &&& SNDRV_CTL_ELEM_ACCESS_USER =
      SNDRV_CTL_ELEM_ACCESS_USER by decide]

def setActive (active : Bool) (access : BitVec 32) : BitVec 32 :=
  if active then access &&& ~~~SNDRV_CTL_ELEM_ACCESS_INACTIVE else access ||| SNDRV_CTL_ELEM_ACCESS_INACTIVE

variable (c) in
def activeVd (i : Nat) (active : Bool) : Nat → SndKcontrolVolatile := fun j =>
  if j = i then { c.vd i with access := setActive active (c.vd i).access } else c.vd j

theorem marked_activeVd (i : Nat) (active : Bool) : Marked (c.activeVd i active) c.user := by
  intro j
  rw [← c.marked j, activeVd]
  split
  · rename_i same
    rw [same]
    show setActive active (c.vd i).access &&& _ ≠ 0 ↔ _
    unfold setActive
    split
    · rw [(user_inactive _).2]
    · rw [(user_inactive _).1]
  · rfl

variable (c)

def activate (i : Nat) (active : Bool) : Kctl := { c with vd := c.activeVd i active, marked := marked_activeVd i active }

/-- Whether an element is as `snd_ctl_activate_id` would make it. -/
def Settled (i : Nat) (active : Bool) : Prop := (c.vd i).access &&& SNDRV_CTL_ELEM_ACCESS_INACTIVE = 0 ↔ active = true

instance (i : Nat) (active : Bool) : Decidable (c.Settled i active) := inferInstanceAs (Decidable (_ ↔ _))

variable {c}

theorem setActive_inactive (active : Bool) (access : BitVec 32) :
    setActive active access &&& SNDRV_CTL_ELEM_ACCESS_INACTIVE = 0 ↔ active = true := by
  cases active with
  | true =>
    refine iff_of_true ?_ rfl
    rw [setActive, if_pos rfl, BitVec.and_assoc, show ~~~SNDRV_CTL_ELEM_ACCESS_INACTIVE &&& SNDRV_CTL_ELEM_ACCESS_INACTIVE =
      0#32 by decide, BitVec.and_zero]
    rfl
  | false =>
    refine iff_of_false ?_ Bool.false_ne_true
    intro none
    have bit := congrArg (fun word : BitVec 32 => word.getLsbD 8) none
    simp [setActive, SNDRV_CTL_ELEM_ACCESS_INACTIVE] at bit

theorem settled_of_activate {i : Nat} {active : Bool} (same : (c.activate i active).vd i = c.vd i) : c.Settled i active := by
  have access : (c.vd i).access = setActive active (c.vd i).access := by
    conv_lhs => rw [← same]
    exact congrArg SndKcontrolVolatile.access (if_pos rfl)
  rw [Settled, access]
  exact setActive_inactive active _

end Kctl

/-- What `snd_ctl_elem_info` adds to the answer of the callback. -/
def fillInfo (pid : Nat → BitVec 32) (file : Nat) (vd : SndKcontrolVolatile) (id : SndCtlElemId) (info : SndCtlElemInfo) :
    SndCtlElemInfo :=
  match vd.owner with
  | none => { info with id := id, access := vd.access, owner := -1 }
  | some owner =>
    { info with
      id := id
      access :=
        if owner = file then vd.access ||| SNDRV_CTL_ELEM_ACCESS_LOCK ||| SNDRV_CTL_ELEM_ACCESS_OWNER
        else vd.access ||| SNDRV_CTL_ELEM_ACCESS_LOCK
      owner := pid owner }

def tlvAccess (opFlag : Int) : BitVec 32 :=
  if opFlag = 0 then SNDRV_CTL_ELEM_ACCESS_TLV_READ
  else if 0 < opFlag then SNDRV_CTL_ELEM_ACCESS_TLV_WRITE
  else SNDRV_CTL_ELEM_ACCESS_TLV_COMMAND

theorem fillInfo_id (pid : Nat → BitVec 32) (file : Nat) (vd : SndKcontrolVolatile) (id : SndCtlElemId)
    (info : SndCtlElemInfo) : (fillInfo pid file vd id info).id = id := by
  unfold fillInfo
  split <;> rfl

namespace CtlCard

variable (card : CtlCard)

/-- `snd_ctl_activate_id`, which takes the offset of the control's own id. -/
def sndCtlActivateId (id : SndCtlElemId) (active : Bool) : Reply :=
  match card.findId id with
  | none => card.refuse (-ENOENT)
  | some c =>
    let i := (c.control.getIoff c.control.id).toNat
    if active then
      if (c.vd i).access &&& SNDRV_CTL_ELEM_ACCESS_INACTIVE = 0 then card.refuse 0
      else ⟨1, (card.changeAt c.ptr (·.activate i true) fun _ => rfl).notify SNDRV_CTL_EVENT_MASK_INFO id, []⟩
    else
      if (c.vd i).access &&& SNDRV_CTL_ELEM_ACCESS_INACTIVE ≠ 0 then card.refuse 0
      else ⟨1, (card.changeAt c.ptr (·.activate i false) fun _ => rfl).notify SNDRV_CTL_EVENT_MASK_INFO id, []⟩

/-- `snd_ctl_elem_info`; the offset is that of the id which the callback leaves. -/
def sndCtlElemInfo (callbacks : Nat → KctlCallbacks) (pid : Nat → BitVec 32) (file : Nat) (info : SndCtlElemInfo) :
    Int × SndCtlElemInfo :=
  match card.findId info.id with
  | none => (-ENOENT, info)
  | some c =>
    let (result, info) := (callbacks c.ptr).info info
    if 0 ≤ result then
      let indexOffset := c.control.getIoff info.id
      (result, fillInfo pid file (c.vd indexOffset.toNat) (c.control.buildIoff indexOffset) info)
    else (result, info)

def sndCtlElemRead (callbacks : Nat → KctlCallbacks) (control : SndCtlElemValue) : Int × SndCtlElemValue :=
  match card.findId control.id with
  | none => (-ENOENT, control)
  | some c =>
    let indexOffset := c.control.getIoff control.id
    if (c.vd indexOffset.toNat).access &&& SNDRV_CTL_ELEM_ACCESS_READ = 0 then (-EPERM, control)
    else
      match (callbacks c.ptr).get with
      | none => (-EPERM, control)
      | some get => get { control with id := c.control.buildIoff indexOffset }

/-- `snd_ctl_tlv_ioctl`; `driver` is what the TLV callback of a driver returns. -/
def sndCtlTlvIoctl (callbacks : Nat → KctlCallbacks) (file : Nat) (numid : BitVec 32) (opFlag : Int)
    (tlv : List (BitVec 8)) (fault : Bool) (driver : Int) : Reply :=
  if 0 < opFlag then card.sndCtlTlvWrite file numid tlv fault driver
  else if tlv.length < 8 then card.refuse (-EINVAL)
  else
    match card.findNumid numid with
    | none => card.refuse (-ENOENT)
    | some c =>
      let i := (numid - c.control.id.numid).toNat
      if c.tlv = false then card.refuse (- ENXIO)
      else if (c.vd i).access &&& tlvAccess opFlag = 0 then card.refuse (- ENXIO)
      else if (c.vd i).access &&& SNDRV_CTL_ELEM_ACCESS_TLV_CALLBACK ≠ 0 then
        if c.OwnedByOther file i then card.refuse (-EPERM)
        else
          match c.user with
          | some ue => card.refuse (ue.readTlv tlv.length fault)
          | none =>
            if 0 < driver then ⟨0, card.notify SNDRV_CTL_EVENT_MASK_TLV c.control.id, [.tlv c.ptr]⟩
            else ⟨driver, card, [.tlv c.ptr]⟩
      else if opFlag ≠ 0 then card.refuse (- ENXIO)
      else if tlv.length < ((callbacks c.ptr).tlvLength + 8).toNat then card.refuse (-ENOMEM)
      else if fault then card.refuse (-EFAULT)
      else card.refuse 0

end CtlCard

def SndKcontrol.Holds (k : SndKcontrol) (i : Nat) (id : SndCtlElemId) : Prop :=
  if id.numid ≠ 0 then id.numid.toNat = k.id.numid.toNat + i else id.index.toNat = k.id.index.toNat + i

inductive SlotRequest where
  | info (info : SndCtlElemInfo)
  | read (control : SndCtlElemValue)
  | write (id : SndCtlElemId) (value : List (BitVec 8)) (driver : Int)
  | lock (id : SndCtlElemId)
  | unlock (id : SndCtlElemId)
  | activateId (id : SndCtlElemId) (active : Bool)
  | tlv (numid : BitVec 32) (opFlag : Int) (tlv : List (BitVec 8)) (fault : Bool) (driver : Int)

def SlotRequest.Denotes (k : SndKcontrol) (i : Nat) : SlotRequest → Prop
  | .info request => k.Holds i request.id
  | .read control => k.Holds i control.id
  | .write id _ _ => k.Holds i id
  | .lock id => k.Holds i id
  | .unlock id => k.Holds i id
  | .activateId id _ => k.Holds i id
  | .tlv numid _ _ _ _ => numid.toNat = k.id.numid.toNat + i

inductive Answer where
  | reply (reply : CtlCard.Reply)
  | info (result : Int × SndCtlElemInfo)
  | value (result : Int × SndCtlElemValue)

def Answer.controls (before : List Kctl) : Answer → List Kctl
  | .reply after => after.card.controls
  | .info _ => before
  | .value _ => before

/-- What the requests reach: the callbacks of the controls by their address, the process of a file,
    and the file that asks. -/
structure Reach where
  callbacks : Nat → KctlCallbacks
  pid : Nat → BitVec 32
  file : Nat

namespace CtlCard

variable (r : Reach) (card : CtlCard)

def finds : SlotRequest → Option Kctl
  | .info info => card.findId info.id
  | .read control => card.findId control.id
  | .write id _ _ => card.findId id
  | .lock id => card.findId id
  | .unlock id => card.findId id
  | .activateId id _ => card.findId id
  | .tlv numid _ _ _ _ => card.findNumid numid

def ask : SlotRequest → Answer
  | .info info => .info (card.sndCtlElemInfo r.callbacks r.pid r.file info)
  | .read control => .value (card.sndCtlElemRead r.callbacks control)
  | .write id value driver => .reply (card.sndCtlElemWriteKctl r.file id value driver)
  | .lock id => .reply (card.sndCtlElemLock r.file id)
  | .unlock id => .reply (card.sndCtlElemUnlock r.file id)
  | .activateId id active => .reply (card.sndCtlActivateId id active)
  | .tlv numid opFlag tlv fault driver => .reply (card.sndCtlTlvIoctl r.callbacks r.file numid opFlag tlv fault driver)

/-- A file other than `file` holds the slot. -/
def HeldByOther (file : Nat) (vd : SndKcontrolVolatile) : Prop := vd.owner ≠ none ∧ vd.owner ≠ some file

instance (file : Nat) (vd : SndKcontrolVolatile) : Decidable (HeldByOther file vd) := inferInstanceAs (Decidable (_ ∧ _))

def setUserAt (c : Kctl) (change : UserElement → UserElement) : CtlCard :=
  card.changeAt c.ptr (·.setUser change) fun _ => rfl

def setOwnerAt (c : Kctl) (i : Nat) (owner : Option Nat) : CtlCard :=
  card.changeAt c.ptr (·.setOwner i owner) fun _ => rfl

/-- What a TLV request is to answer from the slot `vd` of a control. -/
def tlvAt (c : Kctl) (vd : SndKcontrolVolatile) (opFlag : Int) (tlv : List (BitVec 8)) (fault : Bool) (driver : Int) :
    Reply :=
  if tlv.length < 8 then card.refuse (-EINVAL)
  else if c.tlv = false then card.refuse (- ENXIO)
  else if vd.access &&& tlvAccess opFlag = 0 then card.refuse (- ENXIO)
  else if vd.access &&& SNDRV_CTL_ELEM_ACCESS_TLV_CALLBACK ≠ 0 then
    if HeldByOther r.file vd then card.refuse (-EPERM)
    else
      match c.user with
      | some ue =>
        if 0 < opFlag then
          let err := (ue.writeTlv tlv fault).1
          let written := card.setUserAt c fun ue => (ue.writeTlv tlv fault).2
          if 0 < err then ⟨0, written.notify SNDRV_CTL_EVENT_MASK_TLV c.control.id, []⟩ else ⟨err, written, []⟩
        else card.refuse (ue.readTlv tlv.length fault)
      | none =>
        if 0 < driver then ⟨0, card.notify SNDRV_CTL_EVENT_MASK_TLV c.control.id, [.tlv c.ptr]⟩
        else ⟨driver, card, [.tlv c.ptr]⟩
  else if opFlag ≠ 0 then card.refuse (- ENXIO)
  else if tlv.length < ((r.callbacks c.ptr).tlvLength + 8).toNat then card.refuse (-ENOMEM)
  else if fault then card.refuse (-EFAULT)
  else card.refuse 0

/-- What activating the element `i` is to do from its slot `vd`. -/
def activateAt (c : Kctl) (i : Nat) (vd : SndKcontrolVolatile) (id : SndCtlElemId) (active : Bool) : Reply :=
  if vd.access &&& SNDRV_CTL_ELEM_ACCESS_INACTIVE = 0 ↔ active = true then card.refuse 0
  else ⟨1, (card.changeAt c.ptr (·.activate i active) fun _ => rfl).notify SNDRV_CTL_EVENT_MASK_INFO id, []⟩

/-- What a request is to answer, and to change, when it inspects the slot `vd` of the element `i` only. -/
def askAt (c : Kctl) (i : Nat) (vd : SndKcontrolVolatile) : SlotRequest → Answer
  | .info info =>
    let (result, info) := (r.callbacks c.ptr).info info
    .info (if 0 ≤ result then (result, fillInfo r.pid r.file vd (c.control.elem i) info) else (result, info))
  | .read control =>
    .value (
      if vd.access &&& SNDRV_CTL_ELEM_ACCESS_READ = 0 then (-EPERM, control)
      else
        match (r.callbacks c.ptr).get with
        | none => (-EPERM, control)
        | some get => get { control with id := c.control.elem i })
  | .write _ value driver =>
    .reply (
      if vd.access &&& SNDRV_CTL_ELEM_ACCESS_WRITE = 0 ∨ c.put = false ∨ HeldByOther r.file vd then card.refuse (-EPERM)
      else
        match c.user with
        | some ue =>
          if (ue.put value).1 then
            ⟨0, (card.setUserAt c fun ue => (ue.put value).2).notify
              SNDRV_CTL_EVENT_MASK_VALUE (c.control.elem i), []⟩
          else card.refuse 0
        | none =>
          if 0 < driver then ⟨0, card.notify SNDRV_CTL_EVENT_MASK_VALUE (c.control.elem i), [.put c.ptr i]⟩
          else ⟨driver, card, [.put c.ptr i]⟩)
  | .lock _ =>
    .reply (
      if vd.owner ≠ none then card.refuse (-EBUSY)
      else ⟨0, card.setOwnerAt c i (some r.file), []⟩)
  | .unlock _ =>
    .reply (
      if vd.owner = none then card.refuse (-EINVAL)
      else if vd.owner ≠ some r.file then card.refuse (-EPERM)
      else ⟨0, card.setOwnerAt c i none, []⟩)
  | .activateId id active => .reply (card.activateAt c i vd id active)
  | .tlv _ opFlag tlv fault driver => .reply (card.tlvAt r c vd opFlag tlv fault driver)

structure Addressed (q : SlotRequest) (c : Kctl) (i : Nat) : Prop where
  answer : card.ask r q = card.askAt r c i (c.vd i) q
  others : ∀ d ∈ card.controls, ∀ e ∈ (card.ask r q).controls card.controls, e.ptr = d.ptr →
    ∀ j, (d.ptr = c.ptr → j ≠ i) → e.vd j = d.vd j

end CtlCard

/-- An info callback that succeeds leaves an id of the same offset, and an element is activated that is
    the first of its control, unless both it and the first are so already. -/
def AsksRight (r : Reach) (c : Kctl) (i : Nat) : SlotRequest → Prop
  | .info info => 0 ≤ ((r.callbacks c.ptr).info info).1 →
    c.control.getIoff ((r.callbacks c.ptr).info info).2.id = c.control.getIoff info.id
  | .activateId _ active => i = 0 ∨ c.Settled 0 active ∧ c.Settled i active
  | _ => True

namespace SndKcontrol

variable {k : SndKcontrol} {i : Nat} {id : SndCtlElemId} {numid : BitVec 32}

theorem sub_of_range {a n : BitVec 32} (low : a ≤ n) (high : n < a + k.len) :
    (n - a).toNat < k.count ∧ n.toNat = a.toNat + (n - a).toNat := by
  have few := k.counted.2
  rw [MAX_CONTROL_COUNT] at few
  have small := a.isLt
  have small' := n.isLt
  rw [BitVec.le_def] at low
  rw [BitVec.lt_def, BitVec.toNat_add, len_toNat] at high
  have difference : (n - a).toNat = n.toNat - a.toNat := BitVec.toNat_sub_of_le low
  rw [difference]
  omega

theorem hasNumid_offset (has : k.hasNumid numid = true) :
    (numid - k.id.numid).toNat < k.count ∧ numid.toNat = k.id.numid.toNat + (numid - k.id.numid).toNat := by
  simp only [hasNumid, Bool.and_eq_true, decide_eq_true_eq] at has
  exact sub_of_range has.1 has.2

theorem hasName_offset (has : k.hasName id = true) :
    (id.index - k.id.index).toNat < k.count ∧ id.index.toNat = k.id.index.toNat + (id.index - k.id.index).toNat := by
  simp only [hasName, Bool.and_eq_true, decide_eq_true_eq] at has
  exact sub_of_range has.1.2 has.2

theorem getIoff_of_holds (holds : k.Holds i id) (inside : i < k.count) : k.getIoff id = BitVec.ofNat 32 i := by
  have low := offset_toNat inside
  unfold Holds at holds
  unfold getIoff
  split at holds
  · rename_i numbered
    rw [if_pos numbered]
    refine BitVec.eq_of_toNat_eq ?_
    rw [BitVec.toNat_sub_of_le (by rw [BitVec.le_def]; omega), low]
    omega
  · rename_i named
    rw [if_neg named]
    refine BitVec.eq_of_toNat_eq ?_
    rw [BitVec.toNat_sub_of_le (by rw [BitVec.le_def]; omega), low]
    omega

theorem getIoff_own (k : SndKcontrol) : k.getIoff k.id = 0 := by
  unfold getIoff
  split
  · exact BitVec.sub_self _
  · exact BitVec.sub_self _

end SndKcontrol

namespace CtlCard

variable {r : Reach} {card : CtlCard} {c : Kctl} {i : Nat} {q : SlotRequest}

theorem kctlAt_findIdx {p : SndKcontrol → Bool}
    (found : card.kctlAt ((card.controls.map Kctl.control).findIdx? p) = some c) : p c.control = true := by
  obtain ⟨place, here, there⟩ := Option.bind_eq_some_iff.mp found
  obtain ⟨inside, holds, -⟩ := List.findIdx?_eq_some_iff_getElem.mp here
  rw [List.getElem_map] at holds
  rw [List.length_map] at inside
  rw [List.getElem?_eq_getElem inside, Option.some_inj] at there
  rwa [← there]

theorem findNumid_holds {numid : BitVec 32} (found : card.findNumid numid = some c) :
    numid ≠ 0 ∧ c.control.hasNumid numid = true := by
  unfold findNumid sndCtlFindNumid at found
  split at found
  · exact absurd found.symm (Option.some_ne_none c)
  · rename_i nonzero
    exact ⟨nonzero, kctlAt_findIdx found⟩

theorem findId_holds {id : SndCtlElemId} (found : card.findId id = some c) :
    ∃ i < c.control.count, c.control.Holds i id := by
  unfold findId sndCtlFindId at found
  split at found
  · rename_i numbered
    obtain ⟨below, offset⟩ := SndKcontrol.hasNumid_offset (findNumid_holds found).2
    refine ⟨_, below, ?_⟩
    rw [SndKcontrol.Holds, if_pos numbered]
    exact offset
  · rename_i named
    obtain ⟨below, offset⟩ := SndKcontrol.hasName_offset (kctlAt_findIdx found)
    refine ⟨_, below, ?_⟩
    rw [SndKcontrol.Holds, if_neg named]
    exact offset

theorem denotes_unique {k : SndKcontrol} {j : Nat} (one : q.Denotes k i) (other : q.Denotes k j) : i = j := by
  have holds {id : SndCtlElemId} (one : k.Holds i id) (other : k.Holds j id) : i = j := by
    unfold SndKcontrol.Holds at one other
    split at one
    · rename_i numbered
      rw [if_pos numbered] at other
      omega
    · rename_i named
      rw [if_neg named] at other
      omega
  cases q with
  | tlv numid opFlag tlv fault driver => exact Nat.add_left_cancel (one.symm.trans other)
  | _ => exact holds one other

theorem finds_denotes (found : card.finds q = some c) : ∃ i < c.control.count, q.Denotes c.control i := by
  cases q with
  | tlv numid opFlag tlv fault driver =>
    obtain ⟨below, offset⟩ := SndKcontrol.hasNumid_offset (findNumid_holds found).2
    exact ⟨_, below, offset⟩
  | _ => exact findId_holds found

theorem image_changeAt {p : Nat} {f : Kctl → Kctl} (ptr : ∀ c, (f c).ptr = c.ptr) {d e : Kctl} (there : d ∈ card.controls)
    (after : e ∈ card.controls.map fun d => if d.ptr = p then f d else d) (same : e.ptr = d.ptr) :
    e = if d.ptr = p then f d else d := by
  obtain ⟨before, old, rfl⟩ := List.mem_map.mp after
  have ptrs : (if before.ptr = p then f before else before).ptr = before.ptr := by
    split
    · exact ptr before
    · rfl
  rw [eq_of_ptr there old (ptrs.symm.trans same)]

def Others (card : CtlCard) (after : List Kctl) (c : Kctl) (i : Nat) : Prop :=
  ∀ d ∈ card.controls, ∀ e ∈ after, e.ptr = d.ptr → ∀ j, (d.ptr = c.ptr → j ≠ i) → e.vd j = d.vd j

theorem others_same : card.Others card.controls c i := by
  intro d there e after same j _
  rw [eq_of_ptr there after same]

theorem others_changeAt {f : Kctl → Kctl} (ptr : ∀ c, (f c).ptr = c.ptr) (keeps : ∀ d, ∀ j, j ≠ i → (f d).vd j = d.vd j) :
    card.Others (card.changeAt c.ptr f ptr).controls c i := by
  intro d there e after same j other
  rw [image_changeAt ptr there after same]
  split
  · rename_i here
    exact keeps d j (other here)
  · rfl

theorem others_setOwner (owner : Option Nat) : card.Others (card.setOwnerAt c i owner).controls c i :=
  others_changeAt _ fun _ _ other => if_neg other

theorem others_activate (active : Bool) : card.Others (card.changeAt c.ptr (·.activate i active) fun _ => rfl).controls c i :=
  others_changeAt _ fun _ _ other => if_neg other

theorem others_setUser (change : UserElement → UserElement) :
    card.Others (card.setUserAt c change).controls c i :=
  others_changeAt _ fun _ _ _ => rfl

theorem askAt_others (r : Reach) (card : CtlCard) (c : Kctl) (i : Nat) (vd : SndKcontrolVolatile) (q : SlotRequest) :
    card.Others ((card.askAt r c i vd q).controls card.controls) c i := by
  cases q with
  | info info => exact others_same
  | read control => exact others_same
  | write id value driver =>
    simp only [askAt, Answer.controls]
    split
    · exact others_same
    split
    · split
      · exact others_setUser _
      · exact others_same
    · split <;> exact others_same
  | lock id =>
    simp only [askAt, Answer.controls]
    split
    · exact others_same
    · exact others_setOwner _
  | unlock id =>
    simp only [askAt, Answer.controls]
    split
    · exact others_same
    split
    · exact others_same
    · exact others_setOwner _
  | activateId id active =>
    simp only [askAt, Answer.controls, activateAt]
    split
    · exact others_same
    · exact others_activate _
  | tlv numid opFlag tlv fault driver =>
    simp only [askAt, Answer.controls, tlvAt]
    split
    · exact others_same
    split
    · exact others_same
    split
    · exact others_same
    split
    · split
      · exact others_same
      split
      · split
        · split
          · exact others_setUser _
          · exact others_setUser _
        · exact others_same
      · split <;> exact others_same
    · split
      · exact others_same
      split
      · exact others_same
      split <;> exact others_same

section Answers

variable {id : SndCtlElemId}

theorem read_answer {control : SndCtlElemValue} (found : card.findId control.id = some c) (inside : i < c.control.count)
    (holds : c.control.Holds i control.id) : card.ask r (.read control) = card.askAt r c i (c.vd i) (.read control) := by
  simp only [ask, askAt, sndCtlElemRead, found, SndKcontrol.getIoff_of_holds holds inside, SndKcontrol.offset_toNat inside]
  rfl

theorem write_answer {value : List (BitVec 8)} {driver : Int} (found : card.findId id = some c)
    (inside : i < c.control.count) (holds : c.control.Holds i id) :
    card.ask r (.write id value driver) = card.askAt r c i (c.vd i) (.write id value driver) := by
  simp only [ask, askAt, sndCtlElemWriteKctl, found, SndKcontrol.getIoff_of_holds holds inside,
    SndKcontrol.offset_toNat inside]
  rfl

theorem lock_answer (found : card.findId id = some c) (inside : i < c.control.count) (holds : c.control.Holds i id) :
    card.ask r (.lock id) = card.askAt r c i (c.vd i) (.lock id) := by
  simp only [ask, askAt, sndCtlElemLock, found, SndKcontrol.getIoff_of_holds holds inside,
    SndKcontrol.offset_toNat inside]
  rfl

theorem unlock_answer (found : card.findId id = some c) (inside : i < c.control.count) (holds : c.control.Holds i id) :
    card.ask r (.unlock id) = card.askAt r c i (c.vd i) (.unlock id) := by
  simp only [ask, askAt, sndCtlElemUnlock, found, SndKcontrol.getIoff_of_holds holds inside,
    SndKcontrol.offset_toNat inside]
  rfl

theorem tlv_answer {numid : BitVec 32} {opFlag : Int} {tlv : List (BitVec 8)} {fault : Bool} {driver : Int}
    (found : card.findNumid numid = some c) (denotes : numid.toNat = c.control.id.numid.toNat + i) :
    card.ask r (.tlv numid opFlag tlv fault driver) = card.askAt r c i (c.vd i) (.tlv numid opFlag tlv fault driver) := by
  have offset : (numid - c.control.id.numid).toNat = i := by
    rw [BitVec.toNat_sub_of_le (by rw [BitVec.le_def]; omega)]
    omega
  simp only [ask, askAt, sndCtlTlvIoctl, tlvAt]
  by_cases write : 0 < opFlag
  · have nonzero : opFlag ≠ 0 := by omega
    simp only [if_pos write, sndCtlTlvWrite, found, offset, tlvAccess, if_neg nonzero]
    refine congrArg Answer.reply ?_
    by_cases short : tlv.length < 8
    · rw [if_pos short, if_pos short]
    rw [if_neg short, if_neg short]
    by_cases absent : c.tlv = false
    · rw [if_pos absent, if_pos absent]
    rw [if_neg absent, if_neg absent]
    by_cases denied : (c.vd i).access &&& SNDRV_CTL_ELEM_ACCESS_TLV_WRITE = 0
    · rw [if_pos denied, if_pos denied]
    rw [if_neg denied, if_neg denied]
    by_cases static : (c.vd i).access &&& SNDRV_CTL_ELEM_ACCESS_TLV_CALLBACK = 0
    · rw [if_pos static, if_neg (not_not.mpr static), if_pos nonzero]
    · rw [if_neg static, if_pos static]
      rfl
  · simp only [if_neg write, found, offset]
    rfl

theorem info_answer {info : SndCtlElemInfo} (found : card.findId info.id = some c) (inside : i < c.control.count)
    (holds : c.control.Holds i info.id) :
    card.ask r (.info info) = card.askAt r c i (c.vd i) (.info info) ↔
      (0 ≤ ((r.callbacks c.ptr).info info).1 →
        c.control.getIoff ((r.callbacks c.ptr).info info).2.id = c.control.getIoff info.id) := by
  rw [SndKcontrol.getIoff_of_holds holds inside]
  simp only [ask, askAt, sndCtlElemInfo, found, Answer.info.injEq]
  by_cases fine : 0 ≤ ((r.callbacks c.ptr).info info).1
  · rw [if_pos fine, if_pos fine, forall_prop_of_true fine, Prod.mk.injEq, and_iff_right rfl]
    constructor
    · intro same
      have ids := congrArg (fun info : SndCtlElemInfo => info.id.numid) same
      simp only [fillInfo_id] at ids
      exact (BitVec.add_right_inj _).mp ids
    · intro same
      rw [same, SndKcontrol.offset_toNat inside]
      rfl
  · rw [if_neg fine, if_neg fine]
    exact iff_of_true rfl fun set => absurd set fine

theorem activateAt_settled {active : Bool} (settled : c.Settled i active) :
    card.activateAt c i (c.vd i) id active = card.refuse 0 := if_pos settled

theorem activateAt_changes {active : Bool} (other : ¬ c.Settled i active) : card.activateAt c i (c.vd i) id active =
    ⟨1, (card.changeAt c.ptr (·.activate i active) fun _ => rfl).notify SNDRV_CTL_EVENT_MASK_INFO id, []⟩ := if_neg other

theorem activate_first {active : Bool} (found : card.findId id = some c) :
    card.sndCtlActivateId id active = card.activateAt c 0 (c.vd 0) id active := by
  have zero : (c.control.getIoff c.control.id).toNat = 0 := by
    rw [SndKcontrol.getIoff_own]
    rfl
  simp only [sndCtlActivateId, found, zero]
  cases active with
  | true => simp only [activateAt, if_true, iff_true]
  | false =>
    simp only [activateAt, Bool.false_eq_true, if_false, iff_false]

theorem activate_answer {active : Bool} (found : card.findId id = some c) :
    card.ask r (.activateId id active) = card.askAt r c i (c.vd i) (.activateId id active) ↔
      i = 0 ∨ c.Settled 0 active ∧ c.Settled i active := by
  rw [ask, askAt, activate_first found, Answer.reply.injEq]
  constructor
  · intro same
    by_cases first : i = 0
    · exact .inl first
    right
    by_cases settled : c.Settled 0 active
    · refine ⟨settled, ?_⟩
      by_contra other
      rw [activateAt_settled settled, activateAt_changes other] at same
      exact absurd (congrArg Reply.result same) (by decide : (0 : Int) ≠ 1)
    by_cases other : c.Settled i active
    · rw [activateAt_changes settled, activateAt_settled other] at same
      exact absurd (congrArg Reply.result same) (by decide : (1 : Int) ≠ 0)
    · rw [activateAt_changes settled, activateAt_changes other] at same
      have images := List.map_inj_left.mp (congrArg (fun reply : Reply => reply.card.controls) same) c (mem_of_kctlAt found)
      have changed : c.activate 0 active = c.activate i active := by simpa using images
      have slot := congrArg (fun k : Kctl => k.vd 0) changed
      have kept : (c.activate i active).vd 0 = c.vd 0 := if_neg (Ne.symm first)
      exact absurd (Kctl.settled_of_activate (slot.trans kept)) settled
  · rintro (rfl | ⟨settled, other⟩)
    · rfl
    · rw [activateAt_settled settled, activateAt_settled other]

end Answers

theorem addressed_iff (found : card.finds q = some c) (inside : i < c.control.count) (denotes : q.Denotes c.control i) :
    Addressed r card q c i ↔ AsksRight r c i q := by
  have whole : Addressed r card q c i ↔ card.ask r q = card.askAt r c i (c.vd i) q := by
    refine ⟨fun addressed => addressed.answer, fun answer => ⟨answer, ?_⟩⟩
    rw [answer]
    exact askAt_others r card c i (c.vd i) q
  rw [whole]
  cases q with
  | info info => exact info_answer found inside denotes
  | read control => exact iff_of_true (read_answer found inside denotes) trivial
  | write id value driver => exact iff_of_true (write_answer found inside denotes) trivial
  | lock id => exact iff_of_true (lock_answer found inside denotes) trivial
  | unlock id => exact iff_of_true (unlock_answer found inside denotes) trivial
  | activateId id active => exact activate_answer found
  | tlv numid opFlag tlv fault driver => exact iff_of_true (tlv_answer found denotes) trivial

/-- A request that finds its control inspects and changes the slot of the element it names, and of no
    other, just when it asks right. -/
theorem element_addressed_iff (r : Reach) (card : CtlCard) (q : SlotRequest) :
    (∀ c, card.finds q = some c → ∃ i < c.control.count, q.Denotes c.control i ∧ Addressed r card q c i) ↔
      ∀ c i, card.finds q = some c → i < c.control.count → q.Denotes c.control i → AsksRight r c i q := by
  constructor
  · intro each c i found inside denotes
    obtain ⟨j, inside', denotes', addressed⟩ := each c found
    obtain rfl := denotes_unique denotes denotes'
    exact (addressed_iff found inside denotes).mp addressed
  · intro right c found
    obtain ⟨i, inside, denotes⟩ := finds_denotes found
    exact ⟨i, inside, denotes, (addressed_iff found inside denotes).mpr (right c i found inside denotes)⟩

theorem user_asksRight_iff {info stored : SndCtlElemInfo} (inside : i < c.control.count)
    (holds : c.control.Holds i info.id) (user : (r.callbacks c.ptr).info = sndCtlElemUserInfo stored) (own : stored.id = c.control.id.byName) :
    AsksRight r c i (.info info) ↔ i = 0 := by
  have zero : c.control.getIoff stored.id = 0 := by
    rw [own]
    exact (if_neg (not_not.mpr rfl)).trans (BitVec.sub_self _)
  rw [AsksRight, user, SndKcontrol.getIoff_of_holds holds inside]
  refine (forall_prop_of_true (Int.le_refl 0)).trans ?_
  show c.control.getIoff stored.id = _ ↔ _
  rw [zero]
  constructor
  · intro same
    have number := congrArg BitVec.toNat same
    rw [SndKcontrol.offset_toNat inside] at number
    exact number.symm
  · rintro rfl
    rfl

theorem readWrite_user : SNDRV_CTL_ELEM_ACCESS_READWRITE &&& SNDRV_CTL_ELEM_ACCESS_USER = 0 := by decide

def twoElems : Kctl where
  ptr := 0
  control := (control 0 2 counted_two).setNumid 1
  vd := fun _ => ⟨SNDRV_CTL_ELEM_ACCESS_READWRITE, none⟩
  put := true
  tlv := false
  user := none
  marked := fun _ => iff_of_false (not_not.mpr readWrite_user) Bool.false_ne_true

def twoElemsCard : CtlCard where
  controls := [twoElems]
  lastNumid := 2
  files := []
  userCtlCount := 0
  nextPtr := 1
  fresh := by
    intro c inside
    rw [List.mem_singleton.mp inside]
    decide
  apart := List.nodup_singleton _

def quietReach : Reach := ⟨fun _ => ⟨fun info => (0, info), none, 0⟩, fun _ => 0, 0⟩

theorem second_deactivates_first :
    ¬ ∀ c, twoElemsCard.finds (.activateId (twoElems.control.elem 1) false) = some c →
      ∃ i < c.control.count, SlotRequest.Denotes c.control i (.activateId (twoElems.control.elem 1) false) ∧
        Addressed quietReach twoElemsCard (.activateId (twoElems.control.elem 1) false) c i := by
  intro each
  have found : twoElemsCard.finds (.activateId (twoElems.control.elem 1) false) = some twoElems := rfl
  obtain ⟨i, inside, denotes, addressed⟩ := each twoElems found
  have second : twoElems.control.Holds 1 (twoElems.control.elem 1) := by
    rw [SndKcontrol.Holds]
    decide
  obtain rfl := denotes_unique (q := .activateId (twoElems.control.elem 1) false) second denotes
  have right : 1 = 0 ∨ twoElems.Settled 0 false ∧ twoElems.Settled 1 false := (addressed_iff found inside denotes).mp addressed
  exact absurd right (by decide)

end CtlCard

end AlsaDriver.Control
