import Mathlib.Data.List.Nodup
import AlsaDriver.Control.Card

namespace AlsaDriver.Control

def EPERM : Int := 1
def EFAULT : Int := 14
def ENXIO : Int := 6

def MAX_USER_CONTROLS : Nat := 32

def SNDRV_CTL_EVENT_MASK_TLV : BitVec 32 := 0x8

def SNDRV_CTL_ELEM_TYPE_BOOLEAN : Nat := 1
def SNDRV_CTL_ELEM_TYPE_INTEGER : Nat := 2
def SNDRV_CTL_ELEM_TYPE_ENUMERATED : Nat := 3
def SNDRV_CTL_ELEM_TYPE_BYTES : Nat := 4
def SNDRV_CTL_ELEM_TYPE_IEC958 : Nat := 5
def SNDRV_CTL_ELEM_TYPE_INTEGER64 : Nat := 6

def SNDRV_CTL_ELEM_ACCESS_READWRITE : BitVec 32 := 0x3
def SNDRV_CTL_ELEM_ACCESS_WRITE : BitVec 32 := 0x2
def SNDRV_CTL_ELEM_ACCESS_TLV_WRITE : BitVec 32 := 0x20
def SNDRV_CTL_ELEM_ACCESS_TLV_READWRITE : BitVec 32 := 0x30
def SNDRV_CTL_ELEM_ACCESS_INACTIVE : BitVec 32 := 0x100
def SNDRV_CTL_ELEM_ACCESS_TLV_CALLBACK : BitVec 32 := 0x10000000
def SNDRV_CTL_ELEM_ACCESS_USER : BitVec 32 := 0x20000000

/-- `kctl->vd[i]`; a control file is a number. -/
structure SndKcontrolVolatile where
  access : BitVec 32
  owner : Option Nat

structure UserElement where
  elemData : List (BitVec 8)
  tlvData : List (BitVec 8)

/-- `snd_ctl_elem_user_put`: whether the data changes, and the data. -/
def UserElement.put (ue : UserElement) (value : List (BitVec 8)) : Bool × UserElement :=
  let data := value.take ue.elemData.length
  (decide (data ≠ ue.elemData), { ue with elemData := data })

def memcmp : List (BitVec 8) → List (BitVec 8) → Int
  | a :: as, b :: bs => if a = b then memcmp as bs else a.toNat - b.toNat
  | _, _ => 0

/-- `snd_ctl_elem_user_tlv` for a write: the result and the data. -/
def UserElement.writeTlv (ue : UserElement) (tlv : List (BitVec 8)) (fault : Bool) : Int × UserElement :=
  if 1024 * 128 < tlv.length then (-EINVAL, ue)
  else if fault then (-EFAULT, ue)
  else (if ue.tlvData.length ≠ tlv.length then 1 else memcmp ue.tlvData tlv, { ue with tlvData := tlv })

def Marked (vd : Nat → SndKcontrolVolatile) (user : Option UserElement) : Prop :=
  ∀ i, (vd i).access &&& SNDRV_CTL_ELEM_ACCESS_USER ≠ 0 ↔ user.isSome

/-- A control in memory: `user` is its private data if it is a user control. Else the callbacks are a
    driver's. -/
structure Kctl where
  ptr : Nat
  control : SndKcontrol
  vd : Nat → SndKcontrolVolatile
  put : Bool
  tlv : Bool
  user : Option UserElement
  marked : Marked vd user

structure SndCtlElemInfo where
  id : SndCtlElemId
  type : Nat
  access : BitVec 32
  count : BitVec 32
  owner : BitVec 32
  items : BitVec 32
  names : List (BitVec 8)

namespace SndCtlElemInfo

variable (info : SndCtlElemInfo)

def asked : BitVec 32 :=
  if info.access = 0 then SNDRV_CTL_ELEM_ACCESS_READWRITE
  else info.access &&& (SNDRV_CTL_ELEM_ACCESS_READWRITE ||| SNDRV_CTL_ELEM_ACCESS_INACTIVE |||
    SNDRV_CTL_ELEM_ACCESS_TLV_READWRITE)

def hasTlv : Bool := decide (info.asked &&& SNDRV_CTL_ELEM_ACCESS_TLV_READWRITE ≠ 0)

def userAccess : BitVec 32 :=
  if info.hasTlv then info.asked ||| SNDRV_CTL_ELEM_ACCESS_USER ||| SNDRV_CTL_ELEM_ACCESS_TLV_CALLBACK
  else info.asked ||| SNDRV_CTL_ELEM_ACCESS_USER

def privateSize : Option Nat :=
  if info.type = SNDRV_CTL_ELEM_TYPE_BOOLEAN ∨ info.type = SNDRV_CTL_ELEM_TYPE_INTEGER then
    if 128 < info.count.toNat then none else some (8 * info.count.toNat)
  else if info.type = SNDRV_CTL_ELEM_TYPE_INTEGER64 then
    if 64 < info.count.toNat then none else some (8 * info.count.toNat)
  else if info.type = SNDRV_CTL_ELEM_TYPE_ENUMERATED then
    if 128 < info.count.toNat ∨ info.items = 0 then none else some (4 * info.count.toNat)
  else if info.type = SNDRV_CTL_ELEM_TYPE_BYTES then
    if 512 < info.count.toNat then none else some info.count.toNat
  else if info.type = SNDRV_CTL_ELEM_TYPE_IEC958 then
    if info.count ≠ 1 then none else some 176
  else none

/-- The loop of `snd_ctl_elem_init_enum_names`. -/
def namesValid : Nat → List (BitVec 8) → Bool
  | 0, _ => true
  | items + 1, names =>
    let nameLen := (names.takeWhile (· != 0)).length
    if nameLen = 0 ∨ 64 ≤ nameLen ∨ nameLen = names.length then false else namesValid items (names.drop (nameLen + 1))

/-- `snd_ctl_elem_init_enum_names`, for the type that has names. -/
def initEnumNames (fault : Bool) : Int :=
  if info.type ≠ SNDRV_CTL_ELEM_TYPE_ENUMERATED then 0
  else if 64 * 1024 < info.names.length then -EINVAL
  else if fault then -EFAULT
  else if namesValid info.items.toNat info.names then 0
  else -EINVAL

/-- The id and the count of the control, if `snd_ctl_new` takes them. -/
def newControl : Option SndKcontrol :=
  let count := if info.owner ≠ 0 then info.owner.toNat else 1
  if counted : 0 < count ∧ count ≤ MAX_CONTROL_COUNT then some ⟨info.id.byName, count, counted⟩ else none

variable {info}

theorem userAccess_user : info.userAccess &&& SNDRV_CTL_ELEM_ACCESS_USER ≠ 0 := by
  intro none
  have bit := congrArg (fun word : BitVec 32 => word.getLsbD 29) none
  rw [userAccess] at bit
  split at bit
  · simp [SNDRV_CTL_ELEM_ACCESS_USER] at bit
  · simp [SNDRV_CTL_ELEM_ACCESS_USER] at bit

theorem marked_userAccess (file : Option Nat) (ue : UserElement) :
    Marked (fun _ => ⟨info.userAccess, file⟩) (some ue) :=
  fun _ => iff_of_true userAccess_user rfl

end SndCtlElemInfo

namespace Kctl

variable (c : Kctl)

def setVd (i : Nat) (owner : Option Nat) : Nat → SndKcontrolVolatile := fun j =>
  if j = i then { c.vd i with owner := owner } else c.vd j

variable {c}

theorem marked_setVd (i : Nat) (owner : Option Nat) : Marked (c.setVd i owner) c.user := by
  intro j
  rw [← c.marked j, setVd]
  split
  · rename_i same
    rw [same]
  · rfl

theorem marked_setUser (change : UserElement → UserElement) : Marked c.vd (c.user.map change) := by
  intro j
  rw [c.marked j, Option.isSome_map]

variable (c)

def setOwner (i : Nat) (owner : Option Nat) : Kctl := { c with vd := c.setVd i owner, marked := marked_setVd i owner }

def setUser (change : UserElement → UserElement) : Kctl :=
  { c with user := c.user.map change, marked := marked_setUser change }

/-- Whether a file other than `file` owns an element. -/
def OwnedByOther (file i : Nat) : Prop := (c.vd i).owner ≠ none ∧ (c.vd i).owner ≠ some file

instance (file i : Nat) : Decidable (c.OwnedByOther file i) := inferInstanceAs (Decidable (_ ∧ _))

end Kctl

structure CtlCard where
  controls : List Kctl
  lastNumid : BitVec 32
  files : List SndCtlFile
  userCtlCount : Nat
  nextPtr : Nat
  fresh : ∀ c ∈ controls, c.ptr < nextPtr
  apart : (controls.map Kctl.ptr).Nodup

inductive DriverCall where
  | put (ptr i : Nat)
  | tlv (ptr : Nat)
  deriving DecidableEq

namespace CtlCard

variable (card : CtlCard)

def toSndCard : SndCard := ⟨card.controls.map Kctl.control, card.lastNumid, card.files⟩

def kctlAt (place : Option Nat) : Option Kctl := place.bind fun i => card.controls[i]?

def findId (id : SndCtlElemId) : Option Kctl := card.kctlAt (sndCtlFindId (card.controls.map Kctl.control) id)

def findNumid (numid : BitVec 32) : Option Kctl := card.kctlAt (sndCtlFindNumid (card.controls.map Kctl.control) numid)

def notify (mask : BitVec 32) (id : SndCtlElemId) : CtlCard :=
  { card with files := (card.toSndCard.sndCtlNotify mask id).files }

def notifyElems (mask : BitVec 32) (id : SndCtlElemId) (count : Nat) : CtlCard :=
  { card with files := (card.toSndCard.notifyElems mask id count).files }

variable {card}

theorem fresh_map {f : Kctl → Kctl} (same : ∀ c, (f c).ptr = c.ptr) :
    ∀ c ∈ card.controls.map f, c.ptr < card.nextPtr := by
  intro c inside
  obtain ⟨before, there, rfl⟩ := List.mem_map.mp inside
  rw [same]
  exact card.fresh before there

theorem apart_map {f : Kctl → Kctl} (same : ∀ c, (f c).ptr = c.ptr) :
    ((card.controls.map f).map Kctl.ptr).Nodup := by
  have ptrs : Kctl.ptr ∘ f = Kctl.ptr := funext same
  rw [List.map_map, ptrs]
  exact card.apart

theorem fresh_filter {keep : Kctl → Bool} : ∀ c ∈ card.controls.filter keep, c.ptr < card.nextPtr :=
  fun c inside => card.fresh c (List.mem_of_mem_filter inside)

theorem apart_filter {keep : Kctl → Bool} : ((card.controls.filter keep).map Kctl.ptr).Nodup :=
  card.apart.sublist (List.filter_sublist.map _)

theorem fresh_add {c : Kctl} (new : c.ptr = card.nextPtr) :
    ∀ d ∈ card.controls ++ [c], d.ptr < card.nextPtr + 1 := by
  intro d inside
  rcases List.mem_append.mp inside with old | last
  · exact Nat.lt_succ_of_lt (card.fresh d old)
  · rw [List.mem_singleton.mp last, new]
    exact Nat.lt_succ_self _

theorem apart_add {c : Kctl} (new : c.ptr = card.nextPtr) : ((card.controls ++ [c]).map Kctl.ptr).Nodup := by
  rw [List.map_append, List.map_singleton]
  apply List.Nodup.append card.apart (List.nodup_singleton _)
  rw [List.disjoint_singleton, new]
  intro inside
  obtain ⟨d, there, same⟩ := List.mem_map.mp inside
  exact absurd (same ▸ card.fresh d there) (Nat.lt_irrefl _)

variable (card)

def changeAt (ptr : Nat) (f : Kctl → Kctl) (same : ∀ c, (f c).ptr = c.ptr) : CtlCard :=
  let g (c : Kctl) : Kctl := if c.ptr = ptr then f c else c
  have same' : ∀ c, (g c).ptr = c.ptr := fun c => by
    show (if c.ptr = ptr then f c else c).ptr = c.ptr
    split
    · exact same c
    · rfl
  { card with controls := card.controls.map g, fresh := fresh_map same', apart := apart_map same' }

/-- `snd_ctl_remove`. -/
def sndCtlRemoveKctl (c : Kctl) : CtlCard :=
  ({ card with
    controls := card.controls.filter fun d => decide (d.ptr ≠ c.ptr)
    fresh := fresh_filter
    apart := apart_filter } : CtlCard).notifyElems SNDRV_CTL_EVENT_MASK_REMOVE c.control.id c.control.count

/-- `snd_ctl_add` of a control that has just been allocated. -/
def sndCtlAddKctl (c : Kctl) (new : c.ptr = card.nextPtr) : Int × CtlCard :=
  match sndCtlFindId card.toSndCard.controls c.control.id with
  | some _ => (-EBUSY, card)
  | none =>
    match sndCtlFindHole card.toSndCard.controls c.control.len card.lastNumid with
    | (false, last) => (-ENOMEM, { card with lastNumid := last })
    | (true, last) =>
      let added : CtlCard := { card with
        controls := card.controls ++ [{ c with control := c.control.setNumid (last + 1) }]
        lastNumid := last + c.control.len
        nextPtr := card.nextPtr + 1
        fresh := fresh_add new
        apart := apart_add new }
      (0, added.notifyElems SNDRV_CTL_EVENT_MASK_ADD c.control.id c.control.count)

structure Reply where
  result : Int
  card : CtlCard
  calls : List DriverCall

def refuse (err : Int) : Reply := ⟨err, card, []⟩

def sndCtlRemoveUserCtl (file : Nat) (id : SndCtlElemId) : Reply :=
  match card.findId id with
  | none => card.refuse (-ENOENT)
  | some c =>
    if (c.vd 0).access &&& SNDRV_CTL_ELEM_ACCESS_USER = 0 then card.refuse (-EINVAL)
    else if ∃ i < c.control.count, c.OwnedByOther file i then card.refuse (-EBUSY)
    else
      let removed := card.sndCtlRemoveKctl c
      ⟨0, { removed with userCtlCount := removed.userCtlCount - 1 }, []⟩

/-- `snd_ctl_elem_write`; `driver` is what the put callback of a driver returns. -/
def sndCtlElemWriteKctl (file : Nat) (id : SndCtlElemId) (value : List (BitVec 8)) (driver : Int) : Reply :=
  match card.findId id with
  | none => card.refuse (-ENOENT)
  | some c =>
    let i := (c.control.getIoff id).toNat
    let id := c.control.buildIoff (BitVec.ofNat 32 i)
    if (c.vd i).access &&& SNDRV_CTL_ELEM_ACCESS_WRITE = 0 ∨ c.put = false ∨ c.OwnedByOther file i then
      card.refuse (-EPERM)
    else
      match c.user with
      | some ue =>
        if (ue.put value).1 then
          ⟨0, (card.changeAt c.ptr (·.setUser fun ue => (ue.put value).2) fun _ => rfl).notify
            SNDRV_CTL_EVENT_MASK_VALUE id, []⟩
        else card.refuse 0
      | none =>
        if 0 < driver then ⟨0, card.notify SNDRV_CTL_EVENT_MASK_VALUE id, [.put c.ptr i]⟩
        else ⟨driver, card, [.put c.ptr i]⟩

def sndCtlElemLock (file : Nat) (id : SndCtlElemId) : Reply :=
  match card.findId id with
  | none => card.refuse (-ENOENT)
  | some c =>
    let i := (c.control.getIoff id).toNat
    if (c.vd i).owner ≠ none then card.refuse (-EBUSY)
    else ⟨0, card.changeAt c.ptr (·.setOwner i (some file)) fun _ => rfl, []⟩

def sndCtlElemUnlock (file : Nat) (id : SndCtlElemId) : Reply :=
  match card.findId id with
  | none => card.refuse (-ENOENT)
  | some c =>
    let i := (c.control.getIoff id).toNat
    if (c.vd i).owner = none then card.refuse (-EINVAL)
    else if (c.vd i).owner ≠ some file then card.refuse (-EPERM)
    else ⟨0, card.changeAt c.ptr (·.setOwner i none) fun _ => rfl, []⟩

/-- `snd_ctl_tlv_ioctl` with the flag of TLV_WRITE; `driver` is what the TLV callback of a driver returns. -/
def sndCtlTlvWrite (file : Nat) (numid : BitVec 32) (tlv : List (BitVec 8)) (fault : Bool) (driver : Int) : Reply :=
  if tlv.length < 8 then card.refuse (-EINVAL)
  else
    match card.findNumid numid with
    | none => card.refuse (-ENOENT)
    | some c =>
      let i := (numid - c.control.id.numid).toNat
      if c.tlv = false then card.refuse (- ENXIO)
      else if (c.vd i).access &&& SNDRV_CTL_ELEM_ACCESS_TLV_WRITE = 0 then card.refuse (- ENXIO)
      else if (c.vd i).access &&& SNDRV_CTL_ELEM_ACCESS_TLV_CALLBACK = 0 then card.refuse (- ENXIO)
      else if c.OwnedByOther file i then card.refuse (-EPERM)
      else
        match c.user with
        | some ue =>
          let err := (ue.writeTlv tlv fault).1
          let written := card.changeAt c.ptr (·.setUser fun ue => (ue.writeTlv tlv fault).2) fun _ => rfl
          if 0 < err then ⟨0, written.notify SNDRV_CTL_EVENT_MASK_TLV c.control.id, []⟩ else ⟨err, written, []⟩
        | none =>
          if 0 < driver then ⟨0, card.notify SNDRV_CTL_EVENT_MASK_TLV c.control.id, [.tlv c.ptr]⟩
          else ⟨driver, card, [.tlv c.ptr]⟩

/-- The control that `snd_ctl_elem_add` makes. -/
def newKctl (file : Nat) (info : SndCtlElemInfo) (size : Nat) (control : SndKcontrol) : Kctl where
  ptr := card.nextPtr
  control := control
  vd := fun _ => ⟨info.userAccess, some file⟩
  put := decide (info.asked &&& SNDRV_CTL_ELEM_ACCESS_WRITE ≠ 0)
  tlv := info.hasTlv
  user := some ⟨List.replicate size 0, []⟩
  marked := SndCtlElemInfo.marked_userAccess _ _

/-- `snd_ctl_elem_add` once the id is free. -/
def addElem (file : Nat) (info : SndCtlElemInfo) (memory fault : Bool) : Reply :=
  match info.privateSize with
  | none => card.refuse (-EINVAL)
  | some size =>
    if memory = false then card.refuse (-ENOMEM)
    else if info.initEnumNames fault < 0 then card.refuse (info.initEnumNames fault)
    else
      match info.newControl with
      | none => card.refuse (-ENOMEM)
      | some control =>
        let (err, card) := card.sndCtlAddKctl (card.newKctl file info size control) rfl
        if err < 0 then card.refuse err else ⟨0, { card with userCtlCount := card.userCtlCount + 1 }, []⟩

/-- `snd_ctl_elem_add`; `memory` tells whether there is some, `fault` whether the names cannot be read. -/
def sndCtlElemAdd (file : Nat) (info : SndCtlElemInfo) (replace memory fault : Bool) : Reply :=
  if replace = false ∧ MAX_USER_CONTROLS ≤ card.userCtlCount then card.refuse (-ENOMEM)
  else if info.count.toNat < 1 then card.refuse (-EINVAL)
  else
    match card.findId info.id.byName with
    | some c =>
      if replace then (card.sndCtlRemoveKctl c).addElem file info memory fault else card.refuse (-EBUSY)
    | none => if replace then card.refuse (-ENOENT) else card.addElem file info memory fault

end CtlCard

inductive UserRequest where
  | add (info : SndCtlElemInfo) (memory fault : Bool)
  | replace (info : SndCtlElemInfo) (memory fault : Bool)
  | remove (id : SndCtlElemId)
  | write (id : SndCtlElemId) (value : List (BitVec 8)) (driver : Int)
  | tlvWrite (numid : BitVec 32) (tlv : List (BitVec 8)) (fault : Bool) (driver : Int)
  | lock (id : SndCtlElemId)
  | unlock (id : SndCtlElemId)

namespace CtlCard

def request (card : CtlCard) (file : Nat) : UserRequest → Reply
  | .add info memory fault => card.sndCtlElemAdd file info false memory fault
  | .replace info memory fault => card.sndCtlElemAdd file info true memory fault
  | .remove id => card.sndCtlRemoveUserCtl file id
  | .write id value driver => card.sndCtlElemWriteKctl file id value driver
  | .tlvWrite numid tlv fault driver => card.sndCtlTlvWrite file numid tlv fault driver
  | .lock id => card.sndCtlElemLock file id
  | .unlock id => card.sndCtlElemUnlock file id

end CtlCard

end AlsaDriver.Control
