import Mathlib.Init

namespace AlsaDriver.Control

def ENOENT : Int := 2
def ENOMEM : Int := 12
def EBUSY : Int := 16
def EINVAL : Int := 22

def MAX_CONTROL_COUNT : Nat := 1028

def SNDRV_CTL_EVENT_MASK_VALUE : BitVec 32 := 0x1
def SNDRV_CTL_EVENT_MASK_ADD : BitVec 32 := 0x4
def SNDRV_CTL_EVENT_MASK_REMOVE : BitVec 32 := 0xffffffff

structure SndCtlElemId where
  numid : BitVec 32
  iface : BitVec 32
  device : BitVec 32
  subdevice : BitVec 32
  name : List (BitVec 8)
  index : BitVec 32
  deriving DecidableEq, Repr

/-- What `strncmp` reads of a name of 44 bytes. -/
def cString (name : List (BitVec 8)) : List (BitVec 8) := (name.take 44).takeWhile (· != 0)

namespace SndCtlElemId

variable (id : SndCtlElemId)

def byName : SndCtlElemId := { id with numid := 0 }

def base : BitVec 32 × BitVec 32 × BitVec 32 × List (BitVec 8) := (id.iface, id.device, id.subdevice, cString id.name)

def offset (n : BitVec 32) : SndCtlElemId := { id with index := id.index + n, numid := id.numid + n }

end SndCtlElemId

/-- A control instance as `snd_ctl_new` makes it. -/
structure SndKcontrol where
  id : SndCtlElemId
  count : Nat
  counted : 0 < count ∧ count ≤ MAX_CONTROL_COUNT

namespace SndKcontrol

variable (k : SndKcontrol)

def len : BitVec 32 := BitVec.ofNat 32 k.count

def buildIoff (offset : BitVec 32) : SndCtlElemId := k.id.offset offset

def getIoff (id : SndCtlElemId) : BitVec 32 := if id.numid ≠ 0 then id.numid - k.id.numid else id.index - k.id.index

def elem (i : Nat) : SndCtlElemId := k.buildIoff (BitVec.ofNat 32 i)

def setNumid (numid : BitVec 32) : SndKcontrol := { k with id := { k.id with numid := numid } }

def hasNumid (numid : BitVec 32) : Bool := decide (k.id.numid ≤ numid) && decide (numid < k.id.numid + k.len)

def hasName (id : SndCtlElemId) : Bool :=
  k.id.base == id.base && decide (k.id.index ≤ id.index) && decide (id.index < k.id.index + k.len)

end SndKcontrol

structure SndKctlEvent where
  id : SndCtlElemId
  mask : BitVec 32
  deriving DecidableEq, Repr

structure SndCtlFile where
  subscribed : Bool
  events : List SndKctlEvent

structure SndCard where
  controls : List SndKcontrol
  lastNumid : BitVec 32
  files : List SndCtlFile

def sndCtlFindNumid (controls : List SndKcontrol) (numid : BitVec 32) : Option Nat :=
  if numid = 0 then none else controls.findIdx? (·.hasNumid numid)

def sndCtlFindId (controls : List SndKcontrol) (id : SndCtlElemId) : Option Nat :=
  if id.numid ≠ 0 then sndCtlFindNumid controls id.numid else controls.findIdx? (·.hasName id)

/-- Whether a control is in the way of `count` numids after `last`. -/
def numidConflict (last count : BitVec 32) (k : SndKcontrol) : Bool :=
  decide (k.id.numid < last + 1 + count) && decide (last + 1 < k.id.numid + k.len)

/-- `snd_ctl_remove_numid_conflict`: the new `last_numid`, if there was a conflict. -/
def sndCtlRemoveNumidConflict (controls : List SndKcontrol) (count last : BitVec 32) : Option (BitVec 32) :=
  (controls.find? (numidConflict last count)).map fun k => k.id.numid + k.len - 1

/-- The loop of `snd_ctl_find_hole`: no error if it stops, and `last_numid` as it is left. -/
def findHole (controls : List SndKcontrol) (count : BitVec 32) : Nat → BitVec 32 → Bool × BitVec 32
  | 0, last => (false, last)
  | iter + 1, last =>
    match sndCtlRemoveNumidConflict controls count last with
    | none => (true, last)
    | some last => findHole controls count iter last

def sndCtlFindHole (controls : List SndKcontrol) (count last : BitVec 32) : Bool × BitVec 32 :=
  findHole controls count 100000 last

def queueEvent (mask : BitVec 32) (id : SndCtlElemId) : List SndKctlEvent → List SndKctlEvent
  | [] => [⟨id, mask⟩]
  | ev :: rest => if ev.id.numid = id.numid then { ev with mask := ev.mask ||| mask } :: rest else ev :: queueEvent mask id rest

def SndCtlFile.notify (mask : BitVec 32) (id : SndCtlElemId) (file : SndCtlFile) : SndCtlFile :=
  if file.subscribed then { file with events := queueEvent mask id file.events } else file

namespace SndCard

variable (card : SndCard)

def sndCtlNotify (mask : BitVec 32) (id : SndCtlElemId) : SndCard :=
  { card with files := card.files.map (SndCtlFile.notify mask id) }

/-- The loop of notifications over the elements of a control, with a copy `id` of its id. -/
def notifyElems (mask : BitVec 32) (id : SndCtlElemId) (count : Nat) : SndCard :=
  (List.range count).foldl (fun card idx => card.sndCtlNotify mask (id.offset (BitVec.ofNat 32 idx))) card

/-- The common end of `snd_ctl_add` and `snd_ctl_replace`. The copy of the id is from before the numid is set. -/
def addTail (k : SndKcontrol) : Int × SndCard :=
  match sndCtlFindHole card.controls k.len card.lastNumid with
  | (false, last) => (-ENOMEM, { card with lastNumid := last })
  | (true, last) =>
    (0, ({ card with
      controls := card.controls ++ [k.setNumid (last + 1)]
      lastNumid := last + k.len } : SndCard).notifyElems SNDRV_CTL_EVENT_MASK_ADD k.id k.count)

def sndCtlAdd (k : SndKcontrol) : Int × SndCard :=
  match sndCtlFindId card.controls k.id with
  | some _ => (-EBUSY, card)
  | none => card.addTail k

/-- `snd_ctl_remove` of the control at a place. -/
def sndCtlRemove (place : Nat) : SndCard :=
  match card.controls[place]? with
  | none => card
  | some k => ({ card with controls := card.controls.eraseIdx place } : SndCard).notifyElems
      SNDRV_CTL_EVENT_MASK_REMOVE k.id k.count

def sndCtlReplace (k : SndKcontrol) (addOnReplace : Bool) : Int × SndCard :=
  match sndCtlFindId card.controls k.id with
  | none => if addOnReplace then card.addTail k else (-EINVAL, card)
  | some old => (card.sndCtlRemove old).addTail k

def sndCtlRenameId (srcId dstId : SndCtlElemId) : Int × SndCard :=
  match sndCtlFindId card.controls srcId with
  | none => (-ENOENT, card)
  | some place =>
    match card.controls[place]? with
    | none => (-ENOENT, card)
    | some k =>
      (0, { card with
        controls := card.controls.set place { k with id := { dstId with numid := card.lastNumid + 1 } }
        lastNumid := card.lastNumid + k.len })

/-- `snd_ctl_elem_write` of a control that may be written; `changed` tells whether its put callback
    returns a positive value. -/
def sndCtlElemWrite (id : SndCtlElemId) (changed : Bool) : SndCard :=
  match (sndCtlFindId card.controls id).bind fun place => card.controls[place]? with
  | none => card
  | some k => if changed then card.sndCtlNotify SNDRV_CTL_EVENT_MASK_VALUE (k.buildIoff (k.getIoff id)) else card

def sndCtlSubscribeEvents (file : Nat) (subscribe : Bool) : SndCard :=
  { card with
    files := card.files.modify file fun f =>
      if subscribe then { f with subscribed := true }
      else if f.subscribed then ⟨false, []⟩ else f }

/-- `snd_ctl_read` of `n` events without blocking. -/
def sndCtlRead (file n : Nat) : SndCard :=
  { card with
    files := card.files.modify file fun f => if f.subscribed then { f with events := f.events.drop n } else f }

end SndCard

inductive CtlOp where
  | add (k : SndKcontrol)
  | replace (k : SndKcontrol) (addOnReplace : Bool)
  | remove (place : Nat)
  | renameId (srcId dstId : SndCtlElemId)
  | elemWrite (id : SndCtlElemId) (changed : Bool)
  | notify (mask : BitVec 32) (place idx : Nat) (id : SndCtlElemId)
  | subscribe (file : Nat) (on : Bool)
  | drain (file : Nat)

namespace SndCard

def exec (card : SndCard) : CtlOp → SndCard
  | .add k => (card.sndCtlAdd k).2
  | .replace k addOnReplace => (card.sndCtlReplace k addOnReplace).2
  | .remove place => card.sndCtlRemove place
  | .renameId srcId dstId => (card.sndCtlRenameId srcId dstId).2
  | .elemWrite id changed => card.sndCtlElemWrite id changed
  | .notify mask _ _ id => card.sndCtlNotify mask id
  | .subscribe file on => card.sndCtlSubscribeEvents file on
  | .drain file => card.sndCtlRead file ((card.files[file]?.map fun f => f.events.length).getD 0)

end SndCard

end AlsaDriver.Control
