import AlsaDriver.Lib.ListHead
import AlsaDriver.Pcm.State

namespace AlsaDriver.Pcm

open ListHead

/-- A `struct snd_pcm_group *`: the `self_group` inside a substream or an allocated group. -/
inductive GroupRef (Sub Grp : Type*) where
  | own (s : Sub)
  | shared (g : Grp)
  deriving DecidableEq

/-- The list nodes: `substreams` of a group and `link_list` of a substream. -/
inductive LinkNode (Sub Grp : Type*) where
  | substreams (group : GroupRef Sub Grp)
  | linkList (s : Sub)
  | poison
  deriving DecidableEq

/-- `state` is `none` while the substream has no runtime; `fault` records a `kfree` of memory that
    is not allocated. -/
structure LinkState (Sub Grp : Type*) where
  links : Links (LinkNode Sub Grp)
  group : Sub → GroupRef Sub Grp
  count : GroupRef Sub Grp → Int
  allocated : Grp → Bool
  fault : Bool
  state : Sub → Option SndPcmState

variable {Sub Grp : Type*} [DecidableEq Sub] [DecidableEq Grp]

def sndPcmStreamLinked (h : LinkState Sub Grp) (substream : Sub) : Bool := h.group substream != .own substream

def kmalloc (h : LinkState Sub Grp) (g : Grp) : LinkState Sub Grp :=
  { h with allocated := Function.update h.allocated g true }

@[simp] theorem sndPcmStreamLinked_kmalloc (h : LinkState Sub Grp) (g : Grp) (substream : Sub) :
    sndPcmStreamLinked (kmalloc h g) substream = sndPcmStreamLinked h substream := rfl

def kfree (h : LinkState Sub Grp) : GroupRef Sub Grp → LinkState Sub Grp
  | .own _ => { h with fault := true }
  | .shared g =>
    if h.allocated g then { h with allocated := Function.update h.allocated g false } else { h with fault := true }

/-- The first substream of a group takes over the new `group`. -/
def linkFirst (h : LinkState Sub Grp) (substream : Sub) (group : GroupRef Sub Grp) : LinkState Sub Grp :=
  { h with
    group := Function.update h.group substream group
    links := listAddTail (initListHead h.links (.substreams group)) (.linkList substream) (.substreams group)
    count := Function.update h.count group 1 }

def linkNext (h : LinkState Sub Grp) (substream substream1 : Sub) : LinkState Sub Grp :=
  let group := h.group substream
  { h with
    links := listAddTail h.links (.linkList substream1) (.substreams group)
    count := Function.update h.count group (h.count group + 1)
    group := Function.update h.group substream1 group }

/-- `fd` is the substream of the PCM file behind the descriptor, if it is one, and `memory` what
    the allocation of the group returns. -/
def sndPcmLink (h : LinkState Sub Grp) (substream : Sub) (fd : Option Sub) (memory : Option Grp) :
    Int × LinkState Sub Grp :=
  match fd, memory with
  | none, _ => (-EBADFD, h)
  | some _, none => (-ENOMEM, h)
  | some substream1, some group =>
    let h := kmalloc h group
    if h.state substream == some .open || h.state substream != h.state substream1 then
      (-EBADFD, kfree h (.shared group))
    else if sndPcmStreamLinked h substream1 then (-EALREADY, kfree h (.shared group))
    else if !sndPcmStreamLinked h substream then
      (0, linkNext (linkFirst h substream (.shared group)) substream substream1)
    else (0, kfree (linkNext h substream substream1) (.shared group))

def relinkToLocal (h : LinkState Sub Grp) (substream : Sub) : LinkState Sub Grp :=
  { h with
    group := Function.update h.group substream (.own substream)
    links := listAddTail (initListHead h.links (.substreams (.own substream))) (.linkList substream)
      (.substreams (.own substream)) }

/-- The first entry of the list that `snd_pcm_group_for_each_entry` walks. -/
def groupFirst (h : LinkState Sub Grp) (group : GroupRef Sub Grp) : Option Sub :=
  match h.links.next (.substreams group) with
  | .linkList s => some s
  | _ => none

def unlinkDetach (h : LinkState Sub Grp) (substream : Sub) : LinkState Sub Grp :=
  let group := h.group substream
  { h with
    links := listDel h.links .poison (.linkList substream)
    count := Function.update h.count group (h.count group - 1) }

def sndPcmUnlink (h : LinkState Sub Grp) (substream : Sub) : Int × LinkState Sub Grp :=
  if !sndPcmStreamLinked h substream then (-EALREADY, h)
  else
    let h := unlinkDetach h substream
    let h :=
      if h.count (h.group substream) == 1 then
        let h := match groupFirst h (h.group substream) with
          | some s => relinkToLocal h s
          | none => h
        kfree h (h.group substream)
      else h
    (0, relinkToLocal h substream)

/-- The operations on open substreams; `ioctl` is any other one, which leaves its substream in the
    state `st`. -/
inductive LinkOp (Sub Grp : Type*) where
  | open (s : Sub)
  | ioctl (s : Sub) (st : SndPcmState)
  | link (s : Sub) (fd : Option Sub) (memory : Option Grp)
  | unlink (s : Sub)
  | release (s : Sub)

def linkExec (h : LinkState Sub Grp) : LinkOp Sub Grp → LinkState Sub Grp
  | .open s => { h with state := Function.update h.state s (some .open) }
  | .ioctl s st => { h with state := Function.update h.state s (some st) }
  | .link s fd memory => (sndPcmLink h s fd memory).2
  | .unlink s => (sndPcmUnlink h s).2
  | .release s =>
    let h := (sndPcmUnlink h s).2
    { h with state := Function.update h.state s none }

/-- The descriptors are open and `kmalloc` returns memory that is not in use. -/
def LinkOp.Enabled (h : LinkState Sub Grp) : LinkOp Sub Grp → Prop
  | .open s => h.state s = none
  | .ioctl s _ | .unlink s | .release s => h.state s ≠ none
  | .link s fd memory => h.state s ≠ none ∧ (∀ s1 ∈ fd, h.state s1 ≠ none) ∧ ∀ g ∈ memory, h.allocated g = false

/-- After `snd_pcm_new_stream`: every substream is alone on the list of its own group. -/
def linkInit : LinkState Sub Grp where
  links := {
    next := fun
      | .substreams (.own s) => .linkList s
      | .linkList s => .substreams (.own s)
      | x => x
    prev := fun
      | .substreams (.own s) => .linkList s
      | .linkList s => .substreams (.own s)
      | x => x }
  group := .own
  count := fun _ => 0
  allocated := fun _ => false
  fault := false
  state := fun _ => none

end AlsaDriver.Pcm
