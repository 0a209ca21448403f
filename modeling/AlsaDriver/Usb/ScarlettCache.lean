import AlsaDriver.Lib.Words
import AlsaDriver.Lib.Runs
import AlsaDriver.Usb.ScarlettRegisters

namespace AlsaDriver.Usb.Scarlett

open Words

def LEVEL_BIAS : Int := 128

/-- The part of `scarlett_mixer_elem_info` that changes. -/
structure Elem where
  cached : Nat → Bool
  cacheVal : Nat → Int

/-- The elements of the controls in the order of their creation, and the two bytes of each register. The values that
    were given to transfers to the device, and the last user values of a control that were all written, are not in the
    source. -/
structure Mixer where
  elems : Nat → Elem
  device : Nat × Nat → Nat × Nat
  sent : List (Nat × Int)
  written : Nat → Option (Nat → Int)

/-- `read` and `write` tell which of the transfers for a channel succeed. -/
inductive MixerOp where
  | get (k : Nat) (read : Nat → Bool)
  | put (k : Nat) (value : Nat → Int) (read write : Nat → Bool)

def clamp (value low high : Int) : Int := min (max value low) high

namespace Callbacks

/-- `snd_kcontrol` has the callbacks that use the cache. -/
def usesCache : Callbacks → Bool
  | .ctlSwitch | .ctl _ | .ctlEnum _ => true
  | .ctlSync _ | .ctlSave _ => false

/-- The value that the `put` callback writes for a value of the user. -/
def rawOf (value : Int) : Callbacks → Int
  | .ctlSwitch => if toSigned 32 value = 0 then 1 else 0
  | .ctl _ => toSigned 32 (toSigned 32 (value - LEVEL_BIAS) * 256)
  | .ctlEnum opt => toSigned 32 (toSigned 32 value + opt.start)
  | .ctlSync _ | .ctlSave _ => value

/-- The value that the `get` callback has for the value of a register. -/
def userOf (value : Int) : Callbacks → Int
  | .ctlSwitch => if value = 0 then 1 else 0
  | .ctl maxValue => clamp (value.tdiv 256) (-128) maxValue + LEVEL_BIAS
  | .ctlEnum opt => if opt.start = -1 ∧ opt.len < value then 0 else clamp (value - opt.start) 0 (opt.len - 1)
  | .ctlSync _ | .ctlSave _ => value

end Callbacks

namespace Control

variable (c : Control)

def register (channel : Nat) : Nat × Nat := (c.index, c.wValue + channel)

def readLen : Nat :=
  if c.index = 0x01 ∨ (c.index = 0x0a ∧ c.wValue < 0x0200) ∨ c.index = 0x32 ∨ c.index = 0x33 then 1 else c.valLen

def encode (value : Int) (old : Nat × Nat) : Nat × Nat :=
  if c.valLen = 2 then (toUnsigned 8 value, toUnsigned 8 (value / 256)) else (toUnsigned 8 value, old.2)

def decode (bytes : Nat × Nat) : Int :=
  if c.readLen = 2 then
    let value : Int := bytes.1 + bytes.2 * 256
    if 0x8000 ≤ value then value - 0x10000 else value
  else bytes.1

end Control

namespace Mixer

variable (s : Mixer) (k : Nat) (c : Control)

def setElem (channel : Nat) (value : Int) : Mixer :=
  { s with elems := fun j =>
      if j = k then
        { cached := fun i => i == channel || (s.elems j).cached i
          cacheVal := fun i => if i = channel then value else (s.elems j).cacheVal i }
      else s.elems j }

def transfer (channel : Nat) (value : Int) : Mixer :=
  { s with device := fun r =>
      if r = c.register channel then c.encode value (s.device r) else s.device r }

def setCtlValue (channel : Nat) (value : Int) (write : Bool) : Mixer × Bool :=
  let s := { s with sent := (k, value) :: s.sent }
  if write then ((s.transfer c channel value).setElem k channel value, true) else (s, false)

def getCtlValue (channel : Nat) (read : Bool) : Mixer × Option Int :=
  if (s.elems k).cached channel then (s, some ((s.elems k).cacheVal channel))
  else if read then
    let value := c.decode (s.device (c.register channel))
    (s.setElem k channel value, some value)
  else (s, none)

/-- `init_ctl`, all transfers of which succeed. -/
def initCtl (value : Int) : Mixer :=
  (List.range c.count).foldl (fun s channel => (s.setCtlValue k c channel value true).1) s

/-- The loop of the `get` callbacks. -/
def getLoop (read : Nat → Bool) : Mixer → List Nat → Mixer × Option (List Int)
  | s, [] => (s, some [])
  | s, channel :: rest =>
    match s.getCtlValue k c channel (read channel) with
    | (s, none) => (s, none)
    | (s, some value) => ((getLoop read s rest).1, (getLoop read s rest).2.map (c.callbacks.userOf value :: ·))

/-- The loop of the `put` callbacks. -/
def putLoop (value : Nat → Int) (read write : Nat → Bool) : Mixer → List Nat → Mixer × Bool
  | s, [] => (s, true)
  | s, channel :: rest =>
    match s.getCtlValue k c channel (read channel) with
    | (s, none) => (s, false)
    | (s, some oval) =>
      if oval ≠ c.callbacks.rawOf (value channel) then
        match s.setCtlValue k c channel (c.callbacks.rawOf (value channel)) (write channel) with
        | (s, false) => (s, false)
        | (s, true) => putLoop value read write s rest
      else putLoop value read write s rest

def noteWritten (value : Option (Nat → Int)) : Mixer :=
  { s with written := fun j => if j = k then value else s.written j }

def exec (controls : List Control) (s : Mixer) : MixerOp → Mixer
  | .get k read =>
    match controls[k]? with
    | some c => if c.callbacks.usesCache then (getLoop k c read s (List.range c.count)).1 else s
    | none => s
  | .put k value read write =>
    match controls[k]? with
    | some c =>
      if c.callbacks.usesCache then
        let done := putLoop k c value read write s (List.range c.count)
        done.1.noteWritten k (if done.2 then some value else none)
      else s
    | none => s

def plugged (device : Nat × Nat → Nat × Nat) : Mixer :=
  { elems := fun _ => ⟨fun _ => false, fun _ => 0⟩, device, sent := [], written := fun _ => none }

def initAll (s : Mixer) (control : Control × Nat) : Mixer :=
  control.1.inits.foldl (fun s value => s.initCtl control.2 control.1 value) s

/-- The mixer after `scarlett_mixer_controls`. -/
def created (controls : List Control) (device : Nat × Nat → Nat × Nat) : Mixer :=
  controls.zipIdx.foldl initAll (plugged device)

end Mixer

end AlsaDriver.Usb.Scarlett
