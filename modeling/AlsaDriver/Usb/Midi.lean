import Mathlib.Data.List.Basic

namespace AlsaDriver.Usb

/-- The packet functions of `usb_protocol_ops`. -/
inductive MidiLayout where
  | standard
  | midiman
  deriving DecidableEq

inductive MidiState where
  | unknown
  | oneParam
  | twoParam1
  | twoParam2
  | sysex0
  | sysex1
  | sysex2
  deriving DecidableEq

/-- The arguments of a call of `output_packet`. -/
structure MidiPacket where
  p0 : Nat
  p1 : Nat
  p2 : Nat
  p3 : Nat

/-- An output port with the bytes that its substream has for `snd_rawmidi_transmit`. -/
structure UsbmidiOutPort where
  substream : List Nat
  active : Bool
  cable : Nat
  state : MidiState
  data0 : Nat
  data1 : Nat

def cinLengths : List Nat := [0, 0, 2, 3, 3, 1, 2, 3, 3, 3, 3, 3, 2, 2, 3, 1]

def cinLength (cin : Nat) : Nat := cinLengths.getD cin 0

namespace MidiLayout

def outputPacket (packet : MidiPacket) : MidiLayout → List Nat
  | standard => [packet.p0, packet.p1, packet.p2, packet.p3]
  | midiman => [packet.p1, packet.p2, packet.p3, packet.p0 &&& 0xf0 ||| cinLength (packet.p0 &&& 0x0f)]

/-- The cables and the data of the calls of `snd_usbmidi_input_data`. -/
def input (layout : MidiLayout) : List Nat → List (Nat × List Nat)
  | b0 :: b1 :: b2 :: b3 :: rest =>
    let data : List (Nat × List Nat) :=
      match layout with
      | standard => if b0 ≠ 0 then [(b0 >>> 4, [b1, b2, b3].take (cinLength (b0 &&& 0x0f)))] else []
      | midiman => if b3 ≠ 0 then [(b3 >>> 4, [b0, b1, b2].take (b3 &&& 3))] else []
    data ++ input layout rest
  | _ => []

end MidiLayout

namespace UsbmidiOutPort

variable (port : UsbmidiOutPort)

def transmitCommon (b : Nat) : UsbmidiOutPort × Option MidiPacket :=
  match b with
  | 0xf0 => ({ port with data0 := b, state := .sysex1 }, none)
  | 0xf1 | 0xf3 => ({ port with data0 := b, state := .oneParam }, none)
  | 0xf2 => ({ port with data0 := b, state := .twoParam1 }, none)
  | 0xf4 | 0xf5 => ({ port with state := .unknown }, none)
  | 0xf6 => ({ port with state := .unknown }, some ⟨port.cable ||| 0x05, 0xf6, 0, 0⟩)
  | 0xf7 =>
    ({ port with state := .unknown },
      match port.state with
      | .sysex0 => some ⟨port.cable ||| 0x05, 0xf7, 0, 0⟩
      | .sysex1 => some ⟨port.cable ||| 0x06, port.data0, 0xf7, 0⟩
      | .sysex2 => some ⟨port.cable ||| 0x07, port.data0, port.data1, 0xf7⟩
      | _ => none)
  | _ => (port, none)

def transmitData (b : Nat) : UsbmidiOutPort × Option MidiPacket :=
  match port.state with
  | .unknown => (port, none)
  | .oneParam =>
    if port.data0 < 0xf0 then (port, some ⟨port.cable ||| port.data0 >>> 4, port.data0, b, 0⟩)
    else ({ port with state := .unknown }, some ⟨port.cable ||| 0x02, port.data0, b, 0⟩)
  | .twoParam1 => ({ port with data1 := b, state := .twoParam2 }, none)
  | .twoParam2 =>
    if port.data0 < 0xf0 then
      ({ port with state := .twoParam1 }, some ⟨port.cable ||| port.data0 >>> 4, port.data0, port.data1, b⟩)
    else ({ port with state := .unknown }, some ⟨port.cable ||| 0x03, port.data0, port.data1, b⟩)
  | .sysex0 => ({ port with data0 := b, state := .sysex1 }, none)
  | .sysex1 => ({ port with data1 := b, state := .sysex2 }, none)
  | .sysex2 => ({ port with state := .sysex0 }, some ⟨port.cable ||| 0x04, port.data0, port.data1, b⟩)

def transmitByte (b : Nat) : UsbmidiOutPort × Option MidiPacket :=
  if 0xf8 ≤ b then (port, some ⟨port.cable ||| 0x0f, b, 0, 0⟩)
  else if 0xf0 ≤ b then port.transmitCommon b
  else if 0x80 ≤ b then
    ({ port with data0 := b, state := if 0xc0 ≤ b ∧ b ≤ 0xdf then .oneParam else .twoParam1 }, none)
  else port.transmitData b

/-- The loop of `snd_usbmidi_standard_output` for a port. -/
def output (layout : MidiLayout) (maxTransfer : Nat) (port : UsbmidiOutPort) (urb : List Nat) :
    List Nat → UsbmidiOutPort × List Nat
  | [] => ({ port with substream := [], active := port.active && !decide (urb.length + 3 < maxTransfer) }, urb)
  | b :: rest =>
    if urb.length + 3 < maxTransfer then
      let transmitted := port.transmitByte b
      transmitted.1.output layout maxTransfer (urb ++ transmitted.2.elim [] fun packet => layout.outputPacket packet) rest
    else ({ port with substream := b :: rest }, urb)

end UsbmidiOutPort

structure UsbMidi where
  ports : Nat → UsbmidiOutPort
  received : Nat → List Nat

inductive MidiOp where
  | write (p : Nat) (bytes : List Nat)
  | output

namespace UsbMidi

variable (s : UsbMidi)

def initial : UsbMidi :=
  { ports := fun p => ⟨[], false, p <<< 4, .unknown, 0, 0⟩
    received := fun _ => [] }

def outputPort (layout : MidiLayout) (maxTransfer : Nat) (done : (Nat → UsbmidiOutPort) × List Nat) (p : Nat) :
    (Nat → UsbmidiOutPort) × List Nat :=
  if (done.1 p).active then
    let sent := (done.1 p).output layout maxTransfer done.2 (done.1 p).substream
    (fun k => if k = p then sent.1 else done.1 k, sent.2)
  else done

def standardOutput (layout : MidiLayout) (maxTransfer : Nat) : (Nat → UsbmidiOutPort) × List Nat :=
  (List.range 0x10).foldl (outputPort layout maxTransfer) (s.ports, [])

def exec (layout : MidiLayout) (maxTransfer : Nat) (s : UsbMidi) : MidiOp → UsbMidi
  | .write p bytes =>
    { s with ports := fun k =>
        if k = p then { s.ports k with substream := (s.ports k).substream ++ bytes, active := true } else s.ports k }
  | .output =>
    let filled := s.standardOutput layout maxTransfer
    { ports := filled.1
      received := fun c =>
        s.received c ++ (layout.input filled.2).flatMap fun data => if data.1 = c then data.2 else [] }

end UsbMidi

end AlsaDriver.Usb
