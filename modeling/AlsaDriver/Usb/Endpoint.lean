import Mathlib.Algebra.Order.Ring.Int
import Mathlib.Logic.Function.Basic

namespace AlsaDriver.Usb

def MAX_URBS : Nat := 8

def ENOENT : Int := 2
def ENODEV : Int := 19
def ECONNRESET : Int := 104
def ESHUTDOWN : Int := 108

/-- Who waits in `wait_clear_urbs`. -/
inductive Waiter where
  | start
  | sync
  | release
  deriving DecidableEq

/-- Where the call is that starts, synchronizes or releases the endpoint. `found` tells that the wait found
    no active URB; a URB is `submitted` when its bit is about to be set. -/
inductive Control where
  | idle
  | waiting (waiter : Waiter)
  | resetting (found : Bool)
  | listing (i : Nat)
  | submitting (i : Nat)
  | submitted (i : Nat)
  | freeing (found : Bool)
  | released
  deriving DecidableEq

def Waiter.next (found : Bool) : Waiter → Control
  | .start => .resetting found
  | .sync => .idle
  | .release => .freeing found

/-- A data endpoint. The fields from `control` on are not those of the source: `inFlight` are the URBs between
    their submission and their completion, `clash` that one was submitted while in flight, and `broken` that
    one was added to the ready list twice. -/
structure SndUsbEndpoint where
  pipeout : Bool
  syncMasterData : Bool
  shutdown : Bool
  nurbs : Nat
  useCount : Int
  running : Bool
  stopping : Bool
  activeMask : Nat → Bool
  unlinkMask : Nat → Bool
  readyPlaybackUrbs : List Nat
  nextPacket : Nat → List Nat
  nextPacketReadPos : Nat
  nextPacketWritePos : Nat
  packetSize : Nat → Nat → Nat
  control : Control
  inFlight : Nat → Bool
  clash : Bool
  broken : Bool

namespace SndUsbEndpoint

variable (ep : SndUsbEndpoint)

def implicitFeedbackSink : Bool := ep.syncMasterData && ep.pipeout

def usbSubmitUrb (i : Nat) (succeeds : Bool) : SndUsbEndpoint :=
  { ep with inFlight := Function.update ep.inFlight i (ep.inFlight i || succeeds), clash := ep.clash || ep.inFlight i }

def setBit (i : Nat) : SndUsbEndpoint := { ep with activeMask := Function.update ep.activeMask i true }

def clearBit (i : Nat) : SndUsbEndpoint := { ep with activeMask := Function.update ep.activeMask i false }

def listAddTail (i : Nat) : SndUsbEndpoint :=
  if i ∈ ep.readyPlaybackUrbs then { ep with broken := true }
  else { ep with readyPlaybackUrbs := ep.readyPlaybackUrbs ++ [i] }

/-- The loop of `queue_pending_output_urbs` takes a packet even if no URB is ready for it. -/
def queuePendingLoop (submits : Nat → Bool) : List Nat → SndUsbEndpoint → SndUsbEndpoint
  | [], ep =>
    if ep.nextPacketReadPos ≠ ep.nextPacketWritePos then
      { ep with nextPacketReadPos := (ep.nextPacketReadPos + 1) % MAX_URBS }
    else ep
  | ctx :: rest, ep =>
    if ep.nextPacketReadPos ≠ ep.nextPacketWritePos then
      let packet := ep.nextPacket ep.nextPacketReadPos
      let sizes := fun i => packet.getD i (ep.packetSize ctx i)
      let ep := { ep with
        nextPacketReadPos := (ep.nextPacketReadPos + 1) % MAX_URBS
        readyPlaybackUrbs := rest
        packetSize := Function.update ep.packetSize ctx sizes }
      let ep := ep.usbSubmitUrb ctx (submits ctx)
      queuePendingLoop submits rest (if submits ctx then ep.setBit ctx else ep)
    else ep

def queuePendingOutputUrbs (submits : Nat → Bool) : SndUsbEndpoint :=
  if ep.running then queuePendingLoop submits ep.readyPlaybackUrbs ep else ep

def gone (status : Int) : Prop :=
  status = - ENOENT ∨ status = - ENODEV ∨ status = - ECONNRESET ∨ status = - ESHUTDOWN ∨ ep.shutdown = true

instance (status : Int) : Decidable (ep.gone status) := inferInstanceAs (Decidable (_ ∨ _))

def sndCompleteUrb (i : Nat) (status : Int) (submits : Nat → Bool) : SndUsbEndpoint :=
  let ep := { ep with inFlight := Function.update ep.inFlight i false }
  if ep.gone status then ep.clearBit i
  else if ep.running = false then ep.clearBit i
  else if ep.implicitFeedbackSink then ((ep.listAddTail i).queuePendingOutputUrbs submits).clearBit i
  else if submits i then ep.usbSubmitUrb i true
  else (ep.usbSubmitUrb i false).clearBit i

/-- `snd_usb_handle_sync_urb`, called when the frames of an URB of `sender` came. Only an endpoint with implicit
    feedback queues them. -/
def sndUsbHandleSyncUrb (frames : List (Int × Nat)) (senderStride : Nat) (submits : Nat → Bool) : SndUsbEndpoint :=
  if ep.implicitFeedbackSink = false ∨ ep.useCount = 0 then ep
  else if ((frames.filter fun frame => frame.1 == 0).map Prod.snd).sum = 0 then ep
  else
    let packet := frames.map fun frame => if frame.1 = 0 then frame.2 / senderStride else 0
    let ep := { ep with
      nextPacket := Function.update ep.nextPacket ep.nextPacketWritePos packet
      nextPacketWritePos := (ep.nextPacketWritePos + 1) % MAX_URBS }
    ep.queuePendingOutputUrbs submits

/-- `bitmap_weight` of the mask. -/
def alive : Nat := (List.range ep.nurbs).countP ep.activeMask

/-- A turn of the loop of `wait_clear_urbs`, the last one if it is `late`. -/
def waitClearUrbs (waiter : Waiter) (late : Bool) : SndUsbEndpoint :=
  if ep.alive = 0 ∨ late = true then { ep with stopping := false, control := waiter.next (ep.alive == 0) } else ep

def deactivateUrbs (force : Bool) : SndUsbEndpoint :=
  if force = false ∧ ep.shutdown = true then ep
  else { ep with
    running := false
    readyPlaybackUrbs := []
    nextPacketReadPos := 0
    nextPacketWritePos := 0
    unlinkMask := fun i => ep.unlinkMask i || (decide (i < ep.nurbs) && ep.activeMask i) }

def sndUsbEndpointSyncPendingStop : SndUsbEndpoint := if ep.stopping then { ep with control := .waiting .sync } else ep

/-- `snd_usb_endpoint_start` up to the wait. -/
def sndUsbEndpointStart (canSleep : Bool) : SndUsbEndpoint :=
  if ep.shutdown then ep
  else
    let ep := { ep with useCount := ep.useCount + 1 }
    if ep.useCount ≠ 1 then ep
    else { ep.deactivateUrbs false with control := if canSleep then .waiting .start else .resetting false }

def startReset : SndUsbEndpoint :=
  { ep with
    activeMask := fun _ => false
    unlinkMask := fun _ => false
    running := true
    control := if ep.implicitFeedbackSink then .listing 0 else .submitting 0 }

def startList (i : Nat) : SndUsbEndpoint :=
  if i < ep.nurbs then { ep.listAddTail i with control := .listing (i + 1) } else { ep with control := .idle }

def startError : SndUsbEndpoint :=
  { { ep with running := false, useCount := ep.useCount - 1 }.deactivateUrbs false with control := .idle }

def startSubmit (i : Nat) (succeeds : Bool) : SndUsbEndpoint :=
  if i < ep.nurbs then
    if succeeds then { ep.usbSubmitUrb i true with control := .submitted i } else (ep.usbSubmitUrb i false).startError
  else { ep with control := .idle }

def startSet (i : Nat) : SndUsbEndpoint := { ep.setBit i with control := .submitting (i + 1) }

def sndUsbEndpointStop : SndUsbEndpoint :=
  if ep.useCount = 0 then ep
  else
    let ep := { ep with useCount := ep.useCount - 1 }
    if ep.useCount = 0 then { ep.deactivateUrbs false with stopping := true } else ep

def releaseUrbs (force : Bool) : SndUsbEndpoint := { ep.deactivateUrbs force with control := .waiting .release }

def releaseFree : SndUsbEndpoint := { ep with nurbs := 0, control := .released }

end SndUsbEndpoint

/-- The steps of the calls, of the completion handlers of the endpoint, and of those of its sync endpoint.
    `submits` tells which submissions succeed. -/
inductive UsbOp where
  | start (canSleep : Bool)
  | sync
  | release (force : Bool)
  | proceed (flag : Bool)
  | stop
  | complete (i : Nat) (status : Int) (submits : Nat → Bool)
  | feedback (frames : List (Int × Nat)) (senderStride : Nat) (submits : Nat → Bool)
  | shutdown

namespace SndUsbEndpoint

variable (ep : SndUsbEndpoint)

def proceed (flag : Bool) : SndUsbEndpoint :=
  match ep.control with
  | .idle | .released => ep
  | .waiting waiter => ep.waitClearUrbs waiter flag
  | .resetting _ => ep.startReset
  | .listing i => ep.startList i
  | .submitting i => ep.startSubmit i flag
  | .submitted i => ep.startSet i
  | .freeing _ => ep.releaseFree

/-- The calls other than stop come one after another, only URBs in flight are completed, and a handler of the
    sync endpoint passes nothing on after the shutdown. -/
def exec : UsbOp → SndUsbEndpoint
  | .start canSleep => if ep.control = .idle then ep.sndUsbEndpointStart canSleep else ep
  | .sync => if ep.control = .idle then ep.sndUsbEndpointSyncPendingStop else ep
  | .release force => if ep.control = .idle then ep.releaseUrbs force else ep
  | .proceed flag => ep.proceed flag
  | .stop => ep.sndUsbEndpointStop
  | .complete i status submits => if ep.inFlight i then ep.sndCompleteUrb i status submits else ep
  | .feedback frames senderStride submits =>
    if ep.shutdown then ep else ep.sndUsbHandleSyncUrb frames senderStride submits
  | .shutdown => { ep with shutdown := true }

end SndUsbEndpoint

end AlsaDriver.Usb
