import Mathlib.Algebra.Order.Ring.Int
import AlsaDriver.Usb.Endpoint

namespace AlsaDriver.Usb

def MAX_PACKS : Nat := 20
def MAX_QUEUE : Nat := 24

/-- The value of an `unsigned int`. -/
def wrap (n : Nat) : Nat := n % 2 ^ 32

/-- What `data_ep_set_params` reads of its arguments, the endpoint and the chip. `dsdDop` tells that the format
    is `DSD_U16_LE` with DoP markers. -/
structure EpParams where
  physicalWidth : Nat
  channels : Nat
  dsdDop : Bool
  periodBytes : Nat
  datainterval : Nat
  typeII : Bool
  maxpacksize : Nat
  fillMax : Bool
  freqn : Nat
  fullSpeed : Bool
  nrpacks : Int
  pipeout : Bool
  sink : Bool
  syncinterval : Option Nat

namespace EpParams

variable (p : EpParams)

def runtimeFrameBits : Nat := p.physicalWidth * p.channels

def frameBits : Nat := p.runtimeFrameBits + if p.dsdDop then p.channels * 8 else 0

def stride : Nat := p.frameBits / 8

def freqmax : Nat :=
  if p.maxpacksize ≠ 0 then wrap (p.maxpacksize / p.stride * 2 ^ (16 - p.datainterval))
  else wrap (p.freqn + p.freqn / 4)

def maxsize : Nat :=
  if p.maxpacksize ≠ 0 then p.maxpacksize
  else wrap (wrap (p.freqmax + 0xffff) * p.stride) / 2 ^ (16 - p.datainterval)

def curpacksize : Nat := if p.fillMax then p.maxpacksize else p.maxsize

def packsPerMs : Nat := if p.fullSpeed then 1 else 8 / 2 ^ p.datainterval

def urbPacks : Nat :=
  let packs := if p.pipeout = true ∧ p.sink = false then min (max p.nrpacks 1).toNat MAX_PACKS else 1
  let packs := packs * p.packsPerMs
  match p.syncinterval with
  | some interval => if p.sink then packs else min packs (2 ^ interval)
  | none => packs

def halvePacks (maxsize periodBytes : Nat) : Nat → Nat → Nat
  | 0, packs => packs
  | fuel + 1, packs =>
    if 1 < packs ∧ periodBytes ≤ wrap (packs * maxsize) then halvePacks maxsize periodBytes fuel (packs / 2) else packs

/-- `urb_packs` and `total_packs`. -/
def packCounts : Nat × Nat :=
  if p.pipeout = true ∧ p.sink = false then
    let minsize := wrap (p.freqn / 2 ^ (16 - p.datainterval) * p.stride)
    let minsize := if p.syncinterval.isSome then minsize - minsize / 8 else minsize
    let minsize := max minsize 1
    let totalPacks := wrap (p.periodBytes + minsize - 1) / minsize
    let maxpacks := max (MAX_QUEUE * p.packsPerMs) (p.urbPacks * 2)
    (p.urbPacks, if totalPacks < 2 then 2 else min totalPacks maxpacks)
  else
    let packs := halvePacks p.maxsize p.periodBytes p.urbPacks p.urbPacks
    (packs, MAX_URBS * packs)

/-- `ep->nurbs` and the last value of `total_packs`. -/
def urbCounts : Nat × Nat :=
  let nurbs := (p.packCounts.2 + p.packCounts.1 - 1) / p.packCounts.1
  if MAX_URBS < nurbs then (MAX_URBS, MAX_URBS * p.packCounts.1)
  else if nurbs < 2 then (2, p.packCounts.2)
  else (nurbs, p.packCounts.2)

def bufferPackets (i : Nat) : Nat :=
  (i + 1) * p.urbCounts.2 / p.urbCounts.1 - i * p.urbCounts.2 / p.urbCounts.1

end EpParams

/-- An URB as `data_ep_set_params` allocates it. Its descriptors are as many as its packets. -/
structure SndUrbCtx where
  packets : Nat
  bufferSize : Nat

/-- A data endpoint after `snd_usb_pcm_prepare`. `periodSize` and `typeII` are those of the stream. -/
structure DataEp where
  stride : Nat
  datainterval : Nat
  fillMax : Bool
  sink : Bool
  typeII : Bool
  freqmax : Nat
  maxsize : Nat
  curpacksize : Nat
  maxframesize : Nat
  periodSize : Nat
  nurbs : Nat
  urb : Nat → SndUrbCtx

/-- `data_ep_set_params`, and the frame sizes of `snd_usb_pcm_prepare`. A division by zero is not survived. -/
def dataEpSetParams (p : EpParams) (periodSize : Nat) : Option DataEp :=
  if p.maxpacksize ≠ 0 ∧ p.stride = 0 then none
  else some
    { stride := p.stride
      datainterval := p.datainterval
      fillMax := p.fillMax
      sink := p.sink
      typeII := p.typeII
      freqmax := p.freqmax
      maxsize := p.maxsize
      curpacksize := p.curpacksize
      maxframesize := p.maxpacksize * 8 / p.runtimeFrameBits
      periodSize
      nurbs := p.urbCounts.1
      urb := fun i =>
        { packets := p.bufferPackets i + if p.typeII then 1 else 0
          bufferSize := wrap (p.maxsize * p.bufferPackets i) } }

structure Urb where
  isoFrameDesc : List (Nat × Nat)
  transferBufferLength : Nat
  deriving DecidableEq

def Urb.numberOfPackets (urb : Urb) : Nat := urb.isoFrameDesc.length

structure Pace where
  phase : Nat
  freqm : Nat
  transferDone : Nat
  deriving DecidableEq

namespace DataEp

variable (ep : DataEp)

def nextPacketSize (pace : Pace) : Nat × Pace :=
  if ep.fillMax then (ep.maxframesize, pace)
  else
    let pace := { pace with phase := wrap (pace.phase % 2 ^ 16 + wrap (pace.freqm * 2 ^ ep.datainterval)) }
    (min (pace.phase / 2 ^ 16) ep.maxframesize, pace)

def counts (size : Nat) (pace : Pace) : Nat × Pace := if size ≠ 0 then (size, pace) else ep.nextPacketSize pace

/-- The loop of `prepare_outbound_urb` without a data provider. -/
def silenceLoop : List Nat → Nat → Pace → Urb × Pace
  | [], offs, pace => (⟨[], wrap (offs * ep.stride)⟩, pace)
  | size :: sizes, offs, pace =>
    let (counts, pace) := ep.counts size pace
    let (urb, pace) := silenceLoop sizes (wrap (offs + counts)) pace
    ({ urb with isoFrameDesc := (wrap (offs * ep.stride), wrap (counts * ep.stride)) :: urb.isoFrameDesc }, pace)

/-- `prepare_outbound_urb` without a data provider. -/
def prepareSilence (sizes : List Nat) (pace : Pace) : Urb × Pace := ep.silenceLoop sizes 0 pace

/-- The loop of `prepare_playback_urb`. At the period boundary a type II format sends the rest of the frame
    later, and a transfer delimiter if a descriptor is left. -/
def playbackLoop : List Nat → Nat → Bool → Pace → Urb × Pace
  | [], frames, _, pace => (⟨[], wrap (frames * ep.stride)⟩, pace)
  | size :: sizes, frames, periodElapsed, pace =>
    let (counts, pace) := ep.counts size pace
    let offset := wrap (frames * ep.stride)
    let desc := (offset, wrap (counts * ep.stride))
    let frames := wrap (frames + counts)
    let pace := { pace with transferDone := wrap (pace.transferDone + counts) }
    if ep.periodSize ≤ pace.transferDone then
      let pace := { pace with transferDone := pace.transferDone - ep.periodSize }
      if ep.typeII then
        let left := pace.transferDone
        let frames := wrap (frames + 2 ^ 32 - left)
        let desc := (offset, wrap (wrap (counts + 2 ^ 32 - left) * ep.stride))
        let delimiter := if sizes ≠ [] then [(wrap (frames * ep.stride), 0)] else []
        (⟨desc :: delimiter, wrap (frames * ep.stride)⟩, { pace with transferDone := 0 })
      else if ep.sink = false then (⟨[desc], wrap (frames * ep.stride)⟩, pace)
      else
        let (urb, pace) := playbackLoop sizes frames true pace
        ({ urb with isoFrameDesc := desc :: urb.isoFrameDesc }, pace)
    else if periodElapsed = true ∧ ep.sink = false then (⟨[desc], wrap (frames * ep.stride)⟩, pace)
    else
      let (urb, pace) := playbackLoop sizes frames periodElapsed pace
      ({ urb with isoFrameDesc := desc :: urb.isoFrameDesc }, pace)

def preparePlaybackUrb (sizes : List Nat) (pace : Pace) : Urb × Pace := ep.playbackLoop sizes 0 false pace

/-- `prepare_outbound_urb`, `provided` tells that the data handler of the stream is set. -/
def prepareOutboundUrb (provided : Bool) (sizes : List Nat) (pace : Pace) : Urb × Pace :=
  if provided then ep.preparePlaybackUrb sizes pace else ep.prepareSilence sizes pace

end DataEp

end AlsaDriver.Usb
