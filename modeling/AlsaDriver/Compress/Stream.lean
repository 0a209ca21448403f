import Mathlib.Algebra.Group.Nat.Hom
import AlsaDriver.Lib.Ring
import AlsaDriver.Lib.Words
import AlsaDriver.Pcm.State

namespace AlsaDriver.Compress

open AlsaDriver.Pcm Ring Words

def EPERM : Int := 1
def EBADF : Int := 9
def EFAULT : Int := 14
def EINVAL : Int := 22
def ENOTSUPP : Int := 524

def SIZE_MAX : Nat := 2 ^ 64 - 1
def SND_AUDIOCODEC_MAX : BitVec 32 := 0xd
def SNDRV_PCM_RATE_8000_192000 : BitVec 32 := 0x1ffe

def POLLIN : Int := 0x1
def POLLOUT : Int := 0x4
def POLLERR : Int := 0x8
def POLLRDNORM : Int := 0x40
def POLLWRNORM : Int := 0x100

abbrev Byte := BitVec 8

structure SndCodec where
  id : BitVec 32
  chIn : BitVec 32
  chOut : BitVec 32
  sampleRate : BitVec 32

structure SndComprParams where
  fragmentSize : BitVec 32
  fragments : BitVec 32
  codec : SndCodec

/-- Memory from `kmalloc`. -/
structure KBuffer where
  address : Nat
  size : Nat
  bytes : Nat → Byte

structure SndComprRuntime where
  state : SndPcmState
  buffer : Option KBuffer
  bufferSize : Nat
  fragmentSize : BitVec 32
  fragments : BitVec 32
  totalBytesAvailable : Nat
  totalBytesTransferred : Nat

/-- `hasCopy` tells whether the driver has a copy callback, and `oops` whether the kernel divided by zero
    or copied outside of the buffer. -/
structure SndComprStream where
  direction : StreamDirection
  hasCopy : Bool
  runtime : SndComprRuntime
  metadataSet : Bool
  nextTrack : Bool
  oops : Bool

def sndCompressCheckInput (params : SndComprParams) : Int :=
  if params.fragmentSize = 0 ∨ SIZE_MAX / params.fragmentSize.toNat < params.fragments.toNat then -EINVAL
  else if params.codec.id = 0 ∨ SND_AUDIOCODEC_MAX < params.codec.id then -EINVAL
  else if params.codec.chIn = 0 ∨ params.codec.chOut = 0 then -EINVAL
  else if params.codec.sampleRate &&& SNDRV_PCM_RATE_8000_192000 = 0 then -EINVAL
  else 0

namespace SndComprStream

variable (s : SndComprStream)

def setState (state : SndPcmState) : SndComprStream := { s with runtime := { s.runtime with state := state } }

def withBuffer (params : SndComprParams) (buffer : Option KBuffer) : SndComprStream :=
  { s with runtime := { s.runtime with
      fragmentSize := params.fragmentSize
      fragments := params.fragments
      buffer := buffer
      bufferSize := (params.fragmentSize * params.fragments).toNat } }

/-- `snd_compr_allocate_buffer`; `memory` is the place and the content of what `kmalloc` finds, if it does. -/
def sndComprAllocateBuffer (params : SndComprParams) (memory : Option (Nat × (Nat → Byte))) : Int × SndComprStream :=
  if s.hasCopy then (0, s.withBuffer params none)
  else
    match memory with
    | none => (-ENOMEM, s)
    | some (address, bytes) =>
      (0, s.withBuffer params (some ⟨address, (params.fragmentSize * params.fragments).toNat, bytes⟩))

/-- `snd_compr_set_params` with the result of the driver's callback. -/
def sndComprSetParams (params : SndComprParams) (memory : Option (Nat × (Nat → Byte))) (driver : Int) :
    Int × SndComprStream :=
  if s.runtime.state = .open then
    if sndCompressCheckInput params ≠ 0 then (sndCompressCheckInput params, s)
    else
      let (retval, s) := s.sndComprAllocateBuffer params memory
      if retval ≠ 0 then (-ENOMEM, s)
      else if driver ≠ 0 then (driver, s)
      else
        (0, { (s.setState (if s.direction = .playback then .setup else .prepared)) with
          metadataSet := false
          nextTrack := false })
  else (-EPERM, s)

/-- `snd_compr_update_tstamp`; `tstamp` is the `copied_total` of the pointer callback, if the driver has one. -/
def sndComprUpdateTstamp (tstamp : Option (BitVec 32)) : Int × SndComprStream :=
  match tstamp with
  | none => (-ENOTSUPP, s)
  | some copiedTotal =>
    if s.direction = .playback then
      (0, { s with runtime := { s.runtime with totalBytesTransferred := copiedTotal.toNat } })
    else (0, { s with runtime := { s.runtime with totalBytesAvailable := copiedTotal.toNat } })

/-- What `snd_compr_calc_avail` returns once the time stamp is there, with the arithmetic of `u64`. -/
def availOf (r : SndComprRuntime) (direction : StreamDirection) : Nat :=
  if r.totalBytesAvailable = 0 ∧ r.state = .setup ∧ direction = .playback then r.bufferSize
  else if r.totalBytesAvailable = r.totalBytesTransferred then
    if direction = .playback then r.bufferSize else 0
  else
    let avail := toUnsigned 64 ((r.totalBytesAvailable : Int) - r.totalBytesTransferred)
    if direction = .playback then toUnsigned 64 ((r.bufferSize : Int) - avail) else avail

def sndComprCalcAvail (tstamp : Option (BitVec 32)) : Nat × SndComprStream :=
  let (_, s) := s.sndComprUpdateTstamp tstamp
  (availOf s.runtime s.direction, s)

/-- The copies of `snd_compr_write_data`: where each goes, and what. -/
def writeCopies (data : List Byte) : List (Nat × List Byte) :=
  let appPointer := s.runtime.totalBytesAvailable % s.runtime.bufferSize
  let copy := s.runtime.bufferSize - appPointer
  if data.length < copy then [(appPointer, data)] else [(appPointer, data.take copy), (0, data.drop copy)]

def copyAll (copies : List (Nat × List Byte)) : SndComprStream :=
  match s.runtime.buffer with
  | none => { s with oops := true }
  | some buffer =>
    let bytes := copies.foldl (fun bytes (copy : Nat × List Byte) => copyIn bytes copy.1 copy.2) buffer.bytes
    { s with
      runtime := { s.runtime with buffer := some { buffer with bytes := bytes } }
      oops := s.oops || copies.any fun copy => decide (buffer.size < copy.1 + copy.2.length) }

/-- `snd_compr_write_data`; a user copy that faults leaves any bytes in the buffer. -/
def sndComprWriteData (data : List Byte) (fault : Option (Nat → Byte)) : Int × SndComprStream :=
  if s.runtime.bufferSize = 0 then (-EFAULT, { s with oops := true })
  else
    let s := s.copyAll (s.writeCopies data)
    match fault with
    | none => (toSigned 32 data.length, s)
    | some bytes =>
      (-EFAULT, { s with runtime := { s.runtime with
        buffer := s.runtime.buffer.map fun buffer => { buffer with bytes := bytes } } })

/-- The end of `snd_compr_write`: the bytes are counted, and the first write prepares the stream. -/
def written (retval : Int) : SndComprStream :=
  let s := if 0 < retval then
      { s with runtime := { s.runtime with
          totalBytesAvailable := toUnsigned 64 (s.runtime.totalBytesAvailable + retval) } }
    else s
  if s.runtime.state = .setup then s.setState .prepared else s

/-- `snd_compr_write`; `reply` is what the driver's copy callback returns. A file for capture is not
    open for writing. -/
def sndComprWrite (data : List Byte) (tstamp : Option (BitVec 32)) (fault : Option (Nat → Byte)) (reply : Int) :
    Int × SndComprStream :=
  if s.direction = .capture then (-EBADF, s)
  else if s.runtime.state ≠ .setup ∧ s.runtime.state ≠ .running then (-EBADFD, s)
  else
    let (avail, s) := s.sndComprCalcAvail tstamp
    if s.hasCopy then (reply, s.written reply)
    else
      let (retval, s) := s.sndComprWriteData (data.take avail) fault
      (retval, s.written retval)

def getPoll : Int := if s.direction = .playback then POLLOUT + POLLWRNORM else POLLIN + POLLRDNORM

def sndComprPoll (tstamp : Option (BitVec 32)) : Int × SndComprStream :=
  match s.runtime.state with
  | .paused | .open => (-EBADFD, s)
  | .draining =>
    let (_, s) := s.sndComprCalcAvail tstamp
    (s.getPoll, s.setState .setup)
  | .running | .prepared =>
    let (avail, s) := s.sndComprCalcAvail tstamp
    (if s.runtime.fragmentSize.toNat ≤ avail then s.getPoll else 0, s)
  | _ =>
    let (_, s) := s.sndComprCalcAvail tstamp
    (s.getPoll + POLLERR, s)

/-- `snd_compr_pause`, `snd_compr_resume` and `snd_compr_start`: from one state to another, if the driver's
    trigger callback agrees. -/
def triggerFrom (before after : SndPcmState) (trigger : Int) : Int × SndComprStream :=
  if s.runtime.state ≠ before then (-EPERM, s)
  else if trigger ≠ 0 then (trigger, s)
  else (0, s.setState after)

def sndComprPause (trigger : Int) : Int × SndComprStream := s.triggerFrom .running .paused trigger

def sndComprResume (trigger : Int) : Int × SndComprStream := s.triggerFrom .paused .running trigger

def sndComprStart (trigger : Int) : Int × SndComprStream := s.triggerFrom .prepared .running trigger

def sndComprStop (trigger : Int) : Int × SndComprStream :=
  if s.runtime.state = .prepared ∨ s.runtime.state = .setup then (-EPERM, s)
  else if trigger ≠ 0 then (trigger, s)
  else
    (0, { s with runtime := { s.runtime with
      state := .setup
      totalBytesAvailable := 0
      totalBytesTransferred := 0 } })

def sndComprDrain (trigger : Int) : Int × SndComprStream :=
  if s.runtime.state = .prepared ∨ s.runtime.state = .setup then (-EPERM, s)
  else if trigger ≠ 0 then (trigger, s)
  else (0, s.setState .draining)

def sndComprNextTrack (trigger : Int) : Int × SndComprStream :=
  if s.runtime.state ≠ .running then (-EPERM, s)
  else if s.metadataSet = false then (-EPERM, s)
  else if trigger ≠ 0 then (trigger, s)
  else (0, { s with metadataSet := false, nextTrack := true })

def sndComprPartialDrain (trigger : Int) : Int × SndComprStream :=
  if s.runtime.state = .prepared ∨ s.runtime.state = .setup then (-EPERM, s)
  else if s.nextTrack = false then (-EPERM, s)
  else (trigger, { s with nextTrack := false })

/-- `snd_compr_set_metadata` with the result of the driver's callback. -/
def sndComprSetMetadata (driver : Int) : Int × SndComprStream := (driver, { s with metadataSet := true })

end SndComprStream

inductive ComprOp where
  | setParams (params : SndComprParams) (memory : Option (Nat × (Nat → Byte))) (driver : Int)
  | setMetadata (driver : Int)
  | start (trigger : Int)
  | stop (trigger : Int)
  | pause (trigger : Int)
  | resume (trigger : Int)
  | drain (trigger : Int)
  | partialDrain (trigger : Int)
  | nextTrack (trigger : Int)
  | tstamp (tstamp : Option (BitVec 32))
  | avail (tstamp : Option (BitVec 32))
  | poll (tstamp : Option (BitVec 32))
  | write (data : List Byte) (tstamp : Option (BitVec 32)) (fault : Option (Nat → Byte)) (reply : Int)

namespace SndComprStream

def request (s : SndComprStream) : ComprOp → Int × SndComprStream
  | .setParams params memory driver => s.sndComprSetParams params memory driver
  | .setMetadata driver => s.sndComprSetMetadata driver
  | .start trigger => s.sndComprStart trigger
  | .stop trigger => s.sndComprStop trigger
  | .pause trigger => s.sndComprPause trigger
  | .resume trigger => s.sndComprResume trigger
  | .drain trigger => s.sndComprDrain trigger
  | .partialDrain trigger => s.sndComprPartialDrain trigger
  | .nextTrack trigger => s.sndComprNextTrack trigger
  | .tstamp tstamp => s.sndComprUpdateTstamp tstamp
  | .avail tstamp => (0, (s.sndComprCalcAvail tstamp).2)
  | .poll tstamp => s.sndComprPoll tstamp
  | .write data tstamp fault reply => s.sndComprWrite data tstamp fault reply

end SndComprStream

end AlsaDriver.Compress
