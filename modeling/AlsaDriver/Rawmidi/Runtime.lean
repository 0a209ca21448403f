import AlsaDriver.Lib.Ring
import AlsaDriver.Lib.Words

namespace AlsaDriver.Rawmidi

open Ring Words

def EAGAIN : Int := 11
def EFAULT : Int := 14
def EBADFD : Int := 77

abbrev Byte := BitVec 8

/-- The bounds of `snd_rawmidi_input_params` and `snd_rawmidi_output_params`. -/
def BufferSize (size : Nat) : Prop := 32 ≤ size ∧ size ≤ 1024 * 1024

structure SndRawmidiRuntime where
  buffer : Nat → Byte
  bufferSize : Nat
  avail : Nat
  applPtr : Nat
  hwPtr : Nat
  xruns : Nat
  sized : BufferSize bufferSize

structure SndRawmidiSubstream where
  opened : Bool
  append : Bool
  bytes : Nat
  runtime : SndRawmidiRuntime

namespace SndRawmidiRuntime

variable (r : SndRawmidiRuntime)

/-- The faster code of `snd_rawmidi_receive`. -/
def receiveByte (b : Byte) : Nat × SndRawmidiRuntime :=
  if r.avail < r.bufferSize then
    (1, { r with
      buffer := copyIn r.buffer r.hwPtr [b]
      hwPtr := (r.hwPtr + 1) % r.bufferSize
      avail := r.avail + 1 })
  else (0, { r with xruns := r.xruns + 1 })

/-- The first copy of `snd_rawmidi_receive`, up to the end of the buffer. -/
def receiveFirst (data : List Byte) : Nat × SndRawmidiRuntime :=
  let count1 := min (min (r.bufferSize - r.hwPtr) data.length) (r.bufferSize - r.avail)
  (count1, { r with
    buffer := copyIn r.buffer r.hwPtr (data.take count1)
    hwPtr := (r.hwPtr + count1) % r.bufferSize
    avail := r.avail + count1 })

/-- The second copy of `snd_rawmidi_receive`, from the start of the buffer. -/
def receiveRest (data : List Byte) : Nat × SndRawmidiRuntime :=
  let free := r.bufferSize - r.avail
  let count1 := min data.length free
  let r := if free < data.length then { r with xruns := r.xruns + (data.length - count1) } else r
  if 0 < count1 then
    (count1, { r with buffer := copyIn r.buffer 0 (data.take count1), hwPtr := count1, avail := r.avail + count1 })
  else (0, r)

/-- The general code of `snd_rawmidi_receive`. -/
def receiveBytes (data : List Byte) : Nat × SndRawmidiRuntime :=
  let (count1, r) := r.receiveFirst data
  if 0 < data.length - count1 then
    let (count2, r) := r.receiveRest (data.drop count1)
    (count1 + count2, r)
  else (count1, r)

/-- The locked section of `snd_rawmidi_receive`. -/
def receive (data : List Byte) : Nat × SndRawmidiRuntime :=
  match data with
  | [b] => r.receiveByte b
  | data => r.receiveBytes data

/-- The end of a turn of the loop in `snd_rawmidi_kernel_read1`. -/
def readAdvance (count1 : Nat) : SndRawmidiRuntime :=
  { r with applPtr := (r.applPtr + count1) % r.bufferSize, avail := r.avail - count1 }

/-- The faster code of `snd_rawmidi_transmit_peek`. -/
def peekByte : List Byte := copyOut r.buffer r.hwPtr 1

/-- The general code of `snd_rawmidi_transmit_peek`. -/
def peekBytes (count : Nat) : List Byte :=
  let count1 := min (min (r.bufferSize - r.hwPtr) count) (r.bufferSize - r.avail)
  let rest := count - count1
  copyOut r.buffer r.hwPtr count1 ++
    if 0 < rest then copyOut r.buffer 0 (min rest (r.bufferSize - r.avail - count1)) else []

def transmitPeek (count : Nat) : List Byte :=
  if r.bufferSize ≤ r.avail then []
  else if count = 1 then r.peekByte
  else r.peekBytes count

/-- The pointers after an acknowledgement, with the arithmetic of `size_t`. -/
def ack (count : Nat) : SndRawmidiRuntime :=
  { r with hwPtr := (r.hwPtr + count) % r.bufferSize, avail := toUnsigned 64 (r.avail + count) }

/-- The next chunk of `snd_rawmidi_kernel_write1`, if its loop goes on; a `long` in the source. -/
def nextChunk (count : Nat) : Option Int :=
  if 0 < count ∧ 0 < r.avail then
    some (min (min ((r.bufferSize : Int) - r.applPtr) count) (toSigned 64 r.avail))
  else none

def place (data : List Byte) : SndRawmidiRuntime := { r with buffer := copyIn r.buffer r.applPtr data }

/-- The end of a turn of the loop in `snd_rawmidi_kernel_write1`, with the arithmetic of `size_t`. -/
def writeAdvance (count1 : Int) : SndRawmidiRuntime :=
  { r with
    applPtr := toUnsigned 64 (r.applPtr + count1) % r.bufferSize
    avail := toUnsigned 64 (r.avail - count1) }

/-- The loop of `snd_rawmidi_kernel_write1` over a kernel buffer; every turn takes a byte at least. -/
def writeKernel : Nat → SndRawmidiRuntime → List Byte → Nat → Nat × SndRawmidiRuntime
  | 0, r, _, result => (result, r)
  | fuel + 1, r, data, result =>
    match r.nextChunk (data.length - result) with
    | none => (result, r)
    | some count1 =>
      writeKernel fuel ((r.place ((data.drop result).take count1.toNat)).writeAdvance count1) data
        (result + count1.toNat)

end SndRawmidiRuntime

namespace SndRawmidiSubstream

variable (sub : SndRawmidiSubstream)

def sndRawmidiReceive (data : List Byte) : Int × SndRawmidiSubstream :=
  if sub.opened then
    let (result, r) := sub.runtime.receive data
    (result, { sub with bytes := sub.bytes + data.length, runtime := r })
  else (-EBADFD, sub)

def sndRawmidiTransmitAck (count : Nat) : SndRawmidiSubstream :=
  { sub with bytes := sub.bytes + count, runtime := sub.runtime.ack count }

end SndRawmidiSubstream

/-- A call of `snd_rawmidi_kernel_read1`, with the bytes that it has read. -/
structure Reading where
  kernel : Bool
  count : Nat
  out : List Byte

/-- Where the reader is in `snd_rawmidi_kernel_read1`. -/
inductive Reader where
  | outside
  | loop (rd : Reading)
  | chunk (rd : Reading) (count1 : Nat)
  | copying (rd : Reading) (count1 : Nat)
  | copied (rd : Reading) (bytes : List Byte)

def Reader.out : Reader → List Byte
  | .outside => []
  | .loop rd | .chunk rd _ | .copying rd _ | .copied rd _ => rd.out

/-- An input substream with its reader, the bytes that `snd_rawmidi_receive` reported as accepted and
    those that the reader got from finished calls. -/
structure Input where
  sub : SndRawmidiSubstream
  reader : Reader
  accepted : List Byte
  returned : List Byte

inductive InputOp where
  | receive (data : List Byte)
  | read (kernel : Bool) (count : Nat)
  | test
  | enter
  | copy (fault : Bool)
  | advance

namespace Input

variable (s : Input)

def runtime : SndRawmidiRuntime := s.sub.runtime

def receive (data : List Byte) : Input :=
  let (result, sub) := s.sub.sndRawmidiReceive data
  { s with sub := sub, accepted := s.accepted ++ data.take result.toNat }

def finish (rd : Reading) : Input := { s with reader := .outside, returned := s.returned ++ rd.out }

def test (rd : Reading) : Input :=
  if 0 < rd.count ∧ s.runtime.avail ≠ 0 then
    { s with reader := .chunk rd (min (s.runtime.bufferSize - s.runtime.applPtr) rd.count) }
  else s.finish rd

def advance (rd : Reading) (bytes : List Byte) : Input :=
  { s with
    sub := { s.sub with runtime := s.sub.runtime.readAdvance bytes.length }
    reader := .loop { rd with count := rd.count - bytes.length, out := rd.out ++ bytes } }

def chunkBytes (count1 : Nat) : List Byte := copyOut s.runtime.buffer s.runtime.applPtr count1

def enter (rd : Reading) (count1 : Nat) : Input :=
  let count1 := min count1 s.runtime.avail
  if rd.kernel then s.advance rd (s.chunkBytes count1)
  else { s with reader := .copying rd count1 }

def copy (rd : Reading) (count1 : Nat) (fault : Bool) : Input :=
  if fault then s.finish rd else { s with reader := .copied rd (s.chunkBytes count1) }

def exec (s : Input) : InputOp → Input
  | .receive data => s.receive data
  | .read kernel count =>
    match s.reader with
    | .outside => { s with reader := .loop ⟨kernel, count, []⟩ }
    | _ => s
  | .test =>
    match s.reader with
    | .loop rd => s.test rd
    | _ => s
  | .enter =>
    match s.reader with
    | .chunk rd count1 => s.enter rd count1
    | _ => s
  | .copy fault =>
    match s.reader with
    | .copying rd count1 => s.copy rd count1 fault
    | _ => s
  | .advance =>
    match s.reader with
    | .copied rd bytes => s.advance rd bytes
    | _ => s

end Input

/-- A call of `snd_rawmidi_kernel_write1` with the number of bytes that it has written. -/
structure Writing where
  data : List Byte
  result : Nat

def Writing.count (wr : Writing) : Nat := wr.data.length - wr.result

def Writing.chunk (wr : Writing) (count1 : Int) : List Byte := (wr.data.drop wr.result).take count1.toNat

/-- Where a writer from user space is in `snd_rawmidi_kernel_write1`: the lock is dropped. -/
inductive Writer where
  | outside
  | copying (wr : Writing) (count1 : Int)
  | copied (wr : Writing) (count1 : Int)

def Writer.written : Writer → List Byte
  | .outside => []
  | .copying wr _ | .copied wr _ => wr.data.take wr.result

/-- An output substream with its writers, the calls that are over with their results, the bytes that
    the driver holds after a peek and those that it has acknowledged. -/
structure Output where
  sub : SndRawmidiSubstream
  writers : Nat → Writer
  calls : List (List Byte × Int)
  held : List Byte
  sent : List Byte

inductive OutputOp where
  | write (w : Nat) (kernel : Bool) (data : List Byte)
  | copy (w : Nat) (fault : Option (List Byte))
  | advance (w : Nat)
  | peek (count : Nat)
  | ack (count : Nat)

namespace Output

variable (s : Output)

def runtime : SndRawmidiRuntime := s.sub.runtime

def setRuntime (r : SndRawmidiRuntime) : Output := { s with sub := { s.sub with runtime := r } }

def setWriter (w : Nat) (writer : Writer) : Output :=
  { s with writers := fun v => if v = w then writer else s.writers v }

def finish (w : Nat) (data : List Byte) (result : Int) : Output :=
  { s.setWriter w .outside with calls := s.calls ++ [(data, result)] }

def loop (w : Nat) (wr : Writing) : Output :=
  match s.runtime.nextChunk wr.count with
  | none => s.finish w wr.data wr.result
  | some count1 => s.setWriter w (.copying wr count1)

def Refused (data : List Byte) : Prop := s.sub.append = true ∧ toSigned 64 s.runtime.avail < data.length

instance (data : List Byte) : Decidable (s.Refused data) := inferInstanceAs (Decidable (_ ∧ _))

/-- `snd_rawmidi_kernel_write1` up to the first place where it drops the lock. -/
def write (w : Nat) (kernel : Bool) (data : List Byte) : Output :=
  if s.Refused data then s.finish w data (-EAGAIN)
  else if kernel then
    let (result, r) := SndRawmidiRuntime.writeKernel data.length s.runtime data 0
    (s.setRuntime r).finish w data result
  else s.loop w ⟨data, 0⟩

def copy (w : Nat) (wr : Writing) (count1 : Int) : Option (List Byte) → Output
  | none => (s.setRuntime (s.runtime.place (wr.chunk count1))).setWriter w (.copied wr count1)
  | some junk =>
    (s.setRuntime (s.runtime.place (junk.take count1.toNat))).finish w wr.data
      (if 0 < wr.result then wr.result else -EFAULT)

def advance (w : Nat) (wr : Writing) (count1 : Int) : Output :=
  (s.setRuntime (s.runtime.writeAdvance count1)).loop w { wr with result := wr.result + count1.toNat }

def peek (count : Nat) : Output :=
  let bytes := s.runtime.transmitPeek count
  if s.held.length < bytes.length then { s with held := bytes } else s

def ack (count : Nat) : Output :=
  { s with
    sub := s.sub.sndRawmidiTransmitAck count
    held := s.held.drop count
    sent := s.sent ++ s.held.take count }

def exec (s : Output) : OutputOp → Output
  | .write w kernel data =>
    match s.writers w with
    | .outside => s.write w kernel data
    | _ => s
  | .copy w fault =>
    match s.writers w with
    | .copying wr count1 => s.copy w wr count1 fault
    | _ => s
  | .advance w =>
    match s.writers w with
    | .copied wr count1 => s.advance w wr count1
    | _ => s
  | .peek count => s.peek count
  | .ack count => s.ack count

end Output

end AlsaDriver.Rawmidi
