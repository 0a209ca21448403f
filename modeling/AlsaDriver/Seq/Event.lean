import Mathlib.Init

namespace AlsaDriver.Seq

abbrev Byte := BitVec 8

/-- A cell of the memory that `snd_seq_pool_init` allocates for a pool. -/
structure SeqCell where
  pool : Nat
  index : Nat
  deriving DecidableEq, Repr

structure SndSeqAddr where
  client : Nat
  port : Nat
  deriving DecidableEq, Repr

structure SndSeqRealTime where
  tvSec : Nat
  tvNsec : Nat
  deriving DecidableEq, Repr

/-- `union snd_seq_timestamp`: the tick is the first word of the real time. -/
abbrev SndSeqTimestamp := SndSeqRealTime

def SndSeqRealTime.tick (time : SndSeqTimestamp) : Nat := time.tvSec

/-- External data in the three formats: a kernel buffer, a user buffer, or cells chained behind the
    event. The length has no flag bits. -/
inductive SndSeqExt where
  | kernel (len : Nat) (buf : List Byte)
  | user (len : Nat) (buf : List Byte)
  | chained (len : Nat) (ptr : Option SeqCell)
  deriving DecidableEq, Repr

def SndSeqExt.len : SndSeqExt → Nat
  | kernel len _ | user len _ | chained len _ => len

structure SndSeqEventData where
  channel : Byte
  note : Byte
  velocity : Byte
  offVelocity : Byte
  duration : Nat
  param : Nat
  value : Int
  ext : SndSeqExt
  deriving DecidableEq, Repr

structure SndSeqEvent where
  type : Nat
  flags : Byte
  tag : Byte
  queue : Nat
  time : SndSeqTimestamp
  source : SndSeqAddr
  dest : SndSeqAddr
  data : SndSeqEventData
  deriving DecidableEq, Repr

def SNDRV_SEQ_EVENT_NOTE : Nat := 5
def SNDRV_SEQ_EVENT_NOTEON : Nat := 6
def SNDRV_SEQ_EVENT_NOTEOFF : Nat := 7
def SNDRV_SEQ_EVENT_KEYPRESS : Nat := 8
def SNDRV_SEQ_EVENT_CONTROLLER : Nat := 10
def SNDRV_SEQ_EVENT_PGMCHANGE : Nat := 11
def SNDRV_SEQ_EVENT_CHANPRESS : Nat := 12
def SNDRV_SEQ_EVENT_PITCHBEND : Nat := 13
def SNDRV_SEQ_EVENT_CONTROL14 : Nat := 14
def SNDRV_SEQ_EVENT_NONREGPARAM : Nat := 15
def SNDRV_SEQ_EVENT_REGPARAM : Nat := 16
def SNDRV_SEQ_EVENT_SONGPOS : Nat := 20
def SNDRV_SEQ_EVENT_SONGSEL : Nat := 21
def SNDRV_SEQ_EVENT_QFRAME : Nat := 22
def SNDRV_SEQ_EVENT_START : Nat := 30
def SNDRV_SEQ_EVENT_CONTINUE : Nat := 31
def SNDRV_SEQ_EVENT_STOP : Nat := 32
def SNDRV_SEQ_EVENT_CLOCK : Nat := 36
def SNDRV_SEQ_EVENT_TUNE_REQUEST : Nat := 40
def SNDRV_SEQ_EVENT_RESET : Nat := 41
def SNDRV_SEQ_EVENT_SENSING : Nat := 42
def SNDRV_SEQ_EVENT_SYSEX : Nat := 130
def SNDRV_SEQ_EVENT_KERNEL_ERROR : Nat := 150
def SNDRV_SEQ_EVENT_NONE : Nat := 255

def SNDRV_SEQ_ADDRESS_SUBSCRIBERS : Nat := 254
def SNDRV_SEQ_QUEUE_DIRECT : Nat := 253

def SNDRV_SEQ_TIME_STAMP_REAL : Byte := 0x01
def SNDRV_SEQ_TIME_STAMP_MASK : Byte := 0x01
def SNDRV_SEQ_TIME_MODE_REL : Byte := 0x02
def SNDRV_SEQ_TIME_MODE_MASK : Byte := 0x02
def SNDRV_SEQ_EVENT_LENGTH_FIXED : Byte := 0x00
def SNDRV_SEQ_EVENT_LENGTH_VARIABLE : Byte := 0x04
def SNDRV_SEQ_EVENT_LENGTH_MASK : Byte := 0x0c
def SNDRV_SEQ_PRIORITY_HIGH : Byte := 0x10
def SNDRV_SEQ_PRIORITY_MASK : Byte := 0x10

namespace SndSeqEvent

variable (ev : SndSeqEvent)

def isVariable : Bool := ev.flags &&& SNDRV_SEQ_EVENT_LENGTH_MASK == SNDRV_SEQ_EVENT_LENGTH_VARIABLE

def isTick : Bool := ev.flags &&& SNDRV_SEQ_TIME_STAMP_MASK == 0

def isPrior : Bool := ev.flags &&& SNDRV_SEQ_PRIORITY_MASK != 0

def isDirect : Bool := ev.queue == SNDRV_SEQ_QUEUE_DIRECT

def isChannelType : Bool := decide (5 ≤ ev.type) && decide (ev.type < 20)

/-- `ev->flags &= ~LENGTH_MASK; ev->flags |= length`. -/
def setLength (length : Byte) : SndSeqEvent :=
  { ev with flags := (ev.flags &&& ~~~SNDRV_SEQ_EVENT_LENGTH_MASK) ||| length }

end SndSeqEvent

def sndSeqCompareTickTime (a b : Nat) : Bool := decide (b ≤ a)

def sndSeqCompareRealTime (a b : SndSeqRealTime) : Bool :=
  if b.tvSec < a.tvSec then true
  else decide (a.tvSec = b.tvSec) && decide (b.tvNsec ≤ a.tvNsec)

/-- An event record as `kzalloc` makes it. -/
def blankEvent : SndSeqEvent where
  type := 0
  flags := 0
  tag := 0
  queue := 0
  time := ⟨0, 0⟩
  source := ⟨0, 0⟩
  dest := ⟨0, 0⟩
  data := ⟨0, 0, 0, 0, 0, 0, 0, .kernel 0 []⟩

end AlsaDriver.Seq
