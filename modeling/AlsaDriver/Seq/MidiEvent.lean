import AlsaDriver.Seq.Memory

namespace AlsaDriver.Seq

def ST_INVALID : Nat := 7
def ST_SPECIAL : Nat := 8
def ST_SYSEX : Nat := ST_SPECIAL

def MIDI_CMD_COMMON_SYSEX : Byte := 0xf0
def MIDI_CMD_COMMON_SYSEX_END : Byte := 0xf7
def MIDI_CMD_COMMON_CLOCK : Byte := 0xf8

structure SndMidiEvent where
  qlen : Int
  read : Nat
  type : Nat
  lastcmd : Byte
  nostat : Bool
  bufsize : Nat
  buf : List Byte
  deriving DecidableEq, Repr

def bufAt (buf : List Byte) (i : Nat) : Byte := buf.getD i 0

section Fields

variable (buf : List Byte) (ev : SndSeqEvent)

def setChannel : SndSeqEvent := { ev with data := { ev.data with channel := bufAt buf 0 &&& 0x0f } }

def setValue (value : Int) : SndSeqEvent := { ev with data := { ev.data with value := value } }

def noteEvent : SndSeqEvent :=
  let ev := setChannel buf ev
  { ev with data := { ev.data with note := bufAt buf 1, velocity := bufAt buf 2 } }

def oneParamCtrlEvent : SndSeqEvent := setValue (setChannel buf ev) (bufAt buf 1).toNat

def pitchbendCtrlEvent : SndSeqEvent :=
  setValue (setChannel buf ev) ((bufAt buf 2).toNat * 128 + (bufAt buf 1).toNat - 8192)

def twoParamCtrlEvent : SndSeqEvent :=
  let ev := setChannel buf ev
  { ev with data := { ev.data with param := (bufAt buf 1).toNat, value := (bufAt buf 2).toNat } }

def oneParamEvent : SndSeqEvent := setValue ev (bufAt buf 1).toNat

def songposEvent : SndSeqEvent := setValue ev ((bufAt buf 2).toNat * 128 + (bufAt buf 1).toNat)

end Fields

section Bytes

variable (ev : SndSeqEvent)

def low7 (x : Int) : Byte := BitVec.ofInt 8 x &&& 0x7f

def noteDecode : List Byte := [ev.data.note &&& 0x7f, ev.data.velocity &&& 0x7f]

def oneParamDecode : List Byte := [low7 ev.data.value]

def pitchbendDecode : List Byte := [low7 (ev.data.value + 8192), low7 ((ev.data.value + 8192) / 128)]

def twoParamDecode : List Byte := [low7 ev.data.param, low7 ev.data.value]

def songposDecode : List Byte := [low7 ev.data.value, low7 (ev.data.value / 128)]

end Bytes

structure StatusEventList where
  event : Nat
  qlen : Int
  encode : Option (List Byte → SndSeqEvent → SndSeqEvent)
  decode : Option (SndSeqEvent → List Byte)

def StatusEventList.encodeData (entry : StatusEventList) (buf : List Byte) (ev : SndSeqEvent) : SndSeqEvent :=
  match entry.encode with
  | some encode => encode buf ev
  | none => ev

def StatusEventList.decodeData (entry : StatusEventList) (ev : SndSeqEvent) : List Byte :=
  match entry.decode with
  | some decode => decode ev
  | none => []

def invalidEvent : StatusEventList := ⟨SNDRV_SEQ_EVENT_NONE, -1, none, none⟩

def statusEventTable : List StatusEventList :=
  [ -- 0x80 - 0xef
    ⟨SNDRV_SEQ_EVENT_NOTEOFF, 2, some noteEvent, some noteDecode⟩,
    ⟨SNDRV_SEQ_EVENT_NOTEON, 2, some noteEvent, some noteDecode⟩,
    ⟨SNDRV_SEQ_EVENT_KEYPRESS, 2, some noteEvent, some noteDecode⟩,
    ⟨SNDRV_SEQ_EVENT_CONTROLLER, 2, some twoParamCtrlEvent, some twoParamDecode⟩,
    ⟨SNDRV_SEQ_EVENT_PGMCHANGE, 1, some oneParamCtrlEvent, some oneParamDecode⟩,
    ⟨SNDRV_SEQ_EVENT_CHANPRESS, 1, some oneParamCtrlEvent, some oneParamDecode⟩,
    ⟨SNDRV_SEQ_EVENT_PITCHBEND, 2, some pitchbendCtrlEvent, some pitchbendDecode⟩,
    invalidEvent,
    -- 0xf0 - 0xff
    ⟨SNDRV_SEQ_EVENT_SYSEX, 1, none, none⟩,
    ⟨SNDRV_SEQ_EVENT_QFRAME, 1, some oneParamEvent, some oneParamDecode⟩,
    ⟨SNDRV_SEQ_EVENT_SONGPOS, 2, some songposEvent, some songposDecode⟩,
    ⟨SNDRV_SEQ_EVENT_SONGSEL, 1, some oneParamEvent, some oneParamDecode⟩,
    invalidEvent,
    invalidEvent,
    ⟨SNDRV_SEQ_EVENT_TUNE_REQUEST, 0, none, none⟩,
    invalidEvent,
    ⟨SNDRV_SEQ_EVENT_CLOCK, 0, none, none⟩,
    invalidEvent,
    ⟨SNDRV_SEQ_EVENT_START, 0, none, none⟩,
    ⟨SNDRV_SEQ_EVENT_CONTINUE, 0, none, none⟩,
    ⟨SNDRV_SEQ_EVENT_STOP, 0, none, none⟩,
    invalidEvent,
    ⟨SNDRV_SEQ_EVENT_SENSING, 0, none, none⟩,
    ⟨SNDRV_SEQ_EVENT_RESET, 0, none, none⟩ ]

def statusEvent (type : Nat) : StatusEventList := statusEventTable.getD type invalidEvent

namespace SndMidiEvent

variable (dev : SndMidiEvent)

def resetEncode : SndMidiEvent := { dev with read := 0, qlen := 0, type := ST_INVALID }

def resetDecode : SndMidiEvent := { dev with lastcmd := 0xff }

/-- `snd_midi_event_new`: the buffer has whatever `kmalloc` finds. -/
def new (bufsize : Nat) (nostat : Bool) (garbage : Nat → Byte) : SndMidiEvent where
  qlen := 0
  read := 0
  type := ST_INVALID
  lastcmd := 0xff
  nostat := nostat
  bufsize := bufsize
  buf := (List.range bufsize).map garbage

/-- `dev->buf[i] = c`; `none` when that is outside of the buffer. -/
def setBuf (i : Nat) (c : Byte) : Option SndMidiEvent :=
  if i < dev.bufsize then some { dev with buf := dev.buf.set i c } else none

def storeByte (c : Byte) : Option SndMidiEvent :=
  if c &&& 0x80 ≠ 0 ∧ (c ≠ MIDI_CMD_COMMON_SYSEX_END ∨ dev.type ≠ ST_SYSEX) then
    (dev.setBuf 0 c).map fun dev =>
      let type := if c &&& 0xf0 = 0xf0 then (c &&& 0x0f).toNat + ST_SPECIAL else ((c >>> 4) &&& 0x07).toNat
      { dev with type := type, read := 1, qlen := (statusEvent type).qlen }
  else if 0 < dev.qlen then
    (dev.setBuf dev.read c).map fun dev =>
      { dev with read := dev.read + 1, qlen := if dev.type ≠ ST_SYSEX then dev.qlen - 1 else dev.qlen }
  else
    (dev.setBuf 1 c).map fun dev => { dev with qlen := (statusEvent dev.type).qlen - 1, read := 2 }

def finishByte (c : Byte) (ev : SndSeqEvent) : Bool × SndMidiEvent × SndSeqEvent :=
  if dev.qlen = 0 then
    let ev := { ev with type := (statusEvent dev.type).event }.setLength SNDRV_SEQ_EVENT_LENGTH_FIXED
    (true, if ST_SPECIAL ≤ dev.type then { dev with type := ST_INVALID } else dev,
      (statusEvent dev.type).encodeData dev.buf ev)
  else if dev.type = ST_SYSEX then
    if c = MIDI_CMD_COMMON_SYSEX_END ∨ dev.bufsize ≤ dev.read then
      let ev := ev.setLength SNDRV_SEQ_EVENT_LENGTH_VARIABLE
      let ext := .kernel dev.read (dev.buf.take dev.read)
      let ev := { ev with type := SNDRV_SEQ_EVENT_SYSEX, data := { ev.data with ext := ext } }
      (true, if c ≠ MIDI_CMD_COMMON_SYSEX_END then { dev with read := 0 } else dev.resetEncode, ev)
    else (false, dev, ev)
  else (false, dev, ev)

/-- `snd_midi_event_encode_byte`; the flag is its result, which is never negative. -/
def encodeByte (c : Byte) (ev : SndSeqEvent) : Option (Bool × SndMidiEvent × SndSeqEvent) :=
  if MIDI_CMD_COMMON_CLOCK ≤ c then
    let ev := { ev with type := (statusEvent (ST_SPECIAL + (c - 0xf0).toNat)).event }.setLength
      SNDRV_SEQ_EVENT_LENGTH_FIXED
    some (ev.type != SNDRV_SEQ_EVENT_NONE, dev, ev)
  else (dev.storeByte c).map fun dev => dev.finishByte c ev

/-- The loop of `snd_midi_event_encode`, with the bytes that are left over. -/
def encodeLoop (dev : SndMidiEvent) : List Byte → SndSeqEvent → Option (List Byte × SndMidiEvent × SndSeqEvent)
  | [], ev => some ([], dev, ev)
  | c :: rest, ev =>
    match dev.encodeByte c ev with
    | none => none
    | some (true, dev, ev) => some (rest, dev, ev)
    | some (false, dev, ev) => encodeLoop dev rest ev

/-- `snd_midi_event_encode`; the result is the number of bytes taken. -/
def encode (bytes : List Byte) (ev : SndSeqEvent) : Option (Nat × SndMidiEvent × SndSeqEvent) :=
  (dev.encodeLoop bytes { ev with type := SNDRV_SEQ_EVENT_NONE }).map fun (rest, dev, ev) =>
    (bytes.length - rest.length, dev, ev)

def findType (event : Nat) : Option Nat := (List.range 24).find? fun type => event = (statusEvent type).event

/-- `snd_midi_event_decode` into a buffer that is large enough, without the extra events. -/
def decode (m : SeqMemory) (ev : SndSeqEvent) : Option (List Byte × SndMidiEvent) :=
  if ev.type = SNDRV_SEQ_EVENT_NONE then none
  else
    match findType ev.type with
    | none => none
    | some type =>
      let cmd : Byte :=
        if ST_SPECIAL ≤ type then 0xf0 + BitVec.ofNat 8 (type - ST_SPECIAL)
        else 0x80 ||| (BitVec.ofNat 8 type <<< 4) ||| (ev.data.channel &&& 0x0f)
      if cmd = MIDI_CMD_COMMON_SYSEX then
        if ev.isVariable then some (m.expandVarEvent ev.data.ext, dev.resetDecode) else none
      else
        let data := (statusEvent type).decodeData ev
        if cmd &&& 0xf0 = 0xf0 ∨ dev.lastcmd ≠ cmd ∨ dev.nostat then
          some (cmd :: data, { dev with lastcmd := cmd })
        else some (data, dev)

end SndMidiEvent

end AlsaDriver.Seq
