import Mathlib.Logic.Function.Basic
import AlsaDriver.Seq.Event

namespace AlsaDriver.Seq

open Function

def MIDI_CTL_MSB_BANK : Nat := 0x00
def MIDI_CTL_MSB_DATA_ENTRY : Nat := 0x06
def MIDI_CTL_MSB_MAIN_VOLUME : Nat := 0x07
def MIDI_CTL_MSB_PAN : Nat := 0x0a
def MIDI_CTL_MSB_EXPRESSION : Nat := 0x0b
def MIDI_CTL_LSB_BANK : Nat := 0x20
def MIDI_CTL_LSB_DATA_ENTRY : Nat := 0x26
def MIDI_CTL_SUSTAIN : Nat := 0x40
def MIDI_CTL_PORTAMENTO : Nat := 0x41
def MIDI_CTL_SOSTENUTO : Nat := 0x42
def MIDI_CTL_NONREG_PARM_NUM_LSB : Nat := 0x62
def MIDI_CTL_NONREG_PARM_NUM_MSB : Nat := 0x63
def MIDI_CTL_REGIST_PARM_NUM_LSB : Nat := 0x64
def MIDI_CTL_REGIST_PARM_NUM_MSB : Nat := 0x65
def MIDI_CTL_ALL_SOUNDS_OFF : Nat := 0x78
def MIDI_CTL_RESET_CONTROLLERS : Nat := 0x79
def MIDI_CTL_ALL_NOTES_OFF : Nat := 0x7b
def MIDI_CTL_PITCHBEND : Nat := 0x80
def MIDI_CTL_CHAN_PRESSURE : Nat := 0x82

def SNDRV_MIDI_MODE_NONE : Nat := 0
def SNDRV_MIDI_MODE_GM : Nat := 1
def SNDRV_MIDI_MODE_GS : Nat := 2
def SNDRV_MIDI_MODE_XG : Nat := 3

def SNDRV_MIDI_NOTE_OFF : Byte := 0x00
def SNDRV_MIDI_NOTE_ON : Byte := 0x01
def SNDRV_MIDI_NOTE_RELEASED : Byte := 0x02
def SNDRV_MIDI_NOTE_SOSTENUTO : Byte := 0x04

def SNDRV_MIDI_SYSEX_NOT_PARSED : Nat := 0
def SNDRV_MIDI_SYSEX_GM_ON : Nat := 1
def SNDRV_MIDI_SYSEX_GS_RESET : Nat := 3
def SNDRV_MIDI_SYSEX_GS_CHORUS_MODE : Nat := 4
def SNDRV_MIDI_SYSEX_GS_REVERB_MODE : Nat := 5
def SNDRV_MIDI_SYSEX_GS_MASTER_VOLUME : Nat := 6
def SNDRV_MIDI_SYSEX_GS_DRUM_CHANNEL : Nat := 8
def SNDRV_MIDI_SYSEX_XG_ON : Nat := 9

structure SndMidiOp where
  noteOn : Bool
  noteOff : Bool
  keyPress : Bool
  noteTerminate : Bool
  control : Bool
  nrpn : Bool
  sysex : Bool

inductive MidiCallback where
  | noteOn (ch note : Nat) (vel : Byte)
  | noteOff (ch note : Nat) (vel : Byte)
  | keyPress (ch note : Nat) (vel : Byte)
  | noteTerminate (ch note : Nat)
  | control (ch type : Nat)
  | nrpn (ch : Nat)
  | sysex (buf : List Byte) (parsed : Nat)

structure SndMidiChannel where
  midiPressure : Byte
  midiProgram : Byte
  midiPitchbend : BitVec 16
  drumChannel : Bool
  registered : Bool
  control : Nat → Byte
  note : Nat → Byte
  gmRpnPitchBendRange : Int
  gmRpnFineTuning : Int
  gmRpnCoarseTuning : Int

/-- `log` has the callbacks made so far, and `overrun` tells that a write went outside of `control`. -/
structure SndMidiChannelSet where
  maxChannels : Nat
  channels : Nat → SndMidiChannel
  midiMode : Nat
  gsMasterVolume : Byte
  gsChorusMode : Byte
  gsReverbMode : Byte
  log : List MidiCallback
  overrun : Bool

namespace SndMidiChannel

def resetControllers (chan : SndMidiChannel) : SndMidiChannel :=
  { chan with
    control := update (update (update (fun _ => 0) MIDI_CTL_MSB_MAIN_VOLUME 127) MIDI_CTL_MSB_EXPRESSION 127) MIDI_CTL_MSB_PAN 64 }

/-- The body of the loop of `reset_all_channels`. -/
def reset (chan : SndMidiChannel) (ch : Nat) : SndMidiChannel :=
  { chan.resetControllers with
    gmRpnPitchBendRange := 256
    gmRpnFineTuning := 0
    gmRpnCoarseTuning := 0
    drumChannel := ch == 9 }

/-- `snd_midi_channel_init` -/
def init (ch : Nat) : SndMidiChannel :=
  reset ⟨0, 0, 0, false, true, fun _ => 0, fun _ => 0, 0, 0, 0⟩ ch

end SndMidiChannel

namespace SndMidiChannelSet

variable (op : SndMidiOp) (s : SndMidiChannelSet) (ch : Nat)

/-- `snd_midi_channel_alloc_set`, with what its memory held for the mode and the settings of GS. -/
def alloc (n midiMode : Nat) (gsMasterVolume gsChorusMode gsReverbMode : Byte) : SndMidiChannelSet :=
  ⟨n, SndMidiChannel.init, midiMode, gsMasterVolume, gsChorusMode, gsReverbMode, [], false⟩

def call (has : Bool) (callback : MidiCallback) : SndMidiChannelSet :=
  if has then { s with log := s.log ++ [callback] } else s

def modify (f : SndMidiChannel → SndMidiChannel) : SndMidiChannelSet :=
  { s with channels := update s.channels ch (f (s.channels ch)) }

def setNote (note : Nat) (flags : Byte) : SndMidiChannelSet :=
  s.modify ch fun chan => { chan with note := update chan.note note flags }

def setControl (control : Nat) (value : Byte) : SndMidiChannelSet :=
  s.modify ch fun chan => { chan with control := update chan.control control value }

def forNotes (step : SndMidiChannelSet → Nat → SndMidiChannelSet) : SndMidiChannelSet := (List.range 128).foldl step s

def noteOff (note : Nat) (vel : Byte) : SndMidiChannelSet :=
  let flags := (s.channels ch).note note
  if (s.channels ch).control MIDI_CTL_SUSTAIN ≠ 0 then s.setNote ch note (flags ||| SNDRV_MIDI_NOTE_RELEASED)
  else if flags &&& SNDRV_MIDI_NOTE_SOSTENUTO ≠ 0 then s.setNote ch note (flags ||| SNDRV_MIDI_NOTE_RELEASED)
  else (s.setNote ch note 0).call op.noteOff (.noteOff ch note vel)

def rpn : SndMidiChannelSet :=
  if s.midiMode ≠ SNDRV_MIDI_MODE_NONE then
    let control := fun i => ((s.channels ch).control i).toNat
    let type := control MIDI_CTL_REGIST_PARM_NUM_MSB * 256 + control MIDI_CTL_REGIST_PARM_NUM_LSB
    let val : Int := control MIDI_CTL_MSB_DATA_ENTRY * 128 ||| control MIDI_CTL_LSB_DATA_ENTRY
    if type = 0x0000 then s.modify ch fun chan => { chan with gmRpnPitchBendRange := val }
    else if type = 0x0001 then s.modify ch fun chan => { chan with gmRpnFineTuning := val - 8192 }
    else if type = 0x0002 then s.modify ch fun chan => { chan with gmRpnCoarseTuning := val - 8192 }
    else s
  else s

def nrpn : SndMidiChannelSet := s.call op.nrpn (.nrpn ch)

def sustainOff (note : Nat) : SndMidiChannelSet :=
  if (s.channels ch).note note &&& SNDRV_MIDI_NOTE_RELEASED ≠ 0 then
    (s.setNote ch note SNDRV_MIDI_NOTE_OFF).call op.noteOff (.noteOff ch note 0)
  else s

def sostenutoOn (note : Nat) : SndMidiChannelSet :=
  let flags := (s.channels ch).note note
  if flags &&& SNDRV_MIDI_NOTE_ON ≠ 0 then s.setNote ch note (flags ||| SNDRV_MIDI_NOTE_SOSTENUTO) else s

def sostenutoOff (note : Nat) : SndMidiChannelSet :=
  let flags := (s.channels ch).note note
  if flags &&& SNDRV_MIDI_NOTE_SOSTENUTO ≠ 0 then
    let flags := flags &&& ~~~SNDRV_MIDI_NOTE_SOSTENUTO
    if flags &&& SNDRV_MIDI_NOTE_RELEASED ≠ 0 then
      (s.setNote ch note SNDRV_MIDI_NOTE_OFF).call op.noteOff (.noteOff ch note 0)
    else s.setNote ch note flags
  else s

def terminate (note : Nat) : SndMidiChannelSet :=
  if (s.channels ch).note note ≠ 0 then (s.call op.noteTerminate (.noteTerminate ch note)).setNote ch note 0 else s

def allSoundsOff : SndMidiChannelSet :=
  if op.noteTerminate then s.forNotes fun s note => s.terminate op ch note else s

def allNotesOff : SndMidiChannelSet :=
  if op.noteOff then
    s.forNotes fun s note => if (s.channels ch).note note = SNDRV_MIDI_NOTE_ON then s.noteOff op ch note 0 else s
  else s

def dataEntry : SndMidiChannelSet := if (s.channels ch).registered then s.rpn ch else s.nrpn op ch

def switchValue (control : Nat) (value : Int) : Int :=
  if 64 ≤ control ∧ control ≤ 69 ∨ 80 ≤ control ∧ control ≤ 83 then if value ≥ 64 then 127 else 0 else value

def doControl (control : Nat) (value : Int) : SndMidiChannelSet :=
  let value := switchValue control value
  if control ≥ 128 then { s with overrun := true }
  else
    let s := s.setControl ch control (BitVec.ofInt 8 value)
    if control = MIDI_CTL_SUSTAIN then
      if value = 0 then s.forNotes fun s note => s.sustainOff op ch note else s
    else if control = MIDI_CTL_PORTAMENTO then s
    else if control = MIDI_CTL_SOSTENUTO then
      if value ≠ 0 then s.forNotes fun s note => s.sostenutoOn ch note
      else s.forNotes fun s note => s.sostenutoOff op ch note
    else if control = MIDI_CTL_MSB_DATA_ENTRY then (s.setControl ch MIDI_CTL_LSB_DATA_ENTRY 0).dataEntry op ch
    else if control = MIDI_CTL_LSB_DATA_ENTRY then s.dataEntry op ch
    else if control = MIDI_CTL_REGIST_PARM_NUM_LSB ∨ control = MIDI_CTL_REGIST_PARM_NUM_MSB then
      s.modify ch fun chan => { chan with registered := true }
    else if control = MIDI_CTL_NONREG_PARM_NUM_LSB ∨ control = MIDI_CTL_NONREG_PARM_NUM_MSB then
      s.modify ch fun chan => { chan with registered := false }
    else if control = MIDI_CTL_ALL_SOUNDS_OFF then s.allSoundsOff op ch
    else if control = MIDI_CTL_ALL_NOTES_OFF then s.allNotesOff op ch
    else if control = MIDI_CTL_MSB_BANK then
      if s.midiMode = SNDRV_MIDI_MODE_XG then s.modify ch fun chan => { chan with drumChannel := value == 127 } else s
    else if control = MIDI_CTL_LSB_BANK then s
    else if control = MIDI_CTL_RESET_CONTROLLERS then s.modify ch SndMidiChannel.resetControllers
    else s.call op.control (.control ch control)

def resetAllChannels : SndMidiChannelSet :=
  (List.range s.maxChannels).foldl (fun s ch => s.modify ch fun chan => chan.reset ch) s

def getChannel (cmd : Byte) : Nat :=
  let p := (cmd &&& 0x0f).toNat
  if p = 0 then 9 else if p < 10 then p - 1 else p

def gmOnMacro : List Byte := [0x7e, 0x7f, 0x09, 0x01]
def xgOnMacro : List Byte := [0x43, 0x10, 0x4c, 0x00, 0x00, 0x7e, 0x00]
def gsPfxMacro : List Byte := [0x41, 0x10, 0x42, 0x12, 0x40]

def gsSysex (buf : List Byte) : Nat × SndMidiChannelSet :=
  let at_ := fun i => buf.getD i 0
  let s := if s.midiMode ≠ SNDRV_MIDI_MODE_GS ∧ s.midiMode ≠ SNDRV_MIDI_MODE_XG then
    { s with midiMode := SNDRV_MIDI_MODE_GS } else s
  if at_ 5 = 0x00 ∧ at_ 6 = 0x7f ∧ at_ 7 = 0x00 then (SNDRV_MIDI_SYSEX_GS_RESET, s.resetAllChannels)
  else if at_ 5 &&& 0xf0 = 0x10 ∧ at_ 6 = 0x15 then
    let p := getChannel (at_ 5)
    if p < s.maxChannels then
      (SNDRV_MIDI_SYSEX_GS_DRUM_CHANNEL, s.modify p fun chan => { chan with drumChannel := at_ 7 != 0 })
    else (SNDRV_MIDI_SYSEX_NOT_PARSED, s)
  else if at_ 5 &&& 0xf0 = 0x10 ∧ at_ 6 = 0x21 then
    let p := getChannel (at_ 5)
    if p < s.maxChannels ∧ ¬ (s.channels p).drumChannel then
      (SNDRV_MIDI_SYSEX_GS_DRUM_CHANNEL, s.modify p fun chan => { chan with midiProgram := at_ 7 })
    else (SNDRV_MIDI_SYSEX_NOT_PARSED, s)
  else if at_ 5 = 0x01 ∧ at_ 6 = 0x30 then (SNDRV_MIDI_SYSEX_GS_REVERB_MODE, { s with gsReverbMode := at_ 7 })
  else if at_ 5 = 0x01 ∧ at_ 6 = 0x38 then (SNDRV_MIDI_SYSEX_GS_CHORUS_MODE, { s with gsChorusMode := at_ 7 })
  else if at_ 5 = 0x00 ∧ at_ 6 = 0x04 then (SNDRV_MIDI_SYSEX_GS_MASTER_VOLUME, { s with gsMasterVolume := at_ 7 })
  else (SNDRV_MIDI_SYSEX_NOT_PARSED, s)

/-- The part of `sysex` that reads the message behind its first byte. -/
def parseSysex (buf : List Byte) : Nat × SndMidiChannelSet :=
  if buf.length ≥ 4 ∧ buf.take 4 = gmOnMacro then
    if s.midiMode ≠ SNDRV_MIDI_MODE_GS ∧ s.midiMode ≠ SNDRV_MIDI_MODE_XG then
      (SNDRV_MIDI_SYSEX_GM_ON, { s with midiMode := SNDRV_MIDI_MODE_GM }.resetAllChannels)
    else (SNDRV_MIDI_SYSEX_NOT_PARSED, s)
  else if buf.length ≥ 8 ∧ buf.take 5 = gsPfxMacro then s.gsSysex buf
  else if buf.length ≥ 7 ∧ buf.take 7 = xgOnMacro then
    (SNDRV_MIDI_SYSEX_XG_ON, (List.range s.maxChannels).foldl
      (fun s i => s.setControl i MIDI_CTL_MSB_BANK (if (s.channels i).drumChannel then 127 else 0))
      { s with midiMode := SNDRV_MIDI_MODE_XG })
  else (SNDRV_MIDI_SYSEX_NOT_PARSED, s)

def sysex (buf : List Byte) : SndMidiChannelSet :=
  if buf.head? ≠ some 0xf0 then s
  else
    let (parsed, s) := s.parseSysex buf.tail
    s.call op.sysex (.sysex buf parsed)

def setParameter (registered : Bool) (msb lsb param : Nat) (value : Int) : SndMidiChannelSet :=
  let s := s.modify ch fun chan => { chan with registered := registered }
  let s := s.setControl ch MIDI_CTL_MSB_DATA_ENTRY (BitVec.ofInt 8 (value / 128 % 128))
  let s := s.setControl ch MIDI_CTL_LSB_DATA_ENTRY (BitVec.ofInt 8 (value % 128))
  let s := s.setControl ch msb (BitVec.ofNat 8 (param / 128 % 128))
  s.setControl ch lsb (BitVec.ofNat 8 (param % 128))

/-- The switch of `snd_midi_process_event`; `type` is the event's type after a note-on with velocity zero has been
    made a note-off, and `expand` is `snd_seq_expand_var_event` into 64 bytes, empty where it fails. -/
def dispatch (expand : SndSeqEvent → List Byte) (ev : SndSeqEvent) (type : Nat) : SndMidiChannelSet :=
  let note := ev.data.note.toNat
  let velocity := ev.data.velocity
  let param := ev.data.param
  let value := ev.data.value
  if type = SNDRV_SEQ_EVENT_NOTEON then
    let s := if (s.channels ch).note note &&& SNDRV_MIDI_NOTE_ON ≠ 0 then s.call op.noteOff (.noteOff ch note 0) else s
    (s.setNote ch note SNDRV_MIDI_NOTE_ON).call op.noteOn (.noteOn ch note velocity)
  else if type = SNDRV_SEQ_EVENT_NOTEOFF then
    if (s.channels ch).note note &&& SNDRV_MIDI_NOTE_ON = 0 then s
    else if op.noteOff then s.noteOff op ch note velocity else s
  else if type = SNDRV_SEQ_EVENT_KEYPRESS then s.call op.keyPress (.keyPress ch note velocity)
  else if type = SNDRV_SEQ_EVENT_CONTROLLER then s.doControl op ch param value
  else if type = SNDRV_SEQ_EVENT_PGMCHANGE then s.modify ch fun chan => { chan with midiProgram := BitVec.ofInt 8 value }
  else if type = SNDRV_SEQ_EVENT_PITCHBEND then
    (s.modify ch fun chan => { chan with midiPitchbend := BitVec.ofInt 16 value }).call op.control (.control ch MIDI_CTL_PITCHBEND)
  else if type = SNDRV_SEQ_EVENT_CHANPRESS then
    (s.modify ch fun chan => { chan with midiPressure := BitVec.ofInt 8 value }).call op.control
      (.control ch MIDI_CTL_CHAN_PRESSURE)
  else if type = SNDRV_SEQ_EVENT_CONTROL14 then
    if param < 32 then (s.setControl ch (param + 32) (BitVec.ofInt 8 (value % 128))).doControl op ch param (value / 128 % 128)
    else s.doControl op ch param value
  else if type = SNDRV_SEQ_EVENT_NONREGPARAM then
    (s.setParameter ch false MIDI_CTL_NONREG_PARM_NUM_MSB MIDI_CTL_NONREG_PARM_NUM_LSB param value).nrpn op ch
  else if type = SNDRV_SEQ_EVENT_REGPARAM then
    (s.setParameter ch true MIDI_CTL_REGIST_PARM_NUM_MSB MIDI_CTL_REGIST_PARM_NUM_LSB param value).rpn ch
  else if type = SNDRV_SEQ_EVENT_SYSEX then if ev.isVariable then s.sysex op (expand ev) else s
  else s

def eventType (ev : SndSeqEvent) : Nat :=
  if ev.type = SNDRV_SEQ_EVENT_NOTEON ∧ ev.data.velocity = 0 then SNDRV_SEQ_EVENT_NOTEOFF else ev.type

def isKeyEvent (type : Nat) : Bool :=
  type == SNDRV_SEQ_EVENT_NOTEON || type == SNDRV_SEQ_EVENT_NOTEOFF || type == SNDRV_SEQ_EVENT_KEYPRESS

def sndMidiProcessEvent (expand : SndSeqEvent → List Byte) (ev : SndSeqEvent) : SndMidiChannelSet :=
  if ev.isChannelType ∧ ev.data.channel.toNat ≥ s.maxChannels then s
  else
    let destChannel := if ev.isChannelType then ev.data.channel.toNat else 0
    if ev.type = SNDRV_SEQ_EVENT_NOTE then s
    else if isKeyEvent (eventType ev) ∧ ev.data.note.toNat ≥ 128 then s
    else s.dispatch op destChannel expand ev (eventType ev)

end SndMidiChannelSet

end AlsaDriver.Seq
