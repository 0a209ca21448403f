import AlsaDriver.Lib.Checked
import AlsaDriver.Seq.MidiDecode
import AlsaDriver.Seq.MidiEmul

namespace AlsaDriver.Seq

open Checked

namespace SndMidiChannelSet

variable (op : SndMidiOp) (s : SndMidiChannelSet) (ch : Nat)

def channelAt : Option SndMidiChannel := inBounds (ch < s.maxChannels) (s.channels ch)

def modifyAt (f : SndMidiChannel → SndMidiChannel) : Option SndMidiChannelSet :=
  inBounds (ch < s.maxChannels) (s.modify ch f)

def noteAt (note : Nat) : Option Byte := inBounds (ch < s.maxChannels ∧ note < 128) ((s.channels ch).note note)

def setNoteAt (note : Nat) (flags : Byte) : Option SndMidiChannelSet :=
  inBounds (ch < s.maxChannels ∧ note < 128) (s.setNote ch note flags)

def controlAt (control : Nat) : Option Byte :=
  inBounds (ch < s.maxChannels ∧ control < 128) ((s.channels ch).control control)

def setControlAt (control : Nat) (value : Byte) : Option SndMidiChannelSet :=
  inBounds (ch < s.maxChannels ∧ control < 128) (s.setControl ch control value)

/-- The emulation again, with every index into `channels`, `note`, `control` and the buffer of a message checked. -/
def forNotesChecked (step : SndMidiChannelSet → Nat → Option SndMidiChannelSet) : Option SndMidiChannelSet :=
  (List.range 128).foldlM step s

def noteOffChecked (note : Nat) (vel : Byte) : Option SndMidiChannelSet := do
  let hold ← s.controlAt ch MIDI_CTL_SUSTAIN
  let flags ← s.noteAt ch note
  if hold ≠ 0 then s.setNoteAt ch note (flags ||| SNDRV_MIDI_NOTE_RELEASED)
  else if flags &&& SNDRV_MIDI_NOTE_SOSTENUTO ≠ 0 then s.setNoteAt ch note (flags ||| SNDRV_MIDI_NOTE_RELEASED)
  else (s.setNoteAt ch note 0).map fun s => s.call op.noteOff (.noteOff ch note vel)

def rpnChecked : Option SndMidiChannelSet :=
  if s.midiMode ≠ SNDRV_MIDI_MODE_NONE then do
    let parmMsb ← s.controlAt ch MIDI_CTL_REGIST_PARM_NUM_MSB
    let parmLsb ← s.controlAt ch MIDI_CTL_REGIST_PARM_NUM_LSB
    let entryMsb ← s.controlAt ch MIDI_CTL_MSB_DATA_ENTRY
    let entryLsb ← s.controlAt ch MIDI_CTL_LSB_DATA_ENTRY
    let type := parmMsb.toNat * 256 + parmLsb.toNat
    let val : Int := entryMsb.toNat * 128 ||| entryLsb.toNat
    if type = 0x0000 then s.modifyAt ch fun chan => { chan with gmRpnPitchBendRange := val }
    else if type = 0x0001 then s.modifyAt ch fun chan => { chan with gmRpnFineTuning := val - 8192 }
    else if type = 0x0002 then s.modifyAt ch fun chan => { chan with gmRpnCoarseTuning := val - 8192 }
    else some s
  else some s

def sustainOffChecked (note : Nat) : Option SndMidiChannelSet := do
  let flags ← s.noteAt ch note
  if flags &&& SNDRV_MIDI_NOTE_RELEASED ≠ 0 then
    (s.setNoteAt ch note SNDRV_MIDI_NOTE_OFF).map fun s => s.call op.noteOff (.noteOff ch note 0)
  else some s

def sostenutoOnChecked (note : Nat) : Option SndMidiChannelSet := do
  let flags ← s.noteAt ch note
  if flags &&& SNDRV_MIDI_NOTE_ON ≠ 0 then s.setNoteAt ch note (flags ||| SNDRV_MIDI_NOTE_SOSTENUTO) else some s

def sostenutoOffChecked (note : Nat) : Option SndMidiChannelSet := do
  let flags ← s.noteAt ch note
  if flags &&& SNDRV_MIDI_NOTE_SOSTENUTO ≠ 0 then
    let flags := flags &&& ~~~SNDRV_MIDI_NOTE_SOSTENUTO
    if flags &&& SNDRV_MIDI_NOTE_RELEASED ≠ 0 then
      (s.setNoteAt ch note SNDRV_MIDI_NOTE_OFF).map fun s => s.call op.noteOff (.noteOff ch note 0)
    else s.setNoteAt ch note flags
  else some s

def terminateChecked (note : Nat) : Option SndMidiChannelSet := do
  let flags ← s.noteAt ch note
  if flags ≠ 0 then (s.call op.noteTerminate (.noteTerminate ch note)).setNoteAt ch note 0 else some s

def allSoundsOffChecked : Option SndMidiChannelSet :=
  if op.noteTerminate then s.forNotesChecked fun s note => s.terminateChecked op ch note else some s

/-- The body of the loop of `all_notes_off`. -/
def releaseChecked (note : Nat) : Option SndMidiChannelSet := do
  let flags ← s.noteAt ch note
  if flags = SNDRV_MIDI_NOTE_ON then s.noteOffChecked op ch note 0 else some s

def allNotesOffChecked : Option SndMidiChannelSet :=
  if op.noteOff then s.forNotesChecked fun s note => s.releaseChecked op ch note else some s

def dataEntryChecked : Option SndMidiChannelSet := do
  let chan ← s.channelAt ch
  if chan.registered then s.rpnChecked ch else some (s.nrpn op ch)

def doControlChecked (control : Nat) (value : Int) : Option SndMidiChannelSet := do
  let value := switchValue control value
  let s ← s.setControlAt ch control (BitVec.ofInt 8 value)
  if control = MIDI_CTL_SUSTAIN then
    if value = 0 then s.forNotesChecked fun s note => s.sustainOffChecked op ch note else some s
  else if control = MIDI_CTL_PORTAMENTO then some s
  else if control = MIDI_CTL_SOSTENUTO then
    if value ≠ 0 then s.forNotesChecked fun s note => s.sostenutoOnChecked ch note
    else s.forNotesChecked fun s note => s.sostenutoOffChecked op ch note
  else if control = MIDI_CTL_MSB_DATA_ENTRY then
    (s.setControlAt ch MIDI_CTL_LSB_DATA_ENTRY 0).bind fun s => s.dataEntryChecked op ch
  else if control = MIDI_CTL_LSB_DATA_ENTRY then s.dataEntryChecked op ch
  else if control = MIDI_CTL_REGIST_PARM_NUM_LSB ∨ control = MIDI_CTL_REGIST_PARM_NUM_MSB then
    s.modifyAt ch fun chan => { chan with registered := true }
  else if control = MIDI_CTL_NONREG_PARM_NUM_LSB ∨ control = MIDI_CTL_NONREG_PARM_NUM_MSB then
    s.modifyAt ch fun chan => { chan with registered := false }
  else if control = MIDI_CTL_ALL_SOUNDS_OFF then s.allSoundsOffChecked op ch
  else if control = MIDI_CTL_ALL_NOTES_OFF then s.allNotesOffChecked op ch
  else if control = MIDI_CTL_MSB_BANK then
    if s.midiMode = SNDRV_MIDI_MODE_XG then s.modifyAt ch fun chan => { chan with drumChannel := value == 127 } else some s
  else if control = MIDI_CTL_LSB_BANK then some s
  else if control = MIDI_CTL_RESET_CONTROLLERS then s.modifyAt ch SndMidiChannel.resetControllers
  else some (s.call op.control (.control ch control))

def resetAllChannelsChecked : Option SndMidiChannelSet :=
  (List.range s.maxChannels).foldlM (fun s ch => s.modifyAt ch fun chan => chan.reset ch) s

/-- `memcmp` with a macro, which may read as far as the macro is long. -/
def startsWith (buf bytes : List Byte) : Option Bool := inBounds (bytes.length ≤ buf.length) (buf.take bytes.length == bytes)

def gsSysexChecked (buf : List Byte) : Option (Nat × SndMidiChannelSet) := do
  let s := if s.midiMode ≠ SNDRV_MIDI_MODE_GS ∧ s.midiMode ≠ SNDRV_MIDI_MODE_XG then
    { s with midiMode := SNDRV_MIDI_MODE_GS } else s
  let xx ← (buf[5]? : Option Byte)
  let yy ← (buf[6]? : Option Byte)
  let zz ← (buf[7]? : Option Byte)
  if xx = 0x00 ∧ yy = 0x7f ∧ zz = 0x00 then
    s.resetAllChannelsChecked.map (SNDRV_MIDI_SYSEX_GS_RESET, ·)
  else if xx &&& 0xf0 = 0x10 ∧ yy = 0x15 then
    let p := getChannel xx
    if p < s.maxChannels then
      (s.modifyAt p fun chan => { chan with drumChannel := zz != 0 }).map (SNDRV_MIDI_SYSEX_GS_DRUM_CHANNEL, ·)
    else some (SNDRV_MIDI_SYSEX_NOT_PARSED, s)
  else if xx &&& 0xf0 = 0x10 ∧ yy = 0x21 then
    let p := getChannel xx
    if p < s.maxChannels then do
      let chan ← s.channelAt p
      if ¬ chan.drumChannel then
        (s.modifyAt p fun chan => { chan with midiProgram := zz }).map (SNDRV_MIDI_SYSEX_GS_DRUM_CHANNEL, ·)
      else some (SNDRV_MIDI_SYSEX_NOT_PARSED, s)
    else some (SNDRV_MIDI_SYSEX_NOT_PARSED, s)
  else if xx = 0x01 ∧ yy = 0x30 then some (SNDRV_MIDI_SYSEX_GS_REVERB_MODE, { s with gsReverbMode := zz })
  else if xx = 0x01 ∧ yy = 0x38 then some (SNDRV_MIDI_SYSEX_GS_CHORUS_MODE, { s with gsChorusMode := zz })
  else if xx = 0x00 ∧ yy = 0x04 then some (SNDRV_MIDI_SYSEX_GS_MASTER_VOLUME, { s with gsMasterVolume := zz })
  else some (SNDRV_MIDI_SYSEX_NOT_PARSED, s)

def xgBankChecked (i : Nat) : Option SndMidiChannelSet := do
  let chan ← s.channelAt i
  s.setControlAt i MIDI_CTL_MSB_BANK (if chan.drumChannel then 127 else 0)

def matchesMacro (size : Nat) (buf bytes : List Byte) : Option Bool :=
  if buf.length ≥ size then startsWith buf bytes else some false

def parseSysexChecked (buf : List Byte) : Option (Nat × SndMidiChannelSet) := do
  if ← matchesMacro 4 buf gmOnMacro then
    if s.midiMode ≠ SNDRV_MIDI_MODE_GS ∧ s.midiMode ≠ SNDRV_MIDI_MODE_XG then
      ({ s with midiMode := SNDRV_MIDI_MODE_GM } : SndMidiChannelSet).resetAllChannelsChecked.map
        (SNDRV_MIDI_SYSEX_GM_ON, ·)
    else some (SNDRV_MIDI_SYSEX_NOT_PARSED, s)
  else if ← matchesMacro 8 buf gsPfxMacro then s.gsSysexChecked buf
  else if ← matchesMacro 7 buf xgOnMacro then
    ((List.range s.maxChannels).foldlM xgBankChecked { s with midiMode := SNDRV_MIDI_MODE_XG }).map
      (SNDRV_MIDI_SYSEX_XG_ON, ·)
  else some (SNDRV_MIDI_SYSEX_NOT_PARSED, s)

def sysexChecked (buf : List Byte) : Option SndMidiChannelSet :=
  if buf.length = 0 then some s
  else do
    let first ← (buf[0]? : Option Byte)
    if first ≠ 0xf0 then some s
    else
      let (parsed, s) ← s.parseSysexChecked buf.tail
      some (s.call op.sysex (.sysex buf parsed))

def setParameterChecked (registered : Bool) (msb lsb param : Nat) (value : Int) : Option SndMidiChannelSet := do
  let s ← s.modifyAt ch fun chan => { chan with registered := registered }
  let s ← s.setControlAt ch MIDI_CTL_MSB_DATA_ENTRY (BitVec.ofInt 8 (value / 128 % 128))
  let s ← s.setControlAt ch MIDI_CTL_LSB_DATA_ENTRY (BitVec.ofInt 8 (value % 128))
  let s ← s.setControlAt ch msb (BitVec.ofNat 8 (param / 128 % 128))
  s.setControlAt ch lsb (BitVec.ofNat 8 (param % 128))

/-- A delivered event, with the memory that its data is read from and what the stack held in `sysexbuf`. -/
structure Delivery where
  memory : SeqMemory
  source : Nat → Bool
  stack : Fin 64 → Byte
  ev : SndSeqEvent

/-- `snd_seq_expand_var_event` into `sysexbuf`. -/
def Delivery.expansion (d : Delivery) : Int × List Byte :=
  d.memory.sndSeqExpandVarEventInto d.source (fun _ => false) d.ev 64 true 0

def Delivery.sysexbuf (d : Delivery) : List Byte :=
  (d.expansion.2 ++ (List.ofFn d.stack).drop d.expansion.2.length).take d.expansion.1.toNat

def Delivery.sysexbufChecked (d : Delivery) : Option (List Byte) :=
  inBounds (d.expansion.2.length ≤ 64 ∧ d.expansion.1 ≤ 64) d.sysexbuf

def dispatchChecked (d : Delivery) (type : Nat) : Option SndMidiChannelSet := do
  let note := d.ev.data.note.toNat
  let velocity := d.ev.data.velocity
  let param := d.ev.data.param
  let value := d.ev.data.value
  if type = SNDRV_SEQ_EVENT_NOTEON then
    let flags ← s.noteAt ch note
    let s := if flags &&& SNDRV_MIDI_NOTE_ON ≠ 0 then s.call op.noteOff (.noteOff ch note 0) else s
    (s.setNoteAt ch note SNDRV_MIDI_NOTE_ON).map fun s => s.call op.noteOn (.noteOn ch note velocity)
  else if type = SNDRV_SEQ_EVENT_NOTEOFF then
    let flags ← s.noteAt ch note
    if flags &&& SNDRV_MIDI_NOTE_ON = 0 then some s
    else if op.noteOff then s.noteOffChecked op ch note velocity else some s
  else if type = SNDRV_SEQ_EVENT_KEYPRESS then some (s.call op.keyPress (.keyPress ch note velocity))
  else if type = SNDRV_SEQ_EVENT_CONTROLLER then s.doControlChecked op ch param value
  else if type = SNDRV_SEQ_EVENT_PGMCHANGE then s.modifyAt ch fun chan => { chan with midiProgram := BitVec.ofInt 8 value }
  else if type = SNDRV_SEQ_EVENT_PITCHBEND then
    (s.modifyAt ch fun chan => { chan with midiPitchbend := BitVec.ofInt 16 value }).map fun s =>
      s.call op.control (.control ch MIDI_CTL_PITCHBEND)
  else if type = SNDRV_SEQ_EVENT_CHANPRESS then
    (s.modifyAt ch fun chan => { chan with midiPressure := BitVec.ofInt 8 value }).map fun s =>
      s.call op.control (.control ch MIDI_CTL_CHAN_PRESSURE)
  else if type = SNDRV_SEQ_EVENT_CONTROL14 then
    if param < 32 then
      (s.setControlAt ch (param + 32) (BitVec.ofInt 8 (value % 128))).bind fun s =>
        s.doControlChecked op ch param (value / 128 % 128)
    else s.doControlChecked op ch param value
  else if type = SNDRV_SEQ_EVENT_NONREGPARAM then
    (s.setParameterChecked ch false MIDI_CTL_NONREG_PARM_NUM_MSB MIDI_CTL_NONREG_PARM_NUM_LSB param value).map fun s =>
      s.nrpn op ch
  else if type = SNDRV_SEQ_EVENT_REGPARAM then
    (s.setParameterChecked ch true MIDI_CTL_REGIST_PARM_NUM_MSB MIDI_CTL_REGIST_PARM_NUM_LSB param value).bind fun s =>
      s.rpnChecked ch
  else if type = SNDRV_SEQ_EVENT_SYSEX then
    if d.ev.isVariable then d.sysexbufChecked.bind fun buf => s.sysexChecked op buf else some s
  else some s

/-- `snd_midi_process_event`; `allocated` tells whether the set has channels at all. -/
def processEventChecked (allocated : Bool) (d : Delivery) : Option SndMidiChannelSet :=
  if allocated = false then some s
  else if d.ev.isChannelType ∧ d.ev.data.channel.toNat ≥ s.maxChannels then some s
  else
    let destChannel := if d.ev.isChannelType then d.ev.data.channel.toNat else 0
    if d.ev.type = SNDRV_SEQ_EVENT_NOTE then some s
    else if isKeyEvent (eventType d.ev) ∧ d.ev.data.note.toNat ≥ 128 then some s
    else s.dispatchChecked op destChannel d (eventType d.ev)

end SndMidiChannelSet

end AlsaDriver.Seq
