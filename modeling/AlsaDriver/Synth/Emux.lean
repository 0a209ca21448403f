import Mathlib.Data.List.FinRange
import Mathlib.Logic.Function.Basic

namespace AlsaDriver.Synth

open Function

def SNDRV_EMUX_ST_OFF : Nat := 0x00
def SNDRV_EMUX_ST_ON : Nat := 0x01
def SNDRV_EMUX_ST_RELEASED : Nat := 0x03
def SNDRV_EMUX_ST_STANDBY : Nat := 0x09
def SNDRV_EMUX_ST_PENDING : Nat := 0x11
def SNDRV_EMUX_ST_LOCKED : Nat := 0x100

def stateIsPlaying (state : Nat) : Bool := state &&& SNDRV_EMUX_ST_ON != 0

structure SndEmuxVoice where
  ch : Int
  state : Nat
  time : Nat
  chan : Option Nat
  port : Option Nat
  key : Int
  exclusiveClass : Int
  ontime : Nat

/-- The callbacks for a voice, `off` where a note-off comes to a voice that is playing. -/
inductive VoiceEvent where
  | trigger (jiffies : Nat)
  | release (jiffies : Nat)
  | update
  | terminate
  | freeVoice
  | reset
  | off
  deriving DecidableEq

/-- The timer of the delayed releases: `firing` from its expiry to the run of its callback. -/
inductive TimerState where
  | idle
  | queued
  | firing
  deriving DecidableEq

structure SndEmuxOperators where
  prepare : Bool
  freeVoice : Bool
  reset : Bool

/-- `log` has the callbacks made so far, and `requeued` tells that a queued timer was added again. -/
structure SndEmux (n : Nat) where
  voices : Fin n → SndEmuxVoice
  useTime : Nat
  timerActive : Bool
  timer : TimerState
  log : List (Fin n × VoiceEvent)
  requeued : Bool

/-- What `get_voice` gives for a zone of a note, with the channel that it leaves in the voice, and whether `prepare`
    succeeds there. -/
structure ZoneChoice (n : Nat) where
  voice : Option (Fin n)
  ch : Int
  ready : Bool
  exclusiveClass : Int

namespace SndEmux

variable {n : Nat}

/-- `snd_emux_init_voices` on a synthesizer as it is created. -/
def init : SndEmux n where
  voices _ := ⟨-1, SNDRV_EMUX_ST_OFF, 0, none, none, 0, 0, 0⟩
  useTime := 0
  timerActive := false
  timer := .idle
  log := []
  requeued := false

variable (ops : SndEmuxOperators) (emu : SndEmux n)

def call (v : Fin n) (event : VoiceEvent) : SndEmux n := { emu with log := emu.log ++ [(v, event)] }

def modify (v : Fin n) (f : SndEmuxVoice → SndEmuxVoice) : SndEmux n :=
  { emu with voices := update emu.voices v (f (emu.voices v)) }

def setState (v : Fin n) (state : Nat) : SndEmux n := emu.modify v fun vp => { vp with state := state }

def forVoices (step : SndEmux n → Fin n → SndEmux n) : SndEmux n := (List.finRange n).foldl step emu

def addTimer : SndEmux n :=
  { emu with
    timer := .queued
    timerActive := true
    requeued := emu.requeued || emu.timer == .queued }

def terminateVoice (v : Fin n) (free : Bool) : SndEmux n :=
  let emu := (emu.call v .terminate).modify v fun vp =>
    { vp with
      time := emu.useTime
      chan := none
      port := none
      state := SNDRV_EMUX_ST_OFF }
  let emu := { emu with useTime := emu.useTime + 1 }
  if free ∧ ops.freeVoice then emu.call v .freeVoice else emu

/-- The first loop of `snd_emux_note_on`, for one zone. -/
def prepareZone (chan port : Nat) (key : Int) (emu : SndEmux n) (zone : ZoneChoice n) : SndEmux n :=
  match zone.voice with
  | none => emu
  | some v =>
    let emu := emu.modify v fun vp => { vp with ch := zone.ch }
    if zone.ch < 0 then emu
    else
      let emu := if stateIsPlaying (emu.voices v).state then emu.call v .terminate else emu
      let emu := emu.modify v fun vp =>
        { vp with
          time := emu.useTime
          chan := some chan
          port := some port
          key := key
          exclusiveClass := zone.exclusiveClass
          state := if ops.prepare ∧ ¬ zone.ready then SNDRV_EMUX_ST_OFF else SNDRV_EMUX_ST_STANDBY }
      { emu with useTime := emu.useTime + 1 }

/-- The second loop of `snd_emux_note_on`, for one voice. -/
def triggerVoice (chan jiffies : Nat) (emu : SndEmux n) (v : Fin n) : SndEmux n :=
  if (emu.voices v).state = SNDRV_EMUX_ST_STANDBY ∧ (emu.voices v).chan = some chan then
    (emu.call v (.trigger jiffies)).modify v fun vp =>
      { vp with
        state := SNDRV_EMUX_ST_ON
        ontime := jiffies }
  else emu

def sndEmuxNoteOn (chan port : Nat) (key : Int) (zones : List (ZoneChoice n)) (jiffies : Nat) : SndEmux n :=
  (zones.foldl (prepareZone ops chan port key) emu).forVoices (triggerVoice chan jiffies)

/-- The body of the loop of `snd_emux_note_off`. -/
def releaseVoice (chan : Nat) (note : Int) (jiffies : Nat) (emu : SndEmux n) (v : Fin n) : SndEmux n :=
  let vp := emu.voices v
  if stateIsPlaying vp.state ∧ vp.chan = some chan ∧ vp.key = note then
    let emu := emu.call v .off
    if vp.ontime = jiffies then
      let emu := emu.setState v SNDRV_EMUX_ST_PENDING
      if emu.timerActive then emu else emu.addTimer
    else (emu.setState v SNDRV_EMUX_ST_RELEASED).call v (.release jiffies)
  else emu

def sndEmuxNoteOff (chan : Nat) (note : Int) (jiffies : Nat) : SndEmux n := emu.forVoices (releaseVoice chan note jiffies)

/-- The body of the loop of `snd_emux_timer_callback`, with the count of the voices that stay pending. -/
def releasePending (jiffies : Nat) (t : SndEmux n × Nat) (v : Fin n) : SndEmux n × Nat :=
  let vp := t.1.voices v
  if vp.state = SNDRV_EMUX_ST_PENDING then
    if vp.ontime = jiffies then (t.1, t.2 + 1)
    else ((t.1.call v (.release jiffies)).setState v SNDRV_EMUX_ST_RELEASED, t.2)
  else t

/-- The timer has expired, and its callback runs at `jiffies`. -/
def sndEmuxTimerCallback (jiffies : Nat) : SndEmux n :=
  let (emu, doAgain) := (List.finRange n).foldl (releasePending jiffies) (emu, 0)
  if doAgain ≠ 0 then emu.addTimer
  else
    { emu with
      timerActive := false
      timer := .idle }

/-- `update_voice`; `still` tells that only the pan was to change, and that it did not. -/
def updateVoice (still : Fin n → Bool) (v : Fin n) : SndEmux n :=
  let vp := emu.voices v
  if ¬ stateIsPlaying vp.state then emu
  else if vp.chan = none ∨ vp.port = none then emu
  else if still v then emu
  else emu.call v .update

def sndEmuxKeyPress (chan : Nat) (note : Int) : SndEmux n :=
  emu.forVoices fun emu v =>
    if (emu.voices v).state = SNDRV_EMUX_ST_ON ∧ (emu.voices v).chan = some chan ∧ (emu.voices v).key = note then
      emu.updateVoice (fun _ => false) v
    else emu

def sndEmuxUpdateChannel (chan : Nat) (still : Fin n → Bool) : SndEmux n :=
  emu.forVoices fun emu v => if (emu.voices v).chan = some chan then emu.updateVoice still v else emu

def sndEmuxUpdatePort (port : Nat) (still : Fin n → Bool) : SndEmux n :=
  emu.forVoices fun emu v => if (emu.voices v).port = some port then emu.updateVoice still v else emu

def terminateNote1 (note : Int) (chan : Nat) (free : Bool) : SndEmux n :=
  emu.forVoices fun emu v =>
    if stateIsPlaying (emu.voices v).state ∧ (emu.voices v).chan = some chan ∧ (emu.voices v).key = note then
      emu.terminateVoice ops v free
    else emu

/-- What `snd_emux_terminate_all` and `snd_emux_sounds_off_all` do to a voice that is off. -/
def freeOff (v : Fin n) : SndEmux n :=
  if (emu.voices v).state = SNDRV_EMUX_ST_OFF then
    let emu := if ops.freeVoice then emu.call v .freeVoice else emu
    if ops.reset then emu.call v .reset else emu
  else emu

def sndEmuxTerminateAll : SndEmux n :=
  let emu := emu.forVoices fun emu v =>
    let emu := if stateIsPlaying (emu.voices v).state then emu.terminateVoice ops v false else emu
    (emu.freeOff ops v).modify v fun vp => { vp with time := 0 }
  { emu with useTime := 0 }

def sndEmuxSoundsOffAll (port : Nat) : SndEmux n :=
  emu.forVoices fun emu v =>
    let emu := if stateIsPlaying (emu.voices v).state ∧ (emu.voices v).port = some port then
      emu.terminateVoice ops v false else emu
    emu.freeOff ops v

def exclusiveNoteOff (port : Nat) (exclass : Int) : SndEmux n :=
  emu.forVoices fun emu v =>
    if stateIsPlaying (emu.voices v).state ∧ (emu.voices v).port = some port ∧ (emu.voices v).exclusiveClass = exclass then
      emu.terminateVoice ops v false
    else emu

def sndEmuxLockVoice (v : Fin n) : SndEmux n :=
  if (emu.voices v).state = SNDRV_EMUX_ST_OFF then emu.setState v SNDRV_EMUX_ST_LOCKED else emu

def sndEmuxUnlockVoice (v : Fin n) : SndEmux n :=
  if (emu.voices v).state = SNDRV_EMUX_ST_LOCKED then emu.setState v SNDRV_EMUX_ST_OFF else emu

end SndEmux

/-- A section under `voice_lock`, or the expiry of the timer. -/
inductive EmuxOp (n : Nat) where
  | noteOn (chan port : Nat) (key : Int) (zones : List (ZoneChoice n)) (jiffies : Nat)
  | noteOff (chan : Nat) (note : Int) (jiffies : Nat)
  | expire
  | timerCallback (jiffies : Nat)
  | keyPress (chan : Nat) (note : Int)
  | updateChannel (chan : Nat) (still : Fin n → Bool)
  | updatePort (port : Nat) (still : Fin n → Bool)
  | terminateNote (note : Int) (chan : Nat)
  | terminateAll
  | soundsOffAll (port : Nat)
  | exclusiveNoteOff (port : Nat) (exclass : Int)
  | lockVoice (v : Fin n)
  | unlockVoice (v : Fin n)

def SndEmux.exec {n : Nat} (ops : SndEmuxOperators) (emu : SndEmux n) : EmuxOp n → SndEmux n
  | .noteOn chan port key zones jiffies => emu.sndEmuxNoteOn ops chan port key zones jiffies
  | .noteOff chan note jiffies => emu.sndEmuxNoteOff chan note jiffies
  | .expire => if emu.timer = .queued then { emu with timer := .firing } else emu
  | .timerCallback jiffies => if emu.timer = .firing then emu.sndEmuxTimerCallback jiffies else emu
  | .keyPress chan note => emu.sndEmuxKeyPress chan note
  | .updateChannel chan still => emu.sndEmuxUpdateChannel chan still
  | .updatePort port still => emu.sndEmuxUpdatePort port still
  | .terminateNote note chan => emu.terminateNote1 ops note chan true
  | .terminateAll => emu.sndEmuxTerminateAll ops
  | .soundsOffAll port => emu.sndEmuxSoundsOffAll ops port
  | .exclusiveNoteOff port exclass => emu.exclusiveNoteOff ops port exclass
  | .lockVoice v => emu.sndEmuxLockVoice v
  | .unlockVoice v => emu.sndEmuxUnlockVoice v

end AlsaDriver.Synth
