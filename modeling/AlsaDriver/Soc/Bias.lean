import Mathlib.Data.List.FinRange
import AlsaDriver.Soc.Dapm

namespace AlsaDriver.Soc

structure SndSocCard where
  setBiasLevel : Bool
  setBiasLevelPost : Bool
  deriving DecidableEq, Repr

/-- A context: whether it is the card's own, has a device, a codec and a callback of the codec's
    driver. `usage` counts the runtime PM references that are taken here, and `moves` records the
    values that `bias_level` has left and taken. -/
structure SndSocDapmContext where
  own : Bool
  dev : Bool
  codec : Bool
  driverSetBiasLevel : Bool
  idleBiasOff : Bool
  biasLevel : SndSocBiasLevel
  targetBiasLevel : SndSocBiasLevel
  usage : Int
  moves : List (SndSocBiasLevel × SndSocBiasLevel)
  deriving DecidableEq, Repr

/-- Which callbacks succeed in one call of `snd_soc_dapm_set_bias_level`. A callback that succeeds
    sets the level. -/
structure Answers where
  card : Bool
  driver : Bool
  post : Bool
  deriving DecidableEq, Repr

namespace SndSocDapmContext

variable (card : SndSocCard) (answers : Answers) (level : SndSocBiasLevel) (d : SndSocDapmContext)

def assign : SndSocDapmContext := { d with biasLevel := level, moves := (d.biasLevel, level) :: d.moves }

/-- The middle of `snd_soc_dapm_set_bias_level`, with whether it goes on. -/
def setContextLevel : Bool × SndSocDapmContext :=
  if d.codec then
    if d.driverSetBiasLevel then if answers.driver then (true, d.assign level) else (false, d)
    else (true, d.assign level)
  else if ¬ d.own then (true, d.assign level)
  else (true, d)

def setPostLevel : SndSocDapmContext := if card.setBiasLevelPost ∧ answers.post then d.assign level else d

/-- `snd_soc_dapm_set_bias_level`, whose result is only printed. -/
def setBiasLevel : SndSocDapmContext :=
  if card.setBiasLevel ∧ ¬ answers.card then d
  else
    let d := if card.setBiasLevel then d.assign level else d
    let (goes, d) := d.setContextLevel answers level
    if goes then d.setPostLevel card answers level else d

def pmRuntimeGetSync : SndSocDapmContext := if d.dev then { d with usage := d.usage + 1 } else d

def pmRuntimePut : SndSocDapmContext := if d.dev then { d with usage := d.usage - 1 } else d

end SndSocDapmContext

/-- The calls of `snd_soc_dapm_set_bias_level` in one run, in their order. -/
inductive BiasCall
  | turnOn
  | prepare
  | standby
  | turnOff
  | active
  deriving DecidableEq, Repr

namespace SndSocDapmContext

variable (card : SndSocCard) (answers : BiasCall → Answers) (d : SndSocDapmContext)

def dapmPreSequenceAsync : SndSocDapmContext :=
  let d :=
    if d.biasLevel = .off ∧ d.targetBiasLevel ≠ .off then
      d.pmRuntimeGetSync.setBiasLevel card (answers .turnOn) .standby
    else d
  if d.biasLevel ≠ d.targetBiasLevel then d.setBiasLevel card (answers .prepare) .prepare else d

def dapmPostSequenceAsync : SndSocDapmContext :=
  let d :=
    if d.biasLevel = .prepare ∧ (d.targetBiasLevel = .standby ∨ d.targetBiasLevel = .off) then
      d.setBiasLevel card (answers .standby) .standby
    else d
  let d :=
    if d.biasLevel = .standby ∧ d.targetBiasLevel = .off then
      (d.setBiasLevel card (answers .turnOff) .off).pmRuntimePut
    else d
  if d.biasLevel = .prepare ∧ d.targetBiasLevel = .on then d.setBiasLevel card (answers .active) .on else d

end SndSocDapmContext

structure PoweredWidget (n : Nat) where
  id : SndSocDapmType
  dapm : Fin n
  power : Bool
  deriving DecidableEq, Repr

abbrev Contexts (n : Nat) := Fin n → SndSocDapmContext

namespace Contexts

variable {n : Nat} (s : Contexts n)

def initTarget : Fin n → SndSocBiasLevel := fun i => if (s i).idleBiasOff then .off else .standby

def raiseTarget (w : PoweredWidget n) (target : SndSocBiasLevel) : SndSocBiasLevel :=
  match w.id with
  | .siggen => target
  | .supply | .regulatorSupply | .clockSupply | .micbias =>
    if target.value < SndSocBiasLevel.standby.value then .standby else target
  | _ => .on

def widgetTarget (targets : Fin n → SndSocBiasLevel) (w : PoweredWidget n) : Fin n → SndSocBiasLevel :=
  if w.power then fun i => if i = w.dapm then raiseTarget w (targets i) else targets i else targets

def maxTarget (targets : Fin n → SndSocBiasLevel) : SndSocBiasLevel :=
  (List.finRange n).foldl (fun bias i => if bias.value < (targets i).value then targets i else bias) .off

def targets (widgets : List (PoweredWidget n)) : Fin n → SndSocBiasLevel :=
  let targets := widgets.foldl widgetTarget s.initTarget
  let bias := maxTarget targets
  fun i => if (s i).idleBiasOff then targets i else bias

/-- The bias part of `dapm_power_widgets`. The contexts run in parallel, and each touches only itself. -/
def dapmPowerWidgets (card : SndSocCard) (widgets : List (PoweredWidget n)) (answers : Fin n → BiasCall → Answers) :
    Contexts n :=
  let targets := s.targets widgets
  fun i =>
    let d := { s i with targetBiasLevel := targets i }
    (d.dapmPreSequenceAsync card (answers i)).dapmPostSequenceAsync card (answers i)

end Contexts

end AlsaDriver.Soc
