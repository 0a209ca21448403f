import Mathlib.Init

namespace AlsaDriver.Soc

inductive SndSocDapmType
  | input
  | output
  | mux
  | virtMux
  | valueMux
  | mixer
  | mixerNamedCtl
  | pga
  | outDrv
  | adc
  | dac
  | micbias
  | mic
  | hp
  | spk
  | line
  | switch
  | vmid
  | pre
  | post
  | supply
  | regulatorSupply
  | clockSupply
  | aifIn
  | aifOut
  | siggen
  | daiIn
  | daiOut
  | daiLink
  deriving DecidableEq, Repr

inductive SndSocBiasLevel
  | off
  | standby
  | prepare
  | on
  deriving DecidableEq, Repr

def SndSocBiasLevel.value : SndSocBiasLevel → Nat
  | off => 0
  | standby => 1
  | prepare => 2
  | on => 3

end AlsaDriver.Soc
