import Mathlib.Tactic.TypeStar

namespace AlsaDriver.Pcm

/-- `snd_pcm_state_t`. -/
inductive SndPcmState where
  | open
  | setup
  | prepared
  | running
  | xrun
  | draining
  | paused
  | suspended
  | disconnected
  deriving DecidableEq, Repr

inductive StreamDirection where
  | playback
  | capture
  deriving DecidableEq, Repr

def EAGAIN : Int := 11
def ENOMEM : Int := 12
def EBUSY : Int := 16
def EPIPE : Int := 32
def ENOSYS : Int := 38
def EBADFD : Int := 77
def ESTRPIPE : Int := 86
def EALREADY : Int := 114

end AlsaDriver.Pcm
