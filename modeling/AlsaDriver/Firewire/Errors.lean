import Mathlib.Algebra.Group.Nat.Hom

namespace AlsaDriver.Firewire

def EIO : Int := 5
def EAGAIN : Int := 11
def EBUSY : Int := 16
def EBADFD : Int := 77
def EISCONN : Int := 106
def ETIMEDOUT : Int := 110
def ECONNREFUSED : Int := 111
def ERESTARTSYS : Int := 512

end AlsaDriver.Firewire
