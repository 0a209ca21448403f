import Mathlib.Data.List.Basic

namespace AlsaDriver.Usb.Scarlett

inductive Request where
  | cur
  | mem
  deriving DecidableEq

structure EnumInfo where
  start : Int
  len : Int
  deriving DecidableEq

def optPad : EnumInfo := { start := 0, len := 2 }
def optImpedance : EnumInfo := { start := 0, len := 2 }
def optClock : EnumInfo := { start := 1, len := 3 }
def optSync : EnumInfo := { start := 0, len := 2 }
def optSave : EnumInfo := { start := 0, len := 2 }

/-- The `snd_kcontrol_new` of a control, with its private value or its options. -/
inductive Callbacks where
  | ctlSwitch
  | ctl (maxValue : Int)
  | ctlEnum (opt : EnumInfo)
  | ctlSync (opt : EnumInfo)
  | ctlSave (opt : EnumInfo)
  deriving DecidableEq

/-- What `add_new_ctl` and the calls of `init_ctl` that follow it are given. -/
structure Control where
  callbacks : Callbacks
  index : Nat
  wValue : Nat
  valLen : Nat
  count : Nat
  name : List Char
  inits : List Int

def snprintf (size : Nat) (text : List Char) : List Char := text.take (size - 1)

/-- `%d`. -/
def decimal (n : Nat) : List Char := Nat.toDigits 10 n

/-- `%02d`. -/
def decimal2 (n : Nat) : List Char := if n < 10 then '0' :: decimal n else decimal n

def addNewCtl (callbacks : Callbacks) (index offset num valLen count : Nat) (name : List Char) (inits : List Int) : Control :=
  { callbacks, index, wValue := offset <<< 8 ||| num, valLen, count, name := snprintf 44 name, inits }

def ctlSwitch (cmd off no count : Nat) (name : List Char) : Control := addNewCtl .ctlSwitch cmd off no 2 count name []

def ctlEnum (cmd off no : Nat) (name : List Char) (opt : EnumInfo) (inits : List Int) : Control :=
  addNewCtl (.ctlEnum opt) cmd off no 2 1 name inits

def ctlMixer (cmd off no count : Nat) (name : List Char) (inits : List Int) : Control :=
  addNewCtl (.ctl 6) cmd off no 2 count name (-32768 :: inits)

def ctlMaster (cmd off no count : Nat) (name : List Char) : Control := addNewCtl (.ctl 6) cmd off no 2 count name [0]

inductive InputSwitch where
  | impedance (n : Nat)
  | pad (n : Nat)
  deriving DecidableEq

def InputSwitch.number : InputSwitch → Nat
  | .impedance n => n
  | .pad n => n

structure ControlsFn where
  outputs : List (List Char)
  inputSwitches : List InputSwitch
  distinct : inputSwitches.Nodup
  numbered : ∀ s ∈ inputSwitches, s.number < 10

structure DeviceInfo where
  matrixIn : Nat
  matrixOut : Nat
  inputLen : Nat
  pcmStart : Int
  analogStart : Int
  mixStart : Int
  optMaster : EnumInfo
  optMatrix : EnumInfo
  controlsFn : ControlsFn
  matrixMuxInit : List Int

def masterSwitch : Control := ctlSwitch 0x0a 0x01 0 1 "Master Playback Switch".toList

def masterVolume : Control := ctlMaster 0x0a 0x02 0 1 "Master Playback Volume".toList

def outputSwitchName (index : Nat) (name : List Char) : List Char :=
  "Master ".toList ++ decimal (index + 1) ++ " (".toList ++ name ++ ") Playback Switch".toList

def outputVolumeName (index : Nat) (name : List Char) : List Char :=
  "Master ".toList ++ decimal (index + 1) ++ " (".toList ++ name ++ ") Playback Volume".toList

def outputSourceName (side : Char) (index : Nat) (name : List Char) : List Char :=
  "Master ".toList ++ decimal (index + 1) ++ side :: " (".toList ++ name ++ ") Source Playback Enum".toList

def matrixRouteName (i : Nat) : List Char := "Matrix ".toList ++ decimal2 (i + 1) ++ " Input Playback Route".toList

def matrixMixName (i o : Nat) : List Char :=
  "Matrix ".toList ++ decimal2 (i + 1) ++ " Mix ".toList ++ Char.ofNat ((o + 65) % 256) :: " Playback Volume".toList

def inputSourceName (i : Nat) : List Char := "Input Source ".toList ++ decimal2 (i + 1) ++ " Capture Route".toList

def inputSwitchName : InputSwitch → List Char
  | .impedance n => "Input ".toList ++ decimal n ++ " Impedance Switch".toList
  | .pad n => "Input ".toList ++ decimal n ++ " Pad Switch".toList

namespace DeviceInfo

variable (info : DeviceInfo)

def outputSwitch (index : Nat) (name : List Char) : Control :=
  ctlSwitch 0x0a 0x01 (2 * index + 1) 2 (snprintf 45 (outputSwitchName index name))

def outputVolume (index : Nat) (name : List Char) : Control :=
  ctlMaster 0x0a 0x02 (2 * index + 1) 2 (snprintf 45 (outputVolumeName index name))

def outputLeft (index : Nat) (name : List Char) : Control :=
  ctlEnum 0x33 0x00 (2 * index) (snprintf 45 (outputSourceName 'L' index name)) info.optMaster [info.mixStart]

def outputRight (index : Nat) (name : List Char) : Control :=
  ctlEnum 0x33 0x00 (2 * index + 1) (snprintf 45 (outputSourceName 'R' index name)) info.optMaster [info.mixStart + 1]

def addOutputCtls (index : Nat) (name : List Char) : List Control :=
  [outputSwitch index name, outputVolume index name, info.outputLeft index name, info.outputRight index name]

def inputSwitch : InputSwitch → Control
  | .impedance n => ctlEnum 0x01 0x09 n (inputSwitchName (.impedance n)) optImpedance []
  | .pad n => ctlEnum 0x01 0x0b n (inputSwitchName (.pad n)) optPad []

def deviceControls : List Control :=
  info.controlsFn.outputs.zipIdx.flatMap (fun output => info.addOutputCtls output.2 output.1) ++
    info.controlsFn.inputSwitches.map inputSwitch

def matrixRoute (i : Nat) : Control :=
  ctlEnum 0x32 0x06 i (snprintf 32 (matrixRouteName i)) info.optMatrix [info.matrixMuxInit.getD i 0]

def initHack (i o : Nat) : Bool :=
  o == 0 && info.matrixMuxInit.getD i 0 == info.pcmStart || o == 1 && info.matrixMuxInit.getD i 0 == info.pcmStart + 1

def matrixMix (i o : Nat) : Control :=
  ctlMixer 0x3c 0x00 (i <<< 3 + (o &&& 0x07)) 1 (matrixMixName i o) (if info.initHack i o then [0] else [])

def matrixCtls (i : Nat) : List Control := info.matrixRoute i :: (List.range info.matrixOut).map (info.matrixMix i)

def inputSource (i : Nat) : Control :=
  ctlEnum 0x34 0x00 i (snprintf 32 (inputSourceName i)) info.optMaster [info.analogStart + i]

def clockSource : Control := addNewCtl (.ctlEnum optClock) 0x28 0x01 0 1 1 "Sample Clock Source".toList []

def clockSync : Control := addNewCtl (.ctlSync optSync) 0x3c 0x00 2 1 1 "Sample Clock Sync Status".toList []

def saveToHw : Control := addNewCtl (.ctlSave optSave) 0x3c 0x00 0x5a 1 1 "Save To HW".toList []

def scarlettMixerControls : List Control :=
  [masterSwitch, masterVolume] ++ info.deviceControls ++ (List.range info.matrixIn).flatMap info.matrixCtls ++
    (List.range info.inputLen).map info.inputSource ++ [clockSource, clockSync, saveToHw]

end DeviceInfo

theorem s8i6_distinct : [InputSwitch.impedance 1, .impedance 2, .pad 3, .pad 4].Nodup := by decide

theorem s8i6_numbered : ∀ s ∈ [InputSwitch.impedance 1, .impedance 2, .pad 3, .pad 4], s.number < 10 := by decide

def scarletS8i6Controls : ControlsFn :=
  { outputs := ["Monitor".toList, "Headphone".toList, "SPDIF".toList]
    inputSwitches := [.impedance 1, .impedance 2, .pad 3, .pad 4]
    distinct := s8i6_distinct
    numbered := s8i6_numbered }

theorem s18i6_distinct : [InputSwitch.impedance 1, .impedance 2].Nodup := by decide

theorem s18i6_numbered : ∀ s ∈ [InputSwitch.impedance 1, .impedance 2], s.number < 10 := by decide

def scarletS18i6Controls : ControlsFn :=
  { outputs := ["Monitor".toList, "Headphone".toList, "SPDIF".toList]
    inputSwitches := [.impedance 1, .impedance 2]
    distinct := s18i6_distinct
    numbered := s18i6_numbered }

theorem s18i8_distinct : [InputSwitch.impedance 1, .pad 1, .impedance 2, .pad 2, .pad 3, .pad 4].Nodup := by decide

theorem s18i8_numbered :
    ∀ s ∈ [InputSwitch.impedance 1, .pad 1, .impedance 2, .pad 2, .pad 3, .pad 4], s.number < 10 := by decide

def scarletS18i8Controls : ControlsFn :=
  { outputs := ["Monitor".toList, "Headphone 1".toList, "Headphone 2".toList, "SPDIF".toList]
    inputSwitches := [.impedance 1, .pad 1, .impedance 2, .pad 2, .pad 3, .pad 4]
    distinct := s18i8_distinct
    numbered := s18i8_numbered }

theorem s18i20_numbered : ∀ s ∈ ([] : List InputSwitch), s.number < 10 := by decide

def scarletS18i20Controls : ControlsFn :=
  { outputs :=
      ["Monitor".toList, "Line 3/4".toList, "Line 5/6".toList, "Line 7/8".toList, "Line 9/10".toList, "SPDIF".toList,
        "ADAT 1/2".toList, "ADAT 3/4".toList, "ADAT 5/6".toList, "ADAT 7/8".toList]
    inputSwitches := []
    distinct := .nil
    numbered := s18i20_numbered }

def s8i6Info : DeviceInfo :=
  { matrixIn := 18
    matrixOut := 6
    inputLen := 8
    pcmStart := 0
    analogStart := 12
    mixStart := 18
    optMaster := { start := -1, len := 25 }
    optMatrix := { start := -1, len := 19 }
    controlsFn := scarletS8i6Controls
    matrixMuxInit := [12, 13, 14, 15, 16, 17, 0, 1, 2, 3, 4, 5, 6, 7, 8, 9, 10, 11] }

def s18i6Info : DeviceInfo :=
  { matrixIn := 18
    matrixOut := 6
    inputLen := 18
    pcmStart := 0
    analogStart := 6
    mixStart := 24
    optMaster := { start := -1, len := 31 }
    optMatrix := { start := -1, len := 25 }
    controlsFn := scarletS18i6Controls
    matrixMuxInit := [6, 7, 8, 9, 10, 11, 12, 13, 16, 17, 18, 19, 20, 21, 14, 15, 0, 1] }

def s18i8Info : DeviceInfo :=
  { matrixIn := 18
    matrixOut := 8
    inputLen := 18
    pcmStart := 0
    analogStart := 8
    mixStart := 26
    optMaster := { start := -1, len := 35 }
    optMatrix := { start := -1, len := 27 }
    controlsFn := scarletS18i8Controls
    matrixMuxInit := [8, 9, 10, 11, 12, 13, 14, 15, 18, 19, 20, 21, 22, 23, 16, 17, 0, 1] }

def s18i20Info : DeviceInfo :=
  { matrixIn := 18
    matrixOut := 16
    inputLen := 18
    pcmStart := 0
    analogStart := 20
    mixStart := 38
    optMaster := { start := -1, len := 55 }
    optMatrix := { start := -1, len := 39 }
    controlsFn := scarletS18i20Controls
    matrixMuxInit := [20, 21, 22, 23, 24, 25, 26, 27, 30, 31, 32, 33, 34, 35, 28, 29, 0, 1] }

end AlsaDriver.Usb.Scarlett
