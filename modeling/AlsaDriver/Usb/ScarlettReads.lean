import AlsaDriver.Usb.ScarlettCache

namespace AlsaDriver.Usb.Scarlett

open Words

def EPERM : Int := 1
def EIO : Int := 5
def ENODEV : Int := 19
def EINVAL : Int := 22

def ACCESS_READ : Nat := 1
def ACCESS_WRITE : Nat := 2
def ACCESS_VOLATILE : Nat := 4
def ACCESS_TLV_READ : Nat := 16

def ACCESS_READWRITE : Nat := ACCESS_READ ||| ACCESS_WRITE

structure SndCtlElemValue where
  item : Nat → Nat
  integer : Nat → Int

/-- A message of `snd_usb_ctl_msg`, with the bytes that an OUT message carries. -/
structure UsbMsg where
  dirOut : Bool
  request : Request
  wValue : Nat
  wIndex : Nat
  data : List Nat
  deriving DecidableEq

structure Chip where
  ctrlIntf : Nat
  autoresume : List UsbMsg → Int
  shutdown : List UsbMsg → Bool
  ctlMsg : List UsbMsg → Int × (Nat → Nat)

structure Called where
  result : Int
  elem : Elem
  log : List UsbMsg
  value : SndCtlElemValue

namespace Chip

variable (chip : Chip)

def getCtlUrb2 (request : Request) (wValue index : Nat) (log : List UsbMsg) : Int × (Nat → Nat) × List UsbMsg :=
  if chip.autoresume log < 0 ∧ chip.autoresume log ≠ -ENODEV then ( - EIO, fun _ => 0, log)
  else if chip.shutdown log then (-ENODEV, fun _ => 0, log)
  else
    (min (chip.ctlMsg log).1 0, (chip.ctlMsg log).2, log ++ [⟨false, request, wValue, chip.ctrlIntf ||| index <<< 8, []⟩])

/-- The loop of `set_ctl_urb2`, the first argument is `timeout`. -/
def setLoop (msg : UsbMsg) : Nat → List UsbMsg → Int × List UsbMsg
  | 0, log => (-EINVAL, log)
  | timeout + 1, log =>
    if chip.shutdown log then (-EINVAL, log)
    else if 0 ≤ (chip.ctlMsg log).1 then (0, log ++ [msg])
    else setLoop msg timeout (log ++ [msg])

def setCtlUrb2 (request : Request) (wValue index : Nat) (buf : List Nat) (log : List UsbMsg) : Int × List UsbMsg :=
  if chip.autoresume log < 0 ∧ chip.autoresume log ≠ -ENODEV then ( - EIO, log)
  else chip.setLoop ⟨true, request, wValue, chip.ctrlIntf ||| index <<< 8, buf⟩ 10 log

end Chip

namespace Elem

variable (elem : Elem)

def keep (channel : Nat) (value : Int) : Elem :=
  { cached := fun i => i == channel || elem.cached i
    cacheVal := fun i => if i = channel then value else elem.cacheVal i }

end Elem

namespace Control

variable (c : Control) (chip : Chip)

def bytesOf (value : Int) : List Nat :=
  if c.valLen = 2 then [toUnsigned 8 value, toUnsigned 8 (value / 256)] else [toUnsigned 8 value]

def setCtlValue (channel : Nat) (value : Int) (elem : Elem) (log : List UsbMsg) : Int × Elem × List UsbMsg :=
  let sent := chip.setCtlUrb2 .cur (c.wValue + channel) c.index (c.bytesOf value) log
  if sent.1 < 0 then (sent.1, elem, sent.2) else (0, elem.keep channel value, sent.2)

def getCtlValue (channel : Nat) (elem : Elem) (log : List UsbMsg) : Int × Int × Elem × List UsbMsg :=
  if elem.cached channel then (0, elem.cacheVal channel, elem, log)
  else
    let received := chip.getCtlUrb2 .cur (c.wValue + channel) c.index log
    if received.1 < 0 then (received.1, 0, elem, received.2.2)
    else
      let value := c.decode (received.2.1 0, received.2.1 1)
      (0, value, elem.keep channel value, received.2.2)

/-- The loop of the `get` callbacks, `store` puts a value of the user into the union. -/
def getLoop (store : SndCtlElemValue → Nat → Int → SndCtlElemValue) :
    List Nat → Elem → List UsbMsg → SndCtlElemValue → Called
  | [], elem, log, value => ⟨0, elem, log, value⟩
  | channel :: rest, elem, log, value =>
    let read := c.getCtlValue chip channel elem log
    if read.1 < 0 then ⟨read.1, read.2.2.1, read.2.2.2, value⟩
    else getLoop store rest read.2.2.1 read.2.2.2 (store value channel (c.callbacks.userOf read.2.1))

/-- The loop of the `put` callbacks. -/
def putLoop : List Nat → Int → Elem → List UsbMsg → SndCtlElemValue → Called
  | [], changed, elem, log, value => ⟨changed, elem, log, value⟩
  | channel :: rest, changed, elem, log, value =>
    let read := c.getCtlValue chip channel elem log
    if read.1 < 0 then ⟨read.1, read.2.2.1, read.2.2.2, value⟩
    else
      let val := c.callbacks.rawOf (value.integer channel)
      if read.2.1 ≠ val then
        let written := c.setCtlValue chip channel val read.2.2.1 read.2.2.2
        if written.1 < 0 then ⟨written.1, written.2.1, written.2.2, value⟩
        else putLoop rest 1 written.2.1 written.2.2 value
      else putLoop rest changed read.2.2.1 read.2.2.2 value

def storeInteger (value : SndCtlElemValue) (i : Nat) (val : Int) : SndCtlElemValue :=
  { value with integer := fun j => if j = i then val else value.integer j }

def storeItem (value : SndCtlElemValue) (i : Nat) (val : Int) : SndCtlElemValue :=
  { value with item := fun j => if j = i then val.toNat else value.item j }

def scarlettCtlSwitchGet (elem : Elem) (value : SndCtlElemValue) : Called :=
  c.getLoop chip storeInteger (List.range c.count) elem [] value

def scarlettCtlSwitchPut (elem : Elem) (value : SndCtlElemValue) : Called :=
  c.putLoop chip (List.range c.count) 0 elem [] value

def scarlettCtlGet (elem : Elem) (value : SndCtlElemValue) : Called :=
  c.getLoop chip storeInteger (List.range c.count) elem [] value

def scarlettCtlPut (elem : Elem) (value : SndCtlElemValue) : Called :=
  c.putLoop chip (List.range c.count) 0 elem [] value

def scarlettCtlEnumGet (elem : Elem) (value : SndCtlElemValue) : Called := c.getLoop chip storeItem [0] elem [] value

def scarlettCtlEnumPut (elem : Elem) (value : SndCtlElemValue) : Called := c.putLoop chip [0] 0 elem [] value

def scarlettCtlSaveGet (elem : Elem) (value : SndCtlElemValue) : Called := ⟨0, elem, [], storeItem value 0 0⟩

def scarlettCtlSavePut (elem : Elem) (value : SndCtlElemValue) : Called :=
  if 0 < value.item 0 then
    let sent := chip.setCtlUrb2 .mem 0x005a 0x3c [0xa5] []
    ⟨min sent.1 0, elem, sent.2, value⟩
  else ⟨0, elem, [], value⟩

def scarlettCtlMeterGet (elem : Elem) (value : SndCtlElemValue) : Called :=
  let received := chip.getCtlUrb2 .mem c.wValue c.index []
  if received.1 < 0 then ⟨received.1, elem, received.2.2, value⟩
  else if c.valLen = 1 then ⟨0, elem, received.2.2, storeItem value 0 (clamp (received.2.1 0) 0 1)⟩
  else
    let val (i : Nat) : Int := toSigned 16 (received.2.1 (2 * i) + received.2.1 (2 * i + 1) * 256 : Nat)
    ⟨0, elem, received.2.2, (List.range c.count).foldl (fun value i => storeInteger value i (clamp ((val i).tdiv 256) 0 255)) value⟩

end Control

inductive Callback where
  | switchGet | switchPut
  | ctlGet | ctlPut
  | enumGet | enumPut
  | saveGet | savePut
  | meterGet
  deriving DecidableEq

def Callback.call (c : Control) (chip : Chip) (elem : Elem) (value : SndCtlElemValue) : Callback → Called
  | .switchGet => c.scarlettCtlSwitchGet chip elem value
  | .switchPut => c.scarlettCtlSwitchPut chip elem value
  | .ctlGet => c.scarlettCtlGet chip elem value
  | .ctlPut => c.scarlettCtlPut chip elem value
  | .enumGet => c.scarlettCtlEnumGet chip elem value
  | .enumPut => c.scarlettCtlEnumPut chip elem value
  | .saveGet => Control.scarlettCtlSaveGet elem value
  | .savePut => Control.scarlettCtlSavePut chip elem value
  | .meterGet => c.scarlettCtlMeterGet chip elem value

structure SndKcontrolNew where
  access : Nat
  get : Option Callback
  put : Option Callback
  deriving DecidableEq

inductive Designation where
  | access (bits : Nat)
  | get (callback : Callback)
  | put (callback : Callback)

def initializer (designations : List Designation) : SndKcontrolNew :=
  designations.foldl (fun template designation =>
    match designation with
    | .access bits => { template with access := bits }
    | .get callback => { template with get := some callback }
    | .put callback => { template with put := some callback }) ⟨0, none, none⟩

def usbScarlettCtlSwitch : SndKcontrolNew := initializer [.get .switchGet, .put .switchPut]

def usbScarlettCtl : SndKcontrolNew :=
  initializer [.access (ACCESS_READWRITE ||| ACCESS_TLV_READ), .get .ctlGet, .put .ctlPut]

def usbScarlettCtlMaster : SndKcontrolNew :=
  initializer [.access (ACCESS_READWRITE ||| ACCESS_TLV_READ), .get .ctlGet, .put .ctlPut]

example : usbScarlettCtlMaster = usbScarlettCtl := rfl

def usbScarlettCtlEnum : SndKcontrolNew := initializer [.get .enumGet, .put .enumPut]

def usbScarlettCtlSync : SndKcontrolNew := initializer [.access (ACCESS_READ ||| ACCESS_VOLATILE), .get .meterGet]

def usbScarlettCtlSave : SndKcontrolNew := initializer [.get .saveGet, .get .savePut]

def Callbacks.template : Callbacks → SndKcontrolNew
  | .ctlSwitch => usbScarlettCtlSwitch
  | .ctl _ => usbScarlettCtl
  | .ctlEnum _ => usbScarlettCtlEnum
  | .ctlSync _ => usbScarlettCtlSync
  | .ctlSave _ => usbScarlettCtlSave

/-- The access that `snd_ctl_new1` gives a control. -/
def SndKcontrolNew.newAccess (template : SndKcontrolNew) : Nat :=
  if template.access = 0 then ACCESS_READWRITE else template.access

namespace Control

variable (c : Control) (chip : Chip) (elem : Elem) (value : SndCtlElemValue)

def sndCtlElemRead : Called :=
  match c.callbacks.template.get with
  | some get => if c.callbacks.template.newAccess &&& ACCESS_READ ≠ 0 then get.call c chip elem value else ⟨-EPERM, elem, [], value⟩
  | none => ⟨-EPERM, elem, [], value⟩

/-- `snd_ctl_elem_write`, by a file that may write the control. -/
def sndCtlElemWrite : Called :=
  match c.callbacks.template.put with
  | some put => if c.callbacks.template.newAccess &&& ACCESS_WRITE ≠ 0 then put.call c chip elem value else ⟨-EPERM, elem, [], value⟩
  | none => ⟨-EPERM, elem, [], value⟩

end Control

end AlsaDriver.Usb.Scarlett

namespace AlsaDriver.Usb.Scarlett

def Quiet (log : List UsbMsg) : Prop := ∀ msg ∈ log, msg.dirOut = false

def Chip.Reachable (chip : Chip) : Prop :=
  ¬ (chip.autoresume [] < 0 ∧ chip.autoresume [] ≠ -ENODEV) ∧ chip.shutdown [] = false

instance (chip : Chip) : Decidable chip.Reachable := inferInstanceAs (Decidable (_ ∧ _))

def Chip.saveCommand (chip : Chip) : UsbMsg := ⟨true, .mem, 0x005a, chip.ctrlIntf ||| 0x3c <<< 8, [0xa5]⟩

variable {chip : Chip} {c : Control} {log : List UsbMsg}

theorem Quiet.append {msg : UsbMsg} (quiet : Quiet log) (asks : msg.dirOut = false) : Quiet (log ++ [msg]) := by
  intro m inside
  rcases List.mem_append.mp inside with old | new
  · exact quiet m old
  · rw [List.mem_singleton.mp new]
    exact asks

theorem quiet_nil : Quiet [] := fun _ none => absurd none List.not_mem_nil

theorem getCtlUrb2_quiet (chip : Chip) (quiet : Quiet log) (request : Request) (wValue index : Nat) :
    Quiet (chip.getCtlUrb2 request wValue index log).2.2 := by
  unfold Chip.getCtlUrb2
  split
  · exact quiet
  · split
    · exact quiet
    · exact quiet.append rfl

namespace Control

theorem getCtlValue_quiet (c : Control) (chip : Chip) (quiet : Quiet log) (channel : Nat) (elem : Elem) :
    Quiet (c.getCtlValue chip channel elem log).2.2.2 := by
  have received := getCtlUrb2_quiet chip quiet .cur (c.wValue + channel) c.index
  unfold getCtlValue
  dsimp only
  split
  · exact quiet
  · split
    · exact received
    · exact received

theorem getLoop_quiet (store : SndCtlElemValue → Nat → Int → SndCtlElemValue) (channels : List Nat) {elem : Elem}
    {value : SndCtlElemValue} (quiet : Quiet log) : Quiet (c.getLoop chip store channels elem log value).log := by
  induction channels generalizing elem log value with
  | nil => exact quiet
  | cons channel rest ih =>
    have read := getCtlValue_quiet c chip quiet channel elem
    rw [getLoop]
    split
    · exact read
    · exact ih read

theorem meterGet_quiet (elem : Elem) (value : SndCtlElemValue) : Quiet (c.scarlettCtlMeterGet chip elem value).log := by
  have received := getCtlUrb2_quiet chip quiet_nil .mem c.wValue c.index
  unfold scarlettCtlMeterGet
  dsimp only
  split
  · exact received
  · split
    · exact received
    · exact received

end Control

theorem setLoop_keeps {msg m : UsbMsg} (timeout : Nat) (inside : m ∈ log) : m ∈ (chip.setLoop msg timeout log).2 := by
  induction timeout generalizing log with
  | zero => exact inside
  | succ timeout ih =>
    have kept : m ∈ log ++ [msg] := List.mem_append_left _ inside
    rw [Chip.setLoop]
    split
    · exact inside
    · split
      · exact kept
      · exact ih kept

theorem setCtlUrb2_sends (chip : Chip) (request : Request) (wValue index : Nat) (buf : List Nat) :
    if chip.Reachable then
      ⟨true, request, wValue, chip.ctrlIntf ||| index <<< 8, buf⟩ ∈ (chip.setCtlUrb2 request wValue index buf []).2
    else (chip.setCtlUrb2 request wValue index buf []).2 = [] := by
  rw [Chip.setCtlUrb2]
  split
  · rename_i reach
    rw [if_neg reach.1, Chip.setLoop, if_neg (by rw [reach.2]; exact Bool.false_ne_true)]
    split
    · exact List.mem_singleton.mpr rfl
    · exact setLoop_keeps 9 (List.mem_singleton.mpr rfl)
  · rename_i lost
    by_cases resumes : chip.autoresume [] < 0 ∧ chip.autoresume [] ≠ -ENODEV
    · rw [if_pos resumes]
    · have shut : chip.shutdown [] = true := by
        by_contra running
        exact lost ⟨resumes, Bool.eq_false_iff.mpr running⟩
      rw [if_neg resumes, Chip.setLoop, if_pos shut]

namespace Control

def IsSave (c : Control) : Prop := ∃ opt, c.callbacks = .ctlSave opt

structure Sound (c : Control) (chip : Chip) (elem : Elem) (value : SndCtlElemValue) : Prop where
  read : Quiet (c.sndCtlElemRead chip elem value).log
  save : c.IsSave → 0 < value.item 0 → chip.Reachable → chip.saveCommand ∈ (c.sndCtlElemWrite chip elem value).log

theorem elemRead_get {get : Callback} (named : c.callbacks.template.get = some get) (elem : Elem) (value : SndCtlElemValue) :
    c.sndCtlElemRead chip elem value = get.call c chip elem value := by
  have readable : c.callbacks.template.newAccess &&& ACCESS_READ ≠ 0 := by
    cases c.callbacks with
    | ctlSwitch => exact (by decide : usbScarlettCtlSwitch.newAccess &&& ACCESS_READ ≠ 0)
    | ctl maxValue => exact (by decide : usbScarlettCtl.newAccess &&& ACCESS_READ ≠ 0)
    | ctlEnum opt => exact (by decide : usbScarlettCtlEnum.newAccess &&& ACCESS_READ ≠ 0)
    | ctlSync opt => exact (by decide : usbScarlettCtlSync.newAccess &&& ACCESS_READ ≠ 0)
    | ctlSave opt => exact (by decide : usbScarlettCtlSave.newAccess &&& ACCESS_READ ≠ 0)
  rw [sndCtlElemRead, named]
  exact if_pos readable

theorem read_other (other : ¬ c.IsSave) (elem : Elem) (value : SndCtlElemValue) :
    Quiet (c.sndCtlElemRead chip elem value).log := by
  cases kind : c.callbacks with
  | ctlSwitch =>
    rw [elemRead_get (congrArg (fun callbacks => callbacks.template.get) kind)]
    exact getLoop_quiet storeInteger _ quiet_nil
  | ctl maxValue =>
    rw [elemRead_get (congrArg (fun callbacks => callbacks.template.get) kind)]
    exact getLoop_quiet storeInteger _ quiet_nil
  | ctlEnum opt =>
    rw [elemRead_get (congrArg (fun callbacks => callbacks.template.get) kind)]
    exact getLoop_quiet storeItem _ quiet_nil
  | ctlSync opt =>
    rw [elemRead_get (congrArg (fun callbacks => callbacks.template.get) kind)]
    exact meterGet_quiet elem value
  | ctlSave opt => exact absurd ⟨opt, kind⟩ other

theorem read_save (chip : Chip) (save : c.IsSave) (elem : Elem) (value : SndCtlElemValue) :
    c.sndCtlElemRead chip elem value = scarlettCtlSavePut chip elem value ∧
      (c.sndCtlElemWrite chip elem value).log = [] := by
  obtain ⟨opt, kind⟩ := save
  refine ⟨elemRead_get (congrArg (fun callbacks => callbacks.template.get) kind) elem value, ?_⟩
  rw [sndCtlElemWrite, kind]
  rfl

theorem sound_iff (c : Control) (chip : Chip) (elem : Elem) (value : SndCtlElemValue) :
    c.Sound chip elem value ↔ (c.IsSave → 0 < value.item 0 → ¬ chip.Reachable) := by
  by_cases save : c.IsSave
  · obtain ⟨read, write⟩ := read_save chip save elem value
    rw [forall_prop_of_true save]
    constructor
    · intro sound some reach
      have command := sound.save save some reach
      rw [write] at command
      exact List.not_mem_nil command
    · intro none
      refine ⟨?_, fun _ some reach => absurd reach (none some)⟩
      rw [read, scarlettCtlSavePut]
      split
      · rename_i some
        have sends := setCtlUrb2_sends chip .mem 0x005a 0x3c [0xa5]
        rw [if_neg (none some)] at sends
        dsimp only
        rw [sends]
        exact quiet_nil
      · exact quiet_nil
  · exact iff_of_true ⟨read_other save elem value, fun yes => absurd yes save⟩ fun yes => absurd yes save

end Control

namespace DeviceInfo

variable {info : DeviceInfo}

theorem deviceControls_other (member : c ∈ info.deviceControls) : ¬ c.IsSave := by
  rintro ⟨opt, kind⟩
  rcases List.mem_append.mp member with output | input
  · obtain ⟨output, -, listed⟩ := List.mem_flatMap.mp output
    simp only [addOutputCtls, List.mem_cons, List.not_mem_nil, or_false] at listed
    rcases listed with rfl | rfl | rfl | rfl
    · cases kind
    · cases kind
    · cases kind
    · cases kind
  · obtain ⟨switch, -, rfl⟩ := List.mem_map.mp input
    cases switch with
    | impedance n => cases kind
    | pad n => cases kind

theorem isSave_iff (member : c ∈ info.scarlettMixerControls) : c.IsSave ↔ c = saveToHw := by
  constructor
  · intro save
    simp only [scarlettMixerControls, List.mem_append, List.mem_cons, List.not_mem_nil, or_false] at member
    rcases member with (((master | output) | matrix) | source) | last
    · obtain ⟨opt, kind⟩ := save
      rcases master with rfl | rfl
      · cases kind
      · cases kind
    · exact absurd save (deviceControls_other output)
    · obtain ⟨opt, kind⟩ := save
      obtain ⟨i, -, listed⟩ := List.mem_flatMap.mp matrix
      rcases List.mem_cons.mp listed with rfl | mix
      · cases kind
      · obtain ⟨o, -, rfl⟩ := List.mem_map.mp mix
        cases kind
    · obtain ⟨opt, kind⟩ := save
      obtain ⟨i, -, rfl⟩ := List.mem_map.mp source
      cases kind
    · obtain ⟨opt, kind⟩ := save
      rcases last with rfl | rfl | same
      · cases kind
      · cases kind
      · exact same
  · rintro rfl
    exact ⟨optSave, rfl⟩

/-- A control that the driver creates is sound for all but the values that save. -/
theorem created_sound_iff (member : c ∈ info.scarlettMixerControls) (chip : Chip) (elem : Elem) (value : SndCtlElemValue) :
    c.Sound chip elem value ↔ (c = saveToHw → 0 < value.item 0 → ¬ chip.Reachable) := by
  rw [Control.sound_iff, isSave_iff member]

def answering : Chip := ⟨0, fun _ => 0, fun _ => false, fun _ => (2, fun _ => 0)⟩

def uncached : Elem := ⟨fun _ => false, fun _ => 0⟩

def firstItem : SndCtlElemValue := ⟨fun _ => 1, fun _ => 1⟩

theorem created_sound_master : masterVolume.Sound answering uncached firstItem := by
  have member : masterVolume ∈ s18i6Info.scarlettMixerControls := by simp [scarlettMixerControls]
  refine (created_sound_iff member answering uncached firstItem).mpr fun same => ?_
  cases congrArg Control.callbacks same

/-- Reading the control that saves, with the item set, saves. -/
theorem read_saves : ¬ ∀ info ∈ [s8i6Info, s18i6Info, s18i8Info, s18i20Info], ∀ c ∈ info.scarlettMixerControls,
    ∀ (chip : Chip) (elem : Elem) (value : SndCtlElemValue), c.Sound chip elem value := by
  intro all
  have member : saveToHw ∈ s18i6Info.scarlettMixerControls := by simp [scarlettMixerControls]
  have sound := all s18i6Info (by simp) saveToHw member answering uncached firstItem
  exact absurd (sound.read answering.saveCommand (by decide)) (by decide)

end DeviceInfo

end AlsaDriver.Usb.Scarlett
