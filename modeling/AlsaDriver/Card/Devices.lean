import Mathlib
import AlsaDriver.Lib.Runs

namespace AlsaDriver.Card.Devices

open Runs

def ENXIO : Int := 6
def ENOMEM : Int := 12
def EBUSY : Int := 16

def devTypeRangeSize : Nat := 0x1000

inductive DevState where
  | build
  | registered
  | disconnected
deriving DecidableEq

structure SndDeviceOps where
  devFree : Bool
  devRegister : Bool
  devDisconnect : Bool

structure SndDevice where
  id : Nat
  type : Nat
  state : DevState
  data : Nat
  ops : SndDeviceOps

inductive Callback where
  | register (ok : Bool)
  | disconnect
  | free
deriving DecidableEq

structure SndCard where
  devices : List SndDevice
  made : List SndDeviceOps
  calls : List (Nat × Callback)

namespace SndDevice

variable (dev : SndDevice)

def closing : List (Nat × Callback) :=
  (if dev.state = .registered ∧ dev.ops.devDisconnect = true then [(dev.id, .disconnect)] else []) ++
    if dev.ops.devFree then [(dev.id, .free)] else []

/-- `result` is what `dev_register` returns. -/
def registering (result : Int) : SndDevice × List (Nat × Callback) :=
  if dev.state = .build ∧ dev.ops.devRegister = true then
    if result < 0 then (dev, [(dev.id, .register false)])
    else ({ dev with state := .registered }, [(dev.id, .register true)])
  else (dev, [])

def disconnecting : SndDevice × List (Nat × Callback) :=
  if dev.state = .registered ∧ dev.ops.devDisconnect = true then
    ({ dev with state := .disconnected }, [(dev.id, .disconnect)])
  else (dev, [])

def inRange (cmd : Nat) : Bool :=
  cmd * devTypeRangeSize ≤ dev.type && dev.type ≤ cmd * devTypeRangeSize + devTypeRangeSize - 1

end SndDevice

namespace SndCard

variable (card : SndCard)

/-- `allocated` is whether there is memory for the device. -/
def sndDeviceNew (allocated : Bool) (type data : Nat) (ops : SndDeviceOps) : Int × SndCard :=
  if data = 0 then ( - ENXIO, card)
  else if allocated = false then (-ENOMEM, card)
  else
    (0, { card with
      devices := ⟨card.made.length, type, .build, data, ops⟩ :: card.devices
      made := card.made ++ [ops] })

def has (data : Nat) (dev : SndDevice) : Bool := dev.data == data

def sndDeviceFree (data : Nat) : Int × SndCard :=
  if data = 0 then ( - ENXIO, card)
  else
    match card.devices.find? (has data) with
    | some dev => (0, { card with devices := card.devices.eraseP (has data), calls := card.calls ++ dev.closing })
    | none => ( - ENXIO, card)

/-- `changed` in the place of the first device with the data. -/
def replaceFirst (data : Nat) (changed : SndDevice) : List SndDevice → List SndDevice
  | [] => []
  | dev :: rest => if dev.data = data then changed :: rest else dev :: replaceFirst data changed rest

def sndDeviceDisconnect (data : Nat) : Int × SndCard :=
  if data = 0 then ( - ENXIO, card)
  else
    match card.devices.find? (has data) with
    | some dev =>
      (0, { card with
        devices := replaceFirst data dev.disconnecting.1 card.devices
        calls := card.calls ++ dev.disconnecting.2 })
    | none => ( - ENXIO, card)

def sndDeviceRegister (data : Nat) (result : Int) : Int × SndCard :=
  if data = 0 then ( - ENXIO, card)
  else
    match card.devices.find? (has data) with
    | some dev =>
      if dev.state = .build ∧ dev.ops.devRegister = true then
        (if result < 0 then result else 0, { card with
          devices := replaceFirst data (dev.registering result).1 card.devices
          calls := card.calls ++ (dev.registering result).2 })
      else (-EBUSY, card)
    | none => ( - ENXIO, card)

/-- The loop of `snd_device_register_all`, with what `dev_register` returns for each device: the error, the devices and the
    calls. -/
def registerLoop (result : Nat → Int) : List SndDevice → Int × List SndDevice × List (Nat × Callback)
  | [] => (0, [], [])
  | dev :: rest =>
    if dev.state = .build ∧ dev.ops.devRegister = true ∧ result dev.id < 0 then
      (result dev.id, dev :: rest, (dev.registering (result dev.id)).2)
    else
      let (err, devices, calls) := registerLoop result rest
      (err, (dev.registering (result dev.id)).1 :: devices, (dev.registering (result dev.id)).2 ++ calls)

def sndDeviceRegisterAll (result : Nat → Int) : Int × SndCard :=
  let (err, devices, calls) := registerLoop result card.devices
  (err, { card with devices := devices, calls := card.calls ++ calls })

def disconnectLoop : List Nat → Int → SndCard → Int × SndCard
  | [], err, card => (err, card)
  | data :: rest, err, card =>
    disconnectLoop rest (if (card.sndDeviceDisconnect data).1 < 0 then - ENXIO else err) (card.sndDeviceDisconnect data).2

def sndDeviceDisconnectAll : Int × SndCard := disconnectLoop (card.devices.map SndDevice.data) 0 card

/-- The loop of `snd_device_free_all`; nothing where it has not ended after `fuel` turns. -/
def freeLoop (cmd : Nat) : Nat → SndCard → Option (Int × SndCard)
  | 0, card => if card.devices.any (·.inRange cmd) then none else some (0, card)
  | fuel + 1, card =>
    match card.devices.find? (·.inRange cmd) with
    | none => some (0, card)
    | some dev =>
      if (card.sndDeviceFree dev.data).1 < 0 then some (card.sndDeviceFree dev.data)
      else freeLoop cmd fuel (card.sndDeviceFree dev.data).2

def sndDeviceFreeAll (cmd : Nat) : Option (Int × SndCard) := freeLoop cmd card.devices.length card

end SndCard

inductive DeviceOp where
  | new (allocated : Bool) (type data : Nat) (ops : SndDeviceOps)
  | register (data : Nat) (result : Int)
  | registerAll (result : Nat → Int)
  | disconnect (data : Nat)
  | disconnectAll
  | free (data : Nat)
  | freeAll (cmd : Nat)

namespace SndCard

variable (card : SndCard)

def answer : DeviceOp → Option (Int × SndCard)
  | .new allocated type data ops => some (card.sndDeviceNew allocated type data ops)
  | .register data result => some (card.sndDeviceRegister data result)
  | .registerAll result => some (card.sndDeviceRegisterAll result)
  | .disconnect data => some (card.sndDeviceDisconnect data)
  | .disconnectAll => some card.sndDeviceDisconnectAll
  | .free data => some (card.sndDeviceFree data)
  | .freeAll cmd => card.sndDeviceFreeAll cmd

def exec (op : DeviceOp) : SndCard := ((card.answer op).map Prod.snd).getD card

def Allowed : DeviceOp → Prop
  | .new _ _ data _ => data ∉ card.devices.map SndDevice.data
  | _ => True

end SndCard

inductive Stage where
  | here (state : DevState)
  | gone
deriving DecidableEq

/-- The calls of a device in its life: its registration is tried until it succeeds, then it is disconnected once at most, and
    freed at the very end. -/
inductive Lives (ops : SndDeviceOps) : Stage → List Callback → Prop where
  | build : Lives ops (.here .build) []
  | refused {calls : List Callback} : ops.devRegister = true → Lives ops (.here .build) calls →
    Lives ops (.here .build) (calls ++ [.register false])
  | registered {calls : List Callback} : ops.devRegister = true → Lives ops (.here .build) calls →
    Lives ops (.here .registered) (calls ++ [.register true])
  | disconnected {calls : List Callback} : ops.devDisconnect = true → Lives ops (.here .registered) calls →
    Lives ops (.here .disconnected) (calls ++ [.disconnect])
  | gone {calls : List Callback} {state : DevState} : Lives ops (.here state) calls →
    Lives ops .gone (calls ++
      (if state = .registered ∧ ops.devDisconnect = true then [.disconnect] else []) ++
      if ops.devFree then [.free] else [])

namespace SndCard

variable (card : SndCard)

def callsOf (id : Nat) (calls : List (Nat × Callback)) : List Callback := (calls.filter fun call => call.1 = id).map Prod.snd

structure Lived : Prop where
  here : ∀ dev ∈ card.devices, Lives dev.ops (.here dev.state) (callsOf dev.id card.calls)
  gone : ∀ id ops, card.made[id]? = some ops → id ∉ card.devices.map SndDevice.id → Lives ops .gone (callsOf id card.calls)

def Served : DeviceOp → SndCard → Prop
  | .registerAll result, card' =>
    (card.sndDeviceRegisterAll result).1 = 0 → ∀ dev ∈ card'.devices, dev.ops.devRegister = true → dev.state ≠ .build
  | .disconnectAll, card' =>
    card.sndDeviceDisconnectAll.1 = 0 ∧ ∀ dev ∈ card'.devices, dev.ops.devDisconnect = true → dev.state ≠ .registered
  | .free data, card' =>
    card'.devices = card.devices.filter (fun dev => !has data dev) ∧
      ((card.sndDeviceFree data).1 = 0 ↔ ∃ dev ∈ card.devices, dev.data = data)
  | .freeAll cmd, card' =>
    card.sndDeviceFreeAll cmd = some (0, card') ∧
      card'.devices = card.devices.filter (fun dev => !dev.inRange cmd) ∧
      card'.calls = card.calls ++ (card.devices.filter (·.inRange cmd)).flatMap SndDevice.closing
  | _, _ => True

structure Inv : Prop where
  lived : card.Lived
  order : (card.devices.map SndDevice.id).Pairwise (· > ·)
  data : (card.devices.map SndDevice.data).Nodup
  some_ : ∀ dev ∈ card.devices, dev.data ≠ 0
  ops : ∀ dev ∈ card.devices, card.made[dev.id]? = some dev.ops
  known : ∀ call ∈ card.calls, call.1 < card.made.length

end SndCard

namespace SndCard

section changes

variable {before after : List SndDevice} {dev dev' : SndDevice} {made : List SndDeviceOps} {calls more : List (Nat × Callback)}

theorem callsOf_append (id : Nat) (calls more : List (Nat × Callback)) :
    callsOf id (calls ++ more) = callsOf id calls ++ callsOf id more := by simp [callsOf]

theorem callsOf_own (own : ∀ call ∈ more, call.1 = dev.id) : callsOf dev.id more = more.map Prod.snd := by
  rw [callsOf, List.filter_eq_self.mpr]
  simpa using own

theorem callsOf_other {id : Nat} (own : ∀ call ∈ more, call.1 = dev.id) (other : id ≠ dev.id) : callsOf id more = [] := by
  rw [callsOf, List.map_eq_nil_iff, List.filter_eq_nil_iff]
  intro call inside
  simp [own call inside, Ne.symm other]

theorem callsOf_new {id : Nat} (known : ∀ call ∈ calls, call.1 < id) : callsOf id calls = [] := by
  rw [callsOf, List.map_eq_nil_iff, List.filter_eq_nil_iff]
  intro call inside
  have less := known call inside
  simp
  omega

theorem Inv.ids {card : SndCard} (inv : card.Inv) : (card.devices.map SndDevice.id).Nodup :=
  inv.order.imp fun less => (Nat.ne_of_lt less).symm

theorem other_id (ids : ((before ++ dev :: after).map SndDevice.id).Nodup) {other : SndDevice}
    (inside : other ∈ before ++ after) : other.id ≠ dev.id := by
  rw [List.map_append, List.map_cons, List.nodup_middle, List.nodup_cons, ← List.map_append] at ids
  intro same
  apply ids.1
  rw [← same]
  exact List.mem_map_of_mem inside

theorem mem_rest {other : SndDevice} (inside : other ∈ before ++ after) : other ∈ before ++ dev :: after := by
  simp only [List.mem_append, List.mem_cons] at inside ⊢
  tauto

theorem Inv.known_more (inv : Inv ⟨before ++ dev :: after, made, calls⟩) (own : ∀ call ∈ more, call.1 = dev.id) :
    ∀ call ∈ calls ++ more, call.1 < made.length := by
  intro call inside
  rcases List.mem_append.mp inside with old | new
  · exact inv.known call old
  · rw [own call new]
    exact (List.getElem?_eq_some_iff.mp (inv.ops dev (List.mem_append_right _ (List.mem_cons_self ..)))).1

theorem Inv.change (inv : Inv ⟨before ++ dev :: after, made, calls⟩) (id : dev'.id = dev.id) (data : dev'.data = dev.data)
    (ops : dev'.ops = dev.ops) (own : ∀ call ∈ more, call.1 = dev.id)
    (step : ∀ past, Lives dev.ops (.here dev.state) past → Lives dev.ops (.here dev'.state) (past ++ more.map Prod.snd)) :
    Inv ⟨before ++ dev' :: after, made, calls ++ more⟩ := by
  have same_ids : (before ++ dev' :: after).map SndDevice.id = (before ++ dev :: after).map SndDevice.id := by simp [id]
  have same_data : (before ++ dev' :: after).map SndDevice.data = (before ++ dev :: after).map SndDevice.data := by simp [data]
  have ids := inv.ids
  have mine : dev ∈ before ++ dev :: after := List.mem_append_right _ (List.mem_cons_self ..)
  have split : ∀ other ∈ before ++ dev' :: after, other = dev' ∨ other ∈ before ++ after := by
    intro other inside
    simp only [List.mem_append, List.mem_cons] at inside ⊢
    tauto
  constructor
  · constructor
    · intro other inside
      dsimp only
      rw [callsOf_append]
      rcases split other inside with here | apart
      · subst here
        rw [id, ops, callsOf_own own]
        exact step _ (inv.lived.here dev mine)
      · rw [callsOf_other own (other_id ids apart), List.append_nil]
        exact inv.lived.here other (mem_rest apart)
    · intro k its made_k absent
      dsimp only at absent ⊢
      rw [same_ids] at absent
      have other : k ≠ dev.id := by
        intro same
        apply absent
        rw [same]
        exact List.mem_map_of_mem mine
      rw [callsOf_append, callsOf_other own other, List.append_nil]
      exact inv.lived.gone k its made_k absent
  · dsimp only
    rw [same_ids]
    exact inv.order
  · dsimp only
    rw [same_data]
    exact inv.data
  · intro other inside
    rcases split other inside with here | apart
    · subst here
      rw [data]
      exact inv.some_ dev mine
    · exact inv.some_ other (mem_rest apart)
  · intro other inside
    rcases split other inside with here | apart
    · subst here
      rw [id, ops]
      exact inv.ops dev mine
    · exact inv.ops other (mem_rest apart)
  · exact inv.known_more own

theorem closing_own (dev : SndDevice) : ∀ call ∈ dev.closing, call.1 = dev.id := by
  intro call inside
  unfold SndDevice.closing at inside
  rw [List.mem_append] at inside
  rcases inside with first | second
  · split at first
    · rw [List.mem_singleton.mp first]
    · cases first
  · split at second
    · rw [List.mem_singleton.mp second]
    · cases second

theorem closing_calls (dev : SndDevice) : dev.closing.map Prod.snd =
    (if dev.state = .registered ∧ dev.ops.devDisconnect = true then [.disconnect] else []) ++
      if dev.ops.devFree then [.free] else [] := by
  unfold SndDevice.closing
  rw [List.map_append]
  congr 1
  · split <;> rfl
  · split <;> rfl

theorem Inv.remove (inv : Inv ⟨before ++ dev :: after, made, calls⟩) :
    Inv ⟨before ++ after, made, calls ++ dev.closing⟩ := by
  have ids := inv.ids
  have own := closing_own dev
  have mine : dev ∈ before ++ dev :: after := List.mem_append_right _ (List.mem_cons_self ..)
  have less : (before ++ after).Sublist (before ++ dev :: after) := List.Sublist.append_left (List.sublist_cons_self ..) before
  constructor
  · constructor
    · intro other inside
      dsimp only
      rw [callsOf_append, callsOf_other own (other_id ids inside), List.append_nil]
      exact inv.lived.here other (mem_rest inside)
    · intro k its made_k absent
      dsimp only at made_k absent ⊢
      rw [callsOf_append]
      by_cases here : k = dev.id
      · subst here
        have same : its = dev.ops := by
          have known := inv.ops dev mine
          dsimp only at known
          rw [made_k] at known
          exact Option.some.inj known
        rw [callsOf_own own, closing_calls, same, ← List.append_assoc]
        exact .gone (inv.lived.here dev mine)
      · rw [callsOf_other own here, List.append_nil]
        apply inv.lived.gone k its made_k
        dsimp only
        rw [List.map_append, List.map_cons, List.mem_append, List.mem_cons]
        rw [List.map_append, List.mem_append] at absent
        tauto
  · exact inv.order.sublist (less.map _)
  · exact inv.data.sublist (less.map _)
  · exact fun other inside => inv.some_ other (mem_rest inside)
  · exact fun other inside => inv.ops other (mem_rest inside)
  · exact inv.known_more own

end changes

section operations

variable {card : SndCard} {before after : List SndDevice} {dev : SndDevice}

theorem find_data (data : ((before ++ dev :: after).map SndDevice.data).Nodup) :
    (before ++ dev :: after).find? (has dev.data) = some dev ∧ ∀ other ∈ before ++ after, other.data ≠ dev.data := by
  have apart : ∀ other ∈ before ++ after, other.data ≠ dev.data := by
    rw [List.map_append, List.map_cons, List.nodup_middle, List.nodup_cons, ← List.map_append] at data
    intro other inside same
    apply data.1
    rw [← same]
    exact List.mem_map_of_mem inside
  refine ⟨List.find?_eq_some_iff_append.mpr ⟨by simp [has], before, after, rfl, ?_⟩, apart⟩
  intro other inside
  simpa [has] using apart other (List.mem_append_left _ inside)

theorem replaceFirst_split {data : Nat} (changed : SndDevice) (here : dev.data = data) (apart : ∀ other ∈ before, other.data ≠ data) :
    replaceFirst data changed (before ++ dev :: after) = before ++ changed :: after := by
  induction before with
  | nil => simp [replaceFirst, here]
  | cons first rest ih =>
    rw [List.forall_mem_cons] at apart
    rw [List.cons_append, replaceFirst, if_neg apart.1, ih apart.2]
    rfl

theorem eraseP_split {data : Nat} (here : dev.data = data) (apart : ∀ other ∈ before, other.data ≠ data) :
    (before ++ dev :: after).eraseP (has data) = before ++ after := by
  induction before with
  | nil => simp [has, here]
  | cons first rest ih =>
    rw [List.forall_mem_cons] at apart
    have other : has data first = false := by simpa [has] using apart.1
    rw [List.cons_append, List.eraseP_cons_of_neg (by simp [other]), ih apart.2]
    rfl

theorem mem_split (split : card.devices = before ++ dev :: after) : dev ∈ card.devices := by
  rw [split]
  exact List.mem_append_right _ (List.mem_cons_self ..)

theorem Inv.of_split (inv : card.Inv) (split : card.devices = before ++ dev :: after) :
    Inv ⟨before ++ dev :: after, card.made, card.calls⟩ := by
  rw [← split]
  exact inv

theorem Inv.at_data (inv : card.Inv) {data : Nat} (found : card.devices.find? (has data) = some dev) :
    dev.data = data ∧ data ≠ 0 ∧ ∃ before after, card.devices = before ++ dev :: after := by
  obtain ⟨here, before, after, split, -⟩ := List.find?_eq_some_iff_append.mp found
  have data_eq : dev.data = data := by simpa [has] using here
  have nonzero := inv.some_ dev (mem_split split)
  rw [data_eq] at nonzero
  exact ⟨data_eq, nonzero, before, after, split⟩

theorem Inv.free_at (inv : card.Inv) (split : card.devices = before ++ dev :: after) :
    card.sndDeviceFree dev.data = (0, ⟨before ++ after, card.made, card.calls ++ dev.closing⟩) := by
  have nonzero := inv.some_ dev (mem_split split)
  obtain ⟨found, apart⟩ := find_data (inv.of_split split).data
  have erased : (before ++ dev :: after).eraseP (has dev.data) = before ++ after :=
    eraseP_split rfl fun other inside => apart other (List.mem_append_left _ inside)
  unfold sndDeviceFree
  rw [if_neg nonzero, split, found]
  dsimp only
  rw [erased]

theorem Inv.disconnect_at (inv : card.Inv) (split : card.devices = before ++ dev :: after) :
    card.sndDeviceDisconnect dev.data =
      (0, ⟨before ++ dev.disconnecting.1 :: after, card.made, card.calls ++ dev.disconnecting.2⟩) := by
  have nonzero := inv.some_ dev (mem_split split)
  obtain ⟨found, apart⟩ := find_data (inv.of_split split).data
  have replaced : replaceFirst dev.data dev.disconnecting.1 (before ++ dev :: after) = before ++ dev.disconnecting.1 :: after :=
    replaceFirst_split _ rfl fun other inside => apart other (List.mem_append_left _ inside)
  unfold sndDeviceDisconnect
  rw [if_neg nonzero, split, found]
  dsimp only
  rw [replaced]

theorem Inv.disconnecting {made : List SndDeviceOps} {calls : List (Nat × Callback)}
    (inv : Inv ⟨before ++ dev :: after, made, calls⟩) :
    Inv ⟨before ++ dev.disconnecting.1 :: after, made, calls ++ dev.disconnecting.2⟩ := by
  unfold SndDevice.disconnecting
  split
  · rename_i due
    apply inv.change
    · rfl
    · rfl
    · rfl
    · simp
    · intro past lives
      rw [due.1] at lives
      exact .disconnected due.2 lives
  · simpa using inv

theorem Inv.registering {made : List SndDeviceOps} {calls : List (Nat × Callback)}
    (inv : Inv ⟨before ++ dev :: after, made, calls⟩) (result : Int) :
    Inv ⟨before ++ (dev.registering result).1 :: after, made, calls ++ (dev.registering result).2⟩ := by
  unfold SndDevice.registering
  split
  · rename_i due
    split
    · apply inv.change
      · rfl
      · rfl
      · rfl
      · simp
      · intro past lives
        rw [due.1] at lives ⊢
        exact .refused due.2 lives
    · apply inv.change
      · rfl
      · rfl
      · rfl
      · simp
      · intro past lives
        rw [due.1] at lives
        exact .registered due.2 lives
  · simpa using inv

theorem Inv.new (inv : card.Inv) (allocated : Bool) (type : Nat) {data : Nat} (ops : SndDeviceOps)
    (fresh : data ∉ card.devices.map SndDevice.data) : (card.sndDeviceNew allocated type data ops).2.Inv := by
  unfold sndDeviceNew
  split
  · exact inv
  split
  · exact inv
  rename_i nonzero _
  have short : ∀ dev ∈ card.devices, dev.id < card.made.length := by
    intro dev inside
    exact (List.getElem?_eq_some_iff.mp (inv.ops dev inside)).1
  constructor
  · constructor
    · intro dev inside
      rcases List.mem_cons.mp inside with here | old
      · subst here
        dsimp only
        rw [callsOf_new inv.known]
        exact .build
      · exact inv.lived.here dev old
    · intro id its made_id absent
      dsimp only at made_id absent ⊢
      rw [List.map_cons, List.mem_cons, not_or] at absent
      have inside := (List.getElem?_eq_some_iff.mp made_id).1
      rw [List.length_append, List.length_singleton] at inside
      have other : id ≠ card.made.length := absent.1
      have old : id < card.made.length := by omega
      rw [List.getElem?_append_left old] at made_id
      exact inv.lived.gone id its made_id absent.2
  · dsimp only
    rw [List.map_cons, List.pairwise_cons]
    refine ⟨?_, inv.order⟩
    intro id inside
    obtain ⟨dev, old, rfl⟩ := List.mem_map.mp inside
    exact short dev old
  · dsimp only
    rw [List.map_cons, List.nodup_cons]
    exact ⟨fresh, inv.data⟩
  · intro dev inside
    rcases List.mem_cons.mp inside with here | old
    · subst here
      exact nonzero
    · exact inv.some_ dev old
  · intro dev inside
    dsimp only
    rcases List.mem_cons.mp inside with here | old
    · subst here
      simp
    · rw [List.getElem?_append_left (short dev old)]
      exact inv.ops dev old
  · intro call inside
    dsimp only
    rw [List.length_append, List.length_singleton]
    exact Nat.lt_succ_of_lt (inv.known call inside)

theorem Inv.register (inv : card.Inv) (data : Nat) (result : Int) : (card.sndDeviceRegister data result).2.Inv := by
  unfold sndDeviceRegister
  split
  · exact inv
  split
  · rename_i dev found
    obtain ⟨here, -, before, after, split_⟩ := inv.at_data found
    split
    · dsimp only
      have apart := (find_data (inv.of_split split_).data).2
      rw [split_, replaceFirst_split _ here fun other inside => here ▸ apart other (List.mem_append_left _ inside)]
      exact (inv.of_split split_).registering result
    · exact inv
  · exact inv

theorem Inv.disconnect (inv : card.Inv) (data : Nat) : (card.sndDeviceDisconnect data).2.Inv := by
  cases found : card.devices.find? (has data) with
  | some dev =>
    obtain ⟨here, -, before, after, split_⟩ := inv.at_data found
    rw [← here, inv.disconnect_at split_]
    exact (inv.of_split split_).disconnecting
  | none =>
    unfold sndDeviceDisconnect
    rw [found]
    split <;> exact inv

theorem Inv.free (inv : card.Inv) (data : Nat) :
    (card.sndDeviceFree data).2.Inv ∧ card.Served (.free data) (card.sndDeviceFree data).2 := by
  cases found : card.devices.find? (has data) with
  | some dev =>
    obtain ⟨here, -, before, after, split_⟩ := inv.at_data found
    subst here
    have apart := (find_data (inv.of_split split_).data).2
    rw [List.forall_mem_append] at apart
    have result := inv.free_at split_
    refine ⟨?_, ?_, ?_⟩
    · rw [result]
      exact (inv.of_split split_).remove
    · rw [result, split_, List.filter_append, List.filter_cons]
      have left : before.filter (fun other => !has dev.data other) = before := by
        rw [List.filter_eq_self]
        intro other inside
        simpa [has] using apart.1 other inside
      have right : after.filter (fun other => !has dev.data other) = after := by
        rw [List.filter_eq_self]
        intro other inside
        simpa [has] using apart.2 other inside
      rw [left, right]
      simp [has]
    · rw [result]
      exact iff_of_true rfl ⟨dev, mem_split split_, rfl⟩
  | none =>
    have absent : ∀ dev ∈ card.devices, dev.data ≠ data := by
      intro dev inside
      have other := List.find?_eq_none.mp found dev inside
      simpa [has] using other
    have result : card.sndDeviceFree data = ( - ENXIO, card) := by
      unfold sndDeviceFree
      rw [found]
      split <;> rfl
    rw [Served, result]
    refine ⟨inv, ?_, ?_⟩
    · symm
      rw [List.filter_eq_self]
      intro dev inside
      simpa [has] using absent dev inside
    · apply iff_of_false
      · simp [ ENXIO]
      · rintro ⟨dev, inside, same⟩
        exact absent dev inside same

end operations

section all

variable {done rest : List SndDevice} {made : List SndDeviceOps} {calls : List (Nat × Callback)}

theorem Inv.registerLoop (result : Nat → Int) (inv : Inv ⟨done ++ rest, made, calls⟩) :
    Inv ⟨done ++ (SndCard.registerLoop result rest).2.1, made, calls ++ (SndCard.registerLoop result rest).2.2⟩ ∧
      ((SndCard.registerLoop result rest).1 = 0 →
        ∀ dev ∈ (SndCard.registerLoop result rest).2.1, dev.ops.devRegister = true → dev.state ≠ .build) := by
  induction rest generalizing done calls with
  | nil =>
    refine ⟨by simpa [SndCard.registerLoop] using inv, fun _ dev inside => ?_⟩
    cases inside
  | cons dev rest ih =>
    have step := inv.registering (result dev.id)
    rw [SndCard.registerLoop]
    by_cases refused : dev.state = .build ∧ dev.ops.devRegister = true ∧ result dev.id < 0
    · rw [if_pos refused]
      have same : (dev.registering (result dev.id)).1 = dev := by simp [SndDevice.registering, refused]
      rw [same] at step
      refine ⟨step, fun zero => ?_⟩
      have negative := refused.2.2
      dsimp only at zero
      omega
    · rw [if_neg refused]
      have moved : Inv ⟨(done ++ [(dev.registering (result dev.id)).1]) ++ rest, made,
          calls ++ (dev.registering (result dev.id)).2⟩ := by
        rw [List.append_assoc]
        exact step
      obtain ⟨next, all⟩ := ih moved
      rw [List.append_assoc, List.append_assoc] at next
      refine ⟨next, fun zero other inside register => ?_⟩
      rcases List.mem_cons.mp inside with here | later
      · subst here
        unfold SndDevice.registering at register ⊢
        split
        · rename_i due
          rw [if_neg fun negative => refused ⟨due.1, due.2, negative⟩]
          simp
        · rename_i due
          rw [if_neg due] at register
          exact fun build => due ⟨build, register⟩
      · exact all zero other later register

theorem Inv.disconnectLoop (inv : Inv ⟨done ++ rest, made, calls⟩) :
    ∃ more, SndCard.disconnectLoop (rest.map SndDevice.data) 0 ⟨done ++ rest, made, calls⟩ =
        (0, ⟨done ++ rest.map fun dev => dev.disconnecting.1, made, calls ++ more⟩) ∧
      Inv ⟨done ++ rest.map fun dev => dev.disconnecting.1, made, calls ++ more⟩ := by
  induction rest generalizing done calls with
  | nil => exact ⟨[], by simp [SndCard.disconnectLoop], by simpa using inv⟩
  | cons dev rest ih =>
    have step := inv.disconnect_at rfl
    have moved : Inv ⟨(done ++ [dev.disconnecting.1]) ++ rest, made, calls ++ dev.disconnecting.2⟩ := by
      rw [List.append_assoc]
      exact inv.disconnecting
    obtain ⟨more, runs, next⟩ := ih moved
    refine ⟨dev.disconnecting.2 ++ more, ?_, ?_⟩
    · rw [List.map_cons, SndCard.disconnectLoop, step]
      simp only [List.append_assoc, List.singleton_append] at runs
      simpa using runs
    · simpa using next

theorem none_inRange {cmd : Nat} {devices : List SndDevice} (outside : ∀ dev ∈ devices, dev.inRange cmd = false)
    (calls : List (Nat × Callback)) :
    devices = devices.filter (fun dev => !dev.inRange cmd) ∧
      calls = calls ++ (devices.filter (·.inRange cmd)).flatMap SndDevice.closing := by
  have keeps : devices.filter (fun dev => !dev.inRange cmd) = devices := by
    rw [List.filter_eq_self]
    intro dev inside
    simp [outside dev inside]
  have empty : devices.filter (·.inRange cmd) = [] := by
    rw [List.filter_eq_nil_iff]
    intro dev inside
    simp [outside dev inside]
  rw [keeps, empty]
  simp

theorem Inv.freeLoop {card : SndCard} (inv : card.Inv) (cmd : Nat) {fuel : Nat} (enough : card.devices.length ≤ fuel) :
    ∃ card', SndCard.freeLoop cmd fuel card = some (0, card') ∧ card'.Inv ∧
      card'.devices = card.devices.filter (fun dev => !dev.inRange cmd) ∧
      card'.calls = card.calls ++ (card.devices.filter (·.inRange cmd)).flatMap SndDevice.closing := by
  induction fuel generalizing card with
  | zero =>
    have empty : card.devices = [] := List.eq_nil_of_length_eq_zero (Nat.le_zero.mp enough)
    have outside : ∀ dev ∈ card.devices, dev.inRange cmd = false := by simp [empty]
    refine ⟨card, ?_, inv, none_inRange outside _⟩
    simp [SndCard.freeLoop, empty]
  | succ fuel ih =>
    rw [SndCard.freeLoop]
    cases found : card.devices.find? (·.inRange cmd) with
    | none =>
      have outside : ∀ dev ∈ card.devices, dev.inRange cmd = false := by
        intro dev inside
        simpa using List.find?_eq_none.mp found dev inside
      exact ⟨card, rfl, inv, none_inRange outside _⟩
    | some dev =>
      obtain ⟨here, before, after, split, outside⟩ := List.find?_eq_some_iff_append.mp found
      have result := inv.free_at split
      have next := (inv.of_split split).remove
      have length : (before ++ after).length ≤ fuel := by
        rw [split] at enough
        simp at enough ⊢
        omega
      obtain ⟨card', runs, inv', devices, closed⟩ := ih next length
      have first : before.filter (·.inRange cmd) = [] := by
        rw [List.filter_eq_nil_iff]
        intro other inside
        simpa using outside other inside
      refine ⟨card', ?_, inv', ?_, ?_⟩
      · dsimp only
        rw [result]
        exact runs
      · rw [devices, split]
        simp [here]
      · rw [closed, split]
        simp [here, first]

end all

section runs

variable {card : SndCard}

theorem Inv.registerAll (inv : card.Inv) (result : Nat → Int) :
    (card.sndDeviceRegisterAll result).2.Inv ∧ card.Served (.registerAll result) (card.sndDeviceRegisterAll result).2 :=
  Inv.registerLoop result (show Inv ⟨[] ++ card.devices, card.made, card.calls⟩ from inv)

theorem Inv.disconnectAll (inv : card.Inv) :
    card.sndDeviceDisconnectAll.2.Inv ∧ card.Served .disconnectAll card.sndDeviceDisconnectAll.2 := by
  obtain ⟨more, runs, next⟩ := Inv.disconnectLoop (show Inv ⟨[] ++ card.devices, card.made, card.calls⟩ from inv)
  have result : card.sndDeviceDisconnectAll =
      (0, ⟨card.devices.map fun dev => dev.disconnecting.1, card.made, card.calls ++ more⟩) := runs
  rw [Served, result]
  refine ⟨next, rfl, ?_⟩
  intro dev inside able
  obtain ⟨old, -, rfl⟩ := List.mem_map.mp inside
  unfold SndDevice.disconnecting at able ⊢
  split
  · simp
  · rename_i idle
    rw [if_neg idle] at able
    exact fun registered => idle ⟨registered, able⟩

theorem Inv.freeAll (inv : card.Inv) (cmd : Nat) :
    (card.exec (.freeAll cmd)).Inv ∧ card.Served (.freeAll cmd) (card.exec (.freeAll cmd)) := by
  obtain ⟨card', runs, next, devices, calls⟩ := inv.freeLoop cmd (Nat.le_refl _)
  have result : card.sndDeviceFreeAll cmd = some (0, card') := runs
  have same : card.exec (.freeAll cmd) = card' := by simp [exec, answer, result]
  rw [same]
  exact ⟨next, result, devices, calls⟩

theorem exec_inv (inv : card.Inv) (op : DeviceOp) (allowed : card.Allowed op) :
    (card.exec op).Inv ∧ card.Served op (card.exec op) := by
  cases op with
  | new allocated type data ops => exact ⟨inv.new allocated type ops allowed, trivial⟩
  | register data result => exact ⟨inv.register data result, trivial⟩
  | registerAll result => exact inv.registerAll result
  | disconnect data => exact ⟨inv.disconnect data, trivial⟩
  | disconnectAll => exact inv.disconnectAll
  | free data => exact inv.free data
  | freeAll cmd => exact inv.freeAll cmd

def bare : SndCard := ⟨[], [], []⟩

theorem bare_inv : bare.Inv where
  lived := by
    constructor
    · intro dev inside
      cases inside
    · intro id ops made
      cases made
  order := .nil
  data := .nil
  some_ := by
    intro dev inside
    cases inside
  ops := by
    intro dev inside
    cases inside
  known := by
    intro call inside
    cases inside

/-- In every order of the operations each device goes through its life. -/
theorem devices_live {ops : List DeviceOp} (run : Throughout exec (fun card op _ => card.Allowed op) bare ops) :
    Throughout exec (fun card op card' => card'.Lived ∧ card.Served op card') bare ops := by
  apply run.steps SndCard.Inv bare_inv
  intro card op inv allowed
  obtain ⟨next, served⟩ := exec_inv inv op allowed
  exact ⟨⟨next.lived, served⟩, next⟩

instance : (op : DeviceOp) → Decidable (card.Allowed op)
  | .new _ _ data _ => inferInstanceAs (Decidable (data ∉ card.devices.map SndDevice.data))
  | .register .. => .isTrue trivial
  | .registerAll _ => .isTrue trivial
  | .disconnect _ => .isTrue trivial
  | .disconnectAll => .isTrue trivial
  | .free _ => .isTrue trivial
  | .freeAll _ => .isTrue trivial

def refusing : List DeviceOp :=
  [.new true 0x1001 1 ⟨true, true, true⟩, .new true 0x2000 2 ⟨true, true, false⟩, .registerAll fun id => if id = 0 then -22 else 0,
    .registerAll fun _ => 0, .new true 1 3 ⟨true, false, true⟩, .disconnectAll, .freeAll 0, .freeAll 1, .freeAll 2]

theorem devices_live_refusing :
    Throughout exec (fun card op card' => card'.Lived ∧ card.Served op card') bare refusing := devices_live (by decide)

end runs

end SndCard

end AlsaDriver.Card.Devices
