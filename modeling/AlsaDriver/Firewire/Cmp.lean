import AlsaDriver.Firewire.Errors
import AlsaDriver.Lib.Runs

namespace AlsaDriver.Firewire

def SCODE_400 : Nat := 2

def IPCR_ONLINE : BitVec 32 := 0x80000000
def IPCR_BCAST_CONN : BitVec 32 := 0x40000000
def IPCR_P2P_CONN_MASK : BitVec 32 := 0x3f000000
def IPCR_P2P_CONN_SHIFT : Nat := 24
def IPCR_CHANNEL_MASK : BitVec 32 := 0x003f0000
def IPCR_CHANNEL_SHIFT : Nat := 16

def p2pConnections (ipcr : BitVec 32) : Nat := ((ipcr &&& IPCR_P2P_CONN_MASK) >>> IPCR_P2P_CONN_SHIFT).toNat

structure FwIsoResources where
  generation : Nat
  channel : Nat
  allocated : Bool
  bandwidth : Nat
  bandwidthOverhead : Nat

structure CmpConnection where
  speed : Nat
  maxSpeed : Nat
  connected : Bool
  resources : FwIsoResources
  lastPcrValue : BitVec 32

inductive CmpCall where
  | establish
  | update
  | breakConnection
  deriving DecidableEq

/-- What follows `fw_iso_resources_free`. -/
inductive AfterFree where
  | retry (maxPayloadBytes : Nat)
  | fail (call : CmpCall) (err : Int)
  | finish
  deriving DecidableEq

/-- Where a call is. An attempt to swap is `cached` as long as it expects `last_pcr_value`. -/
inductive CmpControl where
  | idle
  | allocating (maxPayloadBytes : Nat)
  | reading (maxPayloadBytes : Nat)
  | waiting (maxPayloadBytes : Nat)
  | managing (maxPayloadBytes : Nat)
  | updating
  | swapping (call : CmpCall) (maxPayloadBytes : Nat) (old : BitVec 32) (errors : Nat) (cached : Bool)
  | freeing (next : AfterFree)

/-- A connection, the plug of its target and the card. The fields from `finished` on are not those of the source:
    the call that returned last and its result, how many allocations succeeded and were released, whether a
    connection of this driver or one made by the last call of establish is in the plug, and the value that its
    successful swap replaced, with the connection of this driver in it. -/
structure Cmp where
  conn : CmpConnection
  cardGeneration : Nat
  gapCount : Nat
  deviceSpeed : Nat
  ipcr : BitVec 32
  control : CmpControl
  finished : Option (CmpCall × Int)
  acquired : Nat
  released : Nat
  own : Bool
  made : Bool
  replaced : Option (BitVec 32 × Bool)

/-- What `fw_iso_resource_manage` gives in the same generation. -/
inductive Managed where
  | channel (channel : Fin 64)
  | busy
  | ioError

inductive Locked where
  | respond
  | lose (done : Bool)
  | refuse
  deriving DecidableEq

inductive CmpOp where
  | establish (maxPayloadBytes : Nat)
  | update
  | breakConnection
  | proceed
  | wait (interrupted : Bool)
  | manage (managed : Managed)
  | lock (locked : Locked)
  | busReset
  | foreign (ipcr : BitVec 32)

def packetBandwidth (maxPayloadBytes speed : Nat) : Nat :=
  let bytes := 3 * 4 + (maxPayloadBytes + 3) / 4 * 4
  if speed ≤ SCODE_400 then bytes * 2 ^ (SCODE_400 - speed)
  else (bytes + 2 ^ (speed - SCODE_400) - 1) / 2 ^ (speed - SCODE_400)

def currentBandwidthOverhead (gapCount : Nat) : Nat := if gapCount < 63 then gapCount * 97 / 10 + 89 else 512

def ipcrSetModify (channel : Nat) (ipcr : BitVec 32) : BitVec 32 :=
  (ipcr &&& ~~~ (IPCR_BCAST_CONN ||| IPCR_P2P_CONN_MASK ||| IPCR_CHANNEL_MASK)) |||
    1#32 <<< IPCR_P2P_CONN_SHIFT ||| BitVec.ofNat 32 channel <<< IPCR_CHANNEL_SHIFT

def ipcrBreakModify (ipcr : BitVec 32) : BitVec 32 := ipcr &&& ~~~ (IPCR_BCAST_CONN ||| IPCR_P2P_CONN_MASK)

def ipcrSetCheck (ipcr : BitVec 32) : Int :=
  if ipcr &&& (IPCR_BCAST_CONN ||| IPCR_P2P_CONN_MASK) ≠ 0 then - EBUSY
  else if ipcr &&& IPCR_ONLINE = 0 then - ECONNREFUSED
  else 0

/-- The check that `pcr_modify` is given, none for a break. -/
def pcrCheck (call : CmpCall) (ipcr : BitVec 32) : Int := if call = .breakConnection then 0 else ipcrSetCheck ipcr

namespace Cmp

variable (s : Cmp)

def setAllocated (allocated : Bool) : Cmp :=
  { s with conn := { s.conn with resources := { s.conn.resources with allocated } } }

def setConnected (connected : Bool) : Cmp := { s with conn := { s.conn with connected } }

def leave (call : CmpCall) (result : Int) : Cmp := { s with control := .idle, finished := some (call, result) }

def readGeneration : Cmp :=
  { s with conn := { s.conn with resources := { s.conn.resources with
      generation := s.cardGeneration
      bandwidthOverhead := currentBandwidthOverhead s.gapCount } } }

/-- The start of `pcr_modify`. -/
def pcrModify (call : CmpCall) (maxPayloadBytes : Nat) : Cmp :=
  { s with control := .swapping call maxPayloadBytes s.conn.lastPcrValue 0 true }

def cmpConnectionEstablish (maxPayloadBytes : Nat) : Cmp :=
  let s := { s with made := false, replaced := none, finished := none }
  if s.conn.connected then s.leave .establish (- EISCONN)
  else { s with
    conn := { s.conn with speed := min s.conn.maxSpeed s.deviceSpeed }
    control := .allocating maxPayloadBytes }

/-- `fw_iso_resources_allocate` up to its label. -/
def fwIsoResourcesAllocate (maxPayloadBytes : Nat) : Cmp :=
  if s.conn.resources.allocated then s.leave .establish (- EBADFD)
  else { s with
    conn := { s.conn with resources := { s.conn.resources with
      bandwidth := packetBandwidth maxPayloadBytes s.conn.speed } }
    control := .reading maxPayloadBytes }

def allocateManage (maxPayloadBytes : Nat) (managed : Managed) : Cmp :=
  if s.cardGeneration ≠ s.conn.resources.generation then { s with control := .reading maxPayloadBytes }
  else
    match managed with
    | .channel channel =>
      { s with
        conn := { s.conn with resources := { s.conn.resources with channel := channel.val, allocated := true } }
        acquired := s.acquired + 1 }.pcrModify .establish maxPayloadBytes
    | .busy => s.leave .establish (- EBUSY)
    | .ioError => s.leave .establish (- EIO)

/-- `cmp_connection_update` up to `fw_iso_resource_manage`. -/
def cmpConnectionUpdate : Cmp :=
  let s := { s with finished := none }
  if s.conn.connected = false then s.leave .update 0
  else if s.conn.resources.allocated = false then s.pcrModify .update 0
  else { s.readGeneration with control := .updating }

def updateManage (managed : Managed) : Cmp :=
  if s.cardGeneration ≠ s.conn.resources.generation then (s.setConnected false).leave .update (- EAGAIN)
  else
    match managed with
    | .channel _ => s.pcrModify .update 0
    | .busy => (({ s with released := s.released + 1 }.setAllocated false).setConnected false).leave .update (- EBUSY)
    | .ioError => (({ s with released := s.released + 1 }.setAllocated false).setConnected false).leave .update (- EIO)

def cmpConnectionBreak : Cmp :=
  let s := { s with finished := none }
  if s.conn.connected = false then s.leave .breakConnection 0 else s.pcrModify .breakConnection 0

def modify (call : CmpCall) (ipcr : BitVec 32) : BitVec 32 :=
  if call = .breakConnection then ipcrBreakModify ipcr else ipcrSetModify s.conn.resources.channel ipcr

def swap (call : CmpCall) (old : BitVec 32) : Cmp :=
  { s with
    ipcr := s.modify call old
    own := call ≠ .breakConnection
    made := if call = .establish then true else if call = .breakConnection then false else s.made }

def swapIf (done : Bool) (call : CmpCall) (old : BitVec 32) : Cmp :=
  if done = true ∧ s.ipcr = old then s.swap call old else s

def swapFailed (call : CmpCall) (err : Int) : Cmp :=
  { s with control := .freeing (if call = .breakConnection then .finish else .fail call err) }

def swapDone (call : CmpCall) : Cmp :=
  match call with
  | .establish => (s.setConnected true).leave .establish 0
  | .update => s.leave .update 0
  | .breakConnection => { s with control := .freeing .finish }

/-- A turn of the loop of `pcr_modify`. -/
def swapTurn (call : CmpCall) (maxPayloadBytes : Nat) (old : BitVec 32) (errors : Nat) (cached : Bool) (locked : Locked) : Cmp :=
  if s.cardGeneration ≠ s.conn.resources.generation then
    if call = .establish then { s with control := .freeing (.retry maxPayloadBytes) }
    else s.swapDone call
  else
    match locked with
    | .respond =>
      if s.ipcr = old then
        let replaced := if call = .establish then some (s.ipcr, s.own) else s.replaced
        let s := s.swap call old
        { s with conn := { s.conn with lastPcrValue := s.ipcr }, replaced }.swapDone call
      else if pcrCheck call s.ipcr < 0 then s.swapFailed call (pcrCheck call s.ipcr)
      else { s with control := .swapping call maxPayloadBytes s.ipcr errors false }
    | .lose done =>
      let s := s.swapIf done call old
      if 3 ≤ errors + 1 then s.swapFailed call (- EIO)
      else { s with control := .swapping call maxPayloadBytes old (errors + 1) cached }
    | .refuse => s.swapFailed call (- EIO)

def fwIsoResourcesFree : Cmp :=
  if s.conn.resources.allocated then { s with released := s.released + 1 }.setAllocated false else s

def freeTurn (next : AfterFree) : Cmp :=
  let s := s.fwIsoResourcesFree
  match next with
  | .retry maxPayloadBytes => { s with control := .allocating maxPayloadBytes }
  | .fail call err => (if call = .establish then s else s.setConnected false).leave call err
  | .finish => (s.setConnected false).leave .breakConnection 0

def exec : CmpOp → Cmp
  | .establish maxPayloadBytes =>
    match s.control with
    | .idle => s.cmpConnectionEstablish maxPayloadBytes
    | _ => s
  | .update =>
    match s.control with
    | .idle => s.cmpConnectionUpdate
    | _ => s
  | .breakConnection =>
    match s.control with
    | .idle => s.cmpConnectionBreak
    | _ => s
  | .proceed =>
    match s.control with
    | .allocating maxPayloadBytes => s.fwIsoResourcesAllocate maxPayloadBytes
    | .reading maxPayloadBytes => { s.readGeneration with control := .waiting maxPayloadBytes }
    | .freeing next => s.freeTurn next
    | _ => s
  | .wait interrupted =>
    match s.control with
    | .waiting maxPayloadBytes =>
      if interrupted then s.leave .establish (- ERESTARTSYS) else { s with control := .managing maxPayloadBytes }
    | _ => s
  | .manage managed =>
    match s.control with
    | .managing maxPayloadBytes => s.allocateManage maxPayloadBytes managed
    | .updating => s.updateManage managed
    | _ => s
  | .lock locked =>
    match s.control with
    | .swapping call maxPayloadBytes old errors cached => s.swapTurn call maxPayloadBytes old errors cached locked
    | _ => s
  | .busReset =>
    { s with cardGeneration := s.cardGeneration + 1, ipcr := ipcrBreakModify s.ipcr, own := false, made := false }
  | .foreign ipcr =>
    let kept := decide (p2pConnections ipcr ≠ 0)
    { s with ipcr, own := s.own && kept, made := s.made && kept }

end Cmp

end AlsaDriver.Firewire

namespace AlsaDriver.Firewire

open Runs

namespace Cmp

variable (s : Cmp)

/-- A connection after `cmp_connection_init`. -/
structure Fresh : Prop where
  idle : s.control = .idle
  free : s.conn.connected = false ∧ s.conn.resources.allocated = false
  none : s.acquired = s.released
  first : s.finished = .none

/-- Between two calls the connection and the resources agree, all allocations but the current one were released,
    and establish was not refused for resources of an earlier connection. -/
def Agrees : Prop :=
  s.control = .idle → s.conn.connected = s.conn.resources.allocated ∧
    s.acquired = s.released + (if s.conn.resources.allocated then 1 else 0) ∧ s.finished ≠ some (.establish, - EBADFD)

def Undisturbed : CmpOp → Prop
  | .manage _ => s.control = .updating → s.cardGeneration = s.conn.resources.generation
  | _ => True

def At : CmpControl → Prop
  | .idle => s.conn.connected = s.conn.resources.allocated
  | .allocating _ | .reading _ | .waiting _ | .managing _ => s.conn.connected = false ∧ s.conn.resources.allocated = false
  | .updating => s.conn.connected = true ∧ s.conn.resources.allocated = true
  | .swapping call _ _ _ _ => s.conn.connected = decide (call ≠ .establish) ∧ s.conn.resources.allocated = true
  | .freeing (.retry _) => s.conn.connected = false ∧ s.conn.resources.allocated = true
  | .freeing (.fail call err) =>
    s.conn.connected = decide (call ≠ .establish) ∧ s.conn.resources.allocated = true ∧ err ≠ - EBADFD
  | .freeing .finish => s.conn.connected = true ∧ s.conn.resources.allocated = true

def Counted : Prop := s.acquired = s.released + (if s.conn.resources.allocated then 1 else 0)

structure Balanced : Prop where
  place : s.At s.control
  count : s.Counted
  accepted : s.finished ≠ some (.establish, - EBADFD)

variable {s}

theorem Balanced.agrees (balanced : s.Balanced) : s.Agrees := by
  intro idle
  have place := balanced.place
  rw [idle] at place
  exact ⟨place, balanced.count, balanced.accepted⟩

theorem Fresh.balanced (fresh : s.Fresh) : s.Balanced := by
  obtain ⟨connected, allocated⟩ := fresh.free
  refine ⟨?_, ?_, ?_⟩
  · rw [fresh.idle]
    exact connected.trans allocated.symm
  · rw [Counted, allocated, fresh.none]
    rfl
  · rw [fresh.first]
    exact (Option.some_ne_none _).symm

section balance

variable {call : CmpCall} {payload : Nat}

theorem balanced_leave {result : Int} (same : s.conn.connected = s.conn.resources.allocated) (count : s.Counted)
    (fine : call = .establish → result ≠ - EBADFD) : (s.leave call result).Balanced := by
  refine ⟨same, count, ?_⟩
  intro refused
  obtain ⟨establish, result⟩ := Prod.mk.inj (Option.some.inj refused)
  exact fine establish result

theorem Balanced.at (balanced : s.Balanced) {control : CmpControl} (here : s.control = control) : s.At control :=
  here ▸ balanced.place

theorem Balanced.establish (balanced : s.Balanced) (idle : s.control = .idle) :
    (s.cmpConnectionEstablish payload).Balanced := by
  have same := balanced.at idle
  unfold cmpConnectionEstablish
  dsimp only
  split
  · exact balanced_leave same balanced.count fun _ => by decide
  · rename_i open_
    have free := eq_false_of_ne_true open_
    exact ⟨⟨free, same.symm.trans free⟩, balanced.count, (Option.some_ne_none _).symm⟩

theorem Balanced.update (balanced : s.Balanced) (idle : s.control = .idle) : s.cmpConnectionUpdate.Balanced := by
  have same := balanced.at idle
  unfold cmpConnectionUpdate
  dsimp only
  split
  · exact balanced_leave same balanced.count fun other => CmpCall.noConfusion other
  · rename_i open_
    have connected := eq_true_of_ne_false open_
    have allocated := same.symm.trans connected
    rw [if_neg (by rw [allocated]; exact Bool.noConfusion)]
    exact ⟨⟨connected, allocated⟩, balanced.count, (Option.some_ne_none _).symm⟩

theorem Balanced.breakConnection (balanced : s.Balanced) (idle : s.control = .idle) : s.cmpConnectionBreak.Balanced := by
  have same := balanced.at idle
  unfold cmpConnectionBreak
  dsimp only
  split
  · exact balanced_leave same balanced.count fun other => CmpCall.noConfusion other
  · rename_i open_
    have connected := eq_true_of_ne_false open_
    exact ⟨⟨connected, same.symm.trans connected⟩, balanced.count, (Option.some_ne_none _).symm⟩

theorem Balanced.allocate (balanced : s.Balanced) (here : s.control = .allocating payload) :
    (s.fwIsoResourcesAllocate payload).Balanced := by
  have free := balanced.at here
  unfold fwIsoResourcesAllocate
  rw [if_neg (by rw [free.2]; exact Bool.false_ne_true)]
  exact ⟨free, balanced.count, balanced.accepted⟩

theorem Balanced.allocateManage (balanced : s.Balanced) (here : s.control = .managing payload) (managed : Managed) :
    (s.allocateManage payload managed).Balanced := by
  have free := balanced.at here
  have count := balanced.count
  unfold Cmp.allocateManage
  split
  · exact ⟨free, count, balanced.accepted⟩
  · cases managed with
    | channel channel =>
      refine ⟨⟨free.1, rfl⟩, ?_, balanced.accepted⟩
      rw [Counted, free.2] at count
      exact congrArg (· + 1) count
    | busy => exact balanced_leave (free.1.trans free.2.symm) count fun _ => by decide
    | ioError => exact balanced_leave (free.1.trans free.2.symm) count fun _ => by decide

theorem Balanced.given_up (balanced : s.Balanced) (allocated : s.conn.resources.allocated = true) :
    ({ s with released := s.released + 1 }.setAllocated false).Counted := by
  have count := balanced.count
  rw [Counted, allocated] at count
  exact count

theorem Balanced.updateManage (balanced : s.Balanced) (here : s.control = .updating)
    (same : s.cardGeneration = s.conn.resources.generation) (managed : Managed) : (s.updateManage managed).Balanced := by
  have place := balanced.at here
  have count := balanced.given_up place.2
  unfold Cmp.updateManage
  rw [if_neg (not_not.mpr same)]
  cases managed with
  | channel channel => exact ⟨place, balanced.count, balanced.accepted⟩
  | busy => exact balanced_leave rfl count fun other => CmpCall.noConfusion other
  | ioError => exact balanced_leave rfl count fun other => CmpCall.noConfusion other

theorem Balanced.swapDone (count : s.Counted) (allocated : s.conn.resources.allocated = true)
    (accepted : s.finished ≠ some (.establish, - EBADFD)) (connected : s.conn.connected = decide (call ≠ .establish)) :
    (s.swapDone call).Balanced := by
  cases call with
  | establish => exact balanced_leave allocated.symm count fun _ => by decide
  | update => exact balanced_leave (connected.trans allocated.symm) count fun other => CmpCall.noConfusion other
  | breakConnection => exact ⟨⟨connected, allocated⟩, count, accepted⟩

theorem Balanced.kept (balanced : s.Balanced) {t : Cmp} (conn : t.conn = s.conn)
    (same : t.acquired = s.acquired ∧ t.released = s.released ∧ t.finished = s.finished) (place : t.At t.control) :
    t.Balanced := by
  obtain ⟨acquired, released, finished⟩ := same
  refine ⟨place, ?_, finished ▸ balanced.accepted⟩
  rw [Counted, acquired, released, conn]
  exact balanced.count

theorem Balanced.swapFailed (balanced : s.Balanced) {t : Cmp} (conn : t.conn = s.conn)
    (same : t.acquired = s.acquired ∧ t.released = s.released ∧ t.finished = s.finished)
    (place : s.conn.connected = decide (call ≠ .establish) ∧ s.conn.resources.allocated = true) {err : Int}
    (fine : err ≠ - EBADFD) : (t.swapFailed call err).Balanced := by
  refine balanced.kept conn same ?_
  rw [← conn] at place
  cases call with
  | establish => exact ⟨place.1, place.2, fine⟩
  | update => exact ⟨place.1, place.2, fine⟩
  | breakConnection => exact place

theorem swapIf_frame (done : Bool) (call : CmpCall) (old : BitVec 32) :
    (s.swapIf done call old).conn = s.conn ∧ (s.swapIf done call old).acquired = s.acquired ∧
      (s.swapIf done call old).released = s.released ∧ (s.swapIf done call old).finished = s.finished := by
  unfold swapIf
  split
  · exact ⟨rfl, rfl, rfl, rfl⟩
  · exact ⟨rfl, rfl, rfl, rfl⟩

theorem pcrCheck_fine (call : CmpCall) (ipcr : BitVec 32) : pcrCheck call ipcr ≠ - EBADFD := by
  unfold pcrCheck ipcrSetCheck
  split
  · decide
  · split
    · decide
    · split <;> decide

theorem Balanced.swapTurn (balanced : s.Balanced) {old : BitVec 32} {errors : Nat} {cached : Bool}
    (here : s.control = .swapping call payload old errors cached) (locked : Locked) :
    (s.swapTurn call payload old errors cached locked).Balanced := by
  have place := balanced.at here
  unfold Cmp.swapTurn
  split
  · split
    · rename_i establish
      subst establish
      exact balanced.kept rfl ⟨rfl, rfl, rfl⟩ place
    · exact Balanced.swapDone balanced.count place.2 balanced.accepted place.1
  · cases locked with
    | respond =>
      dsimp only
      split
      · exact Balanced.swapDone balanced.count place.2 balanced.accepted place.1
      · split
        · exact balanced.swapFailed rfl ⟨rfl, rfl, rfl⟩ place (pcrCheck_fine call s.ipcr)
        · exact balanced.kept rfl ⟨rfl, rfl, rfl⟩ place
    | lose done =>
      obtain ⟨conn, same⟩ := swapIf_frame (s := s) done call old
      dsimp only
      split
      · exact balanced.swapFailed conn same place (by decide)
      · refine balanced.kept conn same ?_
        show (s.swapIf done call old).conn.connected = _ ∧ (s.swapIf done call old).conn.resources.allocated = true
        rw [conn]
        exact place
    | refuse => exact balanced.swapFailed rfl ⟨rfl, rfl, rfl⟩ place (by decide)

theorem Balanced.freeTurn (balanced : s.Balanced) {next : AfterFree} (here : s.control = .freeing next) :
    (s.freeTurn next).Balanced := by
  have place := balanced.at here
  unfold Cmp.freeTurn fwIsoResourcesFree
  cases next with
  | retry maxPayloadBytes =>
    rw [if_pos place.2]
    exact ⟨⟨place.1, rfl⟩, balanced.given_up place.2, balanced.accepted⟩
  | fail call err =>
    obtain ⟨connected, allocated, fine⟩ := place
    rw [if_pos allocated]
    have count := balanced.given_up allocated
    cases call with
    | establish => exact balanced_leave connected count fun _ => fine
    | update => exact balanced_leave rfl count fun other => CmpCall.noConfusion other
    | breakConnection => exact balanced_leave rfl count fun other => CmpCall.noConfusion other
  | finish =>
    rw [if_pos place.2]
    exact balanced_leave rfl (balanced.given_up place.2) fun other => CmpCall.noConfusion other

theorem Balanced.exec (balanced : s.Balanced) (op : CmpOp) (undisturbed : s.Undisturbed op) : (s.exec op).Balanced := by
  cases op with
  | establish maxPayloadBytes =>
    rw [Cmp.exec]
    split
    · rename_i idle
      exact balanced.establish idle
    · exact balanced
  | update =>
    rw [Cmp.exec]
    split
    · rename_i idle
      exact balanced.update idle
    · exact balanced
  | breakConnection =>
    rw [Cmp.exec]
    split
    · rename_i idle
      exact balanced.breakConnection idle
    · exact balanced
  | proceed =>
    rw [Cmp.exec]
    split
    · rename_i maxPayloadBytes here
      exact balanced.allocate here
    · rename_i maxPayloadBytes here
      exact ⟨balanced.at here, balanced.count, balanced.accepted⟩
    · rename_i next here
      exact balanced.freeTurn here
    · exact balanced
  | wait interrupted =>
    rw [Cmp.exec]
    split
    · rename_i maxPayloadBytes here
      have free := balanced.at here
      split
      · exact balanced_leave (free.1.trans free.2.symm) balanced.count fun _ => by decide
      · exact ⟨free, balanced.count, balanced.accepted⟩
    · exact balanced
  | manage managed =>
    rw [Cmp.exec]
    split
    · rename_i maxPayloadBytes here
      exact balanced.allocateManage here managed
    · rename_i here
      exact balanced.updateManage here (undisturbed here) managed
    · exact balanced
  | lock locked =>
    rw [Cmp.exec]
    split
    · rename_i call maxPayloadBytes old errors cached here
      exact balanced.swapTurn here locked
    · exact balanced
  | busReset => exact ⟨balanced.place, balanced.count, balanced.accepted⟩
  | foreign ipcr => exact ⟨balanced.place, balanced.count, balanced.accepted⟩

end balance

theorem resources_agree (s : Cmp) (ops : List CmpOp) (fresh : s.Fresh)
    (undisturbed : Throughout exec (fun s op _ => s.Undisturbed op) s ops) :
    Throughout exec (fun s _ s' => s.Agrees ∧ s'.Agrees) s ops := by
  apply Throughout.steps Balanced fresh.balanced undisturbed
  intro s op balanced undisturbed
  have next := balanced.exec op undisturbed
  exact ⟨⟨balanced.agrees, next.agrees⟩, next⟩

def initial : Cmp :=
  { conn :=
      { speed := 0, maxSpeed := 2, connected := false, lastPcrValue := IPCR_ONLINE
        resources := { generation := 0, channel := 0, allocated := false, bandwidth := 0, bandwidthOverhead := 0 } }
    cardGeneration := 1, gapCount := 5, deviceSpeed := 2, ipcr := IPCR_ONLINE, control := .idle, finished := none,
    acquired := 0, released := 0, own := false, made := false, replaced := none }

theorem initial_fresh : initial.Fresh := ⟨rfl, ⟨rfl, rfl⟩, rfl, rfl⟩

def established : List CmpOp :=
  [.establish 200, .proceed, .proceed, .wait false, .manage (.channel 3), .lock .respond]

instance (s : Cmp) : (op : CmpOp) → Decidable (s.Undisturbed op)
  | .manage _ =>
    match control : s.control with
    | .updating =>
      if same : s.cardGeneration = s.conn.resources.generation then .isTrue fun _ => same
      else .isFalse fun all => same (all control)
    | .idle | .allocating _ | .reading _ | .waiting _ | .managing _ | .swapping _ _ _ _ _ | .freeing _ =>
      .isTrue fun updating => CmpControl.noConfusion (control.symm.trans updating)
  | .establish _ | .update | .breakConnection | .proceed | .wait _ | .lock _ | .busReset | .foreign _ => .isTrue trivial

theorem resources_agree_break : Throughout exec (fun s _ s' => s.Agrees ∧ s'.Agrees) initial
    (established ++ [.busReset, .update, .manage (.channel 3), .lock .respond, .lock .respond, .breakConnection,
      .lock .respond, .proceed]) :=
  resources_agree _ _ initial_fresh (by decide +kernel)

/-- A second bus reset while the resources are updated. -/
theorem update_pretends : ¬ ∀ (s : Cmp) (ops : List CmpOp), s.Fresh →
    Throughout exec (fun s _ s' => s.Agrees ∧ s'.Agrees) s ops := by
  intro all
  have run := all initial (established ++ [.busReset, .update, .busReset, .manage .busy]) initial_fresh
  have last := run.2.2.2.2.2.2.2.2.2.1.2 rfl
  exact absurd last.1 (by decide +kernel)

end Cmp

end AlsaDriver.Firewire
