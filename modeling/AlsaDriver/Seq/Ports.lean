import AlsaDriver.Seq.Memory

namespace AlsaDriver.Seq

open Function

def ENOENT : Int := 2
def EFAULT : Int := 14
def EBUSY : Int := 16
def ENXIO : Int := 6

def SNDRV_SEQ_MAX_PORTS : Nat := 254

/-- `enum group_type`: the subscriptions of a port as sender and as receiver. -/
inductive GroupType where
  | src
  | dest
  deriving DecidableEq, Repr

def GroupType.peer : GroupType → GroupType
  | src => dest
  | dest => src

structure SndSeqPortSubscribe where
  sender : SndSeqAddr
  dest : SndSeqAddr
  flags : BitVec 32
  queue : Nat
  deriving DecidableEq

def SNDRV_SEQ_PORT_SUBS_EXCLUSIVE : BitVec 32 := 1

namespace SndSeqPortSubscribe

variable (info : SndSeqPortSubscribe)

def exclusive : Bool := info.flags &&& SNDRV_SEQ_PORT_SUBS_EXCLUSIVE != 0

def addr : GroupType → SndSeqAddr
  | .src => info.sender
  | .dest => info.dest

end SndSeqPortSubscribe

def matchSubsInfo (r s : SndSeqPortSubscribe) : Bool :=
  if r.sender = s.sender ∧ r.dest = s.dest then
    if r.flags ≠ 0 ∧ r.flags = s.flags then r.queue == s.queue else r.flags == 0
  else false

structure SndSeqSubscribers where
  info : SndSeqPortSubscribe
  refCount : Nat

/-- One of the two groups of a port; `hasOpen` tells whether there is an open callback. -/
structure SndSeqPortSubsInfo where
  list : List Nat
  count : Nat
  exclusive : Bool
  hasOpen : Bool
  deriving DecidableEq

namespace SndSeqPortSubsInfo

variable (grp : SndSeqPortSubsInfo)

def init : SndSeqPortSubsInfo := ⟨[], 0, false, false⟩

/-- `subscribe_port`, with the results of `try_module_get` and of the open callback. -/
def subscribe (callbackAll moduleOk : Bool) (opened : Int) : Int × SndSeqPortSubsInfo :=
  if ¬ moduleOk then (-EFAULT, grp)
  else
    let grp := { grp with count := grp.count + 1 }
    if grp.hasOpen ∧ (callbackAll ∨ grp.count = 1) then
      if opened < 0 then (opened, { grp with count := grp.count - 1 }) else (opened, grp)
    else (0, grp)

/-- `unsubscribe_port`, whose close callback changes nothing here. -/
def unsubscribe : SndSeqPortSubsInfo := if grp.count = 0 then grp else { grp with count := grp.count - 1 }

end SndSeqPortSubsInfo

/-- The ports of all clients and the subscription records, both named by numbers that `kzalloc` gives
    out once. A record is in the lists of the groups where its two links are. -/
structure PortsState where
  portsListHead : Nat → List Nat
  numPorts : Nat → Nat
  addr : Nat → SndSeqAddr
  callbackAll : Nat → Bool
  closing : Nat → Bool
  group : GroupType × Nat → SndSeqPortSubsInfo
  subs : Nat → SndSeqSubscribers
  nextPort : Nat
  nextSubs : Nat
  freed : List Nat

structure ConnectEnv where
  allocated : Bool
  moduleOk : GroupType → Bool
  opened : GroupType → Int

inductive PortsOp where
  | createPort (client : Nat) (port : Option (Fin 256)) (hasOpen : GroupType → Bool) (callbackAll : Bool)
  | connect (info : SndSeqPortSubscribe) (env : ConnectEnv)
  | disconnect (info : SndSeqPortSubscribe)
  | deletePort (client port : Nat)
  | deleteAllPorts (client : Nat)

def insertPort (number : Nat → Nat) (auto : Bool) (new : Nat) : Nat → List Nat → Nat × List Nat
  | num, [] => (num, [new])
  | num, p :: rest =>
    if num < number p then (num, new :: p :: rest)
    else
      let (num, rest) := insertPort number auto new (if auto then number p + 1 else num) rest
      (num, p :: rest)

namespace PortsState

variable (s : PortsState)

/-- `snd_seq_port_use_ptr` of the client of the address. -/
def usePtr (a : SndSeqAddr) : Option Nat :=
  match (s.portsListHead a.client).find? fun p => (s.addr p).port == a.port with
  | some p => if s.closing p then none else some p
  | none => none

def setGroup (key : GroupType × Nat) (grp : SndSeqPortSubsInfo) : PortsState :=
  { s with group := update s.group key grp }

def setExclusive (key : GroupType × Nat) (exclusive : Bool) : PortsState :=
  s.setGroup key { s.group key with exclusive := exclusive }

def unsubscribe (key : GroupType × Nat) : PortsState := s.setGroup key (s.group key).unsubscribe

/-- `list_del` of one link of a record, in whichever list it is. -/
def listDel (type : GroupType) (id : Nat) : PortsState :=
  { s with
    group := fun key =>
      if key.1 = type then { s.group key with list := (s.group key).list.erase id } else s.group key }

def listAddTail (key : GroupType × Nat) (id : Nat) : PortsState :=
  s.setGroup key { s.group key with list := (s.group key).list ++ [id] }

def kfree (id : Nat) : PortsState := { s with freed := s.freed ++ [id] }

/-- `atomic_dec_and_test`, and the record is freed with its last reference. -/
def decAndFree (id : Nat) : PortsState :=
  let count := (s.subs id).refCount - 1
  let s := { s with subs := update s.subs id { s.subs id with refCount := count } }
  if count = 0 then s.kfree id else s

/-- `snd_seq_create_port`, and the callbacks that its caller sets. -/
def sndSeqCreatePort (client : Nat) (port : Option (Fin 256)) (hasOpen : GroupType → Bool) (callbackAll : Bool) :
    PortsState :=
  if SNDRV_SEQ_MAX_PORTS - 1 ≤ s.numPorts client then s
  else
    let new := s.nextPort
    let (num, ports) := insertPort (fun p => (s.addr p).port) port.isNone new
      (port.elim 0 fun n => n.val) (s.portsListHead client)
    { s with
      portsListHead := update s.portsListHead client ports
      numPorts := update s.numPorts client (s.numPorts client + 1)
      addr := update s.addr new ⟨client, num % 256⟩
      callbackAll := update s.callbackAll new callbackAll
      closing := update s.closing new false
      group := fun key => if key.2 = new then { SndSeqPortSubsInfo.init with hasOpen := hasOpen key.1 } else s.group key
      nextPort := new + 1 }

def busy (src dest : SndSeqPortSubsInfo) (info : SndSeqPortSubscribe) : Bool :=
  if info.exclusive then !src.list.isEmpty || !dest.list.isEmpty
  else src.exclusive || dest.exclusive || src.list.any (fun id => matchSubsInfo info (s.subs id).info) ||
    dest.list.any (fun id => matchSubsInfo info (s.subs id).info)

def addSubs (sport dport id : Nat) (exclusive : Bool) : PortsState :=
  (((s.listAddTail (.src, sport) id).listAddTail (.dest, dport) id).setExclusive (.src, sport) exclusive).setExclusive
    (.dest, dport) exclusive

def sndSeqPortConnect (sport dport : Nat) (info : SndSeqPortSubscribe) (env : ConnectEnv) : Int × PortsState :=
  if ¬ env.allocated then (-ENOMEM, s)
  else
    let id := s.nextSubs
    let s := { s with subs := update s.subs id ⟨info, 2⟩, nextSubs := id + 1 }
    if s.busy (s.group (.src, sport)) (s.group (.dest, dport)) info then (-EBUSY, s.kfree id)
    else
      let (err, src) := (s.group (.src, sport)).subscribe (s.callbackAll sport) (env.moduleOk .src) (env.opened .src)
      let s := s.setGroup (.src, sport) src
      if err < 0 then (err, s.kfree id)
      else
        let (err, dest) := (s.group (.dest, dport)).subscribe (s.callbackAll dport) (env.moduleOk .dest) (env.opened .dest)
        let s := s.setGroup (.dest, dport) dest
        if err < 0 then (err, (s.unsubscribe (.src, sport)).kfree id)
        else (0, s.addSubs sport dport id info.exclusive)

def sndSeqPortDisconnect (sport dport : Nat) (info : SndSeqPortSubscribe) : Int × PortsState :=
  match (s.group (.src, sport)).list.find? fun id => matchSubsInfo info (s.subs id).info with
  | none => (-ENOENT, s)
  | some id =>
    let s := (s.listDel .src id).listDel .dest id
    let s := (s.setExclusive (.src, sport) false).setExclusive (.dest, dport) false
    (0, ((s.unsubscribe (.src, sport)).unsubscribe (.dest, dport)).kfree id)

/-- The body of the loop of `clear_subscriber_list`. -/
def clearSubscriber (type : GroupType) (port : Nat) (s : PortsState) (id : Nat) : PortsState :=
  let aport := s.usePtr ((s.subs id).info.addr type.peer)
  let s := (s.listDel type id).unsubscribe (type, port)
  match aport with
  | none => s.decAndFree id
  | some aport => ((s.listDel type.peer id).unsubscribe (type.peer, aport)).kfree id

def clearSubscriberList (port : Nat) (type : GroupType) : PortsState :=
  (s.group (type, port)).list.foldl (clearSubscriber type port) s

def portDelete (s : PortsState) (port : Nat) : PortsState :=
  let s := { s with closing := update s.closing port true }
  (s.clearSubscriberList port .src).clearSubscriberList port .dest

/-- The port that `snd_seq_delete_port` finds, whether or not it is closing. -/
def findPort (client port : Nat) : Option Nat := (s.portsListHead client).find? fun p => (s.addr p).port == port

def sndSeqDeletePort (client port : Nat) : Int × PortsState :=
  match s.findPort client port with
  | none => (-ENOENT, s)
  | some found =>
    (0, ({ s with
      portsListHead := update s.portsListHead client ((s.portsListHead client).erase found)
      numPorts := update s.numPorts client (s.numPorts client - 1) } : PortsState).portDelete found)

def sndSeqDeleteAllPorts (client : Nat) : PortsState :=
  (s.portsListHead client).foldl portDelete
    { s with portsListHead := update s.portsListHead client [], numPorts := update s.numPorts client 0 }

def connect (info : SndSeqPortSubscribe) (env : ConnectEnv) : Int × PortsState :=
  match s.usePtr info.sender, s.usePtr info.dest with
  | some sport, some dport => s.sndSeqPortConnect sport dport info env
  | _, _ => (-EINVAL, s)

def disconnect (info : SndSeqPortSubscribe) : Int × PortsState :=
  match s.usePtr info.sender, s.usePtr info.dest with
  | some sport, some dport => s.sndSeqPortDisconnect sport dport info
  | _, _ => (- ENXIO, s)

def exec (s : PortsState) : PortsOp → PortsState
  | .createPort client port hasOpen callbackAll => s.sndSeqCreatePort client port hasOpen callbackAll
  | .connect info env => (s.connect info env).2
  | .disconnect info => (s.disconnect info).2
  | .deletePort client port => (s.sndSeqDeletePort client port).2
  | .deleteAllPorts client => s.sndSeqDeleteAllPorts client

def noPorts : PortsState where
  portsListHead := fun _ => []
  numPorts := fun _ => 0
  addr := fun _ => ⟨0, 0⟩
  callbackAll := fun _ => false
  closing := fun _ => false
  group := fun _ => .init
  subs := fun _ => ⟨⟨⟨0, 0⟩, ⟨0, 0⟩, 0, 0⟩, 0⟩
  nextPort := 0
  nextSubs := 0
  freed := []

end PortsState

end AlsaDriver.Seq
