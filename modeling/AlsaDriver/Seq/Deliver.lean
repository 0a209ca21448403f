import Mathlib.Algebra.Group.Int.Defs
import Mathlib.Data.List.Forall2
import AlsaDriver.Seq.CheckQueue
import AlsaDriver.Seq.Fifo
import AlsaDriver.Seq.Ports
import AlsaDriver.Lib.Runs

namespace AlsaDriver.Seq

open Function

def EPERM : Int := 1

def SNDRV_SEQ_MAX_CLIENTS : Nat := 192
def SNDRV_SEQ_CLIENT_SYSTEM : Nat := 0
def SNDRV_SEQ_PORT_SYSTEM_ANNOUNCE : Nat := 1
def SNDRV_SEQ_FILTER_BOUNCE : BitVec 32 := 0x4
def SNDRV_SEQ_FILTER_USE_EVENT : BitVec 32 := 0x80000000
def SNDRV_SEQ_PORT_CAP_WRITE : BitVec 32 := 0x2
def SNDRV_SEQ_PORT_SUBS_TIMESTAMP : BitVec 32 := 0x2
def SNDRV_SEQ_PORT_SUBS_TIME_REAL : BitVec 32 := 0x4

structure Timeval where
  tvSec : Int
  tvUsec : Int

structure QueueTimer extends SndSeqTimer where
  lastUpdate : Timeval

def QueueTimer.getCurTime (tmr : QueueTimer) (now : Timeval) : SndSeqRealTime :=
  if tmr.running then
    let usec := now.tvUsec - tmr.lastUpdate.tvUsec
    let sec := now.tvSec - tmr.lastUpdate.tvSec
    let (sec, usec) := if usec < 0 then (sec - 1, 1000000 + usec) else (sec, usec)
    sndSeqSanityRealTime ⟨((tmr.curTime.tvSec + sec) % 2 ^ 32).toNat, ((tmr.curTime.tvNsec + usec * 1000) % 2 ^ 32).toNat⟩
  else tmr.curTime

inductive ClientType where
  | noClient
  | user
  | kernel
  deriving DecidableEq

structure SndSeqClient where
  number : Nat
  type : ClientType
  acceptInput : Bool
  filter : BitVec 32
  eventFilter : Nat → Bool
  fifo : Option SndSeqFifo
  eventLost : Nat

/-- What a delivery reads of a port; `hasInput` tells whether there is an input callback. -/
structure SndSeqClientPort where
  capability : BitVec 32
  timestamping : Bool
  timeReal : Bool
  timeQueue : Nat
  hasInput : Bool

structure SeqSystem where
  client : Nat → Option SndSeqClient
  ports : PortsState
  port : Nat → SndSeqClientPort
  queue : Nat → Option QueueTimer
  now : Timeval
  m : SeqMemory

structure SndSeqEvQuote where
  origin : SndSeqAddr
  value : Int
  event : SndSeqEvent

structure Passing where
  atomic : Bool
  hop : Nat

abbrev EventInput := Nat → SndSeqEvent → Option SndSeqEvQuote → Bool → Passing → SeqSystem → Int × SndSeqEvent × SeqSystem

/-- A call of `snd_seq_deliver_single_event`. -/
structure Offer where
  system : SeqSystem
  event : SndSeqEvent

structure Delivery where
  result : Int
  event : SndSeqEvent
  system : SeqSystem
  offers : List Offer

def checkPortPerm (port : SndSeqClientPort) (flags : BitVec 32) : Bool := port.capability &&& flags == flags

namespace SeqSystem

variable (s : SeqSystem)

def setClient (c : SndSeqClient) : SeqSystem := { s with client := update s.client c.number (some c) }

/-- `snd_seq_client_use_ptr` of a client that needs no module any more. -/
def clientUsePtr (id : Nat) : Option SndSeqClient := if SNDRV_SEQ_MAX_CLIENTS ≤ id then none else s.client id

def getEventDestClient (event : SndSeqEvent) (filter : BitVec 32) : Option SndSeqClient :=
  match s.clientUsePtr event.dest.client with
  | none => none
  | some dest =>
    if ¬ dest.acceptInput then none
    else if dest.filter &&& SNDRV_SEQ_FILTER_USE_EVENT ≠ 0 ∧ ¬ dest.eventFilter event.type then none
    else if filter ≠ 0 ∧ dest.filter &&& filter = 0 then none
    else some dest

/-- `update_timestamp_of_queue`; the tick is the first word of the union. -/
def updateTimestampOfQueue (event : SndSeqEvent) (queue : Nat) (realTime : Bool) : SndSeqEvent :=
  match s.queue queue with
  | none => event
  | some tmr =>
    if realTime then
      { event with
        queue := queue
        flags := (event.flags &&& ~~~SNDRV_SEQ_TIME_STAMP_MASK) ||| SNDRV_SEQ_TIME_STAMP_REAL
        time := tmr.getCurTime s.now }
    else
      { event with
        queue := queue
        flags := event.flags &&& ~~~SNDRV_SEQ_TIME_STAMP_MASK
        time := { event.time with tvSec := tmr.curTick } }

def portEvent (port : SndSeqClientPort) (event : SndSeqEvent) : SndSeqEvent :=
  if port.timestamping then s.updateTimestampOfQueue event port.timeQueue port.timeReal else event

def fifoEventIn (dest : SndSeqClient) (event : SndSeqEvent) : Int × SndSeqEvent × SeqSystem :=
  match dest.fifo with
  | none => (-ENOENT, event, s)
  | some fifo =>
    let (err, fifo, m) := sndSeqFifoEventIn fifo s.m event
    (err, event, { s.setClient { dest with fifo := some fifo } with m := m })

section Deliver

variable (eventInput : EventInput) (pass : Passing)

/-- `snd_seq_deliver_single_event` up to its last test. A FIFO keeps a quote in the data of the event. -/
def deliverOnce (filter : BitVec 32) (event : SndSeqEvent) (quote : Option SndSeqEvQuote) :
    Int × SndSeqEvent × SeqSystem :=
  match s.getEventDestClient event filter with
  | none => (-ENOENT, event, s)
  | some dest =>
    match s.ports.usePtr event.dest with
    | none => (-ENOENT, event, s)
    | some port =>
      if ¬ checkPortPerm (s.port port) SNDRV_SEQ_PORT_CAP_WRITE then (-EPERM, event, s)
      else
        let stamped := s.portEvent (s.port port) event
        match dest.type with
        | .user => s.fifoEventIn dest stamped
        | .kernel =>
          if ¬ (s.port port).hasInput then (-ENOENT, stamped, s) else eventInput port stamped quote event.isDirect pass s
        | .noClient => (-ENOENT, stamped, s)

def bounceEvent (client : SndSeqClient) (event : SndSeqEvent) : SndSeqEvent :=
  { blankEvent with
    type := SNDRV_SEQ_EVENT_KERNEL_ERROR
    flags := SNDRV_SEQ_EVENT_LENGTH_FIXED
    queue := SNDRV_SEQ_QUEUE_DIRECT
    source := ⟨SNDRV_SEQ_CLIENT_SYSTEM, SNDRV_SEQ_PORT_SYSTEM_ANNOUNCE⟩
    dest := ⟨client.number, event.source.port⟩ }

def bouncing (client : Option Nat) : Option SndSeqClient :=
  match client.bind s.client with
  | none => none
  | some c => if c.filter &&& SNDRV_SEQ_FILTER_BOUNCE = 0 ∨ ¬ c.acceptInput then none else some c

/-- `bounce_error_event`; the bounced event is direct and is not bounced again. -/
def bounceErrorEvent (client : Option Nat) (event : SndSeqEvent) (err : Int) : Int × SeqSystem :=
  match s.bouncing client with
  | none => (0, s)
  | some c =>
    let (result, _, s) := s.deliverOnce eventInput { pass with hop := pass.hop + 1 } 0 (bounceEvent c event)
      (some ⟨event.dest, -err, event⟩)
    if result < 0 then
      (result, { s with client := update s.client c.number ((s.client c.number).map fun c => { c with eventLost := c.eventLost + 1 }) })
    else (result, s)

def sndSeqDeliverSingleEvent (client : Option Nat) (event : SndSeqEvent) (filter : BitVec 32) :
    Int × SndSeqEvent × SeqSystem :=
  let (result, left, s) := s.deliverOnce eventInput pass filter event none
  if result < 0 ∧ ¬ event.isDirect then
    let (result, s) := s.bounceErrorEvent eventInput pass client left result
    (result, left, s)
  else (result, left, s)

def subsEvent (event : SndSeqEvent) (info : SndSeqPortSubscribe) : SndSeqEvent :=
  let event := { event with dest := info.dest }
  if info.flags &&& SNDRV_SEQ_PORT_SUBS_TIMESTAMP ≠ 0 then
    s.updateTimestampOfQueue event info.queue (info.flags &&& SNDRV_SEQ_PORT_SUBS_TIME_REAL != 0)
  else event

/-- The loop of `deliver_to_subscribers`, under the lock of the list. -/
def deliverLoop (client : Option Nat) (saved : SndSeqEvent) :
    Nat → Int → SndSeqEvent → SeqSystem → List SndSeqPortSubscribe → Delivery
  | numEv, err, event, s, [] => ⟨if err < 0 then err else numEv, event, s, []⟩
  | numEv, _, event, s, info :: rest =>
    let event := s.subsEvent event info
    let (err, left, after) := s.sndSeqDeliverSingleEvent eventInput pass client event 0
    if err < 0 then ⟨err, left, after, [⟨s, event⟩]⟩
    else
      let later := deliverLoop client saved (numEv + 1) err saved after rest
      { later with offers := ⟨s, event⟩ :: later.offers }

def subscribers (port : Nat) : List SndSeqPortSubscribe :=
  (s.ports.group (.src, port)).list.map fun id => (s.ports.subs id).info

def deliverToSubscribers (client : Option Nat) (event : SndSeqEvent) : Delivery :=
  match client.bind fun c => s.ports.usePtr ⟨c, event.source.port⟩ with
  | none => ⟨-EINVAL, event, s, []⟩
  | some srcPort => { deliverLoop eventInput pass client event 0 0 event s (s.subscribers srcPort) with event := event }

end Deliver

end SeqSystem

end AlsaDriver.Seq

namespace AlsaDriver.Seq

open Function Runs

/-- Every subscriber is offered the event once and in turn, each with its own address and its own time
    stamp: nothing in it depends on another subscriber. The record of the caller is as before. -/
structure FansOut (event : SndSeqEvent) (subs : List SndSeqPortSubscribe) (r : Delivery) : Prop where
  each : List.Forall₂ (fun info offer => offer.event = offer.system.subsEvent event info) subs r.offers
  kept : r.event = event

namespace SeqSystem

variable (s : SeqSystem) (eventInput : EventInput) (pass : Passing) (client : Option Nat)

def Takes (filter : BitVec 32) (event : SndSeqEvent) (quote : Option SndSeqEvQuote) : Prop :=
  ∃ dest port, s.getEventDestClient event filter = some dest ∧ s.ports.usePtr event.dest = some port ∧
    checkPortPerm (s.port port) SNDRV_SEQ_PORT_CAP_WRITE = true ∧
    match dest.type with
    | .user => ∃ fifo, dest.fifo = some fifo ∧ 0 ≤ (sndSeqFifoEventIn fifo s.m (s.portEvent (s.port port) event)).1
    | .kernel => (s.port port).hasInput = true ∧
        0 ≤ (eventInput port (s.portEvent (s.port port) event) quote event.isDirect pass s).1
    | .noClient => False

def TakesBounce (event : SndSeqEvent) (err : Int) : Prop :=
  ∀ c, s.bouncing client = some c →
    s.Takes eventInput { pass with hop := pass.hop + 1 } 0 (bounceEvent c event) (some ⟨event.dest, -err, event⟩)

def Tolerates (event : SndSeqEvent) : Prop :=
  s.Takes eventInput pass 0 event none ∨ event.isDirect = false ∧
    (s.deliverOnce eventInput pass 0 event none).2.2.TakesBounce eventInput pass client
      (s.deliverOnce eventInput pass 0 event none).2.1 (s.deliverOnce eventInput pass 0 event none).1

def offered (event : SndSeqEvent) (s : SeqSystem) (info : SndSeqPortSubscribe) : SeqSystem :=
  (s.sndSeqDeliverSingleEvent eventInput pass client (s.subsEvent event info) 0).2.2

variable {s eventInput pass client}

theorem fifoEventIn_nonneg {dest : SndSeqClient} {event : SndSeqEvent} : 0 ≤ (s.fifoEventIn dest event).1 ↔
    ∃ fifo, dest.fifo = some fifo ∧ 0 ≤ (sndSeqFifoEventIn fifo s.m event).1 := by
  rw [fifoEventIn]
  cases fifo : dest.fifo with
  | none => simp [ENOENT]
  | some fifo => simp

theorem deliverOnce_nonneg {filter : BitVec 32} {event : SndSeqEvent} {quote : Option SndSeqEvQuote} :
    0 ≤ (s.deliverOnce eventInput pass filter event quote).1 ↔ s.Takes eventInput pass filter event quote := by
  rw [deliverOnce, Takes]
  cases s.getEventDestClient event filter with
  | none => simp [ENOENT]
  | some dest =>
    cases s.ports.usePtr event.dest with
    | none => simp [ENOENT]
    | some port =>
      cases allowed : checkPortPerm (s.port port) SNDRV_SEQ_PORT_CAP_WRITE with
      | false => simp [allowed, EPERM]
      | true =>
        cases kind : dest.type with
        | user => simp [allowed, kind, fifoEventIn_nonneg]
        | kernel => cases input : (s.port port).hasInput <;> simp [allowed, kind, input, ENOENT]
        | noClient => simp [allowed, kind, ENOENT]

theorem bounceErrorEvent_nonneg {event : SndSeqEvent} {err : Int} :
    0 ≤ (s.bounceErrorEvent eventInput pass client event err).1 ↔ s.TakesBounce eventInput pass client event err := by
  rw [bounceErrorEvent, TakesBounce]
  cases s.bouncing client with
  | none => simp
  | some c =>
    simp only [Option.some.injEq, forall_eq', ← deliverOnce_nonneg]
    split
    · exact Iff.rfl
    · exact Iff.rfl

theorem sndSeqDeliverSingleEvent_nonneg {event : SndSeqEvent} :
    0 ≤ (s.sndSeqDeliverSingleEvent eventInput pass client event 0).1 ↔ s.Tolerates eventInput pass client event := by
  rw [sndSeqDeliverSingleEvent, Tolerates, ← deliverOnce_nonneg, ← bounceErrorEvent_nonneg]
  dsimp only
  cases direct : event.isDirect with
  | true => simp
  | false =>
    split
    · rename_i failed
      rw [or_iff_right (not_le_of_gt failed.1)]
      simp
    · rename_i passed
      have taken : 0 ≤ (s.deliverOnce eventInput pass 0 event none).1 := by
        simpa using passed
      exact iff_of_true taken (Or.inl taken)

theorem deliverLoop_each {event : SndSeqEvent} {numEv : Nat} {err : Int} {subs : List SndSeqPortSubscribe} :
    List.Forall₂ (fun info offer => offer.event = offer.system.subsEvent event info) subs
        (deliverLoop eventInput pass client event numEv err event s subs).offers ↔
      Throughout (offered eventInput pass client event)
        (fun s info _ => s.Tolerates eventInput pass client (s.subsEvent event info)) s subs.dropLast := by
  induction subs generalizing s numEv err with
  | nil => exact iff_of_true .nil trivial
  | cons info rest ih =>
    have passes : 0 ≤ (s.sndSeqDeliverSingleEvent eventInput pass client (s.subsEvent event info) 0).1 ↔
        s.Tolerates eventInput pass client (s.subsEvent event info) := sndSeqDeliverSingleEvent_nonneg
    rw [deliverLoop]
    dsimp only
    cases rest with
    | nil =>
      apply iff_of_true _ trivial
      split
      · exact .cons rfl .nil
      · exact .cons rfl .nil
    | cons next rest =>
      rw [List.dropLast_cons_cons, Throughout, ← passes]
      split
      · rename_i failed
        refine iff_of_false ?_ (fun all => absurd all.1 (not_le_of_gt failed))
        intro all
        have short := all.length_eq
        simp at short
      · rename_i passed
        rw [List.forall₂_cons, and_iff_right rfl, ih, and_iff_right (not_lt.mp passed)]
        rfl

variable (s eventInput pass client)

def sourceSubscribers (event : SndSeqEvent) : List SndSeqPortSubscribe :=
  match client.bind fun c => s.ports.usePtr ⟨c, event.source.port⟩ with
  | none => []
  | some port => s.subscribers port

/-- The event reaches all subscribers exactly when each but the last, in its turn, takes it or sends the
    error back. -/
theorem deliverToSubscribers_fansOut (event : SndSeqEvent) :
    FansOut event (s.sourceSubscribers client event) (s.deliverToSubscribers eventInput pass client event) ↔
      Throughout (offered eventInput pass client event)
        (fun s info _ => s.Tolerates eventInput pass client (s.subsEvent event info)) s
        (s.sourceSubscribers client event).dropLast := by
  rw [sourceSubscribers, deliverToSubscribers]
  cases client.bind fun c => s.ports.usePtr ⟨c, event.source.port⟩ with
  | none => exact iff_of_true ⟨.nil, rfl⟩ trivial
  | some port =>
    rw [← deliverLoop_each]
    exact ⟨FansOut.each, fun each => ⟨each, rfl⟩⟩

end SeqSystem

def subsTo (client : Nat) : SndSeqPortSubscribe := ⟨⟨0, 0⟩, ⟨client, 0⟩, 0, 0⟩

def kernelClient (number : Nat) (acceptInput : Bool) : SndSeqClient :=
  ⟨number, .kernel, acceptInput, 0, fun _ => true, none, 0⟩

def deafFirst : SeqSystem where
  client := fun id => some (kernelClient id (id != 1))
  ports := [PortsOp.createPort 0 none (fun _ => false) false, .createPort 1 none (fun _ => false) false,
    .createPort 2 none (fun _ => false) false, .connect (subsTo 1) ⟨true, fun _ => true, fun _ => 0⟩,
    .connect (subsTo 2) ⟨true, fun _ => true, fun _ => 0⟩].foldl PortsState.exec PortsState.noPorts
  port := fun _ => ⟨SNDRV_SEQ_PORT_CAP_WRITE, false, false, 0, true⟩
  queue := fun _ => none
  now := ⟨0, 0⟩
  m := emptyMemory

def directEvent : SndSeqEvent := { blankEvent with queue := SNDRV_SEQ_QUEUE_DIRECT }

def acceptAll : EventInput := fun _ event _ _ _ s => (0, event, s)

/-- The second subscriber is never offered the event. -/
theorem fansOut_deafFirst :
    deafFirst.sourceSubscribers (some 0) directEvent = [subsTo 1, subsTo 2] ∧
      ((deafFirst.deliverToSubscribers acceptAll ⟨true, 0⟩ (some 0) directEvent).offers.map fun o => o.event.dest.client) = [1] ∧
      ¬ FansOut directEvent (deafFirst.sourceSubscribers (some 0) directEvent)
        (deafFirst.deliverToSubscribers acceptAll ⟨true, 0⟩ (some 0) directEvent) := by
  refine ⟨by decide, by decide, ?_⟩
  intro fans
  exact absurd fans.each.length_eq (by decide)

end AlsaDriver.Seq
