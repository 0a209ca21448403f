import AlsaDriver.Usb.UrbRuns
import AlsaDriver.Usb.Payload

namespace AlsaDriver.Usb

open Runs

def packetOf (frames : List (Int × Nat)) (senderStride : Nat) : List Nat :=
  frames.map fun frame => if frame.1 = 0 then frame.2 / senderStride else 0

def receivedBytes (frames : List (Int × Nat)) : Nat := ((frames.filter fun frame => frame.1 == 0).map Prod.snd).sum

/-- The entries of a ring of `MAX_URBS` packets between two positions. -/
def ringPackets (packets : Nat → List Nat) (readPos writePos : Nat) : List (List Nat) :=
  (List.range ((writePos + MAX_URBS - readPos) % MAX_URBS)).map fun k => packets ((readPos + k) % MAX_URBS)

namespace SndUsbEndpoint

variable (ep : SndUsbEndpoint)

def waiting : List (List Nat) := ringPackets ep.nextPacket ep.nextPacketReadPos ep.nextPacketWritePos

def pushed (packet : List Nat) : SndUsbEndpoint :=
  { ep with
    nextPacket := Function.update ep.nextPacket ep.nextPacketWritePos packet
    nextPacketWritePos := (ep.nextPacketWritePos + 1) % MAX_URBS }

def packetSizes (ctx : Nat) (packet : List Nat) (i : Nat) : Nat := packet.getD i (ep.packetSize ctx i)

def served (submits : Nat → Bool) (ctx : Nat) (rest : List Nat) : SndUsbEndpoint :=
  ep.taken submits ctx rest ((ep.nextPacketReadPos + 1) % MAX_URBS)
    (Function.update ep.packetSize ctx (ep.packetSizes ctx (ep.nextPacket ep.nextPacketReadPos)))

/-- The URBs that `queue_pending_output_urbs` prepares and submits. -/
def loopUrbs (data : DataEp) (provided : Bool) (submits : Nat → Bool) : List Nat → SndUsbEndpoint → Pace → List Urb × Pace
  | [], _, pace => ([], pace)
  | ctx :: rest, ep, pace =>
    if ep.nextPacketReadPos ≠ ep.nextPacketWritePos then
      let sizes := (List.range (data.urb ctx).packets).map (ep.packetSizes ctx (ep.nextPacket ep.nextPacketReadPos))
      let (urb, pace) := data.prepareOutboundUrb provided sizes pace
      let (urbs, pace) := loopUrbs data provided submits rest (ep.served submits ctx rest) pace
      (if submits ctx then urb :: urbs else urbs, pace)
    else ([], pace)

end SndUsbEndpoint

inductive FeedbackOp where
  | feedback (frames : List (Int × Nat)) (senderStride : Nat) (provided : Bool) (submits : Nat → Bool)
  | complete (i : Nat) (status : Int) (provided : Bool) (submits : Nat → Bool)

def FeedbackOp.usbOp : FeedbackOp → UsbOp
  | .feedback frames senderStride _ submits => .feedback frames senderStride submits
  | .complete i status _ submits => .complete i status submits

structure FeedbackSink where
  ep : SndUsbEndpoint
  pace : Pace
  received : List (List Nat)
  submitted : List Urb

namespace FeedbackSink

variable (data : DataEp) (s : FeedbackSink)

def queue (provided : Bool) (submits : Nat → Bool) : FeedbackSink :=
  let out := if s.ep.running then s.ep.loopUrbs data provided submits s.ep.readyPlaybackUrbs s.pace else ([], s.pace)
  { s with ep := s.ep.queuePendingOutputUrbs submits, pace := out.2, submitted := s.submitted ++ out.1 }

def exec : FeedbackOp → FeedbackSink
  | .feedback frames senderStride provided submits =>
    if s.ep.shutdown = true ∨ s.ep.implicitFeedbackSink = false ∨ s.ep.useCount = 0 ∨ receivedBytes frames = 0 then s
    else
      let packet := packetOf frames senderStride
      { s with ep := s.ep.pushed packet, received := s.received ++ [packet] }.queue data provided submits
  | .complete i status provided submits =>
    if s.ep.inFlight i = true ∧ ¬ s.ep.gone status ∧ s.ep.running = true ∧ s.ep.implicitFeedbackSink = true then
      let s := { s with ep := (s.ep.landed i).listAddTail i }.queue data provided submits
      { s with ep := s.ep.clearBit i }
    else { s with ep := s.ep.exec (.complete i status submits) }

end FeedbackSink

section ring

theorem ringPackets_eq {packets : Nat → List Nat} {pos : Nat} : ringPackets packets pos pos = [] := by
  have none : (pos + MAX_URBS - pos) % MAX_URBS = 0 := by
    rw [Nat.add_sub_cancel_left, Nat.mod_self]
  rw [ringPackets, none, List.range_zero, List.map_nil]

theorem ringPackets_cons {packets : Nat → List Nat} {readPos writePos : Nat} (read : readPos < MAX_URBS)
    (write : writePos < MAX_URBS) (some : readPos ≠ writePos) :
    ringPackets packets readPos writePos = packets readPos :: ringPackets packets ((readPos + 1) % MAX_URBS) writePos := by
  have count : (writePos + MAX_URBS - readPos) % MAX_URBS =
      (writePos + MAX_URBS - (readPos + 1) % MAX_URBS) % MAX_URBS + 1 := by
    simp only [MAX_URBS] at *
    omega
  rw [ringPackets, count, List.range_succ_eq_map, List.map_cons, List.map_map, Nat.add_zero, Nat.mod_eq_of_lt read, ringPackets]
  congr 1
  apply List.map_congr_left
  intro k _
  show packets ((readPos + (k + 1)) % MAX_URBS) = packets (((readPos + 1) % MAX_URBS + k) % MAX_URBS)
  rw [Nat.mod_add_mod]
  congr 2
  omega

theorem ringPackets_push {packets : Nat → List Nat} {readPos writePos : Nat} (read : readPos < MAX_URBS)
    (write : writePos < MAX_URBS) (packet : List Nat)
    (room : (writePos + MAX_URBS - readPos) % MAX_URBS + 1 < MAX_URBS) :
    ringPackets (Function.update packets writePos packet) readPos ((writePos + 1) % MAX_URBS) =
      ringPackets packets readPos writePos ++ [packet] := by
  have count : ((writePos + 1) % MAX_URBS + MAX_URBS - readPos) % MAX_URBS =
      (writePos + MAX_URBS - readPos) % MAX_URBS + 1 := by
    simp only [MAX_URBS] at *
    omega
  rw [ringPackets, count, List.range_succ, List.map_append, List.map_singleton, ringPackets]
  congr 1
  · apply List.map_congr_left
    intro k inside
    have before := List.mem_range.mp inside
    apply Function.update_of_ne
    simp only [MAX_URBS] at *
    omega
  · have place : (readPos + (writePos + MAX_URBS - readPos) % MAX_URBS) % MAX_URBS = writePos := by
      simp only [MAX_URBS] at *
      omega
    rw [place, Function.update_self]

end ring

section lengths

variable {data : DataEp}

def Urb.lengths (urb : Urb) : List Nat := urb.isoFrameDesc.map Prod.snd

def frameLengths (data : DataEp) (packet : List Nat) : List Nat := packet.map fun count => wrap (count * data.stride)

theorem silence_lengths (sizes : List Nat) (offs : Nat) (pace : Pace) (counted : ∀ size ∈ sizes, size ≠ 0) :
    (data.silenceLoop sizes offs pace).1.lengths = frameLengths data sizes ∧
      (data.silenceLoop sizes offs pace).2 = pace := by
  induction sizes generalizing offs with
  | nil => exact ⟨rfl, rfl⟩
  | cons size sizes ih =>
    have same : data.counts size pace = (size, pace) := if_pos (counted size (List.mem_cons_self ..))
    obtain ⟨others, kept⟩ := ih (wrap (offs + size)) fun size' inside => counted size' (List.mem_cons_of_mem _ inside)
    simp only [DataEp.silenceLoop, same]
    exact ⟨congrArg (wrap (size * data.stride) :: ·) others, kept⟩

theorem playback_lengths (sink : data.sink = true) (small : data.periodSize < 2 ^ 32) (sizes : List Nat) (frames : Nat)
    (elapsed : Bool) (pace : Pace) (counted : ∀ size ∈ sizes, size ≠ 0)
    (within : data.typeII = true → pace.transferDone + sizes.sum ≤ data.periodSize) :
    (data.playbackLoop sizes frames elapsed pace).1.lengths = frameLengths data sizes ∧
      (data.typeII = true → (data.playbackLoop sizes frames elapsed pace).2.transferDone ≤ pace.transferDone + sizes.sum) := by
  induction sizes generalizing frames elapsed pace with
  | nil => exact ⟨rfl, fun _ => Nat.le_add_right _ _⟩
  | cons size sizes ih =>
    have same : data.counts size pace = (size, pace) := if_pos (counted size (List.mem_cons_self ..))
    have others : ∀ size' ∈ sizes, size' ≠ 0 := fun size' inside => counted size' (List.mem_cons_of_mem _ inside)
    have plain : ¬ data.sink = false := by
      rw [sink]
      exact Bool.noConfusion
    rw [List.sum_cons] at within ⊢
    simp only [DataEp.playbackLoop, same]
    split
    · rename_i boundary
      split
      · rename_i typeII
        have bound := within typeII
        rw [@wrap_of_lt (pace.transferDone + size) (by omega)] at boundary ⊢
        have last : sizes = [] := by
          cases sizes with
          | nil => rfl
          | cons next rest =>
            have := others next (List.mem_cons_self ..)
            rw [List.sum_cons] at bound
            omega
        have none : pace.transferDone + size - data.periodSize = 0 := by omega
        have all : wrap (size + 2 ^ 32 - 0) = size := by
          rw [Nat.sub_zero, wrap, Nat.add_mod_right]
          exact Nat.mod_eq_of_lt (by omega)
        rw [none, last, if_neg (not_not.mpr rfl), all]
        exact ⟨rfl, fun _ => Nat.zero_le _⟩
      · rename_i other
        obtain ⟨rest, -⟩ := ih (wrap (frames + size)) true
          { pace with transferDone := wrap (pace.transferDone + size) - data.periodSize } others
          fun typeII => absurd typeII other
        exact ⟨congrArg (wrap (size * data.stride) :: ·) rest, fun typeII => absurd typeII other⟩
    · rw [if_neg fun both => plain both.2]
      have small' := wrap_le (pace.transferDone + size)
      obtain ⟨rest, kept⟩ := ih (wrap (frames + size)) elapsed
        { pace with transferDone := wrap (pace.transferDone + size) } others (by
          intro typeII
          have bound := within typeII
          show wrap (pace.transferDone + size) + sizes.sum ≤ _
          omega)
      refine ⟨congrArg (wrap (size * data.stride) :: ·) rest, ?_⟩
      intro typeII
      apply (kept typeII).trans
      show wrap (pace.transferDone + size) + sizes.sum ≤ _
      omega

theorem outbound_lengths (sink : data.sink = true) (small : data.periodSize < 2 ^ 32) (provided : Bool) (sizes : List Nat)
    (pace : Pace) (counted : ∀ size ∈ sizes, size ≠ 0)
    (within : provided = true → data.typeII = true → pace.transferDone + sizes.sum ≤ data.periodSize) :
    (data.prepareOutboundUrb provided sizes pace).1.lengths = frameLengths data sizes ∧ (provided = true → data.typeII = true →
      (data.prepareOutboundUrb provided sizes pace).2.transferDone ≤ pace.transferDone + sizes.sum) := by
  cases provided with
  | false => exact ⟨(silence_lengths sizes 0 pace counted).1, fun not _ => absurd not Bool.noConfusion⟩
  | true =>
    obtain ⟨same, kept⟩ := playback_lengths sink small sizes 0 false pace counted (within rfl)
    exact ⟨same, fun _ => kept⟩

end lengths

namespace SndUsbEndpoint

variable (data : DataEp) (ep : SndUsbEndpoint)

/-- All packets of the ring find an URB that is ready, that is made of as many packets and can be submitted, no
    packet is without frames, and a type II format stays within its period. -/
def Matched (provided : Bool) (submits : Nat → Bool) (pace : Pace) : Prop :=
  ep.waiting.length ≤ ep.readyPlaybackUrbs.length ∧
    (∀ pair ∈ ep.waiting.zip ep.readyPlaybackUrbs,
      submits pair.2 = true ∧ pair.1.length = (data.urb pair.2).packets ∧ ∀ count ∈ pair.1, count ≠ 0) ∧
    (provided = true → data.typeII = true → pace.transferDone + (ep.waiting.map List.sum).sum ≤ data.periodSize)

instance (provided : Bool) (submits : Nat → Bool) (pace : Pace) : Decidable (ep.Matched data provided submits pace) :=
  inferInstanceAs (Decidable (_ ∧ _))

structure Feeding : Prop where
  running : ep.running = true
  sink : ep.implicitFeedbackSink = true
  used : ep.useCount ≠ 0
  present : ep.shutdown = false
  positions : ep.nextPacketReadPos < MAX_URBS ∧ ep.nextPacketWritePos < MAX_URBS

variable {data ep}

theorem served_ring (submits : Nat → Bool) (ctx : Nat) (rest : List Nat) (feeding : ep.Feeding) :
    (ep.served submits ctx rest).nextPacket = ep.nextPacket ∧
      (ep.served submits ctx rest).nextPacketReadPos = (ep.nextPacketReadPos + 1) % MAX_URBS ∧
      (ep.served submits ctx rest).nextPacketWritePos = ep.nextPacketWritePos ∧ (ep.served submits ctx rest).Feeding := by
  have next : (ep.nextPacketReadPos + 1) % MAX_URBS < MAX_URBS := Nat.mod_lt _ (Nat.succ_pos 7)
  have kept := feeding.positions.2
  unfold served taken
  dsimp only
  split
  · exact ⟨rfl, rfl, rfl, ⟨feeding.running, feeding.sink, feeding.used, feeding.present, next, kept⟩⟩
  · exact ⟨rfl, rfl, rfl, ⟨feeding.running, feeding.sink, feeding.used, feeding.present, next, kept⟩⟩

theorem loop_matched (sink : data.sink = true) (small : data.periodSize < 2 ^ 32) (provided : Bool) (submits : Nat → Bool)
    (ready : List Nat) (feeding : ep.Feeding) (pace : Pace) (enough : ep.waiting.length ≤ ready.length)
    (matching : ∀ pair ∈ ep.waiting.zip ready,
      submits pair.2 = true ∧ pair.1.length = (data.urb pair.2).packets ∧ ∀ count ∈ pair.1, count ≠ 0)
    (within : provided = true → data.typeII = true →
      pace.transferDone + (ep.waiting.map List.sum).sum ≤ data.periodSize) :
    (loopUrbs data provided submits ready ep pace).1.map Urb.lengths = ep.waiting.map (frameLengths data) ∧
      (queuePendingLoop submits ready ep).waiting = [] ∧ (queuePendingLoop submits ready ep).Feeding := by
  induction ready generalizing ep pace with
  | nil =>
    have none : ep.waiting = [] := List.length_eq_zero_iff.mp (Nat.le_zero.mp enough)
    have same : ep.nextPacketReadPos = ep.nextPacketWritePos := by
      by_contra some
      rw [waiting, ringPackets_cons feeding.positions.1 feeding.positions.2 some] at none
      exact List.cons_ne_nil _ _ none
    rw [queuePendingLoop, if_neg (not_not.mpr same)]
    exact ⟨(congrArg (List.map (frameLengths data)) none).symm, none, feeding⟩
  | cons ctx rest ih =>
    by_cases some : ep.nextPacketReadPos ≠ ep.nextPacketWritePos
    · have split := @ringPackets_cons ep.nextPacket _ _ feeding.positions.1 feeding.positions.2 some
      obtain ⟨packets, read, write, feeding'⟩ := served_ring submits ctx rest feeding
      have later : (ep.served submits ctx rest).waiting =
          ringPackets ep.nextPacket ((ep.nextPacketReadPos + 1) % MAX_URBS) ep.nextPacketWritePos := by
        rw [waiting, packets, read, write]
      have whole : ep.waiting = ep.nextPacket ep.nextPacketReadPos :: (ep.served submits ctx rest).waiting := by
        rw [later]
        exact split
      rw [whole] at enough matching within ⊢
      obtain ⟨sent, length, counted⟩ := matching _ (List.mem_cons_self ..)
      have sizes : (List.range (data.urb ctx).packets).map (ep.packetSizes ctx (ep.nextPacket ep.nextPacketReadPos)) =
          ep.nextPacket ep.nextPacketReadPos := by
        dsimp only at length
        rw [← length]
        apply List.ext_getElem
        · simp
        · intro i _ inside
          simp [packetSizes, inside]
      rw [List.map_cons, List.sum_cons] at within
      obtain ⟨filled, done⟩ := outbound_lengths sink small provided _ pace counted
        fun provider typeII => (Nat.add_le_add_left (Nat.le_add_right _ _) _).trans (within provider typeII)
      obtain ⟨urbs, empty, feeding⟩ := @ih (ep.served submits ctx rest) feeding'
        (data.prepareOutboundUrb provided (ep.nextPacket ep.nextPacketReadPos) pace).2 (Nat.le_of_succ_le_succ enough)
        (fun pair inside => matching pair (List.mem_cons_of_mem _ inside)) (by
          intro provider typeII
          have bound := within provider typeII
          have spent := done provider typeII
          dsimp only at spent
          omega)
      have loop : queuePendingLoop submits (ctx :: rest) ep = queuePendingLoop submits rest (ep.served submits ctx rest) :=
        if_pos some
      rw [loop]
      refine ⟨?_, empty, feeding⟩
      simp only [loopUrbs, if_pos some, sizes, if_pos sent, List.map_cons, filled, urbs]
    · have none : ep.waiting = [] := by
        rw [waiting, not_not.mp some]
        exact ringPackets_eq
      rw [queuePendingLoop, if_neg some, loopUrbs, if_neg some]
      exact ⟨(congrArg (List.map (frameLengths data)) none).symm, none, feeding⟩

end SndUsbEndpoint

namespace FeedbackSink

variable (data : DataEp) (s : FeedbackSink)

def Served : FeedbackOp → Prop
  | .feedback frames senderStride provided submits => receivedBytes frames ≠ 0 →
      s.ep.pending + 1 < MAX_URBS ∧
        (s.ep.pushed (packetOf frames senderStride)).Matched data provided submits s.pace
  | .complete i status provided submits => s.ep.inFlight i = true → ¬ s.ep.gone status →
      ((s.ep.landed i).listAddTail i).Matched data provided submits s.pace

instance : (op : FeedbackOp) → Decidable (s.Served data op)
  | .feedback frames senderStride provided submits => inferInstanceAs (Decidable (receivedBytes frames ≠ 0 →
      s.ep.pending + 1 < MAX_URBS ∧
        (s.ep.pushed (packetOf frames senderStride)).Matched data provided submits s.pace))
  | .complete i status provided submits => inferInstanceAs (Decidable (s.ep.inFlight i = true → ¬ s.ep.gone status →
      ((s.ep.landed i).listAddTail i).Matched data provided submits s.pace))

/-- The packets that were received are, in their order, those of the URBs that were submitted, with their
    frames, and those that wait in the ring. -/
def Conserved : Prop :=
  ∃ used, s.received = used ++ s.ep.waiting ∧ s.submitted.map Urb.lengths = used.map (frameLengths data)

structure Started : Prop where
  feeding : s.ep.Feeding
  received : s.received = s.ep.waiting
  submitted : s.submitted = []

variable {data s}

theorem Started.conserved (started : s.Started) : s.Conserved data :=
  ⟨[], started.received, by rw [started.submitted]; rfl⟩

theorem queue_conserved (sink : data.sink = true) (small : data.periodSize < 2 ^ 32) (feeding : s.ep.Feeding)
    (conserved : s.Conserved data) {provided : Bool} {submits : Nat → Bool}
    (matching : s.ep.Matched data provided submits s.pace) :
    (s.queue data provided submits).Conserved data ∧ (s.queue data provided submits).ep.Feeding := by
  obtain ⟨used, received, submitted⟩ := conserved
  obtain ⟨enough, pairs, within⟩ := matching
  obtain ⟨urbs, empty, later⟩ := SndUsbEndpoint.loop_matched sink small provided submits s.ep.readyPlaybackUrbs feeding s.pace
    enough pairs within
  have state : (s.queue data provided submits).ep = SndUsbEndpoint.queuePendingLoop submits s.ep.readyPlaybackUrbs s.ep :=
    if_pos feeding.running
  have sent : (s.queue data provided submits).submitted = s.submitted ++
      (SndUsbEndpoint.loopUrbs data provided submits s.ep.readyPlaybackUrbs s.ep s.pace).1 := by
    simp only [queue, if_pos feeding.running]
  refine ⟨⟨used ++ s.ep.waiting, ?_, ?_⟩, state ▸ later⟩
  · rw [state, empty, List.append_nil]
    exact received
  · rw [sent, List.map_append, submitted, urbs, List.map_append]

theorem exec_conserved (sink : data.sink = true) (small : data.periodSize < 2 ^ 32) (feeding : s.ep.Feeding)
    (conserved : s.Conserved data) {op : FeedbackOp} (served : s.Served data op) :
    (s.exec data op).Conserved data ∧ (s.exec data op).ep.Feeding := by
  obtain ⟨used, received, submitted⟩ := conserved
  cases op with
  | feedback frames senderStride provided submits =>
    rw [exec]
    split
    · exact ⟨⟨used, received, submitted⟩, feeding⟩
    · rename_i accepted
      have some : receivedBytes frames ≠ 0 := fun none => accepted (.inr (.inr (.inr none)))
      obtain ⟨room, matching⟩ := served some
      apply queue_conserved sink small _ _ matching
      · exact ⟨feeding.running, feeding.sink, feeding.used, feeding.present, feeding.positions.1,
          Nat.mod_lt _ (Nat.succ_pos 7)⟩
      · refine ⟨used, ?_, submitted⟩
        have ring := @ringPackets_push s.ep.nextPacket _ _ feeding.positions.1 feeding.positions.2
          (packetOf frames senderStride) room
        have grown : s.received ++ [packetOf frames senderStride] = used ++ (s.ep.waiting ++ [packetOf frames senderStride]) := by
          rw [received, List.append_assoc]
        exact grown.trans (congrArg (used ++ ·) ring.symm)
  | complete i status provided submits =>
    rw [exec]
    split
    · rename_i fine
      have listed : ((s.ep.landed i).listAddTail i).waiting = s.ep.waiting ∧ ((s.ep.landed i).listAddTail i).Feeding := by
        unfold SndUsbEndpoint.listAddTail
        split
        · exact ⟨rfl, ⟨feeding.running, feeding.sink, feeding.used, feeding.present, feeding.positions⟩⟩
        · exact ⟨rfl, ⟨feeding.running, feeding.sink, feeding.used, feeding.present, feeding.positions⟩⟩
      obtain ⟨same, feeding'⟩ := listed
      obtain ⟨kept, later⟩ := @queue_conserved data { s with ep := (s.ep.landed i).listAddTail i } sink small feeding'
        ⟨used, received.trans (congrArg (used ++ ·) same.symm), submitted⟩ provided submits (served fine.1 fine.2.1)
      exact ⟨kept, ⟨later.running, later.sink, later.used, later.present, later.positions⟩⟩
    · rename_i skipped
      have state : (s.ep.exec (.complete i status submits)).waiting = s.ep.waiting ∧
          (s.ep.exec (.complete i status submits)).Feeding := by
        rw [SndUsbEndpoint.exec]
        split
        · rename_i flies
          have gone : s.ep.gone status := by
            by_contra present
            exact skipped ⟨flies, present, feeding.running, feeding.sink⟩
          rw [SndUsbEndpoint.sndCompleteUrb_eq, if_pos gone]
          exact ⟨rfl, ⟨feeding.running, feeding.sink, feeding.used, feeding.present, feeding.positions⟩⟩
        · exact ⟨rfl, feeding⟩
      exact ⟨⟨used, received.trans (congrArg (used ++ ·) state.1.symm), submitted⟩, state.2⟩

theorem feedback_conserved (data : DataEp) (s : FeedbackSink) (ops : List FeedbackOp) (sink : data.sink = true)
    (small : data.periodSize < 2 ^ 32) (started : s.Started)
    (served : Throughout (exec data) (fun s op _ => s.Served data op) s ops) :
    Throughout (exec data) (fun s _ s' => s.Conserved data ∧ s'.Conserved data) s ops := by
  apply Throughout.steps (fun s => s.Conserved data ∧ s.ep.Feeding) ⟨started.conserved, started.feeding⟩ served
  intro s op inv served
  have next := exec_conserved sink small inv.2 inv.1 served
  exact ⟨⟨inv.1, next.1⟩, next⟩

def startedSink : FeedbackSink :=
  { ep := { SndUsbEndpoint.configured true true with running := true, useCount := 1, readyPlaybackUrbs := List.range 8 }
    pace := ⟨0, 6 * 2 ^ 16, 0⟩, received := [], submitted := [] }

def stereoSink : DataEp :=
  { stride := 4, datainterval := 0, fillMax := false, sink := true, typeII := false, freqmax := 50 * 2 ^ 16, maxsize := 200,
    curpacksize := 200, maxframesize := 50, periodSize := 1024, nurbs := 8, urb := fun _ => ⟨1, 200⟩ }

theorem startedSink_started : startedSink.Started :=
  ⟨⟨rfl, rfl, Int.one_ne_zero, rfl, Nat.succ_pos 7, Nat.succ_pos 7⟩, rfl, rfl⟩

/-- Two packets come, the first one for an URB that comes back. -/
theorem feedback_conserved_ready : Throughout (exec stereoSink) (fun s _ s' => s.Conserved stereoSink ∧ s'.Conserved stereoSink)
    startedSink [.feedback [(0, 192)] 4 true fun _ => true, .complete 0 0 true fun _ => true,
      .feedback [(0, 196)] 4 true fun _ => true] :=
  feedback_conserved _ _ _ rfl (by decide) startedSink_started (by decide +kernel)

theorem Conserved.count (conserved : s.Conserved data) : s.received.length = s.submitted.length + s.ep.waiting.length := by
  obtain ⟨used, received, submitted⟩ := conserved
  have same := congrArg List.length submitted
  rw [List.length_map, List.length_map] at same
  rw [received, List.length_append, same]

/-- The ninth packet finds no URB. -/
theorem ninth_dropped : ¬ ∀ (data : DataEp) (s : FeedbackSink) (ops : List FeedbackOp), data.sink = true →
    data.periodSize < 2 ^ 32 → s.Started →
    Throughout (exec data) (fun s _ s' => s.Conserved data ∧ s'.Conserved data) s ops := by
  intro all
  have run := all stereoSink startedSink (List.replicate 9 (.feedback [(0, 192)] 4 true fun _ => true)) rfl (by decide)
    startedSink_started
  have last := run.2.2.2.2.2.2.2.2.1.2.count
  exact absurd last (by decide +kernel)

end FeedbackSink

end AlsaDriver.Usb
