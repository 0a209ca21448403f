import AlsaDriver.Lib.Runs
import AlsaDriver.Usb.Playback

namespace AlsaDriver.Usb

open Ring Runs

structure Capture where
  params : EpParams
  rate : Nat
  periodSize : Nat
  bufferSize : Nat
  txfrQuirk : Bool
  pktOffsetAdj : Nat

structure CaptureDesc where
  offset : Nat
  actualLength : Nat

structure CaptureUrb where
  transferBuffer : Nat → Byte
  isoFrameDesc : List CaptureDesc

structure CaptureSubs where
  hwptrDone : Nat
  transferDone : Nat
  dmaArea : Nat → Byte

namespace Capture

variable (c : Capture)

def stride : Nat := c.params.runtimeFrameBits / 8

def sampleBytes : Nat := c.params.physicalWidth / 8

def ring : Nat := c.bufferSize * c.stride

def kept (actualLength : Nat) : Nat :=
  let frames := actualLength / c.stride
  let bytes := if c.txfrQuirk = true then actualLength else frames * c.stride
  if bytes % c.sampleBytes ≠ 0 then frames * c.stride else bytes

def copies (buffer : Nat → Byte) (desc : CaptureDesc) (subs : CaptureSubs) : List (Nat × List Byte) :=
  let cp := desc.offset + c.pktOffsetAdj
  let bytes := c.kept desc.actualLength
  if c.ring < subs.hwptrDone + bytes then
    let bytes1 := c.ring - subs.hwptrDone
    [(subs.hwptrDone, copyOut buffer cp bytes1), (0, copyOut buffer (cp + bytes1) (bytes - bytes1))]
  else [(subs.hwptrDone, copyOut buffer cp bytes)]

/-- A packet in the loop of `retire_capture_urb`, and whether a period elapses with it. -/
def retirePacket (buffer : Nat → Byte) (subs : CaptureSubs) (desc : CaptureDesc) : CaptureSubs × Bool :=
  let bytes := c.kept desc.actualLength
  let hwptrDone := subs.hwptrDone + bytes
  let transferDone := subs.transferDone + (bytes + subs.hwptrDone % c.stride) / c.stride
  ({ hwptrDone := if c.ring ≤ hwptrDone then hwptrDone - c.ring else hwptrDone
     transferDone := if c.periodSize ≤ transferDone then transferDone - c.periodSize else transferDone
     dmaArea := (c.copies buffer desc subs).foldl (fun area (copy : Nat × List Byte) => copyIn area copy.1 copy.2) subs.dmaArea },
    decide (c.periodSize ≤ transferDone))

/-- `retire_capture_urb`, and whether it reports the end of a period. -/
def retireCaptureUrb (urb : CaptureUrb) (subs : CaptureSubs) : CaptureSubs × Bool :=
  urb.isoFrameDesc.foldl (fun (done : CaptureSubs × Bool) desc =>
    ((c.retirePacket urb.transferBuffer done.1 desc).1, done.2 || (c.retirePacket urb.transferBuffer done.1 desc).2))
    (subs, false)

def packetTime : Nat := if c.params.fullSpeed then 1000 else 125 * 2 ^ c.params.datainterval

/-- The parameters were accepted by `hw_params`: whole bytes, the limits of `snd_usb_hardware`, and no period shorter
    than the time of a packet. -/
structure Accepted : Prop where
  width : c.params.physicalWidth % 8 = 0
  sample : 0 < c.sampleBytes
  channels : 0 < c.params.channels
  periods : 2 * c.periodSize ≤ c.bufferSize
  periodBytes : 64 ≤ c.periodSize * c.stride
  periodTime : c.packetTime * c.rate ≤ c.periodSize * 1000000
  offset : c.pktOffsetAdj = 0 ∨ c.pktOffsetAdj = 4

end Capture

end AlsaDriver.Usb

namespace AlsaDriver.Usb

open Ring Runs

structure Capturing where
  subs : CaptureSubs
  received : List Byte

namespace Capture

variable (c : Capture)

def payload (buffer : Nat → Byte) (desc : CaptureDesc) : List Byte :=
  (copyOut buffer (desc.offset + c.pktOffsetAdj) (desc.actualLength - c.pktOffsetAdj)).take (c.kept desc.actualLength)

def store (buffer : Nat → Byte) (s : Capturing) (desc : CaptureDesc) : Capturing :=
  ⟨(c.retirePacket buffer s.subs desc).1, s.received ++ c.payload buffer desc⟩

def exec (s : Capturing) (urb : CaptureUrb) : Capturing :=
  ⟨(c.retireCaptureUrb urb s.subs).1, s.received ++ urb.isoFrameDesc.flatMap (c.payload urb.transferBuffer)⟩

def Holds (s : Capturing) : Prop :=
  ∀ k ≤ c.ring, k ≤ s.received.length →
    Ring.window c.ring s.subs.dmaArea (s.received.length - k) k = s.received.drop (s.received.length - k)

structure Inv (s : Capturing) : Prop where
  place : s.subs.hwptrDone < c.ring ∧ s.subs.hwptrDone = s.received.length % c.ring
  holds : c.Holds s

structure Stored (buffer : Nat → Byte) (s : Capturing) (desc : CaptureDesc) (after : Capturing) : Prop where
  inside : ∀ copy ∈ c.copies buffer desc s.subs, copy.1 + copy.2.length ≤ c.ring
  apart : (c.copies buffer desc s.subs).Pairwise fun a b => a.1 + a.2.length ≤ b.1 ∨ b.1 + b.2.length ≤ a.1
  inv : c.Inv after

def Right (s : Capturing) (urb : CaptureUrb) (_ : Capturing) : Prop :=
  Throughout (c.store urb.transferBuffer) (c.Stored urb.transferBuffer) s urb.isoFrameDesc

structure Fits (desc : CaptureDesc) : Prop where
  ring : c.kept desc.actualLength ≤ c.ring
  received : c.kept desc.actualLength ≤ desc.actualLength - c.pktOffsetAdj

variable {c} {buffer : Nat → Byte} {s : Capturing} {desc : CaptureDesc}

theorem foldl_store (buffer : Nat → Byte) (descs : List CaptureDesc) (s : Capturing) (elapsed : Bool) :
    descs.foldl (c.store buffer) s =
      ⟨(descs.foldl (fun (done : CaptureSubs × Bool) desc =>
          ((c.retirePacket buffer done.1 desc).1, done.2 || (c.retirePacket buffer done.1 desc).2)) (s.subs, elapsed)).1,
        s.received ++ descs.flatMap (c.payload buffer)⟩ := by
  induction descs generalizing s elapsed with
  | nil =>
    rw [List.flatMap_nil, List.append_nil]
    rfl
  | cons desc rest ih =>
    rw [List.foldl_cons, List.foldl_cons, List.flatMap_cons, ih, store, List.append_assoc]

theorem exec_eq (s : Capturing) (urb : CaptureUrb) : c.exec s urb = urb.isoFrameDesc.foldl (c.store urb.transferBuffer) s :=
  (foldl_store urb.transferBuffer urb.isoFrameDesc s false).symm

theorem kept_le (actualLength : Nat) : c.kept actualLength ≤ actualLength := by
  have whole : actualLength / c.stride * c.stride ≤ actualLength := Nat.div_mul_le_self actualLength c.stride
  unfold kept
  dsimp only
  split
  · split
    · exact whole
    · exact Nat.le_refl _
  · rw [ite_self]
    exact whole

theorem length_payload : (c.payload buffer desc).length =
    min (c.kept desc.actualLength) (desc.actualLength - c.pktOffsetAdj) := by
  rw [payload, List.length_take, length_copyOut]

theorem payload_eq (fits : c.Fits desc) :
    c.payload buffer desc = copyOut buffer (desc.offset + c.pktOffsetAdj) (c.kept desc.actualLength) := by
  obtain ⟨rest, parts⟩ := Nat.exists_eq_add_of_le fits.received
  rw [payload, parts, copyOut_add, List.take_left' length_copyOut]

theorem Accepted.ring (accepted : c.Accepted) : 128 ≤ c.ring ∧ c.pktOffsetAdj < c.ring := by
  have whole : 2 * (c.periodSize * c.stride) ≤ c.ring := by
    rw [← Nat.mul_assoc]
    exact Nat.mul_le_mul_right _ accepted.periods
  have bytes := accepted.periodBytes
  have offset := accepted.offset
  omega

theorem holds_push {area : Nat → Byte} {data : List Byte} (inv : c.Inv s) (few : data.length ≤ c.ring)
    (pushed : ∀ start len, s.subs.hwptrDone = (start + len) % c.ring → len + data.length ≤ c.ring →
      Ring.window c.ring area start (len + data.length) = Ring.window c.ring s.subs.dmaArea start len ++ data) :
    ∀ k ≤ c.ring, k ≤ (s.received ++ data).length →
      Ring.window c.ring area ((s.received ++ data).length - k) k = (s.received ++ data).drop ((s.received ++ data).length - k) := by
  intro k small some
  rw [List.length_append] at some ⊢
  by_cases recent : k ≤ data.length
  · have new := pushed s.received.length 0 inv.place.2 (by omega)
    rw [Nat.zero_add, window_zero, List.nil_append] at new
    have place : s.received.length + data.length - k = s.received.length + (data.length - k) := by omega
    have last : (Ring.window c.ring area s.received.length data.length).drop (data.length - k) = _ := drop_window (Nat.sub_le _ k)
    rw [new, Nat.sub_sub_self recent] at last
    rw [place, ← last, List.drop_append, List.drop_eq_nil_of_le (Nat.le_add_right _ _), List.nil_append,
      Nat.add_sub_cancel_left]
  · obtain ⟨old, rfl⟩ := Nat.exists_eq_add_of_le (Nat.le_of_lt (not_le.mp recent))
    have few' : old ≤ s.received.length := by omega
    have place : s.received.length + data.length - (data.length + old) = s.received.length - old := by omega
    have behind : s.subs.hwptrDone = (s.received.length - old + old) % c.ring := by
      rw [Nat.sub_add_cancel few']
      exact inv.place.2
    rw [place, Nat.add_comm, pushed _ old behind (by omega), inv.holds old (by omega) few',
      List.drop_append_of_le_length (Nat.sub_le _ _)]

theorem store_place (buffer : Nat → Byte) (inv : c.Inv s) (small : c.kept desc.actualLength ≤ c.ring) :
    (c.store buffer s desc).subs.hwptrDone < c.ring ∧
      (c.store buffer s desc).subs.hwptrDone = (s.received.length + c.kept desc.actualLength) % c.ring := by
  have inside := inv.place.1
  have moved : (s.received.length + c.kept desc.actualLength) % c.ring =
      (s.subs.hwptrDone + c.kept desc.actualLength) % c.ring := by rw [inv.place.2, Nat.mod_add_mod]
  have after : (c.store buffer s desc).subs.hwptrDone =
      if c.ring ≤ s.subs.hwptrDone + c.kept desc.actualLength then s.subs.hwptrDone + c.kept desc.actualLength - c.ring
      else s.subs.hwptrDone + c.kept desc.actualLength := rfl
  rw [after, moved]
  split
  · rename_i past
    rw [Nat.mod_eq_sub_mod past, Nat.mod_eq_of_lt (by omega)]
    exact ⟨by omega, rfl⟩
  · rename_i before
    rw [Nat.mod_eq_of_lt (not_le.mp before)]
    exact ⟨not_le.mp before, rfl⟩

theorem small_of_apart (inv : c.Inv s)
    (apart : (c.copies buffer desc s.subs).Pairwise fun a b => a.1 + a.2.length ≤ b.1 ∨ b.1 + b.2.length ≤ a.1) :
    c.kept desc.actualLength ≤ c.ring := by
  have inside := inv.place.1
  rw [copies] at apart
  split at apart
  · have both := (List.pairwise_pair.mp apart)
    dsimp only at both
    rw [length_copyOut, length_copyOut] at both
    omega
  · omega

theorem received_of_place (accepted : c.Accepted) (inv : c.Inv s) (small : c.kept desc.actualLength ≤ c.ring)
    (place : (c.store buffer s desc).subs.hwptrDone = (c.store buffer s desc).received.length % c.ring) :
    c.kept desc.actualLength ≤ desc.actualLength - c.pktOffsetAdj := by
  have length : (c.store buffer s desc).received.length =
      s.received.length + min (c.kept desc.actualLength) (desc.actualLength - c.pktOffsetAdj) := by
    rw [store, List.length_append, length_payload]
  rw [(store_place buffer inv small).2, length] at place
  by_contra more
  have few := kept_le (c := c) desc.actualLength
  have offset := accepted.ring.2
  have divides : c.ring ∣ s.received.length + c.kept desc.actualLength -
      (s.received.length + min (c.kept desc.actualLength) (desc.actualLength - c.pktOffsetAdj)) :=
    (Nat.modEq_iff_dvd' (by omega)).mp place.symm
  have short := Nat.le_of_dvd (by omega) divides
  omega

theorem copies_inside (buffer : Nat → Byte) (inv : c.Inv s) (small : c.kept desc.actualLength ≤ c.ring) :
    (∀ copy ∈ c.copies buffer desc s.subs, copy.1 + copy.2.length ≤ c.ring) ∧
      (c.copies buffer desc s.subs).Pairwise fun a b => a.1 + a.2.length ≤ b.1 ∨ b.1 + b.2.length ≤ a.1 := by
  have inside := inv.place.1
  rw [copies]
  split
  · refine ⟨?_, List.pairwise_pair.mpr ?_⟩
    · intro copy member
      rcases List.mem_cons.mp member with rfl | last
      · dsimp only
        rw [length_copyOut]
        omega
      · rw [List.mem_singleton.mp last]
        dsimp only
        rw [length_copyOut]
        omega
    · dsimp only
      rw [length_copyOut, length_copyOut]
      omega
  · refine ⟨?_, List.pairwise_singleton _ _⟩
    intro copy member
    rw [List.mem_singleton.mp member]
    dsimp only
    rw [length_copyOut]
    omega

theorem copies_push (inv : c.Inv s) (fits : c.Fits desc) {start len : Nat} (place : s.subs.hwptrDone = (start + len) % c.ring)
    (room : len + (c.payload buffer desc).length ≤ c.ring) :
    Ring.window c.ring (c.store buffer s desc).subs.dmaArea start (len + (c.payload buffer desc).length) =
      Ring.window c.ring s.subs.dmaArea start len ++ c.payload buffer desc := by
  have length : (c.payload buffer desc).length = c.kept desc.actualLength := by
    rw [length_payload, min_eq_left fits.received]
  show Ring.window c.ring ((c.copies buffer desc s.subs).foldl _ _) _ _ = _
  rw [copies]
  split
  · have inside := inv.place.1
    have around : Ring.window c.ring (copyIn (copyIn s.subs.dmaArea _ _) _ _) _ _ = _ :=
      window_push_around place inside (by omega) room
    obtain ⟨rest, parts⟩ := Nat.exists_eq_add_of_le (show c.ring - s.subs.hwptrDone ≤ c.kept desc.actualLength by omega)
    rw [payload_eq fits, parts, copyOut_add, List.take_left' length_copyOut, List.drop_left' length_copyOut] at around
    dsimp only
    rw [payload_eq fits, parts, Nat.add_sub_cancel_left, copyOut_add]
    exact around
  · rw [payload_eq fits] at room ⊢
    exact window_push place (by rw [length_copyOut]; omega) room

theorem stored_iff (accepted : c.Accepted) (inv : c.Inv s) : c.Stored buffer s desc (c.store buffer s desc) ↔ c.Fits desc := by
  constructor
  · intro stored
    have small := small_of_apart inv stored.apart
    exact ⟨small, received_of_place accepted inv small stored.inv.place.2⟩
  · intro fits
    obtain ⟨inside, apart⟩ := copies_inside buffer inv fits.ring
    have length : (c.payload buffer desc).length = c.kept desc.actualLength := by
      rw [length_payload, min_eq_left fits.received]
    refine ⟨inside, apart, ?_, ?_⟩
    · have place := store_place buffer inv fits.ring
      rwa [← length, ← List.length_append] at place
    · exact holds_push inv (length ▸ fits.ring) fun start len place room => copies_push inv fits place room

theorem foldl_inv (accepted : c.Accepted) (buffer : Nat → Byte) {descs : List CaptureDesc} (inv : c.Inv s)
    (fits : ∀ desc ∈ descs, c.Fits desc) : c.Inv (descs.foldl (c.store buffer) s) := by
  induction descs generalizing s with
  | nil => exact inv
  | cons desc rest ih =>
    obtain ⟨now, later⟩ := List.forall_mem_cons.mp fits
    exact ih ((stored_iff accepted inv).mpr now).inv later

theorem right_iff (accepted : c.Accepted) (inv : c.Inv s) (urb : CaptureUrb) :
    c.Right s urb (c.exec s urb) ↔ ∀ desc ∈ urb.isoFrameDesc, c.Fits desc := by
  have all : Throughout (c.store urb.transferBuffer) (fun _ _ _ => True) s urb.isoFrameDesc :=
    Throughout.of_mem fun _ _ _ => trivial
  have packets := throughout_iff c.Inv (c.Stored urb.transferBuffer) (fun _ desc => c.Fits desc)
    (fun s desc inv _ => stored_iff accepted inv) (fun s desc inv _ fits => ((stored_iff accepted inv).mpr fits).inv) inv all
  exact packets.trans throughout_labels

def prepared (dmaArea : Nat → Byte) : Capturing := ⟨⟨0, 0, dmaArea⟩, []⟩

/-- Capture stays in its ring, and stores what it receives there in order, exactly when every packet fits. -/
theorem capture_iff (c : Capture) (accepted : c.Accepted) (dmaArea : Nat → Byte) (urbs : List CaptureUrb) :
    Throughout c.exec c.Right (prepared dmaArea) urbs ↔ ∀ urb ∈ urbs, ∀ desc ∈ urb.isoFrameDesc, c.Fits desc := by
  have room : 0 < c.ring := Nat.lt_of_lt_of_le (by decide) accepted.ring.1
  have start : c.Inv (prepared dmaArea) := by
    refine ⟨⟨room, (Nat.zero_mod _).symm⟩, ?_⟩
    intro k _ none
    rw [Nat.le_zero.mp none]
    rfl
  have all : Throughout c.exec (fun _ _ _ => True) (prepared dmaArea) urbs := Throughout.of_mem fun _ _ _ => trivial
  have runs := throughout_iff c.Inv c.Right (fun _ urb => ∀ desc ∈ urb.isoFrameDesc, c.Fits desc)
    (fun s urb inv _ => right_iff accepted inv urb)
    (fun s urb inv _ fits => by rw [exec_eq]; exact foldl_inv accepted urb.transferBuffer inv fits) start all
  exact runs.trans throughout_labels

def voice : Capture :=
  ⟨{ EpParams.stereo with physicalWidth := 8, channels := 1, periodBytes := 64, maxpacksize := 512, pipeout := false }, 8000, 64,
    128, false, 0⟩

theorem voice_accepted : voice.Accepted where
  width := by decide
  sample := by decide
  channels := by decide
  periods := by decide
  periodBytes := by decide
  periodTime := by decide
  offset := .inl rfl

theorem capture_voice : Throughout voice.exec voice.Right (prepared fun _ => 0) [⟨fun i => BitVec.ofNat 8 i, [⟨0, 8⟩, ⟨512, 9⟩]⟩] := by
  apply (capture_iff voice voice_accepted _ _).mpr
  intro urb single desc inside
  rw [List.mem_singleton.mp single] at inside
  rcases List.mem_cons.mp inside with rfl | last
  · exact ⟨by decide, by decide⟩
  · rw [List.mem_singleton.mp last]
    exact ⟨by decide, by decide⟩

/-- A packet of the size that the descriptor allows is four rings long. -/
theorem packet_leaves_ring : ¬ ∀ (c : Capture) (ep : DataEp), c.Accepted → dataEpSetParams c.params c.periodSize = some ep →
    ∀ (dmaArea : Nat → Byte) (urbs : List CaptureUrb),
      (∀ urb ∈ urbs, ∀ desc ∈ urb.isoFrameDesc, desc.actualLength ≤ ep.curpacksize) → c.pktOffsetAdj = 0 →
      Throughout c.exec c.Right (prepared dmaArea) urbs := by
  intro all
  have run := all voice _ voice_accepted rfl (fun _ => 0) [⟨fun _ => 0, [⟨0, 512⟩]⟩] (by
    intro urb single desc inside
    rw [List.mem_singleton.mp single] at inside
    rw [List.mem_singleton.mp inside]
    decide) rfl
  exact absurd run.1.1.inv.place.1 (by decide)

end Capture

end AlsaDriver.Usb
