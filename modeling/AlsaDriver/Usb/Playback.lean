import AlsaDriver.Lib.Ring
import AlsaDriver.Usb.Payload

namespace AlsaDriver.Usb

abbrev Byte := BitVec 8

def bitrev8 (b : Byte) : Byte := b.reverse

def MAX_PACKS_HS : Nat := MAX_PACKS * 8

/-- What does not change while a playback stream runs. `dsdU8` tells that the format is `DSD_U8`. -/
structure Playback where
  params : EpParams
  periodSize : Nat
  bufferSize : Nat
  dsdU8 : Bool
  dsdBitrev : Bool

structure DsdDop where
  marker : Nat
  channel : Nat
  byteIdx : Nat
  deriving DecidableEq

/-- What `prepare_playback_urb` changes in the substream and its endpoint. -/
structure PlaybackSubs where
  pace : Pace
  hwptrDone : Nat
  dsdDop : DsdDop
  deriving DecidableEq

def dopMarker (m : Nat) : Byte := if m = 0 then 0x05 else 0xfa

namespace Playback

variable (c : Playback)

def stride : Nat := c.params.runtimeFrameBits / 8

def ring : Nat := c.bufferSize * c.stride

def dopByte (b : Byte) : Byte := if c.dsdBitrev then bitrev8 b else b

def fillPlaybackUrbDsdDop (dmaArea : Nat → Byte) : Nat → DsdDop → Nat → Nat → List Byte × DsdDop × Nat
  | 0, dop, _, hwptrDone => ([], dop, hwptrDone)
  | bytes + 1, dop, srcIdx, hwptrDone =>
    let byteIdx := dop.byteIdx + 1
    if byteIdx = 3 then
      let channel := dop.channel + 1
      let next := if channel % c.params.channels = 0 then ⟨(dop.marker + 1) % 2, 0, 0⟩ else ⟨dop.marker, channel, 0⟩
      let rest := fillPlaybackUrbDsdDop dmaArea bytes next (srcIdx + 2) hwptrDone
      (dopMarker dop.marker :: rest.1, rest.2)
    else
      let rest := fillPlaybackUrbDsdDop dmaArea bytes { dop with byteIdx } srcIdx (hwptrDone + 1)
      (c.dopByte (dmaArea ((srcIdx + byteIdx - 1) % c.ring)) :: rest.1, rest.2)

/-- The bytes that are copied to an URB, before `hwptr_done` is brought back into the ring. -/
def fillUrb (dmaArea : Nat → Byte) (bytes : Nat) (subs : PlaybackSubs) : List Byte × PlaybackSubs :=
  if c.params.dsdDop = true then
    let filled := c.fillPlaybackUrbDsdDop dmaArea bytes subs.dsdDop subs.hwptrDone subs.hwptrDone
    (filled.1, { subs with dsdDop := filled.2.1, hwptrDone := filled.2.2 })
  else
    let moved := { subs with hwptrDone := subs.hwptrDone + bytes }
    if c.dsdU8 = true ∧ c.dsdBitrev = true then
      ((List.range bytes).map fun i => bitrev8 (dmaArea ((subs.hwptrDone + i) % c.ring)), moved)
    else if c.ring < subs.hwptrDone + bytes then
      let bytes1 := c.ring - subs.hwptrDone
      (Ring.copyOut dmaArea subs.hwptrDone bytes1 ++ Ring.copyOut dmaArea 0 (bytes - bytes1), moved)
    else (Ring.copyOut dmaArea subs.hwptrDone bytes, moved)

/-- `prepare_playback_urb`, with the transfer buffer it makes. `sizes` are the packet sizes of the URB. -/
def preparePlaybackUrb (ep : DataEp) (dmaArea : Nat → Byte) (sizes : List Nat) (subs : PlaybackSubs) :
    List Byte × PlaybackSubs :=
  let prepared := ep.preparePlaybackUrb sizes subs.pace
  let filled := c.fillUrb dmaArea prepared.1.transferBufferLength { subs with pace := prepared.2 }
  let hwptrDone := filled.2.hwptrDone
  (filled.1, { filled.2 with hwptrDone := if c.ring ≤ hwptrDone then hwptrDone - c.ring else hwptrDone })

structure Valid : Prop where
  width : c.params.dsdDop = true → c.params.physicalWidth = 16
  stride : 0 < c.stride
  period : 0 < c.periodSize
  periods : 2 * c.periodSize ≤ c.bufferSize
  bytes : c.ring ≤ 1024 * 1024

def dopSlot (dmaArea : Nat → Byte) (marker start channel : Nat) : List Byte :=
  [c.dopByte (dmaArea ((start + 2 * channel) % c.ring)), c.dopByte (dmaArea ((start + 2 * channel + 1) % c.ring)),
    dopMarker marker]

/-- A frame of the endpoint in DoP mode that takes the bytes from `start` on. -/
def dopFrame (dmaArea : Nat → Byte) (marker start : Nat) : List Byte :=
  (List.range c.params.channels).flatMap (c.dopSlot dmaArea marker start)

/-- What an URB has to hold that goes on at the byte `start` of the stream, where `first` is the marker of the
    stream's first frame. -/
def payload (first : Nat) (dmaArea : Nat → Byte) (start frames : Nat) : List Byte :=
  if c.params.dsdDop = true then
    (List.range frames).flatMap fun k => c.dopFrame dmaArea ((first + start / c.stride + k) % 2) (start + k * c.stride)
  else if c.dsdU8 = true ∧ c.dsdBitrev = true then
    (Ring.window c.ring dmaArea start (frames * c.stride)).map bitrev8
  else Ring.window c.ring dmaArea start (frames * c.stride)

variable {c} {dmaArea : Nat → Byte}

theorem fill_slot (bytes m channel src done : Nat) : c.fillPlaybackUrbDsdDop dmaArea (bytes + 3) ⟨m, channel, 0⟩ src done =
    (c.dopSlot dmaArea m src 0 ++ (c.fillPlaybackUrbDsdDop dmaArea bytes
        (if (channel + 1) % c.params.channels = 0 then ⟨(m + 1) % 2, 0, 0⟩ else ⟨m, channel + 1, 0⟩) (src + 2) (done + 2)).1,
      (c.fillPlaybackUrbDsdDop dmaArea bytes
        (if (channel + 1) % c.params.channels = 0 then ⟨(m + 1) % 2, 0, 0⟩ else ⟨m, channel + 1, 0⟩) (src + 2) (done + 2)).2) :=
  rfl

theorem dopSlot_next (m src : Nat) : c.dopSlot dmaArea m (src + 2) = fun channel => c.dopSlot dmaArea m src (channel + 1) := by
  funext channel
  have next : src + 2 + 2 * channel = src + 2 * (channel + 1) := by omega
  rw [dopSlot, dopSlot, next]

theorem flatMap_range_succ {α : Type} (f : Nat → List α) (n : Nat) :
    (List.range (n + 1)).flatMap f = f 0 ++ (List.range n).flatMap fun i => f (i + 1) := by
  rw [List.range_succ_eq_map, List.flatMap_cons, List.flatMap_map]

theorem fill_slots (dmaArea : Nat → Byte) (bytes m n : Nat) {channel : Nat} (src done : Nat) (rest : channel + (n + 1) = c.params.channels) :
    c.fillPlaybackUrbDsdDop dmaArea (bytes + 3 * (n + 1)) ⟨m, channel, 0⟩ src done =
      ((List.range (n + 1)).flatMap (c.dopSlot dmaArea m src) ++ (c.fillPlaybackUrbDsdDop dmaArea bytes ⟨(m + 1) % 2, 0, 0⟩
          (src + 2 * (n + 1)) (done + 2 * (n + 1))).1,
        (c.fillPlaybackUrbDsdDop dmaArea bytes ⟨(m + 1) % 2, 0, 0⟩ (src + 2 * (n + 1)) (done + 2 * (n + 1))).2) := by
  induction n generalizing channel src done with
  | zero =>
    have last : (channel + 1) % c.params.channels = 0 := by rw [← rest, Nat.zero_add, Nat.mod_self]
    rw [Nat.zero_add, Nat.mul_one, fill_slot, if_pos last, flatMap_range_succ]
    exact congrArg (fun list => (list ++ _, _)) (List.append_nil _).symm
  | succ n ih =>
    have more : (channel + 1) % c.params.channels ≠ 0 := by
      rw [Nat.mod_eq_of_lt (by omega)]
      exact Nat.succ_ne_zero channel
    have parts : bytes + 3 * (n + 1 + 1) = bytes + 3 * (n + 1) + 3 := by omega
    have next (k : Nat) : k + 2 + 2 * (n + 1) = k + 2 * (n + 1 + 1) := by omega
    rw [parts, fill_slot, if_neg more, ih (src + 2) (done + 2) (by omega), next, next, flatMap_range_succ _ (n + 1),
      dopSlot_next, List.append_assoc]

theorem fill_frame (bytes m src done : Nat) (channels : 0 < c.params.channels) :
    c.fillPlaybackUrbDsdDop dmaArea (bytes + 3 * c.params.channels) ⟨m, 0, 0⟩ src done =
      (c.dopFrame dmaArea m src ++ (c.fillPlaybackUrbDsdDop dmaArea bytes ⟨(m + 1) % 2, 0, 0⟩ (src + 2 * c.params.channels)
          (done + 2 * c.params.channels)).1,
        (c.fillPlaybackUrbDsdDop dmaArea bytes ⟨(m + 1) % 2, 0, 0⟩ (src + 2 * c.params.channels)
          (done + 2 * c.params.channels)).2) := by
  obtain ⟨n, count⟩ := Nat.exists_eq_add_of_lt channels
  rw [Nat.zero_add] at count
  have whole := fill_slots (c := c) dmaArea bytes m n src done ((Nat.zero_add _).trans count.symm)
  rwa [← count] at whole

theorem fill_frames (dmaArea : Nat → Byte) (frames m src done : Nat) (channels : 0 < c.params.channels) (marker : m < 2) :
    c.fillPlaybackUrbDsdDop dmaArea (frames * (3 * c.params.channels)) ⟨m, 0, 0⟩ src done =
      ((List.range frames).flatMap fun k => c.dopFrame dmaArea ((m + k) % 2) (src + k * (2 * c.params.channels)),
        ⟨(m + frames) % 2, 0, 0⟩, done + frames * (2 * c.params.channels)) := by
  induction frames generalizing m src done with
  | zero =>
    rw [Nat.zero_mul, Nat.zero_mul, Nat.add_zero, Nat.add_zero, Nat.mod_eq_of_lt marker]
    rfl
  | succ frames ih =>
    have next (n k : Nat) : n + 2 * c.params.channels + k * (2 * c.params.channels) = n + (k + 1) * (2 * c.params.channels) := by
      rw [Nat.add_one_mul k, Nat.add_right_comm, Nat.add_assoc]
    have turn (k : Nat) : ((m + 1) % 2 + k) % 2 = (m + (k + 1)) % 2 := by omega
    rw [Nat.add_one_mul, fill_frame _ _ _ _ channels, ih _ _ _ (Nat.mod_lt _ Nat.two_pos), flatMap_range_succ]
    simp only [next, turn, Nat.zero_mul, Nat.add_zero, Nat.mod_eq_of_lt marker]

end Playback

end AlsaDriver.Usb

namespace AlsaDriver.Usb

open Runs

namespace DataEp

variable (ep : DataEp)

def packetCounts : List Nat → Pace → List Nat
  | [], _ => []
  | size :: sizes, pace => (ep.counts size pace).1 :: packetCounts sizes (ep.counts size pace).2

def urbFrames (sizes : List Nat) (pace : Pace) : Nat :=
  (ep.preparePlaybackUrb sizes pace).1.transferBufferLength / ep.stride

variable {ep}

theorem counts_done (size : Nat) (pace : Pace) (n : Nat) :
    (ep.counts size { pace with transferDone := n }).1 = (ep.counts size pace).1 ∧
      (ep.counts size { pace with transferDone := n }).2 = { (ep.counts size pace).2 with transferDone := n } := by
  unfold counts nextPacketSize
  split
  · exact ⟨rfl, rfl⟩
  · split
    · exact ⟨rfl, rfl⟩
    · exact ⟨rfl, rfl⟩

theorem packetCounts_done (sizes : List Nat) (pace : Pace) (n : Nat) :
    ep.packetCounts sizes { pace with transferDone := n } = ep.packetCounts sizes pace := by
  induction sizes generalizing pace with
  | nil => rfl
  | cons size sizes ih =>
    obtain ⟨same, next⟩ := counts_done size pace n
    rw [packetCounts, packetCounts, same, next, ih]

theorem sum_packetCounts {sizes : List Nat} {pace : Pace} {largest : Nat}
    (packets : ∀ n ∈ ep.packetCounts sizes pace, n ≤ largest) : (ep.packetCounts sizes pace).sum ≤ sizes.length * largest := by
  induction sizes generalizing pace with
  | nil => exact Nat.zero_le _
  | cons size sizes ih =>
    have first := packets _ List.mem_cons_self
    have rest := ih fun n inside => packets n (List.mem_cons_of_mem _ inside)
    rw [packetCounts, List.sum_cons, List.length_cons, Nat.add_one_mul, Nat.add_comm]
    exact Nat.add_le_add rest first

/-- What the loop takes: frames that stay within two periods where it ends at the period boundary, and the frames of
    all packets where it does not. -/
structure Taken (ep : DataEp) (done total frames : Nat) (elapsed : Bool) : Prop where
  some : frames ≤ total
  early : ep.sink = false ∨ ep.typeII = true → elapsed = false → done + frames < 2 * ep.periodSize
  all : ep.sink = true → ep.typeII = false → frames = total

theorem playback_taken (sizes : List Nat) (frames : Nat) (elapsed : Bool) (pace : Pace) (period : 2 * ep.periodSize < 2 ^ 32)
    (done : pace.transferDone < ep.periodSize) (packets : ∀ n ∈ ep.packetCounts sizes pace, n ≤ ep.periodSize)
    (room : frames + (ep.packetCounts sizes pace).sum < 2 ^ 32)
    (bytes : (frames + (ep.packetCounts sizes pace).sum) * ep.stride < 2 ^ 32) :
    ∃ taken, ep.Taken pace.transferDone (ep.packetCounts sizes pace).sum taken elapsed ∧
      (ep.playbackLoop sizes frames elapsed pace).1.transferBufferLength = (frames + taken) * ep.stride ∧
      (ep.playbackLoop sizes frames elapsed pace).2.transferDone < ep.periodSize := by
  induction sizes generalizing frames elapsed pace with
  | nil =>
    refine ⟨0, ⟨Nat.le_refl 0, fun _ _ => by omega, fun _ _ => rfl⟩, ?_, done⟩
    rw [playbackLoop]
    exact wrap_of_lt bytes
  | cons size sizes ih =>
    obtain ⟨-, sameDone⟩ := @counts_frame ep size pace
    rw [packetCounts, List.sum_cons] at room bytes ⊢
    have few : (ep.counts size pace).1 ≤ ep.periodSize := packets _ List.mem_cons_self
    have later : ∀ n ∈ ep.packetCounts sizes (ep.counts size pace).2, n ≤ ep.periodSize :=
      fun n inside => packets n (List.mem_cons_of_mem _ inside)
    simp only [playbackLoop]
    generalize ep.counts size pace = packet at *
    obtain ⟨counts, next⟩ := packet
    dsimp only at *
    have sum : wrap (frames + counts) = frames + counts := wrap_of_lt (by omega)
    have sumDone : wrap (next.transferDone + counts) = pace.transferDone + counts := by
      rw [sameDone]
      exact wrap_of_lt (by omega)
    -- what the rest of the URB takes, from `n` frames behind the last period boundary
    have rest (n : Nat) (elapsed : Bool) (below : n < ep.periodSize) :
        ∃ taken, ep.Taken n (ep.packetCounts sizes next).sum taken elapsed ∧
          (ep.playbackLoop sizes (frames + counts) elapsed { next with transferDone := n }).1.transferBufferLength =
            (frames + (counts + taken)) * ep.stride ∧
          (ep.playbackLoop sizes (frames + counts) elapsed { next with transferDone := n }).2.transferDone < ep.periodSize := by
      have run := ih (frames + counts) elapsed { next with transferDone := n } below
      rw [packetCounts_done, Nat.add_assoc] at run
      obtain ⟨taken, takes, length, left⟩ := run later room bytes
      exact ⟨taken, takes, by rw [length, Nat.add_assoc], left⟩
    have stop {taken : Nat} (few : taken ≤ counts) : (frames + taken) * ep.stride < 2 ^ 32 :=
      Nat.lt_of_le_of_lt (Nat.mul_le_mul_right _ (by omega)) bytes
    rw [sum, sumDone]
    split
    · rename_i boundary
      split
      · rename_i typeII
        refine ⟨counts - (pace.transferDone + counts - ep.periodSize), ⟨by omega, fun _ _ => by omega, ?_⟩, ?_, ?_⟩
        · intro _ other
          rw [typeII] at other
          cases other
        · have back : wrap (frames + counts + 2 ^ 32 - (pace.transferDone + counts - ep.periodSize)) =
              frames + (counts - (pace.transferDone + counts - ep.periodSize)) := by
            have split : frames + counts + 2 ^ 32 - (pace.transferDone + counts - ep.periodSize) =
                frames + (counts - (pace.transferDone + counts - ep.periodSize)) + 2 ^ 32 := by omega
            rw [split, wrap, Nat.add_mod_right, Nat.mod_eq_of_lt (by omega)]
          rw [back]
          exact wrap_of_lt (stop (Nat.sub_le _ _))
        · show 0 < ep.periodSize
          omega
      · rename_i frameII
        split
        · rename_i alone
          refine ⟨counts, ⟨by omega, fun _ _ => by omega, ?_⟩, wrap_of_lt (stop (Nat.le_refl _)), ?_⟩
          · intro sink
            rw [alone] at sink
            cases sink
          · show pace.transferDone + counts - ep.periodSize < ep.periodSize
            omega
        · rename_i sink
          obtain ⟨taken, takes, length, left⟩ := rest (pace.transferDone + counts - ep.periodSize) true (by omega)
          refine ⟨counts + taken, ⟨?_, ?_, ?_⟩, length, left⟩
          · exact Nat.add_le_add_left takes.some _
          · rintro (alone | typeII)
            · exact absurd alone sink
            · exact absurd typeII frameII
          · exact fun sink other => congrArg (counts + ·) (takes.all sink other)
    · rename_i within
      split
      · rename_i ended
        refine ⟨counts, ⟨by omega, ?_, ?_⟩, wrap_of_lt (stop (Nat.le_refl _)), not_le.mp within⟩
        · intro _ fresh
          rw [ended.1] at fresh
          cases fresh
        · intro sink
          rw [ended.2] at sink
          cases sink
      · obtain ⟨taken, takes, length, left⟩ := rest (pace.transferDone + counts) elapsed (not_le.mp within)
        refine ⟨counts + taken, ⟨?_, ?_, ?_⟩, length, left⟩
        · exact Nat.add_le_add_left takes.some _
        · intro ends fresh
          have early := takes.early ends fresh
          omega
        · exact fun sink other => congrArg (counts + ·) (takes.all sink other)

end DataEp

/-- A playback stream after it was prepared. `sent` counts the bytes of the ring that its URBs took. -/
structure Playing where
  subs : PlaybackSubs
  sent : Nat

/-- A feedback value sets the frequency, or an URB is prepared while the ring holds `dmaArea`. -/
inductive PlaybackOp where
  | freq (f : Nat)
  | urb (sizes : List Nat) (dmaArea : Nat → Byte)

namespace Playback

variable (c : Playback) (ep : DataEp)

def exec (s : Playing) : PlaybackOp → Playing
  | .freq f => { s with subs.pace.freqm := f }
  | .urb sizes dmaArea =>
    { subs := (c.preparePlaybackUrb ep dmaArea sizes s.subs).2
      sent := s.sent + ep.urbFrames sizes s.subs.pace * c.stride }

def prepared (freqm first : Nat) : Playing := ⟨⟨⟨0, freqm, 0⟩, 0, ⟨first, 0, 0⟩⟩, 0⟩

def Sized (s : Playing) : PlaybackOp → Prop
  | .freq _ => True
  | .urb sizes _ => sizes.length ≤ MAX_PACKS_HS ∧ ∀ n ∈ ep.packetCounts sizes s.subs.pace, n ≤ c.periodSize

def Bounded (s : Playing) : PlaybackOp → Prop
  | .freq _ => True
  | .urb sizes _ => ep.sink = true → ep.typeII = false →
    s.subs.hwptrDone + (ep.packetCounts sizes s.subs.pace).sum * c.stride < 2 * c.ring

structure Right (first : Nat) (s : Playing) (op : PlaybackOp) (after : Playing) : Prop where
  bytes : ∀ sizes dmaArea, op = .urb sizes dmaArea → (c.preparePlaybackUrb ep dmaArea sizes s.subs).1 =
    c.payload first dmaArea s.sent (ep.urbFrames sizes s.subs.pace)
  place : after.subs.hwptrDone < c.ring ∧ after.subs.hwptrDone = after.sent % c.ring
  period : after.subs.pace.transferDone < c.periodSize

structure Inv (first : Nat) (s : Playing) : Prop where
  place : s.subs.hwptrDone < c.ring ∧ s.subs.hwptrDone = s.sent % c.ring
  period : s.subs.pace.transferDone < c.periodSize
  whole : c.stride ∣ s.sent
  dop : c.params.dsdDop = true → s.subs.dsdDop = ⟨(first + s.sent / c.stride) % 2, 0, 0⟩

variable {c} {ep} {first : Nat} {s : Playing}

theorem dopFrame_mod (dmaArea : Nat → Byte) (marker start k : Nat) :
    c.dopFrame dmaArea marker (start % c.ring + k) = c.dopFrame dmaArea marker (start + k) := by
  have slot (channel : Nat) : c.dopSlot dmaArea marker (start % c.ring + k) channel =
      c.dopSlot dmaArea marker (start + k) channel := by
    simp only [dopSlot, Nat.add_assoc, Nat.mod_add_mod]
  rw [dopFrame, dopFrame]
  exact congrArg (List.flatMap · _) (funext slot)

section configured

variable (valid : c.Valid) (accepted : dataEpSetParams c.params c.periodSize = some ep)

include valid accepted

theorem strides : if c.params.dsdDop = true then c.stride = 2 * c.params.channels ∧ ep.stride = 3 * c.params.channels
    else ep.stride = c.stride := by
  have hardware : ep.stride = c.params.stride := congrArg DataEp.stride (EpParams.accepted_eq accepted).2
  rw [hardware, EpParams.stride, EpParams.frameBits, Playback.stride, EpParams.runtimeFrameBits]
  split
  · rename_i dop
    rw [valid.width dop]
    omega
  · rw [Nat.add_zero]

theorem stride_bounds : 0 < ep.stride ∧ ep.stride ≤ 2 * c.stride := by
  have both := strides valid accepted
  have positive := valid.stride
  split at both
  · omega
  · omega

theorem fill_place (inv : c.Inv first s) (dmaArea : Nat → Byte) (frames : Nat) :
    (c.fillUrb dmaArea (frames * ep.stride) s.subs).2.pace = s.subs.pace ∧
      (c.fillUrb dmaArea (frames * ep.stride) s.subs).2.hwptrDone = s.subs.hwptrDone + frames * c.stride ∧
      (c.params.dsdDop = true → (c.fillUrb dmaArea (frames * ep.stride) s.subs).2.dsdDop =
        ⟨(first + (s.sent + frames * c.stride) / c.stride) % 2, 0, 0⟩) := by
  have both := strides valid accepted
  have positive := valid.stride
  by_cases dop : c.params.dsdDop = true
  · rw [if_pos dop] at both
    have filled := fill_frames (c := c) dmaArea frames ((first + s.sent / c.stride) % 2) s.subs.hwptrDone
      s.subs.hwptrDone (by omega) (Nat.mod_lt _ Nat.two_pos)
    rw [← both.1, ← both.2, ← inv.dop dop] at filled
    have more : (s.sent + frames * c.stride) / c.stride = s.sent / c.stride + frames := Nat.add_mul_div_right _ _ positive
    rw [fillUrb, if_pos dop, filled, more, ← Nat.add_assoc, ← Nat.mod_add_mod (first + s.sent / c.stride)]
    exact ⟨rfl, rfl, fun _ => rfl⟩
  · rw [if_neg dop] at both
    rw [fillUrb, if_neg dop, both]
    refine ⟨?_, ?_, fun yes => absurd yes dop⟩
    · split
      · rfl
      · split
        · rfl
        · rfl
    · split
      · rfl
      · split
        · rfl
        · rfl

theorem fill_payload (inv : c.Inv first s) (dmaArea : Nat → Byte) {frames : Nat}
    (fits : s.subs.hwptrDone + frames * c.stride < 2 * c.ring) :
    (c.fillUrb dmaArea (frames * ep.stride) s.subs).1 = c.payload first dmaArea s.sent frames := by
  have both := strides valid accepted
  by_cases dop : c.params.dsdDop = true
  · rw [if_pos dop] at both
    have filled := fill_frames (c := c) dmaArea frames ((first + s.sent / c.stride) % 2) s.subs.hwptrDone
      s.subs.hwptrDone (by have := valid.stride; omega) (Nat.mod_lt _ Nat.two_pos)
    rw [← both.1, ← both.2, ← inv.dop dop] at filled
    rw [fillUrb, if_pos dop, filled, payload, if_pos dop]
    simp only [Nat.mod_add_mod, inv.place.2, dopFrame_mod]
  · rw [if_neg dop] at both
    have next : Ring.window c.ring dmaArea s.sent (frames * c.stride) =
        Ring.window c.ring dmaArea s.subs.hwptrDone (frames * c.stride) := by
      rw [inv.place.2, Ring.window_mod]
    have inside := inv.place.1
    rw [fillUrb, if_neg dop, payload, if_neg dop, both]
    split
    · rw [next, Ring.window, List.map_map]
      rfl
    · split
      · rename_i around
        have parts : frames * c.stride = c.ring - s.subs.hwptrDone + (frames * c.stride - (c.ring - s.subs.hwptrDone)) := by
          omega
        have rest : frames * c.stride - (c.ring - s.subs.hwptrDone) ≤ c.ring := by omega
        have turned : Ring.window c.ring dmaArea s.subs.hwptrDone _ = _ :=
          Ring.window_around (Nat.add_sub_cancel' inside.le) rest
        rw [← parts] at turned
        exact (next.trans turned).symm
      · rename_i straight
        rw [next, Ring.window_straight (not_lt.mp straight)]

theorem sized_urb (sizes : List Nat) (dmaArea : Nat → Byte) (inv : c.Inv first s) (sized : c.Sized ep s (.urb sizes dmaArea)) :
    ep.Taken s.subs.pace.transferDone (ep.packetCounts sizes s.subs.pace).sum (ep.urbFrames sizes s.subs.pace) false ∧
      (ep.preparePlaybackUrb sizes s.subs.pace).1.transferBufferLength = ep.urbFrames sizes s.subs.pace * ep.stride ∧
      (ep.preparePlaybackUrb sizes s.subs.pace).2.transferDone < c.periodSize := by
  have same : ep.periodSize = c.periodSize := congrArg DataEp.periodSize (EpParams.accepted_eq accepted).2
  obtain ⟨some, most⟩ := stride_bounds valid accepted
  obtain ⟨few, packets⟩ := sized
  have long : 2 * c.periodSize * c.stride ≤ 2 ^ 20 := (Nat.mul_le_mul_right _ valid.periods).trans valid.bytes
  have bytes : (ep.packetCounts sizes s.subs.pace).sum * ep.stride < 2 ^ 32 :=
    calc (ep.packetCounts sizes s.subs.pace).sum * ep.stride
        ≤ MAX_PACKS_HS * c.periodSize * (2 * c.stride) :=
          Nat.mul_le_mul ((DataEp.sum_packetCounts packets).trans (Nat.mul_le_mul_right _ few)) most
      _ = MAX_PACKS_HS * (2 * c.periodSize * c.stride) := by
          rw [Nat.mul_assoc, ← Nat.mul_assoc c.periodSize, Nat.mul_comm c.periodSize]
      _ ≤ MAX_PACKS_HS * 2 ^ 20 := Nat.mul_le_mul_left _ long
      _ < 2 ^ 32 := by decide
  have frames : (ep.packetCounts sizes s.subs.pace).sum < 2 ^ 32 :=
    Nat.lt_of_le_of_lt (Nat.le_mul_of_pos_right _ some) bytes
  have period : 2 * ep.periodSize < 2 ^ 32 := by
    have short := Nat.le_mul_of_pos_right (2 * c.periodSize) valid.stride
    omega
  obtain ⟨taken, takes, length, done⟩ := DataEp.playback_taken sizes 0 false s.subs.pace period (same ▸ inv.period) (same ▸ packets)
    (by rwa [Nat.zero_add]) (by rwa [Nat.zero_add])
  rw [Nat.zero_add] at length
  have whole : ep.urbFrames sizes s.subs.pace = taken := by
    rw [DataEp.urbFrames, DataEp.preparePlaybackUrb, length, Nat.mul_div_cancel _ some]
  rw [whole]
  exact ⟨takes, length, same ▸ done⟩

theorem exec_urb {sizes : List Nat} {dmaArea : Nat → Byte} (inv : c.Inv first s) (sized : c.Sized ep s (.urb sizes dmaArea)) :
    (c.exec ep s (.urb sizes dmaArea)).subs.pace.transferDone < c.periodSize ∧
      (c.exec ep s (.urb sizes dmaArea)).subs.hwptrDone =
        (if c.ring ≤ s.subs.hwptrDone + ep.urbFrames sizes s.subs.pace * c.stride then
          s.subs.hwptrDone + ep.urbFrames sizes s.subs.pace * c.stride - c.ring
        else s.subs.hwptrDone + ep.urbFrames sizes s.subs.pace * c.stride) ∧
      (c.params.dsdDop = true → (c.exec ep s (.urb sizes dmaArea)).subs.dsdDop =
        ⟨(first + (c.exec ep s (.urb sizes dmaArea)).sent / c.stride) % 2, 0, 0⟩) ∧
      (s.subs.hwptrDone + ep.urbFrames sizes s.subs.pace * c.stride < 2 * c.ring →
        (c.preparePlaybackUrb ep dmaArea sizes s.subs).1 = c.payload first dmaArea s.sent (ep.urbFrames sizes s.subs.pace)) := by
  obtain ⟨-, length, done⟩ := sized_urb valid accepted sizes dmaArea inv sized
  have inv' : c.Inv first { s with subs.pace := (ep.preparePlaybackUrb sizes s.subs.pace).2 } :=
    ⟨inv.place, done, inv.whole, inv.dop⟩
  obtain ⟨pace, place, dop⟩ := fill_place valid accepted inv' dmaArea (ep.urbFrames sizes s.subs.pace)
  have payload (fits : s.subs.hwptrDone + ep.urbFrames sizes s.subs.pace * c.stride < 2 * c.ring) :=
    fill_payload valid accepted inv' dmaArea fits
  rw [← length] at pace place dop payload
  refine ⟨?_, ?_, dop, payload⟩
  · rw [exec, preparePlaybackUrb]
    dsimp only
    rw [pace]
    exact done
  · rw [exec, preparePlaybackUrb]
    dsimp only
    rw [place]

theorem decides (op : PlaybackOp) (inv : c.Inv first s) (sized : c.Sized ep s op) :
    c.Right ep first s op (c.exec ep s op) ↔ c.Bounded ep s op := by
  cases op with
  | freq f =>
    refine iff_of_true ⟨fun _ _ other => ?_, inv.place, inv.period⟩ trivial
    cases other
  | urb sizes dmaArea =>
    obtain ⟨takes, -, -⟩ := sized_urb valid accepted sizes dmaArea inv sized
    obtain ⟨period, place, -, payload⟩ := exec_urb valid accepted inv sized
    have same : ep.periodSize = c.periodSize := congrArg DataEp.periodSize (EpParams.accepted_eq accepted).2
    have inside := inv.place.1
    constructor
    · intro right sink other
      have below := right.place.1
      rw [place] at below
      rw [← takes.all sink other]
      split at below
      · omega
      · omega
    · intro bounded
      have fits : s.subs.hwptrDone + ep.urbFrames sizes s.subs.pace * c.stride < 2 * c.ring := by
        by_cases whole : ep.sink = true ∧ ep.typeII = false
        · rw [takes.all whole.1 whole.2]
          exact bounded whole.1 whole.2
        · have ends : ep.sink = false ∨ ep.typeII = true := by
            rcases Bool.eq_false_or_eq_true ep.sink with sink | alone
            · exact .inr (Bool.of_not_eq_false fun other => whole ⟨sink, other⟩)
            · exact .inl alone
          have early := takes.early ends rfl
          have periods := valid.periods
          have short : ep.urbFrames sizes s.subs.pace * c.stride < c.ring :=
            Nat.mul_lt_mul_of_pos_right (by omega) valid.stride
          omega
      refine ⟨?_, ?_, period⟩
      · intro sizes' dmaArea' same
        obtain ⟨rfl, rfl⟩ := PlaybackOp.urb.inj same
        exact payload fits
      · have sent : (c.exec ep s (.urb sizes dmaArea)).sent % c.ring =
            (s.subs.hwptrDone + ep.urbFrames sizes s.subs.pace * c.stride) % c.ring := by
          rw [inv.place.2, Nat.mod_add_mod]
          rfl
        rw [sent, place]
        split
        · rename_i past
          rw [Nat.mod_eq_sub_mod past, Nat.mod_eq_of_lt (by omega)]
          exact ⟨by omega, rfl⟩
        · rename_i before
          rw [Nat.mod_eq_of_lt (not_le.mp before)]
          exact ⟨not_le.mp before, rfl⟩

theorem keeps (op : PlaybackOp) (inv : c.Inv first s) (sized : c.Sized ep s op) (bounded : c.Bounded ep s op) :
    c.Inv first (c.exec ep s op) := by
  have right := (decides valid accepted op inv sized).mpr bounded
  cases op with
  | freq f => exact ⟨inv.place, inv.period, inv.whole, inv.dop⟩
  | urb sizes dmaArea =>
    obtain ⟨-, -, dop, -⟩ := exec_urb valid accepted inv sized
    exact ⟨right.place, right.period, Nat.dvd_add inv.whole (Nat.dvd_mul_left _ _), dop⟩

end configured

/-- The URBs of a playback stream are its ring, in order, exactly as long as each one that does not end at the period
    boundary stays within two turns. -/
theorem playback_iff (c : Playback) (ep : DataEp) (valid : c.Valid)
    (accepted : dataEpSetParams c.params c.periodSize = some ep) {first : Nat} (marker : first < 2) (freqm : Nat)
    (ops : List PlaybackOp) (sized : Throughout (c.exec ep) (fun s op _ => c.Sized ep s op) (prepared freqm first) ops) :
    Throughout (c.exec ep) (c.Right ep first) (prepared freqm first) ops ↔
      Throughout (c.exec ep) (fun s op _ => c.Bounded ep s op) (prepared freqm first) ops := by
  have room : 0 < c.ring := Nat.mul_pos (Nat.lt_of_lt_of_le (Nat.mul_pos Nat.two_pos valid.period) valid.periods) valid.stride
  have start : c.Inv first (prepared freqm first) := by
    refine ⟨⟨room, (Nat.zero_mod _).symm⟩, valid.period, Nat.dvd_zero _, fun _ => ?_⟩
    show (⟨first, 0, 0⟩ : DsdDop) = ⟨(first + 0 / c.stride) % 2, 0, 0⟩
    rw [Nat.zero_div, Nat.add_zero, Nat.mod_eq_of_lt marker]
  exact throughout_iff (c.Inv first) (c.Right ep first) (c.Bounded ep)
    (fun s op inv sized => decides valid accepted op inv sized)
    (fun s op inv sized bounded => keeps valid accepted op inv sized bounded) start sized

def stereoPlayback : Playback := ⟨EpParams.stereo, 1024, 2048, false, false⟩

theorem stereoPlayback_valid : stereoPlayback.Valid where
  width := fun dop => absurd dop (by decide)
  stride := by decide
  period := by decide
  periods := by decide
  bytes := by decide

/-- Two packets at 48 kHz. -/
theorem playback_stereo : ∃ ep, dataEpSetParams EpParams.stereo 1024 = some ep ∧
    Throughout (stereoPlayback.exec ep) (stereoPlayback.Right ep 1) (prepared (48 * 2 ^ 16) 1) [.urb [0, 0] fun _ => 0] := by
  have accepted : dataEpSetParams EpParams.stereo 1024 = some _ := rfl
  have right_iff := playback_iff stereoPlayback _ stereoPlayback_valid accepted Nat.one_lt_two (48 * 2 ^ 16) [.urb [0, 0] fun _ => 0]
  exact ⟨_, accepted, (right_iff ⟨⟨by decide, by decide⟩, trivial⟩).mpr ⟨fun sink => absurd sink (by decide), trivial⟩⟩

def shortRing : Playback :=
  ⟨{ EpParams.stereo with fullSpeed := false, sink := true, maxpacksize := 56, periodBytes := 256, freqn := 6 * 2 ^ 16 },
    64, 128, false, false⟩

theorem shortRing_valid : shortRing.Valid where
  width := fun dop => absurd dop (by decide)
  stride := by decide
  period := by decide
  periods := by decide
  bytes := by decide

/-- Four packets of 64 frames, one after the other, are two rings. -/
theorem sink_leaves_ring : ¬ ∀ (c : Playback) (ep : DataEp), c.Valid → dataEpSetParams c.params c.periodSize = some ep →
    ∀ first < 2, ∀ (freqm : Nat) (ops : List PlaybackOp),
      Throughout (c.exec ep) (fun s op _ => c.Sized ep s op) (prepared freqm first) ops →
      Throughout (c.exec ep) (c.Right ep first) (prepared freqm first) ops := by
  intro all
  have run := all shortRing _ shortRing_valid rfl 1 (by decide) (6 * 2 ^ 16) [.urb [64, 64, 64, 64] fun _ => 0]
    ⟨⟨by decide, by decide⟩, trivial⟩
  exact absurd run.1.place.1 (by decide)

end Playback

end AlsaDriver.Usb
