import Mathlib
import AlsaDriver.Pcm.Indirect

namespace AlsaDriver.Pcm.Indirect

open Ring Relay Runs IndirectSetup

/-- A playback stream, with all that the application has written, all that the hardware has played and how much of
    it the pointer callback has told. -/
structure PlaybackStream where
  pcmRec : SndPcmIndirect
  applPtr : Nat
  area : Nat → Byte
  device : Nat → Byte
  written : List Byte
  played : List Byte
  reported : Nat

inductive PlaybackOp where
  | write (frames : Nat) (data : List Byte)
  | ack (queue : Nat)
  | play (n : Nat)
  | pointer (queue : Nat)

namespace PlaybackStream

variable (c : IndirectSetup) (s : PlaybackStream)

def start (area device : Nat → Byte) : PlaybackStream := ⟨c.prepared, 0, area, device, [], [], 0⟩

def moved : Nat := (s.reported + s.pcmRec.hwReady).toNat

/-- The ack callback, which may set `hw_queue_size` before the transfer. -/
def ack (queue : Nat) : PlaybackStream :=
  let result := { s.pcmRec with hwQueueSize := queue }.playbackTransfer c.frameBits c.pcm.boundary s.applPtr s.area s.device
  { s with pcmRec := result.1, device := result.2 }

def pointed : SndPcmIndirect := s.pcmRec.playbackPointer (c.bytePointer s.played.length)

def pointerFrames : Int := bytesToFrames c.frameBits (s.pointed c).swIo

def exec : PlaybackOp → PlaybackStream
  | .write frames data =>
    { s with
      area := fill c.swBufferSize s.area (c.applOffset s.applPtr) data
      applPtr := c.applMoved s.applPtr frames
      written := s.written ++ data }
  | .ack queue => s.ack c queue
  | .play n => { s with played := s.played ++ window c.hwBufferSize s.device s.played.length n }
  | .pointer queue => { s with pcmRec := s.pointed c, reported := s.played.length }.ack c queue

/-- The application writes whole frames and only where the last pointer leaves room, and the hardware plays what it
    has been given, less than its ring between two pointers. -/
def Allowed : PlaybackOp → Prop
  | .write frames data => 8 * data.length = frames * c.frameBits ∧ s.written.length + data.length ≤ s.reported + c.swBufferSize
  | .ack queue => queue ≤ c.hwBufferSize
  | .play n => s.played.length + n ≤ s.moved ∧ s.played.length + n < s.reported + c.hwBufferSize
  | .pointer queue => queue ≤ c.hwBufferSize

def Lossless : Prop :=
  s.played ++ window c.hwBufferSize s.device s.played.length (s.moved - s.played.length) ++
    window c.swBufferSize s.area s.moved (s.written.length - s.moved) = s.written

def Settled (queue : Nat) : Prop := s.moved = s.written.length ∨ s.reported + c.queueSize queue ≤ s.moved

structure Inv (queue moved seen frames seenFrames : Nat) : Prop where
  record : s.pcmRec = c.playing queue s.reported moved seen seenFrames
  appl : s.applPtr = frames % c.pcm.boundary
  whole : 8 * s.written.length = frames * c.frameBits
  seen_whole : 8 * seen = seenFrames * c.frameBits
  reported_le : s.reported ≤ s.played.length
  played_le : s.played.length ≤ moved
  moved_le : moved ≤ seen
  seen_le : seen ≤ s.written.length
  frames_le : seenFrames ≤ frames
  written_le : s.written.length ≤ s.reported + c.swBufferSize
  near : s.played.length < s.reported + c.hwBufferSize
  room : moved ≤ s.reported + c.hwBufferSize
  queue_le : queue ≤ c.hwBufferSize
  played : s.played = s.written.take s.played.length
  device : Holds c.hwBufferSize s.device s.written s.reported moved
  area : Holds c.swBufferSize s.area s.written s.reported s.written.length

variable {c s}

theorem Inv.moved_eq {queue moved seen frames seenFrames : Nat} (inv : s.Inv c queue moved seen frames seenFrames) :
    s.moved = moved := by
  unfold PlaybackStream.moved
  rw [inv.record]
  simp [playing]

theorem Inv.lossless {queue moved seen frames seenFrames : Nat} (inv : s.Inv c queue moved seen frames seenFrames) :
    s.Lossless c := by
  have played_le := inv.played_le
  have moved_le : moved ≤ s.written.length := inv.moved_le.trans inv.seen_le
  have hw := (inv.device.mono inv.reported_le (Nat.le_refl _)).join played_le inv.played
  have sw := (inv.area.mono (inv.reported_le.trans played_le) (Nat.le_refl _)).window moved_le
  unfold Lossless
  rw [inv.moved_eq, hw, sw, List.take_length, List.take_append_drop]

theorem start_inv (area device : Nat → Byte) : (start c area device).Inv c 0 0 0 0 0 where
  record := rfl
  appl := (Nat.zero_mod _).symm
  whole := (Nat.zero_mul _).symm
  seen_whole := (Nat.zero_mul _).symm
  reported_le := Nat.le_refl _
  played_le := Nat.le_refl _
  moved_le := Nat.le_refl _
  seen_le := Nat.le_refl _
  frames_le := Nat.le_refl _
  written_le := Nat.zero_le _
  near := Nat.add_pos_right _ c.hw_pos
  room := Nat.zero_le _
  queue_le := Nat.zero_le _
  played := rfl
  device := holds_none
  area := holds_none

variable {queue moved seen frames seenFrames : Nat}

theorem Inv.ack (inv : s.Inv c queue moved seen frames seenFrames) {queue' : Nat} (fits : queue' ≤ c.hwBufferSize) :
    ∃ moved', (s.ack c queue').Inv c queue' moved' s.written.length frames frames ∧ (s.ack c queue').Settled c queue' := by
  obtain ⟨n, rfl⟩ := Nat.exists_eq_add_of_le inv.frames_le
  obtain ⟨bytes, written⟩ := Nat.exists_eq_add_of_le inv.seen_le
  have order := inv.reported_le.trans inv.played_le
  have written_le := inv.written_le
  have moved_le := inv.moved_le
  have whole : 8 * bytes = n * c.frameBits := by
    have all := inv.whole
    rw [written] at all
    exact whole_between inv.seen_whole all
  have short : n ≤ c.pcm.bufferSize := short_of_bytes whole (by omega)
  have look := playbackSeen_playing queue' s.reported seenFrames short whole moved_le (by omega)
  obtain ⟨moved', device', result, above, below, room, holds, settled⟩ :=
    playbackLoop_spec (seenFrames + n)
      (c.playing queue' s.reported moved (seen + bytes) (seenFrames + n)).swReady.toNat fits order
      (show moved ≤ seen + bytes by omega) inv.room (by omega) (by simp [playing]; omega)
      (by rw [← written]; exact inv.area.mono order (Nat.le_refl _)) inv.device
  have acked : s.ack c queue' = { s with
      pcmRec := c.playing queue' s.reported moved' s.written.length (seenFrames + n)
      device := device' } := by
    unfold PlaybackStream.ack SndPcmIndirect.playbackTransfer
    have queued : { s.pcmRec with hwQueueSize := queue' } = c.playing queue' s.reported moved seen seenFrames := by
      rw [inv.record]
      rfl
    rw [queued, inv.appl, look, result, written]
  rw [acked]
  refine ⟨moved', ?_, ?_⟩
  · exact {
      record := rfl
      appl := inv.appl
      whole := inv.whole
      seen_whole := inv.whole
      reported_le := inv.reported_le
      played_le := inv.played_le.trans above
      moved_le := by rw [written]; exact below
      seen_le := Nat.le_refl _
      frames_le := Nat.le_refl _
      written_le := inv.written_le
      near := inv.near
      room := room
      queue_le := fits
      played := inv.played
      device := holds
      area := inv.area }
  · have moved_eq : PlaybackStream.moved { s with
        pcmRec := c.playing queue' s.reported moved' s.written.length (seenFrames + n)
        device := device' } = moved' := by simp [PlaybackStream.moved, playing]
    unfold Settled
    rw [moved_eq]
    dsimp only
    rw [written]
    exact settled

theorem Inv.write (inv : s.Inv c queue moved seen frames seenFrames) {n : Nat} {data : List Byte}
    (allowed : s.Allowed c (.write n data)) :
    (s.exec c (.write n data)).Inv c queue moved seen (frames + n) seenFrames := by
  obtain ⟨bytes, room⟩ := allowed
  have reported_le := inv.reported_le
  have played_le := inv.played_le
  have moved_le := inv.moved_le
  have seen_le := inv.seen_le
  have frames_le := inv.frames_le
  have short : n ≤ c.pcm.bufferSize := short_of_bytes bytes (by omega)
  have filled := inv.area.fill data room
  have length : (s.written ++ data).length = s.written.length + data.length := List.length_append
  exact {
    record := inv.record
    appl := by
      show c.applMoved s.applPtr n = _
      rw [inv.appl]
      exact applMoved_mod short
    whole := by
      show 8 * (s.written ++ data).length = _
      rw [length, Nat.mul_add, Nat.add_mul, bytes, inv.whole]
    seen_whole := inv.seen_whole
    reported_le := reported_le
    played_le := played_le
    moved_le := moved_le
    seen_le := by
      show seen ≤ (s.written ++ data).length
      omega
    frames_le := by omega
    written_le := by
      show (s.written ++ data).length ≤ _
      rw [length]
      exact room
    near := inv.near
    room := inv.room
    queue_le := inv.queue_le
    played := by
      show s.played = (s.written ++ data).take s.played.length
      rw [List.take_append_of_le_length (by omega)]
      exact inv.played
    device := inv.device.append data
    area := by
      show Holds _ (fill c.swBufferSize s.area (c.applOffset s.applPtr) data) (s.written ++ data) _ (s.written ++ data).length
      have place := applOffset_mod (c := c) inv.whole
      rw [← inv.appl] at place
      rw [length, fill_congr place]
      exact filled }

theorem Inv.play (inv : s.Inv c queue moved seen frames seenFrames) {n : Nat} (allowed : s.Allowed c (.play n)) :
    (s.exec c (.play n)).Inv c queue moved seen frames seenFrames := by
  obtain ⟨given, near⟩ := allowed
  rw [inv.moved_eq] at given
  have reported_le := inv.reported_le
  have piece := (inv.device.mono reported_le given).join (Nat.le_add_right _ _) inv.played
  rw [Nat.add_sub_cancel_left] at piece
  have length : (s.exec c (.play n)).played.length = s.played.length + n := by simp [exec]
  exact { inv with
    reported_le := by
      rw [length]
      exact reported_le.trans (Nat.le_add_right _ _)
    played_le := by
      rw [length]
      exact given
    near := by
      rw [length]
      exact near
    played := by
      rw [length]
      exact piece }

theorem Inv.pointed_eq (inv : s.Inv c queue moved seen frames seenFrames) :
    s.pointed c = c.playing queue s.played.length moved seen seenFrames := by
  obtain ⟨n, gone⟩ := Nat.exists_eq_add_of_le inv.reported_le
  have near := inv.near
  have played_le := inv.played_le
  have moved_le := inv.moved_le
  have seen_le := inv.seen_le
  have written_le := inv.written_le
  unfold pointed
  rw [inv.record, gone]
  exact playbackPointer_playing (by omega) (by omega) (by omega) inv.room

theorem Inv.told (inv : s.Inv c queue moved seen frames seenFrames) :
    { s with pcmRec := s.pointed c, reported := s.played.length }.Inv c queue moved seen frames seenFrames :=
  have reported_le := inv.reported_le
  { inv with
    record := inv.pointed_eq
    reported_le := Nat.le_refl _
    written_le := inv.written_le.trans (Nat.add_le_add_right reported_le _)
    near := Nat.lt_add_of_pos_right c.hw_pos
    room := inv.room.trans (Nat.add_le_add_right reported_le _)
    device := inv.device.mono reported_le (Nat.le_refl _)
    area := inv.area.mono reported_le (Nat.le_refl _) }

def Served (c : IndirectSetup) (s : PlaybackStream) : PlaybackOp → PlaybackStream → Prop
  | .ack queue, s' => s'.Settled c queue
  | .pointer queue, s' => s'.Settled c queue ∧
      s.pointerFrames c = bytesToFrames c.frameBits (s.played.length % c.swBufferSize : Nat)
  | _, _ => True

theorem exec_inv (inv : s.Inv c queue moved seen frames seenFrames) (op : PlaybackOp) (allowed : s.Allowed c op) :
    s.Served c op (s.exec c op) ∧
      ∃ queue moved seen frames seenFrames, (s.exec c op).Inv c queue moved seen frames seenFrames := by
  cases op with
  | write n data => exact ⟨trivial, _, _, _, _, _, inv.write allowed⟩
  | ack queue' =>
    obtain ⟨moved', next, settled⟩ := inv.ack allowed
    exact ⟨settled, _, _, _, _, _, next⟩
  | play n => exact ⟨trivial, _, _, _, _, _, inv.play allowed⟩
  | pointer queue' =>
    obtain ⟨moved', next, settled⟩ := inv.told.ack allowed
    refine ⟨⟨settled, ?_⟩, _, _, _, _, _, next⟩
    unfold pointerFrames
    rw [inv.pointed_eq]
    rfl

instance : (op : PlaybackOp) → Decidable (s.Allowed c op)
  | .write frames data => inferInstanceAs (Decidable (8 * data.length = frames * c.frameBits ∧
      s.written.length + data.length ≤ s.reported + c.swBufferSize))
  | .ack queue => inferInstanceAs (Decidable (queue ≤ c.hwBufferSize))
  | .play n => inferInstanceAs (Decidable (s.played.length + n ≤ s.moved ∧ s.played.length + n < s.reported + c.hwBufferSize))
  | .pointer queue => inferInstanceAs (Decidable (queue ≤ c.hwBufferSize))

def around : List PlaybackOp :=
  [.write 3 [1, 2, 3, 4, 5, 6], .ack 0, .play 3, .pointer 3, .write 1 [7, 8], .pointer 4, .play 2, .pointer 0,
    .write 1 [9, 10], .ack 2]

end PlaybackStream

end AlsaDriver.Pcm.Indirect
