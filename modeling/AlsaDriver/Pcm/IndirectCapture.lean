import Mathlib
import AlsaDriver.Pcm.Indirect

namespace AlsaDriver.Pcm.Indirect

open Ring Relay Runs IndirectSetup

/-- A capture stream, with all that the hardware has recorded, all that the application has read and how much the
    pointer callback has told. -/
structure CaptureStream where
  pcmRec : SndPcmIndirect
  applPtr : Nat
  area : Nat → Byte
  device : Nat → Byte
  recorded : List Byte
  taken : List Byte
  reported : Nat
  xrun : Bool

inductive CaptureOp where
  | record (data : List Byte)
  | ack (queue : Nat)
  | read (frames bytes : Nat)
  | pointer (queue : Nat)

namespace CaptureStream

variable (c : IndirectSetup) (s : CaptureStream)

def start (area device : Nat → Byte) : CaptureStream := ⟨c.prepared, 0, area, device, [], [], 0, false⟩

def moved : Nat := (s.reported - s.pcmRec.hwReady).toNat

/-- The ack callback, which may set `hw_queue_size` before the transfer. -/
def ack (queue : Nat) : CaptureStream :=
  let result := { s.pcmRec with hwQueueSize := queue }.captureTransfer c.frameBits c.pcm.boundary s.applPtr s.area s.device
  { s with pcmRec := result.1, area := result.2 }

def pointed : Bool × SndPcmIndirect := s.pcmRec.capturePointer (c.bytePointer s.recorded.length)

/-- What the pointer callback returns, `none` for `SNDRV_PCM_POS_XRUN`. -/
def pointerFrames : Option Int :=
  if (s.pointed c).1 then some (bytesToFrames c.frameBits (s.pointed c).2.swIo) else none

def told : CaptureStream :=
  { s with pcmRec := (s.pointed c).2, reported := s.recorded.length, xrun := !(s.pointed c).1 }

def exec : CaptureOp → CaptureStream
  | .record data =>
    { s with
      device := fill c.hwBufferSize s.device s.recorded.length data
      recorded := s.recorded ++ data }
  | .ack queue => s.ack c queue
  | .read frames bytes =>
    { s with
      applPtr := c.applMoved s.applPtr frames
      taken := s.taken ++ window c.swBufferSize s.area (c.applOffset s.applPtr) bytes }
  | .pointer queue => if (s.pointed c).1 then (s.told c).ack c queue else s.told c

/-- The stream runs while there is no xrun. The application reads whole frames that are there, and the hardware does not
    run over what has not been copied yet, nor around its ring between two pointers. -/
def Allowed : CaptureOp → Prop
  | .record data => s.xrun = false ∧ s.recorded.length + data.length ≤ s.moved + c.hwBufferSize ∧
      s.recorded.length + data.length < s.reported + c.hwBufferSize
  | .ack queue => s.xrun = false ∧ queue ≤ c.hwBufferSize
  | .read frames bytes => s.xrun = false ∧ 8 * bytes = frames * c.frameBits ∧ s.taken.length + bytes ≤ s.moved
  | .pointer queue => s.xrun = false ∧ queue ≤ c.hwBufferSize ∧ s.recorded.length ≤ s.reported + c.swBufferSize

def Lossless : Prop :=
  s.taken ++ window c.swBufferSize s.area s.taken.length (s.moved - s.taken.length) ++
    window c.hwBufferSize s.device s.moved (s.recorded.length - s.moved) = s.recorded

def Settled : Prop := s.moved = s.reported ∨ s.taken.length + c.swBufferSize ≤ s.moved

structure Inv (queue moved seen frames seenFrames : Nat) : Prop where
  record : s.pcmRec = c.recording queue s.reported moved seen seenFrames
  appl : s.applPtr = frames % c.pcm.boundary
  whole : 8 * s.taken.length = frames * c.frameBits
  seen_whole : 8 * seen = seenFrames * c.frameBits
  seen_le : seen ≤ s.taken.length
  frames_le : seenFrames ≤ frames
  taken_le : s.taken.length ≤ moved
  moved_le : moved ≤ s.reported
  reported_le : s.reported ≤ s.recorded.length
  room : moved ≤ seen + c.swBufferSize
  recorded_le : s.recorded.length ≤ moved + c.hwBufferSize
  near : s.recorded.length < s.reported + c.hwBufferSize
  queue_le : queue ≤ c.hwBufferSize
  taken : s.taken = s.recorded.take s.taken.length
  area : Holds c.swBufferSize s.area s.recorded seen moved
  device : Holds c.hwBufferSize s.device s.recorded moved s.recorded.length

variable {c s} {queue moved seen frames seenFrames : Nat}

theorem Inv.moved_eq (inv : s.Inv c queue moved seen frames seenFrames) : s.moved = moved := by
  have moved_le := inv.moved_le
  unfold CaptureStream.moved
  rw [inv.record]
  simp [recording]

theorem lossless_of {moved : Nat} (at_ : s.moved = moved) (taken_le : s.taken.length ≤ moved)
    (moved_le : moved ≤ s.recorded.length) (taken : s.taken = s.recorded.take s.taken.length)
    (area : Holds c.swBufferSize s.area s.recorded s.taken.length moved)
    (device : Holds c.hwBufferSize s.device s.recorded moved s.recorded.length) : s.Lossless c := by
  have sw := area.join taken_le taken
  have hw := device.window moved_le
  unfold Lossless
  rw [at_, sw, hw, List.take_length, List.take_append_drop]

theorem Inv.lossless (inv : s.Inv c queue moved seen frames seenFrames) : s.Lossless c :=
  lossless_of inv.moved_eq inv.taken_le (inv.moved_le.trans inv.reported_le) inv.taken
    (inv.area.mono inv.seen_le (Nat.le_refl _)) inv.device

theorem start_inv (area device : Nat → Byte) : (start c area device).Inv c 0 0 0 0 0 where
  record := rfl
  appl := (Nat.zero_mod _).symm
  whole := (Nat.zero_mul _).symm
  seen_whole := (Nat.zero_mul _).symm
  seen_le := Nat.le_refl _
  frames_le := Nat.le_refl _
  taken_le := Nat.le_refl _
  moved_le := Nat.le_refl _
  reported_le := Nat.le_refl _
  room := Nat.zero_le _
  recorded_le := Nat.zero_le _
  near := Nat.add_pos_right _ c.hw_pos
  queue_le := Nat.zero_le _
  taken := rfl
  area := holds_none
  device := holds_none

theorem Inv.ack (inv : s.Inv c queue moved seen frames seenFrames) {queue' : Nat} (fits : queue' ≤ c.hwBufferSize) :
    ∃ moved', (s.ack c queue').Inv c queue' moved' s.taken.length frames frames ∧ (s.ack c queue').Settled c := by
  obtain ⟨n, rfl⟩ := Nat.exists_eq_add_of_le inv.frames_le
  obtain ⟨bytes, taken⟩ := Nat.exists_eq_add_of_le inv.seen_le
  have taken_le := inv.taken_le
  have room := inv.room
  have recorded_le := inv.recorded_le
  have reported_le := inv.reported_le
  have moved_le := inv.moved_le
  have whole : 8 * bytes = n * c.frameBits := by
    have all := inv.whole
    rw [taken] at all
    exact whole_between inv.seen_whole all
  have short : n ≤ c.pcm.bufferSize := short_of_bytes whole (by omega)
  have look := captureSeen_recording queue' s.reported seenFrames short whole
    (show seen + bytes ≤ moved by omega) room
  obtain ⟨moved', area', result, above, below, room', holds, settled⟩ :=
    captureLoop_spec queue' (seenFrames + n)
      (c.recording queue' s.reported moved (seen + bytes) (seenFrames + n)).hwReady.toNat
      (show seen + bytes ≤ moved by omega) moved_le (by omega) (by omega) (by simp [recording]; omega)
      (inv.device.mono (Nat.le_refl _) reported_le) (inv.area.mono (Nat.le_add_right _ _) (Nat.le_refl _))
  have acked : s.ack c queue' = { s with
      pcmRec := c.recording queue' s.reported moved' s.taken.length (seenFrames + n)
      area := area' } := by
    unfold CaptureStream.ack SndPcmIndirect.captureTransfer
    have queued : { s.pcmRec with hwQueueSize := queue' } = c.recording queue' s.reported moved seen seenFrames := by
      rw [inv.record]
      rfl
    rw [queued, inv.appl, look, result, taken]
  rw [acked]
  refine ⟨moved', ?_, ?_⟩
  · exact {
      record := rfl
      appl := inv.appl
      whole := inv.whole
      seen_whole := inv.whole
      seen_le := Nat.le_refl _
      frames_le := Nat.le_refl _
      taken_le := taken_le.trans above
      moved_le := below
      reported_le := reported_le
      room := by
        rw [taken]
        exact room'
      recorded_le := recorded_le.trans (Nat.add_le_add_right above _)
      near := inv.near
      queue_le := fits
      taken := inv.taken
      area := by
        rw [taken]
        exact holds
      device := inv.device.mono above (Nat.le_refl _) }
  · have moved_eq : CaptureStream.moved { s with
        pcmRec := c.recording queue' s.reported moved' s.taken.length (seenFrames + n)
        area := area' } = moved' := by simp [CaptureStream.moved, recording]
    unfold Settled
    rw [moved_eq]
    dsimp only
    rw [taken]
    exact settled

theorem Inv.write (inv : s.Inv c queue moved seen frames seenFrames) {data : List Byte}
    (allowed : s.Allowed c (.record data)) :
    (s.exec c (.record data)).Inv c queue moved seen frames seenFrames := by
  obtain ⟨-, room, near⟩ := allowed
  rw [inv.moved_eq] at room
  have reported_le := inv.reported_le
  have moved_le := inv.moved_le
  have taken_le := inv.taken_le
  have filled := inv.device.fill data room
  have length : (s.exec c (.record data)).recorded.length = s.recorded.length + data.length := by simp [exec]
  exact { inv with
    reported_le := by
      rw [length]
      exact reported_le.trans (Nat.le_add_right _ _)
    recorded_le := by
      rw [length]
      exact room
    near := by
      rw [length]
      exact near
    taken := by
      show s.taken = (s.recorded ++ data).take s.taken.length
      rw [List.take_append_of_le_length (by omega)]
      exact inv.taken
    area := inv.area.append data
    device := by
      rw [length]
      exact filled }

theorem Inv.read (inv : s.Inv c queue moved seen frames seenFrames) {n bytes : Nat}
    (allowed : s.Allowed c (.read n bytes)) :
    (s.exec c (.read n bytes)).Inv c queue moved seen (frames + n) seenFrames := by
  obtain ⟨-, whole, there⟩ := allowed
  rw [inv.moved_eq] at there
  have room := inv.room
  have seen_le := inv.seen_le
  have frames_le := inv.frames_le
  have short : n ≤ c.pcm.bufferSize := short_of_bytes whole (by omega)
  have place := applOffset_mod (c := c) inv.whole
  have piece := (inv.area.mono seen_le there).join (Nat.le_add_right _ _) inv.taken
  rw [Nat.add_sub_cancel_left] at piece
  have length : (s.exec c (.read n bytes)).taken.length = s.taken.length + bytes := by simp [exec]
  exact { inv with
    appl := by
      show c.applMoved s.applPtr n = _
      rw [inv.appl]
      exact applMoved_mod short
    whole := by
      rw [length, Nat.mul_add, Nat.add_mul, whole, inv.whole]
    seen_le := by
      rw [length]
      exact seen_le.trans (Nat.le_add_right _ _)
    frames_le := by omega
    taken_le := by
      rw [length]
      exact there
    taken := by
      rw [length]
      show s.taken ++ window c.swBufferSize s.area (c.applOffset s.applPtr) bytes = s.recorded.take (s.taken.length + bytes)
      rw [inv.appl, ← window_mod, place, window_mod]
      exact piece }

def Overflows (c : IndirectSetup) (s : CaptureStream) : Prop := c.queueSize s.pcmRec.hwQueueSize < s.recorded.length - s.moved

theorem Inv.pointed_eq (inv : s.Inv c queue moved seen frames seenFrames)
    (fits : s.recorded.length ≤ s.reported + c.swBufferSize) :
    s.pointed c =
      if c.queueSize queue < s.recorded.length - moved then
        (false, (c.recording queue s.recorded.length moved seen seenFrames).withSwIo (s.reported % c.swBufferSize))
      else (true, c.recording queue s.recorded.length moved seen seenFrames) := by
  obtain ⟨n, gone⟩ := Nat.exists_eq_add_of_le inv.reported_le
  have near := inv.near
  have recorded_le := inv.recorded_le
  unfold pointed
  rw [inv.record, gone]
  rw [gone] at near fits recorded_le
  exact capturePointer_recording inv.queue_le (by omega) (by omega) inv.moved_le recorded_le

theorem Inv.overflows_iff (inv : s.Inv c queue moved seen frames seenFrames) :
    s.Overflows c ↔ c.queueSize queue < s.recorded.length - moved := by
  unfold Overflows
  rw [inv.moved_eq, inv.record]
  exact Iff.rfl

/-- A pointer gives up exactly at an overflow. Else it returns the position of the hardware, and all that fits is passed on. -/
def Served (c : IndirectSetup) (s : CaptureStream) : CaptureOp → CaptureStream → Prop
  | .ack _, s' => s'.Settled c
  | .pointer _, s' => (s'.xrun = true ↔ s.Overflows c) ∧ (s'.xrun = true → s.pointerFrames c = none) ∧
      (s'.xrun = false → s'.Settled c ∧
        s.pointerFrames c = some (bytesToFrames c.frameBits (s.recorded.length % c.swBufferSize : Nat)))
  | _, _ => True

theorem Inv.pointer (inv : s.Inv c queue moved seen frames seenFrames) {queue' : Nat}
    (allowed : s.Allowed c (.pointer queue')) :
    (s.exec c (.pointer queue')).Lossless c ∧ s.Served c (.pointer queue') (s.exec c (.pointer queue')) ∧
      ((s.exec c (.pointer queue')).xrun = true ∨ ∃ moved', (s.exec c (.pointer queue')).xrun = false ∧
        (s.exec c (.pointer queue')).Inv c queue' moved' s.taken.length frames frames) := by
  obtain ⟨running, queue_le, fits⟩ := allowed
  have pointed := inv.pointed_eq fits
  by_cases full : c.queueSize queue < s.recorded.length - moved
  · rw [if_pos full] at pointed
    have stopped : s.exec c (.pointer queue') = s.told c := by simp [exec, pointed]
    have moved_eq : (s.told c).moved = moved := by simp [told, pointed, CaptureStream.moved, recording]
    have xrun : (s.told c).xrun = true := by simp [told, pointed]
    rw [stopped]
    refine ⟨?_, ⟨iff_of_true xrun (inv.overflows_iff.mpr full), fun _ => ?_, fun none_ => ?_⟩, .inl xrun⟩
    · exact lossless_of moved_eq inv.taken_le (inv.moved_le.trans inv.reported_le) inv.taken
        (inv.area.mono inv.seen_le (Nat.le_refl _)) inv.device
    · simp [pointerFrames, pointed]
    · rw [xrun] at none_
      cases none_
  · rw [if_neg full] at pointed
    have goes : s.exec c (.pointer queue') = (s.told c).ack c queue' := by simp [exec, pointed]
    have told : (s.told c).Inv c queue moved seen frames seenFrames :=
      { inv with
        record := by simp [CaptureStream.told, pointed]
        moved_le := inv.moved_le.trans inv.reported_le
        reported_le := Nat.le_refl _
        near := Nat.lt_add_of_pos_right c.hw_pos }
    obtain ⟨moved', next, settled⟩ := told.ack queue_le
    have xrun : ((s.told c).ack c queue').xrun = false := by simp [CaptureStream.ack, CaptureStream.told, pointed]
    rw [goes]
    refine ⟨next.lossless, ⟨iff_of_false ?_ fun full' => full (inv.overflows_iff.mp full'), fun some_ => ?_, fun _ => ⟨settled, ?_⟩⟩,
      .inr ⟨moved', xrun, next⟩⟩
    · simp [xrun]
    · rw [xrun] at some_
      cases some_
    · simp only [pointerFrames, pointed, if_true]
      rfl

theorem exec_inv (inv : s.Inv c queue moved seen frames seenFrames) (op : CaptureOp) (allowed : s.Allowed c op) :
    (s.exec c op).Lossless c ∧ s.Served c op (s.exec c op) ∧
      ((s.exec c op).xrun = true ∨ ∃ queue moved seen frames seenFrames, (s.exec c op).Inv c queue moved seen frames seenFrames) := by
  cases op with
  | record data =>
    have next := inv.write allowed
    exact ⟨next.lossless, trivial, .inr ⟨_, _, _, _, _, next⟩⟩
  | ack queue' =>
    obtain ⟨moved', next, settled⟩ := inv.ack allowed.2
    exact ⟨next.lossless, settled, .inr ⟨_, _, _, _, _, next⟩⟩
  | read n bytes =>
    have next := inv.read allowed
    exact ⟨next.lossless, trivial, .inr ⟨_, _, _, _, _, next⟩⟩
  | pointer queue' =>
    obtain ⟨lossless, served, rest⟩ := inv.pointer allowed
    rcases rest with xrun | ⟨moved', -, next⟩
    · exact ⟨lossless, served, .inl xrun⟩
    · exact ⟨lossless, served, .inr ⟨_, _, _, _, _, next⟩⟩

theorem allowed_running {op : CaptureOp} (allowed : s.Allowed c op) : s.xrun = false := by
  cases op with
  | record data => exact allowed.1
  | ack queue => exact allowed.1
  | read n bytes => exact allowed.1
  | pointer queue => exact allowed.1

instance : (op : CaptureOp) → Decidable (s.Allowed c op)
  | .record data => inferInstanceAs (Decidable (s.xrun = false ∧ s.recorded.length + data.length ≤ s.moved + c.hwBufferSize ∧
      s.recorded.length + data.length < s.reported + c.hwBufferSize))
  | .ack queue => inferInstanceAs (Decidable (s.xrun = false ∧ queue ≤ c.hwBufferSize))
  | .read frames bytes => inferInstanceAs (Decidable (s.xrun = false ∧ 8 * bytes = frames * c.frameBits ∧
      s.taken.length + bytes ≤ s.moved))
  | .pointer queue => inferInstanceAs (Decidable (s.xrun = false ∧ queue ≤ c.hwBufferSize ∧
      s.recorded.length ≤ s.reported + c.swBufferSize))

def overflowing : List CaptureOp :=
  [.record [1, 2, 3], .pointer 2, .read 1 2, .record [4, 5], .ack 3, .pointer 2, .record [6, 7, 8], .pointer 2]

end CaptureStream

end AlsaDriver.Pcm.Indirect
