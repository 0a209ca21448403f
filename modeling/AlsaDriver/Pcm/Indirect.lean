import Mathlib
import AlsaDriver.Lib.Relay
import AlsaDriver.Lib.Runs
import AlsaDriver.Pcm.Runtime

namespace AlsaDriver.Pcm.Indirect

open Words Ring Relay

abbrev Byte := BitVec 8

/-- `unsigned int`. -/
abbrev uint (x : Int) : Nat := toUnsigned 32 x

/-- `int`. -/
abbrev sint (x : Int) : Int := toSigned 32 x

theorem sint_of_range {x : Int} (low : -2 ^ 31 ≤ x) (high : x < 2 ^ 31) : sint x = x := toSigned_of_range low high

theorem uint_of_range {x : Int} {n : Nat} (same : x = n) (high : n < 2 ^ 32) : uint x = n := by
  rw [same]
  exact toUnsigned_natCast high

structure SndPcmIndirect where
  hwBufferSize : Nat
  hwQueueSize : Nat
  hwData : Nat
  hwIo : Nat
  hwReady : Int
  swBufferSize : Nat
  swData : Nat
  swIo : Nat
  swReady : Int
  applPtr : Nat

def framesToBytes (frameBits : Nat) (size : Int) : Int := (slong (size * frameBits)).tdiv 8

def bytesToFrames (frameBits : Nat) (size : Int) : Int := (slong (size * 8)).tdiv frameBits

namespace SndPcmIndirect

variable (r : SndPcmIndirect)

def qsize : Int := sint ((if r.hwQueueSize = 0 then r.hwBufferSize else r.hwQueueSize : Nat) : Int)

/-- The frames by which `appl_ptr` has moved since it was last seen. -/
def applDiff (boundary applPtr : Nat) : Int :=
  let diff := slong (applPtr - r.applPtr)
  if diff < -slong (boundary / 2 : Nat) then slong (diff + boundary) else diff

/-- The `bytes` of one pass: what is ready and has room, up to the end of both rings. -/
def passBytes (room ready : Int) : Nat :=
  let hwToEnd := uint (r.hwBufferSize - r.hwData)
  let swToEnd := uint (r.swBufferSize - r.swData)
  let bytes := uint room
  let bytes := if ready < sint bytes then uint ready else bytes
  let bytes := if hwToEnd < bytes then hwToEnd else bytes
  if swToEnd < bytes then swToEnd else bytes

/-- The offsets behind a copy of `bytes`. -/
def advanced (bytes : Nat) : SndPcmIndirect :=
  let hwData := uint (r.hwData + bytes)
  let swData := uint (r.swData + bytes)
  { r with
    hwData := if hwData = r.hwBufferSize then 0 else hwData
    swData := if swData = r.swBufferSize then 0 else swData }

/-- The loop of `snd_pcm_indirect_playback_transfer`, with the copy of the drivers from the software ring `area` to the
    hardware ring `device`. A pass takes a byte at least. -/
def playbackLoop (area : Nat → Byte) : Nat → SndPcmIndirect → (Nat → Byte) → SndPcmIndirect × (Nat → Byte)
  | 0, r, device => (r, device)
  | fuel + 1, r, device =>
    if r.hwReady < r.qsize ∧ 0 < r.swReady then
      let bytes := r.passBytes (r.qsize - r.hwReady) r.swReady
      if bytes = 0 then (r, device)
      else
        playbackLoop area fuel
          { r.advanced bytes with hwReady := sint (r.hwReady + bytes), swReady := sint (r.swReady - bytes) }
          (copyIn device r.hwData (copyOut area r.swData bytes))
    else (r, device)

def playbackSeen (frameBits boundary applPtr : Nat) : SndPcmIndirect :=
  if slong (applPtr - r.applPtr) ≠ 0 then
    { r with
      swReady := sint (r.swReady + sint (framesToBytes frameBits (r.applDiff boundary applPtr)))
      applPtr := applPtr }
  else r

def playbackTransfer (frameBits boundary applPtr : Nat) (area device : Nat → Byte) : SndPcmIndirect × (Nat → Byte) :=
  let r := r.playbackSeen frameBits boundary applPtr
  playbackLoop area r.swReady.toNat r device

/-- The bytes that the hardware has gone on since the last call, for its byte pointer `ptr`. -/
def hwBytes (ptr : Nat) : Int :=
  let bytes := sint (ptr - r.hwIo)
  if bytes < 0 then sint (bytes + r.hwBufferSize) else bytes

def swMoved (bytes : Int) : Nat :=
  let swIo := uint (r.swIo + bytes)
  if r.swBufferSize ≤ swIo then uint (swIo - r.swBufferSize) else swIo

/-- `snd_pcm_indirect_playback_pointer` up to the call of `ack`. -/
def playbackPointer (ptr : Nat) : SndPcmIndirect :=
  { r with hwIo := ptr, hwReady := sint (r.hwReady - r.hwBytes ptr), swIo := r.swMoved (r.hwBytes ptr) }

/-- The loop of `snd_pcm_indirect_capture_transfer`, with the copy of the drivers from `device` to `area`. -/
def captureLoop (device : Nat → Byte) : Nat → SndPcmIndirect → (Nat → Byte) → SndPcmIndirect × (Nat → Byte)
  | 0, r, area => (r, area)
  | fuel + 1, r, area =>
    if 0 < r.hwReady ∧ r.swReady < sint r.swBufferSize then
      let bytes := r.passBytes (r.swBufferSize - r.swReady) r.hwReady
      if bytes = 0 then (r, area)
      else
        captureLoop device fuel
          { r.advanced bytes with hwReady := sint (r.hwReady - bytes), swReady := sint (r.swReady + bytes) }
          (copyIn area r.swData (copyOut device r.hwData bytes))
    else (r, area)

def captureSeen (frameBits boundary applPtr : Nat) : SndPcmIndirect :=
  if slong (applPtr - r.applPtr) ≠ 0 then
    { r with
      swReady := sint (r.swReady - framesToBytes frameBits (r.applDiff boundary applPtr))
      applPtr := applPtr }
  else r

def captureTransfer (frameBits boundary applPtr : Nat) (area device : Nat → Byte) : SndPcmIndirect × (Nat → Byte) :=
  let r := r.captureSeen frameBits boundary applPtr
  captureLoop device r.hwReady.toNat r area

def withSwIo (swIo : Nat) : SndPcmIndirect := { r with swIo := swIo }

def hwMoved (ptr : Nat) : SndPcmIndirect := { r with hwIo := ptr, hwReady := sint (r.hwReady + r.hwBytes ptr) }

/-- `snd_pcm_indirect_capture_pointer` up to the call of `ack`, or up to the return of `SNDRV_PCM_POS_XRUN`. -/
def capturePointer (ptr : Nat) : Bool × SndPcmIndirect :=
  if (r.hwMoved ptr).qsize < (r.hwMoved ptr).hwReady then (false, r.hwMoved ptr)
  else (true, (r.hwMoved ptr).withSwIo (r.swMoved (r.hwBytes ptr)))

variable {r}

@[simp] theorem withSwIo_qsize {swIo : Nat} : (r.withSwIo swIo).qsize = r.qsize := rfl

@[simp] theorem withSwIo_hwReady {swIo : Nat} : (r.withSwIo swIo).hwReady = r.hwReady := rfl

end SndPcmIndirect

/-- What does not change while a stream runs. `hwBase` is what the hardware's byte pointer counts from. -/
structure IndirectSetup where
  pcm : PcmConfig
  frameBits : Nat
  hwBase : Nat
  hwBufferSize : Nat
  hw_pos : 0 < hwBufferSize
  hw_lt : hwBufferSize < 2 ^ 31
  base_lt : hwBase + hwBufferSize ≤ 2 ^ 32
  bits_pos : 0 < frameBits
  bits_lt : pcm.bufferSize * frameBits < 2 ^ 34
  whole : 8 ∣ pcm.bufferSize * frameBits

namespace IndirectSetup

variable (c : IndirectSetup)

/-- `snd_pcm_lib_buffer_bytes`. -/
def swBufferSize : Nat := c.pcm.bufferSize * c.frameBits / 8

/-- The hardware's byte pointer after `n` bytes. -/
def bytePointer (n : Nat) : Nat := c.hwBase + n % c.hwBufferSize

/-- The record where `moved` bytes have been copied and the hardware was last seen behind `io` bytes. -/
def record (queue io moved : Nat) (hwReady swReady : Int) (frames : Nat) : SndPcmIndirect where
  hwBufferSize := c.hwBufferSize
  hwQueueSize := queue
  hwData := moved % c.hwBufferSize
  hwIo := c.bytePointer io
  hwReady := hwReady
  swBufferSize := c.swBufferSize
  swData := moved % c.swBufferSize
  swIo := io % c.swBufferSize
  swReady := swReady
  applPtr := frames % c.pcm.boundary

def prepared : SndPcmIndirect := c.record 0 0 0 0 0 0

def queueSize (queue : Nat) : Nat := if queue = 0 then c.hwBufferSize else queue

theorem swBufferSize_eq : 8 * c.swBufferSize = c.pcm.bufferSize * c.frameBits := Nat.mul_div_cancel' c.whole

theorem swBufferSize_pos : 0 < c.swBufferSize := by
  have positive : 0 < c.pcm.bufferSize * c.frameBits := Nat.mul_pos c.pcm.buffer_pos c.bits_pos
  have bytes := c.swBufferSize_eq
  omega

theorem swBufferSize_lt : c.swBufferSize < 2 ^ 31 := by
  have bytes := c.swBufferSize_eq
  have small := c.bits_lt
  omega

variable {c} {queue io moved frames : Nat} {hwReady swReady : Int}

@[simp] theorem record_hwReady : (c.record queue io moved hwReady swReady frames).hwReady = hwReady := rfl

@[simp] theorem record_swReady : (c.record queue io moved hwReady swReady frames).swReady = swReady := rfl

@[simp] theorem record_hwData : (c.record queue io moved hwReady swReady frames).hwData = moved % c.hwBufferSize := rfl

@[simp] theorem record_swData : (c.record queue io moved hwReady swReady frames).swData = moved % c.swBufferSize := rfl

@[simp] theorem record_swBufferSize : (c.record queue io moved hwReady swReady frames).swBufferSize = c.swBufferSize := rfl

theorem queueSize_le (fits : queue ≤ c.hwBufferSize) : c.queueSize queue ≤ c.hwBufferSize := by
  unfold queueSize
  split <;> omega

theorem qsize_record (fits : queue ≤ c.hwBufferSize) :
    (c.record queue io moved hwReady swReady frames).qsize = c.queueSize queue := by
  have small := c.hw_lt
  have bound := queueSize_le fits
  have same : (c.record queue io moved hwReady swReady frames).qsize = sint (c.queueSize queue) := rfl
  rw [same, sint_of_range (by omega) (by omega)]

/-- The bytes that one pass copies: in one piece on both sides. -/
structure Piece (c : IndirectSetup) (moved room ready n : Nat) : Prop where
  pos : 0 < n
  le_room : n ≤ room
  le_ready : n ≤ ready
  hw : moved % c.hwBufferSize + n ≤ c.hwBufferSize
  sw : moved % c.swBufferSize + n ≤ c.swBufferSize

def pieceSize (c : IndirectSetup) (moved room ready : Nat) : Nat :=
  min (min room ready) (min (c.hwBufferSize - moved % c.hwBufferSize) (c.swBufferSize - moved % c.swBufferSize))

theorem pieceSize_piece {room ready : Nat} (some_room : 0 < room) (some_ready : 0 < ready) :
    c.Piece moved room ready (c.pieceSize moved room ready) := by
  have hw := Nat.mod_lt moved c.hw_pos
  have sw := Nat.mod_lt moved c.swBufferSize_pos
  unfold pieceSize
  constructor <;> omega

theorem passBytes_record {room ready : Nat} (room_lt : room < 2 ^ 31) (ready_lt : ready < 2 ^ 31) :
    (c.record queue io moved hwReady swReady frames).passBytes room ready = c.pieceSize moved room ready := by
  have hw := Nat.mod_lt moved c.hw_pos
  have sw := Nat.mod_lt moved c.swBufferSize_pos
  have hw_lt := c.hw_lt
  have sw_lt := c.swBufferSize_lt
  have hwToEnd : uint (c.hwBufferSize - (moved % c.hwBufferSize : Nat)) = c.hwBufferSize - moved % c.hwBufferSize :=
    uint_of_range (by omega) (by omega)
  have swToEnd : uint (c.swBufferSize - (moved % c.swBufferSize : Nat)) = c.swBufferSize - moved % c.swBufferSize :=
    uint_of_range (by omega) (by omega)
  have bytes : uint room = room := uint_of_range rfl (by omega)
  have signed : sint (room : Int) = room := sint_of_range (by omega) (by omega)
  have small : uint ready = ready := uint_of_range rfl (by omega)
  simp only [SndPcmIndirect.passBytes, record, hwToEnd, swToEnd, bytes, signed, small, pieceSize]
  clear hwToEnd swToEnd bytes signed small hw_lt sw_lt room_lt ready_lt
  split <;> split <;> split <;> omega

theorem advanced_record {bytes : Nat} (hw : moved % c.hwBufferSize + bytes ≤ c.hwBufferSize)
    (sw : moved % c.swBufferSize + bytes ≤ c.swBufferSize) (hwReady' swReady' : Int) :
    { (c.record queue io moved hwReady swReady frames).advanced bytes with hwReady := hwReady', swReady := swReady' } =
      c.record queue io (moved + bytes) hwReady' swReady' frames := by
  have hw_lt := c.hw_lt
  have sw_lt := c.swBufferSize_lt
  have hwData : uint ((moved % c.hwBufferSize : Nat) + bytes) = moved % c.hwBufferSize + bytes :=
    uint_of_range (by omega) (by omega)
  have swData : uint ((moved % c.swBufferSize : Nat) + bytes) = moved % c.swBufferSize + bytes :=
    uint_of_range (by omega) (by omega)
  simp only [SndPcmIndirect.advanced, record, hwData, swData, mod_advance hw, mod_advance sw]

theorem hwBytes_record {n : Nat} (short : n < c.hwBufferSize) :
    (c.record queue io moved hwReady swReady frames).hwBytes (c.bytePointer (io + n)) = n := by
  have hw_lt := c.hw_lt
  have inside := Nat.mod_lt io c.hw_pos
  have inside' := Nat.mod_lt (io + n) c.hw_pos
  have distance := mod_distance io short
  have difference : ((c.bytePointer (io + n) : Int) - c.bytePointer io) =
      ((io + n) % c.hwBufferSize : Nat) - (io % c.hwBufferSize : Nat) := by
    unfold bytePointer
    omega
  have signed : sint (((io + n) % c.hwBufferSize : Nat) - (io % c.hwBufferSize : Nat)) =
      ((io + n) % c.hwBufferSize : Nat) - (io % c.hwBufferSize : Nat) :=
    sint_of_range (by omega) (by omega)
  simp only [SndPcmIndirect.hwBytes, record, difference, signed]
  rw [← distance]
  split
  · exact sint_of_range (by omega) (by omega)
  · rfl

theorem swMoved_record {n : Nat} (fits : n ≤ c.swBufferSize) :
    (c.record queue io moved hwReady swReady frames).swMoved n = (io + n) % c.swBufferSize := by
  have sw_lt := c.swBufferSize_lt
  have inside := Nat.mod_lt io c.swBufferSize_pos
  have sum : uint ((io % c.swBufferSize : Nat) + n) = io % c.swBufferSize + n := uint_of_range (by omega) (by omega)
  rw [← mod_wrap _ c.swBufferSize_pos fits]
  simp only [SndPcmIndirect.swMoved, record, sum]
  split
  · exact uint_of_range (by omega) (by omega)
  · rfl

theorem applDiff_record {n : Nat} (short : n ≤ c.pcm.bufferSize) :
    (c.record queue io moved hwReady swReady frames).applDiff c.pcm.boundary ((frames + n) % c.pcm.boundary) = n := by
  have large := c.pcm.boundary_large
  have room := c.pcm.boundary_room
  have small := c.pcm.buffer_lt
  have positive : 0 < c.pcm.boundary := by omega
  have inside := Nat.mod_lt frames positive
  have wrapped := mod_wrap frames positive (show n ≤ c.pcm.boundary by omega)
  have inside' := Nat.mod_lt (frames + n) positive
  have half : slong (c.pcm.boundary / 2 : Nat) = (c.pcm.boundary / 2 : Nat) := slong_of_range (by omega) (by omega)
  have diff : slong (((frames + n) % c.pcm.boundary : Nat) - (frames % c.pcm.boundary : Nat)) =
      ((frames + n) % c.pcm.boundary : Nat) - (frames % c.pcm.boundary : Nat) := slong_of_range (by omega) (by omega)
  simp only [SndPcmIndirect.applDiff, record, half, diff]
  rw [← wrapped]
  split
  · split
    · rw [slong_of_range (by omega) (by omega)]
      omega
    · omega
  · split <;> omega

theorem appl_still {n : Nat} (short : n ≤ c.pcm.bufferSize) :
    slong (((frames + n) % c.pcm.boundary : Nat) - (frames % c.pcm.boundary : Nat)) = 0 ↔ n = 0 := by
  have large := c.pcm.boundary_large
  have room := c.pcm.boundary_room
  have small := c.pcm.buffer_lt
  have positive : 0 < c.pcm.boundary := by omega
  have inside := Nat.mod_lt frames positive
  have wrapped := mod_wrap frames positive (show n ≤ c.pcm.boundary by omega)
  rw [← wrapped, slong_of_range (by split <;> omega) (by split <;> omega)]
  split <;> omega

theorem framesToBytes_of {n bytes : Nat} (short : n ≤ c.pcm.bufferSize) (whole : 8 * bytes = n * c.frameBits) :
    framesToBytes c.frameBits n = bytes := by
  have small := c.bits_lt
  have less : n * c.frameBits ≤ c.pcm.bufferSize * c.frameBits := Nat.mul_le_mul_right _ short
  have product : (n : Int) * c.frameBits = (8 * bytes : Nat) := by
    rw [whole]
    push_cast
    rfl
  rw [framesToBytes, product, slong_of_range (by omega) (by omega)]
  push_cast
  exact Int.mul_tdiv_cancel_left _ (by omega)

end IndirectSetup

open IndirectSetup

/-- The record of a playback stream that has `seen` bytes from the application. -/
def IndirectSetup.playing (c : IndirectSetup) (queue io moved seen frames : Nat) : SndPcmIndirect :=
  c.record queue io moved (moved - io) (seen - moved) frames

/-- The record of a capture stream whose application has read `seen` bytes. -/
def IndirectSetup.recording (c : IndirectSetup) (queue io moved seen frames : Nat) : SndPcmIndirect :=
  c.record queue io moved (io - moved) (moved - seen) frames

/-- The application pointer behind `frames` more frames. -/
def IndirectSetup.applMoved (c : IndirectSetup) (applPtr frames : Nat) : Nat :=
  if c.pcm.boundary ≤ applPtr + frames then applPtr + frames - c.pcm.boundary else applPtr + frames

def IndirectSetup.applOffset (c : IndirectSetup) (applPtr : Nat) : Nat :=
  (framesToBytes c.frameBits (applPtr % c.pcm.bufferSize : Nat)).toNat

section loops

variable {c : IndirectSetup} {area device : Nat → Byte} {xs : List Byte} {queue io moved seen frames fuel : Nat}

theorem playbackLoop_pass (fits : queue ≤ c.hwBufferSize) (order : io ≤ moved) (less : moved < io + c.queueSize queue)
    (more : moved < seen) (within : seen ≤ io + c.swBufferSize) :
    ∃ n, c.Piece moved (c.queueSize queue + io - moved) (seen - moved) n ∧
      SndPcmIndirect.playbackLoop area (fuel + 1) (c.playing queue io moved seen frames) device =
        SndPcmIndirect.playbackLoop area fuel (c.playing queue io (moved + n) seen frames)
          (copyIn device (moved % c.hwBufferSize) (copyOut area (moved % c.swBufferSize) n)) := by
  have qsize : (c.playing queue io moved seen frames).qsize = c.queueSize queue := qsize_record fits
  have go : (c.playing queue io moved seen frames).hwReady < (c.playing queue io moved seen frames).qsize ∧
      0 < (c.playing queue io moved seen frames).swReady := by
    rw [qsize]
    simp only [playing, record_hwReady, record_swReady]
    omega
  have hw_lt := c.hw_lt
  have sw_lt := c.swBufferSize_lt
  have queue_le := queueSize_le fits
  have room : (c.queueSize queue : Int) - (moved - io) = (c.queueSize queue + io - moved : Nat) := by omega
  have ready : (seen : Int) - moved = (seen - moved : Nat) := by omega
  have bytes : (c.playing queue io moved seen frames).passBytes (c.queueSize queue - (moved - io)) (seen - moved) =
      c.pieceSize moved (c.queueSize queue + io - moved) (seen - moved) := by
    rw [room, ready]
    exact passBytes_record (by omega) (by omega)
  have piece : c.Piece moved (c.queueSize queue + io - moved) (seen - moved) (c.pieceSize moved (c.queueSize queue + io - moved) (seen - moved)) := pieceSize_piece (by omega) (by omega)
  generalize c.pieceSize moved (c.queueSize queue + io - moved) (seen - moved) = n at *
  refine ⟨n, piece, ?_⟩
  obtain ⟨some_, le_room, le_ready, straight, straight'⟩ := piece
  have moves : n ≠ 0 := Nat.ne_of_gt some_
  have hwReady : sint ((moved : Int) - io + n) = (moved + n : Nat) - io := by
    rw [sint_of_range (by omega) (by omega)]
    omega
  have swReady : sint ((seen : Int) - moved - n) = seen - (moved + n : Nat) := by
    rw [sint_of_range (by omega) (by omega)]
    omega
  rw [SndPcmIndirect.playbackLoop, if_pos go, qsize]
  simp only [playing, record_hwReady, record_swReady, record_hwData, record_swData] at bytes ⊢
  simp only [bytes, moves, if_false, hwReady, swReady, advanced_record straight straight']

theorem playbackLoop_stop (fits : queue ≤ c.hwBufferSize) (stop : moved = seen ∨ io + c.queueSize queue ≤ moved)
    (fuel : Nat) : SndPcmIndirect.playbackLoop area fuel (c.playing queue io moved seen frames) device =
      (c.playing queue io moved seen frames, device) := by
  cases fuel with
  | zero => rfl
  | succ fuel =>
    have qsize : (c.playing queue io moved seen frames).qsize = c.queueSize queue := qsize_record fits
    rw [SndPcmIndirect.playbackLoop, if_neg]
    rw [qsize]
    simp only [playing, record_hwReady, record_swReady]
    omega

theorem playbackLoop_spec (frames fuel : Nat) (fits : queue ≤ c.hwBufferSize) (order : io ≤ moved) (more : moved ≤ seen)
    (room : moved ≤ io + c.hwBufferSize) (within : seen ≤ io + c.swBufferSize) (enough : seen ≤ moved + fuel)
    (source : Holds c.swBufferSize area xs moved seen) (target : Holds c.hwBufferSize device xs io moved) :
    ∃ moved' device',
      SndPcmIndirect.playbackLoop area fuel (c.playing queue io moved seen frames) device =
        (c.playing queue io moved' seen frames, device') ∧
      moved ≤ moved' ∧ moved' ≤ seen ∧ moved' ≤ io + c.hwBufferSize ∧ Holds c.hwBufferSize device' xs io moved' ∧
      (moved' = seen ∨ io + c.queueSize queue ≤ moved') := by
  induction fuel generalizing moved device with
  | zero => exact ⟨moved, device, rfl, Nat.le_refl _, more, room, target, .inl (by omega)⟩
  | succ fuel ih =>
    by_cases stop : moved = seen ∨ io + c.queueSize queue ≤ moved
    · exact ⟨moved, device, playbackLoop_stop fits stop _, Nat.le_refl _, more, room, target, stop⟩
    · have queue_le := queueSize_le fits
      obtain ⟨n, piece, pass⟩ := playbackLoop_pass fits order (by omega) (by omega) within
      obtain ⟨some_, le_room, le_ready, straight, straight'⟩ := piece
      have copied := target.copy source (Nat.le_refl _) (by omega) straight straight' (by omega)
      have rest := source.mono (Nat.le_add_right moved n) (Nat.le_refl _)
      obtain ⟨moved', device', result, above, later⟩ :=
        ih (by omega) (by omega) (by omega) (by omega) rest copied
      rw [pass]
      exact ⟨moved', device', result, by omega, later⟩

theorem captureLoop_pass (order : seen ≤ moved) (less : moved < io) (more : moved < seen + c.swBufferSize)
    (within : io ≤ moved + c.hwBufferSize) :
    ∃ n, c.Piece moved (c.swBufferSize + seen - moved) (io - moved) n ∧
      SndPcmIndirect.captureLoop device (fuel + 1) (c.recording queue io moved seen frames) area =
        SndPcmIndirect.captureLoop device fuel (c.recording queue io (moved + n) seen frames)
          (copyIn area (moved % c.swBufferSize) (copyOut device (moved % c.hwBufferSize) n)) := by
  have hw_lt := c.hw_lt
  have sw_lt := c.swBufferSize_lt
  have size : sint (c.recording queue io moved seen frames).swBufferSize = c.swBufferSize :=
    sint_of_range (x := c.swBufferSize) (by omega) (by omega)
  have go : 0 < (c.recording queue io moved seen frames).hwReady ∧
      (c.recording queue io moved seen frames).swReady < sint (c.recording queue io moved seen frames).swBufferSize := by
    rw [size]
    simp only [recording, record_hwReady, record_swReady]
    clear size
    omega
  have room : (c.swBufferSize : Int) - (moved - seen) = (c.swBufferSize + seen - moved : Nat) := by omega
  have ready : (io : Int) - moved = (io - moved : Nat) := by omega
  have bytes : (c.recording queue io moved seen frames).passBytes (c.swBufferSize - (moved - seen)) (io - moved) =
      c.pieceSize moved (c.swBufferSize + seen - moved) (io - moved) := by
    rw [room, ready]
    exact passBytes_record (by omega) (by omega)
  have piece : c.Piece moved (c.swBufferSize + seen - moved) (io - moved) (c.pieceSize moved (c.swBufferSize + seen - moved) (io - moved)) := pieceSize_piece (by omega) (by omega)
  generalize c.pieceSize moved (c.swBufferSize + seen - moved) (io - moved) = n at *
  refine ⟨n, piece, ?_⟩
  obtain ⟨some_, le_room, le_ready, straight, straight'⟩ := piece
  have moves : n ≠ 0 := Nat.ne_of_gt some_
  have hwReady : sint ((io : Int) - moved - n) = io - (moved + n : Nat) := by
    rw [sint_of_range (by omega) (by omega)]
    omega
  have swReady : sint ((moved : Int) - seen + n) = (moved + n : Nat) - seen := by
    rw [sint_of_range (by omega) (by omega)]
    omega
  rw [SndPcmIndirect.captureLoop, if_pos go]
  simp only [recording, record_hwReady, record_swReady, record_hwData, record_swData, record_swBufferSize] at bytes ⊢
  simp only [bytes, moves, if_false, hwReady, swReady, advanced_record straight straight']

theorem captureLoop_stop (stop : moved = io ∨ seen + c.swBufferSize ≤ moved) (fuel : Nat) :
    SndPcmIndirect.captureLoop device fuel (c.recording queue io moved seen frames) area =
      (c.recording queue io moved seen frames, area) := by
  cases fuel with
  | zero => rfl
  | succ fuel =>
    have sw_lt := c.swBufferSize_lt
    have size : sint (c.recording queue io moved seen frames).swBufferSize = c.swBufferSize :=
      sint_of_range (x := c.swBufferSize) (by omega) (by omega)
    rw [SndPcmIndirect.captureLoop, if_neg]
    rw [size]
    simp only [recording, record_hwReady, record_swReady]
    clear size
    omega

theorem captureLoop_spec (queue frames fuel : Nat) (order : seen ≤ moved) (more : moved ≤ io) (room : moved ≤ seen + c.swBufferSize)
    (within : io ≤ moved + c.hwBufferSize) (enough : io ≤ moved + fuel) (source : Holds c.hwBufferSize device xs moved io)
    (target : Holds c.swBufferSize area xs seen moved) :
    ∃ moved' area',
      SndPcmIndirect.captureLoop device fuel (c.recording queue io moved seen frames) area =
        (c.recording queue io moved' seen frames, area') ∧
      moved ≤ moved' ∧ moved' ≤ io ∧ moved' ≤ seen + c.swBufferSize ∧ Holds c.swBufferSize area' xs seen moved' ∧
      (moved' = io ∨ seen + c.swBufferSize ≤ moved') := by
  induction fuel generalizing moved area with
  | zero => exact ⟨moved, area, rfl, Nat.le_refl _, more, room, target, .inl (by omega)⟩
  | succ fuel ih =>
    by_cases stop : moved = io ∨ seen + c.swBufferSize ≤ moved
    · exact ⟨moved, area, captureLoop_stop stop _, Nat.le_refl _, more, room, target, stop⟩
    · obtain ⟨n, piece, pass⟩ := captureLoop_pass order (by omega) (by omega) within
      obtain ⟨some_, le_room, le_ready, straight, straight'⟩ := piece
      have copied := target.copy source (Nat.le_refl _) (by omega) straight' straight (by omega)
      have rest := source.mono (Nat.le_add_right moved n) (Nat.le_refl _)
      obtain ⟨moved', area', result, above, later⟩ :=
        ih (by omega) (by omega) (by omega) (by omega) (by omega) rest copied
      rw [pass]
      exact ⟨moved', area', result, by omega, later⟩

end loops

section transfers

variable {c : IndirectSetup} {area device : Nat → Byte} {xs : List Byte} {queue io moved seen frames n bytes : Nat}

theorem playbackSeen_playing (queue io frames : Nat) (short : n ≤ c.pcm.bufferSize) (whole : 8 * bytes = n * c.frameBits) (order : moved ≤ seen)
    (within : seen + bytes ≤ moved + c.swBufferSize) :
    (c.playing queue io moved seen frames).playbackSeen c.frameBits c.pcm.boundary ((frames + n) % c.pcm.boundary) =
      c.playing queue io moved (seen + bytes) (frames + n) := by
  have sw_lt := c.swBufferSize_lt
  have diff : (c.playing queue io moved seen frames).applDiff c.pcm.boundary ((frames + n) % c.pcm.boundary) = n :=
    applDiff_record short
  have still : slong (((frames + n) % c.pcm.boundary : Nat) - (c.playing queue io moved seen frames).applPtr) = 0 ↔ n = 0 :=
    appl_still short
  unfold SndPcmIndirect.playbackSeen
  rw [diff, framesToBytes_of short whole]
  by_cases none_ : n = 0
  · subst none_
    have zero : bytes = 0 := by omega
    rw [if_neg (not_not_intro (still.mpr rfl)), zero]
    rfl
  · rw [if_pos fun same => none_ (still.mp same)]
    have small : sint (bytes : Int) = bytes := sint_of_range (by omega) (by omega)
    have sum : sint ((seen : Int) - moved + bytes) = (seen + bytes : Nat) - moved := by
      rw [sint_of_range (by omega) (by omega)]
      omega
    simp only [playing, record, small, sum]

theorem captureSeen_recording (queue io frames : Nat) (short : n ≤ c.pcm.bufferSize) (whole : 8 * bytes = n * c.frameBits)
    (order : seen + bytes ≤ moved) (within : moved ≤ seen + c.swBufferSize) :
    (c.recording queue io moved seen frames).captureSeen c.frameBits c.pcm.boundary ((frames + n) % c.pcm.boundary) =
      c.recording queue io moved (seen + bytes) (frames + n) := by
  have sw_lt := c.swBufferSize_lt
  have diff : (c.recording queue io moved seen frames).applDiff c.pcm.boundary ((frames + n) % c.pcm.boundary) = n :=
    applDiff_record short
  have still : slong (((frames + n) % c.pcm.boundary : Nat) - (c.recording queue io moved seen frames).applPtr) = 0 ↔ n = 0 :=
    appl_still short
  unfold SndPcmIndirect.captureSeen
  rw [diff, framesToBytes_of short whole]
  by_cases none_ : n = 0
  · subst none_
    have zero : bytes = 0 := by omega
    rw [if_neg (not_not_intro (still.mpr rfl)), zero]
    rfl
  · rw [if_pos fun same => none_ (still.mp same)]
    have sum : sint ((moved : Int) - seen - bytes) = moved - (seen + bytes : Nat) := by
      rw [sint_of_range (by omega) (by omega)]
      omega
    simp only [recording, record, sum]

theorem playbackPointer_playing (near : n < c.hwBufferSize) (fits : n ≤ c.swBufferSize) (order : io + n ≤ moved)
    (room : moved ≤ io + c.hwBufferSize) :
    (c.playing queue io moved seen frames).playbackPointer (c.bytePointer (io + n)) =
      c.playing queue (io + n) moved seen frames := by
  have hw_lt := c.hw_lt
  have gone : (c.playing queue io moved seen frames).hwBytes (c.bytePointer (io + n)) = n := hwBytes_record near
  have position : (c.playing queue io moved seen frames).swMoved n = (io + n) % c.swBufferSize := swMoved_record fits
  have left : sint ((moved : Int) - io - n) = moved - (io + n : Nat) := by
    rw [sint_of_range (by omega) (by omega)]
    omega
  unfold SndPcmIndirect.playbackPointer
  rw [gone, position]
  simp only [playing, record, left]

theorem capturePointer_recording (queue_le : queue ≤ c.hwBufferSize) (near : n < c.hwBufferSize) (fits : n ≤ c.swBufferSize)
    (order : moved ≤ io) (room : io + n ≤ moved + c.hwBufferSize) :
    (c.recording queue io moved seen frames).capturePointer (c.bytePointer (io + n)) =
      if c.queueSize queue < io + n - moved then
        (false, (c.recording queue (io + n) moved seen frames).withSwIo (io % c.swBufferSize))
      else (true, c.recording queue (io + n) moved seen frames) := by
  have hw_lt := c.hw_lt
  have gone : (c.recording queue io moved seen frames).hwBytes (c.bytePointer (io + n)) = n := hwBytes_record near
  have ready : sint ((io : Int) - moved + n) = (io + n : Nat) - moved := by
    rw [sint_of_range (by omega) (by omega)]
    omega
  have qsize : (c.recording queue (io + n) moved seen frames).qsize = c.queueSize queue := qsize_record queue_le
  have position : (c.recording queue io moved seen frames).swMoved n = (io + n) % c.swBufferSize := swMoved_record fits
  have on : (c.recording queue io moved seen frames).hwMoved (c.bytePointer (io + n)) =
      (c.recording queue (io + n) moved seen frames).withSwIo (io % c.swBufferSize) := by
    simp only [SndPcmIndirect.hwMoved, gone]
    simp only [recording, record, SndPcmIndirect.withSwIo, ready]
  have more : (c.recording queue (io + n) moved seen frames).hwReady = (io + n : Nat) - moved := rfl
  have full : (c.queueSize queue : Int) < (io + n : Nat) - moved ↔ c.queueSize queue < io + n - moved := by
    clear gone ready qsize position on more
    omega
  rw [SndPcmIndirect.capturePointer, gone, position, on]
  simp only [SndPcmIndirect.withSwIo_qsize, SndPcmIndirect.withSwIo_hwReady, qsize, more, full]
  rfl

theorem short_of_bytes (whole : 8 * bytes = n * c.frameBits) (fits : bytes ≤ c.swBufferSize) :
    n ≤ c.pcm.bufferSize := by
  have size := c.swBufferSize_eq
  exact Nat.le_of_mul_le_mul_right (by omega) c.bits_pos

theorem whole_between (before : 8 * seen = frames * c.frameBits) (all : 8 * (seen + bytes) = (frames + n) * c.frameBits) :
    8 * bytes = n * c.frameBits := by
  rw [Nat.mul_add, Nat.add_mul] at all
  omega

theorem applMoved_mod (short : n ≤ c.pcm.bufferSize) :
    c.applMoved (frames % c.pcm.boundary) n = (frames + n) % c.pcm.boundary := by
  have large := c.pcm.boundary_large
  have small := c.pcm.buffer_lt
  exact mod_wrap _ (by omega) (by omega)

theorem applOffset_mod (whole : 8 * bytes = frames * c.frameBits) :
    c.applOffset (frames % c.pcm.boundary) % c.swBufferSize = bytes % c.swBufferSize := by
  have size := c.swBufferSize_eq
  have split := Nat.div_add_mod frames c.pcm.bufferSize
  have inside := Nat.mod_lt frames c.pcm.buffer_pos
  unfold applOffset
  rw [Nat.mod_mod_of_dvd _ c.pcm.boundary_dvd]
  generalize frames / c.pcm.bufferSize = q at split
  generalize frames % c.pcm.bufferSize = r at split inside ⊢
  have product : 8 * bytes = 8 * (c.swBufferSize * q) + r * c.frameBits := by
    rw [whole, ← split, ← Nat.mul_assoc, size]
    ring
  have rest : 8 * (bytes - c.swBufferSize * q) = r * c.frameBits := by omega
  have sum : bytes = bytes - c.swBufferSize * q + c.swBufferSize * q := by omega
  rw [framesToBytes_of inside.le rest, Int.toNat_natCast]
  conv_rhs => rw [sum, Nat.add_mul_mod_self_left]

end transfers

def smallRings : IndirectSetup where
  pcm :=
    { stream := .playback, rate := 16000, periodSize := 3, bufferSize := 3, minAlign := 1, noPeriodWakeup := false
      infoPause := false, startThreshold := 1, stopThreshold := 3, rate_pos := by decide, period_pos := by decide
      buffer_pos := by decide, align_pos := by decide, rate_lt := by decide, period_lt := by decide, buffer_lt := by decide }
  frameBits := 16
  hwBase := 256
  hwBufferSize := 5
  hw_pos := by decide
  hw_lt := by decide
  base_lt := by decide
  bits_pos := by decide
  bits_lt := by decide
  whole := by decide

end AlsaDriver.Pcm.Indirect
