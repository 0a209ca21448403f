import AlsaDriver.Compress.ParamsRuns

namespace AlsaDriver.Compress

open AlsaDriver.Pcm Ring Runs Words

structure ComprRing where
  stream : SndComprStream
  history : List Byte
  consumed : Nat

inductive RingOp where
  | write (data : List Byte)
  | avail
  | tstamp
  | start (trigger : Int)
  | consume (n : Nat)

namespace ComprRing

variable (r : ComprRing)

/-- The `copied_total` of the pointer callback. -/
def copiedTotal : Option (BitVec 32) := some (BitVec.ofNat 32 r.consumed)

def write (data : List Byte) : Int × ComprRing :=
  let (retval, stream) := r.stream.sndComprWrite data r.copiedTotal none 0
  (retval, { r with stream := stream, history := r.history ++ data.take retval.toNat })

def exec (r : ComprRing) : RingOp → ComprRing
  | .write data => (r.write data).2
  | .avail => { r with stream := (r.stream.sndComprCalcAvail r.copiedTotal).2 }
  | .tstamp => { r with stream := (r.stream.sndComprUpdateTstamp r.copiedTotal).2 }
  | .start trigger => { r with stream := (r.stream.sndComprStart trigger).2 }
  | .consume n => { r with consumed := min (r.consumed + n) r.history.length }

def pending : Nat := r.history.length - r.consumed

def free : Nat := r.stream.runtime.bufferSize - r.pending

def MayWrite : Prop := r.stream.runtime.state = .setup ∨ r.stream.runtime.state = .running

instance : Decidable r.MayWrite := inferInstanceAs (Decidable (_ ∨ _))

def Held : Prop :=
  ∃ buffer, r.stream.runtime.buffer = some buffer ∧ r.pending ≤ r.stream.runtime.bufferSize ∧
    window r.stream.runtime.bufferSize buffer.bytes (r.consumed % r.stream.runtime.bufferSize) r.pending =
      r.history.drop r.consumed

def AvailExact : Prop := (r.stream.sndComprCalcAvail r.copiedTotal).1 = r.free

def StepExact (r : ComprRing) (op : RingOp) (r' : ComprRing) : Prop :=
  r'.Held ∧
    match op with
    | .avail => r.AvailExact
    | .write data => r.MayWrite → r.AvailExact ∧ (r.write data).1 = (min data.length r.free : Nat) ∧
        r'.history = r.history ++ data.take (min data.length r.free)
    | _ => True

def Below (r : ComprRing) : RingOp → Prop
  | .avail => r.consumed < 2 ^ 32
  | .write data => r.MayWrite → r.consumed < 2 ^ 32 ∧ min data.length r.free < 2 ^ 31
  | _ => True

variable {r}

structure Inv (r : ComprRing) : Prop where
  direction : r.stream.direction = .playback
  noCopy : r.stream.hasCopy = false
  positive : 0 < r.stream.runtime.bufferSize
  small : r.stream.runtime.bufferSize < 2 ^ 32
  available : r.stream.runtime.totalBytesAvailable = r.history.length
  behind : r.consumed ≤ r.history.length
  held : r.Held
  short : r.history.length < 2 ^ 33

theorem Inv.avail (inv : r.Inv) : r.AvailExact ↔ r.consumed < 2 ^ 32 := by
  have small := inv.small
  have short := inv.short
  have behind := inv.behind
  obtain ⟨-, -, room, -⟩ := inv.held
  have stamped : (r.stream.sndComprCalcAvail r.copiedTotal).1 = SndComprStream.availOf
      { r.stream.runtime with totalBytesTransferred := r.consumed % 2 ^ 32 } .playback := by
    show SndComprStream.availOf (r.stream.sndComprUpdateTstamp r.copiedTotal).2.runtime
      (r.stream.sndComprUpdateTstamp r.copiedTotal).2.direction = _
    rw [copiedTotal, SndComprStream.sndComprUpdateTstamp, if_pos inv.direction]
    dsimp only
    rw [inv.direction, BitVec.toNat_ofNat]
  have pending : r.pending = r.history.length - r.consumed := rfl
  rw [AvailExact, stamped, free, SndComprStream.availOf]
  dsimp only
  rw [inv.available, pending, if_pos rfl, if_pos rfl]
  by_cases below : r.consumed < 2 ^ 32
  · rw [Nat.mod_eq_of_lt below]
    refine iff_of_true ?_ below
    split
    · omega
    · split
      · omega
      · have exact : toUnsigned 64 ((r.history.length : Int) - r.consumed) = r.history.length - r.consumed := by
          rw [← Int.ofNat_sub behind]
          exact toUnsigned_natCast (by omega)
        rw [exact, ← Int.ofNat_sub (by omega)]
        exact toUnsigned_natCast (by omega)
  · have wrapped : r.consumed % 2 ^ 32 = r.consumed - 2 ^ 32 := by omega
    rw [wrapped]
    refine iff_of_false ?_ below
    have more : ((r.history.length : Int) - (r.consumed - 2 ^ 32 : Nat)) = (r.history.length - (r.consumed - 2 ^ 32) : Nat) := by
      omega
    have exact : toUnsigned 64 ((r.history.length - (r.consumed - 2 ^ 32) : Nat) : Int) =
        r.history.length - (r.consumed - 2 ^ 32) := toUnsigned_natCast (by omega)
    have value := toUnsigned_of_neg (w := 64)
      (x := (r.stream.runtime.bufferSize : Int) - (r.history.length - (r.consumed - 2 ^ 32) : Nat)) (by omega) (by omega)
    rw [more, exact, if_neg (by omega), if_neg (by omega)]
    omega

theorem writeCopies_push {s : SndComprStream} {bytes : Nat → Byte} {start len : Nat} {data : List Byte}
    (positive : 0 < s.runtime.bufferSize)
    (place : s.runtime.totalBytesAvailable % s.runtime.bufferSize = (start + len) % s.runtime.bufferSize)
    (fits : len + data.length ≤ s.runtime.bufferSize) :
    window s.runtime.bufferSize
        ((s.writeCopies data).foldl (fun bytes (copy : Nat × List Byte) => copyIn bytes copy.1 copy.2) bytes) start
        (len + data.length) = window s.runtime.bufferSize bytes start len ++ data := by
  have inside := Nat.mod_lt s.runtime.totalBytesAvailable positive
  rw [SndComprStream.writeCopies]
  generalize position : s.runtime.totalBytesAvailable % s.runtime.bufferSize = pos at place inside ⊢
  split
  · exact window_push place (show pos + data.length ≤ s.runtime.bufferSize by omega) fits
  · rename_i long
    exact window_push_around place inside (by omega) fits

/-- The stream after a time stamp that finds `consumed` below 2^32. -/
def stamped (r : ComprRing) : SndComprStream :=
  { r.stream with runtime := { r.stream.runtime with totalBytesTransferred := r.consumed } }

theorem Inv.updateTstamp (inv : r.Inv) (below : r.consumed < 2 ^ 32) :
    (r.stream.sndComprUpdateTstamp r.copiedTotal).2 = r.stamped := by
  rw [copiedTotal, SndComprStream.sndComprUpdateTstamp, if_pos inv.direction]
  dsimp only
  rw [BitVec.toNat_ofNat, Nat.mod_eq_of_lt below]
  rfl

theorem not_capture (playback : r.stream.direction = .playback) : r.stream.direction ≠ .capture := by
  rw [playback]
  decide

theorem MayWrite.open_states (may : r.MayWrite) :
    ¬ (r.stream.runtime.state ≠ .setup ∧ r.stream.runtime.state ≠ .running) := by
  rintro ⟨setup, running⟩
  exact may.elim setup running

theorem Inv.write_eq (inv : r.Inv) (may : r.MayWrite) (below : r.consumed < 2 ^ 32) (data : List Byte) :
    r.write data = (toSigned 32 (data.take r.free).length,
      ⟨(r.stamped.copyAll (r.stamped.writeCopies (data.take r.free))).written (toSigned 32 (data.take r.free).length),
        r.history ++ data.take (toSigned 32 (data.take r.free).length).toNat, r.consumed⟩) := by
  have nonzero : r.stamped.runtime.bufferSize ≠ 0 := Nat.pos_iff_ne_zero.mp inv.positive
  have stamp : r.stream.sndComprCalcAvail r.copiedTotal = (r.free, r.stamped) :=
    Prod.ext (inv.avail.mpr below) (inv.updateTstamp below)
  have copies : r.stamped.sndComprWriteData (data.take r.free) none =
      (toSigned 32 (data.take r.free).length, r.stamped.copyAll (r.stamped.writeCopies (data.take r.free))) := by
    rw [SndComprStream.sndComprWriteData, if_neg nonzero]
  rw [write, SndComprStream.sndComprWrite, if_neg (not_capture inv.direction), if_neg may.open_states, stamp]
  dsimp only
  rw [if_neg (by rw [stamped, inv.noCopy]; decide), copies]

theorem Inv.copied (inv : r.Inv) (data : List Byte) (fits : r.pending + data.length ≤ r.stream.runtime.bufferSize) :
    ∃ buffer oops, r.stamped.copyAll (r.stamped.writeCopies data) =
        { r.stamped with runtime := { r.stamped.runtime with buffer := some buffer }, oops := oops } ∧
      window r.stream.runtime.bufferSize buffer.bytes (r.consumed % r.stream.runtime.bufferSize)
        (r.pending + data.length) = r.history.drop r.consumed ++ data := by
  obtain ⟨buffer, there, room, content⟩ := inv.held
  have place : r.stamped.runtime.totalBytesAvailable % r.stamped.runtime.bufferSize =
      (r.consumed % r.stamped.runtime.bufferSize + r.pending) % r.stamped.runtime.bufferSize := by
    show r.stream.runtime.totalBytesAvailable % _ = _
    rw [Nat.mod_add_mod, inv.available, pending, Nat.add_sub_cancel' inv.behind]
  have pushed := @writeCopies_push r.stamped buffer.bytes _ _ _ inv.positive place fits
  have there' : r.stamped.runtime.buffer = some buffer := there
  refine ⟨{ buffer with bytes := _ }, _, by rw [SndComprStream.copyAll, there'], pushed.trans ?_⟩
  exact congrArg (· ++ data) content

theorem written_eq {s : SndComprStream} {n : Nat} (bound : s.runtime.totalBytesAvailable + n < 2 ^ 64) :
    ∃ state, s.written n = { s with runtime := { s.runtime with
      state := state
      totalBytesAvailable := s.runtime.totalBytesAvailable + n } } := by
  have count : toUnsigned 64 ((s.runtime.totalBytesAvailable : Int) + n) = s.runtime.totalBytesAvailable + n :=
    toUnsigned_natCast (by omega)
  have counted : (if 0 < (n : Int) then
      { s with runtime := { s.runtime with
          totalBytesAvailable := toUnsigned 64 ((s.runtime.totalBytesAvailable : Int) + n) } } else s) =
      { s with runtime := { s.runtime with totalBytesAvailable := s.runtime.totalBytesAvailable + n } } := by
    split
    · rw [count]
    · have zero : n = 0 := by omega
      rw [zero, Nat.add_zero]
  rw [SndComprStream.written, counted]
  split
  · exact ⟨.prepared, rfl⟩
  · exact ⟨s.runtime.state, rfl⟩

theorem Inv.write (inv : r.Inv) (may : r.MayWrite) (below : r.consumed < 2 ^ 32) {data : List Byte}
    (fits : min data.length r.free < 2 ^ 31) :
    (r.write data).1 = (min data.length r.free : Nat) ∧
      (r.write data).2.history = r.history ++ data.take (min data.length r.free) ∧ (r.write data).2.Inv := by
  have small := inv.small
  have behind := inv.behind
  obtain ⟨-, -, room, -⟩ := inv.held
  have length : (data.take r.free).length = min data.length r.free := by rw [List.length_take, Nat.min_comm]
  have retval : toSigned 32 (data.take r.free).length = (min data.length r.free : Nat) := by
    rw [length]
    exact toSigned_of_range (w := 31) (by omega) (by omega)
  have free : r.free = r.stream.runtime.bufferSize - r.pending := rfl
  have pending : r.pending = r.history.length - r.consumed := rfl
  obtain ⟨buffer, oops, after, content⟩ := inv.copied (data.take r.free) (by omega)
  have taken : data.take (min data.length r.free) = data.take r.free := by
    rw [List.take_eq_take_iff]
    omega
  rw [inv.write_eq may below, retval, after, Int.toNat_natCast]
  refine ⟨rfl, rfl, ?_⟩
  obtain ⟨state, counted⟩ := written_eq (n := min data.length r.free) (s := { r.stamped with
    runtime := { r.stamped.runtime with buffer := some buffer }, oops := oops })
    (show r.stream.runtime.totalBytesAvailable + min data.length r.free < 2 ^ 64 by
      rw [inv.available]
      omega)
  rw [counted, taken]
  have total : (r.history ++ data.take r.free).length = r.history.length + min data.length r.free := by
    rw [List.length_append, length]
  refine ⟨inv.direction, inv.noCopy, inv.positive, small, ?_, ?_, ⟨buffer, rfl, ?_, ?_⟩, ?_⟩
  · show r.stream.runtime.totalBytesAvailable + _ = _
    rw [inv.available, total]
  · show r.consumed ≤ (r.history ++ data.take r.free).length
    omega
  · show (r.history ++ data.take r.free).length - r.consumed ≤ r.stream.runtime.bufferSize
    omega
  · show window r.stream.runtime.bufferSize buffer.bytes (r.consumed % r.stream.runtime.bufferSize)
      ((r.history ++ data.take r.free).length - r.consumed) = (r.history ++ data.take r.free).drop r.consumed
    have more : (r.history ++ data.take r.free).length - r.consumed = r.pending + (data.take r.free).length := by omega
    rw [more, content, List.drop_append_of_le_length behind]
  · show (r.history ++ data.take r.free).length < 2 ^ 33
    omega

theorem Inv.consume (inv : r.Inv) (n : Nat) : (r.exec (.consume n)).Inv := by
  have behind := inv.behind
  obtain ⟨buffer, there, room, content⟩ := inv.held
  have pending : r.pending = r.history.length - r.consumed := rfl
  refine ⟨inv.direction, inv.noCopy, inv.positive, inv.small, inv.available, Nat.min_le_right .., ⟨buffer, there, ?_, ?_⟩,
    inv.short⟩
  · show r.history.length - min (r.consumed + n) r.history.length ≤ r.stream.runtime.bufferSize
    omega
  · show window r.stream.runtime.bufferSize buffer.bytes (min (r.consumed + n) r.history.length %
      r.stream.runtime.bufferSize) (r.history.length - min (r.consumed + n) r.history.length) =
      r.history.drop (min (r.consumed + n) r.history.length)
    have step : min (r.consumed + n) r.history.length = r.consumed + (min (r.consumed + n) r.history.length - r.consumed) := by
      omega
    generalize min (r.consumed + n) r.history.length - r.consumed = k at step
    have left : r.history.length - (r.consumed + k) = r.pending - k := by omega
    rw [step, left, window_mod, ← @window_mod _ _ _ (r.consumed + k), ← Nat.mod_add_mod, window_mod,
      ← drop_window (by omega), content, List.drop_drop]

theorem Inv.same (inv : r.Inv) {stream : SndComprStream} (direction : stream.direction = r.stream.direction)
    (copies : stream.hasCopy = r.stream.hasCopy) (size : stream.runtime.bufferSize = r.stream.runtime.bufferSize)
    (buffer : stream.runtime.buffer = r.stream.runtime.buffer)
    (available : stream.runtime.totalBytesAvailable = r.stream.runtime.totalBytesAvailable) :
    Inv { r with stream := stream } := by
  obtain ⟨held, there, room, content⟩ := inv.held
  refine ⟨direction.trans inv.direction, copies.trans inv.noCopy, ?_, ?_, available.trans inv.available, inv.behind,
    ⟨held, buffer.trans there, ?_, ?_⟩, inv.short⟩
  · rw [size]
    exact inv.positive
  · rw [size]
    exact inv.small
  · rw [size]
    exact room
  · rw [size]
    exact content

theorem Inv.tstamp (inv : r.Inv) : Inv { r with stream := (r.stream.sndComprUpdateTstamp r.copiedTotal).2 } := by
  rw [copiedTotal, SndComprStream.sndComprUpdateTstamp, if_pos inv.direction]
  exact inv.same rfl rfl rfl rfl rfl

theorem Inv.start (inv : r.Inv) (trigger : Int) : (r.exec (.start trigger)).Inv := by
  have after : ∃ state, (r.stream.sndComprStart trigger).2 = r.stream.setState state := by
    rw [SndComprStream.sndComprStart, SndComprStream.triggerFrom]
    split
    · exact ⟨r.stream.runtime.state, rfl⟩
    · split
      · exact ⟨r.stream.runtime.state, rfl⟩
      · exact ⟨.running, rfl⟩
  obtain ⟨state, same⟩ := after
  show Inv { r with stream := (r.stream.sndComprStart trigger).2 }
  rw [same]
  exact inv.same rfl rfl rfl rfl rfl

theorem write_refused (inv : r.Inv) (refused : ¬ r.MayWrite) (data : List Byte) : (r.write data).2 = r := by
  have state : r.stream.runtime.state ≠ .setup ∧ r.stream.runtime.state ≠ .running := not_or.mp refused
  rw [write, SndComprStream.sndComprWrite, if_neg (not_capture inv.direction), if_pos state]
  show { r with history := r.history ++ data.take 0 } = r
  rw [List.take_zero, List.append_nil]

theorem Inv.write_iff (inv : r.Inv) (may : r.MayWrite) (data : List Byte) :
    r.StepExact (.write data) (r.exec (.write data)) ↔ r.consumed < 2 ^ 32 ∧ min data.length r.free < 2 ^ 31 := by
  constructor
  · rintro ⟨-, claim⟩
    obtain ⟨avail, result, -⟩ := claim may
    have below := inv.avail.mp avail
    rw [inv.write_eq may below] at result
    have high : toSigned 32 (data.take r.free).length < 2 ^ 31 := toSigned_high 31 _
    exact ⟨below, by omega⟩
  · rintro ⟨below, fits⟩
    obtain ⟨result, history, after⟩ := inv.write may below fits
    exact ⟨after.held, fun _ => ⟨inv.avail.mpr below, result, history⟩⟩

theorem Inv.decides (inv : r.Inv) (op : RingOp) : r.StepExact op (r.exec op) ↔ r.Below op := by
  cases op with
  | write data =>
    by_cases may : r.MayWrite
    · rw [inv.write_iff may, Below, forall_prop_of_true may]
    · apply iff_of_true _ (fun allowed => absurd allowed may)
      refine ⟨?_, fun allowed => absurd allowed may⟩
      show (r.write data).2.Held
      rw [write_refused inv may]
      exact inv.held
  | avail =>
    have held : (r.exec .avail).Held := inv.tstamp.held
    exact (and_iff_right held).trans inv.avail
  | tstamp => exact iff_of_true ⟨inv.tstamp.held, trivial⟩ trivial
  | start trigger => exact iff_of_true ⟨(inv.start trigger).held, trivial⟩ trivial
  | consume n => exact iff_of_true ⟨(inv.consume n).held, trivial⟩ trivial

theorem Inv.exec (inv : r.Inv) {op : RingOp} (below : r.Below op) : (r.exec op).Inv := by
  cases op with
  | write data =>
    by_cases may : r.MayWrite
    · obtain ⟨small, fits⟩ := below may
      exact (inv.write may small fits).2.2
    · show (r.write data).2.Inv
      rw [write_refused inv may]
      exact inv
  | avail => exact inv.tstamp
  | tstamp => exact inv.tstamp
  | start trigger => exact inv.start trigger
  | consume n => exact inv.consume n

def fresh (fragmentSize fragments : BitVec 32) (address : Nat) (bytes : Nat → Byte) : ComprRing where
  stream := ⟨.playback, false, ⟨.setup, some ⟨address, (fragmentSize * fragments).toNat, bytes⟩,
    (fragmentSize * fragments).toNat, fragmentSize, fragments, 0, 0⟩, false, false, false⟩
  history := []
  consumed := 0

theorem fresh_inv {fragmentSize fragments : BitVec 32} (positive : 0 < (fragmentSize * fragments).toNat)
    (address : Nat) (bytes : Nat → Byte) : (fresh fragmentSize fragments address bytes).Inv where
  direction := rfl
  noCopy := rfl
  positive := positive
  small := BitVec.isLt _
  available := rfl
  behind := Nat.le_refl 0
  held := ⟨_, rfl, Nat.zero_le _, rfl⟩
  short := Nat.two_pow_pos 33

instance : (op : RingOp) → Decidable (r.Below op)
  | .avail => inferInstanceAs (Decidable (r.consumed < 2 ^ 32))
  | .write data => inferInstanceAs (Decidable (r.MayWrite → r.consumed < 2 ^ 32 ∧ min data.length r.free < 2 ^ 31))
  | .tstamp | .start _ | .consume _ => .isTrue trivial

end ComprRing

/-- The ring of a playback stream is exact as long as the counts fit the fields that they go through. -/
theorem compress_ring {fragmentSize fragments : BitVec 32} (positive : 0 < (fragmentSize * fragments).toNat)
    (address : Nat) (bytes : Nat → Byte) (ops : List RingOp) :
    Throughout ComprRing.exec ComprRing.StepExact (ComprRing.fresh fragmentSize fragments address bytes) ops ↔
      Throughout ComprRing.exec (fun r op _ => r.Below op) (ComprRing.fresh fragmentSize fragments address bytes) ops :=
  throughout_iff (P := fun _ _ _ => True) ComprRing.Inv _ _ (fun _ op inv _ => inv.decides op)
    (fun _ _ inv _ below => inv.exec below) (ComprRing.fresh_inv positive address bytes)
    (Throughout.of_mem fun _ _ _ => trivial)

theorem compress_ring_around : Throughout ComprRing.exec ComprRing.StepExact (ComprRing.fresh 4 2 1 fun _ => 0)
    [.write [1, 2, 3, 4, 5], .start 0, .consume 4, .avail, .write [6, 7, 8, 9, 10, 11, 12, 13], .consume 3, .avail] :=
  (compress_ring (by decide) 1 (fun _ => 0) _).mpr (by decide)

namespace ComprRing

variable {r : ComprRing} {count : Nat}

/-- A running stream whose device has consumed all of the `count` bytes. -/
structure Drained (r : ComprRing) (size count : Nat) : Prop where
  inv : r.Inv
  running : r.stream.runtime.state = .running
  size : r.stream.runtime.bufferSize = size
  consumed : r.consumed = count
  length : r.history.length = count

theorem written_running {s : SndComprStream} (running : s.runtime.state = .running) (retval : Int) :
    (s.written retval).runtime.state = .running := by
  rw [SndComprStream.written]
  split
  · simp [running]
  · simp [running]

theorem copyAll_state (s : SndComprStream) (copies : List (Nat × List Byte)) :
    (s.copyAll copies).runtime.state = s.runtime.state ∧
      (s.copyAll copies).runtime.bufferSize = s.runtime.bufferSize := by
  rw [SndComprStream.copyAll]
  split
  · exact ⟨rfl, rfl⟩
  · exact ⟨rfl, rfl⟩

theorem Inv.write_frame (inv : r.Inv) (running : r.stream.runtime.state = .running) (below : r.consumed < 2 ^ 32)
    (data : List Byte) : (r.write data).2.stream.runtime.state = .running ∧
      (r.write data).2.stream.runtime.bufferSize = r.stream.runtime.bufferSize := by
  rw [inv.write_eq (.inr running) below]
  generalize toSigned 32 (data.take r.free).length = retval
  have copied := copyAll_state r.stamped (r.stamped.writeCopies (data.take r.free))
  exact ⟨written_running (copied.1.trans running) retval,
    (SndComprStream.keeps_written retval).bufferSize.trans copied.2⟩

theorem write_consumed (data : List Byte) : (r.write data).2.consumed = r.consumed := rfl

theorem Drained.round {size count : Nat} {data : List Byte} (drained : r.Drained size count) (whole : data.length = size)
    (fits : size < 2 ^ 31) (below : count < 2 ^ 32) :
    ((r.exec (.write data)).exec (.consume size)).Drained size (count + size) := by
  obtain ⟨inv, running, full, consumed, length⟩ := drained
  have free : r.free = size := by
    rw [ComprRing.free, pending, consumed, length, full]
    omega
  have all : min data.length r.free = size := by rw [whole, free, Nat.min_self]
  obtain ⟨-, history, after⟩ := inv.write (.inr running) (consumed ▸ below) (show min data.length r.free < 2 ^ 31 from all ▸ fits)
  obtain ⟨state, buffer⟩ := inv.write_frame running (consumed ▸ below) data
  have longer : (r.write data).2.history.length = count + size := by
    rw [history, List.length_append, length, all, List.take_of_length_le whole.le, whole]
  refine ⟨after.consume size, state, buffer.trans full, ?_, longer⟩
  show min ((r.write data).2.consumed + size) (r.write data).2.history.length = _
  rw [write_consumed, consumed, longer, Nat.min_self]

def rounds (size : Nat) : Nat → List RingOp
  | 0 => []
  | n + 1 => .write (List.replicate size 0) :: .consume size :: rounds size n

theorem Drained.rounds {size count n : Nat} (drained : r.Drained size count) (fits : size < 2 ^ 31) (positive : 0 < size)
    (below : count + size * n ≤ 2 ^ 32) : ((rounds size n).foldl exec r).Drained size (count + size * n) := by
  induction n generalizing r count with
  | zero => exact drained
  | succ n ih =>
    have more : count + size * (n + 1) = count + size + size * n := by rw [Nat.mul_succ]; omega
    rw [more] at below ⊢
    exact ih (drained.round List.length_replicate fits (by omega)) below

end ComprRing

/-- Once the device has consumed 2^32 bytes its count starts again at zero. -/
theorem compress_ring_wraps : ¬ ∀ {fragmentSize fragments : BitVec 32}, 0 < (fragmentSize * fragments).toNat →
    ∀ (address : Nat) (bytes : Nat → Byte) (ops : List RingOp),
      Throughout ComprRing.exec ComprRing.StepExact (ComprRing.fresh fragmentSize fragments address bytes) ops := by
  intro claim
  have positive : 0 < ((4096 : BitVec 32) * 256).toNat := by decide
  have started : ComprRing.Drained (((ComprRing.fresh 4096 256 1 fun _ => 0).exec (.write [])).exec (.start 0))
      (2 ^ 20) 0 := by
    have fresh := ComprRing.fresh_inv positive 1 fun _ => 0
    exact ⟨(@ComprRing.Inv.exec _ fresh (.write []) (by decide)).start 0, by decide, by decide, by decide, by decide⟩
  have below := (compress_ring positive 1 (fun _ => 0) _).mp
    (claim positive 1 (fun _ => 0) (.write [] :: .start 0 :: (ComprRing.rounds (2 ^ 20) (2 ^ 12) ++ [.avail])))
  have last := (throughout_append.mp below.2.2).2.1
  have drained := started.rounds (n := 2 ^ 12) (by decide) (by decide) (by decide)
  have small : _ < 2 ^ 32 := last
  rw [drained.consumed] at small
  omega

end AlsaDriver.Compress
