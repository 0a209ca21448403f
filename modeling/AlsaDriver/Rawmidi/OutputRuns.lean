import AlsaDriver.Rawmidi.InputRuns

namespace AlsaDriver.Rawmidi

open Ring Runs Words

namespace SndRawmidiRuntime

variable {r : SndRawmidiRuntime} {data : List Byte}

/-- The ring of an output substream: the driver is at `hwPtr`, and `avail` places are free. -/
structure OutputRing (r : SndRawmidiRuntime) : Prop where
  avail : r.avail ≤ r.bufferSize
  hw : r.hwPtr < r.bufferSize
  appl : r.applPtr = (r.hwPtr + (r.bufferSize - r.avail)) % r.bufferSize

def pending (r : SndRawmidiRuntime) : List Byte := window r.bufferSize r.buffer r.hwPtr (r.bufferSize - r.avail)

@[simp] theorem length_pending : r.pending.length = r.bufferSize - r.avail := length_window

theorem OutputRing.appl_lt (ring : r.OutputRing) : r.applPtr < r.bufferSize := by
  rw [ring.appl]
  exact Nat.mod_lt _ r.size_pos

theorem size_lt (r : SndRawmidiRuntime) : r.bufferSize < 2 ^ 32 := Nat.lt_of_le_of_lt r.sized.2 (by decide)

theorem OutputRing.nextChunk (ring : r.OutputRing) (count : Nat) :
    r.nextChunk count = if 0 < count ∧ 0 < r.avail then
      some ((min (min (r.bufferSize - r.applPtr) count) r.avail : Nat) : Int) else none := by
  have low := ring.avail
  have inside := ring.appl_lt
  have size := r.size_lt
  have same : toSigned 64 r.avail = r.avail := toSigned_of_range (w := 63) (by omega) (by omega)
  have chunk : min (min ((r.bufferSize : Int) - r.applPtr) count) r.avail =
      (min (min (r.bufferSize - r.applPtr) count) r.avail : Nat) := by omega
  rw [SndRawmidiRuntime.nextChunk, same, chunk]

theorem OutputRing.place (ring : r.OutputRing) (straight : r.applPtr + data.length ≤ r.bufferSize)
    (room : data.length ≤ r.avail) : (r.place data).OutputRing ∧ (r.place data).pending = r.pending := by
  have low := ring.avail
  have fits : r.bufferSize - r.avail + data.length ≤ r.bufferSize := by omega
  exact ⟨⟨low, ring.hw, ring.appl⟩, window_copyIn_behind ring.appl straight fits⟩

theorem OutputRing.writeAdvance {n : Nat} (ring : r.OutputRing) (straight : r.applPtr + n ≤ r.bufferSize)
    (room : n ≤ r.avail) :
    (r.writeAdvance n).OutputRing ∧ (r.writeAdvance n).avail = r.avail - n ∧
      (r.writeAdvance n).pending = r.pending ++ copyOut r.buffer r.applPtr n := by
  have low := ring.avail
  have size := r.size_lt
  have avail : toUnsigned 64 ((r.avail : Int) - n) = r.avail - n := by
    rw [← Int.ofNat_sub room]
    exact toUnsigned_natCast (by omega)
  have appl : toUnsigned 64 ((r.applPtr : Int) + n) = r.applPtr + n := toUnsigned_natCast (by omega)
  have longer : r.bufferSize - (r.avail - n) = r.bufferSize - r.avail + n := by omega
  have after : r.writeAdvance n = { r with applPtr := (r.applPtr + n) % r.bufferSize, avail := r.avail - n } := by
    rw [SndRawmidiRuntime.writeAdvance, avail, appl]
  rw [after]
  refine ⟨⟨?_, ring.hw, ?_⟩, rfl, ?_⟩
  · show r.avail - n ≤ r.bufferSize
    omega
  · show (r.applPtr + n) % r.bufferSize = (r.hwPtr + (r.bufferSize - (r.avail - n))) % r.bufferSize
    rw [ring.appl, Nat.mod_add_mod, longer, Nat.add_assoc]
  · show window r.bufferSize r.buffer r.hwPtr (r.bufferSize - (r.avail - n)) = _
    rw [longer, window_add, ← @window_mod _ _ _ (r.hwPtr + (r.bufferSize - r.avail)), ← ring.appl,
      window_straight straight, pending]

theorem place_copyOut {n : Nat} (length : data.length = n) :
    copyOut (r.place data).buffer r.applPtr n = data := by
  subst length
  apply List.ext_getElem length_copyOut
  intro i inside _
  simp only [copyOut, List.getElem_map, List.getElem_range]
  exact copyIn_inside (by simpa using inside)

theorem OutputRing.writeKernel {fuel result : Nat} (ring : r.OutputRing) (inside : result ≤ data.length) :
    (writeKernel fuel r data result).2.OutputRing ∧ result ≤ (writeKernel fuel r data result).1 ∧
      (writeKernel fuel r data result).1 ≤ data.length ∧
      (writeKernel fuel r data result).2.pending =
        r.pending ++ (data.drop result).take ((writeKernel fuel r data result).1 - result) ∧
      (data.length - result ≤ fuel → data.length - result ≤ r.avail →
        (writeKernel fuel r data result).1 = data.length) := by
  induction fuel generalizing r result with
  | zero =>
    refine ⟨ring, Nat.le_refl _, inside, ?_, fun enough _ => ?_⟩
    · rw [SndRawmidiRuntime.writeKernel, Nat.sub_self, List.take_zero, List.append_nil]
    · show result = data.length
      omega
  | succ fuel ih =>
    have chunk := ring.nextChunk (data.length - result)
    have appl := ring.appl_lt
    rw [SndRawmidiRuntime.writeKernel]
    split at chunk
    · rename_i goes
      generalize size : min (min (r.bufferSize - r.applPtr) (data.length - result)) r.avail = n at chunk
      rw [chunk]
      dsimp only
      rw [Int.toNat_natCast]
      have length : ((data.drop result).take n).length = n := by
        rw [List.length_take, List.length_drop]
        omega
      obtain ⟨ring1, same⟩ := @OutputRing.place _ ((data.drop result).take n) ring (by omega) (by omega)
      obtain ⟨ring2, less, more⟩ := ring1.writeAdvance (n := n) (show r.applPtr + n ≤ r.bufferSize by omega)
        (show n ≤ r.avail by omega)
      obtain ⟨ring', low, high, rest, ends⟩ := ih ring2 (show result + n ≤ data.length by omega)
      have written : copyOut (r.place ((data.drop result).take n)).buffer r.applPtr n = (data.drop result).take n :=
        place_copyOut length
      refine ⟨ring', by omega, high, ?_, fun enough room => ends (by omega) ?_⟩
      · have split : (SndRawmidiRuntime.writeKernel fuel ((r.place ((data.drop result).take n)).writeAdvance n) data
            (result + n)).1 - result = n + ((SndRawmidiRuntime.writeKernel fuel
              ((r.place ((data.drop result).take n)).writeAdvance n) data (result + n)).1 - (result + n)) := by omega
        rw [rest, more, same, split, List.take_add, List.drop_drop, List.append_assoc]
        congr 2
      · rw [less]
        show data.length - (result + n) ≤ r.avail - n
        omega
    · rename_i stops
      rw [chunk]
      refine ⟨ring, Nat.le_refl _, inside, ?_, fun _ room => ?_⟩
      · rw [Nat.sub_self, List.take_zero, List.append_nil]
      · show result = data.length
        omega

theorem OutputRing.peekBytes (ring : r.OutputRing) (count : Nat) :
    r.peekBytes count = r.pending.take count := by
  have inside := ring.hw
  have capped : r.pending.take count = window r.bufferSize r.buffer r.hwPtr (min count (r.bufferSize - r.avail)) := by
    rw [pending, ← take_window (Nat.min_le_right ..), List.take_eq_take_iff, length_window]
    omega
  rw [SndRawmidiRuntime.peekBytes, capped]
  generalize chunk : min (min (r.bufferSize - r.hwPtr) count) (r.bufferSize - r.avail) = count1
  split
  · by_cases around : r.hwPtr + count1 = r.bufferSize
    · rw [← window_around around (by omega)]
      congr 1
      omega
    · have none : min (count - count1) (r.bufferSize - r.avail - count1) = 0 := by omega
      have whole : min count (r.bufferSize - r.avail) = count1 := by omega
      rw [none, whole, window_straight (by omega)]
      exact List.append_nil _
  · have whole : min count (r.bufferSize - r.avail) = count1 := by omega
    rw [whole, window_straight (by omega), List.append_nil]

theorem OutputRing.peekByte_eq (ring : r.OutputRing) (some : r.avail < r.bufferSize) : r.peekByte = r.peekBytes 1 := by
  have inside := ring.hw
  have one : min (min (r.bufferSize - r.hwPtr) 1) (r.bufferSize - r.avail) = 1 := by omega
  rw [SndRawmidiRuntime.peekBytes, one, if_neg (Nat.lt_irrefl 0), List.append_nil, peekByte]

theorem OutputRing.transmitPeek (ring : r.OutputRing) (count : Nat) :
    r.transmitPeek count = r.pending.take count := by
  rw [SndRawmidiRuntime.transmitPeek]
  split
  · rename_i empty
    have none : r.bufferSize - r.avail = 0 := by omega
    rw [pending, none, window_zero, List.take_nil]
  · split
    · rename_i one
      rw [ring.peekByte_eq (by omega), ring.peekBytes, one]
    · exact ring.peekBytes count

theorem ack_eq {count : Nat} (few : r.avail + count ≤ r.bufferSize) :
    r.ack count = { r with hwPtr := (r.hwPtr + count) % r.bufferSize, avail := r.avail + count } := by
  have size := r.size_lt
  have avail : toUnsigned 64 ((r.avail : Int) + count) = r.avail + count := toUnsigned_natCast (by omega)
  rw [SndRawmidiRuntime.ack, avail]

theorem OutputRing.ack {count : Nat} (ring : r.OutputRing) (some : count ≤ r.bufferSize - r.avail) :
    (r.ack count).OutputRing ∧ (r.ack count).avail = r.avail + count ∧ (r.ack count).pending = r.pending.drop count := by
  have low := ring.avail
  have fewer : r.bufferSize - (r.avail + count) = r.bufferSize - r.avail - count := by omega
  rw [ack_eq (by omega)]
  refine ⟨⟨?_, Nat.mod_lt _ r.size_pos, ?_⟩, rfl, ?_⟩
  · show r.avail + count ≤ r.bufferSize
    omega
  · show r.applPtr = ((r.hwPtr + count) % r.bufferSize + (r.bufferSize - (r.avail + count))) % r.bufferSize
    rw [Nat.mod_add_mod, ring.appl]
    congr 1
    omega
  · rw [pending, pending, drop_window some]
    show window r.bufferSize r.buffer ((r.hwPtr + count) % r.bufferSize) (r.bufferSize - (r.avail + count)) = _
    rw [window_mod, fewer]

end SndRawmidiRuntime

open SndRawmidiRuntime

namespace Output

variable {s : Output} {w : Nat} {part : List Byte} {wr : Writing}

def returned (s : Output) : List Byte := s.calls.flatMap fun call => call.1.take call.2.toNat

/-- The bytes in the ring and before it are those of the calls, up to `part` of the call of `w`; no
    other writer is between its check and its end. -/
structure Part (s : Output) (w : Nat) (part : List Byte) : Prop where
  ring : s.runtime.OutputRing
  held : s.held <+: s.runtime.pending
  others : ∀ v, v ≠ w → s.writers v = .outside
  order : s.sent ++ s.runtime.pending = s.returned ++ part

structure ChunkFits (s : Output) (wr : Writing) (count1 : Int) : Prop where
  long : (count1.toNat : Int) = count1
  inside : wr.result + count1.toNat ≤ wr.data.length
  straight : s.runtime.applPtr + count1.toNat ≤ s.runtime.bufferSize
  room : count1.toNat ≤ s.runtime.avail
  whole : s.sub.append = true → wr.count ≤ s.runtime.avail

def WriterFits (s : Output) : Writer → Prop
  | .outside => True
  | .copying wr count1 => s.ChunkFits wr count1
  | .copied wr count1 =>
    s.ChunkFits wr count1 ∧ copyOut s.runtime.buffer s.runtime.applPtr count1.toNat = wr.chunk count1

structure InvAt (s : Output) (w : Nat) : Prop extends Part s w (s.writers w).written where
  fits : s.WriterFits (s.writers w)

theorem ChunkFits.length_chunk {count1 : Int} (fits : s.ChunkFits wr count1) :
    (wr.chunk count1).length = count1.toNat := by
  have inside := fits.inside
  rw [Writing.chunk, List.length_take, List.length_drop]
  omega

theorem Part.finish {data : List Byte} {result : Int} (before : s.Part w (data.take result.toNat)) :
    (s.finish w data result).InvAt w := by
  have outside : (s.finish w data result).writers w = .outside := if_pos rfl
  constructor
  · rw [outside]
    refine ⟨before.ring, before.held, fun v other => ?_, ?_⟩
    · exact (if_neg other).trans (before.others v other)
    · show s.sent ++ s.runtime.pending = (s.calls ++ [(data, result)]).flatMap _ ++ []
      rw [List.flatMap_append, List.flatMap_singleton, List.append_nil]
      exact before.order
  · rw [outside]
    trivial

theorem Part.loop (before : s.Part w (wr.data.take wr.result)) (inside : wr.result ≤ wr.data.length)
    (whole : s.sub.append = true → wr.count ≤ s.runtime.avail) : (s.loop w wr).InvAt w := by
  have chunk := before.ring.nextChunk wr.count
  have appl := before.ring.appl_lt
  rw [Output.loop]
  split at chunk
  · rename_i goes
    rw [chunk]
    have here : (s.setWriter w (.copying wr
        (min (min (s.runtime.bufferSize - s.runtime.applPtr) wr.count) s.runtime.avail : Nat))).writers w =
        .copying wr (min (min (s.runtime.bufferSize - s.runtime.applPtr) wr.count) s.runtime.avail : Nat) := if_pos rfl
    have count : wr.count = wr.data.length - wr.result := rfl
    constructor
    · rw [here]
      exact ⟨before.ring, before.held, fun v other => (if_neg other).trans (before.others v other), before.order⟩
    · rw [here]
      refine ⟨by rw [Int.toNat_natCast], ?_, ?_, ?_, whole⟩
      · rw [Int.toNat_natCast]
        omega
      · rw [Int.toNat_natCast]
        show s.runtime.applPtr + _ ≤ s.runtime.bufferSize
        omega
      · rw [Int.toNat_natCast]
        show _ ≤ s.runtime.avail
        omega
  · rw [chunk]
    exact Part.finish (by rw [Int.toNat_natCast]; exact before)

theorem Part.place (before : s.Part w part) (data : List Byte)
    (straight : s.runtime.applPtr + data.length ≤ s.runtime.bufferSize) (room : data.length ≤ s.runtime.avail) :
    (s.setRuntime (s.runtime.place data)).Part w part := by
  obtain ⟨ring, same⟩ := before.ring.place straight room
  refine ⟨ring, ?_, before.others, ?_⟩
  · show s.held <+: (s.runtime.place data).pending
    rw [same]
    exact before.held
  · show s.sent ++ (s.runtime.place data).pending = s.returned ++ part
    rw [same]
    exact before.order

theorem Part.push {r : SndRawmidiRuntime} {more : List Byte} (before : s.Part w part) (ring : r.OutputRing)
    (pushed : r.pending = s.runtime.pending ++ more) : (s.setRuntime r).Part w (part ++ more) := by
  refine ⟨ring, ?_, before.others, ?_⟩
  · show s.held <+: r.pending
    rw [pushed]
    exact before.held.trans (List.prefix_append ..)
  · show s.sent ++ r.pending = s.returned ++ (part ++ more)
    rw [pushed, ← List.append_assoc, before.order, List.append_assoc]

theorem InvAt.copy {count1 : Int} (inv : s.InvAt w) (copying : s.writers w = .copying wr count1)
    (fault : Option (List Byte)) : (s.copy w wr count1 fault).InvAt w := by
  have fits := inv.fits
  have before := inv.toPart
  rw [copying] at fits before
  have straight := fits.straight
  have room := fits.room
  cases fault with
  | none =>
    have length := fits.length_chunk
    have placed := before.place (wr.chunk count1) (by omega) (by omega)
    have here : (s.copy w wr count1 none).writers w = .copied wr count1 := if_pos rfl
    constructor
    · rw [here]
      exact ⟨placed.ring, placed.held, fun v other => (if_neg other).trans (placed.others v other), placed.order⟩
    · rw [here]
      exact ⟨⟨fits.long, fits.inside, straight, room, fits.whole⟩, place_copyOut length⟩
  | some junk =>
    have short : (junk.take count1.toNat).length ≤ count1.toNat := List.length_take_le ..
    have placed := before.place (junk.take count1.toNat) (by omega) (by omega)
    apply Part.finish
    split
    · rw [Int.toNat_natCast]
      exact placed
    · rename_i nothing
      have zero : wr.result = 0 := by omega
      rw [Writer.written, zero] at placed
      exact placed

theorem InvAt.advance {count1 : Int} (inv : s.InvAt w) (copied : s.writers w = .copied wr count1) :
    (s.advance w wr count1).InvAt w := by
  have fits := inv.fits
  have before := inv.toPart
  rw [copied] at fits before
  obtain ⟨fits, bytes⟩ := fits
  obtain ⟨ring, less, more⟩ := before.ring.writeAdvance fits.straight fits.room
  rw [fits.long] at ring less more
  rw [bytes] at more
  have pushed := before.push ring more
  rw [Writer.written, Writing.chunk, ← List.take_add] at pushed
  apply Part.loop pushed fits.inside
  intro append
  have whole := fits.whole append
  have count : wr.count = wr.data.length - wr.result := rfl
  show wr.data.length - (wr.result + count1.toNat) ≤ (s.runtime.writeAdvance count1).avail
  omega

theorem room_of_accepted {data : List Byte} (ring : s.runtime.OutputRing) (accepted : ¬ s.Refused data)
    (append : s.sub.append = true) : data.length ≤ s.runtime.avail := by
  have low := ring.avail
  have size := s.runtime.size_lt
  have same : toSigned 64 s.runtime.avail = s.runtime.avail := toSigned_of_range (w := 63) (by omega) (by omega)
  rw [Refused, same, not_and] at accepted
  have room := accepted append
  omega

theorem Part.write {data : List Byte} (before : s.Part w []) (kernel : Bool) : (s.write w kernel data).InvAt w := by
  rw [Output.write]
  split
  · exact before.finish
  · rename_i accepted
    split
    · obtain ⟨ring, low, high, more, ends⟩ := @OutputRing.writeKernel _ data data.length 0 before.ring
        (Nat.zero_le _)
      rw [List.drop_zero, Nat.sub_zero] at more
      have pushed := before.push ring more
      apply Part.finish
      rw [Int.toNat_natCast]
      exact pushed
    · exact @Part.loop _ _ ⟨data, 0⟩ before (Nat.zero_le _) (room_of_accepted before.ring accepted)

theorem WriterFits.mono {s' : Output} {writer : Writer} (fits : s.WriterFits writer)
    (append : s'.sub.append = s.sub.append) (size : s'.runtime.bufferSize = s.runtime.bufferSize)
    (buffer : s'.runtime.buffer = s.runtime.buffer) (appl : s'.runtime.applPtr = s.runtime.applPtr)
    (room : s.runtime.avail ≤ s'.runtime.avail) : s'.WriterFits writer := by
  have chunk {wr : Writing} {count1 : Int} (fits : s.ChunkFits wr count1) : s'.ChunkFits wr count1 := by
    refine ⟨fits.long, fits.inside, ?_, fits.room.trans room, fun append' => ?_⟩
    · rw [appl, size]
      exact fits.straight
    · exact (fits.whole (append ▸ append')).trans room
  cases writer with
  | outside => trivial
  | copying wr count1 => exact chunk fits
  | copied wr count1 =>
    refine ⟨chunk fits.1, ?_⟩
    rw [buffer, appl]
    exact fits.2

theorem InvAt.peek (inv : s.InvAt w) (count : Nat) : (s.peek count).InvAt w := by
  rw [Output.peek]
  split
  · refine ⟨⟨inv.ring, ?_, inv.others, inv.order⟩, ?_⟩
    · show s.runtime.transmitPeek count <+: s.runtime.pending
      rw [inv.ring.transmitPeek]
      exact List.take_prefix ..
    · exact inv.fits.mono rfl rfl rfl rfl (Nat.le_refl _)
  · exact inv

theorem InvAt.ack {count : Nat} (inv : s.InvAt w) (peeked : count ≤ s.held.length) : (s.ack count).InvAt w := by
  obtain ⟨later, whole⟩ := inv.held
  have short : s.held.length ≤ s.runtime.bufferSize - s.runtime.avail := by
    rw [← length_pending, ← whole, List.length_append]
    exact Nat.le_add_right ..
  obtain ⟨ring, more, rest⟩ := inv.ring.ack (peeked.trans short)
  refine ⟨⟨ring, ?_, inv.others, ?_⟩, inv.fits.mono rfl rfl rfl rfl ?_⟩
  · show s.held.drop count <+: (s.runtime.ack count).pending
    rw [rest, ← whole, List.drop_append_of_le_length peeked]
    exact List.prefix_append ..
  · show s.sent ++ s.held.take count ++ (s.runtime.ack count).pending = s.returned ++ (s.writers w).written
    have same : s.held.take count = s.runtime.pending.take count := by
      rw [← whole, List.take_append_of_le_length peeked]
    rw [rest, same, List.append_assoc, List.take_append_drop, inv.order]
  · show s.runtime.avail ≤ (s.runtime.ack count).avail
    omega

def AcksHeld (s : Output) : OutputOp → Prop
  | .ack count => count ≤ s.held.length
  | _ => True

instance : (op : OutputOp) → Decidable (s.AcksHeld op)
  | .ack count => inferInstanceAs (Decidable (count ≤ s.held.length))
  | .write .. | .copy .. | .advance _ | .peek _ => .isTrue trivial

def OfWriter (w : Nat) : OutputOp → Prop
  | .write v _ _ | .copy v _ | .advance v => v = w
  | .peek _ | .ack _ => True

theorem InvAt.exec (inv : s.InvAt w) {op : OutputOp} (own : OfWriter w op) (acks : s.AcksHeld op) :
    (s.exec op).InvAt w := by
  cases op with
  | write v kernel data =>
    obtain rfl : v = w := own
    rw [Output.exec]
    split
    · rename_i outside
      have before := inv.toPart
      rw [outside] at before
      exact before.write kernel
    · exact inv
  | copy v fault =>
    obtain rfl : v = w := own
    rw [Output.exec]
    split
    · rename_i copying
      exact inv.copy copying fault
    · exact inv
  | advance v =>
    obtain rfl : v = w := own
    rw [Output.exec]
    split
    · rename_i copied
      exact inv.advance copied
    · exact inv
  | peek count => exact inv.peek count
  | ack count => exact inv.ack acks

structure Kept (s : Output) (w : Nat) : Prop where
  ring : s.runtime.OutputRing
  below : s.runtime.applPtr < s.runtime.bufferSize
  order : s.sent ++ s.runtime.pending = s.returned ++ (s.writers w).written
  held : s.held <+: s.runtime.pending
  peeks : ∀ count, s.runtime.transmitPeek count = s.runtime.pending.take count
  fast : s.runtime.avail < s.runtime.bufferSize → s.runtime.peekByte = s.runtime.peekBytes 1

theorem InvAt.kept (inv : s.InvAt w) : s.Kept w where
  ring := inv.ring
  below := inv.ring.appl_lt
  order := inv.order
  held := inv.held
  peeks := inv.ring.transmitPeek
  fast := inv.ring.peekByte_eq

theorem InvAt.run (inv : s.InvAt w) {ops : List OutputOp} (own : ∀ op ∈ ops, OfWriter w op)
    (acks : Throughout Output.exec (fun s op _ => s.AcksHeld op) s ops) :
    Throughout Output.exec (fun _ _ s' => s'.Kept w) s ops := by
  have steps := Throughout.and acks
    (Throughout.of_mem (P := fun _ op _ => OfWriter w op) fun op inside _ => own op inside)
  apply (steps.invariant (fun s => s.InvAt w) inv fun s op inv step => inv.exec step.2 step.1).mono
  intro s op s' step
  exact step.2.2.kept

def fresh (buffer : Nat → Byte) (size : Nat) (sized : BufferSize size) (append : Bool) : Output where
  sub := ⟨true, append, 0, ⟨buffer, size, size, 0, 0, 0, sized⟩⟩
  writers := fun _ => .outside
  calls := []
  held := []
  sent := []

theorem fresh_inv (buffer : Nat → Byte) (size : Nat) (sized : BufferSize size) (append : Bool) (w : Nat) :
    (fresh buffer size sized append).InvAt w := by
  have ring : (fresh buffer size sized append).runtime.OutputRing := by
    refine ⟨Nat.le_refl _, SndRawmidiRuntime.size_pos _, ?_⟩
    show 0 = (0 + (size - size)) % size
    rw [Nat.sub_self, Nat.zero_mod]
  have empty : (fresh buffer size sized append).runtime.pending = [] := by
    show window size buffer 0 (size - size) = []
    rw [Nat.sub_self, window_zero]
  exact ⟨⟨ring, List.nil_prefix, fun _ _ => rfl, empty⟩, trivial⟩

end Output

theorem bufferSize_least : BufferSize 32 := ⟨by decide, by decide⟩

end AlsaDriver.Rawmidi
