import AlsaDriver.Lib.Runs
import AlsaDriver.Rawmidi.Runtime

namespace AlsaDriver.Rawmidi

open Ring Runs

namespace SndRawmidiRuntime

variable {r r' r'' : SndRawmidiRuntime} {data : List Byte}

/-- The ring of an input substream: the reader is at `applPtr`, and `avail` bytes wait for it. -/
structure InputRing (r : SndRawmidiRuntime) : Prop where
  avail : r.avail ≤ r.bufferSize
  appl : r.applPtr < r.bufferSize
  hw : r.hwPtr = (r.applPtr + r.avail) % r.bufferSize

def waiting (r : SndRawmidiRuntime) : List Byte := window r.bufferSize r.buffer r.applPtr r.avail

theorem size_pos (r : SndRawmidiRuntime) : 0 < r.bufferSize := Nat.lt_of_lt_of_le (by decide) r.sized.1

theorem InputRing.hw_lt (ring : r.InputRing) : r.hwPtr < r.bufferSize := by
  rw [ring.hw]
  exact Nat.mod_lt _ r.size_pos

/-- All of `data` went into the ring, behind what was there. -/
structure Stored (r : SndRawmidiRuntime) (data : List Byte) (r' : SndRawmidiRuntime) : Prop where
  size : r'.bufferSize = r.bufferSize
  appl : r'.applPtr = r.applPtr
  avail : r'.avail = r.avail + data.length
  room : r.avail + data.length ≤ r.bufferSize
  hw : r'.hwPtr = (r.hwPtr + data.length) % r.bufferSize
  waiting : r'.waiting = r.waiting ++ data

theorem Stored.ring (stored : r.Stored data r') (ring : r.InputRing) : r'.InputRing where
  avail := by
    rw [stored.avail, stored.size]
    exact stored.room
  appl := by
    rw [stored.appl, stored.size]
    exact ring.appl
  hw := by rw [stored.hw, stored.appl, stored.avail, stored.size, ring.hw, Nat.mod_add_mod, Nat.add_assoc]

theorem Stored.trans {more : List Byte} (first : r.Stored data r') (second : r'.Stored more r'') :
    r.Stored (data ++ more) r'' where
  size := second.size.trans first.size
  appl := second.appl.trans first.appl
  avail := by rw [second.avail, first.avail, List.length_append, Nat.add_assoc]
  room := by
    have room := second.room
    rw [first.avail, first.size] at room
    rw [List.length_append]
    omega
  hw := by rw [second.hw, first.hw, first.size, Nat.mod_add_mod, List.length_append, Nat.add_assoc]
  waiting := by rw [second.waiting, first.waiting, List.append_assoc]

theorem stored_nil (ring : r.InputRing) : r.Stored [] r where
  size := rfl
  appl := rfl
  avail := rfl
  room := ring.avail
  hw := (Nat.mod_eq_of_lt ring.hw_lt).symm
  waiting := (List.append_nil _).symm

theorem stored_copy (ring : r.InputRing) (straight : r.hwPtr + data.length ≤ r.bufferSize)
    (room : r.avail + data.length ≤ r.bufferSize) {avail hwPtr : Nat} (full : avail = r.avail + data.length)
    (moved : hwPtr = (r.hwPtr + data.length) % r.bufferSize) :
    r.Stored data { r with buffer := copyIn r.buffer r.hwPtr data, hwPtr := hwPtr, avail := avail } where
  size := rfl
  appl := rfl
  avail := full
  room := room
  hw := moved
  waiting := by
    subst full
    exact window_push ring.hw straight room

theorem receiveFirst_stored (data : List Byte) (ring : r.InputRing) :
    r.Stored (data.take (r.receiveFirst data).1) (r.receiveFirst data).2 ∧
      (r.receiveFirst data).2.xruns = r.xruns ∧ (r.receiveFirst data).1 ≤ data.length ∧
      ((r.receiveFirst data).1 = data.length ∨
        ((r.receiveFirst data).2.hwPtr = 0 ∧ 0 < (r.receiveFirst data).1) ∨
        (r.receiveFirst data).2.avail = r.bufferSize) := by
  have low := ring.avail
  have inside := ring.hw_lt
  rw [receiveFirst]
  dsimp only
  generalize chunk : min (min (r.bufferSize - r.hwPtr) data.length) (r.bufferSize - r.avail) = count1
  have length : (data.take count1).length = count1 := by
    rw [List.length_take]
    omega
  refine ⟨stored_copy ring ?_ ?_ ?_ ?_, rfl, ?_, ?_⟩
  · omega
  · omega
  · rw [length]
  · rw [length]
  · omega
  · by_cases whole : count1 = data.length
    · exact .inl whole
    · by_cases full : r.avail + count1 = r.bufferSize
      · exact .inr (.inr full)
      · have reached : r.hwPtr + count1 = r.bufferSize := by omega
        exact .inr (.inl ⟨by rw [reached, Nat.mod_self], by omega⟩)

theorem receiveRest_stored (data : List Byte) (ring : r.InputRing)
    (around : r.hwPtr = 0 ∧ 0 < r.avail ∨ r.avail = r.bufferSize) :
    (r.receiveRest data).1 = min data.length (r.bufferSize - r.avail) ∧
      r.Stored (data.take (r.receiveRest data).1) (r.receiveRest data).2 ∧
      (r.receiveRest data).2.xruns = r.xruns + (data.length - (r.receiveRest data).1) := by
  have low := ring.avail
  have lost : (if r.bufferSize - r.avail < data.length then
      { r with xruns := r.xruns + (data.length - min data.length (r.bufferSize - r.avail)) } else r) =
      { r with xruns := r.xruns + (data.length - min data.length (r.bufferSize - r.avail)) } := by
    split
    · rfl
    · have all : data.length - min data.length (r.bufferSize - r.avail) = 0 := by omega
      rw [all, Nat.add_zero]
  rw [receiveRest, lost]
  dsimp only
  generalize chunk : min data.length (r.bufferSize - r.avail) = count1
  have length : (data.take count1).length = count1 := by
    rw [List.length_take]
    omega
  split
  · rename_i some
    obtain ⟨zero, used⟩ : r.hwPtr = 0 ∧ 0 < r.avail := around.resolve_right (by omega)
    have stored : r.Stored (data.take count1)
        { r with buffer := copyIn r.buffer r.hwPtr (data.take count1), hwPtr := count1, avail := r.avail + count1 } := by
      apply stored_copy ring
      · omega
      · omega
      · rw [length]
      · rw [length, zero, Nat.zero_add, Nat.mod_eq_of_lt (by omega)]
    rw [zero] at stored
    exact ⟨rfl, ⟨stored.1, stored.2, stored.3, stored.4, stored.5, stored.6⟩, rfl⟩
  · obtain rfl : count1 = 0 := by omega
    have stored := stored_nil ring
    exact ⟨rfl, ⟨stored.1, stored.2, stored.3, stored.4, stored.5, stored.6⟩, rfl⟩

theorem receiveBytes_stored (data : List Byte) (ring : r.InputRing) :
    (r.receiveBytes data).1 = min data.length (r.bufferSize - r.avail) ∧
      r.Stored (data.take (r.receiveBytes data).1) (r.receiveBytes data).2 ∧
      (r.receiveBytes data).2.xruns = r.xruns + (data.length - (r.receiveBytes data).1) := by
  obtain ⟨first, same, below, ended⟩ := receiveFirst_stored data ring
  rw [receiveBytes]
  generalize r.receiveFirst data = p at first same below ended
  obtain ⟨count1, r1⟩ := p
  dsimp only at first same below ended ⊢
  have room := first.room
  have filled := first.avail
  have ring1 := first.ring ring
  have size := first.size
  rw [List.length_take] at room filled
  split
  · rename_i some
    have around : r1.hwPtr = 0 ∧ 0 < r1.avail ∨ r1.avail = r1.bufferSize := by
      rcases ended with whole | ⟨zero, positive⟩ | full
      · omega
      · exact .inl ⟨zero, by omega⟩
      · exact .inr (full.trans size.symm)
    obtain ⟨count2, second, lost⟩ := receiveRest_stored (data.drop count1) ring1 around
    have both := first.trans second
    rw [List.length_drop] at count2 lost
    rw [← List.take_add] at both
    dsimp only
    exact ⟨by omega, both, by omega⟩
  · dsimp only
    exact ⟨by omega, first, by omega⟩

theorem receiveFirst_full (ring : r.InputRing) (full : r.avail = r.bufferSize) :
    r.receiveFirst data = (0, r) := by
  have none : min (min (r.bufferSize - r.hwPtr) data.length) (r.bufferSize - r.avail) = 0 := by omega
  rw [receiveFirst, none, List.take_zero, copyIn_nil, Nat.add_zero, Nat.add_zero, Nat.mod_eq_of_lt ring.hw_lt]

theorem receiveRest_full (full : r.avail = r.bufferSize) (some : 0 < data.length) :
    r.receiveRest data = (0, { r with xruns := r.xruns + data.length }) := by
  have free : r.bufferSize - r.avail = 0 := by omega
  rw [receiveRest, free, Nat.min_zero, if_neg (Nat.lt_irrefl 0), if_pos some, Nat.sub_zero]

theorem receiveByte_eq (ring : r.InputRing) (b : Byte) : r.receiveByte b = r.receiveBytes [b] := by
  have inside := ring.hw_lt
  by_cases room : r.avail < r.bufferSize
  · have one : min (min (r.bufferSize - r.hwPtr) 1) (r.bufferSize - r.avail) = 1 := by omega
    rw [receiveByte, if_pos room, receiveBytes, receiveFirst]
    dsimp only [List.length_singleton]
    rw [one]
    rfl
  · have full : r.avail = r.bufferSize := by
      have low := ring.avail
      omega
    have lost : r.receiveRest [b] = (0, { r with xruns := r.xruns + 1 }) := receiveRest_full full Nat.one_pos
    rw [receiveByte, if_neg room, receiveBytes, receiveFirst_full ring full]
    dsimp only [List.length_singleton]
    rw [if_pos (by decide), List.drop_zero, lost, Nat.zero_add]

theorem receive_eq (ring : r.InputRing) : r.receive data = r.receiveBytes data := by
  unfold receive
  split
  · exact receiveByte_eq ring _
  · rfl

theorem InputRing.readAdvance {count1 : Nat} (ring : r.InputRing) (short : count1 ≤ r.avail) :
    (r.readAdvance count1).InputRing ∧ (r.readAdvance count1).waiting = r.waiting.drop count1 := by
  have low := ring.avail
  refine ⟨⟨?_, Nat.mod_lt _ r.size_pos, ?_⟩, ?_⟩
  · show r.avail - count1 ≤ r.bufferSize
    omega
  · show r.hwPtr = ((r.applPtr + count1) % r.bufferSize + (r.avail - count1)) % r.bufferSize
    rw [Nat.mod_add_mod, ring.hw]
    congr 1
    omega
  · rw [waiting, waiting, drop_window short]
    exact window_mod

theorem take_waiting {count1 : Nat} (short : count1 ≤ r.avail) (straight : r.applPtr + count1 ≤ r.bufferSize) :
    r.waiting.take count1 = copyOut r.buffer r.applPtr count1 := by
  rw [waiting, take_window short, window_straight straight]

end SndRawmidiRuntime

namespace Input

variable {s : Input}

def ReaderFits (r : SndRawmidiRuntime) : Reader → Prop
  | .outside | .loop _ => True
  | .chunk rd count1 => count1 ≤ rd.count ∧ r.applPtr + count1 ≤ r.bufferSize
  | .copying rd count1 => count1 ≤ rd.count ∧ r.applPtr + count1 ≤ r.bufferSize ∧ count1 ≤ r.avail
  | .copied _ bytes => bytes.length ≤ r.avail ∧ r.waiting.take bytes.length = bytes

/-- The bytes that were accepted are those returned, those of the call that goes on and those that
    wait in the buffer. -/
structure Kept (s : Input) : Prop where
  ring : s.runtime.InputRing
  order : s.accepted = s.returned ++ s.reader.out ++ s.runtime.waiting

structure Inv (s : Input) : Prop extends Kept s where
  opened : s.sub.opened = true
  reader : ReaderFits s.runtime s.reader

/-- A call of `snd_rawmidi_receive` takes what there is room for, and counts the rest. -/
structure Receives (s : Input) (data : List Byte) (s' : Input) : Prop where
  result : (s.sub.sndRawmidiReceive data).1 = (min data.length (s.runtime.bufferSize - s.runtime.avail) : Nat)
  accepted : s'.accepted = s.accepted ++ data.take (min data.length (s.runtime.bufferSize - s.runtime.avail))
  xruns : s'.runtime.xruns =
    s.runtime.xruns + (data.length - min data.length (s.runtime.bufferSize - s.runtime.avail))

theorem ReaderFits.stored {r r' : SndRawmidiRuntime} {data : List Byte} {reader : Reader}
    (fits : ReaderFits r reader) (stored : r.Stored data r') : ReaderFits r' reader := by
  have size := stored.size
  have appl := stored.appl
  have more := stored.avail
  cases reader with
  | outside => trivial
  | loop rd => trivial
  | chunk rd count1 =>
    obtain ⟨count, straight⟩ := fits
    exact ⟨count, by omega⟩
  | copying rd count1 =>
    obtain ⟨count, straight, short⟩ := fits
    exact ⟨count, by omega, by omega⟩
  | copied rd bytes =>
    obtain ⟨short, first⟩ := fits
    refine ⟨by omega, ?_⟩
    rw [stored.waiting, List.take_append_of_le_length, first]
    rw [SndRawmidiRuntime.waiting, length_window]
    exact short

theorem Inv.receive (inv : s.Inv) (data : List Byte) :
    Receives s data (s.receive data) ∧ (s.receive data).Inv := by
  have same : s.runtime.receive data = s.runtime.receiveBytes data := SndRawmidiRuntime.receive_eq inv.ring
  obtain ⟨count, stored, lost⟩ := SndRawmidiRuntime.receiveBytes_stored data inv.ring
  rw [← same] at count stored lost
  have accepts : s.sub.sndRawmidiReceive data = (((s.runtime.receive data).1 : Int),
      { s.sub with bytes := s.sub.bytes + data.length, runtime := (s.runtime.receive data).2 }) := by
    rw [SndRawmidiSubstream.sndRawmidiReceive, if_pos inv.opened]
    rfl
  have after : s.receive data = { s with
      sub := { s.sub with bytes := s.sub.bytes + data.length, runtime := (s.runtime.receive data).2 }
      accepted := s.accepted ++ data.take (s.runtime.receive data).1 } := by
    rw [Input.receive, accepts]
    rfl
  rw [after]
  refine ⟨⟨?_, ?_, ?_⟩, ⟨⟨stored.ring inv.ring, ?_⟩, inv.opened, inv.reader.stored stored⟩⟩
  · rw [accepts, count]
  · rw [count]
  · rw [count] at lost
    exact lost
  · show s.accepted ++ data.take (s.runtime.receive data).1 =
      s.returned ++ s.reader.out ++ (s.runtime.receive data).2.waiting
    rw [stored.waiting, inv.order, List.append_assoc _ _ (data.take _)]

theorem Inv.move (inv : s.Inv) {reader : Reader} (same : reader.out = s.reader.out)
    (fits : ReaderFits s.runtime reader) : Inv { s with reader := reader } where
  ring := inv.ring
  order := by
    show s.accepted = s.returned ++ reader.out ++ s.runtime.waiting
    rw [same, inv.order]
  opened := inv.opened
  reader := fits

theorem Inv.finish (inv : s.Inv) {rd : Reading} (same : s.reader.out = rd.out) : (s.finish rd).Inv where
  ring := inv.ring
  order := by
    show s.accepted = s.returned ++ rd.out ++ [] ++ s.runtime.waiting
    rw [List.append_nil, ← same, inv.order]
  opened := inv.opened
  reader := trivial

theorem Inv.advance (inv : s.Inv) {rd : Reading} {bytes : List Byte} (same : s.reader.out = rd.out)
    (short : bytes.length ≤ s.runtime.avail) (first : s.runtime.waiting.take bytes.length = bytes) :
    (s.advance rd bytes).Inv := by
  obtain ⟨ring, rest⟩ := inv.ring.readAdvance short
  refine ⟨⟨ring, ?_⟩, inv.opened, trivial⟩
  show s.accepted = s.returned ++ (rd.out ++ bytes) ++ (s.runtime.readAdvance bytes.length).waiting
  have whole : bytes ++ s.runtime.waiting.drop bytes.length = s.runtime.waiting := by
    conv_rhs => rw [← List.take_append_drop bytes.length s.runtime.waiting, first]
  rw [rest, inv.order, same, List.append_assoc, List.append_assoc, List.append_assoc, whole]

theorem Inv.exec (inv : s.Inv) (op : InputOp) : (s.exec op).Inv := by
  have fits := inv.reader
  cases op with
  | receive data => exact (inv.receive data).2
  | read kernel count =>
    rw [Input.exec]
    split
    · rename_i outside
      exact inv.move (by rw [outside]; rfl) trivial
    · exact inv
  | test =>
    rw [Input.exec]
    split
    · rename_i rd looping
      rw [Input.test]
      split
      · have appl := inv.ring.appl
        exact inv.move (by rw [looping]; rfl) ⟨by omega, by omega⟩
      · exact inv.finish (by rw [looping]; rfl)
    · exact inv
  | enter =>
    rw [Input.exec]
    split
    · rename_i rd count1 chunked
      rw [chunked] at fits
      obtain ⟨count, straight⟩ := fits
      rw [Input.enter]
      split
      · apply inv.advance (by rw [chunked]; rfl)
        · rw [chunkBytes, length_copyOut]
          omega
        · rw [chunkBytes, length_copyOut]
          exact SndRawmidiRuntime.take_waiting (by omega) (by omega)
      · exact inv.move (by rw [chunked]; rfl) ⟨by omega, by omega, by omega⟩
    · exact inv
  | copy fault =>
    rw [Input.exec]
    split
    · rename_i rd count1 copying
      rw [copying] at fits
      obtain ⟨-, straight, short⟩ := fits
      rw [Input.copy]
      split
      · exact inv.finish (by rw [copying]; rfl)
      · apply inv.move (by rw [copying]; rfl)
        refine ⟨by rwa [chunkBytes, length_copyOut], ?_⟩
        rw [chunkBytes, length_copyOut]
        exact SndRawmidiRuntime.take_waiting short straight
    · exact inv
  | advance =>
    rw [Input.exec]
    split
    · rename_i rd bytes copied
      rw [copied] at fits
      exact inv.advance (by rw [copied]; rfl) fits.1 fits.2
    · exact inv

structure StepKept (s : Input) (op : InputOp) (s' : Input) : Prop where
  kept : s'.Kept
  below : s'.runtime.hwPtr < s'.runtime.bufferSize
  receives : ∀ data, op = .receive data → Receives s data s'
  fast : ∀ b, s'.runtime.receiveByte b = s'.runtime.receiveBytes [b]

theorem Inv.run (inv : s.Inv) (ops : List InputOp) : Throughout Input.exec StepKept s ops := by
  apply (Throughout.of_mem (P := fun _ _ _ => True) fun _ _ _ => trivial).steps Inv inv
  intro s op inv _
  have inv' := inv.exec op
  refine ⟨⟨inv'.toKept, inv'.ring.hw_lt, fun data receive => ?_, SndRawmidiRuntime.receiveByte_eq inv'.ring⟩, inv'⟩
  subst receive
  exact (inv.receive data).1

def fresh (buffer : Nat → Byte) (size : Nat) (sized : BufferSize size) : Input where
  sub := ⟨true, false, 0, ⟨buffer, size, 0, 0, 0, 0, sized⟩⟩
  reader := .outside
  accepted := []
  returned := []

theorem fresh_inv (buffer : Nat → Byte) (size : Nat) (sized : BufferSize size) : (fresh buffer size sized).Inv where
  ring := ⟨Nat.zero_le _, SndRawmidiRuntime.size_pos _, (Nat.zero_mod _).symm⟩
  order := rfl
  opened := rfl
  reader := trivial

end Input

end AlsaDriver.Rawmidi
