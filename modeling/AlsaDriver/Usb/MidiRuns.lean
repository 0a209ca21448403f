import Mathlib.Algebra.Order.BigOperators.Group.List
import Mathlib.Algebra.Order.Ring.Nat
import AlsaDriver.Usb.MidiMessages

namespace AlsaDriver.Usb

namespace UsbmidiOutPort

variable {port : UsbmidiOutPort} {c : Nat} (cable : port.cable = c <<< 4)

theorem transmit_cable (b : Nat) : (port.transmitByte b).1.cable = port.cable := by
  unfold transmitByte
  split
  · rfl
  · split
    · unfold transmitCommon
      split <;> rfl
    · split
      · rfl
      · unfold transmitData
        split
        · rfl
        · split <;> rfl
        · rfl
        · split <;> rfl
        · rfl
        · rfl
        · rfl

def Low (port : UsbmidiOutPort) : Prop := port.data0 < 0xf8 ∧ port.data1 < 0xf8

theorem transmit_low (low : port.Low) {b : Nat} (below : b < 0xf8) : (port.transmitByte b).1.Low := by
  unfold transmitByte
  rw [if_neg (by omega)]
  split
  · unfold transmitCommon
    split
    · exact ⟨below, low.2⟩
    · exact ⟨below, low.2⟩
    · exact ⟨below, low.2⟩
    · exact ⟨below, low.2⟩
    · exact low
    · exact low
    · exact low
    · exact low
    · exact low
  · split
    · exact ⟨below, low.2⟩
    · unfold transmitData
      split
      · exact low
      · split
        · exact low
        · exact low
      · exact ⟨low.1, below⟩
      · split
        · exact low
        · exact low
      · exact ⟨below, low.2⟩
      · exact ⟨low.1, below⟩
      · exact low

/-- The packet for a byte has the cable of its port, a code index that counts some bytes, and data below 0xf8 unless
    the byte is a real time one. -/
structure WellFormed (port : UsbmidiOutPort) (b : Nat) (packet : MidiPacket) : Prop where
  header : ∃ cin, 2 ≤ cin ∧ cin < 16 ∧ packet.p0 = port.cable ||| cin
  low : b < 0xf8 → packet.p1 < 0xf8 ∧ packet.p2 < 0xf8 ∧ packet.p3 < 0xf8

theorem channel_wellFormed {b : Nat} (status : 0x80 ≤ port.data0) (channel : port.data0 < 0xf0) (p2 p3 : Nat)
    (low : b < 0xf8 → p2 < 0xf8 ∧ p3 < 0xf8) :
    WellFormed port b ⟨port.cable ||| port.data0 >>> 4, port.data0, p2, p3⟩ := by
  refine ⟨⟨port.data0 >>> 4, ?_, (channel_cin status channel).1, rfl⟩, fun below => ⟨?_, low below⟩⟩
  · rw [Nat.shiftRight_eq_div_pow]
    omega
  · show port.data0 < 0xf8
    omega

theorem transmit_wellFormed (keeps : port.Keeps) (held : port.Low) {b : Nat} {packet : MidiPacket}
    (sent : (port.transmitByte b).2 = some packet) : WellFormed port b packet := by
  have nothing {P : Prop} (none_ : none = some packet) : P := absurd none_.symm (Option.some_ne_none _)
  obtain ⟨low, low'⟩ := held
  unfold Keeps at keeps
  unfold transmitByte at sent
  split at sent
  · obtain rfl := Option.some.inj sent
    exact ⟨⟨0x0f, by decide, by decide, rfl⟩, fun below => absurd below (by omega)⟩
  · split at sent
    · unfold transmitCommon at sent
      split at sent
      · exact nothing sent
      · exact nothing sent
      · exact nothing sent
      · exact nothing sent
      · exact nothing sent
      · exact nothing sent
      · obtain rfl := Option.some.inj sent
        exact ⟨⟨0x05, by decide, by decide, rfl⟩, fun _ => show 0xf6 < 0xf8 ∧ 0 < 0xf8 ∧ 0 < 0xf8 by decide⟩
      · dsimp only at sent
        split at sent
        · obtain rfl := Option.some.inj sent
          exact ⟨⟨0x05, by decide, by decide, rfl⟩, fun _ => show 0xf7 < 0xf8 ∧ 0 < 0xf8 ∧ 0 < 0xf8 by decide⟩
        · obtain rfl := Option.some.inj sent
          exact ⟨⟨0x06, by decide, by decide, rfl⟩, fun _ => ⟨low, show 0xf7 < 0xf8 by decide, show 0 < 0xf8 by decide⟩⟩
        · obtain rfl := Option.some.inj sent
          exact ⟨⟨0x07, by decide, by decide, rfl⟩, fun _ => ⟨low, low', show 0xf7 < 0xf8 by decide⟩⟩
        · exact nothing sent
      · exact nothing sent
    · split at sent
      · exact nothing sent
      · unfold transmitData at sent
        split at sent
        · exact nothing sent
        · rename_i state
          rw [state] at keeps
          split at sent
          · rename_i channel
            obtain rfl := Option.some.inj sent
            unfold OneParam at keeps
            exact channel_wellFormed (by omega) channel b 0 fun below => ⟨below, by decide⟩
          · obtain rfl := Option.some.inj sent
            exact ⟨⟨0x02, by decide, by decide, rfl⟩, fun below => ⟨low, below, show 0 < 0xf8 by decide⟩⟩
        · exact nothing sent
        · rename_i state
          rw [state] at keeps
          split at sent
          · rename_i channel
            obtain rfl := Option.some.inj sent
            have two := keeps.1
            unfold TwoParam at two
            exact channel_wellFormed (by omega) channel port.data1 b fun below => ⟨low', below⟩
          · obtain rfl := Option.some.inj sent
            exact ⟨⟨0x03, by decide, by decide, rfl⟩, fun below => ⟨low, low', below⟩⟩
        · exact nothing sent
        · exact nothing sent
        · obtain rfl := Option.some.inj sent
          exact ⟨⟨0x04, by decide, by decide, rfl⟩, fun below => ⟨low, low', below⟩⟩

theorem transmit_kept (keeps : port.Keeps) (low : port.Low) (cable : port.cable = c <<< 4) (b : Nat) :
    (port.transmitByte b).1.Keeps ∧ (port.transmitByte b).1.Low := by
  by_cases high : 0xf8 ≤ b
  · rw [(transmit_realTime high cable).1]
    exact ⟨keeps, low⟩
  · exact ⟨(transmit_steps keeps cable (Nat.lt_of_not_le high)).keeps, transmit_low low (Nat.lt_of_not_le high)⟩

theorem spoken_low (keeps : port.Keeps) (held : port.Low) {b : Nat} (below : b < 0xf8) : ∀ x ∈ port.spoken b, x < 0xf8 := by
  intro x inside
  unfold spoken at inside
  cases sent : (port.transmitByte b).2 with
  | none =>
    rw [sent] at inside
    exact absurd inside List.not_mem_nil
  | some packet =>
    rw [sent] at inside
    obtain ⟨low1, low2, low3⟩ := (transmit_wellFormed keeps held sent).low below
    have among : x ∈ [packet.p1, packet.p2, packet.p3] := List.mem_of_mem_take inside
    simp only [List.mem_cons, List.not_mem_nil, or_false] at among
    obtain rfl | rfl | rfl := among
    · exact low1
    · exact low2
    · exact low3

end UsbmidiOutPort

namespace MidiLayout

open UsbmidiOutPort

theorem header_bytes : ∀ c < 16, ∀ cin < 16, 2 ≤ cin →
    (c <<< 4 ||| cin) ≠ 0 ∧ (c <<< 4 ||| cin) >>> 4 = c ∧
      ((c <<< 4 ||| cin) &&& 0xf0 ||| cinLength cin) ≠ 0 ∧ ((c <<< 4 ||| cin) &&& 0xf0 ||| cinLength cin) >>> 4 = c ∧
      ((c <<< 4 ||| cin) &&& 0xf0 ||| cinLength cin) &&& 3 = cinLength cin := by
  decide +kernel

theorem input_packet (layout : MidiLayout) {c cin : Nat} (known : c < 16) (low : 2 ≤ cin) (high : cin < 16)
    {packet : MidiPacket} (header : packet.p0 = c <<< 4 ||| cin) (rest : List Nat) :
    layout.input (layout.outputPacket packet ++ rest) = (c, packetData packet) :: layout.input rest := by
  obtain ⟨some_, cable, some', cable', length⟩ := header_bytes c known cin high low
  have index := nibble_cin c high
  cases layout with
  | standard =>
    show (if packet.p0 ≠ 0 then _ else _) ++ _ = _
    rw [header, if_pos some_, cable, packetData, header]
    rfl
  | midiman =>
    show (if packet.p0 &&& 0xf0 ||| cinLength (packet.p0 &&& 0x0f) ≠ 0 then _ else _) ++ _ = _
    rw [header, index, if_pos some', cable', length, packetData, header, index]
    rfl

theorem outputPacket_length (layout : MidiLayout) (packet : MidiPacket) : (layout.outputPacket packet).length = 4 := by
  cases layout <;> rfl

theorem input_append (layout : MidiLayout) {urb : List Nat} (whole : urb.length % 4 = 0) (rest : List Nat) :
    layout.input (urb ++ rest) = layout.input urb ++ layout.input rest := by
  obtain ⟨n, length⟩ : ∃ n, urb.length = 4 * n := ⟨urb.length / 4, by omega⟩
  clear whole
  induction n generalizing urb with
  | zero =>
    obtain rfl := List.eq_nil_of_length_eq_zero length
    rfl
  | succ n ih =>
    obtain _ | ⟨b0, _ | ⟨b1, _ | ⟨b2, _ | ⟨b3, urb⟩⟩⟩⟩ := urb
    · exact absurd length (by simp)
    · exact absurd length (by simp; omega)
    · exact absurd length (by simp; omega)
    · exact absurd length (by simp; omega)
    · show _ ++ layout.input (urb ++ rest) = _
      rw [ih (by simp only [List.length_cons] at length; omega), ← List.append_assoc]
      rfl

end MidiLayout

/-- What the packets of an URB carry on cable `c`. -/
def heard (layout : MidiLayout) (urb : List Nat) (c : Nat) : List Nat :=
  (layout.input urb).flatMap fun data => if data.1 = c then data.2 else []

theorem heard_append (layout : MidiLayout) {urb : List Nat} (whole : urb.length % 4 = 0) (rest : List Nat) (c : Nat) :
    heard layout (urb ++ rest) c = heard layout urb c ++ heard layout rest c := by
  rw [heard, layout.input_append whole, List.flatMap_append]
  rfl

section carries

variable {stream received : List Nat}

structure Told (stream received : List Nat) (port : UsbmidiOutPort) : Prop where
  keeps : port.Keeps
  low : port.Low
  told : ∀ rest, (messages wholeGroups none (withoutRealTime stream ++ rest)).flatten =
    withoutRealTime received ++ port.expect rest
  realTime : received.filter isRealTime = stream.filter isRealTime
  prefixes : ∀ before after, stream = before ++ after →
    ∃ first last, received = first ++ last ∧ Carries wholeGroups before first

theorem hasData_nil (status : Nat) : ¬ hasData (commonParams status) [] := by
  intro has
  have length := has.1
  rw [List.take_nil, List.length_nil] at length
  unfold commonParams at length
  split at length
  · exact absurd length (by decide)
  · exact absurd length (by decide)

theorem expect_nil {port : UsbmidiOutPort} (keeps : port.Keeps) : port.expect [] = [] := by
  unfold UsbmidiOutPort.Keeps at keeps
  unfold UsbmidiOutPort.expect
  cases state : port.state with
  | unknown => exact congrArg List.flatten (messages_nil _ _)
  | oneParam =>
    rw [state] at keeps
    dsimp only at keeps ⊢
    unfold OneParam at keeps
    by_cases common : port.data0 = 0xf1 ∨ port.data0 = 0xf3
    · rw [messages_common _ _ _ (by omega), if_neg (hasData_nil port.data0), messages_nil]
      rfl
    · rw [messages_channel _ _ _ (by omega) (by omega), messages_nil]
      rfl
  | twoParam1 =>
    rw [state] at keeps
    dsimp only at keeps ⊢
    unfold TwoParam at keeps
    by_cases common : port.data0 = 0xf2
    · rw [messages_common _ _ _ (by omega), if_neg (hasData_nil port.data0), messages_nil]
      rfl
    · rw [messages_channel _ _ _ (by omega) (by omega), messages_nil]
      rfl
  | twoParam2 =>
    rw [state] at keeps
    obtain ⟨two, data⟩ := keeps
    dsimp only
    unfold TwoParam at two
    have short : ¬ hasData 2 [port.data1] := fun has => by simp [hasData] at has
    by_cases common : port.data0 = 0xf2
    · have params : commonParams port.data0 = 2 := if_pos common
      rw [messages_common _ _ _ (by omega), params, if_neg short, messages_unknown _ _ data, messages_nil]
      rfl
    · have params : channelParams port.data0 = 2 := if_neg (by omega)
      rw [messages_channel _ _ _ (by omega) (by omega), messages_short _ _ data (by rwa [params]), messages_nil]
      rfl
  | sysex0 => simp [UsbmidiOutPort.sysexRest, messages_nil]
  | sysex1 => simp [UsbmidiOutPort.sysexRest, messages_nil]
  | sysex2 => simp [UsbmidiOutPort.sysexRest, messages_nil]

theorem Told.carries {port : UsbmidiOutPort} (told : Told stream received port) : Carries wholeGroups stream received := by
  have all := told.told []
  rw [List.append_nil, expect_nil told.keeps, List.append_nil] at all
  exact ⟨all.symm, told.realTime⟩

theorem Told.timely {port : UsbmidiOutPort} (told : Told stream received port) : Timely wholeGroups stream received :=
  ⟨told.carries, told.prefixes⟩

theorem withoutRealTime_append (a b : List Nat) : withoutRealTime (a ++ b) = withoutRealTime a ++ withoutRealTime b :=
  List.filter_append ..

theorem without_low {bytes : List Nat} (all : ∀ x ∈ bytes, x < 0xf8) :
    withoutRealTime bytes = bytes ∧ bytes.filter isRealTime = [] := by
  constructor
  · apply List.filter_eq_self.mpr
    intro x inside
    simp [isRealTime, all x inside]
  · apply List.filter_eq_nil_iff.mpr
    intro x inside
    simp [isRealTime, all x inside]

theorem Told.step {port : UsbmidiOutPort} (told : Told stream received port) {c : Nat} (cable : port.cable = c <<< 4) (b : Nat) :
    Told (stream ++ [b]) (received ++ port.spoken b) (port.transmitByte b).1 := by
  obtain ⟨keeps, low⟩ := UsbmidiOutPort.transmit_kept told.keeps told.low cable b
  obtain ⟨expected, realTime⟩ :
      (∀ rest, (messages wholeGroups none (withoutRealTime (stream ++ [b]) ++ rest)).flatten =
        withoutRealTime (received ++ port.spoken b) ++ (port.transmitByte b).1.expect rest) ∧
      (received ++ port.spoken b).filter isRealTime = (stream ++ [b]).filter isRealTime := by
    by_cases high : 0xf8 ≤ b
    · obtain ⟨same, spoken⟩ := UsbmidiOutPort.transmit_realTime high cable
      have drop : isRealTime b = true := decide_eq_true high
      rw [same, spoken, withoutRealTime_append, withoutRealTime_append, List.filter_append, List.filter_append,
        told.realTime]
      have gone : withoutRealTime [b] = [] := by simp [withoutRealTime, drop]
      rw [gone, List.append_nil, List.append_nil]
      exact ⟨told.told, rfl⟩
    · have steps := UsbmidiOutPort.transmit_steps told.keeps cable (Nat.lt_of_not_le high)
      obtain ⟨same, none_⟩ :=
        without_low (UsbmidiOutPort.spoken_low told.keeps told.low (Nat.lt_of_not_le high))
      obtain ⟨same', none'⟩ := @without_low [b] fun x inside => by
        rw [List.mem_singleton.mp inside]
        exact Nat.lt_of_not_le high
      refine ⟨fun rest => ?_, ?_⟩
      · rw [withoutRealTime_append, withoutRealTime_append, same, same', List.append_assoc, told.told, List.append_assoc,
          List.singleton_append, steps.told]
      · rw [List.filter_append, List.filter_append, none_, none', told.realTime]
  have carries : Carries wholeGroups (stream ++ [b]) (received ++ port.spoken b) := by
    have all := expected []
    rw [List.append_nil, expect_nil keeps, List.append_nil] at all
    exact ⟨all.symm, realTime⟩
  refine ⟨keeps, low, expected, realTime, fun before after split => ?_⟩
  obtain rfl | ⟨after, last, rfl⟩ := List.eq_nil_or_concat after
  · rw [List.append_nil] at split
    subst split
    exact ⟨_, [], (List.append_nil _).symm, carries⟩
  · rw [List.concat_eq_append, ← List.append_assoc] at split
    obtain ⟨same, -⟩ := List.append_inj' split rfl
    obtain ⟨first, rest, received_, carried⟩ := told.prefixes before after same
    exact ⟨first, rest ++ port.spoken b, by rw [received_, List.append_assoc], carried⟩

end carries

theorem heard_byte (layout : MidiLayout) {port : UsbmidiOutPort} {c : Nat} (known : c < 16) (cable : port.cable = c <<< 4)
    (keeps : port.Keeps) (low : port.Low) (b k : Nat) :
    heard layout ((port.transmitByte b).2.elim [] fun packet => layout.outputPacket packet) k =
      if k = c then port.spoken b else [] := by
  unfold UsbmidiOutPort.spoken
  cases sent : (port.transmitByte b).2 with
  | none =>
    have nothing : layout.input [] = [] := rfl
    simp [heard, nothing]
  | some packet =>
    obtain ⟨cin, least, most, header⟩ := (UsbmidiOutPort.transmit_wellFormed keeps low sent).header
    rw [cable] at header
    have read := layout.input_packet known least most header []
    rw [List.append_nil] at read
    show heard layout (layout.outputPacket packet) k = if k = c then UsbmidiOutPort.packetData packet else []
    rw [heard, read, List.flatMap_cons]
    have nothing : layout.input [] = [] := rfl
    rw [nothing, List.flatMap_nil, List.append_nil]
    by_cases same : k = c
    · rw [if_pos same, if_pos same.symm]
    · rw [if_neg same, if_neg (Ne.symm same)]

namespace UsbmidiOutPort

structure Sent (layout : MidiLayout) (maxTransfer : Nat) (port : UsbmidiOutPort) (c : Nat) (urb bytes : List Nat)
    (sent : UsbmidiOutPort × List Nat) : Prop where
  whole : sent.2.length % 4 = 0
  cable : sent.1.cable = port.cable
  others : ∀ k, k ≠ c → heard layout sent.2 k = heard layout urb k
  told : ∀ stream received, Told stream (received ++ heard layout urb c) port →
    ∃ taken, bytes = taken ++ sent.1.substream ∧ Told (stream ++ taken) (received ++ heard layout sent.2 c) sent.1
  active : sent.1.substream ≠ [] → sent.1.active = port.active
  progress : urb.length + 3 < maxTransfer → bytes ≠ [] → sent.1.substream.length < bytes.length
  shorter : sent.1.substream.length ≤ bytes.length

theorem transmit_active (port : UsbmidiOutPort) (b : Nat) : (port.transmitByte b).1.active = port.active := by
  unfold transmitByte
  split
  · rfl
  · split
    · unfold transmitCommon
      split <;> rfl
    · split
      · rfl
      · unfold transmitData
        split
        · rfl
        · split <;> rfl
        · rfl
        · split <;> rfl
        · rfl
        · rfl
        · rfl

theorem Told.withSubstream {stream received : List Nat} {port : UsbmidiOutPort} (told : Told stream received port)
    (substream : List Nat) (active : Bool) : Told stream received { port with substream, active } :=
  ⟨told.keeps, told.low, told.told, told.realTime, told.prefixes⟩

theorem output_sent (layout : MidiLayout) (maxTransfer : Nat) {port : UsbmidiOutPort} {c : Nat} (known : c < 16)
    (cable : port.cable = c <<< 4) (keeps : port.Keeps) (low : port.Low) {urb : List Nat} (whole : urb.length % 4 = 0)
    (bytes : List Nat) : Sent layout maxTransfer port c urb bytes (port.output layout maxTransfer urb bytes) := by
  induction bytes generalizing port urb with
  | nil =>
    rw [output]
    refine ⟨whole, rfl, fun _ _ => rfl, fun stream received told => ⟨[], rfl, ?_⟩, fun some_ => absurd rfl some_,
      fun _ some_ => absurd rfl some_, Nat.le_refl _⟩
    rw [List.append_nil]
    exact Told.withSubstream told _ _
  | cons b rest ih =>
    rw [output]
    split
    · rename_i room
      have packet : ((port.transmitByte b).2.elim [] fun packet => layout.outputPacket packet).length % 4 = 0 := by
        cases (port.transmitByte b).2 with
        | none => rfl
        | some packet => exact congrArg (· % 4) (layout.outputPacket_length packet)
      obtain ⟨keeps', low'⟩ := transmit_kept keeps low cable b
      have heard_ (k : Nat) : heard layout (urb ++ (port.transmitByte b).2.elim [] fun packet => layout.outputPacket packet) k =
          heard layout urb k ++ if k = c then port.spoken b else [] := by
        rw [heard_append layout whole, heard_byte layout known cable keeps low]
      have whole' : (urb ++ (port.transmitByte b).2.elim [] fun packet => layout.outputPacket packet).length % 4 = 0 := by
        rw [List.length_append]
        omega
      have rest_ := ih ((transmit_cable b).trans cable) keeps' low' whole'
      refine ⟨rest_.whole, rest_.cable.trans (transmit_cable b), fun k other => ?_, fun stream received told => ?_,
        fun some_ => (rest_.active some_).trans (transmit_active port b), fun _ _ => Nat.lt_succ_of_le rest_.shorter,
        Nat.le_succ_of_le rest_.shorter⟩
      · rw [rest_.others k other, heard_, if_neg other, List.append_nil]
      · have step := told.step cable b
        obtain ⟨taken, all, told'⟩ := rest_.told (stream ++ [b]) received (by
          rwa [heard_, if_pos rfl, ← List.append_assoc])
        refine ⟨b :: taken, by rw [List.cons_append, ← all], ?_⟩
        rwa [List.append_assoc, List.singleton_append] at told'
    · rename_i full
      refine ⟨whole, rfl, fun _ _ => rfl, fun stream received told => ⟨[], rfl, ?_⟩, fun _ => rfl,
        fun room _ => absurd room full, Nat.le_refl _⟩
      rw [List.append_nil]
      exact Told.withSubstream told _ _

end UsbmidiOutPort

namespace UsbMidi

variable {s : UsbMidi} {layout : MidiLayout} {maxTransfer : Nat}

def bytesTo (c : Nat) : MidiOp → List Nat
  | .write p bytes => if p = c then bytes else []
  | .output => []

/-- The bytes that were written to port `c`. -/
def written (c : Nat) (ops : List MidiOp) : List Nat := ops.flatMap (bytesTo c)

structure PortKept (c : Nat) (stream received : List Nat) (port : UsbmidiOutPort) : Prop where
  cable : port.cable = c <<< 4
  active : port.substream ≠ [] → port.active = true
  told : ∃ taken, stream = taken ++ port.substream ∧ Told taken received port

def Kept (s : UsbMidi) (streams : Nat → List Nat) : Prop :=
  ∀ c < 0x10, PortKept c (streams c) (s.received c) (s.ports c)

structure Filling (layout : MidiLayout) (streams received : Nat → List Nat) (done : (Nat → UsbmidiOutPort) × List Nat) :
    Prop where
  whole : done.2.length % 4 = 0
  ports : ∀ c < 0x10, PortKept c (streams c) (received c ++ heard layout done.2 c) (done.1 c)

theorem Filling.outputPort (maxTransfer : Nat) {streams received : Nat → List Nat} {done : (Nat → UsbmidiOutPort) × List Nat}
    (filling : Filling layout streams received done) {p : Nat} (known : p < 0x10) :
    Filling layout streams received (outputPort layout maxTransfer done p) := by
  unfold UsbMidi.outputPort
  split
  · rename_i active
    obtain ⟨cable, -, taken, all, told⟩ := filling.ports p known
    have sent := UsbmidiOutPort.output_sent layout maxTransfer known cable told.keeps told.low filling.whole (done.1 p).substream
    refine ⟨sent.whole, fun c known' => ?_⟩
    by_cases same : c = p
    · subst same
      obtain ⟨taken', all', told'⟩ := sent.told taken (received c) told
      dsimp only
      rw [if_pos (rfl : c = c)]
      refine ⟨sent.cable.trans cable, fun some_ => (sent.active some_).trans active, taken ++ taken', ?_, told'⟩
      rw [List.append_assoc, ← all', ← all]
    · dsimp only
      rw [if_neg same, sent.others c same]
      exact filling.ports c known'
  · exact filling

theorem Filling.fold {streams received : Nat → List Nat} {ps : List Nat} (known : ∀ p ∈ ps, p < 0x10)
    {done : (Nat → UsbmidiOutPort) × List Nat} (filling : Filling layout streams received done) :
    Filling layout streams received (ps.foldl (UsbMidi.outputPort layout maxTransfer) done) := by
  induction ps generalizing done with
  | nil => exact filling
  | cons p rest ih =>
    exact ih (fun p inside => known p (List.mem_cons_of_mem _ inside)) (filling.outputPort maxTransfer (known p (List.mem_cons_self ..)))

theorem Kept.filling (layout : MidiLayout) {streams : Nat → List Nat} (kept : s.Kept streams) :
    Filling layout streams s.received (s.ports, []) := by
  have nothing (c : Nat) : heard layout [] c = [] := rfl
  refine ⟨rfl, fun c known => ?_⟩
  rw [nothing, List.append_nil]
  exact kept c known

theorem Kept.output {streams : Nat → List Nat} (kept : s.Kept streams) :
    (s.exec layout maxTransfer .output).Kept streams :=
  ((kept.filling layout).fold fun _ inside => List.mem_range.mp inside).ports

theorem Kept.write {streams : Nat → List Nat} (kept : s.Kept streams) (p : Nat) (bytes : List Nat) :
    (s.exec layout maxTransfer (.write p bytes)).Kept fun c => streams c ++ if p = c then bytes else [] := by
  intro c known
  obtain ⟨cable, active, taken, all, told⟩ := kept c known
  rw [exec]
  dsimp only
  by_cases same : c = p
  · subst same
    rw [if_pos rfl, if_pos rfl]
    refine ⟨cable, fun _ => rfl, taken, ?_, UsbmidiOutPort.Told.withSubstream told _ _⟩
    rw [all, List.append_assoc]
  · rw [if_neg same, if_neg (Ne.symm same), List.append_nil]
    exact ⟨cable, active, taken, all, told⟩

theorem Kept.run (layout : MidiLayout) (maxTransfer : Nat) {streams : Nat → List Nat} (kept : s.Kept streams) (ops : List MidiOp) :
    (ops.foldl (exec layout maxTransfer) s).Kept fun c => streams c ++ written c ops := by
  induction ops generalizing s streams with
  | nil =>
    intro c known
    show PortKept c (streams c ++ []) (s.received c) (s.ports c)
    rw [List.append_nil]
    exact kept c known
  | cons op ops ih =>
    have next : (s.exec layout maxTransfer op).Kept fun c => streams c ++ bytesTo c op := by
      cases op with
      | write p bytes => exact kept.write p bytes
      | output =>
        intro c known
        show PortKept c (streams c ++ []) _ _
        rw [List.append_nil]
        exact kept.output c known
    intro c known
    have run : PortKept c (streams c ++ bytesTo c op ++ written c ops) _ _ := ih next c known
    rw [List.append_assoc] at run
    exact run

theorem initial_kept : initial.Kept fun _ => [] := by
  intro c _
  refine ⟨rfl, fun some_ => absurd rfl some_, [], rfl, trivial, ⟨show 0 < 0xf8 by decide, show 0 < 0xf8 by decide⟩, ?_, rfl, ?_⟩
  · intro rest
    rfl
  · intro before after split
    obtain ⟨rfl, -⟩ := List.append_eq_nil_iff.mp split.symm
    refine ⟨[], [], rfl, ?_, rfl⟩
    exact (congrArg List.flatten (messages_nil _ _)).symm

def pending (s : UsbMidi) : Nat := ((List.range 0x10).map fun p => (s.ports p).substream.length).sum

theorem Filling.progress (maxTransfer : Nat) {streams received : Nat → List Nat} {ps : List Nat} (known : ∀ p ∈ ps, p < 0x10)
    {done : (Nat → UsbmidiOutPort) × List Nat} (filling : Filling layout streams received done) :
    (∀ p, ((ps.foldl (UsbMidi.outputPort layout maxTransfer) done).1 p).substream.length ≤ (done.1 p).substream.length) ∧
      (4 ≤ maxTransfer → done.2 = [] → (∃ p ∈ ps, (done.1 p).substream ≠ []) →
        ∃ p < 0x10, ((ps.foldl (UsbMidi.outputPort layout maxTransfer) done).1 p).substream.length <
          (done.1 p).substream.length) := by
  induction ps generalizing done with
  | nil => exact ⟨fun _ => Nat.le_refl _, fun _ _ some_ => absurd some_.choose_spec.1 List.not_mem_nil⟩
  | cons p rest ih =>
    have here := known p (List.mem_cons_self ..)
    obtain ⟨cable, active, taken, all, told⟩ := filling.ports p here
    have sent := UsbmidiOutPort.output_sent layout maxTransfer here cable told.keeps told.low filling.whole (done.1 p).substream
    obtain ⟨shorter, less⟩ := ih (fun q inside => known q (List.mem_cons_of_mem _ inside))
      (filling.outputPort maxTransfer here)
    have first (q : Nat) : ((UsbMidi.outputPort layout maxTransfer done p).1 q).substream.length ≤ (done.1 q).substream.length := by
      unfold UsbMidi.outputPort
      split
      · dsimp only
        split
        · rename_i same
          rw [same]
          exact sent.shorter
        · exact Nat.le_refl _
      · exact Nat.le_refl _
    refine ⟨fun q => Nat.le_trans (shorter q) (first q), fun room empty some_ => ?_⟩
    by_cases none_ : (done.1 p).substream = []
    · have same : (UsbMidi.outputPort layout maxTransfer done p).2 = [] ∧
          ∀ q, (done.1 q).substream ≠ [] → ((UsbMidi.outputPort layout maxTransfer done p).1 q).substream ≠ [] := by
        unfold UsbMidi.outputPort
        split
        · rw [none_]
          refine ⟨empty, fun q some_ => ?_⟩
          have other : q ≠ p := fun same => some_ (same ▸ none_)
          dsimp only
          rwa [if_neg other]
        · exact ⟨empty, fun _ => id⟩
      obtain ⟨q, inside, some_⟩ := some_
      have inside : q ∈ rest := by
        obtain same | inside := List.mem_cons.mp inside
        · exact absurd (same ▸ none_) some_
        · exact inside
      obtain ⟨r, known', less⟩ := less room same.1 ⟨q, inside, same.2 q some_⟩
      exact ⟨r, known', Nat.lt_of_lt_of_le less (first r)⟩
    · refine ⟨p, here, Nat.lt_of_le_of_lt (shorter p) ?_⟩
      unfold UsbMidi.outputPort
      rw [if_pos (active none_)]
      dsimp only
      rw [if_pos (rfl : p = p)]
      exact sent.progress (by rw [empty]; exact room) none_

theorem Kept.output_pending (layout : MidiLayout) {streams : Nat → List Nat} (kept : s.Kept streams) (room : 4 ≤ maxTransfer) :
    (s.exec layout maxTransfer .output).pending ≤ s.pending ∧
      (0 < s.pending → (s.exec layout maxTransfer .output).pending < s.pending) := by
  obtain ⟨shorter, less⟩ := (kept.filling layout).progress maxTransfer
    (fun _ inside => List.mem_range.mp inside)
  refine ⟨List.sum_le_sum fun p _ => shorter p, fun some_ => ?_⟩
  have port : ∃ p ∈ List.range 0x10, (s.ports p).substream ≠ [] := by
    by_contra none_
    have zero : s.pending = 0 := by
      apply List.sum_eq_zero
      intro length inside
      obtain ⟨p, member, rfl⟩ := List.mem_map.mp inside
      by_contra some_
      exact none_ ⟨p, member, fun nil => some_ (congrArg List.length nil)⟩
    omega
  obtain ⟨p, known, less⟩ := less room rfl port
  exact List.sum_lt_sum _ _ (fun p _ => shorter p) ⟨p, List.mem_range.mpr known, less⟩

theorem Kept.drain (layout : MidiLayout) {streams : Nat → List Nat} (kept : s.Kept streams) (room : 4 ≤ maxTransfer) {n : Nat}
    (enough : s.pending ≤ n) :
    ((List.replicate n MidiOp.output).foldl (exec layout maxTransfer) s).pending = 0 := by
  induction n generalizing s with
  | zero => exact Nat.le_zero.mp enough
  | succ n ih =>
    obtain ⟨shorter, less⟩ := kept.output_pending layout room
    refine ih kept.output ?_
    by_cases some_ : 0 < s.pending
    · have := less some_
      omega
    · omega

theorem written_output (c n : Nat) : written c (List.replicate n .output) = [] := by
  induction n with
  | zero => rfl
  | succ n ih => exact ih

theorem substream_of_pending (none_ : s.pending = 0) {p : Nat} (known : p < 0x10) : (s.ports p).substream = [] := by
  have least : (s.ports p).substream.length ≤ s.pending :=
    List.single_le_sum (fun _ _ => Nat.zero_le _) _ (List.mem_map.mpr ⟨p, List.mem_range.mpr known, rfl⟩)
  exact List.eq_nil_of_length_eq_zero (by omega)

/-- On every cable there is, at any time, what the bytes say that the port has taken, and nothing else; once the URBs
    are filled, it has taken all of them. -/
theorem midi_round_trip (layout : MidiLayout) (maxTransfer : Nat) (ops : List MidiOp) (c : Nat) (known : c < 0x10) :
    (∃ taken, written c ops = taken ++ ((ops.foldl (exec layout maxTransfer) initial).ports c).substream ∧
      Timely wholeGroups taken ((ops.foldl (exec layout maxTransfer) initial).received c)) ∧
      ∀ n, 4 ≤ maxTransfer → (ops.foldl (exec layout maxTransfer) initial).pending ≤ n →
        Timely wholeGroups (written c ops)
          (((ops ++ List.replicate n MidiOp.output).foldl (exec layout maxTransfer) initial).received c) := by
  have kept : (ops.foldl (exec layout maxTransfer) initial).Kept fun c => written c ops := initial_kept.run layout maxTransfer ops
  refine ⟨?_, fun n room enough => ?_⟩
  · obtain ⟨-, -, taken, all, told⟩ := kept c known
    exact ⟨taken, all, told.timely⟩
  · have drained := kept.drain layout room enough
    obtain ⟨-, -, taken, all, told⟩ := kept.run layout maxTransfer (List.replicate n .output) c known
    dsimp only at all
    rw [written_output, List.append_nil, substream_of_pending drained known, List.append_nil] at all
    rw [List.foldl_append, all]
    exact told.timely

def interrupted : List MidiOp := [.write 1 [0x90, 60, 0xf8, 100], .write 0 [0xf0, 1, 2, 3, 0xf7], .output]

theorem midi_round_trip_note :
    (∃ taken, written 1 interrupted = taken ++ ((interrupted.foldl (exec .midiman 8) initial).ports 1).substream ∧
      Timely wholeGroups taken ((interrupted.foldl (exec .midiman 8) initial).received 1)) ∧
      Timely wholeGroups (written 1 interrupted)
        (((interrupted ++ List.replicate 4 MidiOp.output).foldl (exec .midiman 8) initial).received 1) :=
  (midi_round_trip .midiman 8 interrupted 1 (by decide)).imp_right fun drained => drained 4 (by decide) (by decide +kernel)

def cutSysex : List MidiOp := [.write 0 [0xf0, 1, 2, 0x90], .output]

/-- The first bytes of a system exclusive message that is cut off have been sent. -/
theorem cut_sysex_sent : ¬ ∀ (layout : MidiLayout) (maxTransfer : Nat) (ops : List MidiOp) (c : Nat), c < 0x10 →
    ∀ n, 4 ≤ maxTransfer → (ops.foldl (exec layout maxTransfer) initial).pending ≤ n →
      Timely (fun _ => []) (written c ops)
        (((ops ++ List.replicate n MidiOp.output).foldl (exec layout maxTransfer) initial).received c) := by
  intro all
  have sent := (all .standard 64 cutSysex 0 (by decide) 0 (by decide)
    (by decide +kernel)).all.messages
  have nothing : messages (fun _ => []) none (withoutRealTime (written 0 cutSysex)) = [] := by
    have stream : withoutRealTime (written 0 cutSysex) = [0xf0, 1, 2, 0x90] := by
      decide +kernel
    rw [stream, messages_sysex, if_neg (by decide)]
    show messages _ none [0x90] = []
    rw [messages_channel _ _ _ (by decide) (by decide), messages_nil]
  rw [nothing] at sent
  exact absurd sent (by decide +kernel)

end UsbMidi

end AlsaDriver.Usb
