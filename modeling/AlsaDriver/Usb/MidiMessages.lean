import Mathlib.Data.List.TakeWhile
import AlsaDriver.Usb.Midi

namespace AlsaDriver.Usb

def isData (b : Nat) : Bool := decide (b < 0x80)

def channelParams (status : Nat) : Nat := if 0xc0 ≤ status ∧ status ≤ 0xdf then 1 else 2

def commonParams (status : Nat) : Nat := if status = 0xf2 then 2 else 1

/-- Whether the bytes start with `n` data bytes. -/
def hasData (n : Nat) (bytes : List Nat) : Prop := (bytes.take n).length = n ∧ ∀ b ∈ bytes.take n, b < 0x80

instance (n : Nat) (bytes : List Nat) : Decidable (hasData n bytes) := inferInstanceAs (Decidable (_ ∧ _))

/-- The complete messages in bytes below 0xf8, with the running status written out. `cut` tells what there is of a
    system exclusive message that has no end. -/
def messages (cut : List Nat → List (List Nat)) (running : Option Nat) : List Nat → List (List Nat)
  | [] => []
  | b :: rest =>
    if b < 0x80 then
      match running with
      | none => messages cut none rest
      | some status =>
        if hasData (channelParams status) (b :: rest) then
          (status :: (b :: rest).take (channelParams status)) ::
            messages cut running (rest.drop (channelParams status - 1))
        else messages cut running rest
    else if b < 0xf0 then messages cut (some b) rest
    else if b = 0xf0 then
      if (rest.dropWhile isData).head? = some 0xf7 then
        (b :: rest.takeWhile isData ++ [0xf7]) :: messages cut none (rest.dropWhile isData).tail
      else cut (b :: rest.takeWhile isData) ++ messages cut none (rest.dropWhile isData)
    else if b = 0xf1 ∨ b = 0xf2 ∨ b = 0xf3 then
      if hasData (commonParams b) rest then
        (b :: rest.take (commonParams b)) :: messages cut none (rest.drop (commonParams b))
      else messages cut none rest
    else if b = 0xf6 then [b] :: messages cut none rest
    else messages cut none rest
termination_by bytes => bytes.length
decreasing_by
  all_goals simp only [List.length_cons, List.length_drop, List.length_tail]
  all_goals have shorter := List.length_dropWhile_le isData rest
  all_goals omega

def wholeGroups (bytes : List Nat) : List (List Nat) := [bytes.take (bytes.length / 3 * 3)]

def isRealTime (b : Nat) : Bool := decide (0xf8 ≤ b)

def withoutRealTime (bytes : List Nat) : List Nat := bytes.filter fun b => !isRealTime b

structure Carries (cut : List Nat → List (List Nat)) (stream received : List Nat) : Prop where
  messages : withoutRealTime received = (messages cut none (withoutRealTime stream)).flatten
  realTime : received.filter isRealTime = stream.filter isRealTime

structure Timely (cut : List Nat → List (List Nat)) (stream received : List Nat) : Prop where
  all : Carries cut stream received
  prefixes : ∀ before after, stream = before ++ after → ∃ first last, received = first ++ last ∧ Carries cut before first

section cases

variable (cut : List Nat → List (List Nat)) {b : Nat} (rest : List Nat)

theorem messages_nil (running : Option Nat) : messages cut running [] = [] := by rw [messages]

theorem messages_unknown (data : b < 0x80) : messages cut none (b :: rest) = messages cut none rest := by
  rw [messages, if_pos data]

theorem messages_running (data : b < 0x80) {status : Nat} (has : hasData (channelParams status) (b :: rest)) :
    messages cut (some status) (b :: rest) = (status :: (b :: rest).take (channelParams status)) ::
      messages cut (some status) (rest.drop (channelParams status - 1)) := by
  rw [messages, if_pos data]
  rw [if_pos has]

theorem messages_short (data : b < 0x80) {status : Nat} (short : ¬ hasData (channelParams status) (b :: rest)) :
    messages cut (some status) (b :: rest) = messages cut (some status) rest := by
  rw [messages, if_pos data]
  rw [if_neg short]

theorem messages_channel (running : Option Nat) (status : 0x80 ≤ b) (channel : b < 0xf0) :
    messages cut running (b :: rest) = messages cut (some b) rest := by
  rw [messages.eq_def]
  dsimp only
  rw [if_neg (by omega), if_pos channel]

theorem messages_sysex (running : Option Nat) : messages cut running (0xf0 :: rest) =
    if (rest.dropWhile isData).head? = some 0xf7 then
      (0xf0 :: rest.takeWhile isData ++ [0xf7]) :: messages cut none (rest.dropWhile isData).tail
    else cut (0xf0 :: rest.takeWhile isData) ++ messages cut none (rest.dropWhile isData) := by
  rw [messages.eq_def]
  rfl

theorem messages_common (running : Option Nat) (common : b = 0xf1 ∨ b = 0xf2 ∨ b = 0xf3) :
    messages cut running (b :: rest) =
      if hasData (commonParams b) rest then
        (b :: rest.take (commonParams b)) :: messages cut none (rest.drop (commonParams b))
      else messages cut none rest := by
  rw [messages.eq_def]
  dsimp only
  rw [if_neg (by omega), if_neg (by omega), if_neg (by omega), if_pos common]

theorem messages_tune (running : Option Nat) : messages cut running (0xf6 :: rest) = [0xf6] :: messages cut none rest := by
  rw [messages.eq_def]
  rfl

theorem messages_undefined (running : Option Nat) (undefined_ : b = 0xf4 ∨ b = 0xf5 ∨ 0xf7 ≤ b) :
    messages cut running (b :: rest) = messages cut none rest := by
  rw [messages.eq_def]
  dsimp only
  rw [if_neg (by omega), if_neg (by omega), if_neg (by omega), if_neg (by omega), if_neg (by omega)]

theorem messages_status (running running' : Option Nat) (status : 0x80 ≤ b) :
    messages cut running (b :: rest) = messages cut running' (b :: rest) := by
  have low : ¬ b < 0x80 := by omega
  rw [messages.eq_def cut running, messages.eq_def cut running']
  dsimp only
  rw [if_neg low, if_neg low]

end cases

def OneParam (status : Nat) : Prop := status = 0xf1 ∨ status = 0xf3 ∨ 0xc0 ≤ status ∧ status ≤ 0xdf

def TwoParam (status : Nat) : Prop := status = 0xf2 ∨ 0x80 ≤ status ∧ status < 0xf0 ∧ ¬ (0xc0 ≤ status ∧ status ≤ 0xdf)

theorem hasData_one (b : Nat) (rest : List Nat) : hasData 1 (b :: rest) ↔ b < 0x80 := by
  simp [hasData]

theorem hasData_two (b b' : Nat) (rest : List Nat) : hasData 2 (b :: b' :: rest) ↔ b < 0x80 ∧ b' < 0x80 := by
  simp [hasData]

namespace UsbmidiOutPort

variable (port : UsbmidiOutPort)

/-- What is to come of a system exclusive message the bytes `held` of which were not sent. -/
def sysexRest (held rest : List Nat) : List Nat :=
  if (rest.dropWhile isData).head? = some 0xf7 then
    held ++ rest.takeWhile isData ++ [0xf7] ++ (messages wholeGroups none (rest.dropWhile isData).tail).flatten
  else
    (held ++ rest.takeWhile isData).take ((held ++ rest.takeWhile isData).length / 3 * 3) ++
      (messages wholeGroups none (rest.dropWhile isData)).flatten

def expect (rest : List Nat) : List Nat :=
  match port.state with
  | .unknown => (messages wholeGroups none rest).flatten
  | .oneParam | .twoParam1 => (messages wholeGroups none (port.data0 :: rest)).flatten
  | .twoParam2 => (messages wholeGroups none (port.data0 :: port.data1 :: rest)).flatten
  | .sysex0 => sysexRest [] rest
  | .sysex1 => sysexRest [port.data0] rest
  | .sysex2 => sysexRest [port.data0, port.data1] rest

def Keeps : Prop :=
  match port.state with
  | .oneParam => OneParam port.data0
  | .twoParam1 => TwoParam port.data0
  | .twoParam2 => TwoParam port.data0 ∧ port.data1 < 0x80
  | _ => True

theorem sysexRest_data {b : Nat} (data : b < 0x80) (held rest : List Nat) :
    sysexRest held (b :: rest) = sysexRest (held ++ [b]) rest := by
  have first : isData b = true := decide_eq_true data
  simp only [sysexRest, List.dropWhile_cons_of_pos first, List.takeWhile_cons_of_pos first, List.append_assoc,
    List.singleton_append]

theorem sysexRest_group (a b c : Nat) (rest : List Nat) : sysexRest [a, b, c] rest = [a, b, c] ++ sysexRest [] rest := by
  unfold sysexRest
  split
  · simp
  · have groups (l : List Nat) : ([a, b, c] ++ l).take (([a, b, c] ++ l).length / 3 * 3) = [a, b, c] ++ l.take (l.length / 3 * 3) := by
      have length : ([a, b, c] ++ l).length / 3 * 3 = l.length / 3 * 3 + 3 := by
        simp only [List.length_append, List.length_cons, List.length_nil]
        omega
      rw [length]
      rfl
    rw [groups, List.nil_append, List.append_assoc]

theorem sysexRest_end (held rest : List Nat) :
    sysexRest held (0xf7 :: rest) = held ++ [0xf7] ++ (messages wholeGroups none rest).flatten := by
  have last : isData 0xf7 = false := rfl
  simp [sysexRest, last]

theorem sysexRest_status {b : Nat} (status : 0x80 ≤ b) (other : b ≠ 0xf7) {held : List Nat} (few : held.length < 3)
    (rest : List Nat) : sysexRest held (b :: rest) = (messages wholeGroups none (b :: rest)).flatten := by
  have last : isData b = false := decide_eq_false (by omega)
  have none : held.length / 3 = 0 := Nat.div_eq_of_lt few
  simp [sysexRest, last, other, none]

end UsbmidiOutPort

section parameters

variable (cut : List Nat → List (List Nat)) {status d d' b : Nat} (rest : List Nat)

theorem messages_one_cut (one : OneParam status) (high : 0x80 ≤ b) :
    messages cut none (status :: b :: rest) = messages cut none (b :: rest) := by
  by_cases common : status = 0xf1 ∨ status = 0xf3
  · have params : commonParams status = 1 := if_neg (by omega)
    rw [messages_common cut (b :: rest) none (by omega), params, if_neg fun has => absurd ((hasData_one b rest).mp has) (by omega)]
  · have channel : 0xc0 ≤ status ∧ status ≤ 0xdf := by
      unfold OneParam at one
      omega
    rw [messages_channel cut (b :: rest) none (by omega) (by omega), messages_status cut rest _ none high]

theorem messages_one (one : OneParam status) (data : d < 0x80) : messages cut none (status :: d :: rest) =
    [status, d] :: if status < 0xf0 then messages cut none (status :: rest) else messages cut none rest := by
  by_cases common : status = 0xf1 ∨ status = 0xf3
  · have params : commonParams status = 1 := if_neg (by omega)
    rw [messages_common cut (d :: rest) none (by omega), params, if_pos ((hasData_one d rest).mpr data), if_neg (by omega)]
    rfl
  · have channel : 0xc0 ≤ status ∧ status ≤ 0xdf := by
      unfold OneParam at one
      omega
    have params : channelParams status = 1 := if_pos channel
    rw [messages_channel cut (d :: rest) none (by omega) (by omega),
      messages_running cut rest data (by rwa [params, hasData_one]), params, if_pos (by omega),
      messages_channel cut rest none (by omega) (by omega)]
    rfl

theorem messages_two_cut (two : TwoParam status) (high : 0x80 ≤ b) :
    messages cut none (status :: b :: rest) = messages cut none (b :: rest) := by
  by_cases common : status = 0xf2
  · have params : commonParams status = 2 := if_pos common
    have short : ¬ hasData 2 (b :: rest) := fun has => absurd (has.2 b (List.mem_cons_self ..)) (by omega)
    rw [messages_common cut (b :: rest) none (by omega), params, if_neg short]
  · have channel : 0x80 ≤ status ∧ status < 0xf0 := by
      unfold TwoParam at two
      omega
    rw [messages_channel cut (b :: rest) none (by omega) (by omega), messages_status cut rest _ none high]

theorem messages_two_cut' (two : TwoParam status) (data : d < 0x80) (high : 0x80 ≤ b) :
    messages cut none (status :: d :: b :: rest) = messages cut none (b :: rest) := by
  have short : ¬ hasData 2 (d :: b :: rest) := by
    rw [hasData_two]
    omega
  by_cases common : status = 0xf2
  · have params : commonParams status = 2 := if_pos common
    rw [messages_common cut _ none (by omega), params, if_neg short, messages_unknown cut _ data]
  · unfold TwoParam at two
    have params : channelParams status = 2 := if_neg (by omega)
    rw [messages_channel cut _ none (by omega) (by omega), messages_short cut _ data (by rwa [params]),
      messages_status cut rest _ none high]

theorem messages_two (two : TwoParam status) (data : d < 0x80) (data' : d' < 0x80) :
    messages cut none (status :: d :: d' :: rest) =
      [status, d, d'] :: if status < 0xf0 then messages cut none (status :: rest) else messages cut none rest := by
  have has : hasData 2 (d :: d' :: rest) := (hasData_two d d' rest).mpr ⟨data, data'⟩
  by_cases common : status = 0xf2
  · have params : commonParams status = 2 := if_pos common
    rw [messages_common cut _ none (by omega), params, if_pos has, if_neg (by omega)]
    rfl
  · unfold TwoParam at two
    have params : channelParams status = 2 := if_neg (by omega)
    rw [messages_channel cut _ none (by omega) (by omega), messages_running cut _ data (by rwa [params]), params,
      if_pos (by omega), messages_channel cut rest none (by omega) (by omega)]
    rfl

end parameters

namespace UsbmidiOutPort

variable {port : UsbmidiOutPort}

theorem expect_status (keeps : port.Keeps) {b : Nat} (status : 0x80 ≤ b) (rest : List Nat)
    (other : b = 0xf7 → port.state ≠ .sysex0 ∧ port.state ≠ .sysex1 ∧ port.state ≠ .sysex2) :
    port.expect (b :: rest) = (messages wholeGroups none (b :: rest)).flatten := by
  unfold expect
  unfold Keeps at keeps
  cases state : port.state with
  | unknown => rfl
  | oneParam =>
    rw [state] at keeps
    exact congrArg List.flatten (messages_one_cut _ rest keeps status)
  | twoParam1 =>
    rw [state] at keeps
    exact congrArg List.flatten (messages_two_cut _ rest keeps status)
  | twoParam2 =>
    rw [state] at keeps
    exact congrArg List.flatten (messages_two_cut' _ rest keeps.1 keeps.2 status)
  | sysex0 => exact sysexRest_status status (fun same => (other same).1 state) (by decide) rest
  | sysex1 =>
    exact @sysexRest_status b status (fun same => (other same).2.1 state) [port.data0] (show 1 < 3 by decide) rest
  | sysex2 =>
    exact @sysexRest_status b status (fun same => (other same).2.2 state) [port.data0, port.data1] (show 2 < 3 by decide)
      rest

theorem nibble_cin (c : Nat) {cin : Nat} (low : cin < 16) : (c <<< 4 ||| cin) &&& 0x0f = cin := by
  rw [← Nat.shiftLeft_add_eq_or_of_lt (show cin < 2 ^ 4 from low), Nat.shiftLeft_eq, show 0x0f = 2 ^ 4 - 1 from rfl,
    Nat.and_two_pow_sub_one_eq_mod]
  omega

def packetData (packet : MidiPacket) : List Nat :=
  [packet.p1, packet.p2, packet.p3].take (cinLength (packet.p0 &&& 0x0f))

theorem packetData_cin (c : Nat) {cin : Nat} (low : cin < 16) (p1 p2 p3 : Nat) :
    packetData ⟨c <<< 4 ||| cin, p1, p2, p3⟩ = [p1, p2, p3].take (cinLength cin) := by
  rw [packetData, nibble_cin c low]

theorem channel_cin {status : Nat} (low : 0x80 ≤ status) (high : status < 0xf0) :
    status >>> 4 < 16 ∧ cinLength (status >>> 4) = channelParams status + 1 := by
  have all : ∀ status < 0xf0, 0x80 ≤ status →
      status >>> 4 < 16 ∧ cinLength (status >>> 4) = channelParams status + 1 := by decide +kernel
  exact all status high low

variable (port)

def spoken (b : Nat) : List Nat := (port.transmitByte b).2.elim [] packetData

variable {port}

theorem transmit_realTime {b : Nat} (high : 0xf8 ≤ b) {c : Nat} (cable : port.cable = c <<< 4) :
    (port.transmitByte b).1 = port ∧ port.spoken b = [b] := by
  rw [spoken, transmitByte, if_pos high, cable]
  exact ⟨rfl, packetData_cin c (by decide) _ _ _⟩

structure Steps (port : UsbmidiOutPort) (b : Nat) : Prop where
  keeps : (port.transmitByte b).1.Keeps
  told : ∀ rest, port.expect (b :: rest) = port.spoken b ++ (port.transmitByte b).1.expect rest

section step

variable (keeps : port.Keeps) {c : Nat} (cable : port.cable = c <<< 4) {b : Nat}

include keeps cable

theorem transmit_data (data : b < 0x80) : Steps port b := by
  have byte : port.transmitByte b = port.transmitData b := by
    rw [transmitByte, if_neg (by omega), if_neg (by omega), if_neg (by omega)]
  unfold Keeps at keeps
  cases state : port.state with
  | unknown =>
    have next : port.transmitData b = (port, none) := by rw [transmitData, state]
    refine ⟨?_, fun rest => ?_⟩
    · rw [byte, next, Keeps, state]
      trivial
    · rw [spoken, byte, next, expect, expect, state]
      exact congrArg List.flatten (messages_unknown _ rest data)
  | oneParam =>
    rw [state] at keeps
    by_cases channel : port.data0 < 0xf0
    · have next : port.transmitData b = (port, some ⟨port.cable ||| port.data0 >>> 4, port.data0, b, 0⟩) := by
        rw [transmitData, state]
        exact if_pos channel
      have range : 0xc0 ≤ port.data0 ∧ port.data0 ≤ 0xdf := by
        unfold OneParam at keeps
        omega
      obtain ⟨low, length⟩ := channel_cin (by omega) channel
      rw [channelParams, if_pos range] at length
      refine ⟨?_, fun rest => ?_⟩
      · rw [byte, next, Keeps, state]
        exact keeps
      · rw [spoken, byte, next, expect, expect, state]
        show (messages wholeGroups none (port.data0 :: b :: rest)).flatten = packetData _ ++ _
        rw [messages_one _ rest keeps data, if_pos channel, cable, packetData_cin c low, length]
        rfl
    · have next : port.transmitData b =
          ({ port with state := .unknown }, some ⟨port.cable ||| 0x02, port.data0, b, 0⟩) := by
        rw [transmitData, state]
        exact if_neg channel
      refine ⟨?_, fun rest => ?_⟩
      · rw [byte, next]
        trivial
      · rw [spoken, byte, next, expect, state]
        show (messages wholeGroups none (port.data0 :: b :: rest)).flatten = packetData _ ++ _
        rw [messages_one _ rest keeps data, if_neg channel, cable, packetData_cin c (by decide)]
        rfl
  | twoParam1 =>
    rw [state] at keeps
    have next : port.transmitData b = ({ port with data1 := b, state := .twoParam2 }, none) := by
      rw [transmitData, state]
    refine ⟨?_, fun rest => ?_⟩
    · rw [byte, next]
      exact ⟨keeps, data⟩
    · rw [spoken, byte, next, expect, state]
      rfl
  | twoParam2 =>
    rw [state] at keeps
    by_cases channel : port.data0 < 0xf0
    · have next : port.transmitData b = ({ port with state := .twoParam1 },
          some ⟨port.cable ||| port.data0 >>> 4, port.data0, port.data1, b⟩) := by
        rw [transmitData, state]
        exact if_pos channel
      have range : 0x80 ≤ port.data0 ∧ ¬ (0xc0 ≤ port.data0 ∧ port.data0 ≤ 0xdf) := by
        have two := keeps.1
        unfold TwoParam at two
        omega
      obtain ⟨low, length⟩ := channel_cin range.1 channel
      rw [channelParams, if_neg range.2] at length
      refine ⟨?_, fun rest => ?_⟩
      · rw [byte, next]
        exact keeps.1
      · rw [spoken, byte, next, expect, state]
        show (messages wholeGroups none (port.data0 :: port.data1 :: b :: rest)).flatten = packetData _ ++ _
        rw [messages_two _ rest keeps.1 keeps.2 data, if_pos channel, cable, packetData_cin c low, length]
        rfl
    · have next : port.transmitData b = ({ port with state := .unknown },
          some ⟨port.cable ||| 0x03, port.data0, port.data1, b⟩) := by
        rw [transmitData, state]
        exact if_neg channel
      refine ⟨?_, fun rest => ?_⟩
      · rw [byte, next]
        trivial
      · rw [spoken, byte, next, expect, state]
        show (messages wholeGroups none (port.data0 :: port.data1 :: b :: rest)).flatten = packetData _ ++ _
        rw [messages_two _ rest keeps.1 keeps.2 data, if_neg channel, cable, packetData_cin c (by decide)]
        rfl
  | sysex0 =>
    have next : port.transmitData b = ({ port with data0 := b, state := .sysex1 }, none) := by rw [transmitData, state]
    refine ⟨?_, fun rest => ?_⟩
    · rw [byte, next]
      trivial
    · rw [spoken, byte, next, expect, state]
      exact sysexRest_data data _ rest
  | sysex1 =>
    have next : port.transmitData b = ({ port with data1 := b, state := .sysex2 }, none) := by rw [transmitData, state]
    refine ⟨?_, fun rest => ?_⟩
    · rw [byte, next]
      trivial
    · rw [spoken, byte, next, expect, state]
      exact sysexRest_data data _ rest
  | sysex2 =>
    have next : port.transmitData b = ({ port with state := .sysex0 },
        some ⟨port.cable ||| 0x04, port.data0, port.data1, b⟩) := by rw [transmitData, state]
    refine ⟨?_, fun rest => ?_⟩
    · rw [byte, next]
      trivial
    · rw [spoken, byte, next, expect, state]
      show sysexRest [port.data0, port.data1] (b :: rest) = packetData _ ++ sysexRest [] rest
      rw [sysexRest_data data, cable, packetData_cin c (by decide)]
      exact sysexRest_group _ _ _ rest

omit cable in
theorem transmit_channel (status : 0x80 ≤ b) (channel : b < 0xf0) : Steps port b := by
  have next : port.transmitByte b =
      ({ port with data0 := b, state := if 0xc0 ≤ b ∧ b ≤ 0xdf then .oneParam else .twoParam1 }, none) := by
    rw [transmitByte, if_neg (by omega), if_neg (by omega), if_pos status]
  have told (rest : List Nat) : port.expect (b :: rest) = (messages wholeGroups none (b :: rest)).flatten :=
    expect_status keeps status rest fun same => absurd same (by omega)
  by_cases one : 0xc0 ≤ b ∧ b ≤ 0xdf
  · rw [if_pos one] at next
    refine ⟨?_, fun rest => ?_⟩
    · rw [next]
      exact .inr (.inr one)
    · rw [spoken, next, told]
      rfl
  · rw [if_neg one] at next
    refine ⟨?_, fun rest => ?_⟩
    · rw [next]
      exact .inr ⟨status, channel, one⟩
    · rw [spoken, next, told]
      rfl

theorem transmit_common (low : 0xf0 ≤ b) (high : b < 0xf7) : Steps port b := by
  have told (rest : List Nat) : port.expect (b :: rest) = (messages wholeGroups none (b :: rest)).flatten :=
    expect_status keeps (by omega) rest fun same => absurd same (by omega)
  have byte : port.transmitByte b = port.transmitCommon b := by
    rw [transmitByte, if_neg (by omega), if_pos low]
  obtain rfl | rfl | rfl | rfl | rfl | rfl | rfl : b = 0xf0 ∨ b = 0xf1 ∨ b = 0xf2 ∨ b = 0xf3 ∨ b = 0xf4 ∨ b = 0xf5 ∨ b = 0xf6 := by
    omega
  · refine ⟨by rw [byte]; trivial, fun rest => ?_⟩
    rw [told, spoken, byte, messages_sysex]
    show _ = sysexRest [0xf0] rest
    unfold sysexRest
    split
    · rfl
    · simp [wholeGroups]
  · refine ⟨by rw [byte]; exact .inl rfl, fun rest => ?_⟩
    rw [told, spoken, byte]
    rfl
  · refine ⟨by rw [byte]; exact .inl rfl, fun rest => ?_⟩
    rw [told, spoken, byte]
    rfl
  · refine ⟨by rw [byte]; exact .inr (.inl rfl), fun rest => ?_⟩
    rw [told, spoken, byte]
    rfl
  · refine ⟨by rw [byte]; trivial, fun rest => ?_⟩
    rw [told, spoken, byte, messages_undefined _ rest _ (by omega)]
    rfl
  · refine ⟨by rw [byte]; trivial, fun rest => ?_⟩
    rw [told, spoken, byte, messages_undefined _ rest _ (by omega)]
    rfl
  · refine ⟨by rw [byte]; trivial, fun rest => ?_⟩
    rw [told, spoken, byte, messages_tune]
    show [0xf6] ++ _ = packetData _ ++ _
    rw [cable, packetData_cin c (by decide)]
    rfl

theorem transmit_sysexEnd : Steps port 0xf7 := by
  have byte : port.transmitByte 0xf7 = port.transmitCommon 0xf7 := rfl
  refine ⟨by rw [byte]; trivial, fun rest => ?_⟩
  have undefined_ : (messages wholeGroups none (0xf7 :: rest)).flatten = (messages wholeGroups none rest).flatten :=
    congrArg List.flatten (messages_undefined _ rest _ (by omega))
  have silent (other : port.state ≠ .sysex0 ∧ port.state ≠ .sysex1 ∧ port.state ≠ .sysex2)
      (none_ : (port.transmitCommon 0xf7).2 = none) :
      port.expect (0xf7 :: rest) = port.spoken 0xf7 ++ (port.transmitByte 0xf7).1.expect rest := by
    rw [expect_status keeps (by omega) rest fun _ => other, undefined_, spoken, byte, none_]
    rfl
  cases state : port.state with
  | unknown => exact silent (by rw [state]; decide) (by rw [transmitCommon]; dsimp only; rw [state])
  | oneParam => exact silent (by rw [state]; decide) (by rw [transmitCommon]; dsimp only; rw [state])
  | twoParam1 => exact silent (by rw [state]; decide) (by rw [transmitCommon]; dsimp only; rw [state])
  | twoParam2 => exact silent (by rw [state]; decide) (by rw [transmitCommon]; dsimp only; rw [state])
  | sysex0 =>
    have packet : (port.transmitCommon 0xf7).2 = some ⟨port.cable ||| 0x05, 0xf7, 0, 0⟩ := by
      rw [transmitCommon]
      dsimp only
      rw [state]
    rw [expect, state, spoken, byte, packet, cable]
    show sysexRest [] (0xf7 :: rest) = packetData _ ++ _
    rw [packetData_cin c (by decide), sysexRest_end]
    rfl
  | sysex1 =>
    have packet : (port.transmitCommon 0xf7).2 = some ⟨port.cable ||| 0x06, port.data0, 0xf7, 0⟩ := by
      rw [transmitCommon]
      dsimp only
      rw [state]
    rw [expect, state, spoken, byte, packet, cable]
    show sysexRest [port.data0] (0xf7 :: rest) = packetData _ ++ _
    rw [packetData_cin c (by decide), sysexRest_end]
    rfl
  | sysex2 =>
    have packet : (port.transmitCommon 0xf7).2 = some ⟨port.cable ||| 0x07, port.data0, port.data1, 0xf7⟩ := by
      rw [transmitCommon]
      dsimp only
      rw [state]
    rw [expect, state, spoken, byte, packet, cable]
    show sysexRest [port.data0, port.data1] (0xf7 :: rest) = packetData _ ++ _
    rw [packetData_cin c (by decide), sysexRest_end]
    rfl

theorem transmit_steps (low : b < 0xf8) : Steps port b := by
  by_cases data : b < 0x80
  · exact transmit_data keeps cable data
  · by_cases channel : b < 0xf0
    · exact transmit_channel keeps (by omega) channel
    · by_cases last : b = 0xf7
      · rw [last]
        exact transmit_sysexEnd keeps cable
      · exact transmit_common keeps cable (by omega) (by omega)

end step

end UsbmidiOutPort

end AlsaDriver.Usb
