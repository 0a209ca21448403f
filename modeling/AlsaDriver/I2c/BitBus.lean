import Mathlib
import AlsaDriver.Lib.TwoWire

namespace AlsaDriver.I2c

open TwoWire

abbrev Byte := BitVec 8

def EIO : Int := 5
def EINVAL : Int := 22

/-- A bus with the lines behind its bit operations. `output` tells that the data line is driven, and `hooks` has the
    calls of the start and stop hooks, `true` for start. -/
structure SndI2cBus where
  lines : Lines
  output : Bool
  hooks : List Bool

/-- `addrten` is the flag `SND_I2C_DEVICE_ADDRTEN`. -/
structure SndI2cDevice where
  addr : BitVec 16
  addrten : Bool

namespace SndI2cBus

variable (slave : Slave) (bus : SndI2cBus)

def sndI2cBitHwStart : SndI2cBus := { bus with hooks := bus.hooks ++ [true] }

def sndI2cBitHwStop : SndI2cBus := { bus with hooks := bus.hooks ++ [false] }

def sndI2cBitDirection (data : Bool) : SndI2cBus := { bus with output := data }

/-- `snd_i2c_bit_set`; a data line that is not driven is left alone. -/
def sndI2cBitSet (clock data : Bool) : SndI2cBus :=
  { bus with lines := bus.lines.drive slave clock (data || !bus.output) }

def sndI2cBitData : Bool := bus.lines.sda

def sndI2cBitStart : SndI2cBus :=
  let bus := bus.sndI2cBitHwStart.sndI2cBitDirection true
  let bus := bus.sndI2cBitSet slave true true
  let bus := bus.sndI2cBitSet slave true false
  bus.sndI2cBitSet slave false false

def sndI2cBitStop : SndI2cBus :=
  let bus := bus.sndI2cBitSet slave false false
  let bus := bus.sndI2cBitSet slave true false
  let bus := bus.sndI2cBitSet slave true true
  bus.sndI2cBitHwStop

def sndI2cBitSend (data : Bool) : SndI2cBus :=
  let bus := bus.sndI2cBitSet slave false data
  let bus := bus.sndI2cBitSet slave true data
  bus.sndI2cBitSet slave false data

def sndI2cBitAck : Int × SndI2cBus :=
  let bus := bus.sndI2cBitSet slave false true
  let bus := bus.sndI2cBitSet slave true true
  let bus := bus.sndI2cBitDirection false
  let ack := bus.sndI2cBitData
  let bus := bus.sndI2cBitDirection true
  (if ack then - EIO else 0, bus.sndI2cBitSet slave false true)

/-- The loop of `snd_i2c_bit_sendbyte` over the bits below `n`. -/
def sendLoop (data : Byte) : Nat → SndI2cBus → SndI2cBus
  | 0, bus => bus
  | n + 1, bus => sendLoop data n (bus.sndI2cBitSend slave (data.getLsbD n))

def sndI2cBitSendbyte (data : Byte) : Int × SndI2cBus := (sendLoop slave data 8 bus).sndI2cBitAck slave

/-- The loop of `snd_i2c_bit_readbyte` over the bits below `n`. -/
def readLoop : Nat → Byte → SndI2cBus → Byte × SndI2cBus
  | 0, data, bus => (data, bus)
  | n + 1, data, bus =>
    let bus := bus.sndI2cBitSet slave true true
    let data := if bus.sndI2cBitData then data ||| 1#8 <<< n else data
    readLoop n data (bus.sndI2cBitSet slave false true)

def sndI2cBitReadbyte (last : Bool) : Byte × SndI2cBus :=
  let bus := (bus.sndI2cBitSet slave false true).sndI2cBitDirection false
  let (data, bus) := readLoop slave 8 0 bus
  (data, (bus.sndI2cBitDirection true).sndI2cBitSend slave last)

/-- The loop of `snd_i2c_bit_sendbytes`, with the number of bytes sent so far. -/
def sendbytesLoop : List Byte → Int → SndI2cBus → Int × SndI2cBus
  | [], res, bus => (res, bus.sndI2cBitStop slave)
  | b :: rest, res, bus =>
    let (err, bus) := bus.sndI2cBitSendbyte slave b
    if err < 0 then (err, bus.sndI2cBitHwStop) else sendbytesLoop rest (res + 1) bus

def sndI2cBitSendbytes (device : SndI2cDevice) (bytes : List Byte) : Int × SndI2cBus :=
  if device.addrten then ( - EIO, bus)
  else
    let (err, bus) := (bus.sndI2cBitStart slave).sndI2cBitSendbyte slave ((device.addr <<< 1).setWidth 8)
    if err < 0 then (err, bus.sndI2cBitHwStop) else sendbytesLoop slave bytes 0 bus

/-- The loop of `snd_i2c_bit_readbytes`, with the bytes read so far. -/
def readbytesLoop : Nat → List Byte → SndI2cBus → (Int × List Byte) × SndI2cBus
  | 0, bytes, bus => ((bytes.length, bytes), bus.sndI2cBitStop slave)
  | count + 1, bytes, bus =>
    let (data, bus) := bus.sndI2cBitReadbyte slave (count = 0)
    readbytesLoop count (bytes ++ [data]) bus

def sndI2cBitReadbytes (device : SndI2cDevice) (count : Nat) : (Int × List Byte) × SndI2cBus :=
  if device.addrten then (( - EIO, []), bus)
  else
    let (err, bus) := (bus.sndI2cBitStart slave).sndI2cBitSendbyte slave ((device.addr <<< 1 ||| 1).setWidth 8)
    if err < 0 then ((err, []), bus.sndI2cBitHwStop) else readbytesLoop slave count [] bus

def sndI2cBitProbeaddr (addr : BitVec 16) : Int × SndI2cBus :=
  if addr &&& 0x8000 ≠ 0 then ( - EIO, bus)
  else if addr &&& 0x7f80 ≠ 0 then (-EINVAL, bus)
  else
    let (err, bus) := (bus.sndI2cBitStart slave).sndI2cBitSendbyte slave ((addr <<< 1).setWidth 8)
    (err, bus.sndI2cBitStop slave)

end SndI2cBus

section levels

variable {slave : Slave} {bus : SndI2cBus} {symbols : List Symbol} {sda : Bool} {hooks : List Bool}

def within (sda : Bool) (symbols : List Symbol) (hooks : List Bool) : SndI2cBus := ⟨⟨false, sda, none, symbols⟩, true, hooks⟩

theorem within_send (slave : Slave) (sda : Bool) (symbols : List Symbol) (hooks : List Bool) (d : Bool) :
    (within sda symbols hooks).sndI2cBitSend slave d =
    within (d && slave symbols) (symbols ++ [.bit (d && slave symbols)]) hooks := by
  simpa [SndI2cBus.sndI2cBitSend, SndI2cBus.sndI2cBitSet, within] using drive_pulse slave symbols sda d

theorem within_ack : (within sda symbols hooks).sndI2cBitAck slave =
    (if slave symbols then - EIO else 0, within (slave symbols) (symbols ++ [.bit (slave symbols)]) hooks) := by
  simp [SndI2cBus.sndI2cBitAck, SndI2cBus.sndI2cBitSet, SndI2cBus.sndI2cBitDirection, SndI2cBus.sndI2cBitData, within,
    Lines.drive]

/-- The bits of a byte from the highest of `n` on. -/
def lowBits (b : Byte) : Nat → List Bool
  | 0 => []
  | n + 1 => b.getLsbD n :: lowBits b n

theorem lowBits_eight (b : Byte) : lowBits b 8 = byteBits b := rfl

theorem sendLoop_within (sda : Bool) (hooks : List Bool) (conforms : Conforms slave) {kind : Nat → Phase}
    (next : ∀ n b, n < 7 → (kind n).next (.bit b) = kind (n + 1)) (mine : ∀ n, (kind n).slaveTurn = false) (data : Byte)
    (n : Nat) {k : Nat} (here : phase symbols = kind k) (few : k + n ≤ 8) :
    ∃ sda', SndI2cBus.sendLoop slave data n (within sda symbols hooks) =
      within sda' (symbols ++ (lowBits data n).map .bit) hooks := by
  induction n generalizing symbols sda k with
  | zero => exact ⟨sda, by simp [SndI2cBus.sendLoop, lowBits]⟩
  | succ n ih =>
    have released : slave symbols = true := conforms symbols (by rw [here, mine])
    rw [SndI2cBus.sendLoop, within_send, released, Bool.and_true]
    cases n with
    | zero => exact ⟨data.getLsbD 0, rfl⟩
    | succ n =>
      have there : phase (symbols ++ [.bit (data.getLsbD (n + 1))]) = kind (k + 1) := by
        rw [phase_append, here]
        exact next k _ (by omega)
      obtain ⟨sda', sent⟩ := ih (data.getLsbD (n + 1)) there (by omega)
      rw [List.append_assoc] at sent
      exact ⟨sda', sent⟩

theorem sendbyte_within (sda : Bool) (hooks : List Bool) (conforms : Conforms slave) (b : Byte)
    (here : phase symbols = .address 0 ∨ phase symbols = .write 0) :
    ∃ nak sda', (within sda symbols hooks).sndI2cBitSendbyte slave b =
      (if nak then - EIO else 0, within sda' (symbols ++ byteSymbols (b, nak)) hooks) := by
  have sent : ∃ sda', SndI2cBus.sendLoop slave b 8 (within sda symbols hooks) =
      within sda' (symbols ++ (byteBits b).map .bit) hooks := by
    rw [← lowBits_eight]
    rcases here with here | here
    · exact sendLoop_within sda hooks conforms next_address (fun _ => rfl) b 8 here (by omega)
    · exact sendLoop_within sda hooks conforms next_write (fun _ => rfl) b 8 here (by omega)
  obtain ⟨sda', sent⟩ := sent
  refine ⟨slave (symbols ++ (byteBits b).map .bit), slave (symbols ++ (byteBits b).map .bit), ?_⟩
  rw [SndI2cBus.sndI2cBitSendbyte, sent, within_ack, byteSymbols, List.append_assoc]

def answered (slave : Slave) : List Symbol → Nat → List Bool
  | _, 0 => []
  | symbols, n + 1 => slave symbols :: answered slave (symbols ++ [.bit (slave symbols)]) n

theorem length_answered (slave : Slave) (symbols : List Symbol) (n : Nat) : (answered slave symbols n).length = n := by
  induction n generalizing symbols with
  | zero => rfl
  | succ n ih => simp [answered, ih]

def gather : List Bool → Byte → Byte
  | [], data => data
  | b :: rest, data => gather rest (if b then data ||| 1#8 <<< rest.length else data)

theorem byteBits_gather {bits : List Bool} (eight : bits.length = 8) : byteBits (gather bits 0) = bits := by
  have all : ∀ a b c d e f g h : Bool, byteBits (gather [a, b, c, d, e, f, g, h] 0) = [a, b, c, d, e, f, g, h] := by decide
  rcases bits with _ | ⟨a, _ | ⟨b, _ | ⟨c, _ | ⟨d, _ | ⟨e, _ | ⟨f, _ | ⟨g, _ | ⟨h, rest⟩⟩⟩⟩⟩⟩⟩⟩ <;> simp at eight
  subst eight
  exact all a b c d e f g h

theorem readLoop_within (slave : Slave) (symbols : List Symbol) (sda : Bool) (hooks : List Bool) (n : Nat) (data : Byte) :
    ∃ sda', SndI2cBus.readLoop slave n data ⟨⟨false, sda, none, symbols⟩, false, hooks⟩ =
      (gather (answered slave symbols n) data,
        ⟨⟨false, sda', none, symbols ++ (answered slave symbols n).map .bit⟩, false, hooks⟩) := by
  induction n generalizing symbols sda data with
  | zero => exact ⟨sda, by simp [SndI2cBus.readLoop, answered, gather]⟩
  | succ n ih =>
    obtain ⟨sda', read⟩ := ih (symbols ++ [.bit (slave symbols)]) (slave symbols)
      (if slave symbols then data ||| 1#8 <<< n else data)
    refine ⟨sda', ?_⟩
    rw [SndI2cBus.readLoop]
    simpa [SndI2cBus.sndI2cBitSet, SndI2cBus.sndI2cBitData, Lines.drive, answered, gather, length_answered] using read

theorem readbyte_within (sda : Bool) (hooks : List Bool) (conforms : Conforms slave) (last : Bool)
    (here : phase symbols = .read 0) :
    ∃ b sda', (within sda symbols hooks).sndI2cBitReadbyte slave last =
      (b, within sda' (symbols ++ byteSymbols (b, last)) hooks) := by
  have low : ((within sda symbols hooks).sndI2cBitSet slave false true).sndI2cBitDirection false =
      ⟨⟨false, slave symbols, none, symbols⟩, false, hooks⟩ := by
    simp [SndI2cBus.sndI2cBitSet, SndI2cBus.sndI2cBitDirection, within, Lines.drive]
  obtain ⟨sda', read⟩ := readLoop_within slave symbols (slave symbols) hooks 8 0
  have bits := byteBits_gather (length_answered slave symbols 8)
  generalize gather (answered slave symbols 8) 0 = b at read bits
  have released : slave (symbols ++ (byteBits b).map .bit) = true := conforms _ (by rw [phase_read b here]; rfl)
  have sent := within_send slave sda' (symbols ++ (byteBits b).map .bit) hooks last
  rw [released, Bool.and_true] at sent
  refine ⟨b, last, ?_⟩
  rw [SndI2cBus.sndI2cBitReadbyte, low, read, ← bits]
  simp only [SndI2cBus.sndI2cBitDirection]
  rw [show (⟨⟨false, sda', none, symbols ++ (byteBits b).map .bit⟩, true, hooks⟩ : SndI2cBus) =
    within sda' (symbols ++ (byteBits b).map .bit) hooks from rfl, sent]
  simp [byteSymbols]

end levels

/-- The bytes of a message to a slave up to the first that it refuses, with its answers; `whole` where it takes all. -/
inductive Sent : (bytes : List Byte) → (answered : List (Byte × Bool)) → (whole : Bool) → Prop where
  | whole (bytes : List Byte) : Sent bytes (bytes.map (·, false)) true
  | refused (before : List Byte) (b : Byte) (rest : List Byte) :
    Sent (before ++ b :: rest) (before.map (·, false) ++ [(b, true)]) false

theorem Sent.cons {bytes : List Byte} {answered : List (Byte × Bool)} {whole : Bool} (sent : Sent bytes answered whole) (b : Byte) :
    Sent (b :: bytes) ((b, false) :: answered) whole := by
  cases sent with
  | whole bytes => exact .whole (b :: bytes)
  | refused before b' rest => exact .refused (b :: before) b' rest

def taken : List Byte → List (Byte × Bool)
  | [] => []
  | [b] => [(b, true)]
  | b :: rest => (b, false) :: taken rest

inductive I2cCall where
  | sendbytes (device : SndI2cDevice) (bytes : List Byte)
  | readbytes (device : SndI2cDevice) (count : Nat)
  | probeaddr (addr : BitVec 16)

namespace I2cCall

variable (slave : Slave)

def exec (bus : SndI2cBus) : I2cCall → (Int × List Byte) × SndI2cBus
  | .sendbytes device bytes =>
    let (res, bus) := bus.sndI2cBitSendbytes slave device bytes
    ((res, []), bus)
  | .readbytes device count => bus.sndI2cBitReadbytes slave device count
  | .probeaddr addr =>
    let (err, bus) := bus.sndI2cBitProbeaddr slave addr
    ((err, []), bus)

def runAll : List I2cCall → SndI2cBus → List (Int × List Byte) × SndI2cBus
  | [], bus => ([], bus)
  | call :: rest, bus =>
    let (answer, bus) := call.exec slave bus
    let (answers, bus) := runAll rest bus
    (answer :: answers, bus)

def Reads : I2cCall → Prop
  | .readbytes _ count => 0 < count
  | _ => True

def Carried : I2cCall → Int × List Byte → Option Message → Prop
  | .sendbytes device bytes, answer, message =>
    if device.addrten then answer = ( - EIO, []) ∧ message = none
    else ∃ answered whole, Sent ((device.addr <<< 1).setWidth 8 :: bytes) answered whole ∧
      message = some ⟨answered, whole⟩ ∧ answer = (if whole then (bytes.length : Int) else - EIO, [])
  | .readbytes device count, answer, message =>
    if device.addrten then answer = ( - EIO, []) ∧ message = none
    else answer = ( - EIO, []) ∧ message = some ⟨[((device.addr <<< 1 ||| 1).setWidth 8, true)], false⟩ ∨
      ∃ data, data.length = count ∧ answer = ((count : Int), data) ∧
        message = some ⟨((device.addr <<< 1 ||| 1).setWidth 8, false) :: taken data, true⟩
  | .probeaddr addr, answer, message =>
    if addr &&& 0x8000 ≠ 0 then answer = ( - EIO, []) ∧ message = none
    else if addr &&& 0x7f80 ≠ 0 then answer = (-EINVAL, []) ∧ message = none
    else ∃ nak, answer = (if nak then - EIO else 0, []) ∧ message = some ⟨[((addr <<< 1).setWidth 8, nak)], true⟩

end I2cCall

section messages

variable {slave : Slave} {bus : SndI2cBus} {symbols : List Symbol} {sda : Bool} {hooks : List Bool}

structure Adds (slave : Slave) (bus : SndI2cBus) (symbols : List Symbol) (hooks : List Bool) (bus' : SndI2cBus) : Prop where
  ready : Ready bus'.lines
  symbols : bus'.lines.symbols = bus.lines.symbols ++ symbols
  hooks : bus'.hooks = bus.hooks ++ hooks

theorem EIO_neg : - EIO < 0 := by decide

theorem start_within (conforms : Conforms slave) (ready : Ready bus.lines) :
    bus.sndI2cBitStart slave = within false (bus.lines.symbols ++ [.start]) (bus.hooks ++ [true]) := by
  have start := ready.start conforms
  simp only [SndI2cBus.sndI2cBitStart, SndI2cBus.sndI2cBitHwStart, SndI2cBus.sndI2cBitDirection, SndI2cBus.sndI2cBitSet,
    Bool.not_true, Bool.or_false, start]
  rfl

theorem stop_within (conforms : Conforms slave) (turn : (phase symbols).slaveTurn = false) :
    (within sda symbols hooks).sndI2cBitStop slave = ⟨⟨true, true, none, symbols ++ [.stop]⟩, true, hooks ++ [false]⟩ := by
  have stop := drive_stop sda conforms turn
  simp only [SndI2cBus.sndI2cBitStop, SndI2cBus.sndI2cBitHwStop, SndI2cBus.sndI2cBitSet, within, Bool.not_true,
    Bool.or_false, stop]

theorem stop_adds (sda : Bool) (hooks : List Bool) (conforms : Conforms slave) (turn : (phase symbols).slaveTurn = false) :
    Adds slave (within sda symbols hooks) [.stop] [false] ((within sda symbols hooks).sndI2cBitStop slave) := by
  rw [stop_within conforms turn]
  exact ⟨.idle _ (by rw [phase_stop]; rfl), rfl, rfl⟩

theorem Adds.of_within {sda' : Bool} {more symbols' : List Symbol} {hooks' : List Bool} {bus' : SndI2cBus}
    (adds : Adds slave (within sda' (symbols ++ more) hooks) symbols' hooks' bus') (sda : Bool) :
    Adds slave (within sda symbols hooks) (more ++ symbols') hooks' bus' :=
  ⟨adds.ready, by rw [adds.symbols]; exact List.append_assoc .., adds.hooks⟩

theorem phase_answer {b : Byte} (answer : Bool) {next : Phase} (here : phase (symbols ++ (byteBits b).map .bit) = next) :
    phase (symbols ++ byteSymbols (b, answer)) = next.next (.bit answer) := by
  rw [byteSymbols, ← List.append_assoc, phase_append, here]
  rfl

theorem refused_adds (slave : Slave) (sda : Bool) (hooks : List Bool) (ended : phase symbols = .ended) :
    Adds slave (within sda symbols hooks) [] [false] (within sda symbols hooks).sndI2cBitHwStop :=
  ⟨.low sda symbols (by rw [ended]; rfl), (List.append_nil _).symm, rfl⟩

theorem sendbytesLoop_adds (sda : Bool) (conforms : Conforms slave) (here : phase symbols = .write 0) (bytes : List Byte) (res : Int) :
    ∃ answered whole bus', Sent bytes answered whole ∧
      SndI2cBus.sendbytesLoop slave bytes res (within sda symbols hooks) =
        (if whole then res + bytes.length else - EIO, bus') ∧
      Adds slave (within sda symbols hooks) (answered.flatMap byteSymbols ++ if whole then [.stop] else []) [false] bus' := by
  induction bytes generalizing symbols sda res with
  | nil =>
    refine ⟨[], true, _, .whole [], ?_, stop_adds sda hooks conforms (by rw [here]; rfl)⟩
    simp [SndI2cBus.sendbytesLoop]
  | cons b rest ih =>
    obtain ⟨nak, sda', sent⟩ := sendbyte_within sda hooks conforms b (.inr here)
    have behind := phase_answer nak (phase_written b here)
    cases nak with
    | true =>
      refine ⟨[(b, true)], false, (within sda' (symbols ++ byteSymbols (b, true)) hooks).sndI2cBitHwStop,
        .refused [] b rest, ?_, ?_⟩
      · simp [SndI2cBus.sendbytesLoop, sent, EIO]
      · have ended := refused_adds slave sda' hooks behind
        simpa using ended.of_within sda
    | false =>
      obtain ⟨answered, whole, bus', all, loop, adds⟩ := ih sda' behind (res + 1)
      refine ⟨(b, false) :: answered, whole, bus', all.cons b, ?_, ?_⟩
      · rw [SndI2cBus.sendbytesLoop, sent]
        simp only [Bool.false_eq_true, if_false]
        rw [if_neg (by decide), loop, List.length_cons]
        congr 2
        push_cast
        ring
      · rw [List.flatMap_cons, List.append_assoc]
        exact adds.of_within sda

theorem readbytesLoop_adds (sda : Bool) (conforms : Conforms slave) (here : phase symbols = .read 0) (count : Nat) (bytes : List Byte) :
    ∃ data bus', data.length = count + 1 ∧
      SndI2cBus.readbytesLoop slave (count + 1) bytes (within sda symbols hooks) =
        ((((bytes.length + (count + 1) : Nat) : Int), bytes ++ data), bus') ∧
      Adds slave (within sda symbols hooks) ((taken data).flatMap byteSymbols ++ [.stop]) [false] bus' := by
  induction count generalizing symbols sda bytes with
  | zero =>
    obtain ⟨b, sda', read⟩ := readbyte_within sda hooks conforms true here
    have behind := phase_answer true (phase_read b here)
    have stop := stop_adds sda' hooks conforms (by rw [behind]; rfl)
    refine ⟨[b], _, rfl, ?_, by simpa [taken] using stop.of_within sda⟩
    simp [SndI2cBus.readbytesLoop, read]
  | succ count ih =>
    obtain ⟨b, sda', read⟩ := readbyte_within sda hooks conforms false here
    have behind := phase_answer false (phase_read b here)
    obtain ⟨data, bus', length, loop, adds⟩ := ih sda' behind (bytes ++ [b])
    refine ⟨b :: data, bus', by rw [List.length_cons, length], ?_, ?_⟩
    · rw [SndI2cBus.readbytesLoop]
      simp only [Nat.add_eq_zero_iff, one_ne_zero, and_false, decide_false, read]
      rw [loop]
      simp
      omega
    · have more : taken (b :: data) = (b, false) :: taken data := by
        cases data with
        | nil => cases length
        | cons b' rest => rfl
      rw [more, List.flatMap_cons, List.append_assoc]
      exact adds.of_within sda

theorem address_within (conforms : Conforms slave) (ready : Ready bus.lines) (address : Byte) :
    ∃ nak sda', (bus.sndI2cBitStart slave).sndI2cBitSendbyte slave address =
        (if nak then - EIO else 0,
          within sda' (bus.lines.symbols ++ [.start] ++ byteSymbols (address, nak)) (bus.hooks ++ [true])) ∧
      phase (bus.lines.symbols ++ [.start] ++ byteSymbols (address, nak)) =
        (Phase.addressAck (address.getLsbD 0)).next (.bit nak) := by
  have here : phase (bus.lines.symbols ++ [.start]) = .address 0 := phase_start
  obtain ⟨nak, sda', sent⟩ := sendbyte_within false (bus.hooks ++ [true]) conforms address (.inl here)
  rw [start_within conforms ready]
  exact ⟨nak, sda', sent, phase_answer nak (phase_addressed address here)⟩

theorem Adds.of_address {head : Byte × Bool} {rest : List (Byte × Bool)} {stopped : Bool} {bus' : SndI2cBus}
    (adds : Adds slave (within sda (bus.lines.symbols ++ [.start] ++ byteSymbols head) (bus.hooks ++ [true]))
      (rest.flatMap byteSymbols ++ if stopped then [.stop] else []) [false] bus') :
    Adds slave bus (Message.symbols ⟨head :: rest, stopped⟩) [true, false] bus' :=
  ⟨adds.ready, by rw [adds.symbols]; simp [within, Message.symbols], by rw [adds.hooks]; simp [within]⟩

theorem sendbytes_adds (conforms : Conforms slave) (ready : Ready bus.lines) (device : SndI2cDevice) (bytes : List Byte)
    (seven : device.addrten = false) :
    ∃ answered whole bus', Sent ((device.addr <<< 1).setWidth 8 :: bytes) answered whole ∧
      bus.sndI2cBitSendbytes slave device bytes = (if whole then (bytes.length : Int) else - EIO, bus') ∧
      Adds slave bus (Message.symbols ⟨answered, whole⟩) [true, false] bus' := by
  have reads : ((device.addr <<< 1).setWidth 8 : Byte).getLsbD 0 = false := by simp
  generalize addressed : ((device.addr <<< 1).setWidth 8 : Byte) = address at reads
  obtain ⟨nak, sda', sent, behind⟩ := address_within conforms ready address
  rw [reads] at behind
  cases nak with
  | true =>
    refine ⟨[(address, true)], false, _, .refused [] address bytes, ?_, (refused_adds slave sda' _ behind).of_address⟩
    simp only [SndI2cBus.sndI2cBitSendbytes, seven, Bool.false_eq_true, if_false, addressed, sent, if_true, EIO_neg]
  | false =>
    obtain ⟨answered, whole, bus', all, loop, adds⟩ := sendbytesLoop_adds sda' conforms behind bytes 0
    refine ⟨(address, false) :: answered, whole, bus', all.cons address, ?_, adds.of_address⟩
    simp only [SndI2cBus.sndI2cBitSendbytes, seven, Bool.false_eq_true, if_false, addressed, sent, lt_irrefl, loop]
    simp

theorem readbytes_adds (conforms : Conforms slave) (ready : Ready bus.lines) (device : SndI2cDevice) (count : Nat)
    (seven : device.addrten = false) :
    (∃ bus', bus.sndI2cBitReadbytes slave device (count + 1) = (( - EIO, []), bus') ∧
      Adds slave bus (Message.symbols ⟨[((device.addr <<< 1 ||| 1).setWidth 8, true)], false⟩) [true, false] bus') ∨
    ∃ data bus', data.length = count + 1 ∧
      bus.sndI2cBitReadbytes slave device (count + 1) = ((((count + 1 : Nat) : Int), data), bus') ∧
      Adds slave bus (Message.symbols ⟨((device.addr <<< 1 ||| 1).setWidth 8, false) :: taken data, true⟩) [true, false] bus' := by
  have reads : ((device.addr <<< 1 ||| 1).setWidth 8 : Byte).getLsbD 0 = true := by simp
  generalize addressed : ((device.addr <<< 1 ||| 1).setWidth 8 : Byte) = address at reads
  obtain ⟨nak, sda', sent, behind⟩ := address_within conforms ready address
  rw [reads] at behind
  cases nak with
  | true =>
    refine .inl ⟨_, ?_, (refused_adds slave sda' _ behind).of_address⟩
    simp only [SndI2cBus.sndI2cBitReadbytes, seven, Bool.false_eq_true, if_false, addressed, sent, if_true, EIO_neg]
  | false =>
    obtain ⟨data, bus', length, loop, adds⟩ := readbytesLoop_adds sda' conforms behind count []
    refine .inr ⟨data, bus', length, ?_, adds.of_address⟩
    simp only [SndI2cBus.sndI2cBitReadbytes, seven, Bool.false_eq_true, if_false, addressed, sent, lt_irrefl, loop]
    simp

theorem probeaddr_adds (conforms : Conforms slave) (ready : Ready bus.lines) (addr : BitVec 16) (seven : addr &&& 0x8000 = 0)
    (valid : addr &&& 0x7f80 = 0) :
    ∃ nak bus', bus.sndI2cBitProbeaddr slave addr = (if nak then - EIO else 0, bus') ∧
      Adds slave bus (Message.symbols ⟨[((addr <<< 1).setWidth 8, nak)], true⟩) [true, false] bus' := by
  have reads : ((addr <<< 1).setWidth 8 : Byte).getLsbD 0 = false := by simp
  generalize addressed : ((addr <<< 1).setWidth 8 : Byte) = address at reads
  obtain ⟨nak, sda', sent, behind⟩ := address_within conforms ready address
  rw [reads] at behind
  have stop := stop_adds sda' (bus.hooks ++ [true]) conforms (by rw [behind]; cases nak <;> rfl)
  refine ⟨nak, _, ?_, stop.of_address⟩
  rw [SndI2cBus.sndI2cBitProbeaddr, if_neg (not_not_intro seven), if_neg (not_not_intro valid)]
  simp only [addressed, sent]

def Carries (slave : Slave) (bus : SndI2cBus) (call : I2cCall) (message : Option Message) : Prop :=
  call.Carried (call.exec slave bus).1 message ∧
    Adds slave bus (message.toList.flatMap Message.symbols) (message.toList.flatMap fun _ => [true, false])
      (call.exec slave bus).2

theorem carries_some {call : I2cCall} {answer : Int × List Byte} {bus' : SndI2cBus} {message : Message}
    (result : call.exec slave bus = (answer, bus')) (carried : call.Carried answer (some message))
    (adds : Adds slave bus message.symbols [true, false] bus') : Carries slave bus call (some message) := by
  rw [Carries, result]
  exact ⟨carried, by simpa using adds⟩

theorem carries_none {call : I2cCall} (answer : Int × List Byte) (ready : Ready bus.lines)
    (result : call.exec slave bus = (answer, bus)) (carried : call.Carried answer none) : Carries slave bus call none := by
  rw [Carries, result]
  exact ⟨carried, ready, by simp, by simp⟩

theorem sendbytes_carries (conforms : Conforms slave) (ready : Ready bus.lines) (device : SndI2cDevice) (bytes : List Byte) :
    ∃ message, Carries slave bus (.sendbytes device bytes) message := by
  cases ten : device.addrten with
  | true =>
    refine ⟨none, carries_none ( - EIO, []) ready ?_ ?_⟩
    · simp [I2cCall.exec, SndI2cBus.sndI2cBitSendbytes, ten]
    · simp [I2cCall.Carried, ten]
  | false =>
    obtain ⟨answered, whole, bus', sent, call, adds⟩ := sendbytes_adds conforms ready device bytes ten
    have result : I2cCall.exec slave bus (.sendbytes device bytes) =
        ((if whole then (bytes.length : Int) else - EIO, []), bus') := by simp only [I2cCall.exec, call]
    refine ⟨_, carries_some result ?_ adds⟩
    simp only [I2cCall.Carried, ten]
    exact ⟨answered, whole, sent, rfl, rfl⟩

theorem readbytes_carries (conforms : Conforms slave) (ready : Ready bus.lines) (device : SndI2cDevice) (count : Nat) :
    ∃ message, Carries slave bus (.readbytes device (count + 1)) message := by
  cases ten : device.addrten with
  | true =>
    refine ⟨none, carries_none ( - EIO, []) ready ?_ ?_⟩
    · simp [I2cCall.exec, SndI2cBus.sndI2cBitReadbytes, ten]
    · simp [I2cCall.Carried, ten]
  | false =>
    rcases readbytes_adds conforms ready device count ten with ⟨bus', call, adds⟩ | ⟨data, bus', length, call, adds⟩
    · refine ⟨_, carries_some call ?_ adds⟩
      simp only [I2cCall.Carried, ten]
      exact .inl ⟨trivial, trivial⟩
    · refine ⟨_, carries_some call ?_ adds⟩
      simp only [I2cCall.Carried, ten]
      exact .inr ⟨data, length, rfl, rfl⟩

theorem probeaddr_carries (conforms : Conforms slave) (ready : Ready bus.lines) (addr : BitVec 16) :
    ∃ message, Carries slave bus (.probeaddr addr) message := by
  by_cases ten : addr &&& 0x8000 = 0
  · by_cases valid : addr &&& 0x7f80 = 0
    · obtain ⟨nak, bus', call, adds⟩ := probeaddr_adds conforms ready addr ten valid
      have result : I2cCall.exec slave bus (.probeaddr addr) = ((if nak then - EIO else 0, []), bus') := by
        simp only [I2cCall.exec, call]
      refine ⟨_, carries_some result ?_ adds⟩
      rw [I2cCall.Carried, if_neg (not_not_intro ten), if_neg (not_not_intro valid)]
      exact ⟨nak, rfl, rfl⟩
    · refine ⟨none, carries_none (-EINVAL, []) ready ?_ ?_⟩
      · rw [I2cCall.exec, SndI2cBus.sndI2cBitProbeaddr, if_neg (not_not_intro ten), if_pos valid]
      · rw [I2cCall.Carried, if_neg (not_not_intro ten), if_pos valid]
        exact ⟨rfl, rfl⟩
  · refine ⟨none, carries_none ( - EIO, []) ready ?_ ?_⟩
    · rw [I2cCall.exec, SndI2cBus.sndI2cBitProbeaddr, if_pos ten]
    · rw [I2cCall.Carried, if_pos ten]
      exact ⟨rfl, rfl⟩

theorem exec_carries (conforms : Conforms slave) (ready : Ready bus.lines) (call : I2cCall) (reads : call.Reads) :
    ∃ message, Carries slave bus call message := by
  cases call with
  | sendbytes device bytes => exact sendbytes_carries conforms ready device bytes
  | readbytes device count =>
    obtain ⟨count, rfl⟩ := Nat.exists_eq_add_one_of_ne_zero (Nat.ne_of_gt reads)
    exact readbytes_carries conforms ready device count
  | probeaddr addr => exact probeaddr_carries conforms ready addr

end messages

def SndI2cBus.quiet (output : Bool) : SndI2cBus := ⟨⟨true, true, none, []⟩, output, []⟩

def patient : Slave := fun symbols =>
  if (phase symbols).slaveTurn then (symbols.reverse.takeWhile (· ≠ .start)).length = 35 else true

theorem patient_conforms : Conforms patient := by
  intro symbols turn
  simp [patient, turn]

def probeAndTalk : List I2cCall :=
  [.probeaddr 0x10, .sendbytes ⟨0x10, false⟩ [0x81, 0x05, 0x3c, 0x77], .readbytes ⟨0x10, false⟩ 2, .probeaddr 0x80]

end AlsaDriver.I2c
