import Mathlib

namespace TwoWire

inductive Symbol where
  | start
  | stop
  | bit (b : Bool)
  deriving DecidableEq

abbrev Slave := List Symbol → Bool

structure Lines where
  scl : Bool
  sda : Bool
  pending : Option Bool
  symbols : List Symbol

def Lines.drive (slave : Slave) (l : Lines) (scl sda : Bool) : Lines :=
  let level := sda && slave l.symbols
  match l.scl, scl with
  | false, true => { l with scl := true, sda := level, pending := some level }
  | true, true =>
    if level = l.sda then l
    else { l with sda := level, pending := none, symbols := l.symbols ++ [if level then .stop else .start] }
  | true, false => ⟨false, level, none, l.symbols ++ l.pending.toList.map .bit⟩
  | false, false => { l with sda := level }

inductive Phase where
  | free
  | address (n : Nat)
  | addressAck (reads : Bool)
  | write (n : Nat)
  | writeAck
  | read (n : Nat)
  | readAck
  | ended
  deriving DecidableEq

def Phase.next : Phase → Symbol → Phase
  | _, .start => .address 0
  | _, .stop => .free
  | .address n, .bit b => if n = 7 then .addressAck b else .address (n + 1)
  | .addressAck reads, .bit nak => if nak then .ended else if reads then .read 0 else .write 0
  | .write n, .bit _ => if n = 7 then .writeAck else .write (n + 1)
  | .writeAck, .bit nak => if nak then .ended else .write 0
  | .read n, .bit _ => if n = 7 then .readAck else .read (n + 1)
  | .readAck, .bit nak => if nak then .ended else .read 0
  | .free, .bit _ => .free
  | .ended, .bit _ => .ended

def phase (symbols : List Symbol) : Phase := symbols.foldl Phase.next .free

def Phase.slaveTurn : Phase → Bool
  | .addressAck _ | .writeAck | .read _ => true
  | _ => false

def Conforms (slave : Slave) : Prop := ∀ symbols, (phase symbols).slaveTurn = false → slave symbols = true

def byteBits (b : BitVec 8) : List Bool :=
  [b.getLsbD 7, b.getLsbD 6, b.getLsbD 5, b.getLsbD 4, b.getLsbD 3, b.getLsbD 2, b.getLsbD 1, b.getLsbD 0]

def byteOf (bits : List Bool) : BitVec 8 := bits.foldl (fun acc b => acc <<< 1 ||| (BitVec.ofBool b).setWidth 8) 0

structure Message where
  bytes : List (BitVec 8 × Bool)
  stopped : Bool
  deriving DecidableEq

def byteSymbols (b : BitVec 8 × Bool) : List Symbol := (byteBits b.1).map .bit ++ [.bit b.2]

def Message.symbols (m : Message) : List Symbol :=
  .start :: m.bytes.flatMap byteSymbols ++ if m.stopped then [.stop] else []

structure Listener where
  messages : List Message
  current : Option Message
  bits : List Bool

def Listener.hear (l : Listener) : Symbol → Listener
  | .start => ⟨l.messages ++ l.current.toList, some ⟨[], false⟩, []⟩
  | .stop => { l with current := l.current.map fun m => { m with stopped := true }, bits := [] }
  | .bit b =>
    if l.bits.length = 8 then
      { l with current := l.current.map fun m => { m with bytes := m.bytes ++ [(byteOf l.bits, b)] }, bits := [] }
    else { l with bits := l.bits ++ [b] }

def listen (symbols : List Symbol) : List Message :=
  let l := symbols.foldl Listener.hear ⟨[], none, []⟩
  l.messages ++ l.current.toList

theorem byteOf_byteBits (b : BitVec 8) : byteOf (byteBits b) = b := by
  revert b
  decide

section listening

variable {ms : List Message} {m : Message}

theorem hear_byte (b : BitVec 8 × Bool) :
    (byteSymbols b).foldl Listener.hear ⟨ms, some m, []⟩ = ⟨ms, some { m with bytes := m.bytes ++ [b] }, []⟩ := by
  obtain ⟨byte, ack⟩ := b
  simpa [byteSymbols, byteBits, Listener.hear] using byteOf_byteBits byte

theorem hear_bytes (bytes : List (BitVec 8 × Bool)) :
    (bytes.flatMap byteSymbols).foldl Listener.hear ⟨ms, some m, []⟩ = ⟨ms, some { m with bytes := m.bytes ++ bytes }, []⟩ := by
  induction bytes generalizing m with
  | nil => simp
  | cons b rest ih => simp [List.foldl_append, hear_byte, ih]

theorem hear_message (l : Listener) (m : Message) :
    m.symbols.foldl Listener.hear l = ⟨l.messages ++ l.current.toList, some m, []⟩ := by
  obtain ⟨bytes, stopped⟩ := m
  cases stopped <;> simp [Message.symbols, Listener.hear, hear_bytes]

theorem listen_messages (ms : List Message) : listen (ms.flatMap Message.symbols) = ms := by
  have all (ms : List Message) (l : Listener) :
      ((ms.flatMap Message.symbols).foldl Listener.hear l).messages ++
        ((ms.flatMap Message.symbols).foldl Listener.hear l).current.toList = l.messages ++ l.current.toList ++ ms := by
    induction ms generalizing l with
    | nil => simp
    | cons m rest ih => simp [List.foldl_append, hear_message, ih]
  simpa [listen] using all ms ⟨[], none, []⟩

end listening

section phases

variable {symbols more : List Symbol}

theorem phase_append : phase (symbols ++ more) = more.foldl Phase.next (phase symbols) := List.foldl_append

@[simp] theorem phase_start : phase (symbols ++ [.start]) = .address 0 := by
  simp [phase_append, Phase.next]

@[simp] theorem phase_stop : phase (symbols ++ [.stop]) = .free := by
  simp [phase_append, Phase.next]

theorem next_address (n : Nat) (b : Bool) (few : n < 7) : (Phase.address n).next (.bit b) = .address (n + 1) := by
  simp [Phase.next, Nat.ne_of_lt few]

theorem next_write (n : Nat) (b : Bool) (few : n < 7) : (Phase.write n).next (.bit b) = .write (n + 1) := by
  simp [Phase.next, Nat.ne_of_lt few]

theorem phase_addressed (b : BitVec 8) (here : phase symbols = .address 0) :
    phase (symbols ++ (byteBits b).map .bit) = .addressAck (b.getLsbD 0) := by
  rw [phase_append, here]
  simp [byteBits, Phase.next]

theorem phase_written (b : BitVec 8) (here : phase symbols = .write 0) :
    phase (symbols ++ (byteBits b).map .bit) = .writeAck := by
  rw [phase_append, here]
  simp [byteBits, Phase.next]

theorem phase_read (b : BitVec 8) (here : phase symbols = .read 0) :
    phase (symbols ++ (byteBits b).map .bit) = .readAck := by
  rw [phase_append, here]
  simp [byteBits, Phase.next]

end phases

section driving

variable {slave : Slave} {l : Lines} {symbols : List Symbol} {sda : Bool}

theorem drive_pulse (slave : Slave) (symbols : List Symbol) (sda d : Bool) :
    (((Lines.mk false sda none symbols).drive slave false d).drive slave true d).drive slave false d =
      ⟨false, d && slave symbols, none, symbols ++ [.bit (d && slave symbols)]⟩ := by
  simp [Lines.drive]

inductive Ready : Lines → Prop where
  | idle (symbols : List Symbol) (turn : (phase symbols).slaveTurn = false) : Ready ⟨true, true, none, symbols⟩
  | low (sda : Bool) (symbols : List Symbol) (turn : (phase symbols).slaveTurn = false) : Ready ⟨false, sda, none, symbols⟩

theorem Ready.start (ready : Ready l) (conforms : Conforms slave) :
    ((l.drive slave true true).drive slave true false).drive slave false false =
      ⟨false, false, none, l.symbols ++ [.start]⟩ := by
  cases ready with
  | idle symbols turn => simp [Lines.drive, conforms symbols turn]
  | low sda symbols turn => simp [Lines.drive, conforms symbols turn]

theorem drive_stop (sda : Bool) (conforms : Conforms slave) (turn : (phase symbols).slaveTurn = false) :
    (((Lines.mk false sda none symbols).drive slave false false).drive slave true false).drive slave true true =
      ⟨true, true, none, symbols ++ [.stop]⟩ := by
  simp [Lines.drive, conforms symbols turn]

end driving

end TwoWire
