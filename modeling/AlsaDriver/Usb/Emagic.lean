import Mathlib.Data.List.TakeWhile
import AlsaDriver.Lib.Words
import AlsaDriver.Lib.Runs
import AlsaDriver.Lib.Transducer

namespace AlsaDriver.Usb

open Words Transducer

structure EmagicIn where
  currentPort : Nat
  seenF5 : Bool
  deriving DecidableEq

namespace EmagicIn

variable (ep : EmagicIn)

/-- `snd_usbmidi_emagic_input` behind its label `switch_port`, for what follows an F5. -/
def switchPort : List Nat → EmagicIn × List Nat
  | [] => ({ ep with seenF5 := true }, [])
  | b :: rest =>
    if b < 0x80 then (⟨toUnsigned 4 ((b : Int) - 1), false⟩, rest) else ({ ep with seenF5 := false }, b :: rest)

theorem length_switchPort (buffer : List Nat) : (ep.switchPort buffer).2.length ≤ buffer.length := by
  cases buffer with
  | nil => exact Nat.le_refl _
  | cons b rest =>
    rw [switchPort]
    split
    · exact Nat.le_succ _
    · exact Nat.le_refl _

/-- The loop of `snd_usbmidi_emagic_input`, with the calls of `snd_usbmidi_input_data`. -/
def emagicLoop (ep : EmagicIn) (buffer : List Nat) : EmagicIn × List (Nat × List Nat) :=
  match buffer with
  | [] => (ep, [])
  | b :: rest =>
    let data := (b :: rest).takeWhile (· ≠ 0xf5)
    let after := (b :: rest).dropWhile (· ≠ 0xf5)
    if after = [] then (ep, [(ep.currentPort, data)])
    else
      let next := ep.switchPort after.tail
      let more := emagicLoop next.1 next.2
      (more.1, (ep.currentPort, data) :: more.2)
  termination_by buffer.length
  decreasing_by
    have drop := (List.dropWhile_suffix (· ≠ 0xf5) (l := b :: rest)).length_le
    have shorter := length_switchPort ep ((b :: rest).dropWhile (· ≠ 0xf5)).tail
    rw [List.length_tail] at shorter
    rw [List.length_cons] at drop ⊢
    omega

/-- `snd_usbmidi_emagic_input`: FF ends the valid data. -/
def emagicInput (ep : EmagicIn) (buffer : List Nat) : EmagicIn × List (Nat × List Nat) :=
  let valid := buffer.takeWhile (· ≠ 0xff)
  if ep.seenF5 then (ep.switchPort valid).1.emagicLoop (ep.switchPort valid).2 else ep.emagicLoop valid

end EmagicIn

/-- A port with the bytes that its substream has for `snd_rawmidi_transmit`. -/
structure EmagicPort where
  substream : List Nat
  active : Bool

structure EmagicOut where
  ports : Nat → EmagicPort
  currentPort : Nat

namespace EmagicOut

variable (ep : EmagicOut)

def setPort (p : Nat) (port : EmagicPort) : EmagicOut := { ep with ports := Function.update ep.ports p port }

def header (portnum : Nat) : List Nat := if portnum ≠ ep.currentPort then [0xf5, (portnum + 1) &&& 15] else []

/-- The loop of `snd_usbmidi_emagic_output` for the ports at the distances `l` from `port0`. A byte that was
    only peeked at is not behind the end of the buffer. -/
def outputLoop (maxTransfer port0 : Nat) : List Nat → EmagicOut → List Nat → EmagicOut × List Nat
  | [], ep, buf => (ep, buf)
  | i :: rest, ep, buf =>
    let portnum := (port0 + i) &&& 15
    let port := ep.ports portnum
    if port.active = false then outputLoop maxTransfer port0 rest ep buf
    else if port.substream = [] then outputLoop maxTransfer port0 rest (ep.setPort portnum { port with active := false }) buf
    else if portnum ≠ ep.currentPort ∧ maxTransfer - buf.length < 2 then (ep, buf)
    else
      let buf := buf ++ ep.header portnum
      let ep := { ep with currentPort := portnum }
      if maxTransfer - buf.length < 1 then (ep, buf)
      else
        let length := min (maxTransfer - buf.length) port.substream.length
        let ep := ep.setPort portnum { port with substream := port.substream.drop length }
        let buf := buf ++ port.substream.take length
        if 0 < length ∧ maxTransfer - buf.length < 1 then (ep, buf)
        else outputLoop maxTransfer port0 rest ep buf

/-- `snd_usbmidi_emagic_output`, with the buffer up to its transfer length. -/
def emagicOutput (maxTransfer : Nat) : EmagicOut × List Nat :=
  let filled := outputLoop maxTransfer ep.currentPort (List.range 0x10) ep []
  if 0 < filled.2.length ∧ filled.2.length < maxTransfer then (filled.1, filled.2 ++ [0xff]) else filled

end EmagicOut

structure EmagicLink where
  out : EmagicOut
  inp : EmagicIn
  written : Nat → List Nat
  received : Nat → List Nat

def delivered (p : Nat) (calls : List (Nat × List Nat)) : List Nat :=
  calls.flatMap fun call => if call.1 = p then call.2 else []

inductive EmagicOp where
  | write (p : Nat) (bytes : List Nat)
  | trigger (p : Nat) (up : Bool)
  | output

namespace EmagicLink

variable (s : EmagicLink)

def exec (maxTransfer : Nat) (s : EmagicLink) : EmagicOp → EmagicLink
  | .write p bytes =>
    { s with
      out := s.out.setPort p { s.out.ports p with substream := (s.out.ports p).substream ++ bytes }
      written := Function.update s.written p (s.written p ++ bytes) }
  | .trigger p up => { s with out := s.out.setPort p { s.out.ports p with active := up } }
  | .output =>
    let filled := s.out.emagicOutput maxTransfer
    let got := s.inp.emagicInput filled.2
    { s with
      out := filled.1
      inp := got.1
      received := fun p => s.received p ++ delivered p got.2 }

def start (port : Nat) : EmagicLink :=
  ⟨⟨fun _ => ⟨[], false⟩, port⟩, ⟨port, false⟩, fun _ => [], fun _ => []⟩

end EmagicLink

end AlsaDriver.Usb

namespace AlsaDriver.Usb

open Words Transducer Runs

section

variable {p : Nat}

theorem delivered_nil : delivered p [] = [] := rfl

theorem delivered_append (first second : List (Nat × List Nat)) :
    delivered p (first ++ second) = delivered p first ++ delivered p second := List.flatMap_append

theorem delivered_cons (call : Nat × List Nat) (rest : List (Nat × List Nat)) :
    delivered p (call :: rest) = (if call.1 = p then call.2 else []) ++ delivered p rest := List.flatMap_cons

theorem delivered_bytes (port : Nat) (data : List Nat) :
    delivered p (data.map fun b => (port, [b])) = if port = p then data else [] := by
  induction data with
  | nil => rw [List.map_nil, delivered_nil, ite_self]
  | cons b rest ih =>
    rw [List.map_cons, delivered_cons, ih]
    split
    · rfl
    · rfl

end

namespace EmagicIn

variable {ep : EmagicIn}

def copyByte (ep : EmagicIn) (b : Nat) : EmagicIn × List (Nat × List Nat) :=
  if b = 0xf5 then ({ ep with seenF5 := true }, []) else (ep, [(ep.currentPort, [b])])

def step (ep : EmagicIn) (b : Nat) : EmagicIn × List (Nat × List Nat) :=
  if ep.seenF5 then
    if b < 0x80 then (⟨toUnsigned 4 ((b : Int) - 1), false⟩, []) else copyByte { ep with seenF5 := false } b
  else ep.copyByte b

theorem step_data (unseen : ep.seenF5 = false) {b : Nat} (data : b ≠ 0xf5) : step ep b = (ep, [(ep.currentPort, [b])]) := by
  rw [step, if_neg (Bool.eq_false_iff.mp unseen), copyByte, if_neg data]

theorem step_f5 (unseen : ep.seenF5 = false) : step ep 0xf5 = ({ ep with seenF5 := true }, []) := by
  rw [step, if_neg (Bool.eq_false_iff.mp unseen), copyByte, if_pos rfl]

theorem run_data (unseen : ep.seenF5 = false) {data : List Nat} (clean : ∀ b ∈ data, b ≠ 0xf5) :
    run step ep data = (ep, data.map fun b => (ep.currentPort, [b])) :=
  run_still fun b inside => step_data unseen (clean b inside)

theorem run_switchPort (ep : EmagicIn) (after : List Nat) :
    run step { ep with seenF5 := true } after = run step (ep.switchPort after).1 (ep.switchPort after).2 ∧
      ((ep.switchPort after).2 ≠ [] → (ep.switchPort after).1.seenF5 = false) := by
  cases after with
  | nil => exact ⟨rfl, fun some => absurd rfl some⟩
  | cons b rest =>
    rw [switchPort]
    split
    · rename_i port
      refine ⟨?_, fun _ => rfl⟩
      have first : step { ep with seenF5 := true } b = (⟨toUnsigned 4 ((b : Int) - 1), false⟩, []) := by
        rw [step, if_pos rfl, if_pos port]
      rw [run, first]
      rfl
    · rename_i data
      refine ⟨?_, fun _ => rfl⟩
      have first : step { ep with seenF5 := true } b = step { ep with seenF5 := false } b := by
        rw [step, if_pos rfl, if_neg data]
        rfl
      rw [run, first]
      rfl

theorem emagicLoop_run (buffer : List Nat) (unseen : buffer ≠ [] → ep.seenF5 = false) :
    (ep.emagicLoop buffer).1 = (run step ep buffer).1 ∧
      ∀ p, delivered p (ep.emagicLoop buffer).2 = delivered p (run step ep buffer).2 := by
  induction size : buffer.length using Nat.strongRecOn generalizing ep buffer with
  | ind n ih =>
    cases buffer with
    | nil =>
      rw [emagicLoop]
      exact ⟨rfl, fun _ => rfl⟩
    | cons b rest =>
      have fresh := unseen (List.cons_ne_nil b rest)
      have parts := List.takeWhile_append_dropWhile (p := (· ≠ 0xf5)) (l := b :: rest)
      have clean : ∀ c ∈ (b :: rest).takeWhile (· ≠ 0xf5), c ≠ 0xf5 := by
        intro c inside
        exact of_decide_eq_true (List.mem_takeWhile_imp (p := fun c => decide (c ≠ 0xf5)) inside)
      rw [emagicLoop]
      dsimp only
      split
      · rename_i none
        rw [none, List.append_nil] at parts
        have all := run_data fresh clean
        rw [parts] at all clean
        rw [all, parts]
        refine ⟨rfl, fun p => ?_⟩
        rw [delivered_bytes, delivered_cons, delivered_nil, List.append_nil]
      · rename_i some
        have mark : ((b :: rest).dropWhile (· ≠ 0xf5)).head some = 0xf5 := by
          have head := List.head_dropWhile_not (p := fun b : Nat => decide (b ≠ 0xf5)) some
          simpa using head
        obtain ⟨after, shape⟩ : ∃ after, (b :: rest).dropWhile (· ≠ 0xf5) = 0xf5 :: after :=
          ⟨_, (mark ▸ List.cons_head_tail some).symm⟩
        rw [shape] at parts
        rw [shape, List.tail_cons]
        obtain ⟨switched, unseen'⟩ := run_switchPort ep after
        have fewer : (ep.switchPort after).2.length < n := by
          have drop := congrArg List.length parts
          have shorter := length_switchPort ep after
          rw [List.length_append, List.length_cons] at drop
          omega
        obtain ⟨state, calls⟩ := ih _ fewer _ unseen' rfl
        have whole := congrArg (run step ep) parts
        rw [run_append, run_data fresh clean, run, step_f5 fresh, switched] at whole
        rw [← whole]
        refine ⟨state, fun p => ?_⟩
        rw [delivered_cons, delivered_append, delivered_bytes, List.nil_append, calls]

theorem emagicInput_run (ep : EmagicIn) (buffer : List Nat) :
    (ep.emagicInput buffer).1 = (run step ep (buffer.takeWhile (· ≠ 0xff))).1 ∧
      ∀ p, delivered p (ep.emagicInput buffer).2 = delivered p (run step ep (buffer.takeWhile (· ≠ 0xff))).2 := by
  rw [emagicInput]
  split
  · rename_i seen
    obtain ⟨switched, unseen⟩ := run_switchPort ep (buffer.takeWhile (· ≠ 0xff))
    have same : ({ ep with seenF5 := true } : EmagicIn) = ep := by rw [← seen]
    rw [same] at switched
    rw [switched]
    exact emagicLoop_run _ unseen
  · rename_i unseen
    exact emagicLoop_run _ fun _ => eq_false_of_ne_true unseen

theorem takeWhile_clean {buffer : List Nat} (clean : ∀ b ∈ buffer, b ≠ 0xff) (pad : List Nat) :
    (buffer ++ 0xff :: pad).takeWhile (· ≠ 0xff) = buffer := by
  rw [List.takeWhile_append_of_pos fun b inside => decide_eq_true (clean b inside), List.takeWhile_cons_of_neg, List.append_nil]
  decide

theorem takeWhile_all {buffer : List Nat} (clean : ∀ b ∈ buffer, b ≠ 0xff) : buffer.takeWhile (· ≠ 0xff) = buffer :=
  List.takeWhile_eq_self_iff.mpr fun b inside => decide_eq_true (clean b inside)

theorem feed_emagicInput (ep : EmagicIn) (pieces : List (List Nat)) (clean : ∀ piece ∈ pieces, ∀ b ∈ piece, b ≠ 0xff) (p : Nat) :
    delivered p (feed emagicInput ep pieces).2 = delivered p (run step ep pieces.flatten).2 := by
  induction pieces generalizing ep with
  | nil => rfl
  | cons piece rest ih =>
    obtain ⟨state, calls⟩ := emagicInput_run ep piece
    rw [takeWhile_all (clean piece List.mem_cons_self)] at state calls
    rw [feed, List.flatten_cons, run_append, delivered_append, delivered_append, calls, state,
      ih _ fun piece inside => clean piece (List.mem_cons_of_mem _ inside)]

end EmagicIn

namespace EmagicOut

open EmagicIn

variable {ep : EmagicOut} {buf : List Nat}

def Clean (port : EmagicPort) : Prop := ∀ b ∈ port.substream, b ≠ 0xf5 ∧ b ≠ 0xff

structure Encodes (first : EmagicIn) (ports : Nat → EmagicPort) (ep : EmagicOut) (buf : List Nat) : Prop where
  state : (run step first buf).1 = ⟨ep.currentPort, false⟩
  bytes : ∀ p, delivered p (run step first buf).2 ++ (ep.ports p).substream = (ports p).substream
  clean : ∀ b ∈ buf, b ≠ 0xff

theorem activate_substream (ep : EmagicOut) (q : Nat) (up : Bool) (p : Nat) :
    ((ep.setPort q { ep.ports q with active := up }).ports p).substream = (ep.ports p).substream := by
  show (Function.update ep.ports q _ p).substream = _
  rw [Function.update_apply]
  split
  · rename_i here
    rw [here]
  · rfl

theorem port_number : ∀ p < 16, (p + 1) &&& 15 < 0x80 ∧ (p + 1) &&& 15 ≠ 0xff ∧
    toUnsigned 4 ((((p + 1) &&& 15 : Nat) : Int) - 1) = p := by decide

theorem Encodes.switch {first : EmagicIn} {ports : Nat → EmagicPort} (encodes : Encodes first ports ep buf) {q : Nat} (some : q < 16) :
    Encodes first ports { ep with currentPort := q } (buf ++ ep.header q) := by
  rw [header]
  split
  · obtain ⟨low, other, port⟩ := port_number q some
    have switched : run step ⟨ep.currentPort, false⟩ [0xf5, (q + 1) &&& 15] = (⟨q, false⟩, []) := by
      have second : step ⟨ep.currentPort, true⟩ ((q + 1) &&& 15) = (⟨q, false⟩, []) := by
        rw [step, if_pos rfl, if_pos low, port]
      rw [run, step_f5 rfl, run, second]
      rfl
    refine ⟨?_, ?_, ?_⟩
    · rw [run_append, encodes.state, switched]
    · intro p
      rw [run_append, encodes.state, switched, List.append_nil]
      exact encodes.bytes p
    · intro b inside
      rcases List.mem_append.mp inside with old | new
      · exact encodes.clean b old
      · rcases List.mem_pair.mp new with rfl | rfl
        · decide
        · exact other
  · rename_i same
    rw [not_not.mp same, List.append_nil]
    exact encodes

theorem Encodes.transmit {first : EmagicIn} {ports : Nat → EmagicPort} (encodes : Encodes first ports ep buf)
    (clean : Clean (ep.ports ep.currentPort)) (length : Nat) :
    Encodes first ports (ep.setPort ep.currentPort
        { ep.ports ep.currentPort with substream := (ep.ports ep.currentPort).substream.drop length })
      (buf ++ (ep.ports ep.currentPort).substream.take length) := by
  have copied : run step ⟨ep.currentPort, false⟩ ((ep.ports ep.currentPort).substream.take length) = _ :=
    run_data rfl fun b inside => (clean b (List.mem_of_mem_take inside)).1
  refine ⟨?_, ?_, ?_⟩
  · rw [run_append, encodes.state, copied]
    rfl
  · intro p
    rw [run_append, encodes.state, copied, delivered_append, delivered_bytes, ← encodes.bytes p, List.append_assoc]
    congr 1
    show _ ++ (Function.update ep.ports ep.currentPort _ p).substream = _
    split
    · rename_i here
      rw [← here, Function.update_self]
      exact List.take_append_drop length _
    · rename_i other
      rw [Function.update_of_ne (Ne.symm other)]
      rfl
  · intro b inside
    rcases List.mem_append.mp inside with old | new
    · exact encodes.clean b old
    · exact (clean b (List.mem_of_mem_take new)).2

theorem Encodes.clean_port {first : EmagicIn} {ports : Nat → EmagicPort} (encodes : Encodes first ports ep buf)
    (clean : ∀ p, Clean (ports p)) (p : Nat) : Clean (ep.ports p) := by
  intro b inside
  apply clean p b
  rw [← encodes.bytes p]
  exact List.mem_append_right _ inside

theorem portnum_lt (n : Nat) : n &&& 15 < 16 := Nat.lt_of_le_of_lt Nat.and_le_right (by decide)

theorem Encodes.loop {first : EmagicIn} {ports : Nat → EmagicPort} (encodes : Encodes first ports ep buf)
    (clean : ∀ p, Clean (ports p)) (maxTransfer port0 : Nat) (l : List Nat) :
    Encodes first ports (outputLoop maxTransfer port0 l ep buf).1 (outputLoop maxTransfer port0 l ep buf).2 := by
  induction l generalizing ep buf with
  | nil => exact encodes
  | cons i rest ih =>
    rw [outputLoop]
    dsimp only
    split
    · exact ih encodes
    · split
      · apply ih
        refine ⟨encodes.state, ?_, encodes.clean⟩
        intro p
        rw [activate_substream]
        exact encodes.bytes p
      · split
        · exact encodes
        · have switched := encodes.switch (portnum_lt (port0 + i))
          split
          · exact switched
          · have sent := switched.transmit (switched.clean_port clean _)
              (min (maxTransfer - (buf ++ ep.header ((port0 + i) &&& 15)).length) (ep.ports ((port0 + i) &&& 15)).substream.length)
            split
            · exact sent
            · exact ih sent

theorem outputLoop_suffix (maxTransfer port0 : Nat) (l : List Nat) (p : Nat) :
    ((outputLoop maxTransfer port0 l ep buf).1.ports p).substream <:+ (ep.ports p).substream := by
  induction l generalizing ep buf with
  | nil => exact List.suffix_rfl
  | cons i rest ih =>
    have dropped (n : Nat) (ep : EmagicOut) (q : Nat) :
        ((ep.setPort q { ep.ports q with substream := (ep.ports q).substream.drop n }).ports p).substream <:+
          (ep.ports p).substream := by
      show (Function.update ep.ports q _ p).substream <:+ _
      by_cases here : p = q
      · rw [here, Function.update_self]
        exact List.drop_suffix n _
      · rw [Function.update_of_ne here]
    rw [outputLoop]
    dsimp only
    split
    · exact ih
    · split
      · have same := activate_substream ep ((port0 + i) &&& 15) false p
        rw [← same]
        exact ih
      · split
        · exact List.suffix_rfl
        · split
          · exact List.suffix_rfl
          · split
            · exact dropped _ { ep with currentPort := (port0 + i) &&& 15 } _
            · exact ih.trans (dropped _ { ep with currentPort := (port0 + i) &&& 15 } _)

def Busy (ep : EmagicOut) (p : Nat) : Prop := (ep.ports p).active = true ∧ (ep.ports p).substream ≠ []

theorem outputLoop_moves {maxTransfer port0 : Nat} (room : 3 ≤ maxTransfer) {l : List Nat} {i : Nat} (inside : i ∈ l)
    (busy : ep.Busy ((port0 + i) &&& 15)) :
    ∃ p, ((outputLoop maxTransfer port0 l ep []).1.ports p).substream.length < (ep.ports p).substream.length := by
  induction l generalizing ep with
  | nil => exact absurd inside List.not_mem_nil
  | cons j rest ih =>
    rw [outputLoop]
    dsimp only
    split
    · rename_i idle
      rcases List.mem_cons.mp inside with same | later
      · rw [same, Busy, idle] at busy
        exact absurd busy.1 Bool.false_ne_true
      · exact ih later busy
    · split
      · rename_i empty
        rcases List.mem_cons.mp inside with same | later
        · rw [same] at busy
          exact absurd empty busy.2
        · have same := activate_substream ep ((port0 + j) &&& 15) false
          have other : (port0 + i) &&& 15 ≠ (port0 + j) &&& 15 := fun here => busy.2 (here ▸ empty)
          have still : (ep.setPort ((port0 + j) &&& 15)
              { ep.ports ((port0 + j) &&& 15) with active := false }).Busy ((port0 + i) &&& 15) := by
            show (Function.update ep.ports _ _ _).active = true ∧ (Function.update ep.ports _ _ _).substream ≠ []
            rw [Function.update_of_ne other]
            exact busy
          obtain ⟨p, shorter⟩ := ih later still
          exact ⟨p, by rwa [same] at shorter⟩
      · rename_i some
        have short : (ep.header ((port0 + j) &&& 15)).length ≤ 2 := by
          rw [header]
          split
          · exact Nat.le_refl 2
          · exact Nat.zero_le 2
        have none : ([] ++ ep.header ((port0 + j) &&& 15)).length ≤ 2 := by rwa [List.nil_append]
        have pos := List.length_pos_iff.mpr some
        rw [if_neg (by simp only [List.length_nil]; omega), if_neg (by omega)]
        refine ⟨(port0 + j) &&& 15, ?_⟩
        have taken : ((({ ep with currentPort := (port0 + j) &&& 15 } : EmagicOut).setPort ((port0 + j) &&& 15)
            { ep.ports ((port0 + j) &&& 15) with
              substream := (ep.ports ((port0 + j) &&& 15)).substream.drop
                (min (maxTransfer - ([] ++ ep.header ((port0 + j) &&& 15)).length)
                  (ep.ports ((port0 + j) &&& 15)).substream.length) }).ports ((port0 + j) &&& 15)).substream.length <
              (ep.ports ((port0 + j) &&& 15)).substream.length := by
          show (Function.update ep.ports _ _ _).substream.length < _
          rw [Function.update_self, List.length_drop]
          omega
        split
        · exact taken
        · exact Nat.lt_of_le_of_lt (outputLoop_suffix maxTransfer port0 rest _).length_le taken

theorem Encodes.output (clean : ∀ p, Clean (ep.ports p)) (maxTransfer : Nat) :
    Encodes ⟨ep.currentPort, false⟩ ep.ports (ep.emagicOutput maxTransfer).1
      ((ep.emagicOutput maxTransfer).2.takeWhile (· ≠ 0xff)) := by
  have empty : Encodes ⟨ep.currentPort, false⟩ ep.ports ep [] := ⟨rfl, fun _ => rfl, fun _ inside => absurd inside List.not_mem_nil⟩
  have filled := empty.loop clean maxTransfer ep.currentPort (List.range 0x10)
  rw [emagicOutput]
  split
  · rw [takeWhile_clean filled.clean]
    exact filled
  · rw [takeWhile_all filled.clean]
    exact filled

theorem output_ports (maxTransfer : Nat) :
    (ep.emagicOutput maxTransfer).1 = (outputLoop maxTransfer ep.currentPort (List.range 0x10) ep []).1 := by
  rw [emagicOutput]
  split
  · rfl
  · rfl

theorem distance (port0 : Nat) {p : Nat} (some : p < 16) : ∃ i ∈ List.range 0x10, (port0 + i) &&& 15 = p := by
  refine ⟨(p + 16 - port0 % 16) % 16, List.mem_range.mpr (Nat.mod_lt _ (by decide)), ?_⟩
  have mask : (port0 + (p + 16 - port0 % 16) % 16) &&& 15 = (port0 + (p + 16 - port0 % 16) % 16) % 16 :=
    Nat.and_two_pow_sub_one_eq_mod _ 4
  rw [mask]
  omega

theorem output_moves {maxTransfer : Nat} (room : 3 ≤ maxTransfer) {p : Nat} (some : p < 16) (busy : ep.Busy p) :
    ∃ p, ((ep.emagicOutput maxTransfer).1.ports p).substream.length < (ep.ports p).substream.length := by
  obtain ⟨i, inside, here⟩ := distance ep.currentPort some
  rw [output_ports]
  exact outputLoop_moves room inside (here ▸ busy)

end EmagicOut

namespace EmagicLink

open EmagicIn EmagicOut

variable {s : EmagicLink}

def CleanOp : EmagicOp → Prop
  | .write _ bytes => ∀ b ∈ bytes, b ≠ 0xf5 ∧ b ≠ 0xff
  | _ => True

instance : (op : EmagicOp) → Decidable (CleanOp op)
  | .write _ bytes => inferInstanceAs (Decidable (∀ b ∈ bytes, b ≠ 0xf5 ∧ b ≠ 0xff))
  | .trigger _ _ => .isTrue trivial
  | .output => .isTrue trivial

structure Inv (s : EmagicLink) : Prop where
  state : s.inp = ⟨s.out.currentPort, false⟩
  stream : ∀ p, s.received p ++ (s.out.ports p).substream = s.written p
  clean : ∀ p, EmagicOut.Clean (s.out.ports p)

/-- Every port has received what was written to it up to what its substream still has, and an output with data to
    send sends some of it. -/
structure Kept (maxTransfer : Nat) (s : EmagicLink) (op : EmagicOp) (s' : EmagicLink) : Prop where
  stream : ∀ p, s'.received p ++ (s'.out.ports p).substream = s'.written p
  moves : op = .output → 3 ≤ maxTransfer → (∃ p < 16, s.out.Busy p) → ∃ p, (s.received p).length < (s'.received p).length

theorem Inv.exec (inv : s.Inv) (maxTransfer : Nat) {op : EmagicOp} (clean : CleanOp op) :
    s.Kept maxTransfer op (exec maxTransfer s op) ∧ (exec maxTransfer s op).Inv := by
  cases op with
  | write p bytes =>
    have inv' : (EmagicLink.exec maxTransfer s (.write p bytes)).Inv := by
      refine ⟨inv.state, ?_, ?_⟩
      · intro q
        show s.received q ++ (Function.update s.out.ports p _ q).substream = Function.update s.written p _ q
        by_cases here : q = p
        · rw [here, Function.update_self, Function.update_self, ← inv.stream p, List.append_assoc]
        · rw [Function.update_of_ne here, Function.update_of_ne here]
          exact inv.stream q
      · intro q b inside
        have inside : b ∈ (Function.update s.out.ports p
          { s.out.ports p with substream := (s.out.ports p).substream ++ bytes } q).substream := inside
        by_cases here : q = p
        · rw [here, Function.update_self] at inside
          rcases List.mem_append.mp inside with old | new
          · exact inv.clean p b old
          · exact clean b new
        · rw [Function.update_of_ne here] at inside
          exact inv.clean q b inside
    exact ⟨⟨inv'.stream, fun same => by cases same⟩, inv'⟩
  | trigger p up =>
    have same := activate_substream s.out p up
    have inv' : (EmagicLink.exec maxTransfer s (.trigger p up)).Inv := by
      refine ⟨inv.state, ?_, ?_⟩
      · intro q
        exact (congrArg (s.received q ++ ·) (same q)).trans (inv.stream q)
      · intro q b inside
        exact inv.clean q b (same q ▸ inside)
    exact ⟨⟨inv'.stream, fun same => by cases same⟩, inv'⟩
  | output =>
    have encodes := Encodes.output inv.clean maxTransfer
    obtain ⟨state, calls⟩ := emagicInput_run s.inp (s.out.emagicOutput maxTransfer).2
    rw [inv.state] at state calls
    have inv' : (EmagicLink.exec maxTransfer s .output).Inv := by
      refine ⟨?_, ?_, encodes.clean_port inv.clean⟩
      · show (s.inp.emagicInput (s.out.emagicOutput maxTransfer).2).1 = _
        rw [inv.state, state]
        exact encodes.state
      · intro p
        show s.received p ++ delivered p (s.inp.emagicInput (s.out.emagicOutput maxTransfer).2).2 ++ _ = s.written p
        rw [inv.state, calls, List.append_assoc, ← inv.stream p]
        exact congrArg (s.received p ++ ·) (encodes.bytes p)
    refine ⟨⟨inv'.stream, ?_⟩, inv'⟩
    rintro - room ⟨p, some, busy⟩
    obtain ⟨q, shorter⟩ := output_moves room some busy
    have before := congrArg List.length (inv.stream q)
    have after := congrArg List.length (inv'.stream q)
    rw [List.length_append] at before after
    refine ⟨q, ?_⟩
    have same : (EmagicLink.exec maxTransfer s .output).written q = s.written q := rfl
    rw [same] at after
    have fewer : ((EmagicLink.exec maxTransfer s .output).out.ports q).substream.length < (s.out.ports q).substream.length :=
      shorter
    omega

theorem start_inv (port : Nat) : (start port).Inv := ⟨rfl, fun _ => rfl, fun _ _ inside => absurd inside List.not_mem_nil⟩

/-- The stream with the port switches loses nothing, and the cuts between its buffers do not matter. -/
theorem emagic_stream :
    (∀ maxTransfer port ops, (∀ op ∈ ops, CleanOp op) → Throughout (exec maxTransfer) (Kept maxTransfer) (start port) ops) ∧
      ∀ (ep : EmagicIn) (pieces pieces' : List (List Nat)), (∀ b ∈ pieces.flatten, b ≠ 0xff) →
        pieces.flatten = pieces'.flatten → ∀ p,
          delivered p (feed emagicInput ep pieces).2 = delivered p (feed emagicInput ep pieces').2 := by
  constructor
  · intro maxTransfer port ops clean
    have steps : Throughout (exec maxTransfer) (fun _ op _ => CleanOp op) (start port) ops :=
      Throughout.of_mem fun op inside _ => clean op inside
    exact steps.steps Inv (start_inv port) fun s op inv clean => inv.exec maxTransfer clean
  · intro ep pieces pieces' clean same p
    have inside {pieces : List (List Nat)} (clean : ∀ b ∈ pieces.flatten, b ≠ 0xff) (piece : List Nat) (member : piece ∈ pieces)
        (b : Nat) (here : b ∈ piece) : b ≠ 0xff := clean b (List.mem_flatten.mpr ⟨piece, member, here⟩)
    rw [feed_emagicInput ep pieces (inside clean), feed_emagicInput ep pieces' (inside (same ▸ clean)), same]

/-- Two ports in turn, and a buffer that ends behind an F5. -/
theorem emagic_stream_ports :
    Throughout (exec 4) (Kept 4) (start 0)
        [.write 0 [0x90, 60, 64], .write 15 [0xf8], .trigger 0 true, .trigger 15 true, .output, .output] ∧
      delivered 2 (feed emagicInput ⟨0, false⟩ [[1, 0xf5], [3, 2]]).2 =
        delivered 2 (feed emagicInput ⟨0, false⟩ [[1], [0xf5, 3, 2]]).2 :=
  ⟨emagic_stream.1 4 0 _ (by decide), emagic_stream.2 ⟨0, false⟩ [[1, 0xf5], [3, 2]] [[1], [0xf5, 3, 2]] (by decide) rfl 2⟩

end EmagicLink

end AlsaDriver.Usb
