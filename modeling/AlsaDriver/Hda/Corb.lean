import Mathlib
import AlsaDriver.Lib.Relay
import AlsaDriver.Lib.Runs

namespace AlsaDriver.Hda

open Ring Relay Runs

abbrev Word := BitVec 32

def EIO : Int := 5
def EAGAIN : Int := 11

def azxMaxCodecs : Nat := 8
def maxCorbEntries : Nat := 256
def maxRirbEntries : Nat := 256
def unsolQueueSize : Nat := 64

structure HdaBusUnsolicited where
  rp : Nat
  wp : Nat
  queue : Nat → Word

/-- The registers `CORBWP`, `CORBRP` and `RIRBWP`, the two rings in memory, the record of the driver about them and the
    queue for unsolicited events. `spurious` has the responses that the driver has complained about. -/
structure Azx where
  corbWP : Nat
  corbRP : Nat
  corbBuf : Nat → Word
  rirbWP : Nat
  rirbBuf : Nat → Word
  rp : Nat
  wp : Nat
  cmds : Nat → BitVec 32
  res : Nat → Word
  unsol : HdaBusUnsolicited
  spurious : List (Word × Word)

def azxCommandAddr (cmd : Word) : Nat :=
  let addr := (cmd >>> 28).toNat
  if azxMaxCodecs ≤ addr then 0 else addr

def azxResponseAddr (res : Word) : Nat :=
  let addr := (res &&& 0xf).toNat
  if azxMaxCodecs ≤ addr then 0 else addr

def azxReadw (alive : Bool) (value : Nat) : Nat := if alive then value else 0xffff

/-- Entry `e` of a buffer with two words for each entry. -/
def entryOf (buf : Nat → Word) (e : Nat) : Word × Word := (buf (e <<< 1), buf (e <<< 1 + 1))

def putEntry (buf : Nat → Word) (e : Nat) (entry : Word × Word) : Nat → Word :=
  Function.update (Function.update buf (e <<< 1) entry.1) (e <<< 1 + 1) entry.2

def isUnsolEv (resEx : Word) : Bool := resEx.getLsbD 4

namespace HdaBusUnsolicited

variable (unsol : HdaBusUnsolicited)

def sndHdaQueueUnsolEvent (res resEx : Word) : HdaBusUnsolicited :=
  let wp := (unsol.wp + 1) % unsolQueueSize
  { unsol with wp := wp, queue := putEntry unsol.queue wp (res, resEx) }

def handed (handler : Nat → Bool) (event : Word × Word) : Option (Nat × Word) :=
  if isUnsolEv event.2 && handler (event.2 &&& 0x0f).toNat then some ((event.2 &&& 0x0f).toNat, event.1) else none

/-- One turn of the loop of `process_unsol_events`, with the event for a handler. -/
def processUnsolEvent (handler : Nat → Bool) : HdaBusUnsolicited × Option (Nat × Word) :=
  if unsol.rp = unsol.wp then (unsol, none)
  else
    let rp := (unsol.rp + 1) % unsolQueueSize
    ({ unsol with rp := rp }, handed handler (entryOf unsol.queue rp))

end HdaBusUnsolicited

namespace Azx

variable (chip : Azx)

def azxInitCmdIo : Azx :=
  { chip with corbWP := 0, corbRP := 0, rirbWP := 0, rp := 0, wp := 0, cmds := fun _ => 0 }

def azxCorbSendCmd (alive : Bool) (val : Word) : Int × Azx :=
  let addr := azxCommandAddr val
  let wp := azxReadw alive chip.corbWP
  if wp = 0xffff then ( - EIO, chip)
  else
    let wp := (wp + 1) % maxCorbEntries
    let rp := azxReadw alive chip.corbRP
    if wp = rp then (-EAGAIN, chip)
    else (0, { chip with
      cmds := Function.update chip.cmds addr (chip.cmds addr + 1)
      corbBuf := Function.update chip.corbBuf wp val
      corbWP := wp })

/-- One turn of the loop of `azx_update_rirb`. -/
def rirbEntry : Azx :=
  let rp := (chip.rp + 1) % maxRirbEntries
  let (res, resEx) := entryOf chip.rirbBuf rp
  let addr := azxResponseAddr resEx
  if isUnsolEv resEx then { chip with rp := rp, unsol := chip.unsol.sndHdaQueueUnsolEvent res resEx }
  else if chip.cmds addr = 0 then { chip with rp := rp, spurious := chip.spurious ++ [(res, resEx)] }
  else
    { chip with
      rp := rp
      res := Function.update chip.res addr res
      cmds := Function.update chip.cmds addr (chip.cmds addr - 1) }

def rirbLoop : Nat → Nat → Azx → Option Azx
  | 0, wp, chip => if chip.rp = wp then some chip else none
  | fuel + 1, wp, chip => if chip.rp = wp then some chip else rirbLoop fuel wp chip.rirbEntry

def azxUpdateRirb (alive : Bool) : Option Azx :=
  let wp := azxReadw alive chip.rirbWP
  if wp = 0xffff then some chip
  else if wp = chip.wp then some chip
  else rirbLoop maxRirbEntries wp { chip with wp := wp }

/-- What `azx_rirb_get_response` returns when it looks, and nothing while it has to wait. -/
def rirbResponse (addr : Nat) : Option Word := if chip.cmds addr = 0 then some (chip.res addr) else none

def fetch : Azx × Option Word :=
  if chip.corbRP = chip.corbWP then (chip, none)
  else
    let rp := (chip.corbRP + 1) % maxCorbEntries
    ({ chip with corbRP := rp }, some (chip.corbBuf rp))

def store (entry : Word × Word) : Azx :=
  let wp := (chip.rirbWP + 1) % maxRirbEntries
  { chip with rirbWP := wp, rirbBuf := putEntry chip.rirbBuf wp entry }

end Azx

theorem entryOf_putEntry (buf : Nat → Word) (e : Nat) (entry : Word × Word) :
    entryOf (putEntry buf e entry) = Function.update (entryOf buf) e entry := by
  funext k
  simp only [entryOf, putEntry, Nat.shiftLeft_eq, pow_one]
  by_cases same : k = e
  · subst same
    simp
  · have first : k * 2 ≠ e * 2 := by omega
    have across : k * 2 ≠ e * 2 + 1 := by omega
    have across' : k * 2 + 1 ≠ e * 2 := by omega
    simp [same, first, across, across', entryOf, Nat.shiftLeft_eq]

open HdaBusUnsolicited

/-- A controller with all that has gone over its link: the commands that were taken into the ring, the commands that the
    controller has fetched, what the codecs have sent, how much of it the driver has seen, and the events that were
    processed and handed to codecs. -/
structure HdaLink where
  chip : Azx
  sent : List Word
  received : List Word
  entries : List (Word × Word)
  seen : Nat
  processed : Nat
  delivered : List (Nat × Word)

inductive LinkOp where
  | send (alive : Bool) (val : Word)
  | fetch
  | store (entry : Word × Word)
  | update (alive : Bool)
  | process

def toCodec (addr : Nat) (cmds : List Word) : List Word := cmds.filter fun cmd => azxCommandAddr cmd = addr

def isAnswer (addr : Nat) (entry : Word × Word) : Bool := !isUnsolEv entry.2 && azxResponseAddr entry.2 == addr

def answers (addr : Nat) (entries : List (Word × Word)) : List Word := (entries.filter (isAnswer addr)).map Prod.fst

def events (entries : List (Word × Word)) : List (Word × Word) := entries.filter fun entry => isUnsolEv entry.2

namespace HdaLink

variable (handler : Nat → Bool) (res₀ : Nat → Word) (s : HdaLink)

def start (chip : Azx) : HdaLink := ⟨chip.azxInitCmdIo, [], [], [], 0, 0, []⟩

def taken : List (Word × Word) := s.entries.take s.seen

def exec : LinkOp → HdaLink
  | .send alive val =>
    let (err, chip) := s.chip.azxCorbSendCmd alive val
    { s with chip := chip, sent := if err = 0 then s.sent ++ [val] else s.sent }
  | .fetch =>
    let (chip, cmd) := s.chip.fetch
    { s with chip := chip, received := s.received ++ cmd.toList }
  | .store entry => { s with chip := s.chip.store entry, entries := s.entries ++ [entry] }
  | .update alive =>
    match s.chip.azxUpdateRirb alive with
    | some chip => { s with chip := chip, seen := if alive then s.entries.length else s.seen }
    | none => s
  | .process =>
    let (unsol, event) := s.chip.unsol.processUnsolEvent handler
    { s with
      chip := { s.chip with unsol := unsol }
      processed := if s.chip.unsol.rp = s.chip.unsol.wp then s.processed else s.processed + 1
      delivered := s.delivered ++ event.toList }

/-- Commands go to the addresses of codecs, fewer than fit a counter at a time. A codec answers a command that it has
    got, and the driver keeps up with the responses and the events. -/
def Allowed : LinkOp → Prop
  | .send _ val => (val >>> 28).toNat < azxMaxCodecs ∧
      (toCodec (azxCommandAddr val) s.sent).length < (answers (azxCommandAddr val) s.taken).length + 0xffffffff
  | .store entry => s.entries.length + 1 < s.seen + maxRirbEntries ∧
      if isUnsolEv entry.2 then (events s.entries).length + 1 < s.processed + unsolQueueSize
      else (entry.2 &&& 0xf).toNat < azxMaxCodecs ∧
        (answers (azxResponseAddr entry.2) s.entries).length < (toCodec (azxResponseAddr entry.2) s.received).length
  | _ => True

structure Faithful : Prop where
  /-- The controller gets the commands once and in turn. -/
  commands : s.received ++ window maxCorbEntries s.chip.corbBuf (s.chip.corbRP + 1)
    ((s.chip.corbWP + maxCorbEntries - s.chip.corbRP) % maxCorbEntries) = s.sent
  /-- The driver gets what the codecs send once and in turn. -/
  responses : s.taken ++ window maxRirbEntries (entryOf s.chip.rirbBuf) (s.chip.rp + 1)
    ((s.chip.rirbWP + maxRirbEntries - s.chip.rp) % maxRirbEntries) = s.entries
  /-- The handlers get the events once and in turn. -/
  handled : s.delivered ++ (window unsolQueueSize (entryOf s.chip.unsol.queue) (s.chip.unsol.rp + 1)
    ((s.chip.unsol.wp + unsolQueueSize - s.chip.unsol.rp) % unsolQueueSize)).filterMap (handed handler) =
      (events s.taken).filterMap (handed handler)
  /-- A response that is returned is the answer to the last command, and no command waits for another. -/
  answered : ∀ addr res, s.chip.rirbResponse addr = some res →
    (answers addr s.entries).length = (toCodec addr s.sent).length ∧
      res = (answers addr s.entries).getLastD (res₀ addr)
  /-- And a response is returned as soon as the driver has seen all answers. -/
  returned : ∀ addr, (answers addr s.taken).length = (toCodec addr s.sent).length →
    (s.chip.rirbResponse addr).isSome
  spurious : s.chip.spurious = []

def Replies : LinkOp → HdaLink → Prop
  | .send alive val, s' =>
    (s.chip.azxCorbSendCmd alive val).1 =
      (if alive = false then - EIO else if s.received.length + 255 ≤ s.sent.length then -EAGAIN else 0) ∧
    ((s.chip.azxCorbSendCmd alive val).1 ≠ 0 → s' = s)
  | .update alive, s' => (s.chip.azxUpdateRirb alive).isSome ∧ (alive = true → s'.taken = s'.entries)
  | _, _ => True

structure CorbInv : Prop where
  received : s.received = s.sent.take s.received.length
  ring : Tracks maxCorbEntries s.chip.corbBuf s.chip.corbWP s.chip.corbRP s.sent s.received.length

structure CodecInv : Prop where
  answered : ∀ addr, (answers addr s.entries).length ≤ (toCodec addr s.received).length
  outstanding : ∀ addr, (toCodec addr s.sent).length ≤ (answers addr s.taken).length + 0xffffffff
  cmds : ∀ addr, s.chip.cmds addr + BitVec.ofNat 32 (answers addr s.taken).length = BitVec.ofNat 32 (toCodec addr s.sent).length
  res : ∀ addr, s.chip.res addr = (answers addr s.taken).getLastD (res₀ addr)
  spurious : s.chip.spurious = []

structure UnsolInv : Prop where
  room : (events s.entries).length < s.processed + unsolQueueSize
  ring : Tracks unsolQueueSize (entryOf s.chip.unsol.queue) s.chip.unsol.wp s.chip.unsol.rp (events s.taken) s.processed
  delivered : s.delivered = ((events s.taken).take s.processed).filterMap (handed handler)

structure Inv : Prop where
  commands : s.CorbInv
  ring : Tracks maxRirbEntries (entryOf s.chip.rirbBuf) s.chip.rirbWP s.chip.rp s.entries s.seen
  codecs : s.CodecInv res₀
  queue : s.UnsolInv handler

variable {handler res₀ s}

section counts

variable {addr : Nat}

@[simp] theorem toCodec_append (cmds more : List Word) : toCodec addr (cmds ++ more) = toCodec addr cmds ++ toCodec addr more := by
  simp [toCodec]

@[simp] theorem answers_append (es more : List (Word × Word)) : answers addr (es ++ more) = answers addr es ++ answers addr more := by
  simp [answers]

@[simp] theorem events_append (es more : List (Word × Word)) : events (es ++ more) = events es ++ events more := by
  simp [events]

theorem answers_one (entry : Word × Word) : answers addr [entry] = if isAnswer addr entry then [entry.1] else [] := by
  cases decided : isAnswer addr entry <;> simp [answers, decided]

theorem events_one (entry : Word × Word) : events [entry] = if isUnsolEv entry.2 then [entry] else [] := by
  cases decided : isUnsolEv entry.2 <;> simp [events, decided]

theorem toCodec_one (cmd : Word) : toCodec addr [cmd] = if azxCommandAddr cmd = addr then [cmd] else [] := by
  by_cases decided : azxCommandAddr cmd = addr <;> simp [toCodec, decided]

theorem toCodec_received (inv : s.CorbInv) : (toCodec addr s.received).length ≤ (toCodec addr s.sent).length := by
  rw [inv.received]
  exact ((List.take_sublist _ _).filter _).length_le

theorem answers_taken_le : (answers addr s.taken).length ≤ (answers addr s.entries).length :=
  (((List.take_sublist _ _).filter _).map _).length_le

theorem events_taken_le : (events s.taken).length ≤ (events s.entries).length :=
  ((List.take_sublist _ _).filter _).length_le

end counts

theorem Inv.bounds (inv : s.Inv handler res₀) (addr : Nat) :
    (answers addr s.taken).length ≤ (answers addr s.entries).length ∧
      (answers addr s.entries).length ≤ (toCodec addr s.sent).length ∧
      (toCodec addr s.sent).length ≤ (answers addr s.taken).length + 0xffffffff :=
  ⟨answers_taken_le, (inv.codecs.answered addr).trans (toCodec_received inv.commands), inv.codecs.outstanding addr⟩

theorem Inv.cmds_zero (inv : s.Inv handler res₀) (addr : Nat) :
    s.chip.cmds addr = 0 ↔ (answers addr s.taken).length = (toCodec addr s.sent).length := by
  obtain ⟨taken_le, entries_le, near⟩ := inv.bounds addr
  have count := inv.codecs.cmds addr
  obtain ⟨n, total⟩ := Nat.exists_eq_add_of_le (taken_le.trans entries_le)
  have value : s.chip.cmds addr = BitVec.ofNat 32 n := by
    rw [total, BitVec.ofNat_add, BitVec.add_comm] at count
    exact add_left_cancel count
  have short : n < 2 ^ 32 := by omega
  have small : n % 2 ^ 32 = n := Nat.mod_eq_of_lt short
  rw [value, total]
  constructor
  · intro none_
    have zero : n % 2 ^ 32 = 0 := by simpa using congrArg BitVec.toNat none_
    omega
  · intro same
    have zero : n = 0 := by omega
    rw [zero]
    rfl

theorem start_inv (chip : Azx) (empty : chip.unsol.rp = 0 ∧ chip.unsol.wp = 0) (quiet : chip.spurious = []) :
    (start chip).Inv handler chip.res where
  commands := ⟨rfl, tracks_nil (by decide)⟩
  ring := tracks_nil (by decide)
  codecs := ⟨fun _ => Nat.le_refl _, fun _ => Nat.zero_le _, fun _ => rfl, fun _ => rfl, quiet⟩
  queue := by
    obtain ⟨rp, wp⟩ := empty
    refine ⟨Nat.zero_lt_succ _, ?_, rfl⟩
    show Tracks unsolQueueSize _ chip.unsol.wp chip.unsol.rp [] 0
    rw [rp, wp]
    exact tracks_nil (by decide)

theorem Inv.faithful (inv : s.Inv handler res₀) : s.Faithful handler res₀ where
  commands := by
    rw [inv.commands.ring.window]
    nth_rewrite 1 [inv.commands.received]
    apply List.take_append_drop
  responses := by
    rw [inv.ring.window]
    apply List.take_append_drop
  handled := by
    rw [inv.queue.ring.window, inv.queue.delivered, ← List.filterMap_append, List.take_append_drop]
  answered := by
    intro addr res response
    unfold Azx.rirbResponse at response
    split at response
    · rename_i zero
      have all := (inv.cmds_zero addr).mp zero
      obtain ⟨taken_le, entries_le, -⟩ := inv.bounds addr
      have seen : answers addr s.taken = answers addr s.entries := by
        apply (((List.take_sublist _ _).filter _).map _).eq_of_length_le
        rw [all.symm] at entries_le
        exact entries_le
      constructor
      · omega
      · rw [← seen, ← inv.codecs.res addr]
        simpa using response.symm
    · cases response
  returned := by
    intro addr all
    have zero := (inv.cmds_zero addr).mpr all
    simp [Azx.rirbResponse, zero]
  spurious := inv.codecs.spurious

section turns

def turn (s : HdaLink) : HdaLink := { s with chip := s.chip.rirbEntry, seen := s.seen + 1 }

theorem taken_turn (inside : s.seen < s.entries.length) : s.turn.taken = s.taken ++ [s.entries[s.seen]] := by
  show s.entries.take (s.seen + 1) = s.entries.take s.seen ++ _
  rw [List.take_add_one, List.getElem?_eq_getElem inside]
  rfl

theorem rirbEntry_eq (chip : Azx) {entry : Word × Word}
    (here : entry = entryOf chip.rirbBuf ((chip.rp + 1) % maxRirbEntries)) :
    chip.rirbEntry =
      if isUnsolEv entry.2 then
        { chip with rp := (chip.rp + 1) % maxRirbEntries, unsol := chip.unsol.sndHdaQueueUnsolEvent entry.1 entry.2 }
      else if chip.cmds (azxResponseAddr entry.2) = 0 then
        { chip with rp := (chip.rp + 1) % maxRirbEntries, spurious := chip.spurious ++ [entry] }
      else
        { chip with
          rp := (chip.rp + 1) % maxRirbEntries
          res := Function.update chip.res (azxResponseAddr entry.2) entry.1
          cmds := Function.update chip.cmds (azxResponseAddr entry.2) (chip.cmds (azxResponseAddr entry.2) - 1) } := by
  subst here
  rfl

theorem rirbEntry_frame (chip : Azx) : chip.rirbEntry = { chip with
    rp := (chip.rp + 1) % maxRirbEntries
    unsol := chip.rirbEntry.unsol
    cmds := chip.rirbEntry.cmds
    res := chip.rirbEntry.res
    spurious := chip.rirbEntry.spurious } := by
  rw [rirbEntry_eq chip rfl]
  split
  · rfl
  · split <;> rfl

theorem Inv.turn_rings (inv : s.Inv handler res₀) (inside : s.seen < s.entries.length) :
    s.turn.CorbInv ∧ Tracks maxRirbEntries (entryOf s.turn.chip.rirbBuf) s.turn.chip.rirbWP s.turn.chip.rp
      s.turn.entries s.turn.seen := by
  have frame := rirbEntry_frame s.chip
  unfold HdaLink.turn
  rw [frame]
  exact ⟨{ inv.commands with }, inv.ring.pop inside⟩

theorem Inv.turn_event (inv : s.Inv handler res₀) (inside : s.seen < s.entries.length)
    (event : isUnsolEv s.entries[s.seen].2 = true) : s.turn.Inv handler res₀ := by
  have entry := rirbEntry_eq s.chip (inv.ring.get inside)
  rw [if_pos event] at entry
  have same : ∀ addr, answers addr s.turn.taken = answers addr s.taken := by
    intro addr
    rw [taken_turn inside, answers_append, answers_one, isAnswer, event]
    simp
  have more : events s.turn.taken = events s.taken ++ [s.entries[s.seen]] := by
    rw [taken_turn inside, events_append, events_one, if_pos event]
  have short : (events s.taken).length + 1 < s.processed + unsolQueueSize := by
    have all : (events s.turn.taken).length ≤ (events s.entries).length := events_taken_le (s := s.turn)
    rw [more, List.length_append, List.length_singleton] at all
    exact Nat.lt_of_le_of_lt all inv.queue.room
  obtain ⟨commands, ring⟩ := inv.turn_rings inside
  apply Inv.mk commands ring
  · have unchanged : s.turn.chip.cmds = s.chip.cmds ∧ s.turn.chip.res = s.chip.res ∧ s.turn.chip.spurious = s.chip.spurious := by
      simp [HdaLink.turn, entry]
    obtain ⟨cmds, res, spurious⟩ := unchanged
    apply CodecInv.mk (s := s.turn) inv.codecs.answered
    · intro addr
      rw [same]
      exact inv.codecs.outstanding addr
    · intro addr
      rw [same, cmds]
      exact inv.codecs.cmds addr
    · intro addr
      rw [same, res]
      exact inv.codecs.res addr
    · rw [spurious]
      exact inv.codecs.spurious
  · have queued : s.turn.chip.unsol = s.chip.unsol.sndHdaQueueUnsolEvent s.entries[s.seen].1 s.entries[s.seen].2 := by
      simp [HdaLink.turn, entry]
    have put := inv.queue.ring.put short s.entries[s.seen]
    apply UnsolInv.mk (s := s.turn) inv.queue.room
    · rw [more, queued]
      simp only [sndHdaQueueUnsolEvent, entryOf_putEntry]
      exact put
    · rw [more]
      show s.delivered = ((events s.taken ++ [s.entries[s.seen]]).take s.processed).filterMap (handed handler)
      rw [List.take_append_of_le_length inv.queue.ring.le]
      exact inv.queue.delivered

theorem Inv.turn_answer (inv : s.Inv handler res₀) (inside : s.seen < s.entries.length)
    (answer : isUnsolEv s.entries[s.seen].2 = false) : s.turn.Inv handler res₀ := by
  have entry := rirbEntry_eq s.chip (inv.ring.get inside)
  rw [answer] at entry
  have more : ∀ addr, answers addr s.turn.taken =
      answers addr s.taken ++ if azxResponseAddr s.entries[s.seen].2 = addr then [s.entries[s.seen].1] else [] := by
    intro addr
    rw [taken_turn inside, answers_append, answers_one, isAnswer, answer]
    by_cases same : azxResponseAddr s.entries[s.seen].2 = addr <;> simp [same]
  have same : events s.turn.taken = events s.taken := by
    rw [taken_turn inside, events_append, events_one, answer]
    simp
  have waiting : s.chip.cmds (azxResponseAddr s.entries[s.seen].2) ≠ 0 := by
    intro none_
    have all := (inv.cmds_zero _).mp none_
    obtain ⟨-, entries_le, -⟩ := inv.bounds (azxResponseAddr s.entries[s.seen].2)
    have next : (answers (azxResponseAddr s.entries[s.seen].2) s.turn.taken).length ≤
        (answers (azxResponseAddr s.entries[s.seen].2) s.entries).length := answers_taken_le (s := s.turn)
    rw [more, if_pos rfl, List.length_append, List.length_singleton] at next
    omega
  rw [if_neg Bool.false_ne_true, if_neg waiting] at entry
  have unsol : s.turn.chip.unsol = s.chip.unsol := by simp [HdaLink.turn, entry]
  obtain ⟨commands, ring⟩ := inv.turn_rings inside
  apply Inv.mk commands ring
  · apply CodecInv.mk (s := s.turn) inv.codecs.answered
    · intro addr
      have outstanding := inv.codecs.outstanding addr
      rw [more, List.length_append]
      show (toCodec addr s.sent).length ≤ _
      omega
    · intro addr
      have count := inv.codecs.cmds addr
      show s.turn.chip.cmds addr + _ = BitVec.ofNat 32 (toCodec addr s.sent).length
      rw [← count, more]
      simp only [HdaLink.turn, entry]
      by_cases here' : azxResponseAddr s.entries[s.seen].2 = addr
      · subst here'
        have one : BitVec.ofNat 32 1 = 1 := rfl
        rw [Function.update_self, if_pos rfl, List.length_append, List.length_singleton, BitVec.ofNat_add, one]
        ring
      · rw [Function.update_of_ne (Ne.symm here'), if_neg here', List.append_nil]
    · intro addr
      rw [more]
      simp only [HdaLink.turn, entry]
      by_cases here' : azxResponseAddr s.entries[s.seen].2 = addr
      · subst here'
        simp
      · rw [Function.update_of_ne (Ne.symm here'), if_neg here', List.append_nil]
        exact inv.codecs.res addr
    · simp only [HdaLink.turn, entry]
      exact inv.codecs.spurious
  · apply UnsolInv.mk (s := s.turn) inv.queue.room
    · rw [same, unsol]
      exact inv.queue.ring
    · rw [same]
      exact inv.queue.delivered

theorem Inv.turn (inv : s.Inv handler res₀) (inside : s.seen < s.entries.length) : s.turn.Inv handler res₀ := by
  cases kind : isUnsolEv s.entries[s.seen].2 with
  | true => exact inv.turn_event inside kind
  | false => exact inv.turn_answer inside kind

theorem Inv.loop (inv : s.Inv handler res₀) {fuel n : Nat} (left : s.entries.length = s.seen + n) (enough : n ≤ fuel) :
    ∃ chip, Azx.rirbLoop fuel s.chip.rirbWP s.chip = some chip ∧ chip.wp = s.chip.wp ∧
      chip.rp = s.chip.rirbWP ∧ { s with chip := chip, seen := s.entries.length }.Inv handler res₀ := by
  induction n generalizing s fuel with
  | zero =>
    have done : s.chip.rp = s.chip.rirbWP := inv.ring.empty_iff.mpr left.symm
    refine ⟨s.chip, ?_, rfl, done, ?_⟩
    · cases fuel with
      | zero => simp [Azx.rirbLoop, done]
      | succ fuel => simp [Azx.rirbLoop, done]
    · rw [left, Nat.add_zero]
      exact inv
  | succ n ih =>
    have inside : s.seen < s.entries.length := by omega
    have waiting : s.chip.rp ≠ s.chip.rirbWP := fun none_ => Nat.ne_of_lt inside (inv.ring.empty_iff.mp none_)
    cases fuel with
    | zero => omega
    | succ fuel =>
      have next := inv.turn inside
      have frame := rirbEntry_frame s.chip
      have wp : s.turn.chip.rirbWP = s.chip.rirbWP ∧ s.turn.chip.wp = s.chip.wp := by
        unfold HdaLink.turn
        rw [frame]
        exact ⟨rfl, rfl⟩
      have left' : s.turn.entries.length = s.turn.seen + n := by
        show s.entries.length = s.seen + 1 + n
        omega
      obtain ⟨chip, runs, same, rp, inv'⟩ := ih next left' (Nat.le_of_succ_le_succ enough)
      rw [wp.1] at runs rp
      rw [wp.2] at same
      refine ⟨chip, ?_, same, rp, inv'⟩
      rw [Azx.rirbLoop, if_neg waiting]
      exact runs

end turns

def queued (s : HdaLink) (val : Word) : HdaLink :=
  { s with
    sent := s.sent ++ [val]
    chip := { s.chip with
      cmds := Function.update s.chip.cmds (azxCommandAddr val) (s.chip.cmds (azxCommandAddr val) + 1)
      corbBuf := Function.update s.chip.corbBuf ((s.chip.corbWP + 1) % maxCorbEntries) val
      corbWP := (s.chip.corbWP + 1) % maxCorbEntries } }

theorem CorbInv.send_eq (commands : s.CorbInv) (alive : Bool) (val : Word) :
    s.chip.azxCorbSendCmd alive val =
      if alive = false then ( - EIO, s.chip)
      else if s.received.length + 255 ≤ s.sent.length then (-EAGAIN, s.chip)
      else (0, (s.queued val).chip) := by
  have short : s.chip.corbWP < 256 := commands.ring.wp_lt
  have full : (s.chip.corbWP + 1) % maxCorbEntries = s.chip.corbRP ↔ s.received.length + 255 ≤ s.sent.length := by
    rw [commands.ring.full_iff, maxCorbEntries]
    omega
  unfold Azx.azxCorbSendCmd
  cases alive with
  | false => rfl
  | true =>
    have awake : ¬ s.chip.corbWP = 0xffff := by omega
    simp only [azxReadw, if_true, Bool.true_eq_false, if_false, if_neg awake, full, queued]

theorem CorbInv.queued (commands : s.CorbInv) (room : ¬ s.received.length + 255 ≤ s.sent.length) (val : Word) :
    (s.queued val).CorbInv := by
  have put := commands.ring.put (by rw [maxCorbEntries]; omega) val
  refine ⟨?_, put⟩
  show s.received = (s.sent ++ [val]).take s.received.length
  rw [List.take_append_of_le_length commands.ring.le]
  exact commands.received

theorem CodecInv.queued (codecs : s.CodecInv res₀) {val : Word}
    (few : (toCodec (azxCommandAddr val) s.sent).length < (answers (azxCommandAddr val) s.taken).length + 0xffffffff) :
    (s.queued val).CodecInv res₀ := by
  apply CodecInv.mk
  · exact codecs.answered
  · intro addr
    have outstanding := codecs.outstanding addr
    show (toCodec addr (s.sent ++ [val])).length ≤ (answers addr s.taken).length + 0xffffffff
    rw [toCodec_append, toCodec_one, List.length_append]
    by_cases here : azxCommandAddr val = addr
    · subst here
      rw [if_pos rfl, List.length_singleton]
      omega
    · rw [if_neg here, List.length_nil]
      exact outstanding
  · intro addr
    have count := codecs.cmds addr
    show Function.update s.chip.cmds (azxCommandAddr val) (s.chip.cmds (azxCommandAddr val) + 1) addr +
      BitVec.ofNat 32 (answers addr s.taken).length = BitVec.ofNat 32 (toCodec addr (s.sent ++ [val])).length
    rw [toCodec_append, toCodec_one, List.length_append]
    by_cases here : azxCommandAddr val = addr
    · subst here
      have one : BitVec.ofNat 32 1 = 1 := rfl
      rw [Function.update_self, if_pos rfl, List.length_singleton, BitVec.ofNat_add, one, ← count]
      ring
    · rw [Function.update_of_ne (Ne.symm here), if_neg here, List.length_nil, Nat.add_zero]
      exact count
  · exact codecs.res
  · exact codecs.spurious

theorem Inv.send (inv : s.Inv handler res₀) {alive : Bool} {val : Word} (allowed : s.Allowed (.send alive val)) :
    (s.exec handler (.send alive val)).Inv handler res₀ ∧ s.Replies (.send alive val) (s.exec handler (.send alive val)) := by
  have result := inv.commands.send_eq alive val
  have nochange : ∀ err : Int, err ≠ 0 → s.chip.azxCorbSendCmd alive val = (err, s.chip) →
      s.exec handler (.send alive val) = s := by
    intro err failed same
    simp [exec, same, failed]
  simp only [Replies]
  rw [result]
  by_cases asleep : alive = false
  · rw [if_pos asleep] at result
    have same := nochange ( - EIO) (by decide) result
    rw [same, if_pos asleep, if_pos asleep]
    exact ⟨inv, rfl, fun _ => rfl⟩
  · rw [if_neg asleep] at result
    rw [if_neg asleep, if_neg asleep]
    by_cases full : s.received.length + 255 ≤ s.sent.length
    · rw [if_pos full] at result
      have same := nochange (-EAGAIN) (by decide) result
      rw [same, if_pos full, if_pos full]
      exact ⟨inv, rfl, fun _ => rfl⟩
    · rw [if_neg full] at result
      have next : s.exec handler (.send alive val) = s.queued val := by
        simp [exec, result]
        rfl
      rw [if_neg full, if_neg full, next]
      constructor
      · exact ⟨inv.commands.queued full val, inv.ring, inv.codecs.queued allowed.2, { inv.queue with }⟩
      · exact ⟨rfl, fun failed => absurd rfl failed⟩

theorem Inv.fetch (inv : s.Inv handler res₀) : (s.exec handler .fetch).Inv handler res₀ := by
  have le := inv.commands.ring.le
  have same := inv.commands.ring.empty_iff
  by_cases none_ : s.received.length = s.sent.length
  · have idle : s.exec handler .fetch = s := by simp [exec, Azx.fetch, same.mpr none_]
    rw [idle]
    exact inv
  · have inside : s.received.length < s.sent.length := by omega
    have next : s.exec handler .fetch = { s with
        chip := { s.chip with corbRP := (s.chip.corbRP + 1) % maxCorbEntries }
        received := s.received ++ [s.sent[s.received.length]] } := by
      simp [exec, Azx.fetch, same, none_, inv.commands.ring.get inside]
    rw [next]
    have length : (s.received ++ [s.sent[s.received.length]]).length = s.received.length + 1 := by simp
    refine Inv.mk ⟨?_, ?_⟩ inv.ring { inv.codecs with answered := ?_ } { inv.queue with }
    · show s.received ++ [s.sent[s.received.length]] = s.sent.take (s.received ++ [s.sent[s.received.length]]).length
      rw [length, List.take_add_one, List.getElem?_eq_getElem inside, ← inv.commands.received]
      rfl
    · dsimp only
      rw [length]
      exact inv.commands.ring.pop inside
    · intro addr
      show (answers addr s.entries).length ≤ (toCodec addr (s.received ++ [s.sent[s.received.length]])).length
      rw [toCodec_append, List.length_append]
      exact (inv.codecs.answered addr).trans (Nat.le_add_right _ _)

theorem Inv.store (inv : s.Inv handler res₀) {entry : Word × Word} (allowed : s.Allowed (.store entry)) :
    (s.exec handler (.store entry)).Inv handler res₀ := by
  obtain ⟨room, kind⟩ := allowed
  have put := inv.ring.put room entry
  have taken : (s.exec handler (.store entry)).taken = s.taken := by
    show (s.entries ++ [entry]).take s.seen = s.entries.take s.seen
    exact List.take_append_of_le_length inv.ring.le
  refine Inv.mk { inv.commands with } ?_ ?_ ?_
  · rw [← entryOf_putEntry] at put
    exact put
  · apply CodecInv.mk
    · intro addr
      have answered := inv.codecs.answered addr
      show (answers addr (s.entries ++ [entry])).length ≤ (toCodec addr s.received).length
      rw [answers_append, answers_one, List.length_append, isAnswer]
      cases event : isUnsolEv entry.2 with
      | true => simpa using answered
      | false =>
        rw [event, if_neg Bool.false_ne_true] at kind
        by_cases here : azxResponseAddr entry.2 = addr
        · subst here
          simpa using kind.2
        · simpa [here] using answered
    · rw [taken]
      exact inv.codecs.outstanding
    · rw [taken]
      exact inv.codecs.cmds
    · rw [taken]
      exact inv.codecs.res
    · exact inv.codecs.spurious
  · apply UnsolInv.mk
    · have room' := inv.queue.room
      show (events (s.entries ++ [entry])).length < s.processed + unsolQueueSize
      rw [events_append, events_one, List.length_append]
      cases event : isUnsolEv entry.2 with
      | true =>
        rw [if_pos event] at kind
        exact kind
      | false => exact room'
    · rw [taken]
      exact inv.queue.ring
    · rw [taken]
      exact inv.queue.delivered

theorem Inv.process (inv : s.Inv handler res₀) : (s.exec handler .process).Inv handler res₀ := by
  have le := inv.queue.ring.le
  have same := inv.queue.ring.empty_iff
  by_cases none_ : s.processed = (events s.taken).length
  · have idle : s.exec handler .process = s := by simp [exec, processUnsolEvent, same.mpr none_]
    rw [idle]
    exact inv
  · have inside : s.processed < (events s.taken).length := by omega
    have next : s.exec handler .process = { s with
        chip := { s.chip with unsol := { s.chip.unsol with rp := (s.chip.unsol.rp + 1) % unsolQueueSize } }
        processed := s.processed + 1
        delivered := s.delivered ++ (handed handler (events s.taken)[s.processed]).toList } := by
      simp [exec, processUnsolEvent, same, none_, inv.queue.ring.get inside]
    rw [next]
    refine Inv.mk { inv.commands with } inv.ring { inv.codecs with } ⟨?_, inv.queue.ring.pop inside, ?_⟩
    · exact inv.queue.room.trans (Nat.add_lt_add_right (Nat.lt_succ_self _) _)
    · show s.delivered ++ (handed handler (events s.taken)[s.processed]).toList =
        ((events s.taken).take (s.processed + 1)).filterMap (handed handler)
      rw [List.take_add_one, List.getElem?_eq_getElem inside, List.filterMap_append, ← inv.queue.delivered]
      cases event : handed handler (events s.taken)[s.processed] with
      | none => simp [event]
      | some handed => simp [event]

def Settled (s : HdaLink) : Prop := s.chip.wp = s.chip.rp

theorem Inv.update (inv : s.Inv handler res₀) (settled : s.Settled) (alive : Bool) :
    (s.exec handler (.update alive)).Inv handler res₀ ∧ (s.exec handler (.update alive)).Settled ∧
      s.Replies (.update alive) (s.exec handler (.update alive)) := by
  have short : s.chip.rirbWP < 256 := inv.ring.wp_lt
  have room := inv.ring.room
  have same := inv.ring.empty_iff
  simp only [Replies, exec]
  cases alive with
  | false =>
    have asleep : s.chip.azxUpdateRirb false = some s.chip := by simp [Azx.azxUpdateRirb, azxReadw]
    rw [asleep]
    exact ⟨inv, settled, rfl, fun awake => absurd awake Bool.false_ne_true⟩
  | true =>
    have awake : ¬ s.chip.rirbWP = 0xffff := by omega
    have known : s.chip.wp = s.chip.rp := settled
    by_cases all : s.seen = s.entries.length
    · have still : s.chip.rirbWP = s.chip.wp := by rw [known, same.mpr all]
      have idle : s.chip.azxUpdateRirb true = some s.chip := by
        simp only [Azx.azxUpdateRirb, azxReadw, if_true, if_neg awake, if_pos still]
      rw [idle]
      have nothing : ({ s with seen := s.entries.length } : HdaLink) = s := by rw [← all]
      simp only [if_true]
      rw [nothing]
      refine ⟨inv, settled, rfl, fun _ => ?_⟩
      rw [taken, all, List.take_length]
    · obtain ⟨n, left⟩ := Nat.exists_eq_add_of_le inv.ring.le
      have waiting : ¬ s.chip.rirbWP = s.chip.wp := by
        rw [known]
        intro back
        exact all (same.mp back.symm)
      have told : Inv handler res₀ { s with chip := { s.chip with wp := s.chip.rirbWP } } :=
        ⟨{ inv.commands with }, inv.ring, { inv.codecs with }, { inv.queue with }⟩
      have few : n ≤ maxRirbEntries := by omega
      obtain ⟨chip, runs, wp, rp, inv'⟩ := told.loop left few
      have result : s.chip.azxUpdateRirb true = some chip := by
        simp only [Azx.azxUpdateRirb, azxReadw, if_true, if_neg awake, if_neg waiting]
        exact runs
      rw [result]
      refine ⟨inv', ?_, rfl, fun _ => ?_⟩
      · exact wp.trans rp.symm
      · exact List.take_length

theorem exec_inv (inv : s.Inv handler res₀) (settled : s.Settled) (op : LinkOp) (allowed : s.Allowed op) :
    ((s.exec handler op).Faithful handler res₀ ∧ s.Replies op (s.exec handler op)) ∧
      (s.exec handler op).Inv handler res₀ ∧ (s.exec handler op).Settled := by
  cases op with
  | send alive val =>
    obtain ⟨next, replies⟩ := inv.send allowed
    refine ⟨⟨next.faithful, replies⟩, next, ?_⟩
    have result := inv.commands.send_eq alive val
    simp only [Settled, exec, result]
    split
    · exact settled
    · split <;> exact settled
  | fetch =>
    refine ⟨⟨inv.fetch.faithful, trivial⟩, inv.fetch, ?_⟩
    simp only [Settled, exec, Azx.fetch]
    split <;> exact settled
  | store entry => exact ⟨⟨(inv.store allowed).faithful, trivial⟩, inv.store allowed, settled⟩
  | update alive =>
    obtain ⟨next, settled', replies⟩ := inv.update settled alive
    exact ⟨⟨next.faithful, replies⟩, next, settled'⟩
  | process => exact ⟨⟨inv.process.faithful, trivial⟩, inv.process, settled⟩

/-- Every order of the steps of the driver, the controller and the codecs: commands, responses and events arrive once and
    in turn, and who waits for a response gets the answer to the last command. -/
theorem link_faithful {chip : Azx} {ops : List LinkOp} (empty : chip.unsol.rp = 0 ∧ chip.unsol.wp = 0)
    (quiet : chip.spurious = []) (run : Throughout (exec handler) (fun s op _ => s.Allowed op) (start chip) ops) :
    Throughout (exec handler) (fun s op s' => s'.Faithful handler chip.res ∧ s.Replies op s') (start chip) ops := by
  apply run.steps (fun s => s.Inv handler chip.res ∧ s.Settled)
  · exact ⟨start_inv chip empty quiet, rfl⟩
  · intro s op inv allowed
    exact exec_inv inv.1 inv.2 op allowed

instance : (op : LinkOp) → Decidable (s.Allowed op)
  | .send _ val => inferInstanceAs (Decidable ((val >>> 28).toNat < azxMaxCodecs ∧
      (toCodec (azxCommandAddr val) s.sent).length < (answers (azxCommandAddr val) s.taken).length + 0xffffffff))
  | .fetch => .isTrue trivial
  | .store entry => inferInstanceAs (Decidable (s.entries.length + 1 < s.seen + maxRirbEntries ∧
      if isUnsolEv entry.2 then (events s.entries).length + 1 < s.processed + unsolQueueSize
      else (entry.2 &&& 0xf).toNat < azxMaxCodecs ∧
        (answers (azxResponseAddr entry.2) s.entries).length < (toCodec (azxResponseAddr entry.2) s.received).length))
  | .update _ => .isTrue trivial
  | .process => .isTrue trivial

def restedAzx : Azx where
  corbWP := 7
  corbRP := 7
  corbBuf := fun _ => 0
  rirbWP := 7
  rirbBuf := fun _ => 0
  rp := 7
  wp := 7
  cmds := fun _ => 0
  res := fun _ => 0
  unsol := ⟨0, 0, fun _ => 0⟩
  spurious := []

def twoCodecs : List LinkOp :=
  [.send true 0x000f0000, .send true 0x200f0000, .fetch, .fetch, .store (0x11, 2), .store (0x77, 0x12), .update true,
    .process, .send false 0x000f0001, .store (0x22, 0), .update true]

theorem link_faithful_two_codecs :
    Throughout (exec fun addr => addr = 2) (fun s op s' => s'.Faithful (fun addr => addr = 2) restedAzx.res ∧ s.Replies op s')
      (start restedAzx) twoCodecs := link_faithful ⟨rfl, rfl⟩ rfl (by decide)

end HdaLink

end AlsaDriver.Hda
