import AlsaDriver.Firewire.Errors
import AlsaDriver.Lib.Runs

namespace AlsaDriver.Firewire

def CTS_AVC : Nat := 0x00
def ERROR_RETRIES : Nat := 3

inductive FcpState where
  | pending
  | busReset
  | complete
  deriving DecidableEq

/-- Where a call of `fcp_avc_transaction` is. A command is `sent` before `snd_fw_transaction` returns. -/
inductive FcpControl where
  | sending
  | sent
  | waiting
  | leaving (ret : Int)
  deriving DecidableEq

/-- A transaction on the list. The fields from `reset` on are not those of the source: whether there was a bus reset
    since the command was sent, whether it was sent again after one and not answered since, the responses that
    completed the transaction, and the buffer and its size as they were given. -/
structure FcpTransaction where
  unit : Nat
  responseBuffer : List Nat
  responseSize : Nat
  responseMatchBytes : Nat
  state : FcpState
  tries : Nat
  control : FcpControl
  reset : Bool
  resent : Bool
  completions : List (List Nat)
  givenBuffer : List Nat
  givenSize : Nat

structure FwDevice where
  card : Nat
  generation : Nat
  nodeId : Nat
  deriving DecidableEq

structure Fcp where
  transactions : Nat → Option FcpTransaction
  device : Nat → FwDevice

inductive FcpOp where
  | start (i unit : Nat) (response : List Nat) (responseSize responseMatchBytes : Nat)
  | transmit (i : Nat)
  | returned (i : Nat) (ret : Int)
  | wake (i : Nat) (timeout : Bool)
  | leave (i : Nat)
  | busReset (unit : Nat)
  | response (sender : FwDevice) (data : List Nat)
  | device (unit : Nat) (device : FwDevice)

/-- The loop of `is_matching_response`, over the rest of the response and of the buffer. -/
def isMatchingResponse (mask : Nat) : List Nat → List Nat → Bool
  | [], _ => false
  | byte :: response, buffer =>
    if mask % 2 = 1 ∧ byte ≠ buffer.headD 0 then false
    else if mask / 2 = 0 then true
    else isMatchingResponse (mask / 2) response buffer.tail

namespace FcpTransaction

variable (t : FcpTransaction)

def remains : Bool :=
  match t.control with
  | .leaving _ => false
  | _ => true

def afterTransmit : FcpTransaction :=
  if t.control = .sending then
    { t with control := .sent, reset := false, resent := t.reset && t.completions.isEmpty }
  else t

def afterReturn (ret : Int) : FcpTransaction :=
  if t.control = .sending ∨ t.control = .sent then
    if ret < 0 then { t with control := .leaving ret }
    else { t with control := .waiting }
  else t

/-- The end of `wait_event_timeout`, and what follows it. -/
def afterWait (timeout : Bool) : FcpTransaction :=
  if t.control = .waiting ∧ (t.state ≠ .pending ∨ timeout = true) then
    match t.state with
    | .complete => { t with control := .leaving t.responseSize }
    | .busReset => { t with control := .sending }
    | .pending =>
      if ERROR_RETRIES ≤ t.tries + 1 then { t with tries := t.tries + 1, control := .leaving (- EIO) }
      else { t with tries := t.tries + 1, control := .sending }
  else t

def fcpBusReset (unit : Nat) : FcpTransaction :=
  if t.unit = unit then
    { t with reset := true, resent := false, state := if t.state = .pending then .busReset else t.state }
  else t

/-- `fcp_response` for a transaction the device of which sent the response. -/
def fcpResponse (data : List Nat) : FcpTransaction :=
  if isMatchingResponse t.responseMatchBytes data t.responseBuffer then
    if t.state = .pending then
      let size := min data.length t.responseSize
      { t with
        state := .complete
        responseSize := size
        responseBuffer := data.take size ++ t.responseBuffer.drop size
        resent := false
        completions := t.completions ++ [data] }
    else { t with resent := false }
  else t

end FcpTransaction

namespace Fcp

variable (s : Fcp)

def modify (i : Nat) (f : FcpTransaction → FcpTransaction) : Fcp :=
  { s with transactions := fun k => if k = i then (s.transactions k).map f else s.transactions k }

def exec : FcpOp → Fcp
  | .start i unit response responseSize responseMatchBytes =>
    let t :=
      { unit, responseBuffer := response, responseSize, responseMatchBytes, state := .pending, tries := 0
        control := .sending, reset := false, resent := false, completions := [], givenBuffer := response
        givenSize := responseSize }
    { s with transactions := fun k => if k = i ∧ s.transactions k = none then some t else s.transactions k }
  | .transmit i => s.modify i FcpTransaction.afterTransmit
  | .returned i ret => s.modify i fun t => t.afterReturn ret
  | .wake i timeout => s.modify i fun t => t.afterWait timeout
  | .leave i =>
    { s with transactions := fun k =>
        if k = i then (s.transactions k).filter FcpTransaction.remains else s.transactions k }
  | .busReset unit => { s with transactions := fun k => (s.transactions k).map fun t => t.fcpBusReset unit }
  | .response sender data =>
    match data with
    | [] => s
    | byte :: _ =>
      if byte &&& 0xf0 ≠ CTS_AVC then s
      else
        { s with transactions := fun k =>
            (s.transactions k).map fun t => if s.device t.unit = sender then t.fcpResponse data else t }
  | .device unit device => { s with device := fun k => if k = unit then device else s.device k }

end Fcp

end AlsaDriver.Firewire

namespace AlsaDriver.Firewire

open Runs

def MaskedEqual (mask : Nat) (response buffer : List Nat) : Prop :=
  ∀ i, mask.testBit i = true → response[i]? = some (buffer.getD i 0)

theorem isMatchingResponse_iff {mask : Nat} {response : List Nat} (some_ : response ≠ [] ∨ mask ≠ 0) (buffer : List Nat) :
    isMatchingResponse mask response buffer = true ↔ MaskedEqual mask response buffer := by
  induction response generalizing mask buffer with
  | nil =>
    obtain ⟨i, set⟩ := Nat.exists_testBit_of_ne_zero (some_.resolve_left (not_not.mpr rfl))
    exact ⟨fun matching => absurd matching Bool.false_ne_true, fun equal => absurd (equal i set) (by simp)⟩
  | cons byte response ih =>
    have head : buffer.headD 0 = buffer.getD 0 0 := by cases buffer <;> rfl
    have tail (i : Nat) : buffer.tail.getD i 0 = buffer.getD (i + 1) 0 := by cases buffer <;> rfl
    have split : MaskedEqual mask (byte :: response) buffer ↔
        ¬ (mask % 2 = 1 ∧ byte ≠ buffer.headD 0) ∧ MaskedEqual (mask / 2) response buffer.tail := by
      constructor
      · intro equal
        refine ⟨?_, ?_⟩
        · rintro ⟨odd, other⟩
          have first := equal 0 (by rw [Nat.testBit_zero]; exact decide_eq_true odd)
          exact other (head ▸ Option.some.inj first)
        · intro i set
          rw [tail]
          exact equal (i + 1) (by rw [Nat.testBit_succ]; exact set)
      · rintro ⟨first, rest⟩ i set
        cases i with
        | zero =>
          rw [Nat.testBit_zero] at set
          rw [← head]
          by_contra other
          exact first ⟨of_decide_eq_true set, fun same => other (congrArg some same)⟩
        | succ i =>
          rw [Nat.testBit_succ] at set
          rw [← tail]
          exact rest i set
    rw [split, isMatchingResponse]
    by_cases wrong : mask % 2 = 1 ∧ byte ≠ buffer.headD 0
    · rw [if_pos wrong]
      exact ⟨fun matching => absurd matching Bool.false_ne_true, fun both => absurd wrong both.1⟩
    · rw [if_neg wrong]
      by_cases last : mask / 2 = 0
      · rw [if_pos last, last]
        refine ⟨fun _ => ⟨wrong, fun i set => ?_⟩, fun _ => rfl⟩
        rw [Nat.zero_testBit] at set
        exact absurd set Bool.false_ne_true
      · rw [if_neg last, ih (.inr last)]
        exact ⟨fun rest => ⟨wrong, rest⟩, fun both => both.2⟩

namespace FcpTransaction

variable (t : FcpTransaction)

structure Sound : Prop where
  unanswered : t.state ≠ .complete →
    t.completions = [] ∧ t.responseBuffer = t.givenBuffer ∧ t.responseSize = t.givenSize
  answered : t.state = .complete → ∃ data, t.completions = [data] ∧ MaskedEqual t.responseMatchBytes data t.givenBuffer ∧
    t.responseSize = min data.length t.givenSize ∧
    t.responseBuffer = data.take t.responseSize ++ t.givenBuffer.drop t.responseSize

structure Kept : Prop where
  sound : t.Sound
  first : t.resent = false
  noted : t.state = .busReset ↔ t.reset = true ∧ t.completions = []

/-- The transaction is completed at most once, by one response that matches, nothing is written behind its buffer,
    and it is pending after it was sent again. -/
structure Correct : Prop where
  once : t.completions.length ≤ 1
  single : t.state = .complete → ∃ data, t.completions = [data] ∧ MaskedEqual t.responseMatchBytes data t.givenBuffer ∧
    t.responseSize = min data.length t.givenSize ∧ t.responseBuffer.take t.responseSize = data.take t.responseSize
  bounded : ∀ k, t.givenSize ≤ k → t.responseBuffer[k]? = t.givenBuffer[k]?
  awaits : t.resent = true → t.state = .pending

variable {t}

theorem Sound.correct (sound : t.Sound) (awaits : t.resent = true → t.state = .pending) : t.Correct := by
  by_cases complete : t.state = .complete
  · obtain ⟨data, completions, matching, size, buffer⟩ := sound.answered complete
    have length : (data.take t.responseSize).length = t.responseSize := by
      rw [List.length_take, size]
      omega
    refine ⟨by rw [completions]; exact Nat.le_refl 1, fun _ => ⟨data, completions, matching, size, ?_⟩, ?_, awaits⟩
    · rw [buffer, List.take_left' length]
    · intro k behind
      rw [buffer, List.getElem?_append_right (by omega), length, List.getElem?_drop]
      congr 1
      omega
  · obtain ⟨none, same, -⟩ := sound.unanswered complete
    refine ⟨by rw [none]; exact Nat.zero_le 1, fun now => absurd now complete, fun k _ => by rw [same], awaits⟩

theorem Kept.afterTransmit (kept : t.Kept) (fresh : t.control = .sending → t.state ≠ .busReset) : t.afterTransmit.Kept := by
  unfold FcpTransaction.afterTransmit
  split
  · rename_i sending
    have open_ : ¬ (t.reset = true ∧ t.completions = []) := fun both => fresh sending (kept.noted.mpr both)
    refine ⟨⟨kept.sound.unanswered, kept.sound.answered⟩, ?_, ?_⟩
    · show (t.reset && t.completions.isEmpty) = false
      apply eq_false_of_ne_true
      intro again
      obtain ⟨reset, none⟩ := Bool.and_eq_true_iff.mp again
      exact open_ ⟨reset, List.isEmpty_iff.mp none⟩
    · exact ⟨fun reset => absurd reset (fresh sending), fun both => absurd both.1 Bool.false_ne_true⟩
  · exact kept

theorem Kept.moved (kept : t.Kept) (tries : Nat) (control : FcpControl) : { t with tries, control }.Kept :=
  ⟨⟨kept.sound.unanswered, kept.sound.answered⟩, kept.first, kept.noted⟩

theorem Kept.afterReturn (kept : t.Kept) (ret : Int) : (t.afterReturn ret).Kept := by
  unfold FcpTransaction.afterReturn
  split
  · split
    · exact kept.moved _ _
    · exact kept.moved _ _
  · exact kept

theorem Kept.afterWait (kept : t.Kept) (timeout : Bool) : (t.afterWait timeout).Kept := by
  unfold FcpTransaction.afterWait
  split
  · split
    · exact kept.moved _ _
    · exact kept.moved _ _
    · split
      · exact kept.moved _ _
      · exact kept.moved _ _
  · exact kept

theorem Kept.fcpBusReset (kept : t.Kept) (unit : Nat) : (t.fcpBusReset unit).Kept := by
  unfold FcpTransaction.fcpBusReset
  split
  · by_cases pending : t.state = .pending
    · obtain ⟨none, buffer, size⟩ := kept.sound.unanswered (by rw [pending]; exact FcpState.noConfusion)
      rw [if_pos pending]
      exact ⟨⟨fun _ => ⟨none, buffer, size⟩, fun complete => FcpState.noConfusion complete⟩, rfl,
        fun _ => ⟨rfl, none⟩, fun _ => rfl⟩
    · rw [if_neg pending]
      refine ⟨⟨kept.sound.unanswered, kept.sound.answered⟩, rfl, ?_⟩
      refine ⟨fun reset => ⟨rfl, (kept.noted.mp reset).2⟩, ?_⟩
      rintro ⟨-, none⟩
      show t.state = .busReset
      cases state : t.state with
      | pending => exact absurd state pending
      | busReset => rfl
      | complete =>
        obtain ⟨data, completions, -⟩ := kept.sound.answered state
        exact absurd (completions.symm.trans none) (List.cons_ne_nil _ _)
  · exact kept

theorem Kept.fcpResponse (kept : t.Kept) {data : List Nat} (some : data ≠ []) : (t.fcpResponse data).Kept := by
  unfold FcpTransaction.fcpResponse
  split
  · rename_i matching
    split
    · rename_i pending
      obtain ⟨none, buffer, size⟩ := kept.sound.unanswered (by rw [pending]; exact FcpState.noConfusion)
      rw [isMatchingResponse_iff (.inl some), buffer] at matching
      refine ⟨⟨fun open_ => absurd rfl open_, fun _ => ⟨data, ?_, matching, ?_, ?_⟩⟩, rfl, ?_⟩
      · show t.completions ++ [data] = [data]
        rw [none, List.nil_append]
      · show min data.length t.responseSize = _
        rw [size]
      · show _ ++ t.responseBuffer.drop _ = _
        rw [buffer]
      · refine ⟨fun reset => FcpState.noConfusion reset, ?_⟩
        rintro ⟨-, none⟩
        exact absurd none (List.append_ne_nil_of_right_ne_nil _ (List.cons_ne_nil _ _))
    · exact ⟨⟨kept.sound.unanswered, kept.sound.answered⟩, rfl, kept.noted⟩
  · exact kept

end FcpTransaction

namespace Fcp

variable (s : Fcp)

/-- The responses of its device that match complete transaction `i`. -/
def Completes (i : Nat) (t : FcpTransaction) : Prop :=
  ∀ byte data, byte &&& 0xf0 = CTS_AVC → MaskedEqual t.responseMatchBytes (byte :: data) t.responseBuffer →
    ∃ t', (s.exec (.response (s.device t.unit) (byte :: data))).transactions i = some t' ∧ t'.state = .complete

def Correct : Prop :=
  ∀ i t, s.transactions i = some t → t.Correct ∧ (t.resent = true → s.Completes i t)

def Restored : FcpOp → Prop
  | .transmit i => ∀ t ∈ s.transactions i, t.control = .sending → t.state ≠ .busReset
  | _ => True

def AllKept : Prop := ∀ i t, s.transactions i = some t → t.Kept

variable {s}

theorem AllKept.correct (kept : s.AllKept) : s.Correct := by
  intro i t here
  have first := (kept i t here).first
  refine ⟨(kept i t here).sound.correct fun resent => ?_, fun resent => ?_⟩
  · exact absurd (first.symm.trans resent) Bool.false_ne_true
  · exact absurd (first.symm.trans resent) Bool.false_ne_true

theorem AllKept.modify (kept : s.AllKept) (i : Nat) {f : FcpTransaction → FcpTransaction}
    (keeps : ∀ t, s.transactions i = some t → t.Kept → (f t).Kept) : (s.modify i f).AllKept := by
  intro k t here
  unfold Fcp.modify at here
  dsimp only at here
  split at here
  · rename_i same
    subst same
    obtain ⟨t', before, rfl⟩ := Option.map_eq_some_iff.mp here
    exact keeps t' before (kept k t' before)
  · exact kept k t here

theorem AllKept.map (kept : s.AllKept) {f : FcpTransaction → FcpTransaction} (keeps : ∀ t, t.Kept → (f t).Kept) :
    { s with transactions := fun k => (s.transactions k).map f }.AllKept := by
  intro k t here
  obtain ⟨t', before, rfl⟩ := Option.map_eq_some_iff.mp here
  exact keeps t' (kept k t' before)

theorem AllKept.exec (kept : s.AllKept) (op : FcpOp) (restored : s.Restored op) : (s.exec op).AllKept := by
  cases op with
  | start i unit response responseSize responseMatchBytes =>
    intro k t here
    rw [Fcp.exec] at here
    dsimp only at here
    split at here
    · obtain rfl := Option.some.inj here
      exact ⟨⟨fun _ => ⟨rfl, rfl, rfl⟩, fun complete => FcpState.noConfusion complete⟩, rfl,
        fun reset => FcpState.noConfusion reset, fun both => absurd both.1 Bool.false_ne_true⟩
    · exact kept k t here
  | transmit i => exact kept.modify i fun t here kept => kept.afterTransmit (restored t here)
  | returned i ret => exact kept.modify i fun t _ kept => kept.afterReturn ret
  | wake i timeout => exact kept.modify i fun t _ kept => kept.afterWait timeout
  | leave i =>
    intro k t here
    rw [Fcp.exec] at here
    dsimp only at here
    split at here
    · exact kept k t (Option.filter_eq_some_iff.mp here).1
    · exact kept k t here
  | busReset unit => exact kept.map fun t kept => kept.fcpBusReset unit
  | response sender data =>
    cases data with
    | nil => exact kept
    | cons byte data =>
      intro k t here
      rw [Fcp.exec] at here
      split at here
      · exact kept k t here
      · refine kept.map (fun t kept => ?_) k t here
        split
        · exact kept.fcpResponse (List.cons_ne_nil _ _)
        · exact kept
  | device unit device => exact kept

theorem AllKept.stuck (kept : s.AllKept) {op : FcpOp} (correct : (s.exec op).Correct) : s.Restored op := by
  cases op with
  | transmit i =>
    intro t here sending reset
    have after : (s.exec (.transmit i)).transactions i = some t.afterTransmit := by
      have here' : s.transactions i = some t := here
      rw [Fcp.exec, Fcp.modify]
      dsimp only
      rw [if_pos rfl, here']
      rfl
    obtain ⟨noted, none⟩ := (kept i t here).noted.mp reset
    have sent : t.afterTransmit = { t with control := .sent, reset := false, resent := true } := by
      unfold FcpTransaction.afterTransmit
      rw [if_pos sending, noted, none]
      rfl
    rw [sent] at after
    have pending := (correct i _ after).1.awaits rfl
    exact FcpState.noConfusion (reset.symm.trans pending)
  | _ => trivial

/-- The runs in which all transactions are served are those in which no command is sent again with the state that a
    bus reset left. -/
theorem transactions_served (s : Fcp) (ops : List FcpOp) (free : ∀ i, s.transactions i = none) :
    Throughout exec (fun _ _ s' => s'.Correct) s ops ↔ Throughout exec (fun s op _ => s.Restored op) s ops := by
  have every : Throughout exec (fun _ _ _ => True) s ops := Throughout.of_mem fun _ _ _ => trivial
  apply throughout_iff AllKept (fun _ _ s' => s'.Correct) Restored _ _ _ every
  · exact fun s op kept _ => ⟨kept.stuck, fun restored => (kept.exec op restored).correct⟩
  · exact fun s op kept _ restored => kept.exec op restored
  · intro i t here
    rw [free i] at here
    exact absurd here.symm (Option.some_ne_none t)

def quiet : Fcp := { transactions := fun _ => none, device := fun _ => ⟨0, 1, 0⟩ }

def inquiry : List FcpOp :=
  [.start 0 0 [0x01, 0xff, 0x19, 0] 4 7, .transmit 0, .returned 0 0, .wake 0 true, .transmit 0,
    .response ⟨0, 1, 0⟩ [0x0c, 0xff, 0x19, 0x11], .response ⟨0, 1, 0⟩ [0x01, 0xff, 0x19, 0x77, 0x55], .returned 0 0,
    .busReset 0, .wake 0 false, .leave 0]

theorem transactions_served_inquiry : Throughout exec (fun _ _ s' => s'.Correct) quiet inquiry := by
  apply (transactions_served quiet inquiry fun _ => rfl).mpr
  refine ⟨trivial, ?_, trivial, trivial, ?_, trivial, trivial, trivial, trivial, trivial, trivial, trivial⟩
  · intro t here sending reset
    obtain rfl := Option.some.inj here
    exact FcpState.noConfusion reset
  · intro t here sending reset
    obtain rfl := Option.some.inj here
    exact FcpState.noConfusion reset

/-- The command was sent again after a bus reset, and the state is still the one of the bus reset. -/
theorem reset_stays : ¬ ∀ (s : Fcp) (ops : List FcpOp), (∀ i, s.transactions i = none) →
    Throughout exec (fun _ _ s' => s'.Correct) s ops := by
  intro all
  have run := all quiet [.start 0 0 [0x01, 0xff, 0x19, 0] 4 7, .transmit 0, .returned 0 0, .busReset 0, .wake 0 false,
    .transmit 0] fun _ => rfl
  have sent := (run.2.2.2.2.2.1 0 _ rfl).1.awaits rfl
  exact FcpState.noConfusion sent

end Fcp

end AlsaDriver.Firewire
