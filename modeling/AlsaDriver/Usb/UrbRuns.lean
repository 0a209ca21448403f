import Mathlib.Data.List.Nodup
import AlsaDriver.Lib.Runs
import AlsaDriver.Usb.Endpoint

namespace AlsaDriver.Usb

open Runs

namespace SndUsbEndpoint

variable (ep : SndUsbEndpoint)

/-- The bits tell the URBs in flight, but for the one that was just submitted; none is submitted twice or is
    ready while it is in flight, and none is freed after the wait found no bit. -/
structure Accounted : Prop where
  active : ∀ i < ep.nurbs, ep.control ≠ .submitted i → (ep.activeMask i = true ↔ ep.inFlight i = true)
  once : ep.clash = false
  ready : ∀ i ∈ ep.readyPlaybackUrbs, ep.inFlight i = false
  intact : ep.broken = false
  free : ep.control = .freeing true → ∀ i < ep.nurbs, ep.inFlight i = false

def pending : Nat := (ep.nextPacketWritePos + MAX_URBS - ep.nextPacketReadPos) % MAX_URBS

/-- A restart finds no URB in flight, unless it has waited for them. An URB is not given up before its bit is set,
    and an URB of an implicit feedback sink comes back when no more packets are pending than URBs are ready. -/
def Proper : UsbOp → Prop
  | .proceed _ => ep.control = .resetting false → ∀ i < ep.nurbs, ep.inFlight i = false
  | .complete i status submits => ep.inFlight i = true →
      (ep.control = .submitted i → ¬ ep.gone status ∧ ep.running = true ∧ submits i = true) ∧
      (ep.implicitFeedbackSink = true → ¬ ep.gone status → ep.running = true → submits i = true →
        ep.pending ≤ ep.readyPlaybackUrbs.length)
  | _ => True

def Still : Prop := ep.running = false ∨ ep.shutdown = true

def Placed : Control → Prop
  | .idle => True
  | .waiting .start => ep.running = false ∧ ep.readyPlaybackUrbs = []
  | .waiting .sync => True
  | .waiting .release => ep.Still
  | .resetting found => ep.running = false ∧ ep.readyPlaybackUrbs = [] ∧ (found = true → ∀ i, ep.inFlight i = false)
  | .listing j => ep.implicitFeedbackSink = true ∧ ∀ i, j ≤ i → ep.inFlight i = false ∧ i ∉ ep.readyPlaybackUrbs
  | .submitting j => ep.implicitFeedbackSink = false ∧ ∀ i, j ≤ i → ep.inFlight i = false
  | .submitted j => ep.implicitFeedbackSink = false ∧ j < ep.nurbs ∧ ep.inFlight j = true ∧ ∀ i, j < i → ep.inFlight i = false
  | .freeing found => ep.Still ∧ (found = true → ∀ i, ep.inFlight i = false)
  | .released => ep.Still

def Marked (hole : Control) : Prop := ∀ i, hole ≠ .submitted i → (ep.activeMask i = true ↔ ep.inFlight i = true)

structure Inv : Prop where
  marked : ep.Marked ep.control
  once : ep.clash = false
  ready : ∀ i ∈ ep.readyPlaybackUrbs, ep.inFlight i = false
  nodup : ep.readyPlaybackUrbs.Nodup
  intact : ep.broken = false
  bound : ep.control ≠ .released → ∀ i, ep.inFlight i = true ∨ i ∈ ep.readyPlaybackUrbs → i < ep.nurbs
  plain : ep.implicitFeedbackSink = false → ep.readyPlaybackUrbs = []
  placed : ep.Placed ep.control
  positions : ep.nextPacketReadPos < MAX_URBS ∧ ep.nextPacketWritePos < MAX_URBS

variable {ep}

theorem Inv.accounted (inv : ep.Inv) : ep.Accounted := by
  refine ⟨fun i _ other => inv.marked i other, inv.once, inv.ready, inv.intact, ?_⟩
  intro freeing i _
  have placed := inv.placed
  rw [freeing] at placed
  exact placed.2 rfl i

section queue

variable (ep) in
/-- The endpoint after the URBs `taken` were submitted, and their bits set where that succeeds. -/
def queued (submits : Nat → Bool) (taken rest : List Nat) (readPos : Nat) (sizes : Nat → Nat → Nat) : SndUsbEndpoint :=
  { ep with
    nextPacketReadPos := readPos
    readyPlaybackUrbs := rest
    packetSize := sizes
    inFlight := fun i => ep.inFlight i || (submits i && decide (i ∈ taken))
    activeMask := fun i => ep.activeMask i || (submits i && decide (i ∈ taken)) }

theorem queued_nil {ready : List Nat} (mine : ep.readyPlaybackUrbs = ready) (submits : Nat → Bool) (readPos : Nat) :
    ep.queued submits [] ready readPos ep.packetSize = { ep with nextPacketReadPos := readPos } := by
  simp [queued, ← mine]

variable (ep) in
def taken (submits : Nat → Bool) (ctx : Nat) (rest : List Nat) (readPos : Nat) (sizes : Nat → Nat → Nat) : SndUsbEndpoint :=
  let ep := { ep with nextPacketReadPos := readPos, readyPlaybackUrbs := rest, packetSize := sizes }
  let ep := ep.usbSubmitUrb ctx (submits ctx)
  if submits ctx then ep.setBit ctx else ep

theorem taken_eq (submits : Nat → Bool) {ctx : Nat} (idle : ep.inFlight ctx = false) (rest : List Nat) (readPos : Nat)
    (sizes : Nat → Nat → Nat) : ep.taken submits ctx rest readPos sizes = ep.queued submits [ctx] rest readPos sizes := by
  have flights : Function.update ep.inFlight ctx (submits ctx) =
      fun i => ep.inFlight i || (submits i && decide (i ∈ [ctx])) := by
    funext i
    by_cases same : i = ctx
    · simp [same, idle]
    · simp [same]
  have bits (sent : submits ctx = true) : Function.update ep.activeMask ctx true =
      fun i => ep.activeMask i || (submits i && decide (i ∈ [ctx])) := by
    funext i
    by_cases same : i = ctx
    · simp [same, sent]
    · simp [same]
  have unsent (failed : submits ctx = false) : ep.activeMask =
      fun i => ep.activeMask i || (submits i && decide (i ∈ [ctx])) := by
    funext i
    by_cases same : i = ctx
    · simp [same, failed]
    · simp [same]
  rw [queued, ← flights]
  simp only [taken, usbSubmitUrb, setBit, idle, Bool.false_or, Bool.or_false]
  split
  · rename_i sent
    rw [bits sent]
  · rename_i failed
    rw [← unsent (Bool.eq_false_of_not_eq_true failed)]

theorem queued_queued (submits : Nat → Bool) (first last middle rest : List Nat) (pos readPos : Nat)
    (before sizes : Nat → Nat → Nat) :
    (ep.queued submits first middle pos before).queued submits last rest readPos sizes =
      ep.queued submits (first ++ last) rest readPos sizes := by
  simp only [queued, List.mem_append, Bool.decide_or, Bool.and_or_distrib_left, Bool.or_assoc]

theorem pending_next (read : ep.nextPacketReadPos < MAX_URBS) (write : ep.nextPacketWritePos < MAX_URBS)
    (some : ep.nextPacketReadPos ≠ ep.nextPacketWritePos) :
    ep.pending = { ep with nextPacketReadPos := (ep.nextPacketReadPos + 1) % MAX_URBS }.pending + 1 := by
  simp only [pending, MAX_URBS] at *
  omega

theorem loop_queued (submits : Nat → Bool) (ready : List Nat) (mine : ep.readyPlaybackUrbs = ready) (nodup : ready.Nodup)
    (free : ∀ i ∈ ready, ep.inFlight i = false) (read : ep.nextPacketReadPos < MAX_URBS)
    (write : ep.nextPacketWritePos < MAX_URBS) :
    ∃ taken rest readPos sizes, ready = taken ++ rest ∧ taken.length ≤ ep.pending ∧ readPos < MAX_URBS ∧
      queuePendingLoop submits ready ep = ep.queued submits taken rest readPos sizes := by
  have next (n : Nat) : (n + 1) % MAX_URBS < MAX_URBS := Nat.mod_lt _ (by decide)
  induction ready generalizing ep with
  | nil =>
    rw [queuePendingLoop]
    split
    · exact ⟨[], [], _, _, rfl, Nat.zero_le _, next ep.nextPacketReadPos, (queued_nil mine submits _).symm⟩
    · exact ⟨[], [], _, _, rfl, Nat.zero_le _, read, (queued_nil mine submits _).symm⟩
  | cons ctx rest ih =>
    rw [queuePendingLoop]
    split
    · rename_i some
      obtain ⟨outside, nodup⟩ := List.nodup_cons.mp nodup
      have left := pending_next read write some
      have idle : ep.inFlight ctx = false := free ctx (List.mem_cons_self ..)
      let pos := (ep.nextPacketReadPos + 1) % MAX_URBS
      let sizes := Function.update ep.packetSize ctx fun i =>
        (ep.nextPacket ep.nextPacketReadPos).getD i (ep.packetSize ctx i)
      have state := taken_eq submits idle rest pos sizes
      obtain ⟨later, unsent, readPos, sizes', split, short, inside, result⟩ :=
        @ih (ep.queued submits [ctx] rest pos sizes) rfl nodup (by
          intro i inside
          have other : i ≠ ctx := fun same => outside (same ▸ inside)
          simp [queued, free i (List.mem_cons_of_mem _ inside), other]) (next _) write
      refine ⟨ctx :: later, unsent, readPos, sizes', congrArg (ctx :: ·) split, ?_, inside, ?_⟩
      · rw [List.length_cons, left]
        exact Nat.succ_le_succ short
      · show queuePendingLoop submits rest (ep.taken submits ctx rest pos sizes) = _
        rw [state, result, queued_queued]
        rfl
    · exact ⟨[], ctx :: rest, _, _, rfl, Nat.zero_le _, read, (queued_nil mine submits _).symm⟩

theorem queue_pending (submits : Nat → Bool) (nodup : ep.readyPlaybackUrbs.Nodup)
    (free : ∀ i ∈ ep.readyPlaybackUrbs, ep.inFlight i = false) (read : ep.nextPacketReadPos < MAX_URBS)
    (write : ep.nextPacketWritePos < MAX_URBS) :
    ∃ taken rest readPos sizes, ep.readyPlaybackUrbs = taken ++ rest ∧ taken.length ≤ ep.pending ∧ readPos < MAX_URBS ∧
      ep.queuePendingOutputUrbs submits = ep.queued submits taken rest readPos sizes := by
  rw [queuePendingOutputUrbs]
  split
  · exact loop_queued submits _ rfl nodup free read write
  · exact ⟨[], _, _, _, rfl, Nat.zero_le _, read, (queued_nil rfl submits _).symm⟩

end queue

section completions

theorem Inv.queued (inv : ep.Inv) (running : ep.running = true) (sink : ep.implicitFeedbackSink = true)
    (present : ep.shutdown = false) (submits : Nat → Bool) {taken rest : List Nat} {readPos : Nat}
    (sizes : Nat → Nat → Nat) (split : ep.readyPlaybackUrbs = taken ++ rest) (inside : readPos < MAX_URBS) :
    (ep.queued submits taken rest readPos sizes).Inv := by
  have listed (i : Nat) (old : i ∈ taken ∨ i ∈ rest) : i ∈ ep.readyPlaybackUrbs := by
    rw [split]
    exact List.mem_append.mpr old
  have nodup := inv.nodup
  rw [split] at nodup
  obtain ⟨-, restNodup, apart⟩ := List.nodup_append.mp nodup
  have flown (i : Nat) (flies : (ep.inFlight i || (submits i && decide (i ∈ taken))) = true) :
      ep.inFlight i = true ∨ i ∈ taken := by
    rcases Bool.or_eq_true_iff.mp flies with old | new
    · exact .inl old
    · exact .inr (of_decide_eq_true (Bool.and_eq_true_iff.mp new).2)
  have moving : ¬ ep.Still := by
    rintro (still | gone)
    · exact Bool.false_ne_true (still.symm.trans running)
    · exact Bool.false_ne_true (present.symm.trans gone)
  refine ⟨?_, inv.once, ?_, restNodup, inv.intact, ?_, ?_, ?_, inside, inv.positions.2⟩
  · intro i other
    show (ep.activeMask i || _) = true ↔ (ep.inFlight i || _) = true
    rw [Bool.or_eq_true_iff, Bool.or_eq_true_iff, inv.marked i other]
  · intro i ready
    apply Bool.eq_false_of_not_eq_true
    intro flies
    rcases flown i flies with old | new
    · exact Bool.false_ne_true ((inv.ready i (listed i (.inr ready))).symm.trans old)
    · exact apart i new i ready rfl
  · intro open_ i known
    apply inv.bound open_ i
    rcases known with flies | ready
    · exact (flown i flies).imp_right fun new => listed i (.inl new)
    · exact .inr (listed i (.inr ready))
  · intro plain
    exact absurd (plain.symm.trans sink) Bool.false_ne_true
  · have placed := inv.placed
    show (ep.queued submits taken rest readPos sizes).Placed ep.control
    cases control : ep.control with
    | idle => trivial
    | waiting waiter =>
      rw [control] at placed
      cases waiter with
      | start => exact absurd (.inl placed.1) moving
      | sync => trivial
      | release => exact absurd placed moving
    | resetting found =>
      rw [control] at placed
      exact absurd (.inl placed.1) moving
    | listing j =>
      rw [control] at placed
      refine ⟨sink, ?_⟩
      intro i above
      obtain ⟨idle, unlisted⟩ := placed.2 i above
      constructor
      · apply Bool.eq_false_of_not_eq_true
        intro flies
        rcases flown i flies with old | new
        · exact Bool.false_ne_true (idle.symm.trans old)
        · exact unlisted (listed i (.inl new))
      · exact fun ready => unlisted (listed i (.inr ready))
    | submitting j =>
      rw [control] at placed
      exact absurd (placed.1.symm.trans sink) Bool.false_ne_true
    | submitted j =>
      rw [control] at placed
      exact absurd (placed.1.symm.trans sink) Bool.false_ne_true
    | freeing found =>
      rw [control] at placed
      exact absurd placed.1 moving
    | released =>
      rw [control] at placed
      exact absurd placed moving

theorem Inv.feedback (inv : ep.Inv) (frames : List (Int × Nat)) (senderStride : Nat) (submits : Nat → Bool) :
    (ep.exec (.feedback frames senderStride submits)).Inv := by
  rw [exec]
  split
  · exact inv
  rename_i present
  rw [sndUsbHandleSyncUrb]
  split
  · exact inv
  rename_i sink
  split
  · exact inv
  obtain ⟨sink, -⟩ := not_or.mp sink
  dsimp only
  generalize Function.update ep.nextPacket ep.nextPacketWritePos _ = packets
  have written : { ep with nextPacket := packets, nextPacketWritePos := (ep.nextPacketWritePos + 1) % MAX_URBS }.Inv :=
    ⟨inv.marked, inv.once, inv.ready, inv.nodup, inv.intact, inv.bound, inv.plain, inv.placed, inv.positions.1,
      Nat.mod_lt _ (by decide)⟩
  by_cases running : ep.running = true
  · obtain ⟨taken, rest, readPos, sizes, split, -, inside, state⟩ :=
      queue_pending submits written.nodup written.ready written.positions.1 written.positions.2
    rw [state]
    exact written.queued running (Bool.eq_true_of_not_eq_false sink) (Bool.eq_false_of_not_eq_true present) submits
      sizes split inside
  · rw [queuePendingOutputUrbs, if_neg running]
    exact written

variable (ep) in
def landed (i : Nat) : SndUsbEndpoint := { ep with inFlight := Function.update ep.inFlight i false }

theorem sndCompleteUrb_eq (i : Nat) (status : Int) (submits : Nat → Bool) : ep.sndCompleteUrb i status submits =
    if ep.gone status then (ep.landed i).clearBit i
    else if ep.running = false then (ep.landed i).clearBit i
    else if ep.implicitFeedbackSink then (((ep.landed i).listAddTail i).queuePendingOutputUrbs submits).clearBit i
    else if submits i then (ep.landed i).usbSubmitUrb i true
    else ((ep.landed i).usbSubmitUrb i false).clearBit i :=
  rfl

theorem Inv.given_up (inv : ep.Inv) (i : Nat) (other : ep.control ≠ .submitted i) :
    ((ep.landed i).clearBit i).Inv := by
  have fewer (k : Nat) (idle : ep.inFlight k = false) : Function.update ep.inFlight i false k = false := by
    rw [Function.update_apply]
    split
    · rfl
    · exact idle
  have flew (k : Nat) (flies : Function.update ep.inFlight i false k = true) : ep.inFlight k = true := by
    by_contra idle
    exact Bool.false_ne_true ((fewer k (Bool.eq_false_of_not_eq_true idle)).symm.trans flies)
  refine ⟨?_, inv.once, fun k ready => fewer k (inv.ready k ready), inv.nodup, inv.intact, ?_, inv.plain, ?_, inv.positions⟩
  · intro k open_
    show Function.update ep.activeMask i false k = true ↔ Function.update ep.inFlight i false k = true
    rw [Function.update_apply, Function.update_apply]
    split
    · exact Iff.rfl
    · exact inv.marked k open_
  · intro open_ k known
    exact inv.bound open_ k (known.imp_left (flew k))
  · have placed := inv.placed
    show ((ep.landed i).clearBit i).Placed ep.control
    cases control : ep.control with
    | idle => trivial
    | waiting waiter =>
      rw [control] at placed
      cases waiter with
      | start => exact placed
      | sync => trivial
      | release => exact placed
    | resetting found =>
      rw [control] at placed
      exact ⟨placed.1, placed.2.1, fun yes k => fewer k (placed.2.2 yes k)⟩
    | listing j =>
      rw [control] at placed
      exact ⟨placed.1, fun k above => ⟨fewer k (placed.2 k above).1, (placed.2 k above).2⟩⟩
    | submitting j =>
      rw [control] at placed
      exact ⟨placed.1, fun k above => fewer k (placed.2 k above)⟩
    | submitted j =>
      rw [control] at placed other
      have apart : j ≠ i := fun same => other (same ▸ rfl)
      refine ⟨placed.1, placed.2.1, ?_, fun k above => fewer k (placed.2.2.2 k above)⟩
      exact (Function.update_of_ne apart _ _).trans placed.2.2.1
    | freeing found =>
      rw [control] at placed
      exact ⟨placed.1, fun yes k => fewer k (placed.2 yes k)⟩
    | released =>
      rw [control] at placed
      exact placed

variable (ep) in
def relisted (i : Nat) : SndUsbEndpoint :=
  { (ep.landed i).clearBit i with readyPlaybackUrbs := ep.readyPlaybackUrbs ++ [i] }

theorem Inv.relisted (inv : ep.Inv) {i : Nat} (flies : ep.inFlight i = true) (running : ep.running = true)
    (sink : ep.implicitFeedbackSink = true) (present : ep.shutdown = false) : (ep.relisted i).Inv := by
  have moving : ¬ ep.Still := by
    rintro (still | gone)
    · exact Bool.false_ne_true (still.symm.trans running)
    · exact Bool.false_ne_true (present.symm.trans gone)
  have placed := inv.placed
  have other : ep.control ≠ .submitted i := by
    intro control
    rw [control] at placed
    exact Bool.false_ne_true (placed.1.symm.trans sink)
  have below := inv.given_up i other
  have unlisted : i ∉ ep.readyPlaybackUrbs := fun ready => Bool.false_ne_true ((inv.ready i ready).symm.trans flies)
  refine ⟨below.marked, inv.once, ?_, ?_, inv.intact, ?_, ?_, ?_, inv.positions⟩
  · intro k ready
    rcases List.mem_append.mp ready with old | new
    · exact below.ready k old
    · rw [List.mem_singleton.mp new]
      exact Function.update_self ..
  · apply List.Nodup.append inv.nodup (List.nodup_singleton i)
    exact List.disjoint_singleton.mpr unlisted
  · intro open_ k known
    rcases known with flies' | ready
    · exact below.bound open_ k (.inl flies')
    · rcases List.mem_append.mp ready with old | new
      · exact inv.bound open_ k (.inr old)
      · rw [List.mem_singleton.mp new]
        exact inv.bound open_ i (.inl flies)
  · intro plain
    exact absurd (plain.symm.trans sink) Bool.false_ne_true
  · have placed' := below.placed
    change ((ep.landed i).clearBit i).Placed ep.control at placed'
    show (ep.relisted i).Placed ep.control
    cases control : ep.control with
    | idle => trivial
    | waiting waiter =>
      rw [control] at placed
      cases waiter with
      | start => exact absurd (.inl placed.1) moving
      | sync => trivial
      | release => exact absurd placed moving
    | resetting found =>
      rw [control] at placed
      exact absurd (.inl placed.1) moving
    | listing j =>
      rw [control] at placed placed'
      refine ⟨sink, ?_⟩
      intro k above
      refine ⟨(placed'.2 k above).1, ?_⟩
      intro ready
      rcases List.mem_append.mp ready with old | new
      · exact (placed.2 k above).2 old
      · -- the URB was in flight, and so it was listed before
        rw [List.mem_singleton.mp new] at above
        exact Bool.false_ne_true ((placed.2 i above).1.symm.trans flies)
    | submitting j =>
      rw [control] at placed
      exact absurd (placed.1.symm.trans sink) Bool.false_ne_true
    | submitted j =>
      rw [control] at placed
      exact absurd (placed.1.symm.trans sink) Bool.false_ne_true
    | freeing found =>
      rw [control] at placed
      exact absurd placed.1 moving
    | released =>
      rw [control] at placed
      exact absurd placed moving

theorem clearBit_queued {submits : Nat → Bool} {i : Nat} {taken : List Nat} (rest : List Nat) (readPos : Nat)
    (sizes : Nat → Nat → Nat) (unsent : submits i = true → i ∉ taken) :
    (ep.queued submits taken rest readPos sizes).clearBit i = (ep.clearBit i).queued submits taken rest readPos sizes := by
  have bits : Function.update (fun k => ep.activeMask k || (submits k && decide (k ∈ taken))) i false =
      fun k => Function.update ep.activeMask i false k || (submits k && decide (k ∈ taken)) := by
    funext k
    rw [Function.update_apply, Function.update_apply]
    by_cases same : k = i
    · rw [if_pos same, if_pos same, same]
      cases sends : submits i with
      | false => rfl
      | true => simp [unsent sends]
    · rw [if_neg same, if_neg same]
  simp only [queued, clearBit, bits]

theorem not_taken {ready taken rest : List Nat} {i : Nat} (unlisted : i ∉ ready) (split : ready ++ [i] = taken ++ rest)
    (short : taken.length ≤ ready.length) : i ∉ taken := by
  have first : taken <+: ready := by
    apply @List.prefix_of_prefix_length_le _ _ _ (ready ++ [i]) _ (List.prefix_append ..) short
    exact ⟨rest, split.symm⟩
  exact fun inside => unlisted (first.subset inside)

theorem Inv.complete (inv : ep.Inv) (i : Nat) (status : Int) (submits : Nat → Bool)
    (proper : ep.Proper (.complete i status submits)) : (ep.exec (.complete i status submits)).Inv := by
  rw [exec]
  split
  · rename_i flies
    obtain ⟨window, queue⟩ := proper flies
    have unlisted : i ∉ ep.readyPlaybackUrbs := fun ready => Bool.false_ne_true ((inv.ready i ready).symm.trans flies)
    rw [sndCompleteUrb_eq]
    by_cases gone : ep.gone status
    · rw [if_pos gone]
      exact inv.given_up i fun control => (window control).1 gone
    by_cases stopped : ep.running = false
    · rw [if_neg gone, if_pos stopped]
      exact inv.given_up i fun control => Bool.false_ne_true (stopped.symm.trans (window control).2.1)
    rw [if_neg gone, if_neg stopped]
    have running := Bool.eq_true_of_not_eq_false stopped
    have present : ep.shutdown = false := by
      apply Bool.eq_false_of_not_eq_true
      exact fun off => gone (.inr (.inr (.inr (.inr off))))
    by_cases sink : ep.implicitFeedbackSink = true
    · rw [if_pos sink]
      let listed : SndUsbEndpoint := { ep.landed i with readyPlaybackUrbs := ep.readyPlaybackUrbs ++ [i] }
      have added : (ep.landed i).listAddTail i = listed := if_neg unlisted
      have sound := inv.relisted flies running sink present
      obtain ⟨taken, rest, readPos, sizes, split, short, inside, state⟩ :=
        @queue_pending listed submits sound.nodup sound.ready sound.positions.1 sound.positions.2
      have unsent : submits i = true → i ∉ taken := fun sends =>
        not_taken unlisted split (short.trans (queue sink gone running sends))
      rw [added, state, clearBit_queued rest readPos sizes unsent]
      exact sound.queued running sink present submits sizes split inside
    · rw [if_neg sink]
      split
      · have flight : Function.update (Function.update ep.inFlight i false) i true = ep.inFlight := by
          rw [Function.update_idem, ← flies, Function.update_eq_self]
        have again : (ep.landed i).usbSubmitUrb i true = ep := by
          simp only [usbSubmitUrb, landed, Function.update_self, Bool.false_or, Bool.or_false, flight]
        rw [again]
        exact inv
      · rename_i fails
        have again : (ep.landed i).usbSubmitUrb i false = ep.landed i := by
          simp only [usbSubmitUrb, landed, Function.update_self, Bool.or_false, Function.update_idem]
        rw [again]
        exact inv.given_up i fun control => fails (window control).2.2
  · exact inv

end completions

section calls

theorem deactivate_still (force : Bool) : (ep.deactivateUrbs force).Still := by
  rw [deactivateUrbs]
  split
  · rename_i off
    exact .inr off.2
  · exact .inl rfl

theorem deactivate_stops (force : Bool) (present : ep.shutdown = false) :
    (ep.deactivateUrbs force).running = false ∧ (ep.deactivateUrbs force).readyPlaybackUrbs = [] := by
  rw [deactivateUrbs, if_neg fun off => Bool.false_ne_true (present.symm.trans off.2)]
  exact ⟨rfl, rfl⟩

theorem Inv.deactivate (inv : ep.Inv) (force : Bool) : (ep.deactivateUrbs force).Inv := by
  rw [deactivateUrbs]
  split
  · exact inv
  · have unlisted (i : Nat) : i ∉ ([] : List Nat) := List.not_mem_nil
    refine ⟨inv.marked, inv.once, fun i ready => absurd ready (unlisted i), List.nodup_nil, inv.intact, ?_, fun _ => rfl, ?_,
      Nat.succ_pos 7, Nat.succ_pos 7⟩
    · intro open_ i known
      rcases known with flies | ready
      · exact inv.bound open_ i (.inl flies)
      · exact absurd ready (unlisted i)
    · have placed := inv.placed
      show SndUsbEndpoint.Placed _ ep.control
      cases control : ep.control with
      | idle => trivial
      | waiting waiter =>
        cases waiter with
        | start => exact ⟨rfl, rfl⟩
        | sync => trivial
        | release => exact .inl rfl
      | resetting found =>
        rw [control] at placed
        exact ⟨rfl, rfl, placed.2.2⟩
      | listing j =>
        rw [control] at placed
        exact ⟨placed.1, fun i above => ⟨(placed.2 i above).1, unlisted i⟩⟩
      | submitting j =>
        rw [control] at placed
        exact placed
      | submitted j =>
        rw [control] at placed
        exact placed
      | freeing found =>
        rw [control] at placed
        exact ⟨.inl rfl, placed.2⟩
      | released => exact .inl rfl

theorem Inv.called (inv : ep.Inv) (idle : ep.control = .idle) (control : Control) (stopping : Bool)
    (placed : { ep with control := control, stopping := stopping }.Placed control) :
    { ep with control := control, stopping := stopping }.Inv := by
  have marked := inv.marked
  have bound := inv.bound
  rw [idle] at marked bound
  exact ⟨fun i _ => marked i Control.noConfusion, inv.once, inv.ready, inv.nodup, inv.intact,
    fun _ => bound Control.noConfusion, inv.plain, placed, inv.positions⟩

theorem Inv.useCount (inv : ep.Inv) (count : Int) : { ep with useCount := count }.Inv :=
  ⟨inv.marked, inv.once, inv.ready, inv.nodup, inv.intact, inv.bound, inv.plain, inv.placed, inv.positions⟩

theorem Inv.stopping (inv : ep.Inv) (flag : Bool) : { ep with stopping := flag }.Inv :=
  ⟨inv.marked, inv.once, inv.ready, inv.nodup, inv.intact, inv.bound, inv.plain, inv.placed, inv.positions⟩

theorem Inv.start (inv : ep.Inv) (canSleep : Bool) : (ep.exec (.start canSleep)).Inv := by
  rw [exec]
  split
  · rename_i idle
    rw [sndUsbEndpointStart]
    split
    · exact inv
    rename_i present
    dsimp only
    split
    · exact inv.useCount _
    · have counted := inv.useCount (ep.useCount + 1)
      have stopped := @deactivate_stops { ep with useCount := ep.useCount + 1 } false
        (Bool.eq_false_of_not_eq_true present)
      have idle' : ({ ep with useCount := ep.useCount + 1 }.deactivateUrbs false).control = .idle := by
        rw [deactivateUrbs]
        split <;> exact idle
      apply (counted.deactivate false).called idle' _ _
      cases canSleep with
      | true => exact stopped
      | false => exact ⟨stopped.1, stopped.2, Bool.noConfusion⟩
  · exact inv

theorem Inv.sync (inv : ep.Inv) : (ep.exec .sync).Inv := by
  rw [exec]
  split
  · rename_i idle
    rw [sndUsbEndpointSyncPendingStop]
    split
    · exact inv.called idle (.waiting .sync) _ trivial
    · exact inv
  · exact inv

theorem Inv.release (inv : ep.Inv) (force : Bool) : (ep.exec (.release force)).Inv := by
  rw [exec]
  split
  · rename_i idle
    have idle' : (ep.deactivateUrbs force).control = .idle := by
      rw [deactivateUrbs]
      split <;> exact idle
    exact (inv.deactivate force).called idle' (.waiting .release) _ (deactivate_still force)
  · exact inv

theorem Inv.stop (inv : ep.Inv) : (ep.exec .stop).Inv := by
  rw [exec, sndUsbEndpointStop]
  split
  · exact inv
  dsimp only
  split
  · exact ((inv.useCount _).deactivate false).stopping true
  · exact inv.useCount _

theorem Inv.shutdown (inv : ep.Inv) : (ep.exec .shutdown).Inv := by
  refine ⟨inv.marked, inv.once, inv.ready, inv.nodup, inv.intact, inv.bound, inv.plain, ?_, inv.positions⟩
  have placed := inv.placed
  show SndUsbEndpoint.Placed _ ep.control
  cases control : ep.control with
  | waiting waiter =>
    rw [control] at placed
    cases waiter with
    | start => exact placed
    | sync => trivial
    | release => exact .inr rfl
  | freeing found =>
    rw [control] at placed
    exact ⟨.inr rfl, placed.2⟩
  | released => exact .inr rfl
  | _ =>
    rw [control] at placed
    exact placed

end calls

section proceeding

theorem Inv.wait (inv : ep.Inv) {waiter : Waiter} (control : ep.control = .waiting waiter) (late : Bool) :
    (ep.waitClearUrbs waiter late).Inv := by
  have placed := inv.placed
  have marked := inv.marked
  have bound := inv.bound
  rw [control] at placed marked bound
  have none : (ep.alive == 0) = true → ∀ i, ep.inFlight i = false := by
    intro dead i
    apply Bool.eq_false_of_not_eq_true
    intro flies
    have below := bound Control.noConfusion i (.inl flies)
    have off := List.countP_eq_zero.mp (beq_iff_eq.mp dead) i (List.mem_range.mpr below)
    exact off ((marked i Control.noConfusion).mpr flies)
  rw [waitClearUrbs]
  split
  · refine ⟨fun i _ => marked i Control.noConfusion, inv.once, inv.ready, inv.nodup, inv.intact,
      fun _ => bound Control.noConfusion, inv.plain, ?_, inv.positions⟩
    cases waiter with
    | start => exact ⟨placed.1, placed.2, none⟩
    | sync => trivial
    | release => exact ⟨placed, none⟩
  · exact inv

theorem Inv.reset (inv : ep.Inv) {found : Bool} (control : ep.control = .resetting found) (none : ∀ i, ep.inFlight i = false) :
    ep.startReset.Inv := by
  have placed := inv.placed
  have bound := inv.bound
  rw [control] at placed bound
  refine ⟨?_, inv.once, inv.ready, inv.nodup, inv.intact, fun _ => bound Control.noConfusion, inv.plain, ?_, inv.positions⟩
  · intro i _
    show false = true ↔ ep.inFlight i = true
    rw [none i]
  · show SndUsbEndpoint.Placed _ (if ep.implicitFeedbackSink then .listing 0 else .submitting 0)
    split
    · rename_i sink
      refine ⟨sink, ?_⟩
      intro i _
      refine ⟨none i, ?_⟩
      show i ∉ ep.readyPlaybackUrbs
      rw [placed.2.1]
      exact List.not_mem_nil
    · rename_i plain
      exact ⟨Bool.eq_false_of_not_eq_true plain, fun i _ => none i⟩

theorem Inv.finished (inv : ep.Inv) (window : ∀ i, ep.control ≠ .submitted i) (open_ : ep.control ≠ .released) :
    { ep with control := .idle }.Inv :=
  ⟨fun i _ => inv.marked i (window i), inv.once, inv.ready, inv.nodup, inv.intact, fun _ => inv.bound open_, inv.plain,
    trivial, inv.positions⟩

theorem Inv.list (inv : ep.Inv) {j : Nat} (control : ep.control = .listing j) : (ep.startList j).Inv := by
  have placed := inv.placed
  have marked := inv.marked
  have bound := inv.bound
  rw [control] at placed marked bound
  rw [startList]
  split
  · rename_i below
    obtain ⟨sink, placed⟩ := placed
    obtain ⟨idle, unlisted⟩ := placed j (Nat.le_refl j)
    rw [listAddTail, if_neg unlisted]
    refine ⟨fun i _ => marked i Control.noConfusion, inv.once, ?_, ?_, inv.intact, ?_, ?_, ?_, inv.positions⟩
    · intro i ready
      rcases List.mem_append.mp ready with old | new
      · exact inv.ready i old
      · rw [List.mem_singleton.mp new]
        exact idle
    · apply List.Nodup.append inv.nodup (List.nodup_singleton j)
      exact List.disjoint_singleton.mpr unlisted
    · intro _ i known
      rcases known with flies | ready
      · exact bound Control.noConfusion i (.inl flies)
      · rcases List.mem_append.mp ready with old | new
        · exact bound Control.noConfusion i (.inr old)
        · rw [List.mem_singleton.mp new]
          exact below
    · intro plain
      exact absurd (plain.symm.trans sink) Bool.false_ne_true
    · refine ⟨sink, ?_⟩
      intro i above
      obtain ⟨idle', unlisted'⟩ := placed i (Nat.le_of_succ_le above)
      refine ⟨idle', ?_⟩
      intro ready
      rcases List.mem_append.mp ready with old | new
      · exact unlisted' old
      · have same := List.mem_singleton.mp new
        omega
  · apply inv.finished
    · intro i submitted
      exact Control.noConfusion (control.symm.trans submitted)
    · intro released
      exact Control.noConfusion (control.symm.trans released)

theorem Inv.error (inv : ep.Inv) (window : ∀ i, ep.control ≠ .submitted i) (open_ : ep.control ≠ .released) :
    ep.startError.Inv := by
  let halted : SndUsbEndpoint := { ep with running := false, useCount := ep.useCount - 1, control := .idle }
  have sound : halted.Inv :=
    ⟨fun i _ => inv.marked i (window i), inv.once, inv.ready, inv.nodup, inv.intact, fun _ => inv.bound open_, inv.plain,
      trivial, inv.positions⟩
  have same : ep.startError = halted.deactivateUrbs false := by
    by_cases off : ep.shutdown = true
    · simp [startError, deactivateUrbs, halted, off]
    · simp [startError, deactivateUrbs, halted, off]
  rw [same]
  exact sound.deactivate false

theorem Inv.submit (inv : ep.Inv) {j : Nat} (control : ep.control = .submitting j) (succeeds : Bool) :
    (ep.startSubmit j succeeds).Inv := by
  have placed := inv.placed
  have marked := inv.marked
  have bound := inv.bound
  have plain := inv.plain
  rw [control] at placed marked bound
  obtain ⟨sink, idle⟩ := placed
  have idle' := idle j (Nat.le_refl j)
  have window (i : Nat) : ep.control ≠ .submitted i := fun submitted => Control.noConfusion (control.symm.trans submitted)
  have open_ : ep.control ≠ .released := fun released => Control.noConfusion (control.symm.trans released)
  rw [startSubmit]
  split
  · rename_i below
    split
    · have unlisted (i : Nat) : i ∉ ep.readyPlaybackUrbs := by
        rw [plain sink]
        exact List.not_mem_nil
      have flown (i : Nat) (flies : Function.update ep.inFlight j (ep.inFlight j || true) i = true) :
          i = j ∨ ep.inFlight i = true := by
        rw [Function.update_apply] at flies
        split at flies
        · rename_i same
          exact .inl same
        · exact .inr flies
      refine ⟨?_, ?_, fun i ready => absurd ready (unlisted i), inv.nodup, inv.intact, ?_, plain, ?_, inv.positions⟩
      · intro i other
        have apart : i ≠ j := fun same => other (same ▸ rfl)
        show _ ↔ Function.update ep.inFlight j _ i = true
        rw [Function.update_of_ne apart]
        exact marked i Control.noConfusion
      · show (ep.clash || ep.inFlight j) = false
        rw [inv.once, idle']
        rfl
      · intro _ i known
        rcases known with flies | ready
        · rcases flown i flies with same | old
          · rw [same]
            exact below
          · exact bound Control.noConfusion i (.inl old)
        · exact absurd ready (unlisted i)
      · refine ⟨sink, below, ?_, ?_⟩
        · show Function.update ep.inFlight j (ep.inFlight j || true) j = true
          rw [Function.update_self, Bool.or_true]
        · intro i above
          show Function.update ep.inFlight j _ i = false
          rw [Function.update_of_ne (by omega)]
          exact idle i (Nat.le_of_lt above)
    · have same : ep.usbSubmitUrb j false = ep := by
        simp only [usbSubmitUrb, idle', Bool.or_false]
        rw [← idle', Function.update_eq_self]
      rw [same]
      exact inv.error window open_
  · exact inv.finished window open_

theorem Inv.set (inv : ep.Inv) {j : Nat} (control : ep.control = .submitted j) : (ep.startSet j).Inv := by
  have placed := inv.placed
  have marked := inv.marked
  have bound := inv.bound
  rw [control] at placed marked bound
  obtain ⟨sink, below, flies, idle⟩ := placed
  refine ⟨?_, inv.once, inv.ready, inv.nodup, inv.intact, fun _ => bound Control.noConfusion, inv.plain,
    ⟨sink, fun i above => idle i above⟩, inv.positions⟩
  intro i _
  show Function.update ep.activeMask j true i = true ↔ ep.inFlight i = true
  by_cases same : i = j
  · rw [same, Function.update_self, flies]
  · rw [Function.update_of_ne same]
    exact marked i fun submitted => same (Control.submitted.inj submitted).symm

theorem Inv.freed (inv : ep.Inv) {found : Bool} (control : ep.control = .freeing found) : ep.releaseFree.Inv := by
  have placed := inv.placed
  have marked := inv.marked
  rw [control] at placed marked
  exact ⟨fun i _ => marked i Control.noConfusion, inv.once, inv.ready, inv.nodup, inv.intact, fun open_ => absurd rfl open_,
    inv.plain, placed.1, inv.positions⟩

theorem Inv.proceed (inv : ep.Inv) (flag : Bool) (proper : ep.Proper (.proceed flag)) : (ep.proceed flag).Inv := by
  rw [SndUsbEndpoint.proceed]
  split
  · exact inv
  · exact inv
  · rename_i waiter control
    exact inv.wait control flag
  · rename_i found control
    apply inv.reset control
    have placed := inv.placed
    have bound := inv.bound
    rw [control] at placed bound
    cases found with
    | true => exact placed.2.2 rfl
    | false =>
      intro i
      apply Bool.eq_false_of_not_eq_true
      intro flies
      have below := bound Control.noConfusion i (.inl flies)
      exact Bool.false_ne_true ((proper control i below).symm.trans flies)
  · rename_i j control
    exact inv.list control
  · rename_i j control
    exact inv.submit control flag
  · rename_i j control
    exact inv.set control
  · rename_i found control
    exact inv.freed control

end proceeding

theorem Inv.exec (inv : ep.Inv) (op : UsbOp) (proper : ep.Proper op) : (ep.exec op).Inv := by
  cases op with
  | start canSleep => exact inv.start canSleep
  | sync => exact inv.sync
  | release force => exact inv.release force
  | proceed flag => exact inv.proceed flag proper
  | stop => exact inv.stop
  | complete i status submits => exact inv.complete i status submits proper
  | feedback frames senderStride submits => exact inv.feedback frames senderStride submits
  | shutdown => exact inv.shutdown

variable (ep) in
structure Configured : Prop where
  idle : ep.control = .idle
  landed : ∀ i, ep.inFlight i = false
  inactive : ∀ i, ep.activeMask i = false
  once : ep.clash = false
  intact : ep.broken = false
  ready : ep.readyPlaybackUrbs = []
  positions : ep.nextPacketReadPos < MAX_URBS ∧ ep.nextPacketWritePos < MAX_URBS

theorem Configured.inv (configured : ep.Configured) : ep.Inv := by
  have unlisted (i : Nat) : i ∉ ep.readyPlaybackUrbs := by
    rw [configured.ready]
    exact List.not_mem_nil
  refine ⟨?_, configured.once, fun i ready => absurd ready (unlisted i), ?_, configured.intact, ?_, fun _ => configured.ready,
    ?_, configured.positions⟩
  · intro i _
    rw [configured.inactive i, configured.landed i]
  · rw [configured.ready]
    exact List.nodup_nil
  · intro _ i known
    rcases known with flies | ready
    · exact absurd ((configured.landed i).symm.trans flies) Bool.false_ne_true
    · exact absurd ready (unlisted i)
  · rw [configured.idle]
    trivial

theorem urbs_accounted (ep : SndUsbEndpoint) (ops : List UsbOp) (configured : ep.Configured)
    (proper : Throughout exec (fun s op _ => s.Proper op) ep ops) :
    Throughout exec (fun s _ s' => s.Accounted ∧ s'.Accounted) ep ops := by
  apply Throughout.steps Inv configured.inv proper
  intro s op inv proper
  have next := inv.exec op proper
  exact ⟨⟨inv.accounted, next.accounted⟩, next⟩

instance (ep : SndUsbEndpoint) : (op : UsbOp) → Decidable (ep.Proper op)
  | .proceed _ => inferInstanceAs (Decidable (ep.control = .resetting false → ∀ i < ep.nurbs, ep.inFlight i = false))
  | .complete i status submits => inferInstanceAs (Decidable (ep.inFlight i = true →
      (ep.control = .submitted i → ¬ ep.gone status ∧ ep.running = true ∧ submits i = true) ∧
      (ep.implicitFeedbackSink = true → ¬ ep.gone status → ep.running = true → submits i = true →
        ep.pending ≤ ep.readyPlaybackUrbs.length)))
  | .start _ | .sync | .release _ | .stop | .feedback _ _ _ | .shutdown => .isTrue trivial

def configured (pipeout syncMasterData : Bool) : SndUsbEndpoint :=
  { pipeout, syncMasterData, shutdown := false, nurbs := 8, useCount := 0, running := false, stopping := false,
    activeMask := fun _ => false, unlinkMask := fun _ => false, readyPlaybackUrbs := [], nextPacket := fun _ => [],
    nextPacketReadPos := 0, nextPacketWritePos := 0, packetSize := fun _ _ => 0, control := .idle,
    inFlight := fun _ => false, clash := false, broken := false }

theorem configured_new (pipeout syncMasterData : Bool) : (configured pipeout syncMasterData).Configured :=
  ⟨rfl, fun _ => rfl, fun _ => rfl, rfl, rfl, rfl, Nat.succ_pos 7, Nat.succ_pos 7⟩

/-- A sink is started, gets a packet for its first URB and a second one after it came back, and is released. -/
theorem urbs_accounted_sink : Throughout exec (fun s _ s' => s.Accounted ∧ s'.Accounted) (configured true true)
    ([.start true] ++ List.replicate 11 (.proceed false) ++
      [.feedback [(0, 192)] 4 fun _ => true, .complete 0 0 fun _ => true, .feedback [(0, 192)] 4 fun _ => true, .stop,
        .sync, .complete 1 (- ECONNRESET) fun _ => true, .proceed false, .release false, .proceed false, .proceed false]) :=
  urbs_accounted _ _ (configured_new true true) (by decide +kernel)

/-- A start that fails leaves URBs in flight, the bits of which the next start clears. -/
theorem restart_forgets : ¬ ∀ (ep : SndUsbEndpoint) (ops : List UsbOp), ep.Configured →
    Throughout exec (fun s _ s' => s.Accounted ∧ s'.Accounted) ep ops := by
  intro all
  have run := all (configured false false)
    [.start false, .proceed true, .proceed true, .proceed true, .proceed false, .start false, .proceed true]
    (configured_new false false)
  have last := run.2.2.2.2.2.2.1.2
  have lost := (last.active 0 (by decide +kernel) (by decide +kernel)).mpr (by decide +kernel)
  exact absurd lost (by decide +kernel)

end SndUsbEndpoint

end AlsaDriver.Usb
