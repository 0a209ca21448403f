import AlsaDriver.Rawmidi.OutputRuns

namespace AlsaDriver.Rawmidi

open Runs Words SndRawmidiRuntime

namespace Output

variable {s : Output} {w : Nat} {part : List Byte} {wr : Writing}

def succeeded (s : Output) : List (List Byte) := (s.calls.filter fun call => decide (0 ≤ call.2)).map Prod.fst

structure Atomic (s : Output) : Prop where
  avail : s.runtime.avail ≤ s.runtime.bufferSize
  handed : ∃ order : List (List Byte), order.Perm s.succeeded ∧
    ∃ w, s.sent ++ s.held <+: order.flatten ++ (s.writers w).written
  settled : (∀ w, s.writers w = .outside) →
    ∃ order : List (List Byte), order.Perm s.succeeded ∧ s.sent ++ s.runtime.pending = order.flatten

/-- No call passes its check while another writer is between its own and its end, and no copy faults
    behind a first part of its call. -/
def Undisturbed (s : Output) : OutputOp → Prop
  | .write v _ data => s.Refused data ∨ data = [] ∨ ∀ u, u ≠ v → s.writers u = .outside
  | .copy w (some _) => (s.writers w).written = []
  | _ => True

def Ended (call : List Byte × Int) : Prop := call.2 < 0 ∨ call.2 = call.1.length

theorem eagain_neg : -EAGAIN < 0 := by decide

theorem efault_neg : -EFAULT < 0 := by decide

structure Whole (s : Output) : Prop where
  append : s.sub.append = true
  calls : ∀ call ∈ s.calls, Ended call

theorem Whole.finish {data : List Byte} {result : Int} (whole : s.Whole) (ended : Ended (data, result)) :
    (s.finish w data result).Whole where
  append := whole.append
  calls := by
    intro call inside
    rcases List.mem_append.mp inside with before | last
    · exact whole.calls call before
    · rw [List.mem_singleton.mp last]
      exact ended

theorem Whole.loop (whole : s.Whole) (ring : s.runtime.OutputRing) (inside : wr.result ≤ wr.data.length)
    (room : wr.count ≤ s.runtime.avail) : (s.loop w wr).Whole := by
  have chunk := ring.nextChunk wr.count
  have count : wr.count = wr.data.length - wr.result := rfl
  rw [Output.loop]
  split at chunk
  · rw [chunk]
    exact ⟨whole.append, whole.calls⟩
  · rename_i stops
    rw [chunk]
    apply whole.finish
    right
    show (wr.result : Int) = wr.data.length
    omega

theorem InvAt.idle {v : Nat} {data : List Byte} {result : Int} (inv : s.InvAt w) (outside : s.writers v = .outside)
    (nothing : data.take result.toNat = []) : (s.finish v data result).InvAt w := by
  have same : (s.finish v data result).writers = s.writers := by
    funext u
    show (if u = v then Writer.outside else s.writers u) = s.writers u
    split
    · rename_i here
      rw [here, outside]
    · rfl
  have returned : (s.finish v data result).returned = s.returned := by
    show (s.calls ++ [(data, result)]).flatMap _ = s.returned
    rw [List.flatMap_append, List.flatMap_singleton, nothing, List.append_nil]
    rfl
  refine ⟨⟨inv.ring, inv.held, ?_, ?_⟩, ?_⟩
  · rw [same]
    exact inv.others
  · rw [same, returned]
    exact inv.order
  · rw [same]
    exact inv.fits.mono rfl rfl rfl rfl (Nat.le_refl _)

theorem write_nil (kernel : Bool) (room : ¬ s.Refused []) : s.write w kernel [] = s.finish w [] 0 := by
  have stops : s.runtime.nextChunk (Writing.count ⟨[], 0⟩) = none := if_neg fun some => Nat.lt_irrefl 0 some.1
  rw [Output.write, if_neg room]
  cases kernel with
  | true => rfl
  | false =>
    show s.loop w ⟨[], 0⟩ = s.finish w [] 0
    rw [Output.loop, stops]
    rfl

theorem Whole.write {data : List Byte} (whole : s.Whole) (ring : s.runtime.OutputRing) (kernel : Bool) :
    (s.write w kernel data).Whole := by
  rw [Output.write]
  split
  · exact whole.finish (.inl eagain_neg)
  · rename_i accepted
    have room : data.length ≤ s.runtime.avail := room_of_accepted ring accepted whole.append
    split
    · obtain ⟨-, -, -, -, ends⟩ := @OutputRing.writeKernel _ data data.length 0 ring (Nat.zero_le _)
      have all := ends (Nat.le_refl _) room
      refine Whole.finish ⟨whole.append, whole.calls⟩ (.inr ?_)
      exact congrArg Int.ofNat all
    · exact whole.loop ring (Nat.zero_le _) room

theorem Whole.copy {count1 : Int} (whole : s.Whole) {fault : Option (List Byte)}
    (clean : fault = none ∨ wr.result = 0) : (s.copy w wr count1 fault).Whole := by
  cases fault with
  | none => exact ⟨whole.append, whole.calls⟩
  | some junk =>
    have nothing : wr.result = 0 := clean.resolve_left (Option.some_ne_none junk)
    refine Whole.finish ⟨whole.append, whole.calls⟩ (.inl ?_)
    show (if 0 < wr.result then (wr.result : Int) else -EFAULT) < 0
    rw [if_neg (by omega)]
    exact efault_neg

theorem InvAt.advance_whole {count1 : Int} (inv : s.InvAt w) (whole : s.Whole)
    (copied : s.writers w = .copied wr count1) : (s.advance w wr count1).Whole := by
  have fits := inv.fits
  rw [copied] at fits
  obtain ⟨fits, -⟩ := fits
  have room := fits.whole whole.append
  have count : wr.count = wr.data.length - wr.result := rfl
  obtain ⟨ring, less, -⟩ := inv.ring.writeAdvance fits.straight fits.room
  rw [fits.long] at ring less
  refine Whole.loop ⟨whole.append, whole.calls⟩ ring fits.inside ?_
  show wr.data.length - (wr.result + count1.toNat) ≤ (s.runtime.writeAdvance count1).avail
  omega

theorem InvAt.active {v : Nat} (inv : s.InvAt w) (active : s.writers v ≠ .outside) : v = w := by
  by_contra other
  exact active (inv.others v other)

theorem InvAt.write {v : Nat} {kernel : Bool} {data : List Byte} (inv : s.InvAt w) (outside : s.writers v = .outside)
    (alone : s.Undisturbed (.write v kernel data)) : ∃ u, (s.write v kernel data).InvAt u := by
  by_cases refused : s.Refused data
  · rw [Output.write, if_pos refused]
    exact ⟨w, inv.idle outside (List.take_zero ..)⟩
  · rcases alone with accepted | rfl | others
    · exact absurd accepted refused
    · rw [write_nil kernel refused]
      exact ⟨w, inv.idle outside (List.take_nil ..)⟩
    · have nothing : (s.writers w).written = [] := by
        by_cases here : w = v
        · rw [here, outside]
          rfl
        · rw [others w here]
          rfl
      have before : s.Part v [] := ⟨inv.ring, inv.held, others, by rw [inv.order, nothing]⟩
      exact ⟨v, before.write kernel⟩

theorem InvAt.step (inv : s.InvAt w) (whole : s.Whole) {op : OutputOp} (acks : s.AcksHeld op)
    (alone : s.Undisturbed op) : (∃ v, (s.exec op).InvAt v) ∧ (s.exec op).Whole := by
  cases op with
  | write v kernel data =>
    rw [Output.exec]
    split
    · rename_i outside
      exact ⟨inv.write outside alone, whole.write inv.ring kernel⟩
    · exact ⟨⟨w, inv⟩, whole⟩
  | copy v fault =>
    rw [Output.exec]
    split
    · rename_i wr count1 copying
      obtain rfl : v = w := inv.active (by rw [copying]; simp)
      refine ⟨⟨v, inv.copy copying fault⟩, whole.copy ?_⟩
      cases fault with
      | none => exact .inl rfl
      | some junk =>
        right
        have nothing : (s.writers v).written = [] := alone
        have fits := inv.fits
        rw [copying] at nothing fits
        have inside := fits.inside
        rcases List.take_eq_nil_iff.mp nothing with zero | empty
        · exact zero
        · rw [empty, List.length_nil] at inside
          omega
    · exact ⟨⟨w, inv⟩, whole⟩
  | advance v =>
    rw [Output.exec]
    split
    · rename_i wr count1 copied
      obtain rfl : v = w := inv.active (by rw [copied]; simp)
      exact ⟨⟨v, inv.advance copied⟩, inv.advance_whole whole copied⟩
    · exact ⟨⟨w, inv⟩, whole⟩
  | peek count =>
    refine ⟨⟨w, inv.peek count⟩, ?_⟩
    rw [Output.exec, Output.peek]
    split
    · exact ⟨whole.append, whole.calls⟩
    · exact whole
  | ack count => exact ⟨⟨w, inv.ack acks⟩, whole.append, whole.calls⟩

theorem returned_eq {calls : List (List Byte × Int)} (ended : ∀ call ∈ calls, Ended call) :
    (calls.flatMap fun call => call.1.take call.2.toNat) =
      ((calls.filter fun call => decide (0 ≤ call.2)).map Prod.fst).flatten := by
  induction calls with
  | nil => rfl
  | cons call rest ih =>
    obtain ⟨first, later⟩ := List.forall_mem_cons.mp ended
    rw [List.flatMap_cons, ih later]
    rcases first with failed | whole
    · have nothing : call.2.toNat = 0 := by omega
      rw [nothing, List.take_zero, List.filter_cons_of_neg (by simpa using failed), List.nil_append]
    · have all : call.1.take call.2.toNat = call.1 := by
        rw [whole, Int.toNat_natCast, List.take_length]
      rw [all, List.filter_cons_of_pos (by simp [whole]), List.map_cons, List.flatten_cons]

theorem InvAt.atomic (inv : s.InvAt w) (whole : s.Whole) : s.Atomic := by
  have order : s.sent ++ s.runtime.pending = s.succeeded.flatten ++ (s.writers w).written := by
    rw [inv.order, Output.returned, returned_eq whole.calls, succeeded]
  refine ⟨inv.ring.avail, ⟨s.succeeded, .refl _, w, ?_⟩, fun outside => ⟨s.succeeded, .refl _, ?_⟩⟩
  · rw [← order]
    exact (List.prefix_append_right_inj _).mpr inv.held
  · rw [order, outside w]
    exact List.append_nil _

end Output

/-- Append writers that do not overlap, and whose copies do not fault midway, are atomic. -/
theorem append_atomic (buffer : Nat → Byte) (size : Nat) (sized : BufferSize size) (ops : List OutputOp)
    (acks : Throughout Output.exec (fun s op _ => s.AcksHeld op) (Output.fresh buffer size sized true) ops)
    (alone : Throughout Output.exec (fun s op _ => s.Undisturbed op) (Output.fresh buffer size sized true) ops) :
    Throughout Output.exec (fun _ _ s' => s'.Atomic) (Output.fresh buffer size sized true) ops := by
  have start : (Output.fresh buffer size sized true).Whole := ⟨rfl, fun _ inside => absurd inside List.not_mem_nil⟩
  apply ((acks.and alone).invariant (fun s => (∃ w, s.InvAt w) ∧ s.Whole)
    ⟨⟨0, Output.fresh_inv buffer size sized true 0⟩, start⟩ _).mono
  · rintro s op s' ⟨-, -, ⟨w, inv⟩, whole⟩
    exact inv.atomic whole
  · rintro s op ⟨⟨w, inv⟩, whole⟩ ⟨acks, alone⟩
    exact inv.step whole acks alone

theorem append_atomic_acked : Throughout Output.exec (fun _ _ s' => s'.Atomic)
    (Output.fresh (fun _ => 0) 32 bufferSize_least true)
    [.write 0 false [1, 2, 3], .write 1 true (List.replicate 40 9), .copy 0 none, .advance 0, .peek 2, .ack 2] :=
  append_atomic (fun _ => 0) 32 bufferSize_least _ (by decide)
    ⟨.inr (.inr fun _ _ => rfl), .inl (by decide), trivial, trivial, trivial, trivial, trivial⟩

/-- Two writers whose data fits alone but not together. -/
theorem append_overlaps : ¬ ∀ (buffer : Nat → Byte) (size : Nat) (sized : BufferSize size) (ops : List OutputOp),
    Throughout Output.exec (fun s op _ => s.AcksHeld op) (Output.fresh buffer size sized true) ops →
    Throughout Output.exec (fun _ _ s' => s'.Atomic) (Output.fresh buffer size sized true) ops := by
  intro claim
  have atomic := claim (fun _ => 0) 32 bufferSize_least
    [.write 0 false (List.replicate 20 1), .write 1 false (List.replicate 20 2), .copy 0 none, .copy 1 none,
      .advance 0, .advance 1] (by decide)
  have last := atomic.2.2.2.2.2.1.avail
  revert last
  decide

end AlsaDriver.Rawmidi
