import AlsaDriver.Lib.Runs
import AlsaDriver.Usb.Outbound

namespace AlsaDriver.Usb

open Runs

inductive PaceOp where
  | freq (f : Nat)
  | prepare (provided : Bool) (i : Nat) (sizes : List Nat)

theorem wrap_le (n : Nat) : wrap n ≤ n := Nat.mod_le n _

theorem wrap_of_lt {n : Nat} (small : n < 2 ^ 32) : wrap n = n := Nat.mod_eq_of_lt small

namespace EpParams

variable (p : EpParams)

def ownFrames : Nat :=
  let maxframesize := p.maxpacksize * 8 / p.runtimeFrameBits
  if p.fillMax then maxframesize else min (p.maxpacksize / p.stride) maxframesize

def receivedFrames (capture senderStride : Nat) : Nat := if p.sink then capture / senderStride else 0

/-- The frames of the largest packet, where the capture packets of the sender have up to `capture` bytes. -/
def largestFrames (capture senderStride : Nat) : Nat := max p.ownFrames (p.receivedFrames capture senderStride)

structure Bounded (periodSize capture senderStride : Nat) : Prop where
  rate : p.maxpacksize / p.stride < 2 ^ 16
  buffer : ∀ i < p.urbCounts.1, p.maxsize * p.bufferPackets i < 2 ^ 32
  frames : ∀ i < p.urbCounts.1, (p.bufferPackets i + 1) * p.largestFrames capture senderStride < 2 ^ 32
  sent : ∀ i < p.urbCounts.1, (p.bufferPackets i + 1) * (p.largestFrames capture senderStride * p.stride) < 2 ^ 32
  period : periodSize + p.largestFrames capture senderStride < 2 ^ 32

/-- Packets that are filled, or that have the frames of a capture packet, fit into a packet, and the packet that
    a type II format has more than its buffer fits into the buffer. -/
structure Fitting (capture senderStride : Nat) : Prop where
  filled : p.fillMax = true → p.maxpacksize * 8 / p.runtimeFrameBits * p.stride ≤ p.maxpacksize
  received : p.sink = true → capture / senderStride * p.stride ≤ p.maxsize
  delimiter : p.typeII = true → ∀ i < p.urbCounts.1,
    (p.bufferPackets i + 1) * (p.largestFrames capture senderStride * p.stride) ≤ p.maxsize * p.bufferPackets i

end EpParams

namespace DataEp

variable (ep : DataEp)

def exec (pace : Pace) : PaceOp → Pace
  | .freq f => { pace with freqm := f }
  | .prepare provided _ sizes => (ep.prepareOutboundUrb provided sizes pace).2

def Valid (capture senderStride : Nat) : PaceOp → Prop
  | .freq f => f ≤ ep.freqmax
  | .prepare _ i sizes => i < ep.nurbs ∧ sizes.length = (ep.urb i).packets ∧
      ∀ size ∈ sizes, if ep.sink then ∃ actual ≤ capture, size = actual / senderStride else size = 0

def FitsUrb (i : Nat) (urb : Urb) : Prop :=
  urb.numberOfPackets ≤ (ep.urb i).packets ∧ (∀ desc ∈ urb.isoFrameDesc, desc.2 ≤ ep.maxsize) ∧
    urb.transferBufferLength ≤ (ep.urb i).bufferSize

def Fits (pace : Pace) : PaceOp → Prop
  | .freq _ => True
  | .prepare provided i sizes => ep.FitsUrb i (ep.prepareOutboundUrb provided sizes pace).1

structure Paced (pace : Pace) : Prop where
  rate : pace.freqm ≤ ep.freqmax
  left : ep.typeII = true → pace.transferDone ≤ ep.periodSize

variable {ep}

section upper

variable {largest : Nat}

theorem counts_frame (size : Nat) (pace : Pace) :
    (ep.counts size pace).2.freqm = pace.freqm ∧ (ep.counts size pace).2.transferDone = pace.transferDone := by
  unfold counts nextPacketSize
  split
  · exact ⟨rfl, rfl⟩
  · split
    · exact ⟨rfl, rfl⟩
    · exact ⟨rfl, rfl⟩

/-- No packet has more than `largest` frames at a rate up to `freqmax`. -/
def Limited (ep : DataEp) (largest : Nat) (sizes : List Nat) : Prop :=
  ∀ size ∈ sizes, ∀ pace : Pace, pace.freqm ≤ ep.freqmax → (ep.counts size pace).1 ≤ largest

theorem silence_bound (sizes : List Nat) (offs : Nat) (pace : Pace) (rate : pace.freqm ≤ ep.freqmax)
    (limited : ep.Limited largest sizes) :
    (ep.silenceLoop sizes offs pace).1.isoFrameDesc.length = sizes.length ∧
      (∀ desc ∈ (ep.silenceLoop sizes offs pace).1.isoFrameDesc, desc.2 ≤ largest * ep.stride) ∧
      (ep.silenceLoop sizes offs pace).1.transferBufferLength ≤ (offs + sizes.length * largest) * ep.stride ∧
      (ep.silenceLoop sizes offs pace).2.freqm = pace.freqm ∧
      (ep.silenceLoop sizes offs pace).2.transferDone = pace.transferDone := by
  induction sizes generalizing offs pace with
  | nil =>
    simp only [silenceLoop, List.length_nil, Nat.zero_mul, Nat.add_zero]
    exact ⟨trivial, fun _ inside => absurd inside List.not_mem_nil, wrap_le _, trivial, trivial⟩
  | cons size sizes ih =>
    obtain ⟨sameRate, sameDone⟩ := @counts_frame ep size pace
    have few := limited size (List.mem_cons_self ..) pace rate
    obtain ⟨many, short, total, rateKept, doneKept⟩ := ih (wrap (offs + (ep.counts size pace).1)) (ep.counts size pace).2
      (sameRate ▸ rate) fun size' inside => limited size' (List.mem_cons_of_mem _ inside)
    simp only [silenceLoop]
    refine ⟨congrArg (· + 1) many, ?_, ?_, rateKept.trans sameRate, doneKept.trans sameDone⟩
    · intro desc inside
      rcases List.mem_cons.mp inside with first | later
      · rw [first]
        exact (wrap_le _).trans (Nat.mul_le_mul_right _ few)
      · exact short desc later
    · apply total.trans (Nat.mul_le_mul_right _ _)
      have below := wrap_le (offs + (ep.counts size pace).1)
      rw [List.length_cons, Nat.add_mul, Nat.one_mul]
      omega

theorem left_within {pace : Pace} {counts : Nat} (paced : ep.Paced pace) (typeII : ep.typeII = true)
    (room : ep.periodSize + largest < 2 ^ 32) (few : counts ≤ largest) :
    wrap (pace.transferDone + counts) - ep.periodSize ≤ counts := by
  have before := paced.left typeII
  have small := wrap_of_lt (n := pace.transferDone + counts) (by omega)
  omega

theorem playback_bound (sizes : List Nat) (frames : Nat) (elapsed : Bool) (pace : Pace) (paced : ep.Paced pace)
    (limited : ep.Limited largest sizes) (exact_ : frames + sizes.length * largest < 2 ^ 32)
    (room : ep.periodSize + largest < 2 ^ 32) :
    (ep.playbackLoop sizes frames elapsed pace).1.isoFrameDesc.length ≤ sizes.length ∧
      (∀ desc ∈ (ep.playbackLoop sizes frames elapsed pace).1.isoFrameDesc, desc.2 ≤ largest * ep.stride) ∧
      (ep.playbackLoop sizes frames elapsed pace).1.transferBufferLength ≤ (frames + sizes.length * largest) * ep.stride ∧
      ep.Paced (ep.playbackLoop sizes frames elapsed pace).2 := by
  induction sizes generalizing frames elapsed pace with
  | nil =>
    simp only [playbackLoop, List.length_nil, Nat.zero_mul, Nat.add_zero]
    exact ⟨Nat.le_refl 0, fun _ inside => absurd inside List.not_mem_nil, wrap_le _, paced⟩
  | cons size sizes ih =>
    obtain ⟨sameRate, sameDone⟩ := @counts_frame ep size pace
    have few := limited size (List.mem_cons_self ..) pace paced.rate
    have rate := sameRate ▸ paced.rate
    have others : ep.Limited largest sizes := fun size' inside => limited size' (List.mem_cons_of_mem _ inside)
    have within := fun typeII => left_within paced typeII room few
    rw [← sameDone] at within
    rw [List.length_cons, Nat.succ_mul] at exact_ ⊢
    simp only [playbackLoop]
    generalize ep.counts size pace = packet at *
    obtain ⟨counts, next⟩ := packet
    dsimp only at *
    have sum : wrap (frames + counts) = frames + counts := wrap_of_lt (by omega)
    have share : wrap (counts * ep.stride) ≤ largest * ep.stride :=
      (wrap_le _).trans (Nat.mul_le_mul_right _ few)
    have whole : wrap ((frames + counts) * ep.stride) ≤ (frames + (sizes.length * largest + largest)) * ep.stride :=
      (wrap_le _).trans (Nat.mul_le_mul_right _ (by omega))
    rw [sum]
    split
    · rename_i boundary
      split
      · rename_i typeII
        have less := within typeII
        generalize wrap (next.transferDone + counts) - ep.periodSize = left at less ⊢
        have rest : wrap (counts + 2 ^ 32 - left) ≤ counts - left := by
          rw [show counts + 2 ^ 32 - left = counts - left + 2 ^ 32 by omega, wrap, Nat.add_mod_right]
          exact Nat.mod_le _ _
        have kept : wrap (frames + counts + 2 ^ 32 - left) ≤ frames + counts := by
          rw [show frames + counts + 2 ^ 32 - left = frames + counts - left + 2 ^ 32 by omega, wrap, Nat.add_mod_right]
          exact (Nat.mod_le _ _).trans (Nat.sub_le _ _)
        have cut : wrap (wrap (counts + 2 ^ 32 - left) * ep.stride) ≤ largest * ep.stride :=
          (wrap_le _).trans (Nat.mul_le_mul_right _ (by omega))
        refine ⟨?_, ?_, (wrap_le _).trans (Nat.mul_le_mul_right _ (by omega)), ⟨rate, fun _ => Nat.zero_le _⟩⟩
        · split
          · rename_i more
            have := List.length_pos_iff.mpr more
            simp only [List.length_cons, List.length_nil]
            omega
          · simp
        · intro desc inside
          rcases List.mem_cons.mp inside with first | delimiter
          · rw [first]
            exact cut
          · split at delimiter
            · rw [List.mem_singleton.mp delimiter]
              exact Nat.zero_le _
            · exact absurd delimiter List.not_mem_nil
      · rename_i plain
        have paced' : ep.Paced { next with transferDone := wrap (next.transferDone + counts) - ep.periodSize } :=
          ⟨rate, fun typeII => absurd typeII plain⟩
        split
        · refine ⟨by simp, ?_, whole, paced'⟩
          intro desc inside
          rw [List.mem_singleton.mp inside]
          exact share
        · obtain ⟨many, short, total, later⟩ := ih (frames + counts) true _ paced' others (by omega)
          refine ⟨by simpa using many, ?_, total.trans (Nat.mul_le_mul_right _ (by omega)), later⟩
          intro desc inside
          rcases List.mem_cons.mp inside with first | later
          · rw [first]
            exact share
          · exact short desc later
    · rename_i inside
      have paced' : ep.Paced { next with transferDone := wrap (next.transferDone + counts) } :=
        ⟨rate, fun _ => Nat.le_of_lt (Nat.lt_of_not_le inside)⟩
      split
      · refine ⟨by simp, ?_, whole, paced'⟩
        intro desc inside
        rw [List.mem_singleton.mp inside]
        exact share
      · obtain ⟨many, short, total, later⟩ := ih (frames + counts) elapsed _ paced' others (by omega)
        refine ⟨by simpa using many, ?_, total.trans (Nat.mul_le_mul_right _ (by omega)), later⟩
        intro desc inside
        rcases List.mem_cons.mp inside with first | later
        · rw [first]
          exact share
        · exact short desc later

end upper

section lower

theorem silence_even {size frames : Nat} (good : Pace → Prop)
    (even : ∀ pace, good pace → (ep.counts size pace).1 = frames ∧ good (ep.counts size pace).2) (n offs : Nat) (pace : Pace)
    (now : good pace) (exact_ : offs + n * frames < 2 ^ 32) :
    (∀ desc ∈ (ep.silenceLoop (List.replicate n size) offs pace).1.isoFrameDesc, desc.2 = wrap (frames * ep.stride)) ∧
      (ep.silenceLoop (List.replicate n size) offs pace).1.transferBufferLength = wrap ((offs + n * frames) * ep.stride) := by
  induction n generalizing offs pace with
  | zero =>
    simp only [List.replicate_zero, silenceLoop, Nat.zero_mul, Nat.add_zero]
    exact ⟨fun _ inside => absurd inside List.not_mem_nil, trivial⟩
  | succ n ih =>
    obtain ⟨same, later⟩ := even pace now
    rw [Nat.succ_mul] at exact_ ⊢
    have sum : wrap (offs + frames) = offs + frames := wrap_of_lt (by omega)
    obtain ⟨others, total⟩ := ih (offs + frames) (ep.counts size pace).2 later (by omega)
    simp only [List.replicate_succ, silenceLoop, same, sum]
    refine ⟨?_, ?_⟩
    · intro desc inside
      rcases List.mem_cons.mp inside with first | rest
      · rw [first]
      · exact others desc rest
    · rw [total]
      congr 2
      omega

end lower

end DataEp

namespace EpParams

variable {p : EpParams}

section packets

theorem packsPerMs_pos (interval : p.datainterval ≤ 3) : 0 < p.packsPerMs := by
  have cases : p.datainterval = 0 ∨ p.datainterval = 1 ∨ p.datainterval = 2 ∨ p.datainterval = 3 := by omega
  unfold packsPerMs
  split
  · exact Nat.one_pos
  · rcases cases with same | same | same | same <;> rw [same] <;> decide

theorem urbPacks_pos (interval : p.datainterval ≤ 3) : 0 < p.urbPacks := by
  have perMs := packsPerMs_pos interval
  have some : 0 < if p.pipeout = true ∧ p.sink = false then min (max p.nrpacks 1).toNat MAX_PACKS else 1 := by
    split
    · have : 0 < MAX_PACKS := by decide
      omega
    · exact Nat.one_pos
  have product := Nat.mul_pos some perMs
  unfold urbPacks
  dsimp only
  split
  · rename_i sync _
    split
    · exact product
    · exact lt_min product (Nat.two_pow_pos sync)
  · exact product

theorem halvePacks_pos (maxsize periodBytes fuel : Nat) {packs : Nat} (some : 0 < packs) :
    0 < halvePacks maxsize periodBytes fuel packs := by
  induction fuel generalizing packs with
  | zero => exact some
  | succ fuel ih =>
    rw [halvePacks]
    split
    · exact ih (by omega)
    · exact some

theorem packCounts_pos (interval : p.datainterval ≤ 3) : 0 < p.packCounts.2 := by
  have perMs := packsPerMs_pos interval
  have packs := urbPacks_pos interval
  have least (total : Nat) :
      0 < if total < 2 then 2 else min total (max (MAX_QUEUE * p.packsPerMs) (p.urbPacks * 2)) := by
    split
    · exact Nat.two_pos
    · rename_i enough
      apply lt_min
      · omega
      · apply lt_max_of_lt_right
        omega
  unfold packCounts
  split
  · exact least _
  · exact Nat.mul_pos (by decide) (halvePacks_pos _ _ _ packs)

theorem urbCounts_pos (interval : p.datainterval ≤ 3) : 0 < p.urbCounts.1 ∧ 0 < p.urbCounts.2 := by
  have total := packCounts_pos interval
  unfold urbCounts
  dsimp only
  split
  · rename_i many
    have packs : p.packCounts.1 ≠ 0 := by
      intro none
      rw [none, Nat.div_zero] at many
      exact absurd many (by decide)
    exact ⟨Nat.succ_pos 7, Nat.mul_pos (Nat.succ_pos 7) (Nat.pos_of_ne_zero packs)⟩
  · split
    · exact ⟨Nat.two_pos, total⟩
    · exact ⟨by omega, total⟩

theorem bufferPackets_pos (interval : p.datainterval ≤ 3) :
    p.urbCounts.1 - 1 < p.urbCounts.1 ∧ 0 < p.bufferPackets (p.urbCounts.1 - 1) := by
  obtain ⟨urbs, total⟩ := urbCounts_pos interval
  refine ⟨Nat.sub_one_lt (by omega), ?_⟩
  unfold bufferPackets
  rw [Nat.sub_add_cancel urbs, Nat.mul_div_cancel_left _ urbs]
  apply Nat.sub_pos_of_lt
  apply Nat.div_lt_of_lt_mul
  exact Nat.mul_lt_mul_of_pos_right (Nat.sub_one_lt (by omega)) total

end packets

section configured

variable {ep : DataEp} {periodSize capture senderStride : Nat}

theorem accepted_eq (accepted : dataEpSetParams p periodSize = some ep) :
    (p.maxpacksize ≠ 0 → p.stride ≠ 0) ∧ ep =
      { stride := p.stride
        datainterval := p.datainterval
        fillMax := p.fillMax
        sink := p.sink
        typeII := p.typeII
        freqmax := p.freqmax
        maxsize := p.maxsize
        curpacksize := p.curpacksize
        maxframesize := p.maxpacksize * 8 / p.runtimeFrameBits
        periodSize
        nurbs := p.urbCounts.1
        urb := fun i =>
          { packets := p.bufferPackets i + if p.typeII then 1 else 0
            bufferSize := wrap (p.maxsize * p.bufferPackets i) } } := by
  unfold dataEpSetParams at accepted
  split at accepted
  · exact absurd accepted (Option.some_ne_none ep).symm
  · rename_i fine
    exact ⟨fun some none => fine ⟨some, none⟩, (Option.some.inj accepted).symm⟩

theorem freqmax_scaled (interval : p.datainterval ≤ 3) (some : p.maxpacksize ≠ 0)
    (rate : p.maxpacksize / p.stride < 2 ^ 16) :
    p.freqmax * 2 ^ p.datainterval = p.maxpacksize / p.stride * 2 ^ 16 := by
  have powers : 2 ^ (16 - p.datainterval) * 2 ^ p.datainterval = 2 ^ 16 := by
    rw [← Nat.pow_add, Nat.sub_add_cancel (by omega)]
  have below : 2 ^ (16 - p.datainterval) ≤ 2 ^ 16 := Nat.pow_le_pow_right Nat.two_pos (Nat.sub_le _ _)
  have small : p.maxpacksize / p.stride * 2 ^ (16 - p.datainterval) < 2 ^ 32 :=
    calc p.maxpacksize / p.stride * 2 ^ (16 - p.datainterval)
        ≤ p.maxpacksize / p.stride * 2 ^ 16 := Nat.mul_le_mul_left _ below
      _ < 2 ^ 16 * 2 ^ 16 := Nat.mul_lt_mul_of_pos_right rate (Nat.two_pow_pos 16)
  rw [freqmax, if_pos some, wrap_of_lt small, Nat.mul_assoc, powers]

theorem nextPacketSize_le (accepted : dataEpSetParams p periodSize = some ep) (interval : p.datainterval ≤ 3)
    (rate : p.maxpacksize / p.stride < 2 ^ 16) {pace : Pace} (slow : pace.freqm ≤ ep.freqmax) :
    (ep.nextPacketSize pace).1 ≤ p.ownFrames := by
  obtain ⟨-, rfl⟩ := accepted_eq accepted
  unfold DataEp.nextPacketSize ownFrames
  dsimp only at slow ⊢
  split
  · exact Nat.le_refl _
  · by_cases some : p.maxpacksize ≠ 0
    · have scaled := freqmax_scaled interval some rate
      have step : pace.freqm * 2 ^ p.datainterval ≤ p.maxpacksize / p.stride * 2 ^ 16 :=
        scaled ▸ Nat.mul_le_mul_right _ slow
      have fraction : pace.phase % 2 ^ 16 < 2 ^ 16 := Nat.mod_lt _ (Nat.two_pow_pos 16)
      have first := wrap_le (pace.freqm * 2 ^ p.datainterval)
      have second := wrap_le (pace.phase % 2 ^ 16 + wrap (pace.freqm * 2 ^ p.datainterval))
      apply min_le_min_right
      apply Nat.le_of_lt_succ
      apply Nat.div_lt_of_lt_mul
      omega
    · rw [not_not.mp some, Nat.zero_mul, Nat.zero_div]
      exact (min_le_right _ _).trans (Nat.zero_le _)

theorem nextPacketSize_eq (accepted : dataEpSetParams p periodSize = some ep) (interval : p.datainterval ≤ 3)
    (rate : p.maxpacksize / p.stride < 2 ^ 16) (some : p.maxpacksize ≠ 0) {pace : Pace}
    (now : pace.freqm = ep.freqmax ∧ pace.phase % 2 ^ 16 = 0) :
    (ep.counts 0 pace).1 = p.ownFrames ∧
      ((ep.counts 0 pace).2.freqm = ep.freqmax ∧ (ep.counts 0 pace).2.phase % 2 ^ 16 = 0) := by
  obtain ⟨-, rfl⟩ := accepted_eq accepted
  obtain ⟨fast, whole⟩ := now
  unfold DataEp.counts DataEp.nextPacketSize ownFrames
  dsimp only at fast ⊢
  rw [if_neg (not_not.mpr rfl)]
  split
  · exact ⟨rfl, fast, whole⟩
  · have scaled := freqmax_scaled interval some rate
    have small : p.maxpacksize / p.stride * 2 ^ 16 < 2 ^ 32 :=
      Nat.mul_lt_mul_of_pos_right rate (Nat.two_pow_pos 16)
    dsimp only
    rw [fast, scaled, whole, Nat.zero_add, wrap_of_lt small, wrap_of_lt small, Nat.mul_div_cancel _ (Nat.two_pow_pos 16)]
    exact ⟨rfl, rfl, Nat.mul_mod_left _ _⟩

theorem received_le {size : Nat}
    (valid : if p.sink then ∃ actual ≤ capture, size = actual / senderStride else size = 0) :
    size ≤ p.receivedFrames capture senderStride := by
  unfold receivedFrames
  split at valid
  · rename_i sink
    obtain ⟨actual, few, rfl⟩ := valid
    rw [if_pos sink]
    exact Nat.div_le_div_right few
  · rw [valid]
    exact Nat.zero_le _

theorem limited (accepted : dataEpSetParams p periodSize = some ep) (interval : p.datainterval ≤ 3)
    (rate : p.maxpacksize / p.stride < 2 ^ 16) {sizes : List Nat}
    (valid : ∀ size ∈ sizes, if ep.sink then ∃ actual ≤ capture, size = actual / senderStride else size = 0) :
    ep.Limited (p.largestFrames capture senderStride) sizes := by
  intro size inside pace slow
  unfold DataEp.counts
  split
  · have same : ep.sink = p.sink := congrArg DataEp.sink (accepted_eq accepted).2
    exact (received_le (same ▸ valid size inside)).trans (le_max_right _ _)
  · exact (nextPacketSize_le accepted interval rate slow).trans (le_max_left _ _)

theorem Fitting.largest (fitting : p.Fitting capture senderStride) :
    p.largestFrames capture senderStride * p.stride ≤ p.maxsize := by
  have own : p.ownFrames * p.stride ≤ p.maxsize := by
    by_cases none : p.maxpacksize = 0
    · have frames : p.ownFrames = 0 := by simp [ownFrames, none]
      rw [frames, Nat.zero_mul]
      exact Nat.zero_le _
    · rw [maxsize, if_pos none]
      unfold ownFrames
      dsimp only
      split
      · rename_i filled
        exact fitting.filled filled
      · exact (Nat.mul_le_mul_right _ (min_le_left _ _)).trans (Nat.div_mul_le_self _ _)
  have received : p.receivedFrames capture senderStride * p.stride ≤ p.maxsize := by
    unfold receivedFrames
    split
    · rename_i sink
      exact fitting.received sink
    · rw [Nat.zero_mul]
      exact Nat.zero_le _
  unfold largestFrames
  rcases max_choice p.ownFrames (p.receivedFrames capture senderStride) with first | second
  · rw [first]
    exact own
  · rw [second]
    exact received

theorem Fitting.total (fitting : p.Fitting capture senderStride) (bounded : p.Bounded periodSize capture senderStride) {i : Nat}
    (inside : i < p.urbCounts.1) :
    (p.bufferPackets i + if p.typeII then 1 else 0) * (p.largestFrames capture senderStride * p.stride) ≤
      wrap (p.maxsize * p.bufferPackets i) := by
  rw [wrap_of_lt (bounded.buffer i inside)]
  split
  · rename_i typeII
    exact fitting.delimiter typeII i inside
  · rw [Nat.add_zero, Nat.mul_comm]
    exact Nat.mul_le_mul_right _ fitting.largest

theorem Fitting.fits (fitting : p.Fitting capture senderStride) (accepted : dataEpSetParams p periodSize = some ep)
    (interval : p.datainterval ≤ 3) (bounded : p.Bounded periodSize capture senderStride) {pace : Pace} {op : PaceOp}
    (paced : ep.Paced pace) (valid : ep.Valid capture senderStride op) : ep.Fits pace op ∧ ep.Paced (ep.exec pace op) := by
  cases op with
  | freq f => exact ⟨trivial, valid, paced.left⟩
  | prepare provided i sizes =>
    obtain ⟨inside, many, valid⟩ := valid
    have limited := limited accepted interval bounded.rate valid
    obtain ⟨-, rfl⟩ := accepted_eq accepted
    dsimp only at inside many
    have total := fitting.total bounded inside
    have packet := fitting.largest
    have frames : sizes.length * p.largestFrames capture senderStride < 2 ^ 32 := by
      apply lt_of_le_of_lt (Nat.mul_le_mul_right _ _) (bounded.frames i inside)
      rw [many]
      split <;> omega
    rw [← many, ← Nat.mul_assoc] at total
    cases provided with
    | false =>
      obtain ⟨count, short, sum, rate, done⟩ := DataEp.silence_bound sizes 0 pace paced.rate limited
      rw [Nat.zero_add] at sum
      refine ⟨⟨Nat.le_of_eq (count.trans many), fun desc listed => (short desc listed).trans packet, sum.trans total⟩, ?_⟩
      exact ⟨rate ▸ paced.rate, fun typeII => done ▸ paced.left typeII⟩
    | true =>
      obtain ⟨count, short, sum, later⟩ :=
        DataEp.playback_bound sizes 0 false pace paced limited (by rwa [Nat.zero_add]) bounded.period
      rw [Nat.zero_add] at sum
      exact ⟨⟨count.trans_eq many, fun desc listed => (short desc listed).trans packet, sum.trans total⟩, later⟩

theorem fits_even (accepted : dataEpSetParams p periodSize = some ep) (interval : p.datainterval ≤ 3)
    (bounded : p.Bounded periodSize capture senderStride) {size frames : Nat} (good : Pace → Prop) (start : good ⟨0, ep.freqmax, 0⟩)
    (even : ∀ pace, good pace → (ep.counts size pace).1 = frames ∧ good (ep.counts size pace).2)
    (valid : if ep.sink then ∃ actual ≤ capture, size = actual / senderStride else size = 0)
    (few : frames ≤ p.largestFrames capture senderStride)
    (fits : ∀ phase, ∀ f ≤ ep.freqmax, ∀ ops, (∀ op ∈ ops, ep.Valid capture senderStride op) →
      Throughout ep.exec (fun s op _ => ep.Fits s op) ⟨phase, f, 0⟩ ops) :
    frames * p.stride ≤ p.maxsize ∧ (p.typeII = true → ∀ i < p.urbCounts.1,
      (p.bufferPackets i + 1) * (frames * p.stride) ≤ p.maxsize * p.bufferPackets i) := by
  obtain ⟨last, some⟩ := bufferPackets_pos interval
  have run (i : Nat) (inside : i < ep.nurbs) :
      ep.FitsUrb i (ep.prepareSilence (List.replicate (ep.urb i).packets size) ⟨0, ep.freqmax, 0⟩).1 := by
    have prepared := fits 0 ep.freqmax (Nat.le_refl _) [.prepare false i (List.replicate (ep.urb i).packets size)] (by
      intro op single
      rw [List.mem_singleton.mp single]
      refine ⟨inside, List.length_replicate, ?_⟩
      intro other copy
      rw [List.eq_of_mem_replicate copy]
      exact valid)
    exact prepared.1
  have sizes (i : Nat) (inside : i < p.urbCounts.1) (n : Nat) (short : n ≤ p.bufferPackets i + 1) :
      n * frames < 2 ^ 32 ∧ n * (frames * p.stride) < 2 ^ 32 := by
    constructor
    · exact lt_of_le_of_lt (Nat.mul_le_mul short few) (bounded.frames i inside)
    · exact lt_of_le_of_lt (Nat.mul_le_mul short (Nat.mul_le_mul_right _ few)) (bounded.sent i inside)
  have known := (accepted_eq accepted).2
  have shape : ep.stride = p.stride ∧ ep.maxsize = p.maxsize ∧ ep.nurbs = p.urbCounts.1 := by
    rw [known]
    exact ⟨rfl, rfl, rfl⟩
  have urb (i : Nat) : (ep.urb i).packets = p.bufferPackets i + (if p.typeII then 1 else 0) ∧
      (ep.urb i).bufferSize = wrap (p.maxsize * p.bufferPackets i) := by
    rw [known]
    exact ⟨rfl, rfl⟩
  obtain ⟨stride, maxsize, nurbs⟩ := shape
  constructor
  · have short : (ep.urb (p.urbCounts.1 - 1)).packets ≤ p.bufferPackets (p.urbCounts.1 - 1) + 1 := by
      rw [(urb _).1]
      split <;> omega
    have least : 0 < (ep.urb (p.urbCounts.1 - 1)).packets := by
      rw [(urb _).1]
      omega
    obtain ⟨exact_, -⟩ := sizes _ last _ short
    obtain ⟨-, one⟩ := sizes _ last 1 (by omega)
    obtain ⟨same, -⟩ := DataEp.silence_even good even _ 0 _ start (by rwa [Nat.zero_add])
    obtain ⟨-, bound, -⟩ := run (p.urbCounts.1 - 1) (by rw [nurbs]; exact last)
    have listed := (@DataEp.silence_bound ep _ (List.replicate (ep.urb (p.urbCounts.1 - 1)).packets size) 0
      ⟨0, ep.freqmax, 0⟩ (Nat.le_refl _) (limited accepted interval bounded.rate (by
        intro other copy
        rw [List.eq_of_mem_replicate copy]
        exact valid))).1
    rw [List.length_replicate] at listed
    obtain ⟨desc, inside⟩ := List.exists_mem_of_length_pos (listed ▸ least)
    have fits := bound desc inside
    rw [Nat.one_mul] at one
    rw [same desc inside, stride, maxsize, wrap_of_lt one] at fits
    exact fits
  · intro typeII i inside
    have packets : (ep.urb i).packets = p.bufferPackets i + 1 := by
      rw [(urb i).1, if_pos typeII]
    obtain ⟨exact_, room⟩ := sizes i inside _ (Nat.le_refl _)
    obtain ⟨-, total⟩ := DataEp.silence_even good even (p.bufferPackets i + 1) 0 _ start (by rwa [Nat.zero_add])
    obtain ⟨-, -, fits⟩ := run i (nurbs ▸ inside)
    rw [packets, DataEp.prepareSilence, total, (urb i).2, stride, Nat.zero_add, Nat.mul_assoc, wrap_of_lt room,
      wrap_of_lt (bounded.buffer i inside)] at fits
    exact fits

theorem payload_fits (p : EpParams) (ep : DataEp) (periodSize capture senderStride : Nat)
    (accepted : dataEpSetParams p periodSize = some ep) (interval : p.datainterval ≤ 3)
    (bounded : p.Bounded periodSize capture senderStride) :
    (∀ phase, ∀ f ≤ ep.freqmax, ∀ ops, (∀ op ∈ ops, ep.Valid capture senderStride op) →
      Throughout ep.exec (fun s op _ => ep.Fits s op) ⟨phase, f, 0⟩ ops) ↔ p.Fitting capture senderStride := by
  constructor
  · intro fits
    have sink : ep.sink = p.sink := congrArg DataEp.sink (accepted_eq accepted).2
    have own : p.ownFrames * p.stride ≤ p.maxsize ∧ (p.typeII = true → ∀ i < p.urbCounts.1,
        (p.bufferPackets i + 1) * (p.ownFrames * p.stride) ≤ p.maxsize * p.bufferPackets i) := by
      by_cases none : p.maxpacksize = 0
      · have frames : p.ownFrames = 0 := by simp [ownFrames, none]
        simp [frames]
      · have valid : if ep.sink then ∃ actual ≤ capture, 0 = actual / senderStride else 0 = 0 := by
          split
          · exact ⟨0, Nat.zero_le _, (Nat.zero_div _).symm⟩
          · rfl
        exact fits_even accepted interval bounded _ ⟨rfl, rfl⟩
          (fun pace now => nextPacketSize_eq accepted interval bounded.rate none now) valid (le_max_left _ _) fits
    have received : p.receivedFrames capture senderStride * p.stride ≤ p.maxsize ∧ (p.typeII = true → ∀ i < p.urbCounts.1,
        (p.bufferPackets i + 1) * (p.receivedFrames capture senderStride * p.stride) ≤ p.maxsize * p.bufferPackets i) := by
      by_cases none : p.receivedFrames capture senderStride = 0
      · simp [none]
      · have driven : p.sink = true := by
          by_contra other
          exact none (if_neg other)
        have even (pace : Pace) (_ : True) : (ep.counts (p.receivedFrames capture senderStride) pace).1 =
            p.receivedFrames capture senderStride ∧ True := by
          unfold DataEp.counts
          rw [if_pos none]
          exact ⟨rfl, trivial⟩
        have valid : if ep.sink then ∃ actual ≤ capture, p.receivedFrames capture senderStride = actual / senderStride
            else p.receivedFrames capture senderStride = 0 := by
          rw [if_pos (sink.trans driven)]
          exact ⟨capture, Nat.le_refl _, if_pos driven⟩
        exact fits_even accepted interval bounded (fun _ => True) trivial even valid (le_max_right _ _) fits
    refine ⟨?_, ?_, ?_⟩
    · intro filled
      have fits := own.1
      by_cases none : p.maxpacksize = 0
      · simp [none]
      · rwa [ownFrames, if_pos filled, maxsize, if_pos none] at fits
    · intro driven
      have fits := received.1
      rwa [receivedFrames, if_pos driven] at fits
    · intro typeII i inside
      unfold largestFrames
      rcases max_choice p.ownFrames (p.receivedFrames capture senderStride) with first | second
      · rw [first]
        exact own.2 typeII i inside
      · rw [second]
        exact received.2 typeII i inside
  · intro fitting phase f slow ops valid
    have all : Throughout ep.exec (fun _ op _ => ep.Valid capture senderStride op) ⟨phase, f, 0⟩ ops :=
      Throughout.of_mem fun op inside _ => valid op inside
    exact all.steps ep.Paced ⟨slow, fun _ => Nat.zero_le _⟩ fun pace op paced valid =>
      fitting.fits accepted interval bounded paced valid

end configured

def stereo : EpParams :=
  { physicalWidth := 16, channels := 2, dsdDop := false, periodBytes := 4096, datainterval := 0, typeII := false,
    maxpacksize := 200, fillMax := false, freqn := 48 * 2 ^ 16, fullSpeed := true, nrpacks := 8, pipeout := true,
    sink := false, syncinterval := none }

theorem payload_fits_stereo : ∃ ep, dataEpSetParams stereo 1024 = some ep ∧
    ∀ phase, ∀ f ≤ ep.freqmax, ∀ ops, (∀ op ∈ ops, ep.Valid 200 4 op) →
      Throughout ep.exec (fun s op _ => ep.Fits s op) ⟨phase, f, 0⟩ ops :=
  ⟨_, rfl, (payload_fits stereo _ 1024 200 4 rfl (Nat.zero_le 3)
    ⟨by decide, by decide +kernel, by decide +kernel, by decide +kernel, by decide +kernel⟩).mpr
    ⟨fun filled => absurd filled (by decide), fun sink => absurd sink (by decide), fun typeII => absurd typeII (by decide)⟩⟩

/-- The sink gets the frames of a mono capture endpoint with 200 bytes in a packet. -/
theorem feedback_overflows : ¬ ∀ (p : EpParams) (ep : DataEp) (periodSize capture senderStride : Nat),
    dataEpSetParams p periodSize = some ep → p.datainterval ≤ 3 → p.Bounded periodSize capture senderStride →
    ∀ phase, ∀ f ≤ ep.freqmax, ∀ ops, (∀ op ∈ ops, ep.Valid capture senderStride op) →
      Throughout ep.exec (fun s op _ => ep.Fits s op) ⟨phase, f, 0⟩ ops := by
  intro all
  have run := all { stereo with sink := true } _ 1024 200 2 rfl (Nat.zero_le 3)
    ⟨by decide, by decide +kernel, by decide +kernel, by decide +kernel, by decide +kernel⟩ 0 0 (Nat.zero_le _)
    [.prepare false 0 [100]] (by
      intro op single
      rw [List.mem_singleton.mp single]
      refine ⟨by decide +kernel, by decide +kernel, ?_⟩
      intro size listed
      exact ⟨200, Nat.le_refl _, List.mem_singleton.mp listed⟩)
  exact absurd run.1.2.2 (by decide +kernel)

end EpParams

end AlsaDriver.Usb
