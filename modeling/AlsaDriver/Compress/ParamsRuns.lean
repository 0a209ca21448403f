import AlsaDriver.Compress.Stream
import AlsaDriver.Lib.Runs

namespace AlsaDriver.Compress

open AlsaDriver.Pcm Ring Runs Words

namespace SndComprStream

variable {s s' s'' : SndComprStream}

structure Keeps (s s' : SndComprStream) : Prop where
  hasCopy : s'.hasCopy = s.hasCopy
  bufferSize : s'.runtime.bufferSize = s.runtime.bufferSize
  fragmentSize : s'.runtime.fragmentSize = s.runtime.fragmentSize
  fragments : s'.runtime.fragments = s.runtime.fragments
  buffer : s'.runtime.buffer.map KBuffer.size = s.runtime.buffer.map KBuffer.size
  oops : s'.oops = s.oops
  opened : s.runtime.state = .open → s'.runtime.state = .open

theorem Keeps.refl (s : SndComprStream) : s.Keeps s := ⟨rfl, rfl, rfl, rfl, rfl, rfl, id⟩

theorem Keeps.trans (first : s.Keeps s') (second : s'.Keeps s'') : s.Keeps s'' where
  hasCopy := second.hasCopy.trans first.hasCopy
  bufferSize := second.bufferSize.trans first.bufferSize
  fragmentSize := second.fragmentSize.trans first.fragmentSize
  fragments := second.fragments.trans first.fragments
  buffer := second.buffer.trans first.buffer
  oops := second.oops.trans first.oops
  opened := fun before => second.opened (first.opened before)

theorem keeps_setState {state : SndPcmState} (left : s.runtime.state ≠ .open) : s.Keeps (s.setState state) :=
  ⟨rfl, rfl, rfl, rfl, rfl, rfl, fun before => absurd before left⟩

theorem keeps_updateTstamp (tstamp : Option (BitVec 32)) : s.Keeps (s.sndComprUpdateTstamp tstamp).2 := by
  cases tstamp with
  | none => exact .refl s
  | some copiedTotal =>
    rw [sndComprUpdateTstamp]
    split
    · exact ⟨rfl, rfl, rfl, rfl, rfl, rfl, id⟩
    · exact ⟨rfl, rfl, rfl, rfl, rfl, rfl, id⟩

@[simp] theorem updateTstamp_state (tstamp : Option (BitVec 32)) :
    (s.sndComprUpdateTstamp tstamp).2.runtime.state = s.runtime.state := by
  cases tstamp with
  | none => rfl
  | some copiedTotal =>
    rw [sndComprUpdateTstamp]
    split
    · rfl
    · rfl

theorem keeps_written (retval : Int) : s.Keeps (s.written retval) := by
  have counted : s.Keeps (if 0 < retval then
      { s with runtime := { s.runtime with
          totalBytesAvailable := toUnsigned 64 (s.runtime.totalBytesAvailable + retval) } } else s) := by
    split
    · exact ⟨rfl, rfl, rfl, rfl, rfl, rfl, id⟩
    · exact .refl s
  rw [written]
  generalize (if 0 < retval then _ else s) = s1 at counted ⊢
  split
  · rename_i setup
    exact counted.trans (keeps_setState (by rw [setup]; decide))
  · exact counted

theorem keeps_triggerFrom {before after : SndPcmState} {trigger : Int} (left : before ≠ .open) :
    s.Keeps (s.triggerFrom before after trigger).2 := by
  rw [triggerFrom]
  split
  · exact .refl s
  · rename_i here
    split
    · exact .refl s
    · exact keeps_setState fun opened => left ((not_not.mp here).symm.trans opened)

theorem keeps_poll (tstamp : Option (BitVec 32)) : s.Keeps (s.sndComprPoll tstamp).2 := by
  have stamped : s.Keeps (s.sndComprCalcAvail tstamp).2 := keeps_updateTstamp tstamp
  rw [sndComprPoll]
  split
  · exact .refl s
  · exact .refl s
  · rename_i draining
    apply stamped.trans (keeps_setState _)
    show (s.sndComprUpdateTstamp tstamp).2.runtime.state ≠ .open
    rw [updateTstamp_state, draining]
    decide
  · exact stamped
  · exact stamped
  · exact stamped

theorem keeps_stop {trigger : Int} (allowed : s.runtime.state = .open → trigger ≠ 0) :
    s.Keeps (s.sndComprStop trigger).2 := by
  rw [sndComprStop]
  split
  · exact .refl s
  · split
    · exact .refl s
    · rename_i agreed
      exact ⟨rfl, rfl, rfl, rfl, rfl, rfl, fun opened => absurd agreed (not_not.mpr (allowed opened))⟩

theorem keeps_drain {trigger : Int} (allowed : s.runtime.state = .open → trigger ≠ 0) :
    s.Keeps (s.sndComprDrain trigger).2 := by
  rw [sndComprDrain]
  split
  · exact .refl s
  · split
    · exact .refl s
    · rename_i agreed
      exact keeps_setState fun opened => agreed (allowed opened)

theorem keeps_nextTrack (trigger : Int) : s.Keeps (s.sndComprNextTrack trigger).2 := by
  rw [sndComprNextTrack]
  split
  · exact .refl s
  · split
    · exact .refl s
    · split
      · exact .refl s
      · exact ⟨rfl, rfl, rfl, rfl, rfl, rfl, id⟩

theorem keeps_partialDrain (trigger : Int) : s.Keeps (s.sndComprPartialDrain trigger).2 := by
  rw [sndComprPartialDrain]
  split
  · exact .refl s
  · split
    · exact .refl s
    · exact ⟨rfl, rfl, rfl, rfl, rfl, rfl, id⟩

def Backed (s : SndComprStream) : Prop :=
  ∃ buffer, s.runtime.buffer = some buffer ∧ buffer.size = s.runtime.bufferSize

theorem keeps_copyAll {data : List Byte} (positive : 0 < s.runtime.bufferSize) (backed : s.Backed)
    (short : data.length ≤ s.runtime.bufferSize) : s.Keeps (s.copyAll (s.writeCopies data)) := by
  obtain ⟨buffer, there, size⟩ := backed
  have inside := Nat.mod_lt s.runtime.totalBytesAvailable positive
  have fits : (s.writeCopies data).any (fun copy => decide (buffer.size < copy.1 + copy.2.length)) = false := by
    rw [writeCopies]
    split
    · simp
      omega
    · simp
      omega
  rw [copyAll, there]
  refine ⟨rfl, rfl, rfl, rfl, ?_, ?_, id⟩
  · rw [there]
    rfl
  · show (s.oops || _) = s.oops
    rw [fits, Bool.or_false]

def consumedBy (s : SndComprStream) (tstamp : Option (BitVec 32)) : Nat :=
  (tstamp.map BitVec.toNat).getD s.runtime.totalBytesTransferred

def InRange (s : SndComprStream) (tstamp : Option (BitVec 32)) : Prop :=
  s.consumedBy tstamp ≤ s.runtime.totalBytesAvailable ∧
    s.runtime.totalBytesAvailable ≤ s.consumedBy tstamp + s.runtime.bufferSize

instance (tstamp : Option (BitVec 32)) : Decidable (s.InRange tstamp) := inferInstanceAs (Decidable (_ ∧ _))

theorem calcAvail_le {tstamp : Option (BitVec 32)} (playback : s.direction = .playback)
    (small : s.runtime.bufferSize < 2 ^ 32) (range : s.InRange tstamp) :
    (s.sndComprCalcAvail tstamp).1 ≤ s.runtime.bufferSize := by
  obtain ⟨low, high⟩ := range
  have after : ∃ s', (s.sndComprUpdateTstamp tstamp).2 = s' ∧ s'.direction = .playback ∧
      s'.runtime.bufferSize = s.runtime.bufferSize ∧
      s'.runtime.totalBytesAvailable = s.runtime.totalBytesAvailable ∧
      s'.runtime.totalBytesTransferred = s.consumedBy tstamp := by
    cases tstamp with
    | none => exact ⟨s, rfl, playback, rfl, rfl, rfl⟩
    | some copiedTotal =>
      rw [sndComprUpdateTstamp, if_pos playback]
      exact ⟨_, rfl, playback, rfl, rfl, rfl⟩
  obtain ⟨s', same, direction, size, available, transferred⟩ := after
  show availOf (s.sndComprUpdateTstamp tstamp).2.runtime (s.sndComprUpdateTstamp tstamp).2.direction ≤ _
  rw [same, direction, availOf, size, available, transferred]
  split
  · exact Nat.le_refl _
  · split
    · exact Nat.le_refl _
    · have pending : toUnsigned 64 ((s.runtime.totalBytesAvailable : Int) - s.consumedBy tstamp) =
          s.runtime.totalBytesAvailable - s.consumedBy tstamp := by
        rw [← Int.ofNat_sub low]
        exact toUnsigned_natCast (by omega)
      dsimp only
      rw [if_pos rfl, pending, ← Int.ofNat_sub (by omega), toUnsigned_natCast (by omega)]
      exact Nat.sub_le ..

structure Configured (s : SndComprStream) : Prop where
  exact : s.runtime.bufferSize = s.runtime.fragmentSize.toNat * s.runtime.fragments.toNat
  positive : 0 < s.runtime.bufferSize
  backed : s.hasCopy = false → s.Backed

theorem Keeps.configured (keeps : s.Keeps s') (configured : s.Configured) : s'.Configured where
  exact := by rw [keeps.bufferSize, keeps.fragmentSize, keeps.fragments, configured.exact]
  positive := by
    rw [keeps.bufferSize]
    exact configured.positive
  backed := by
    intro noCopy
    obtain ⟨buffer, there, size⟩ := configured.backed (keeps.hasCopy.symm.trans noCopy)
    have same := keeps.buffer
    rw [there, Option.map_some, Option.map_eq_some_iff] at same
    obtain ⟨buffer', there', size'⟩ := same
    exact ⟨buffer', there', size'.trans (size.trans keeps.bufferSize.symm)⟩

theorem keeps_writeData {data : List Byte} {fault : Option (Nat → Byte)} (configured : s.Configured)
    (noCopy : s.hasCopy = false) (short : data.length ≤ s.runtime.bufferSize) :
    s.Keeps (s.sndComprWriteData data fault).2 := by
  have keeps := keeps_copyAll configured.positive (configured.backed noCopy) short
  have positive := configured.positive
  rw [sndComprWriteData, if_neg (by omega)]
  cases fault with
  | none => exact keeps
  | some bytes =>
    apply keeps.trans
    refine ⟨rfl, rfl, rfl, rfl, ?_, rfl, id⟩
    show Option.map KBuffer.size (Option.map _ (s.copyAll (s.writeCopies data)).runtime.buffer) = _
    rw [Option.map_map]
    rfl

theorem keeps_write {data : List Byte} {tstamp : Option (BitVec 32)} {fault : Option (Nat → Byte)} {reply : Int}
    (configured : s.runtime.state ≠ .open → s.Configured) (small : s.runtime.bufferSize < 2 ^ 32)
    (short : s.hasCopy = true ∨ data.length ≤ s.runtime.bufferSize ∨ s.InRange tstamp) :
    s.Keeps (s.sndComprWrite data tstamp fault reply).2 := by
  rw [sndComprWrite]
  split
  · exact .refl s
  · rename_i direction
    have playback : s.direction = .playback := by
      cases way : s.direction with
      | playback => rfl
      | capture => exact absurd way direction
    split
    · exact .refl s
    · rename_i allowed
      have left : s.runtime.state ≠ .open := by
        intro opened
        exact allowed ⟨by rw [opened]; decide, by rw [opened]; decide⟩
      have stamped : s.Keeps (s.sndComprCalcAvail tstamp).2 := keeps_updateTstamp tstamp
      dsimp only
      split
      · exact stamped.trans (keeps_written reply)
      · rename_i copies
        have noCopy : s.hasCopy = false := stamped.hasCopy.symm.trans (by simpa using copies)
        have less : (data.take (s.sndComprCalcAvail tstamp).1).length ≤ (s.sndComprCalcAvail tstamp).2.runtime.bufferSize := by
          rw [stamped.bufferSize, List.length_take]
          rcases short.resolve_left (by simp [noCopy]) with few | range
          · exact (Nat.min_le_right ..).trans few
          · exact (Nat.min_le_left ..).trans (calcAvail_le playback small range)
        exact (stamped.trans (keeps_writeData (stamped.configured (configured left)) (stamped.hasCopy.trans noCopy) less)).trans
          (keeps_written _)

theorem eperm_ne : -EPERM ≠ 0 := by decide

theorem enomem_ne : -ENOMEM ≠ 0 := by decide

/-- Parameters that pass the check are for a buffer of a size above zero that fits its field, and the
    driver accepts them, unless no memory is found. -/
def GoodParams (s : SndComprStream) (params : SndComprParams) (memory : Option (Nat × (Nat → Byte))) (driver : Int) :
    Prop :=
  s.runtime.state = .open → sndCompressCheckInput params = 0 → s.hasCopy = true ∨ memory.isSome →
    driver = 0 ∧ 0 < params.fragments.toNat ∧ params.fragmentSize.toNat * params.fragments.toNat < 2 ^ 32

theorem fragmentSize_pos {params : SndComprParams} (checked : sndCompressCheckInput params = 0) :
    0 < params.fragmentSize.toNat := by
  rw [sndCompressCheckInput] at checked
  by_contra zero
  have none : params.fragmentSize = 0 := BitVec.eq_of_toNat_eq (by simpa using zero)
  rw [if_pos (.inl none)] at checked
  exact absurd checked (by decide)

theorem allocateBuffer_cases (params : SndComprParams) (memory : Option (Nat × (Nat → Byte))) :
    s.sndComprAllocateBuffer params memory = (-ENOMEM, s) ∨
      (s.hasCopy = true ∨ memory.isSome) ∧ ∃ buffer, s.sndComprAllocateBuffer params memory = (0, s.withBuffer params buffer) ∧
        (s.hasCopy = false → (s.withBuffer params buffer).Backed) := by
  rw [sndComprAllocateBuffer.eq_def]
  split
  · rename_i copies
    exact .inr ⟨.inl copies, none, rfl, fun noCopy => absurd copies (by simp [noCopy])⟩
  · split
    · exact .inl rfl
    · exact .inr ⟨.inr rfl, _, rfl, fun _ => ⟨_, rfl, rfl⟩⟩

theorem setParams_spec {params : SndComprParams} {memory : Option (Nat × (Nat → Byte))} {driver : Int}
    (good : s.GoodParams params memory driver) :
    ((s.sndComprSetParams params memory driver).1 ≠ 0 ∧ (s.sndComprSetParams params memory driver).2 = s) ∨
      ((s.sndComprSetParams params memory driver).1 = 0 ∧ (s.sndComprSetParams params memory driver).2.Configured ∧
        (s.sndComprSetParams params memory driver).2.runtime.bufferSize < 2 ^ 32 ∧
        (s.sndComprSetParams params memory driver).2.oops = s.oops) := by
  rw [sndComprSetParams]
  split
  · rename_i opened
    split
    · rename_i refused
      exact .inl ⟨refused, rfl⟩
    · rename_i accepted
      have checked : sndCompressCheckInput params = 0 := not_not.mp accepted
      rcases allocateBuffer_cases (s := s) params memory with failed | ⟨found, buffer, allocated, backed⟩
      · rw [failed]
        dsimp only
        rw [if_pos enomem_ne]
        exact .inl ⟨enomem_ne, rfl⟩
      · obtain ⟨agreed, many, room⟩ := good opened checked found
        have exact : (params.fragmentSize * params.fragments).toNat =
            params.fragmentSize.toNat * params.fragments.toNat := by
          rw [BitVec.toNat_mul, Nat.mod_eq_of_lt room]
        rw [allocated]
        dsimp only
        rw [if_neg (not_not.mpr rfl), if_neg (not_not.mpr agreed)]
        refine .inr ⟨rfl, ⟨exact, ?_, backed⟩, ?_, rfl⟩
        · show 0 < (params.fragmentSize * params.fragments).toNat
          rw [exact]
          exact Nat.mul_pos (fragmentSize_pos checked) many
        · show (params.fragmentSize * params.fragments).toNat < 2 ^ 32
          rwa [exact]
  · exact .inl ⟨eperm_ne, rfl⟩

/-- A SET_PARAMS that finds parameters it accepts succeeds with a buffer of its size; OPEN is left by it
    alone; a write of more than a buffer through the core finds the consumed count in range. -/
def Proper (s : SndComprStream) : ComprOp → Prop
  | .setParams params memory driver => s.GoodParams params memory driver
  | .stop trigger | .drain trigger => s.runtime.state = .open → trigger ≠ 0
  | .write data tstamp _ _ => s.hasCopy = true ∨ data.length ≤ s.runtime.bufferSize ∨ s.InRange tstamp
  | _ => True

end SndComprStream

structure ComprFile where
  stream : SndComprStream
  configured : Bool

namespace ComprFile

def configures (retval : Int) : ComprOp → Bool
  | .setParams .. => decide (retval = 0)
  | _ => false

def exec (f : ComprFile) (op : ComprOp) : ComprFile where
  stream := (f.stream.request op).2
  configured := f.configured || configures (f.stream.request op).1 op

structure Sound (f : ComprFile) : Prop where
  params : f.stream.runtime.state ≠ .open → f.configured = true ∧ f.stream.Configured
  oops : f.stream.oops = false

structure StepSound (f : ComprFile) (op : ComprOp) (f' : ComprFile) : Prop where
  sound : f'.Sound
  failure : ∀ params memory driver, op = .setParams params memory driver → (f.stream.request op).1 ≠ 0 →
    f'.stream.runtime = f.stream.runtime

structure Inv (f : ComprFile) : Prop extends Sound f where
  small : f.stream.runtime.bufferSize < 2 ^ 32

variable {f f' : ComprFile}

theorem Inv.keeps (inv : f.Inv) (keeps : f.stream.Keeps f'.stream) (same : f.configured = true → f'.configured = true) :
    f'.Inv where
  params := by
    intro left
    obtain ⟨configured, params⟩ := inv.params fun opened => left (keeps.opened opened)
    exact ⟨same configured, keeps.configured params⟩
  oops := keeps.oops.trans inv.oops
  small := by
    rw [keeps.bufferSize]
    exact inv.small

theorem configured_exec (op : ComprOp) (before : f.configured = true) : (f.exec op).configured = true := by
  show (f.configured || _) = true
  rw [before, Bool.true_or]

theorem Inv.step (inv : f.Inv) {op : ComprOp} (proper : f.stream.Proper op) : StepSound f op (f.exec op) ∧ (f.exec op).Inv := by
  have other (keeps : f.stream.Keeps (f.exec op).stream)
      (request : ∀ params memory driver, op ≠ .setParams params memory driver) :
      StepSound f op (f.exec op) ∧ (f.exec op).Inv := by
    have inv' := inv.keeps keeps (configured_exec op)
    exact ⟨⟨inv'.toSound, fun params memory driver same => absurd same (request params memory driver)⟩, inv'⟩
  cases op with
  | setParams params memory driver =>
    rcases SndComprStream.setParams_spec proper with ⟨failed, same⟩ | ⟨succeeded, configured, small, oops⟩
    · have keeps : f.stream.Keeps (f.exec (.setParams params memory driver)).stream := by
        show f.stream.Keeps (f.stream.sndComprSetParams params memory driver).2
        rw [same]
        exact .refl _
      have inv' := inv.keeps keeps (configured_exec _)
      exact ⟨⟨inv'.toSound, fun _ _ _ _ _ => congrArg SndComprStream.runtime same⟩, inv'⟩
    · have now : (f.exec (.setParams params memory driver)).configured = true := by
        show (f.configured || decide ((f.stream.sndComprSetParams params memory driver).1 = 0)) = true
        rw [succeeded]
        exact Bool.or_true _
      have inv' : (f.exec (.setParams params memory driver)).Inv :=
        ⟨⟨fun _ => ⟨now, configured⟩, oops.trans inv.oops⟩, small⟩
      exact ⟨⟨inv'.toSound, fun _ _ _ _ failed => absurd succeeded failed⟩, inv'⟩
  | setMetadata driver => exact other ⟨rfl, rfl, rfl, rfl, rfl, rfl, id⟩ (by simp)
  | start trigger => exact other (SndComprStream.keeps_triggerFrom (by decide)) (by simp)
  | stop trigger => exact other (SndComprStream.keeps_stop proper) (by simp)
  | pause trigger => exact other (SndComprStream.keeps_triggerFrom (by decide)) (by simp)
  | resume trigger => exact other (SndComprStream.keeps_triggerFrom (by decide)) (by simp)
  | drain trigger => exact other (SndComprStream.keeps_drain proper) (by simp)
  | partialDrain trigger => exact other (SndComprStream.keeps_partialDrain trigger) (by simp)
  | nextTrack trigger => exact other (SndComprStream.keeps_nextTrack trigger) (by simp)
  | tstamp tstamp => exact other (SndComprStream.keeps_updateTstamp tstamp) (by simp)
  | avail tstamp => exact other (SndComprStream.keeps_updateTstamp tstamp) (by simp)
  | poll tstamp => exact other (SndComprStream.keeps_poll tstamp) (by simp)
  | write data tstamp fault reply =>
    exact other (SndComprStream.keeps_write (fun left => (inv.params left).2) inv.small proper) (by simp)

def fresh (direction : StreamDirection) (hasCopy : Bool) : ComprFile :=
  ⟨⟨direction, hasCopy, ⟨.open, none, 0, 0, 0, 0, 0⟩, false, false, false⟩, false⟩

theorem fresh_inv (direction : StreamDirection) (hasCopy : Bool) : (fresh direction hasCopy).Inv :=
  ⟨⟨fun left => absurd rfl left, rfl⟩, Nat.two_pow_pos 32⟩

end ComprFile

/-- A compress file that is used properly has its parameters and its buffer in every state but OPEN. -/
theorem params_before_data (direction : StreamDirection) (hasCopy : Bool) (ops : List ComprOp)
    (proper : Throughout ComprFile.exec (fun f op _ => f.stream.Proper op) (ComprFile.fresh direction hasCopy) ops) :
    Throughout ComprFile.exec ComprFile.StepSound (ComprFile.fresh direction hasCopy) ops := by
  exact proper.steps ComprFile.Inv (ComprFile.fresh_inv direction hasCopy) fun f op inv proper => inv.step proper

theorem params_before_data_written : Throughout ComprFile.exec ComprFile.StepSound (ComprFile.fresh .playback false)
    [.setParams ⟨4, 2, ⟨1, 2, 2, 2⟩⟩ (some (1, fun _ => 0)) 0, .write [1, 2, 3] (some 0) none 0, .start 0,
      .write [4, 5, 6, 7, 8, 9] (some 2) none 0, .drain 0, .poll (some 9)] :=
  params_before_data .playback false _
    ⟨fun _ _ _ => by decide, .inr (.inl (by decide)), trivial, .inr (.inr (by decide)), fun left => absurd left (by decide), trivial, trivial⟩

/-- A stream that is stopped before it has parameters is set up without any. -/
theorem stopped_before_params : ¬ ∀ (direction : StreamDirection) (hasCopy : Bool) (ops : List ComprOp),
    Throughout ComprFile.exec ComprFile.StepSound (ComprFile.fresh direction hasCopy) ops := by
  intro claim
  have stopped := (claim .playback false [.stop 0]).1.sound.params (by decide)
  exact absurd stopped.1 (by decide)

end AlsaDriver.Compress
