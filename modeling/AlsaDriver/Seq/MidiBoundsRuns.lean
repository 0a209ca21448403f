import AlsaDriver.Seq.MidiBounds

namespace AlsaDriver.Seq

open Checked

namespace SeqMemory

variable {m : SeqMemory}

theorem dumpChain_length (fuel len : Nat) (ptr : Option SeqCell) : (m.dumpChain fuel len ptr).length ≤ len := by
  induction fuel generalizing len ptr with
  | zero => simp [dumpChain]
  | succ fuel ih =>
    cases len with
    | zero => simp [dumpChain]
    | succ len =>
      cases ptr with
      | none => simp [dumpChain]
      | some cell =>
        have here : ((m.chunk cell).take (chunkSize (len + 1))).length ≤ chunkSize (len + 1) := List.length_take_le ..
        have rest := ih (len + 1 - chunkSize (len + 1)) (m.next cell)
        have fits := chunkSize_le (len + 1)
        simp only [dumpChain, List.length_append]
        omega

theorem expandVarEvent_length (ext : SndSeqExt) : (m.expandVarEvent ext).length ≤ ext.len := by
  cases ext with
  | kernel len buf => exact List.length_take_le ..
  | user len buf => exact List.length_take_le ..
  | chained len ptr => exact dumpChain_length ..

theorem expandInto_fits (source target : Nat → Bool) (ev : SndSeqEvent) (count : Nat) :
    (m.sndSeqExpandVarEventInto source target ev count true 0).2.length ≤ count ∧
      (m.sndSeqExpandVarEventInto source target ev count true 0).1 ≤ count := by
  obtain ⟨fails, works⟩ := m.expandVarEventInto_kernel source target ev count
  cases result : m.sndSeqExpandVarEvent (!source ev.data.ext.len) count ev with
  | error err =>
    rw [fails err result]
    have negative : err ≤ 0 := by
      unfold sndSeqExpandVarEvent at result
      split at result
      · cases result
        decide
      split at result
      · cases result
        decide
      · split at result
        · split at result
          · cases result
          · cases result
            decide
        · cases result
    exact ⟨Nat.zero_le _, negative.trans (Int.natCast_nonneg count)⟩
  | ok bytes =>
    rw [works bytes result]
    unfold sndSeqExpandVarEvent at result
    split at result
    · cases result
    rename_i variable_
    split at result
    · cases result
    rename_i fits
    have length := m.expandVarEvent_length ev.data.ext
    have same : bytes = m.expandVarEvent ev.data.ext := by
      split at result
      · split at result
        · exact (Except.ok.inj result).symm
        · cases result
      · exact (Except.ok.inj result).symm
    have returned := getVarLen_variable (Decidable.not_not.mp variable_)
    rw [same, returned]
    dsimp only
    omega

end SeqMemory

namespace SndMidiChannelSet

variable {op : SndMidiOp} {s : SndMidiChannelSet} {ch note : Nat}

@[simp] theorem maxChannels_call (has : Bool) (callback : MidiCallback) : (s.call has callback).maxChannels = s.maxChannels := by
  unfold call
  split <;> rfl

@[simp] theorem maxChannels_modify (f : SndMidiChannel → SndMidiChannel) : (s.modify ch f).maxChannels = s.maxChannels := rfl

@[simp] theorem maxChannels_setNote (flags : Byte) : (s.setNote ch note flags).maxChannels = s.maxChannels := rfl

@[simp] theorem maxChannels_setControl (control : Nat) (value : Byte) :
    (s.setControl ch control value).maxChannels = s.maxChannels := rfl

theorem channelAt_eq (valid : ch < s.maxChannels) : s.channelAt ch = some (s.channels ch) := inBounds_of valid _

theorem modifyAt_eq (valid : ch < s.maxChannels) (f : SndMidiChannel → SndMidiChannel) :
    s.modifyAt ch f = some (s.modify ch f) := inBounds_of valid _

theorem noteAt_eq (valid : ch < s.maxChannels) (small : note < 128) : s.noteAt ch note = some ((s.channels ch).note note) :=
  inBounds_of ⟨valid, small⟩ _

theorem setNoteAt_eq (valid : ch < s.maxChannels) (small : note < 128) (flags : Byte) :
    s.setNoteAt ch note flags = some (s.setNote ch note flags) := inBounds_of ⟨valid, small⟩ _

theorem controlAt_eq (valid : ch < s.maxChannels) {control : Nat} (small : control < 128) :
    s.controlAt ch control = some ((s.channels ch).control control) := inBounds_of ⟨valid, small⟩ _

theorem setControlAt_eq (valid : ch < s.maxChannels) {control : Nat} (small : control < 128) (value : Byte) :
    s.setControlAt ch control value = some (s.setControl ch control value) := inBounds_of ⟨valid, small⟩ _

def Inside (s : SndMidiChannelSet) (checked : Option SndMidiChannelSet) (plain : SndMidiChannelSet) : Prop :=
  checked = some plain ∧ plain.maxChannels = s.maxChannels

theorem Inside.refl (s : SndMidiChannelSet) : Inside s (some s) s := ⟨rfl, rfl⟩

theorem inside_call (has : Bool) (callback : MidiCallback) : Inside s (some (s.call has callback)) (s.call has callback) :=
  ⟨rfl, maxChannels_call has callback⟩

theorem inside_modifyAt (valid : ch < s.maxChannels) (f : SndMidiChannel → SndMidiChannel) :
    Inside s (s.modifyAt ch f) (s.modify ch f) := ⟨modifyAt_eq valid f, rfl⟩

theorem inside_setNoteAt (valid : ch < s.maxChannels) (small : note < 128) (flags : Byte) :
    Inside s (s.setNoteAt ch note flags) (s.setNote ch note flags) := ⟨setNoteAt_eq valid small flags, rfl⟩

theorem Inside.bind {checked : Option SndMidiChannelSet} {plain plain' : SndMidiChannelSet}
    {next : SndMidiChannelSet → Option SndMidiChannelSet} (first : Inside s checked plain)
    (second : Inside plain (next plain) plain') : Inside s (checked.bind next) plain' := by
  obtain ⟨rfl, same⟩ := first
  exact ⟨second.1, second.2.trans same⟩

theorem Inside.call {checked : Option SndMidiChannelSet} {plain : SndMidiChannelSet} (first : Inside s checked plain)
    (has : Bool) (callback : MidiCallback) :
    Inside s (checked.map fun s => s.call has callback) (plain.call has callback) := by
  obtain ⟨rfl, same⟩ := first
  exact ⟨rfl, (maxChannels_call has callback).trans same⟩

theorem Inside.ite {p : Prop} [Decidable p] {a b : Option SndMidiChannelSet} {a' b' : SndMidiChannelSet}
    (yes : Inside s a a') (no : Inside s b b') : Inside s (if p then a else b) (if p then a' else b') := by
  split
  · exact yes
  · exact no

theorem inside_foldlM {checked : SndMidiChannelSet → Nat → Option SndMidiChannelSet}
    {plain : SndMidiChannelSet → Nat → SndMidiChannelSet} (l : List Nat)
    (pass : ∀ s', s'.maxChannels = s.maxChannels → ∀ i ∈ l, Inside s' (checked s' i) (plain s' i)) :
    Inside s (l.foldlM checked s) (l.foldl plain s) := by
  refine foldlM_eq_some (fun s' : SndMidiChannelSet => s'.maxChannels = s.maxChannels) l ?_ rfl
  intro s' same i inside
  obtain ⟨done, kept⟩ := pass s' same i inside
  exact ⟨done, kept.trans same⟩

theorem inside_forNotes {checked : SndMidiChannelSet → Nat → Option SndMidiChannelSet}
    {plain : SndMidiChannelSet → Nat → SndMidiChannelSet} (valid : ch < s.maxChannels)
    (pass : ∀ s' : SndMidiChannelSet, ch < s'.maxChannels → ∀ i < 128, Inside s' (checked s' i) (plain s' i)) :
    Inside s (s.forNotesChecked checked) (s.forNotes plain) :=
  inside_foldlM _ fun s' same i inside => pass s' (same ▸ valid) i (List.mem_range.mp inside)

theorem inside_noteOff (valid : ch < s.maxChannels) (small : note < 128) (vel : Byte) :
    Inside s (s.noteOffChecked op ch note vel) (s.noteOff op ch note vel) := by
  unfold noteOffChecked noteOff
  simp only [controlAt_eq valid (show MIDI_CTL_SUSTAIN < 128 by decide), noteAt_eq valid small, Option.bind_eq_bind,
    Option.bind_some]
  split
  · exact inside_setNoteAt valid small _
  · split
    · exact inside_setNoteAt valid small _
    · exact (inside_setNoteAt valid small 0).call _ _

theorem inside_rpn (valid : ch < s.maxChannels) : Inside s (s.rpnChecked ch) (s.rpn ch) := by
  unfold rpnChecked rpn
  split
  · simp only [controlAt_eq valid (show MIDI_CTL_REGIST_PARM_NUM_MSB < 128 by decide),
      controlAt_eq valid (show MIDI_CTL_REGIST_PARM_NUM_LSB < 128 by decide),
      controlAt_eq valid (show MIDI_CTL_MSB_DATA_ENTRY < 128 by decide),
      controlAt_eq valid (show MIDI_CTL_LSB_DATA_ENTRY < 128 by decide), Option.bind_eq_bind, Option.bind_some]
    split
    · exact inside_modifyAt valid _
    split
    · exact inside_modifyAt valid _
    split
    · exact inside_modifyAt valid _
    · exact Inside.refl s
  · exact Inside.refl s

theorem inside_sustainOff (valid : ch < s.maxChannels) (small : note < 128) :
    Inside s (s.sustainOffChecked op ch note) (s.sustainOff op ch note) := by
  unfold sustainOffChecked sustainOff
  simp only [noteAt_eq valid small, Option.bind_eq_bind, Option.bind_some]
  split
  · exact (inside_setNoteAt valid small _).call _ _
  · exact Inside.refl s

theorem inside_sostenutoOn (valid : ch < s.maxChannels) (small : note < 128) :
    Inside s (s.sostenutoOnChecked ch note) (s.sostenutoOn ch note) := by
  unfold sostenutoOnChecked sostenutoOn
  simp only [noteAt_eq valid small, Option.bind_eq_bind, Option.bind_some]
  split
  · exact inside_setNoteAt valid small _
  · exact Inside.refl s

theorem inside_sostenutoOff (valid : ch < s.maxChannels) (small : note < 128) :
    Inside s (s.sostenutoOffChecked op ch note) (s.sostenutoOff op ch note) := by
  unfold sostenutoOffChecked sostenutoOff
  simp only [noteAt_eq valid small, Option.bind_eq_bind, Option.bind_some]
  split
  · split
    · exact (inside_setNoteAt valid small _).call _ _
    · exact inside_setNoteAt valid small _
  · exact Inside.refl s

theorem inside_allSoundsOff (valid : ch < s.maxChannels) : Inside s (s.allSoundsOffChecked op ch) (s.allSoundsOff op ch) := by
  unfold allSoundsOffChecked allSoundsOff
  split
  · apply inside_forNotes valid
    intro s valid note small
    unfold terminateChecked terminate
    simp only [noteAt_eq valid small, Option.bind_eq_bind, Option.bind_some]
    split
    · have kept : ch < (s.call op.noteTerminate (.noteTerminate ch note)).maxChannels := by simpa using valid
      exact ⟨setNoteAt_eq kept small 0, maxChannels_call ..⟩
    · exact Inside.refl s
  · exact Inside.refl s

theorem inside_allNotesOff (valid : ch < s.maxChannels) : Inside s (s.allNotesOffChecked op ch) (s.allNotesOff op ch) := by
  unfold allNotesOffChecked allNotesOff
  split
  · apply inside_forNotes valid
    intro s valid note small
    unfold releaseChecked
    simp only [noteAt_eq valid small, Option.bind_eq_bind, Option.bind_some]
    split
    · exact inside_noteOff valid small 0
    · exact Inside.refl s
  · exact Inside.refl s

theorem inside_nrpn : Inside s (some (s.nrpn op ch)) (s.nrpn op ch) := inside_call ..

theorem inside_dataEntry (valid : ch < s.maxChannels) : Inside s (s.dataEntryChecked op ch) (s.dataEntry op ch) := by
  unfold dataEntryChecked dataEntry
  simp only [channelAt_eq valid, Option.bind_eq_bind, Option.bind_some]
  split
  · exact inside_rpn valid
  · exact inside_nrpn

theorem inside_setControlAt (valid : ch < s.maxChannels) {control : Nat} (small : control < 128) (value : Byte) :
    Inside s (s.setControlAt ch control value) (s.setControl ch control value) := ⟨setControlAt_eq valid small value, rfl⟩

theorem inside_doControl (valid : ch < s.maxChannels) {control : Nat} (small : control < 128) (value : Int) :
    Inside s (s.doControlChecked op ch control value) (s.doControl op ch control value) := by
  unfold doControlChecked doControl
  rw [if_neg (Nat.not_le.mpr small)]
  generalize switchValue control value = value
  apply (inside_setControlAt valid small (BitVec.ofInt 8 value)).bind
  have valid : ch < (s.setControl ch control (BitVec.ofInt 8 value)).maxChannels := valid
  generalize s.setControl ch control (BitVec.ofInt 8 value) = s at valid
  apply Inside.ite
  · exact (inside_forNotes valid fun s valid note small => inside_sustainOff valid small).ite (Inside.refl s)
  apply (Inside.refl s).ite
  apply Inside.ite
  · apply Inside.ite
    · exact inside_forNotes valid fun s valid note small => inside_sostenutoOn valid small
    · exact inside_forNotes valid fun s valid note small => inside_sostenutoOff valid small
  apply Inside.ite
  · exact (inside_setControlAt valid (by decide) 0).bind (inside_dataEntry valid)
  apply (inside_dataEntry valid).ite
  apply (inside_modifyAt valid _).ite
  apply (inside_modifyAt valid _).ite
  apply (inside_allSoundsOff valid).ite
  apply (inside_allNotesOff valid).ite
  apply ((inside_modifyAt valid _).ite (Inside.refl s)).ite
  apply (Inside.refl s).ite
  exact (inside_modifyAt valid _).ite (inside_call ..)

theorem doControlChecked_none {control : Nat} (large : 128 ≤ control) (value : Int) :
    s.doControlChecked op ch control value = none := by
  have beyond : s.setControlAt ch control (BitVec.ofInt 8 (switchValue control value)) = none :=
    inBounds_none (fun both => Nat.not_lt.mpr large both.2) _
  unfold doControlChecked
  dsimp only
  rw [beyond]
  rfl

theorem inside_resetAllChannels : Inside s s.resetAllChannelsChecked s.resetAllChannels := by
  refine inside_foldlM _ fun s' same ch inside => ?_
  exact inside_modifyAt (same ▸ List.mem_range.mp inside) _

theorem inside_xgBank {i : Nat} (valid : i < s.maxChannels) : Inside s (xgBankChecked s i)
    (s.setControl i MIDI_CTL_MSB_BANK (if (s.channels i).drumChannel then 127 else 0)) := by
  unfold xgBankChecked
  rw [channelAt_eq valid]
  exact inside_setControlAt valid (by decide) _

def Parses (s : SndMidiChannelSet) (checked : Option (Nat × SndMidiChannelSet)) (plain : Nat × SndMidiChannelSet) : Prop :=
  checked = some plain ∧ plain.2.maxChannels = s.maxChannels

theorem Inside.parses {checked : Option SndMidiChannelSet} {plain : SndMidiChannelSet} (inside : Inside s checked plain)
    (parsed : Nat) : Parses s (checked.map (parsed, ·)) (parsed, plain) := by
  obtain ⟨rfl, same⟩ := inside
  exact ⟨rfl, same⟩

theorem Parses.ite {p : Prop} [Decidable p] {a b : Option (Nat × SndMidiChannelSet)} {a' b' : Nat × SndMidiChannelSet}
    (yes : p → Parses s a a') (no : ¬ p → Parses s b b') : Parses s (if p then a else b) (if p then a' else b') := by
  split
  · exact yes ‹_›
  · exact no ‹_›

theorem parses_self (parsed : Nat) {plain : SndMidiChannelSet} (same : plain.maxChannels = s.maxChannels) :
    Parses s (some (parsed, plain)) (parsed, plain) := ⟨rfl, same⟩

theorem parses_gsSysex {buf : List Byte} (long : 8 ≤ buf.length) : Parses s (s.gsSysexChecked buf) (s.gsSysex buf) := by
  have byte : ∀ i < 8, buf[i]? = some (buf.getD i 0) := by
    intro i small
    rw [List.getD_eq_getElem?_getD, List.getElem?_eq_getElem (by omega)]
    rfl
  unfold gsSysexChecked gsSysex
  rw [byte 5 (by decide), byte 6 (by decide), byte 7 (by decide)]
  simp only [Option.bind_eq_bind, Option.bind_some]
  have moded : (if s.midiMode ≠ SNDRV_MIDI_MODE_GS ∧ s.midiMode ≠ SNDRV_MIDI_MODE_XG then
      { s with midiMode := SNDRV_MIDI_MODE_GS } else s).maxChannels = s.maxChannels := by
    split <;> rfl
  generalize (if s.midiMode ≠ SNDRV_MIDI_MODE_GS ∧ s.midiMode ≠ SNDRV_MIDI_MODE_XG then
      { s with midiMode := SNDRV_MIDI_MODE_GS } else s) = t at moded
  suffices rest : Parses t _ _ from ⟨rest.1, rest.2.trans moded⟩
  apply Parses.ite
  · exact fun _ => inside_resetAllChannels.parses _
  intro _
  apply Parses.ite
  · intro _
    apply Parses.ite
    · exact fun valid => (inside_modifyAt valid _).parses _
    · exact fun _ => parses_self _ rfl
  intro _
  apply Parses.ite
  · intro _
    by_cases valid : getChannel (buf.getD 5 0) < t.maxChannels
    · rw [if_pos valid, channelAt_eq valid]
      simp only [valid, true_and, Option.bind_some]
      exact Parses.ite (fun _ => (inside_modifyAt valid _).parses _) fun _ => parses_self _ rfl
    · rw [if_neg valid, if_neg fun both => valid both.1]
      exact parses_self _ rfl
  intro _
  exact Parses.ite (fun _ => parses_self _ rfl) fun _ => Parses.ite (fun _ => parses_self _ rfl) fun _ =>
    Parses.ite (fun _ => parses_self _ rfl) fun _ => parses_self _ rfl

theorem matchesMacro_eq {size : Nat} {buf bytes : List Byte} (fits : bytes.length ≤ size) :
    matchesMacro size buf bytes = some (decide (buf.length ≥ size ∧ buf.take bytes.length = bytes)) := by
  unfold matchesMacro
  split
  · rename_i long
    unfold startsWith
    rw [inBounds_of (fits.trans long)]
    simp [long, beq_eq_decide]
  · rename_i short
    simp [short]

theorem parses_sysex (buf : List Byte) : Parses s (s.parseSysexChecked buf) (s.parseSysex buf) := by
  unfold parseSysexChecked parseSysex
  rw [matchesMacro_eq (show gmOnMacro.length ≤ 4 by decide), matchesMacro_eq (show gsPfxMacro.length ≤ 8 by decide),
    matchesMacro_eq (show xgOnMacro.length ≤ 7 by decide)]
  simp only [Option.bind_eq_bind, Option.bind_some, decide_eq_true_eq]
  apply Parses.ite
  · intro _
    apply Parses.ite
    · exact fun _ => inside_resetAllChannels.parses _
    · exact fun _ => parses_self _ rfl
  intro _
  apply Parses.ite
  · exact fun gs => parses_gsSysex gs.1
  intro _
  apply Parses.ite
  · intro _
    refine Inside.parses ?_ _
    have loop : Inside { s with midiMode := SNDRV_MIDI_MODE_XG } _ _ :=
      inside_foldlM (List.range s.maxChannels) fun s' same i inside => inside_xgBank (same ▸ List.mem_range.mp inside)
    exact loop
  · exact fun _ => parses_self _ rfl

theorem inside_sysex (buf : List Byte) : Inside s (s.sysexChecked op buf) (s.sysex op buf) := by
  unfold sysexChecked sysex
  cases buf with
  | nil => exact Inside.refl s
  | cons first rest =>
    rw [if_neg (by simp)]
    obtain ⟨parsed, same⟩ := parses_sysex (s := s) rest
    by_cases start : first = 240#8
    · simp [start, parsed, Inside, same]
    · simp [start, Inside]

theorem inside_setParameter (valid : ch < s.maxChannels) (registered : Bool) {msb lsb : Nat} (high : msb < 128) (low : lsb < 128)
    (param : Nat) (value : Int) : Inside s (s.setParameterChecked ch registered msb lsb param value)
      (s.setParameter ch registered msb lsb param value) := by
  unfold setParameterChecked setParameter
  refine Inside.bind (inside_modifyAt valid _) ?_
  refine Inside.bind (inside_setControlAt (by exact valid) (by decide) _) ?_
  refine Inside.bind (inside_setControlAt (by exact valid) (by decide) _) ?_
  refine Inside.bind (inside_setControlAt (by exact valid) high _) ?_
  exact inside_setControlAt (by exact valid) low _

theorem sysexbufChecked_eq (d : Delivery) : d.sysexbufChecked = some d.sysexbuf :=
  inBounds_of (SeqMemory.expandInto_fits d.source (fun _ => false) d.ev 64) _

def Fits (channels : Nat) (ev : SndSeqEvent) : Prop :=
  ev.type = SNDRV_SEQ_EVENT_CONTROLLER ∨ ev.type = SNDRV_SEQ_EVENT_CONTROL14 →
    ev.data.channel.toNat < channels → ev.data.param < 128

instance (channels : Nat) (ev : SndSeqEvent) : Decidable (Fits channels ev) :=
  inferInstanceAs (Decidable (_ ∨ _ → _ → _))

theorem inside_dispatch {d : Delivery} {type : Nat} (valid : 5 ≤ type → type < 20 → ch < s.maxChannels)
    (small : isKeyEvent type → d.ev.data.note.toNat < 128)
    (fits : type = SNDRV_SEQ_EVENT_CONTROLLER ∨ type = SNDRV_SEQ_EVENT_CONTROL14 → d.ev.data.param < 128) :
    Inside s (s.dispatchChecked op ch d type) (s.dispatch op ch (fun _ => d.sysexbuf) d.ev type) := by
  unfold dispatchChecked dispatch
  dsimp only
  by_cases on_ : type = SNDRV_SEQ_EVENT_NOTEON
  · have valid := valid (by rw [on_]; decide) (by rw [on_]; decide)
    have small := small (by rw [on_]; decide)
    rw [if_pos on_, if_pos on_, noteAt_eq valid small]
    simp only [Option.bind_eq_bind, Option.bind_some]
    split
    · have kept : ch < (s.call op.noteOff (.noteOff ch d.ev.data.note.toNat 0)).maxChannels := by simpa using valid
      rw [setNoteAt_eq kept small]
      exact ⟨rfl, by simp⟩
    · exact (inside_setNoteAt valid small _).call _ _
  rw [if_neg on_, if_neg on_]
  by_cases off : type = SNDRV_SEQ_EVENT_NOTEOFF
  · have valid := valid (by rw [off]; decide) (by rw [off]; decide)
    have small := small (by rw [off]; decide)
    rw [if_pos off, if_pos off, noteAt_eq valid small]
    exact (Inside.refl s).ite ((inside_noteOff valid small _).ite (Inside.refl s))
  rw [if_neg off, if_neg off]
  apply (inside_call ..).ite
  by_cases controller : type = SNDRV_SEQ_EVENT_CONTROLLER
  · rw [if_pos controller, if_pos controller]
    exact inside_doControl (valid (by rw [controller]; decide) (by rw [controller]; decide)) (fits (Or.inl controller)) _
  rw [if_neg controller, if_neg controller]
  by_cases program : type = SNDRV_SEQ_EVENT_PGMCHANGE
  · rw [if_pos program, if_pos program]
    exact inside_modifyAt (valid (by rw [program]; decide) (by rw [program]; decide)) _
  rw [if_neg program, if_neg program]
  by_cases bend : type = SNDRV_SEQ_EVENT_PITCHBEND
  · rw [if_pos bend, if_pos bend]
    exact (inside_modifyAt (valid (by rw [bend]; decide) (by rw [bend]; decide)) _).call _ _
  rw [if_neg bend, if_neg bend]
  by_cases pressure : type = SNDRV_SEQ_EVENT_CHANPRESS
  · rw [if_pos pressure, if_pos pressure]
    exact (inside_modifyAt (valid (by rw [pressure]; decide) (by rw [pressure]; decide)) _).call _ _
  rw [if_neg pressure, if_neg pressure]
  by_cases control14 : type = SNDRV_SEQ_EVENT_CONTROL14
  · have valid := valid (by rw [control14]; decide) (by rw [control14]; decide)
    have fits := fits (Or.inr control14)
    rw [if_pos control14, if_pos control14]
    by_cases fine : d.ev.data.param < 32
    · rw [if_pos fine, if_pos fine]
      exact (inside_setControlAt valid (by omega) _).bind (inside_doControl (by exact valid) fits _)
    · rw [if_neg fine, if_neg fine]
      exact inside_doControl valid fits _
  rw [if_neg control14, if_neg control14]
  by_cases nonreg : type = SNDRV_SEQ_EVENT_NONREGPARAM
  · have valid := valid (by rw [nonreg]; decide) (by rw [nonreg]; decide)
    rw [if_pos nonreg, if_pos nonreg]
    exact (inside_setParameter valid false (by decide) (by decide) _ _).call _ _
  rw [if_neg nonreg, if_neg nonreg]
  by_cases reg : type = SNDRV_SEQ_EVENT_REGPARAM
  · have valid := valid (by rw [reg]; decide) (by rw [reg]; decide)
    rw [if_pos reg, if_pos reg]
    exact (inside_setParameter valid true (by decide) (by decide) _ _).bind (inside_rpn (by exact valid))
  rw [if_neg reg, if_neg reg, sysexbufChecked_eq]
  exact ((inside_sysex _).ite (Inside.refl s)).ite (Inside.refl s)

theorem inside_processEvent {d : Delivery} (fits : Fits s.maxChannels d.ev) :
    Inside s (s.processEventChecked op true d) (s.sndMidiProcessEvent op (fun _ => d.sysexbuf) d.ev) := by
  unfold processEventChecked sndMidiProcessEvent
  rw [if_neg (by decide)]
  split
  · exact Inside.refl s
  rename_i within
  dsimp only
  split
  · exact Inside.refl s
  split
  · exact Inside.refl s
  rename_i note
  have typed : 5 ≤ eventType d.ev → eventType d.ev < 20 → d.ev.isChannelType = true := by
    unfold eventType SndSeqEvent.isChannelType
    split
    · rename_i quiet
      rw [quiet.1]
      exact fun _ _ => rfl
    · intro low high
      simp [low, high]
  have channel : d.ev.isChannelType = true → d.ev.data.channel.toNat < s.maxChannels :=
    fun typed => Nat.not_le.mp fun large => within ⟨typed, large⟩
  refine inside_dispatch (fun low high => ?_) (fun key => Nat.not_le.mp fun large => note ⟨key, large⟩) fun type => ?_
  · rw [if_pos (typed low high)]
    exact channel (typed low high)
  · have same : d.ev.type = eventType d.ev := by
      unfold eventType at type ⊢
      split at type
      · rcases type with type | type <;> cases type
      · rename_i other
        exact (if_neg other).symm
    have typed := typed (by rcases type with type | type <;> rw [type] <;> decide)
      (by rcases type with type | type <;> rw [type] <;> decide)
    exact fits (same ▸ type) (channel typed)

theorem processEventChecked_none {d : Delivery} (broken : ¬ Fits s.maxChannels d.ev) :
    s.processEventChecked op true d = none := by
  obtain ⟨type, broken⟩ := Classical.not_imp.mp broken
  obtain ⟨valid, large⟩ := Classical.not_imp.mp broken
  have large := Nat.not_lt.mp large
  have typed : d.ev.isChannelType = true := by
    unfold SndSeqEvent.isChannelType
    rcases type with type | type <;> rw [type] <;> decide
  have same : eventType d.ev = d.ev.type := by
    refine if_neg fun both => ?_
    rcases type with type | type <;> exact absurd (type.symm.trans both.1) (by decide)
  unfold processEventChecked
  rw [if_neg (by decide), if_neg fun both => Nat.not_le.mpr valid both.2, same]
  dsimp only
  rcases type with type | type
  · rw [type, if_neg (by decide), if_neg fun both => absurd both.1 (by decide)]
    exact doControlChecked_none large _
  · rw [type, if_neg (by decide), if_neg fun both => absurd both.1 (by decide)]
    show (if d.ev.data.param < 32 then _ else _) = none
    rw [if_neg (by omega)]
    exact doControlChecked_none large _

inductive MidiStep where
  | event (d : Delivery)
  | change (f : SndMidiChannelSet → SndMidiChannelSet) (keeps : ∀ s, (f s).maxChannels = s.maxChannels)

def stepChecked (op : SndMidiOp) (allocated : Bool) (s : SndMidiChannelSet) : MidiStep → Option SndMidiChannelSet
  | .event d => s.processEventChecked op allocated d
  | .change f _ => some (f s)

def MidiStep.Fits (allocated : Bool) (channels : Nat) : MidiStep → Prop
  | event d => allocated = true → SndMidiChannelSet.Fits channels d.ev
  | change _ _ => True

theorem stays_in_tables (op : SndMidiOp) (allocated : Bool) (s : SndMidiChannelSet) (steps : List MidiStep) :
    (steps.foldlM (stepChecked op allocated) s).isSome ↔
      ∀ d, MidiStep.event d ∈ steps → allocated = true → Fits s.maxChannels d.ev := by
  have run : (steps.foldlM (stepChecked op allocated) s).isSome ↔ ∀ step ∈ steps, step.Fits allocated s.maxChannels := by
    apply foldlM_isSome_iff (fun s' : SndMidiChannelSet => s'.maxChannels = s.maxChannels) _ _ _ steps rfl
    · intro s' step same fits
      cases step with
      | change f keeps => exact ⟨f s', rfl, (keeps s').trans same⟩
      | event d =>
        cases allocated with
        | false => exact ⟨s', rfl, same⟩
        | true =>
          have kept : Inside s' (s'.processEventChecked op true d) _ := inside_processEvent (same ▸ fits rfl)
          obtain ⟨done, kept⟩ := kept
          exact ⟨_, done, kept.trans same⟩
    · intro s' step same broken
      cases step with
      | change f keeps => exact absurd trivial broken
      | event d =>
        cases allocated with
        | false => exact absurd (fun none => absurd none Bool.false_ne_true) broken
        | true => exact processEventChecked_none fun fits => broken fun _ => same ▸ fits
  rw [run]
  constructor
  · exact fun all d inside => all _ inside
  · intro all step inside
    cases step with
    | event d => exact all d inside
    | change f keeps => trivial

/-- The controller of the event is the one behind the last, where the notes of the channel are. -/
theorem control_leaves_table : ¬ ∀ (op : SndMidiOp) (allocated : Bool) (s : SndMidiChannelSet) (steps : List MidiStep),
    (steps.foldlM (stepChecked op allocated) s).isSome := by
  intro all
  have one := all ⟨true, true, true, true, true, true, true⟩ true (alloc 16 0 0 0 0) [.event
    { memory := emptyMemory
      source := fun _ => false
      stack := fun _ => 0
      ev := { blankEvent with type := SNDRV_SEQ_EVENT_CONTROLLER, data := { blankEvent.data with param := 128 } } }]
  revert one
  decide

end SndMidiChannelSet

end AlsaDriver.Seq
