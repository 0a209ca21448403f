import AlsaDriver.Lib.Runs
import AlsaDriver.Seq.MidiNotes

namespace AlsaDriver.Seq

open Function Runs

namespace SndMidiChannelSet

variable {op : SndMidiOp} {s s' : SndMidiChannelSet} {ch c n : Nat}

def hold (s : SndMidiChannelSet) (c : Nat) : Byte := (s.channels c).control MIDI_CTL_SUSTAIN

def sostenuto (s : SndMidiChannelSet) (c : Nat) : Byte := (s.channels c).control MIDI_CTL_SOSTENUTO

structure Quiet (s s' : SndMidiChannelSet) : Prop where
  hold : ∀ c, s'.hold c = s.hold c
  sostenuto : ∀ c, s'.sostenuto c = s.sostenuto c
  view : ∀ c n, s'.view c n = s.view c n
  maxChannels : s'.maxChannels = s.maxChannels
  overrun : s'.overrun = s.overrun

theorem Quiet.refl (s : SndMidiChannelSet) : Quiet s s := ⟨fun _ => rfl, fun _ => rfl, fun _ _ => rfl, rfl, rfl⟩

theorem Quiet.trans {s'' : SndMidiChannelSet} (first : Quiet s s') (second : Quiet s' s'') : Quiet s s'' where
  hold c := (second.hold c).trans (first.hold c)
  sostenuto c := (second.sostenuto c).trans (first.sostenuto c)
  view c n := (second.view c n).trans (first.view c n)
  maxChannels := second.maxChannels.trans first.maxChannels
  overrun := second.overrun.trans first.overrun

theorem SameControls.quiet (same : SameControls s s') (view : ∀ c n, s'.view c n = s.view c n) : Quiet s s' where
  hold c := congrFun (same.control c) _
  sostenuto c := congrFun (same.control c) _
  view := view
  maxChannels := same.maxChannels
  overrun := same.overrun

theorem quiet_call (has : Bool) {callback : MidiCallback} (other : ∀ c n, strike c n callback = none) :
    Quiet s (s.call has callback) :=
  (sameControls_call has callback).quiet fun c n => view_call_none has (other c n)

theorem quiet_modify (f : SndMidiChannel → SndMidiChannel) (notes : ∀ chan, (f chan).note = chan.note)
    (controls : ∀ chan, (f chan).control = chan.control) : Quiet s (s.modify ch f) :=
  (modify_aside f notes controls).1.quiet (modify_aside f notes controls).2

theorem view_modify (f : SndMidiChannel → SndMidiChannel) (notes : ∀ chan, (f chan).note = chan.note) :
    (s.modify ch f).view c n = s.view c n := by
  unfold view
  rw [channels_modify]
  split
  · rename_i same
    rw [notes, same]
    rfl
  · rfl

theorem control_setControl (i : Nat) (value : Byte) (j : Nat) : ((s.setControl ch i value).channels c).control j =
    if c = ch ∧ j = i then value else (s.channels c).control j := by
  unfold setControl
  rw [channels_modify]
  by_cases same : c = ch
  · subst same
    rw [if_pos rfl]
    show update (s.channels c).control i value j = _
    rw [update_apply]
    by_cases here : j = i
    · rw [if_pos here, if_pos ⟨rfl, here⟩]
    · rw [if_neg here, if_neg fun both => here both.2]
  · rw [if_neg same, if_neg fun both => same both.1]

theorem view_setControl (i : Nat) (value : Byte) : (s.setControl ch i value).view c n = s.view c n :=
  view_modify _ fun _ => rfl

theorem quiet_setControl {i : Nat} (value : Byte) (sustain : i ≠ MIDI_CTL_SUSTAIN) (sostenuto : i ≠ MIDI_CTL_SOSTENUTO) :
    Quiet s (s.setControl ch i value) where
  hold _ := (control_setControl i value _).trans (if_neg fun both => sustain both.2.symm)
  sostenuto _ := (control_setControl i value _).trans (if_neg fun both => sostenuto both.2.symm)
  view _ _ := view_setControl i value
  maxChannels := rfl
  overrun := rfl

theorem quiet_rpn : Quiet s (s.rpn ch) := by
  unfold rpn
  split
  · dsimp only
    split
    · exact quiet_modify _ (fun _ => rfl) fun _ => rfl
    · split
      · exact quiet_modify _ (fun _ => rfl) fun _ => rfl
      · split
        · exact quiet_modify _ (fun _ => rfl) fun _ => rfl
        · exact Quiet.refl s
  · exact Quiet.refl s

theorem quiet_nrpn : Quiet s (s.nrpn op ch) := quiet_call _ fun _ _ => rfl

theorem quiet_dataEntry : Quiet s (s.dataEntry op ch) := by
  unfold dataEntry
  split
  · exact quiet_rpn
  · exact quiet_nrpn

theorem quiet_setParameter {registered : Bool} {msb lsb : Nat} (param : Nat) (value : Int)
    (high : msb ≠ MIDI_CTL_SUSTAIN ∧ msb ≠ MIDI_CTL_SOSTENUTO) (low : lsb ≠ MIDI_CTL_SUSTAIN ∧ lsb ≠ MIDI_CTL_SOSTENUTO) :
    Quiet s (s.setParameter ch registered msb lsb param value) := by
  have kind : Quiet s (s.modify ch fun chan => { chan with registered := registered }) :=
    quiet_modify _ (fun _ => rfl) fun _ => rfl
  have high_ : ∀ s value, Quiet s (s.setControl ch msb value) := fun s value => quiet_setControl value high.1 high.2
  have low_ : ∀ s value, Quiet s (s.setControl ch lsb value) := fun s value => quiet_setControl value low.1 low.2
  have entry : ∀ s value, Quiet s (s.setControl ch MIDI_CTL_MSB_DATA_ENTRY value) :=
    fun s value => quiet_setControl value (by decide) (by decide)
  have entryLow : ∀ s value, Quiet s (s.setControl ch MIDI_CTL_LSB_DATA_ENTRY value) :=
    fun s value => quiet_setControl value (by decide) (by decide)
  exact kind.trans ((entry _ _).trans ((entryLow _ _).trans ((high_ _ _).trans (low_ _ _))))

/-- The notes sound as they should; `up` tells whether the last key event of a note was a note-off. -/
structure Inv (s : SndMidiChannelSet) (up : Nat → Nat → Bool) : Prop where
  inside : s.overrun = false
  sound : ∀ c n, c < s.maxChannels → n < 128 → NoteView.Sound (s.hold c) (s.sostenuto c) (up c n) (s.view c n)

variable {up : Nat → Nat → Bool}

theorem Inv.quiet (inv : s.Inv up) (quiet : Quiet s s') : s'.Inv up where
  inside := quiet.overrun.trans inv.inside
  sound c n valid small := by
    rw [quiet.hold, quiet.sostenuto, quiet.view]
    exact inv.sound c n (quiet.maxChannels ▸ valid) small

theorem Inv.forNotes (inv : s.Inv up) {f : (Nat → Byte) → NoteView → NoteView} {step : SndMidiChannelSet → Nat → SndMidiChannelSet}
    (local_ : Local ch f step) {changed : SndMidiChannelSet} (inside : changed.overrun = s.overrun)
    (size : changed.maxChannels = s.maxChannels) (views : ∀ c n, changed.view c n = s.view c n)
    (pedals : ∀ c, c ≠ ch → changed.hold c = s.hold c ∧ changed.sostenuto c = s.sostenuto c)
    (keeps : ∀ up v, NoteView.Sound (s.hold ch) (s.sostenuto ch) up v →
      NoteView.Sound (changed.hold ch) (changed.sostenuto ch) up (f (changed.channels ch).control v)) :
    (changed.forNotes step).Inv up := by
  obtain ⟨controls, notes⟩ := local_.forNotes (s := changed)
  have hold : ∀ c, (changed.forNotes step).hold c = changed.hold c := fun c => congrFun (controls.control c) _
  have sostenuto : ∀ c, (changed.forNotes step).sostenuto c = changed.sostenuto c :=
    fun c => congrFun (controls.control c) _
  refine ⟨controls.overrun.trans (inside.trans inv.inside), fun c n valid small => ?_⟩
  have valid : c < s.maxChannels := (controls.maxChannels.trans size) ▸ valid
  have before := inv.sound c n valid small
  rw [hold, sostenuto, notes c n small]
  by_cases here : c = ch
  · subst here
    rw [if_pos rfl, views]
    exact keeps _ _ before
  · rw [if_neg here, views, (pedals c here).1, (pedals c here).2]
    exact before

theorem Inv.eachNote (inv : s.Inv up) {f : (Nat → Byte) → NoteView → NoteView} {step : SndMidiChannelSet → Nat → SndMidiChannelSet}
    (local_ : Local ch f step) (keeps : ∀ up v, NoteView.Sound (s.hold ch) (s.sostenuto ch) up v →
      NoteView.Sound (s.hold ch) (s.sostenuto ch) up (f (s.channels ch).control v)) : (s.forNotes step).Inv up :=
  inv.forNotes local_ rfl rfl (fun _ _ => rfl) (fun _ _ => ⟨rfl, rfl⟩) keeps

theorem hold_setControl (i : Nat) (value : Byte) :
    (s.setControl ch i value).hold c = if c = ch ∧ MIDI_CTL_SUSTAIN = i then value else s.hold c := control_setControl ..

theorem sostenuto_setControl (i : Nat) (value : Byte) :
    (s.setControl ch i value).sostenuto c = if c = ch ∧ MIDI_CTL_SOSTENUTO = i then value else s.sostenuto c :=
  control_setControl ..

theorem switchValue_cases (control : Nat) (switch : 64 ≤ control ∧ control ≤ 69) (value : Int) :
    switchValue control value = 0 ∨ switchValue control value = 127 := by
  unfold switchValue
  rw [if_pos (Or.inl switch)]
  split
  · exact Or.inr rfl
  · exact Or.inl rfl

theorem Inv.sustain (inv : s.Inv up) (has : op.noteOff = true) (value : Int) :
    (s.doControl op ch MIDI_CTL_SUSTAIN value).Inv up := by
  have others : ∀ value c, c ≠ ch → (s.setControl ch MIDI_CTL_SUSTAIN value).hold c = s.hold c ∧
      (s.setControl ch MIDI_CTL_SUSTAIN value).sostenuto c = s.sostenuto c := fun value c other =>
    ⟨(hold_setControl ..).trans (if_neg fun both => other both.1),
      (sostenuto_setControl ..).trans (if_neg fun both => other both.1)⟩
  have captured : ∀ value, (s.setControl ch MIDI_CTL_SUSTAIN value).sostenuto ch = s.sostenuto ch := fun value =>
    (sostenuto_setControl ..).trans (if_neg fun both => absurd both.2 (by decide))
  have pedal : ∀ value, (s.setControl ch MIDI_CTL_SUSTAIN value).hold ch = value := fun value =>
    (hold_setControl ..).trans (if_pos ⟨rfl, rfl⟩)
  unfold doControl
  rw [if_neg (by decide), if_pos rfl]
  rcases switchValue_cases MIDI_CTL_SUSTAIN (by decide) value with off | on_
  · rw [off, if_pos rfl]
    refine inv.forNotes (local_sustainOff has) rfl rfl (fun _ _ => view_setControl ..) (others _) ?_
    intro up v sound
    rw [captured]
    exact sound.sustainOff
  · rw [on_, if_neg (by decide)]
    refine ⟨inv.inside, fun c n valid small => ?_⟩
    have before := inv.sound c n valid small
    rw [view_setControl]
    by_cases here : c = ch
    · subst here
      rw [captured, pedal]
      exact before.press (by decide)
    · rw [(others _ c here).1, (others _ c here).2]
      exact before

theorem Inv.sostenutoPedal (inv : s.Inv up) (has : op.noteOff = true) (value : Int) :
    (s.doControl op ch MIDI_CTL_SOSTENUTO value).Inv up := by
  have others : ∀ value c, c ≠ ch → (s.setControl ch MIDI_CTL_SOSTENUTO value).hold c = s.hold c ∧
      (s.setControl ch MIDI_CTL_SOSTENUTO value).sostenuto c = s.sostenuto c := fun value c other =>
    ⟨(hold_setControl ..).trans (if_neg fun both => other both.1),
      (sostenuto_setControl ..).trans (if_neg fun both => other both.1)⟩
  have held : ∀ value, (s.setControl ch MIDI_CTL_SOSTENUTO value).hold ch = s.hold ch := fun value =>
    (hold_setControl ..).trans (if_neg fun both => absurd both.2 (by decide))
  have pedal : ∀ value, (s.setControl ch MIDI_CTL_SOSTENUTO value).sostenuto ch = value := fun value =>
    (sostenuto_setControl ..).trans (if_pos ⟨rfl, rfl⟩)
  unfold doControl
  rw [if_neg (by decide), if_neg (by decide), if_neg (by decide), if_pos rfl]
  rcases switchValue_cases MIDI_CTL_SOSTENUTO (by decide) value with off | on_
  · rw [off, if_neg (by decide)]
    refine inv.forNotes (local_sostenutoOff has) rfl rfl (fun _ _ => view_setControl ..) (others _) ?_
    intro up v sound
    rw [held]
    exact sound.sostenutoOff
  · rw [on_, if_pos (by decide)]
    refine inv.forNotes local_sostenutoOn rfl rfl (fun _ _ => view_setControl ..) (others _) ?_
    intro up v sound
    rw [held, pedal]
    exact sound.sostenutoOn (by decide)

def Free (s : SndMidiChannelSet) (c : Nat) : Prop :=
  ∀ n < 128, (s.channels c).note n &&& (SNDRV_MIDI_NOTE_RELEASED ||| SNDRV_MIDI_NOTE_SOSTENUTO) = 0

theorem Inv.reset (inv : s.Inv up) (free : s.Free ch) (f : SndMidiChannel → SndMidiChannel)
    (notes : ∀ chan, (f chan).note = chan.note) : (s.modify ch f).Inv up := by
  refine ⟨inv.inside, fun c n valid small => ?_⟩
  have before := inv.sound c n valid small
  rw [view_modify f notes]
  by_cases here : c = ch
  · subst here
    exact before.reset (free n small)
  · have same : (s.modify ch f).channels c = s.channels c := (channels_modify f).trans (if_neg here)
    unfold hold sostenuto
    rw [same]
    exact before

theorem Inv.doControl (inv : s.Inv up) (has : op.noteOff = true) (ends : op.noteTerminate = true) {control : Nat} (value : Int)
    (small : control < 128) (free : control = MIDI_CTL_RESET_CONTROLLERS → s.Free ch) :
    (s.doControl op ch control value).Inv up := by
  by_cases sustain : control = MIDI_CTL_SUSTAIN
  · subst sustain
    exact inv.sustain has value
  by_cases captures : control = MIDI_CTL_SOSTENUTO
  · subst captures
    exact inv.sostenutoPedal has value
  have stored : ∀ value, Quiet s (s.setControl ch control value) := fun value => quiet_setControl value sustain captures
  unfold SndMidiChannelSet.doControl
  rw [if_neg (Nat.not_le.mpr small), if_neg sustain, if_neg captures]
  generalize switchValue control value = value
  have entry : ∀ s value, Quiet s (s.setControl ch MIDI_CTL_LSB_DATA_ENTRY value) :=
    fun s value => quiet_setControl value (by decide) (by decide)
  have kept := inv.quiet (stored (BitVec.ofInt 8 value))
  split
  · exact kept
  split
  · exact kept.quiet ((entry _ 0).trans quiet_dataEntry)
  split
  · exact kept.quiet quiet_dataEntry
  split
  · exact kept.quiet (quiet_modify _ (fun _ => rfl) fun _ => rfl)
  split
  · exact kept.quiet (quiet_modify _ (fun _ => rfl) fun _ => rfl)
  split
  · unfold allSoundsOff
    rw [if_pos ends]
    exact kept.eachNote (local_terminate ends) fun up v sound => sound.terminate
  split
  · unfold allNotesOff
    rw [if_pos has]
    exact kept.eachNote (local_allNotesOff has) fun up v sound => sound.allNotesOff
  split
  · split
    · exact kept.quiet (quiet_modify _ (fun _ => rfl) fun _ => rfl)
    · exact kept
  split
  · exact kept
  split
  · rename_i resets
    refine kept.reset (fun n small => ?_) _ fun _ => rfl
    have same := congrArg NoteView.flags ((stored (BitVec.ofInt 8 value)).view ch n)
    exact (congrArg (· &&& _) same).trans (free resets n small)
  · exact kept.quiet (quiet_call _ fun _ _ => rfl)

theorem Inv.resetAllChannels (inv : s.Inv up) (free : ∀ c < s.maxChannels, s.Free c) : s.resetAllChannels.Inv up := by
  have fold : ∀ (l : List Nat) (s : SndMidiChannelSet), s.Inv up → (∀ c ∈ l, s.Free c) →
      (l.foldl (fun s ch => s.modify ch fun chan => chan.reset ch) s).Inv up := by
    intro l
    induction l with
    | nil => exact fun s inv _ => inv
    | cons first rest ih =>
      intro s inv free
      refine ih _ (inv.reset (free first List.mem_cons_self) _ fun _ => rfl) fun c inside n small => ?_
      have kept : (s.modify first fun chan => chan.reset first).view c n = s.view c n := view_modify _ fun _ => rfl
      have same := congrArg NoteView.flags kept
      exact (congrArg (· &&& _) same).trans (free c (List.mem_cons_of_mem _ inside) n small)
  exact fold _ s inv fun c inside => free c (List.mem_range.mp inside)

def ResetsAll (s : SndMidiChannelSet) (buf : List Byte) : Prop :=
  buf.length ≥ 4 ∧ buf.take 4 = gmOnMacro ∧ s.midiMode ≠ SNDRV_MIDI_MODE_GS ∧ s.midiMode ≠ SNDRV_MIDI_MODE_XG ∨
    buf.length ≥ 8 ∧ buf.take 5 = gsPfxMacro ∧ buf.getD 5 0 = 0x00 ∧ buf.getD 6 0 = 0x7f ∧ buf.getD 7 0 = 0x00

theorem quiet_xgOn (l : List Nat) : Quiet s (l.foldl
    (fun s i => s.setControl i MIDI_CTL_MSB_BANK (if (s.channels i).drumChannel then 127 else 0)) s) := by
  induction l generalizing s with
  | nil => exact Quiet.refl s
  | cons first rest ih =>
    have stored : Quiet s (s.setControl first MIDI_CTL_MSB_BANK (if (s.channels first).drumChannel then 127 else 0)) :=
      quiet_setControl _ (by decide) (by decide)
    exact stored.trans ih

theorem Inv.gsSysex (inv : s.Inv up) {buf : List Byte} (free : buf.getD 5 0 = 0x00 ∧ buf.getD 6 0 = 0x7f ∧ buf.getD 7 0 = 0x00 →
    ∀ c < s.maxChannels, s.Free c) : (s.gsSysex buf).2.Inv up := by
  have moded : Quiet s (if s.midiMode ≠ SNDRV_MIDI_MODE_GS ∧ s.midiMode ≠ SNDRV_MIDI_MODE_XG then
      { s with midiMode := SNDRV_MIDI_MODE_GS } else s) := by
    split
    · exact ⟨fun _ => rfl, fun _ => rfl, fun _ _ => rfl, rfl, rfl⟩
    · exact Quiet.refl s
  unfold SndMidiChannelSet.gsSysex
  dsimp only
  generalize (if s.midiMode ≠ SNDRV_MIDI_MODE_GS ∧ s.midiMode ≠ SNDRV_MIDI_MODE_XG then
      { s with midiMode := SNDRV_MIDI_MODE_GS } else s) = s' at moded
  have inv' := inv.quiet moded
  split
  · rename_i resets
    refine inv'.resetAllChannels fun c valid n small => ?_
    have same := congrArg NoteView.flags (moded.view c n)
    exact (congrArg (· &&& _) same).trans (free resets c (moded.maxChannels ▸ valid) n small)
  split
  · split
    · dsimp only
      exact inv'.quiet (quiet_modify _ (fun _ => rfl) fun _ => rfl)
    · exact inv'
  split
  · split
    · dsimp only
      exact inv'.quiet (quiet_modify _ (fun _ => rfl) fun _ => rfl)
    · exact inv'
  split
  · exact inv'.quiet ⟨fun _ => rfl, fun _ => rfl, fun _ _ => rfl, rfl, rfl⟩
  split
  · exact inv'.quiet ⟨fun _ => rfl, fun _ => rfl, fun _ _ => rfl, rfl, rfl⟩
  split
  · exact inv'.quiet ⟨fun _ => rfl, fun _ => rfl, fun _ _ => rfl, rfl, rfl⟩
  · exact inv'

theorem Inv.sysex (inv : s.Inv up) {buf : List Byte}
    (free : buf.head? = some 0xf0 ∧ s.ResetsAll buf.tail → ∀ c < s.maxChannels, s.Free c) : (s.sysex op buf).Inv up := by
  unfold SndMidiChannelSet.sysex
  split
  · exact inv
  rename_i head
  have head : buf.head? = some 0xf0 := Decidable.not_not.mp head
  have parsed : (s.parseSysex buf.tail).2.Inv up := by
    unfold parseSysex
    split
    · rename_i gmOn
      split
      · rename_i mode
        have quiet : Quiet s { s with midiMode := SNDRV_MIDI_MODE_GM } := ⟨fun _ => rfl, fun _ => rfl, fun _ _ => rfl, rfl, rfl⟩
        exact (inv.quiet quiet).resetAllChannels (free ⟨head, Or.inl ⟨gmOn.1, gmOn.2, mode⟩⟩)
      · exact inv
    split
    · rename_i gsPfx
      exact inv.gsSysex fun bytes => free ⟨head, Or.inr ⟨gsPfx.1, gsPfx.2, bytes⟩⟩
    split
    · have quiet : Quiet s { s with midiMode := SNDRV_MIDI_MODE_XG } := ⟨fun _ => rfl, fun _ => rfl, fun _ _ => rfl, rfl, rfl⟩
      exact inv.quiet (quiet.trans (quiet_xgOn _))
    · exact inv
  exact parsed.quiet (quiet_call _ fun _ _ => rfl)

def lastKey (up : Nat → Nat → Bool) (ev : SndSeqEvent) (c n : Nat) : Bool :=
  if c = ev.data.channel.toNat ∧ n = ev.data.note.toNat ∧
      (eventType ev = SNDRV_SEQ_EVENT_NOTEON ∨ eventType ev = SNDRV_SEQ_EVENT_NOTEOFF) then
    eventType ev == SNDRV_SEQ_EVENT_NOTEOFF
  else up c n

/-- The event resets the controllers of channel `c`. -/
def Resets (s : SndMidiChannelSet) (expand : SndSeqEvent → List Byte) (ev : SndSeqEvent) (c : Nat) : Prop :=
  (ev.type = SNDRV_SEQ_EVENT_CONTROLLER ∨ ev.type = SNDRV_SEQ_EVENT_CONTROL14) ∧
      ev.data.param = MIDI_CTL_RESET_CONTROLLERS ∧ ev.data.channel.toNat = c ∨
    ev.type = SNDRV_SEQ_EVENT_SYSEX ∧ ev.isVariable ∧ (expand ev).head? = some 0xf0 ∧ s.ResetsAll (expand ev).tail

structure Safe (s : SndMidiChannelSet) (expand : SndSeqEvent → List Byte) (ev : SndSeqEvent) : Prop where
  param : ev.type = SNDRV_SEQ_EVENT_CONTROLLER ∨ ev.type = SNDRV_SEQ_EVENT_CONTROL14 →
    ev.data.channel.toNat < s.maxChannels → ev.data.param < 128
  free : ∀ c < s.maxChannels, s.Resets expand ev c → s.Free c

theorem Inv.aside (inv : s.Inv up) {up' : Nat → Nat → Bool} (same : ∀ c n, c < s.maxChannels → n < 128 → up' c n = up c n) :
    s.Inv up' := by
  refine ⟨inv.inside, fun c n valid small => ?_⟩
  rw [same c n valid small]
  exact inv.sound c n valid small

theorem Inv.one (inv : s.Inv up) (same : SameControls s s') {up' : Nat → Nat → Bool} {note : Nat} {v : NoteView}
    (views : ∀ c n, s'.view c n = if c = ch ∧ n = note then v else s.view c n)
    (others : ∀ c n, ¬ (c = ch ∧ n = note) → up' c n = up c n)
    (sound : NoteView.Sound (s.hold ch) (s.sostenuto ch) (up ch note) (s.view ch note) →
      NoteView.Sound (s.hold ch) (s.sostenuto ch) (up' ch note) v) : s'.Inv up' := by
  refine ⟨same.overrun.trans inv.inside, fun c n valid small => ?_⟩
  have hold : s'.hold c = s.hold c := congrFun (same.control c) _
  have sostenuto : s'.sostenuto c = s.sostenuto c := congrFun (same.control c) _
  have before := inv.sound c n (same.maxChannels ▸ valid) small
  rw [hold, sostenuto, views]
  by_cases here : c = ch ∧ n = note
  · obtain ⟨rfl, rfl⟩ := here
    rw [if_pos ⟨rfl, rfl⟩]
    exact sound before
  · rw [if_neg here, others c n here]
    exact before

theorem Inv.noteOn (inv : s.Inv up) (hasOn : op.noteOn = true) (hasOff : op.noteOff = true) {up' : Nat → Nat → Bool} {note : Nat}
    (valid : ch < s.maxChannels) (small : note < 128) (vel : Byte) (down : up' ch note = false)
    (others : ∀ c n, ¬ (c = ch ∧ n = note) → up' c n = up c n) :
    (((if (s.channels ch).note note &&& SNDRV_MIDI_NOTE_ON ≠ 0 then s.call op.noteOff (.noteOff ch note 0) else s).setNote
      ch note SNDRV_MIDI_NOTE_ON).call op.noteOn (.noteOn ch note vel)).Inv up' := by
  have before := inv.sound ch note valid small
  rw [hasOn, hasOff]
  split
  · rename_i sounds
    have told : ((s.call true (.noteOff ch note 0)).view ch note).strikes = (s.view ch note).strikes ++ [false] := by
      have stops : strike ch note (.noteOff ch note 0) = some false := if_pos ⟨rfl, rfl⟩
      rw [view_call, stops]
      rfl
    have same : SameControls s (((s.call true (.noteOff ch note 0)).setNote ch note SNDRV_MIDI_NOTE_ON).call true
        (.noteOn ch note vel)) := (sameControls_call ..).trans (sameControls_stop ..)
    apply inv.one same (v := ⟨SNDRV_MIDI_NOTE_ON, (s.view ch note).strikes ++ [false] ++ [true]⟩) _ others
    · intro before
      have stopped : NoteView.Sound (s.hold ch) (s.sostenuto ch) false (s.view ch note).stop :=
        before.stop (before.on_iff.mp sounds)
      rw [down]
      exact stopped.start rfl
    · intro c n
      rw [view_start, told]
      by_cases here : c = ch ∧ n = note
      · rw [if_pos here, if_pos here]
      · rw [if_neg here, if_neg here]
        exact view_call_none _ (if_neg fun same => here ⟨same.1.symm, same.2.symm⟩)
  · rename_i silent
    apply inv.one (sameControls_stop ..) (fun c n => view_start note vel) others
    intro before
    rw [down]
    exact before.start (Decidable.not_not.mp fun sounds => silent (before.on_iff.mpr sounds))

theorem Inv.noteOff (inv : s.Inv up) (has : op.noteOff = true) {up' : Nat → Nat → Bool} {note : Nat}
    (valid : ch < s.maxChannels) (small : note < 128) (vel : Byte)
    (others : ∀ c n, ¬ (c = ch ∧ n = note) → up' c n = up c n) :
    (if (s.channels ch).note note &&& SNDRV_MIDI_NOTE_ON = 0 then s
      else if op.noteOff then s.noteOff op ch note vel else s).Inv up' := by
  have before := inv.sound ch note valid small
  rw [if_pos has]
  split
  · rename_i silent
    have silent : (s.view ch note).flags = 0 := Decidable.not_not.mp fun sounds => before.on_iff.mpr sounds silent
    apply inv.one (SameControls.refl s) (fun c n => view_keep note) others
    exact fun before => before.same (Or.inl silent)
  · rename_i sounds
    have noted : Local ch (fun control v => v.keyOff (control MIDI_CTL_SUSTAIN)) fun s note => s.noteOff op ch note vel :=
      local_noteOff has vel
    apply inv.one (noted.controls s note) (noted.view s note) others
    exact fun before => before.keyOff (before.on_iff.mp sounds)

theorem lastKey_aside {ev : SndSeqEvent} (none : ¬ (eventType ev = SNDRV_SEQ_EVENT_NOTEON ∨ eventType ev = SNDRV_SEQ_EVENT_NOTEOFF)) :
    lastKey up ev = up := by
  funext c n
  exact if_neg fun all => none all.2.2

theorem eventType_of_ne {ev : SndSeqEvent} (other : ev.type ≠ SNDRV_SEQ_EVENT_NOTEON) : eventType ev = ev.type :=
  if_neg fun both => other both.1

theorem type_of_eventType {ev : SndSeqEvent} {type : Nat} (same : eventType ev = type) (off : type ≠ SNDRV_SEQ_EVENT_NOTEOFF) :
    ev.type = type := by
  unfold eventType at same
  split at same
  · exact absurd same.symm off
  · exact same

theorem Inv.dispatch (inv : s.Inv up) (hasOn : op.noteOn = true) (hasOff : op.noteOff = true) (ends : op.noteTerminate = true)
    {expand : SndSeqEvent → List Byte} {ev : SndSeqEvent} (safe : s.Safe expand ev)
    (channel : ev.isChannelType → ch = ev.data.channel.toNat ∧ ch < s.maxChannels)
    (note : isKeyEvent (eventType ev) → ev.data.note.toNat < 128) :
    (s.dispatch op ch expand ev (eventType ev)).Inv (lastKey up ev) := by
  have others : ∀ c n, ¬ (c = ev.data.channel.toNat ∧ n = ev.data.note.toNat) → lastKey up ev c n = up c n :=
    fun c n other => if_neg fun all => other ⟨all.1, all.2.1⟩
  unfold SndMidiChannelSet.dispatch
  dsimp only
  by_cases on_ : eventType ev = SNDRV_SEQ_EVENT_NOTEON
  · have type : ev.type = SNDRV_SEQ_EVENT_NOTEON := by
      unfold eventType at on_
      split at on_
      · exact absurd on_ (by decide)
      · exact on_
    obtain ⟨rfl, valid⟩ := channel (by unfold SndSeqEvent.isChannelType; rw [type]; decide)
    rw [if_pos on_]
    refine inv.noteOn hasOn hasOff valid (note (by rw [on_]; decide)) _ ?_ others
    rw [lastKey, if_pos ⟨rfl, rfl, Or.inl on_⟩, on_]
    rfl
  rw [if_neg on_]
  by_cases off : eventType ev = SNDRV_SEQ_EVENT_NOTEOFF
  · have type : ev.type = SNDRV_SEQ_EVENT_NOTEON ∨ ev.type = SNDRV_SEQ_EVENT_NOTEOFF := by
      unfold eventType at off
      split at off
      · rename_i quiet
        exact Or.inl quiet.1
      · exact Or.inr off
    obtain ⟨rfl, valid⟩ := channel (by
      unfold SndSeqEvent.isChannelType
      rcases type with type | type
      · rw [type]; decide
      · rw [type]; decide)
    rw [if_pos off]
    exact inv.noteOff hasOff valid (note (by rw [off]; decide)) _ others
  rw [if_neg off, lastKey_aside fun either => either.elim on_ off]
  have controller : ev.type = SNDRV_SEQ_EVENT_CONTROLLER ∨ ev.type = SNDRV_SEQ_EVENT_CONTROL14 →
      ev.data.param < 128 ∧ (ev.data.param = MIDI_CTL_RESET_CONTROLLERS → s.Free ch) := by
    intro type
    obtain ⟨rfl, valid⟩ := channel (by
      unfold SndSeqEvent.isChannelType
      rcases type with type | type
      · rw [type]; decide
      · rw [type]; decide)
    exact ⟨safe.param type valid, fun resets => safe.free _ valid (Or.inl ⟨type, resets, rfl⟩)⟩
  split
  · exact inv.quiet (quiet_call _ fun _ _ => rfl)
  split
  · rename_i type
    obtain ⟨small, free⟩ := controller (Or.inl (type_of_eventType type (by decide)))
    exact inv.doControl hasOff ends _ small free
  split
  · exact inv.quiet (quiet_modify _ (fun _ => rfl) fun _ => rfl)
  split
  · refine Inv.quiet ?_ (quiet_call _ fun _ _ => rfl)
    exact inv.quiet (quiet_modify _ (fun _ => rfl) fun _ => rfl)
  split
  · refine Inv.quiet ?_ (quiet_call _ fun _ _ => rfl)
    exact inv.quiet (quiet_modify _ (fun _ => rfl) fun _ => rfl)
  split
  · rename_i type
    obtain ⟨small, free⟩ := controller (Or.inr (type_of_eventType type (by decide)))
    split
    · rename_i fine
      have low : Quiet s (s.setControl ch (ev.data.param + 32) (BitVec.ofInt 8 (ev.data.value % 128))) := by
        exact quiet_setControl _ (by unfold MIDI_CTL_SUSTAIN; omega) (by unfold MIDI_CTL_SOSTENUTO; omega)
      exact (inv.quiet low).doControl hasOff ends _ small fun resets => absurd resets (by unfold MIDI_CTL_RESET_CONTROLLERS; omega)
    · exact inv.doControl hasOff ends _ small free
  split
  · exact inv.quiet ((quiet_setParameter _ _ (by decide) (by decide)).trans quiet_nrpn)
  split
  · exact inv.quiet ((quiet_setParameter _ _ (by decide) (by decide)).trans quiet_rpn)
  split
  · rename_i type
    split
    · rename_i variable_
      have type := type_of_eventType type (by decide)
      exact inv.sysex fun resets c valid => safe.free c valid (Or.inr ⟨type, variable_, resets.1, resets.2⟩)
    · exact inv
  · exact inv

theorem Inv.sndMidiProcessEvent (inv : s.Inv up) (hasOn : op.noteOn = true) (hasOff : op.noteOff = true)
    (ends : op.noteTerminate = true) {expand : SndSeqEvent → List Byte} {ev : SndSeqEvent} (safe : s.Safe expand ev) :
    (s.sndMidiProcessEvent op expand ev).Inv (lastKey up ev) := by
  unfold SndMidiChannelSet.sndMidiProcessEvent
  split
  · rename_i beyond
    exact inv.aside fun c n valid small => if_neg fun all => absurd (all.1 ▸ valid) (Nat.not_lt.mpr beyond.2)
  rename_i within
  dsimp only
  split
  · rename_i type
    have same : eventType ev = SNDRV_SEQ_EVENT_NOTE := (eventType_of_ne (by rw [type]; decide)).trans type
    rw [lastKey_aside (by rw [same]; decide)]
    exact inv
  split
  · rename_i beyond
    exact inv.aside fun c n valid small => if_neg fun all => absurd (all.2.1 ▸ small) (Nat.not_lt.mpr beyond.2)
  rename_i note
  refine inv.dispatch hasOn hasOff ends safe (fun typed => ?_) fun key => Nat.not_le.mp fun large => note ⟨key, large⟩
  rw [if_pos typed]
  exact ⟨rfl, Nat.not_le.mp fun large => within ⟨typed, large⟩⟩

/-- The callbacks of each note take turns, a note sounds if and only if its key flag is set, and one that sounds with its
    key up is held by a pedal. -/
structure Correct (s : SndMidiChannelSet) (up : Nat → Nat → Bool) : Prop where
  inside : s.overrun = false
  alternate : ∀ c n, c < s.maxChannels → n < 128 → Alternate false (s.log.filterMap (strike c n))
  sounds : ∀ c n, c < s.maxChannels → n < 128 →
    (soundsAfter (s.log.filterMap (strike c n)) = true ↔ (s.channels c).note n &&& SNDRV_MIDI_NOTE_ON ≠ 0)
  held : ∀ c n, c < s.maxChannels → n < 128 → soundsAfter (s.log.filterMap (strike c n)) = true → up c n = true →
    (s.channels c).control MIDI_CTL_SUSTAIN ≠ 0 ∨
      (s.channels c).note n &&& SNDRV_MIDI_NOTE_SOSTENUTO ≠ 0 ∧ (s.channels c).control MIDI_CTL_SOSTENUTO ≠ 0

theorem Inv.correct (inv : s.Inv up) : s.Correct up where
  inside := inv.inside
  alternate c n valid small := (inv.sound c n valid small).alternate
  sounds c n valid small := by
    have sound := inv.sound c n valid small
    exact sound.sounds.trans sound.on_iff.symm
  held c n valid small sounds released := by
    have sound := inv.sound c n valid small
    rw [released] at sound
    exact sound.held (sound.sounds.mp sounds)

theorem inv_alloc (size midiMode : Nat) (gsMasterVolume gsChorusMode gsReverbMode : Byte) :
    (alloc size midiMode gsMasterVolume gsChorusMode gsReverbMode).Inv fun _ _ => false :=
  ⟨rfl, fun _ _ _ _ => ⟨Or.inl rfl, trivial, ⟨fun wrong => absurd wrong Bool.false_ne_true, fun wrong => absurd rfl wrong⟩⟩⟩

instance : Decidable (s.Free c) := inferInstanceAs (Decidable (∀ n < 128, _ = _))

instance (buf : List Byte) : Decidable (s.ResetsAll buf) := inferInstanceAs (Decidable (_ ∧ _ ∧ _ ∧ _ ∨ _ ∧ _ ∧ _ ∧ _ ∧ _))

variable {expand : SndSeqEvent → List Byte} {ev : SndSeqEvent}

instance : Decidable (s.Resets expand ev c) := inferInstanceAs (Decidable ((_ ∨ _) ∧ _ ∧ _ ∨ _ ∧ _ ∧ _ ∧ _))

instance : Decidable (s.Safe expand ev) :=
  decidable_of_iff
    ((ev.type = SNDRV_SEQ_EVENT_CONTROLLER ∨ ev.type = SNDRV_SEQ_EVENT_CONTROL14 →
        ev.data.channel.toNat < s.maxChannels → ev.data.param < 128) ∧
      ∀ c < s.maxChannels, s.Resets expand ev c → s.Free c)
    ⟨fun both => ⟨both.1, both.2⟩, fun safe => ⟨safe.param, safe.free⟩⟩

def play (op : SndMidiOp) (expand : SndSeqEvent → List Byte) (t : SndMidiChannelSet × (Nat → Nat → Bool)) (ev : SndSeqEvent) :
    SndMidiChannelSet × (Nat → Nat → Bool) := (t.1.sndMidiProcessEvent op expand ev, lastKey t.2 ev)

def fresh (size midiMode : Nat) (gsMasterVolume gsChorusMode gsReverbMode : Byte) : SndMidiChannelSet × (Nat → Nat → Bool) :=
  (alloc size midiMode gsMasterVolume gsChorusMode gsReverbMode, fun _ _ => false)

theorem notes_alternate (op : SndMidiOp) (expand : SndSeqEvent → List Byte) (hasOn : op.noteOn = true)
    (hasOff : op.noteOff = true) (ends : op.noteTerminate = true) (size midiMode : Nat)
    (gsMasterVolume gsChorusMode gsReverbMode : Byte) (events : List SndSeqEvent)
    (safe : Throughout (play op expand) (fun t ev _ => t.1.Safe expand ev)
      (fresh size midiMode gsMasterVolume gsChorusMode gsReverbMode) events) :
    Throughout (play op expand) (fun _ _ t => t.1.Correct t.2)
      (fresh size midiMode gsMasterVolume gsChorusMode gsReverbMode) events := by
  apply safe.steps (fun t => t.1.Inv t.2) (inv_alloc ..)
  intro t ev inv safe
  have next := inv.sndMidiProcessEvent hasOn hasOff ends safe
  exact ⟨next.correct, next⟩

def everyCallback : SndMidiOp := ⟨true, true, true, true, true, true, true⟩

def keyEvent (type : Nat) (velocity : Byte) : SndSeqEvent :=
  { blankEvent with
    type := type
    data := ⟨0, 60, velocity, 0, 0, 0, 0, .kernel 0 []⟩ }

def controlEvent (param : Nat) (value : Int) : SndSeqEvent :=
  { blankEvent with
    type := SNDRV_SEQ_EVENT_CONTROLLER
    data := ⟨0, 0, 0, 0, 0, param, value, .kernel 0 []⟩ }

/-- A key is released while the pedal is pressed, and the controllers are reset behind the pedal. -/
theorem notes_alternate_pedal : Throughout (play everyCallback fun _ => []) (fun _ _ t => t.1.Correct t.2) (fresh 1 0 0 0 0)
    [keyEvent SNDRV_SEQ_EVENT_NOTEON 100, controlEvent MIDI_CTL_SUSTAIN 127, keyEvent SNDRV_SEQ_EVENT_NOTEOFF 0,
      controlEvent MIDI_CTL_SUSTAIN 0, controlEvent MIDI_CTL_RESET_CONTROLLERS 0] :=
  notes_alternate everyCallback _ rfl rfl rfl _ _ _ _ _ _ (by decide +kernel)

/-- The reset clears the pedal that held the note, and nothing stops it. -/
theorem reset_sticks : ¬ ∀ (op : SndMidiOp) (expand : SndSeqEvent → List Byte) (_ : op.noteOn = true)
    (_ : op.noteOff = true) (_ : op.noteTerminate = true) (size midiMode : Nat)
    (gsMasterVolume gsChorusMode gsReverbMode : Byte) (events : List SndSeqEvent),
    Throughout (play op expand) (fun _ _ t => t.1.Correct t.2)
      (fresh size midiMode gsMasterVolume gsChorusMode gsReverbMode) events := by
  intro all
  have run := all everyCallback (fun _ => []) rfl rfl rfl 1 0 0 0 0
    [keyEvent SNDRV_SEQ_EVENT_NOTEON 100, controlEvent MIDI_CTL_SUSTAIN 127, keyEvent SNDRV_SEQ_EVENT_NOTEOFF 0,
      controlEvent MIDI_CTL_RESET_CONTROLLERS 0]
  have last := run.2.2.2.1.held 0 60 (by decide +kernel) (by decide) (by decide +kernel) (by decide +kernel)
  revert last
  decide +kernel

end SndMidiChannelSet

end AlsaDriver.Seq
