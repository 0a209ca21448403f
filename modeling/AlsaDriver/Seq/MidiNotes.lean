import Mathlib.Data.List.Nodup
import AlsaDriver.Seq.MidiEmul

namespace AlsaDriver.Seq

open Function

/-- Starts and stops take turns; `sounding` tells whether the note sounds before them. -/
def Alternate : Bool → List Bool → Prop
  | _, [] => True
  | sounding, b :: rest => b ≠ sounding ∧ Alternate b rest

def soundsAfter (strikes : List Bool) : Bool := strikes.getLast?.getD false

theorem alternate_append (sounding b : Bool) (l : List Bool) :
    Alternate sounding (l ++ [b]) ↔ Alternate sounding l ∧ b ≠ l.getLast?.getD sounding := by
  induction l generalizing sounding with
  | nil => simp [Alternate]
  | cons x rest ih =>
    rw [List.cons_append, Alternate, Alternate, ih, List.getLast?_cons, and_assoc]
    cases rest.getLast? <;> rfl

theorem soundsAfter_append (l : List Bool) (b : Bool) : soundsAfter (l ++ [b]) = b := by
  unfold soundsAfter
  rw [List.getLast?_append, List.getLast?_singleton]
  rfl

/-- `some true` where the callback starts the note, `some false` where it stops it. -/
def strike (ch n : Nat) : MidiCallback → Option Bool
  | .noteOn c m _ => if c = ch ∧ m = n then some true else none
  | .noteOff c m _ => if c = ch ∧ m = n then some false else none
  | .noteTerminate c m => if c = ch ∧ m = n then some false else none
  | _ => none

structure NoteView where
  flags : Byte
  strikes : List Bool

namespace NoteView

def stop (v : NoteView) : NoteView := ⟨0, v.strikes ++ [false]⟩

/-- `note_off` -/
def keyOff (v : NoteView) (hold : Byte) : NoteView :=
  if hold ≠ 0 then { v with flags := v.flags ||| SNDRV_MIDI_NOTE_RELEASED }
  else if v.flags &&& SNDRV_MIDI_NOTE_SOSTENUTO ≠ 0 then { v with flags := v.flags ||| SNDRV_MIDI_NOTE_RELEASED }
  else v.stop

def sustainOff (v : NoteView) : NoteView := if v.flags &&& SNDRV_MIDI_NOTE_RELEASED ≠ 0 then v.stop else v

def sostenutoOn (v : NoteView) : NoteView :=
  if v.flags &&& SNDRV_MIDI_NOTE_ON ≠ 0 then { v with flags := v.flags ||| SNDRV_MIDI_NOTE_SOSTENUTO } else v

def sostenutoOff (v : NoteView) : NoteView :=
  if v.flags &&& SNDRV_MIDI_NOTE_SOSTENUTO ≠ 0 then
    if v.flags &&& ~~~SNDRV_MIDI_NOTE_SOSTENUTO &&& SNDRV_MIDI_NOTE_RELEASED ≠ 0 then v.stop
    else { v with flags := v.flags &&& ~~~SNDRV_MIDI_NOTE_SOSTENUTO }
  else v

def terminate (v : NoteView) : NoteView := if v.flags ≠ 0 then v.stop else v

def allNotesOff (v : NoteView) (hold : Byte) : NoteView := if v.flags = SNDRV_MIDI_NOTE_ON then v.keyOff hold else v

def Flags (hold sostenuto : Byte) (up : Bool) (flags : Byte) : Prop :=
  flags = 0 ∨ flags = 1 ∧ up = false ∨ flags = 3 ∧ hold ≠ 0 ∨ flags = 5 ∧ up = false ∧ sostenuto ≠ 0 ∨
    flags = 7 ∧ sostenuto ≠ 0

structure Sound (hold sostenuto : Byte) (up : Bool) (v : NoteView) : Prop where
  flags : Flags hold sostenuto up v.flags
  alternate : Alternate false v.strikes
  sounds : soundsAfter v.strikes = true ↔ v.flags ≠ 0

variable {hold sostenuto hold' sostenuto' : Byte} {up up' : Bool} {v : NoteView}

theorem Sound.on_iff (sound : Sound hold sostenuto up v) : v.flags &&& SNDRV_MIDI_NOTE_ON ≠ 0 ↔ v.flags ≠ 0 := by
  rcases sound.flags with none_ | ⟨one, -⟩ | ⟨three, -⟩ | ⟨five, -⟩ | ⟨seven, -⟩
  · rw [none_]; decide
  · rw [one]; decide
  · rw [three]; decide
  · rw [five]; decide
  · rw [seven]; decide

theorem Sound.held (sound : Sound hold sostenuto true v) (sounds : v.flags ≠ 0) :
    hold ≠ 0 ∨ v.flags &&& SNDRV_MIDI_NOTE_SOSTENUTO ≠ 0 ∧ sostenuto ≠ 0 := by
  rcases sound.flags with none_ | ⟨-, down⟩ | ⟨-, held⟩ | ⟨-, down, -⟩ | ⟨seven, captured⟩
  · exact absurd none_ sounds
  · exact Bool.noConfusion down
  · exact Or.inl held
  · exact Bool.noConfusion down
  · exact Or.inr ⟨by rw [seven]; decide, captured⟩

theorem Sound.stop (sound : Sound hold sostenuto up v) (sounds : v.flags ≠ 0) : Sound hold' sostenuto' up' v.stop := by
  have last : soundsAfter v.strikes = true := sound.sounds.mpr sounds
  refine ⟨Or.inl rfl, (alternate_append ..).mpr ⟨sound.alternate, fun same => Bool.false_ne_true (same.trans last)⟩, ?_⟩
  show soundsAfter (v.strikes ++ [false]) = true ↔ (0 : Byte) ≠ 0
  rw [soundsAfter_append]
  exact ⟨fun wrong => absurd wrong Bool.false_ne_true, fun wrong => absurd rfl wrong⟩

theorem Sound.start (sound : Sound hold sostenuto up v) (silent : v.flags = 0) :
    Sound hold' sostenuto' false ⟨SNDRV_MIDI_NOTE_ON, v.strikes ++ [true]⟩ := by
  have last : soundsAfter v.strikes ≠ true := fun sounds => sound.sounds.mp sounds silent
  refine ⟨Or.inr (Or.inl ⟨rfl, rfl⟩), (alternate_append ..).mpr ⟨sound.alternate, fun same => last same.symm⟩, ?_⟩
  show soundsAfter (v.strikes ++ [true]) = true ↔ (1 : Byte) ≠ 0
  rw [soundsAfter_append]
  exact ⟨fun _ => by decide, fun _ => rfl⟩

theorem Sound.mark (sound : Sound hold sostenuto up v) {flags : Byte} (sounds : v.flags ≠ 0) (some_ : flags ≠ 0)
    (allowed : Flags hold' sostenuto' up' flags) : Sound hold' sostenuto' up' { v with flags := flags } :=
  ⟨allowed, sound.alternate, ⟨fun _ => some_, fun _ => sound.sounds.mpr sounds⟩⟩

theorem Sound.same (sound : Sound hold sostenuto up v) (allowed : Flags hold' sostenuto' up' v.flags) :
    Sound hold' sostenuto' up' v := ⟨allowed, sound.alternate, sound.sounds⟩

theorem Sound.press (sound : Sound hold sostenuto up v) (pressed : hold' ≠ 0) : Sound hold' sostenuto up v := by
  rcases sound.flags with none_ | one | ⟨three, -⟩ | five | seven
  · exact sound.same (Or.inl none_)
  · exact sound.same (Or.inr (Or.inl one))
  · exact sound.same (Or.inr (Or.inr (Or.inl ⟨three, pressed⟩)))
  · exact sound.same (Or.inr (Or.inr (Or.inr (Or.inl five))))
  · exact sound.same (Or.inr (Or.inr (Or.inr (Or.inr seven))))

theorem Sound.keyOff (sound : Sound hold sostenuto up v) (sounds : v.flags ≠ 0) : Sound hold sostenuto up' (v.keyOff hold) := by
  unfold NoteView.keyOff
  by_cases held : hold ≠ 0
  · rw [if_pos held]
    rcases sound.flags with none_ | ⟨one, -⟩ | ⟨three, -⟩ | ⟨five, -, captured⟩ | ⟨seven, captured⟩
    · exact absurd none_ sounds
    · exact sound.mark sounds (by rw [one]; decide) (Or.inr (Or.inr (Or.inl ⟨by rw [one]; rfl, held⟩)))
    · exact sound.mark sounds (by rw [three]; decide) (Or.inr (Or.inr (Or.inl ⟨by rw [three]; rfl, held⟩)))
    · exact sound.mark sounds (by rw [five]; decide) (Or.inr (Or.inr (Or.inr (Or.inr ⟨by rw [five]; rfl, captured⟩))))
    · exact sound.mark sounds (by rw [seven]; decide) (Or.inr (Or.inr (Or.inr (Or.inr ⟨by rw [seven]; rfl, captured⟩))))
  · rw [if_neg held]
    rcases sound.flags with none_ | ⟨one, -⟩ | ⟨-, pressed⟩ | ⟨five, -, captured⟩ | ⟨seven, captured⟩
    · exact absurd none_ sounds
    · rw [if_neg (by rw [one]; decide)]
      exact sound.stop sounds
    · exact absurd pressed held
    · rw [if_pos (by rw [five]; decide)]
      exact sound.mark sounds (by rw [five]; decide) (Or.inr (Or.inr (Or.inr (Or.inr ⟨by rw [five]; rfl, captured⟩))))
    · rw [if_pos (by rw [seven]; decide)]
      exact sound.mark sounds (by rw [seven]; decide) (Or.inr (Or.inr (Or.inr (Or.inr ⟨by rw [seven]; rfl, captured⟩))))

theorem Sound.sustainOff (sound : Sound hold sostenuto up v) : Sound hold' sostenuto up v.sustainOff := by
  unfold NoteView.sustainOff
  rcases sound.flags with none_ | ⟨one, down⟩ | ⟨three, -⟩ | ⟨five, down, captured⟩ | ⟨seven, -⟩
  · rw [if_neg (by rw [none_]; decide)]
    exact sound.same (Or.inl none_)
  · rw [if_neg (by rw [one]; decide)]
    exact sound.same (Or.inr (Or.inl ⟨one, down⟩))
  · rw [if_pos (by rw [three]; decide)]
    exact sound.stop (by rw [three]; decide)
  · rw [if_neg (by rw [five]; decide)]
    exact sound.same (Or.inr (Or.inr (Or.inr (Or.inl ⟨five, down, captured⟩))))
  · rw [if_pos (by rw [seven]; decide)]
    exact sound.stop (by rw [seven]; decide)

theorem Sound.sostenutoOn (sound : Sound hold sostenuto up v) (pressed : sostenuto' ≠ 0) :
    Sound hold sostenuto' up v.sostenutoOn := by
  unfold NoteView.sostenutoOn
  rcases sound.flags with none_ | ⟨one, down⟩ | ⟨three, -⟩ | ⟨five, down, -⟩ | ⟨seven, -⟩
  · rw [if_neg (by rw [none_]; decide)]
    exact sound.same (Or.inl none_)
  · rw [if_pos (by rw [one]; decide)]
    exact sound.mark (by rw [one]; decide) (by rw [one]; decide)
      (Or.inr (Or.inr (Or.inr (Or.inl ⟨by rw [one]; rfl, down, pressed⟩))))
  · rw [if_pos (by rw [three]; decide)]
    exact sound.mark (by rw [three]; decide) (by rw [three]; decide)
      (Or.inr (Or.inr (Or.inr (Or.inr ⟨by rw [three]; rfl, pressed⟩))))
  · rw [if_pos (by rw [five]; decide)]
    exact sound.mark (by rw [five]; decide) (by rw [five]; decide)
      (Or.inr (Or.inr (Or.inr (Or.inl ⟨by rw [five]; rfl, down, pressed⟩))))
  · rw [if_pos (by rw [seven]; decide)]
    exact sound.mark (by rw [seven]; decide) (by rw [seven]; decide)
      (Or.inr (Or.inr (Or.inr (Or.inr ⟨by rw [seven]; rfl, pressed⟩))))

theorem Sound.sostenutoOff (sound : Sound hold sostenuto up v) : Sound hold sostenuto' up v.sostenutoOff := by
  unfold NoteView.sostenutoOff
  rcases sound.flags with none_ | ⟨one, down⟩ | ⟨three, held⟩ | ⟨five, down, -⟩ | ⟨seven, -⟩
  · rw [if_neg (by rw [none_]; decide)]
    exact sound.same (Or.inl none_)
  · rw [if_neg (by rw [one]; decide)]
    exact sound.same (Or.inr (Or.inl ⟨one, down⟩))
  · rw [if_neg (by rw [three]; decide)]
    exact sound.same (Or.inr (Or.inr (Or.inl ⟨three, held⟩)))
  · rw [if_pos (by rw [five]; decide), if_neg (by rw [five]; decide)]
    exact sound.mark (by rw [five]; decide) (by rw [five]; decide) (Or.inr (Or.inl ⟨by rw [five]; rfl, down⟩))
  · rw [if_pos (by rw [seven]; decide), if_pos (by rw [seven]; decide)]
    exact sound.stop (by rw [seven]; decide)

theorem Sound.terminate (sound : Sound hold sostenuto up v) : Sound hold sostenuto up v.terminate := by
  unfold NoteView.terminate
  split
  · rename_i sounds
    exact sound.stop sounds
  · exact sound

theorem Sound.allNotesOff (sound : Sound hold sostenuto up v) : Sound hold sostenuto up (v.allNotesOff hold) := by
  unfold NoteView.allNotesOff
  split
  · rename_i down
    exact sound.keyOff (by rw [down]; decide)
  · exact sound

theorem Sound.reset (sound : Sound hold sostenuto up v)
    (free : v.flags &&& (SNDRV_MIDI_NOTE_RELEASED ||| SNDRV_MIDI_NOTE_SOSTENUTO) = 0) : Sound hold' sostenuto' up v := by
  rcases sound.flags with none_ | ⟨one, down⟩ | ⟨three, -⟩ | ⟨five, -⟩ | ⟨seven, -⟩
  · exact sound.same (Or.inl none_)
  · exact sound.same (Or.inr (Or.inl ⟨one, down⟩))
  · exact absurd free (by rw [three]; decide)
  · exact absurd free (by rw [five]; decide)
  · exact absurd free (by rw [seven]; decide)

end NoteView

namespace SndMidiChannelSet

variable {op : SndMidiOp} {s s' : SndMidiChannelSet} {ch c n : Nat}

/-- The note `n` of channel `c`. -/
def view (s : SndMidiChannelSet) (c n : Nat) : NoteView := ⟨(s.channels c).note n, s.log.filterMap (strike c n)⟩

structure SameControls (s s' : SndMidiChannelSet) : Prop where
  control : ∀ c, (s'.channels c).control = (s.channels c).control
  maxChannels : s'.maxChannels = s.maxChannels
  overrun : s'.overrun = s.overrun

theorem SameControls.refl (s : SndMidiChannelSet) : SameControls s s := ⟨fun _ => rfl, rfl, rfl⟩

theorem SameControls.trans {s'' : SndMidiChannelSet} (first : SameControls s s') (second : SameControls s' s'') :
    SameControls s s'' :=
  ⟨fun c => (second.control c).trans (first.control c), second.maxChannels.trans first.maxChannels,
    second.overrun.trans first.overrun⟩

theorem sameControls_call (has : Bool) (callback : MidiCallback) : SameControls s (s.call has callback) := by
  unfold call
  split
  · exact ⟨fun _ => rfl, rfl, rfl⟩
  · exact SameControls.refl s

theorem channels_modify (f : SndMidiChannel → SndMidiChannel) :
    (s.modify ch f).channels c = if c = ch then f (s.channels ch) else s.channels c := update_apply ..

theorem modify_aside (f : SndMidiChannel → SndMidiChannel) (notes : ∀ chan, (f chan).note = chan.note)
    (controls : ∀ chan, (f chan).control = chan.control) :
    SameControls s (s.modify ch f) ∧ ∀ c n, (s.modify ch f).view c n = s.view c n := by
  refine ⟨⟨fun c => ?_, rfl, rfl⟩, fun c n => ?_⟩
  · rw [channels_modify]
    split
    · rename_i same
      rw [controls, same]
    · rfl
  · unfold view
    rw [channels_modify]
    split
    · rename_i same
      rw [notes, same]
      rfl
    · rfl

theorem sameControls_setNote (note : Nat) (flags : Byte) : SameControls s (s.setNote ch note flags) := by
  refine ⟨fun c => ?_, rfl, rfl⟩
  unfold setNote
  rw [channels_modify]
  split
  · rename_i same
    rw [same]
  · rfl

theorem view_call (callback : MidiCallback) :
    (s.call true callback).view c n = ⟨(s.view c n).flags, (s.view c n).strikes ++ (strike c n callback).toList⟩ := by
  unfold view call
  rw [if_pos rfl]
  cases same : strike c n callback with
  | none => simp [same]
  | some b => simp [same]

theorem view_call_none (has : Bool) {callback : MidiCallback} (other : strike c n callback = none) :
    (s.call has callback).view c n = s.view c n := by
  cases has with
  | false => rfl
  | true =>
    rw [view_call, other]
    exact congrArg (NoteView.mk _) (List.append_nil _)

theorem view_setNote (note : Nat) (flags : Byte) :
    (s.setNote ch note flags).view c n = if c = ch ∧ n = note then ⟨flags, (s.view ch note).strikes⟩ else s.view c n := by
  unfold view setNote modify
  by_cases same : c = ch
  · subst same
    by_cases here : n = note
    · subst here
      simp
    · simp [here]
  · simp [same]

theorem view_stop (note : Nat) (vel : Byte) : ((s.setNote ch note 0).call true (.noteOff ch note vel)).view c n =
    if c = ch ∧ n = note then (s.view ch note).stop else s.view c n := by
  rw [view_call, view_setNote]
  by_cases here : c = ch ∧ n = note
  · rw [if_pos here, if_pos here]
    have told : strike c n (.noteOff ch note vel) = some false := if_pos ⟨here.1.symm, here.2.symm⟩
    rw [told]
    rfl
  · rw [if_neg here, if_neg here]
    have told : strike c n (.noteOff ch note vel) = none := if_neg fun same => here ⟨same.1.symm, same.2.symm⟩
    rw [told]
    exact congrArg (NoteView.mk _) (List.append_nil _)

theorem view_start (note : Nat) (vel : Byte) :
    ((s.setNote ch note SNDRV_MIDI_NOTE_ON).call true (.noteOn ch note vel)).view c n =
      if c = ch ∧ n = note then ⟨SNDRV_MIDI_NOTE_ON, (s.view ch note).strikes ++ [true]⟩ else s.view c n := by
  rw [view_call, view_setNote]
  by_cases here : c = ch ∧ n = note
  · rw [if_pos here, if_pos here]
    have told : strike c n (.noteOn ch note vel) = some true := if_pos ⟨here.1.symm, here.2.symm⟩
    rw [told]
    rfl
  · rw [if_neg here, if_neg here]
    have told : strike c n (.noteOn ch note vel) = none := if_neg fun same => here ⟨same.1.symm, same.2.symm⟩
    rw [told]
    exact congrArg (NoteView.mk _) (List.append_nil _)

theorem view_keep (note : Nat) : s.view c n = if c = ch ∧ n = note then s.view ch note else s.view c n := by
  split
  · rename_i here
    rw [here.1, here.2]
  · rfl

theorem sameControls_stop (note : Nat) (flags : Byte) (has : Bool) (callback : MidiCallback) :
    SameControls s ((s.setNote ch note flags).call has callback) :=
  (sameControls_setNote note flags).trans (sameControls_call has callback)

/-- A step that does `f` to one note of a channel, in terms of its controllers, and nothing else that a note sees. -/
structure Local (ch : Nat) (f : (Nat → Byte) → NoteView → NoteView) (step : SndMidiChannelSet → Nat → SndMidiChannelSet) :
    Prop where
  view : ∀ s i c n, (step s i).view c n =
    if c = ch ∧ n = i then f (s.channels ch).control (s.view ch i) else s.view c n
  controls : ∀ s i, SameControls s (step s i)

variable {f : (Nat → Byte) → NoteView → NoteView} {step : SndMidiChannelSet → Nat → SndMidiChannelSet}

theorem Local.foldl (local_ : Local ch f step) {l : List Nat} (nodup : l.Nodup) :
    SameControls s (l.foldl step s) ∧ ∀ c n, (l.foldl step s).view c n =
      if c = ch ∧ n ∈ l then f (s.channels ch).control (s.view ch n) else s.view c n := by
  induction l generalizing s with
  | nil =>
    refine ⟨SameControls.refl s, fun c n => ?_⟩
    rw [if_neg (fun inside => List.not_mem_nil inside.2)]
    rfl
  | cons i rest ih =>
    obtain ⟨fresh, nodup⟩ := List.nodup_cons.mp nodup
    have first := local_.controls s i
    obtain ⟨controls, views⟩ := ih (s := step s i) nodup
    refine ⟨first.trans controls, fun c n => ?_⟩
    rw [List.foldl_cons, views, local_.view, local_.view, first.control]
    by_cases here : c = ch ∧ n = i
    · obtain ⟨rfl, rfl⟩ := here
      rw [if_neg (fun inside => fresh inside.2), if_pos ⟨rfl, rfl⟩, if_pos ⟨rfl, List.mem_cons_self⟩]
    · rw [if_neg here]
      by_cases later : c = ch ∧ n ∈ rest
      · have ne : ¬ (ch = ch ∧ n = i) := fun same => fresh (same.2 ▸ later.2)
        rw [if_pos later, if_neg ne, if_pos ⟨later.1, List.mem_cons_of_mem i later.2⟩]
      · rw [if_neg later, if_neg]
        rintro ⟨same, inside⟩
        rcases List.mem_cons.mp inside with first | behind
        · exact here ⟨same, first⟩
        · exact later ⟨same, behind⟩

theorem Local.forNotes (local_ : Local ch f step) : SameControls s (s.forNotes step) ∧ ∀ c n, n < 128 →
    (s.forNotes step).view c n = if c = ch then f (s.channels ch).control (s.view ch n) else s.view c n := by
  obtain ⟨controls, views⟩ := local_.foldl (s := s) (List.nodup_range (n := 128))
  refine ⟨controls, fun c n small => ?_⟩
  have member : c = ch ∧ n ∈ List.range 128 ↔ c = ch := by
    rw [List.mem_range]
    exact ⟨fun both => both.1, fun same => ⟨same, small⟩⟩
  rw [SndMidiChannelSet.forNotes, views]
  simp only [member]

theorem local_noteOff (has : op.noteOff = true) (vel : Byte) :
    Local ch (fun control v => v.keyOff (control MIDI_CTL_SUSTAIN)) fun s note => s.noteOff op ch note vel := by
  refine ⟨fun s note c n => ?_, fun s note => ?_⟩
  · show (s.noteOff op ch note vel).view c n = if _ then NoteView.keyOff ⟨(s.channels ch).note note, _⟩ _ else _
    unfold noteOff NoteView.keyOff
    rw [has]
    dsimp only
    by_cases held : (s.channels ch).control MIDI_CTL_SUSTAIN ≠ 0
    · rw [if_pos held, if_pos held]
      exact view_setNote ..
    · rw [if_neg held, if_neg held]
      by_cases captured : (s.channels ch).note note &&& SNDRV_MIDI_NOTE_SOSTENUTO ≠ 0
      · rw [if_pos captured, if_pos captured]
        exact view_setNote ..
      · rw [if_neg captured, if_neg captured]
        exact view_stop ..
  · unfold noteOff
    dsimp only
    split
    · exact sameControls_setNote ..
    · split
      · exact sameControls_setNote ..
      · exact sameControls_stop ..

theorem local_sustainOff (has : op.noteOff = true) :
    Local ch (fun _ => NoteView.sustainOff) fun s note => s.sustainOff op ch note := by
  refine ⟨fun s note c n => ?_, fun s note => ?_⟩
  · show (s.sustainOff op ch note).view c n = if _ then NoteView.sustainOff ⟨(s.channels ch).note note, _⟩ else _
    unfold sustainOff NoteView.sustainOff
    rw [has]
    by_cases released : (s.channels ch).note note &&& SNDRV_MIDI_NOTE_RELEASED ≠ 0
    · rw [if_pos released, if_pos released]
      exact view_stop ..
    · rw [if_neg released, if_neg released]
      exact view_keep note
  · unfold sustainOff
    split
    · exact sameControls_stop ..
    · exact SameControls.refl s

theorem local_sostenutoOn : Local ch (fun _ => NoteView.sostenutoOn) fun s note => s.sostenutoOn ch note := by
  refine ⟨fun s note c n => ?_, fun s note => ?_⟩
  · show (s.sostenutoOn ch note).view c n = if _ then NoteView.sostenutoOn ⟨(s.channels ch).note note, _⟩ else _
    unfold sostenutoOn NoteView.sostenutoOn
    dsimp only
    by_cases sounds : (s.channels ch).note note &&& SNDRV_MIDI_NOTE_ON ≠ 0
    · rw [if_pos sounds, if_pos sounds]
      exact view_setNote ..
    · rw [if_neg sounds, if_neg sounds]
      exact view_keep note
  · unfold sostenutoOn
    dsimp only
    split
    · exact sameControls_setNote ..
    · exact SameControls.refl s

theorem local_sostenutoOff (has : op.noteOff = true) :
    Local ch (fun _ => NoteView.sostenutoOff) fun s note => s.sostenutoOff op ch note := by
  refine ⟨fun s note c n => ?_, fun s note => ?_⟩
  · show (s.sostenutoOff op ch note).view c n = if _ then NoteView.sostenutoOff ⟨(s.channels ch).note note, _⟩ else _
    unfold sostenutoOff NoteView.sostenutoOff
    rw [has]
    dsimp only
    by_cases captured : (s.channels ch).note note &&& SNDRV_MIDI_NOTE_SOSTENUTO ≠ 0
    · rw [if_pos captured, if_pos captured]
      by_cases released : (s.channels ch).note note &&& ~~~SNDRV_MIDI_NOTE_SOSTENUTO &&& SNDRV_MIDI_NOTE_RELEASED ≠ 0
      · rw [if_pos released, if_pos released]
        exact view_stop ..
      · rw [if_neg released, if_neg released]
        exact view_setNote ..
    · rw [if_neg captured, if_neg captured]
      exact view_keep note
  · unfold sostenutoOff
    dsimp only
    split
    · split
      · exact sameControls_stop ..
      · exact sameControls_setNote ..
    · exact SameControls.refl s

theorem local_terminate (has : op.noteTerminate = true) :
    Local ch (fun _ => NoteView.terminate) fun s note => s.terminate op ch note := by
  refine ⟨fun s note c n => ?_, fun s note => ?_⟩
  · show (s.terminate op ch note).view c n = if _ then NoteView.terminate ⟨(s.channels ch).note note, _⟩ else _
    unfold terminate NoteView.terminate
    rw [has]
    by_cases sounds : (s.channels ch).note note ≠ 0
    · rw [if_pos sounds, if_pos sounds, view_setNote, view_call, view_call]
      by_cases here : c = ch ∧ n = note
      · rw [if_pos here, if_pos here]
        have told : strike ch note (.noteTerminate ch note) = some false := if_pos ⟨rfl, rfl⟩
        rw [told]
        rfl
      · rw [if_neg here, if_neg here]
        have told : strike c n (.noteTerminate ch note) = none := if_neg fun same => here ⟨same.1.symm, same.2.symm⟩
        rw [told]
        exact congrArg (NoteView.mk _) (List.append_nil _)
    · rw [if_neg sounds, if_neg sounds]
      exact view_keep note
  · unfold terminate
    split
    · exact (sameControls_call ..).trans (sameControls_setNote ..)
    · exact SameControls.refl s

theorem local_allNotesOff (has : op.noteOff = true) : Local ch (fun control v => v.allNotesOff (control MIDI_CTL_SUSTAIN))
    fun s note => if (s.channels ch).note note = SNDRV_MIDI_NOTE_ON then s.noteOff op ch note 0 else s := by
  refine ⟨fun s note c n => ?_, fun s note => ?_⟩
  · show _ = if _ then NoteView.allNotesOff ⟨(s.channels ch).note note, _⟩ _ else _
    unfold NoteView.allNotesOff
    by_cases down : (s.channels ch).note note = SNDRV_MIDI_NOTE_ON
    · rw [if_pos down, if_pos down]
      exact (local_noteOff has 0).view s note c n
    · rw [if_neg down, if_neg down]
      exact view_keep note
  · split
    · exact (local_noteOff has 0).controls s note
    · exact SameControls.refl s

end SndMidiChannelSet

end AlsaDriver.Seq
