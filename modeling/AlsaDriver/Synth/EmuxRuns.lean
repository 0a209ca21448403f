import AlsaDriver.Lib.Runs
import AlsaDriver.Synth.Emux

namespace AlsaDriver.Synth

open Function Runs

/-- A voice is silent, or it sounds since a trigger at `ontime`, with a note-off that is still to be answered or not. -/
inductive Phase where
  | silent
  | sounding (ontime : Nat) (owed : Bool)
  deriving DecidableEq

/-- The order of the callbacks for a voice: it is triggered when it is silent and terminated when it sounds, and a note-off
    is answered at another time than that of the trigger. -/
def Phase.next : Phase → VoiceEvent → Option Phase
  | silent, .trigger jiffies => some (sounding jiffies false)
  | sounding ontime _, .release jiffies => if jiffies = ontime then none else some (sounding ontime false)
  | sounding ontime owed, .update => some (sounding ontime owed)
  | sounding _ _, .terminate => some silent
  | sounding ontime _, .off => some (sounding ontime true)
  | phase, .freeVoice => some phase
  | phase, .reset => some phase
  | _, _ => none

def phaseOf (events : List VoiceEvent) : Option Phase := events.foldlM Phase.next .silent

theorem phaseOf_append (events more : List VoiceEvent) :
    phaseOf (events ++ more) = (phaseOf events).bind fun phase => more.foldlM Phase.next phase := List.foldlM_append ..

namespace SndEmuxVoice

def expected (vp : SndEmuxVoice) : Phase :=
  if vp.state = SNDRV_EMUX_ST_ON ∨ vp.state = SNDRV_EMUX_ST_RELEASED then .sounding vp.ontime false
  else if vp.state = SNDRV_EMUX_ST_PENDING then .sounding vp.ontime true
  else .silent

def Known (vp : SndEmuxVoice) : Prop :=
  vp.state = SNDRV_EMUX_ST_OFF ∨ vp.state = SNDRV_EMUX_ST_ON ∨ vp.state = SNDRV_EMUX_ST_RELEASED ∨
    vp.state = SNDRV_EMUX_ST_STANDBY ∨ vp.state = SNDRV_EMUX_ST_PENDING ∨ vp.state = SNDRV_EMUX_ST_LOCKED

variable {vp : SndEmuxVoice}

theorem expected_silent (state : vp.state = SNDRV_EMUX_ST_OFF ∨ vp.state = SNDRV_EMUX_ST_STANDBY ∨ vp.state = SNDRV_EMUX_ST_LOCKED) :
    vp.expected = .silent := by
  unfold expected
  rcases state with state | state | state <;> rw [state] <;> rfl

theorem expected_playing (known : vp.Known) (playing : stateIsPlaying vp.state = true) (ready : vp.state ≠ SNDRV_EMUX_ST_STANDBY) :
    vp.expected = .sounding vp.ontime (decide (vp.state = SNDRV_EMUX_ST_PENDING)) := by
  unfold expected
  rcases known with state | state | state | state | state | state
  · rw [state] at playing
    exact Bool.noConfusion playing
  · rw [state]
    rfl
  · rw [state]
    rfl
  · exact absurd state ready
  · rw [state]
    rfl
  · rw [state] at playing
    exact Bool.noConfusion playing

end SndEmuxVoice

namespace SndEmux

variable {n : Nat} {ops : SndEmuxOperators} {emu emu' : SndEmux n} {v : Fin n}

/-- The callbacks made for the voice `v`. -/
def track (emu : SndEmux n) (v : Fin n) : List VoiceEvent := (emu.log.filter fun entry => entry.1 = v).map Prod.snd

/-- The callbacks of every voice are in order and its state tells where they are; the timer is on its way while a voice is
    pending; and voices stand by on the channel `standby` only. -/
structure Inv (emu : SndEmux n) (standby : Option Nat) : Prop where
  known : ∀ v, (emu.voices v).Known
  phase : ∀ v, phaseOf (emu.track v) = some (emu.voices v).expected
  standby : ∀ v, (emu.voices v).state = SNDRV_EMUX_ST_STANDBY → standby ≠ none ∧ (emu.voices v).chan = standby
  pending : ∀ v, (emu.voices v).state = SNDRV_EMUX_ST_PENDING → emu.timerActive = true
  active : emu.timerActive = true ↔ emu.timer ≠ .idle
  once : emu.requeued = false

variable {standby : Option Nat}

theorem track_append {events : List VoiceEvent} (log : emu'.log = emu.log ++ events.map (v, ·)) (w : Fin n) :
    emu'.track w = if w = v then emu.track w ++ events else emu.track w := by
  unfold track
  rw [log, List.filter_append, List.map_append]
  by_cases same : w = v
  · subst same
    have all : (events.map (w, ·)).filter (fun entry => entry.1 = w) = events.map (w, ·) := by
      rw [List.filter_eq_self]
      intro entry inside
      obtain ⟨event, -, rfl⟩ := List.mem_map.mp inside
      exact decide_eq_true rfl
    rw [if_pos rfl, all, List.map_map]
    exact congrArg _ (List.map_id events)
  · rw [if_neg same]
    have none_ : (events.map (v, ·)).filter (fun entry => entry.1 = w) = [] := by
      rw [List.filter_eq_nil_iff]
      intro entry inside
      obtain ⟨event, -, rfl⟩ := List.mem_map.mp inside
      exact fun wrong => same (of_decide_eq_true wrong).symm
    rw [none_]
    simp

structure Moves (emu emu' : SndEmux n) (v : Fin n) (vp : SndEmuxVoice) (events : List VoiceEvent) : Prop where
  voices : emu'.voices = update emu.voices v vp
  log : emu'.log = emu.log ++ events.map (v, ·)
  timerActive : emu'.timerActive = emu.timerActive
  timer : emu'.timer = emu.timer
  requeued : emu'.requeued = emu.requeued

theorem Inv.change (inv : emu.Inv standby) (v : Fin n) (vp : SndEmuxVoice) (events : List VoiceEvent)
    (moves : Moves emu emu' v vp events) (known : vp.Known)
    (phase : events.foldlM Phase.next (emu.voices v).expected = some vp.expected)
    (ready : vp.state = SNDRV_EMUX_ST_STANDBY → standby ≠ none ∧ vp.chan = standby)
    (pending : vp.state = SNDRV_EMUX_ST_PENDING → emu.timerActive = true) : emu'.Inv standby := by
  have at_ : ∀ w, emu'.voices w = if w = v then vp else emu.voices w := by
    intro w
    rw [moves.voices]
    exact update_apply ..
  refine ⟨fun w => ?_, fun w => ?_, fun w => ?_, fun w => ?_, ?_, moves.requeued.trans inv.once⟩
  · rw [at_]
    split
    · exact known
    · exact inv.known w
  · rw [at_, track_append moves.log]
    by_cases same : w = v
    · subst same
      rw [if_pos rfl, if_pos rfl, phaseOf_append, inv.phase]
      exact phase
    · rw [if_neg same, if_neg same]
      exact inv.phase w
  · rw [at_]
    split
    · exact ready
    · exact inv.standby w
  · rw [at_, moves.timerActive]
    split
    · exact pending
    · exact inv.pending w
  · rw [moves.timerActive, moves.timer]
    exact inv.active

theorem next_release {ontime jiffies : Nat} {owed : Bool} (late : jiffies ≠ ontime) :
    (Phase.sounding ontime owed).next (.release jiffies) = some (.sounding ontime false) := if_neg late

theorem Inv.call (inv : emu.Inv standby) (v : Fin n) {event : VoiceEvent}
    (same : (emu.voices v).expected.next event = some (emu.voices v).expected) : (emu.call v event).Inv standby := by
  refine inv.change v (emu.voices v) [event] ⟨(update_eq_self v emu.voices).symm, rfl, rfl, rfl, rfl⟩ (inv.known v) ?_
    (inv.standby v) (inv.pending v)
  · show ((emu.voices v).expected.next event).bind _ = _
    rw [same]
    rfl

theorem next_neutral {phase : Phase} {event : VoiceEvent} (neutral : event = .freeVoice ∨ event = .reset) :
    phase.next event = some phase := by
  rcases neutral with rfl | rfl <;> cases phase <;> rfl

theorem Inv.modify (inv : emu.Inv standby) (v : Fin n) {f : SndEmuxVoice → SndEmuxVoice} (state : ∀ vp, (f vp).state = vp.state)
    (chan : ∀ vp, (f vp).chan = vp.chan) (ontime : ∀ vp, (f vp).ontime = vp.ontime) : (emu.modify v f).Inv standby := by
  refine inv.change v (f (emu.voices v)) [] ⟨rfl, (List.append_nil _).symm, rfl, rfl, rfl⟩ ?_ ?_ ?_ ?_
  · unfold SndEmuxVoice.Known
    rw [state]
    exact inv.known v
  · show some _ = some _
    unfold SndEmuxVoice.expected
    rw [state, ontime]
  · rw [state, chan]
    exact inv.standby v
  · rw [state]
    exact inv.pending v

theorem Inv.addTimer (inv : emu.Inv standby) (idle : emu.timerActive = false) : emu.addTimer.Inv standby := by
  have stopped : emu.timer = .idle := by
    by_contra running
    exact Bool.false_ne_true (idle.symm.trans (inv.active.mpr running))
  refine ⟨inv.known, inv.phase, inv.standby, fun _ _ => rfl, ⟨fun _ wrong => TimerState.noConfusion wrong, fun _ => rfl⟩, ?_⟩
  show (emu.requeued || emu.timer == .queued) = false
  rw [inv.once, stopped]
  rfl

theorem Inv.ready (inv : emu.Inv none) (v : Fin n) : (emu.voices v).state ≠ SNDRV_EMUX_ST_STANDBY :=
  fun state => (inv.standby v state).1 rfl

theorem Inv.playing (inv : emu.Inv standby) {v : Fin n} (ready : (emu.voices v).state ≠ SNDRV_EMUX_ST_STANDBY)
    (playing : stateIsPlaying (emu.voices v).state = true) :
    (emu.voices v).expected = .sounding (emu.voices v).ontime (decide ((emu.voices v).state = SNDRV_EMUX_ST_PENDING)) :=
  SndEmuxVoice.expected_playing (inv.known v) playing ready

theorem Inv.terminateVoice (inv : emu.Inv none) {v : Fin n} (playing : stateIsPlaying (emu.voices v).state = true) (free : Bool) :
    (emu.terminateVoice ops v free).Inv none := by
  have ended : ({ (emu.call v .terminate).modify v fun vp => { vp with
      time := emu.useTime
      chan := none
      port := none
      state := SNDRV_EMUX_ST_OFF } with useTime := emu.useTime + 1 } : SndEmux n).Inv none := by
    refine inv.change v _ [.terminate] ⟨rfl, rfl, rfl, rfl, rfl⟩ (Or.inl rfl) ?_ ?_ ?_
    · rw [inv.playing (inv.ready v) playing]
      rfl
    · exact fun wrong => absurd (show SNDRV_EMUX_ST_OFF = SNDRV_EMUX_ST_STANDBY from wrong) (by decide)
    · exact fun wrong => absurd (show SNDRV_EMUX_ST_OFF = SNDRV_EMUX_ST_PENDING from wrong) (by decide)
  unfold SndEmux.terminateVoice
  dsimp only
  split
  · exact ended.call v (next_neutral (Or.inl rfl))
  · exact ended

theorem Inv.foldl {α : Type} {step : SndEmux n → α → SndEmux n} (keeps : ∀ emu a, emu.Inv standby → (step emu a).Inv standby)
    (inv : emu.Inv standby) (l : List α) : (l.foldl step emu).Inv standby := by
  induction l generalizing emu with
  | nil => exact inv
  | cons a rest ih => exact ih (keeps emu a inv)

theorem Inv.forVoices (inv : emu.Inv standby) {step : SndEmux n → Fin n → SndEmux n}
    (keeps : ∀ emu v, emu.Inv standby → (step emu v).Inv standby) : (emu.forVoices step).Inv standby :=
  inv.foldl keeps (List.finRange n)

theorem Inv.freeOff (inv : emu.Inv none) (v : Fin n) : (emu.freeOff ops v).Inv none := by
  unfold SndEmux.freeOff
  split
  · dsimp only
    have freed : (if ops.freeVoice then emu.call v .freeVoice else emu).Inv none := by
      split
      · exact inv.call v (next_neutral (Or.inl rfl))
      · exact inv
    split
    · exact freed.call v (next_neutral (Or.inr rfl))
    · exact freed
  · exact inv

theorem Inv.updateVoice (inv : emu.Inv none) (still : Fin n → Bool) (v : Fin n) : (emu.updateVoice still v).Inv none := by
  unfold SndEmux.updateVoice
  dsimp only
  split
  · exact inv
  rename_i playing
  split
  · exact inv
  split
  · exact inv
  · apply inv.call v
    rw [inv.playing (inv.ready v) (Decidable.not_not.mp playing)]
    rfl

theorem Inv.releaseVoice (inv : emu.Inv none) (chan : Nat) (note : Int) (jiffies : Nat) (v : Fin n) :
    (emu.releaseVoice chan note jiffies v).Inv none := by
  unfold SndEmux.releaseVoice
  dsimp only
  split
  · rename_i here
    have sounds := inv.playing (inv.ready v) here.1
    split
    · rename_i soon
      -- the timer comes first here, so that it is on its way when the voice is pending
      have held : ∀ {emu : SndEmux n}, emu.Inv none → (emu.voices v).expected = .sounding (emu.voices v).ontime
          (decide ((emu.voices v).state = SNDRV_EMUX_ST_PENDING)) → emu.timerActive = true →
          ((emu.call v .off).setState v SNDRV_EMUX_ST_PENDING).Inv none := by
        intro emu inv sounds active
        refine inv.change v _ [.off] ⟨rfl, rfl, rfl, rfl, rfl⟩ (Or.inr (Or.inr (Or.inr (Or.inr (Or.inl rfl))))) ?_ ?_ ?_
        · rw [sounds]
          rfl
        · exact fun wrong => absurd (show SNDRV_EMUX_ST_PENDING = SNDRV_EMUX_ST_STANDBY from wrong) (by decide)
        · exact fun _ => active
      split
      · rename_i active
        exact held inv sounds active
      · rename_i active
        exact held (inv.addTimer (Bool.eq_false_iff.mpr active)) sounds rfl
    · rename_i late
      refine inv.change v _ [.off, .release jiffies] ⟨rfl, List.append_assoc .., rfl, rfl, rfl⟩
        (Or.inr (Or.inr (Or.inl rfl))) ?_ ?_ ?_
      · rw [sounds]
        show (Phase.next (.sounding _ true) (.release jiffies)).bind _ = _
        rw [next_release fun same => late same.symm]
        rfl
      · exact fun wrong => absurd (show SNDRV_EMUX_ST_RELEASED = SNDRV_EMUX_ST_STANDBY from wrong) (by decide)
      · exact fun wrong => absurd (show SNDRV_EMUX_ST_RELEASED = SNDRV_EMUX_ST_PENDING from wrong) (by decide)
  · exact inv

/-- `get_voice` gives no voice that stands by. -/
def NotReady (emu : SndEmux n) (zone : ZoneChoice n) : Prop :=
  ∀ v ∈ zone.voice, 0 ≤ zone.ch → (emu.voices v).state ≠ SNDRV_EMUX_ST_STANDBY

theorem Inv.prepareZone {chan : Nat} (inv : emu.Inv (some chan)) (port : Nat) (key : Int) {zone : ZoneChoice n}
    (notReady : emu.NotReady zone) : (emu.prepareZone ops chan port key zone).Inv (some chan) := by
  unfold SndEmux.prepareZone
  cases given : zone.voice with
  | none => exact inv
  | some v =>
    have placed : (emu.modify v fun vp => { vp with ch := zone.ch }).Inv (some chan) :=
      inv.modify v (fun _ => rfl) (fun _ => rfl) fun _ => rfl
    have ready : 0 ≤ zone.ch → ((emu.modify v fun vp => { vp with ch := zone.ch }).voices v).state ≠ SNDRV_EMUX_ST_STANDBY := by
      intro usable
      have same : ((emu.modify v fun vp => { vp with ch := zone.ch }).voices v).state = (emu.voices v).state := by
        unfold SndEmux.modify
        dsimp only
        rw [update_self]
      rw [same]
      exact notReady v given usable
    dsimp only
    generalize (emu.modify v fun vp => { vp with ch := zone.ch }) = emu at placed ready
    split
    · exact placed
    rename_i usable
    have ready := ready (Int.not_lt.mp usable)
    have known : ∀ vp : SndEmuxVoice, vp.state = (if ops.prepare ∧ ¬ zone.ready then SNDRV_EMUX_ST_OFF
        else SNDRV_EMUX_ST_STANDBY) → vp.Known := by
      intro vp state
      unfold SndEmuxVoice.Known
      rw [state]
      split
      · exact Or.inl rfl
      · exact Or.inr (Or.inr (Or.inr (Or.inl rfl)))
    have silent : ∀ vp : SndEmuxVoice, vp.state = (if ops.prepare ∧ ¬ zone.ready then SNDRV_EMUX_ST_OFF
        else SNDRV_EMUX_ST_STANDBY) → vp.expected = .silent := by
      intro vp state
      apply SndEmuxVoice.expected_silent
      rw [state]
      split
      · exact Or.inl rfl
      · exact Or.inr (Or.inl rfl)
    have waits : (if ops.prepare ∧ ¬ zone.ready then SNDRV_EMUX_ST_OFF else SNDRV_EMUX_ST_STANDBY) ≠ SNDRV_EMUX_ST_PENDING := by
      split <;> decide
    by_cases playing : stateIsPlaying (emu.voices v).state = true
    · rw [if_pos playing]
      refine placed.change v _ [.terminate] ⟨rfl, rfl, rfl, rfl, rfl⟩ (known _ rfl) ?_ (fun _ => ⟨Option.some_ne_none chan, rfl⟩)
        fun wrong => absurd wrong waits
      rw [placed.playing ready playing, silent _ rfl]
      rfl
    · rw [if_neg playing]
      refine placed.change v _ [] ⟨rfl, (List.append_nil _).symm, rfl, rfl, rfl⟩ (known _ rfl) ?_
        (fun _ => ⟨Option.some_ne_none chan, rfl⟩) fun wrong => absurd wrong waits
      have before : (emu.voices v).expected = .silent := by
        apply SndEmuxVoice.expected_silent
        rcases placed.known v with state | state | state | state | state | state
        · exact Or.inl state
        · exact absurd (by rw [state]; rfl) playing
        · exact absurd (by rw [state]; rfl) playing
        · exact absurd state ready
        · exact absurd (by rw [state]; rfl) playing
        · exact Or.inr (Or.inr state)
      rw [before, silent _ rfl]
      rfl

theorem Inv.triggerVoice {chan : Nat} (inv : emu.Inv (some chan)) (jiffies : Nat) (v : Fin n) :
    (emu.triggerVoice chan jiffies v).Inv (some chan) := by
  unfold SndEmux.triggerVoice
  split
  · rename_i ready
    refine inv.change v _ [.trigger jiffies] ⟨rfl, rfl, rfl, rfl, rfl⟩ (Or.inr (Or.inl rfl)) ?_
      (fun wrong => absurd (show SNDRV_EMUX_ST_ON = SNDRV_EMUX_ST_STANDBY from wrong) (by decide))
      (fun wrong => absurd (show SNDRV_EMUX_ST_ON = SNDRV_EMUX_ST_PENDING from wrong) (by decide))
    rw [SndEmuxVoice.expected_silent (Or.inr (Or.inl ready.1))]
    rfl
  · exact inv

theorem triggered {chan jiffies : Nat} (inv : emu.Inv (some chan)) (l : List (Fin n)) (w : Fin n)
    (state : ((l.foldl (SndEmux.triggerVoice chan jiffies) emu).voices w).state = SNDRV_EMUX_ST_STANDBY) :
    (emu.voices w).state = SNDRV_EMUX_ST_STANDBY ∧ w ∉ l := by
  induction l generalizing emu with
  | nil => exact ⟨state, List.not_mem_nil⟩
  | cons v rest ih =>
    obtain ⟨before, later⟩ := ih (inv.triggerVoice jiffies v) state
    unfold SndEmux.triggerVoice at before
    split at before
    · have apart : w ≠ v := by
        rintro rfl
        have on_ : (update emu.voices w { emu.voices w with
            state := SNDRV_EMUX_ST_ON
            ontime := jiffies } w).state = SNDRV_EMUX_ST_STANDBY := before
        rw [update_self] at on_
        exact absurd (show SNDRV_EMUX_ST_ON = SNDRV_EMUX_ST_STANDBY from on_) (by decide)
      have same : (update emu.voices v { emu.voices v with
          state := SNDRV_EMUX_ST_ON
          ontime := jiffies } w).state = SNDRV_EMUX_ST_STANDBY := before
      rw [update_of_ne apart] at same
      exact ⟨same, fun inside => (List.mem_cons.mp inside).elim apart later⟩
    · rename_i waits
      refine ⟨before, fun inside => ?_⟩
      rcases List.mem_cons.mp inside with rfl | behind
      · exact waits ⟨before, (inv.standby w before).2⟩
      · exact later behind

theorem Inv.settle {chan : Nat} (inv : emu.Inv (some chan)) (none_ : ∀ v, (emu.voices v).state ≠ SNDRV_EMUX_ST_STANDBY) :
    emu.Inv none :=
  ⟨inv.known, inv.phase, fun v state => absurd state (none_ v), inv.pending, inv.active, inv.once⟩

theorem Inv.sndEmuxNoteOn (inv : emu.Inv none) {chan port : Nat} {key : Int} {zones : List (ZoneChoice n)} (jiffies : Nat)
    (notReady : Throughout (SndEmux.prepareZone ops chan port key) (fun emu zone _ => emu.NotReady zone) emu zones) :
    (emu.sndEmuxNoteOn ops chan port key zones jiffies).Inv none := by
  have prepared : ∀ (zones : List (ZoneChoice n)) (emu : SndEmux n), emu.Inv (some chan) →
      Throughout (SndEmux.prepareZone ops chan port key) (fun emu zone _ => emu.NotReady zone) emu zones →
      (zones.foldl (SndEmux.prepareZone ops chan port key) emu).Inv (some chan) := by
    intro zones
    induction zones with
    | nil => exact fun _ inv _ => inv
    | cons zone rest ih => exact fun emu inv run => ih _ (inv.prepareZone port key run.1) run.2
  have start : emu.Inv (some chan) :=
    ⟨inv.known, inv.phase, fun v state => absurd state (inv.ready v), inv.pending, inv.active, inv.once⟩
  have ready := prepared zones emu start notReady
  have started := ready.forVoices fun emu v inv => inv.triggerVoice jiffies v
  exact started.settle fun v state => (triggered ready _ v state).2 (List.mem_finRange v)

theorem Inv.releasePending {t : SndEmux n × Nat} (inv : t.1.Inv none) (jiffies : Nat) (v : Fin n) :
    (SndEmux.releasePending jiffies t v).1.Inv none := by
  unfold SndEmux.releasePending
  dsimp only
  split
  · rename_i pending
    split
    · exact inv
    · rename_i late
      refine inv.change v _ [.release jiffies] ⟨rfl, rfl, rfl, rfl, rfl⟩ (Or.inr (Or.inr (Or.inl rfl))) ?_
        (fun wrong => absurd (show SNDRV_EMUX_ST_RELEASED = SNDRV_EMUX_ST_STANDBY from wrong) (by decide))
        (fun wrong => absurd (show SNDRV_EMUX_ST_RELEASED = SNDRV_EMUX_ST_PENDING from wrong) (by decide))
      rw [inv.playing (inv.ready v) (by rw [pending]; rfl)]
      show (Phase.next (.sounding _ _) (.release jiffies)).bind _ = _
      rw [next_release fun same => late same.symm]
      rfl
  · exact inv

theorem still_pending {jiffies : Nat} {t : SndEmux n × Nat} {v w : Fin n}
    (pending : ((SndEmux.releasePending jiffies t v).1.voices w).state = SNDRV_EMUX_ST_PENDING) :
    (SndEmux.releasePending jiffies t v).1.voices w = t.1.voices w ∧
      (w = v → (t.1.voices w).ontime = jiffies ∧ 0 < (SndEmux.releasePending jiffies t v).2) := by
  unfold SndEmux.releasePending at pending ⊢
  dsimp only at pending ⊢
  split at pending
  · rename_i before
    rw [if_pos before]
    split at pending
    · rename_i soon
      rw [if_pos soon]
      exact ⟨rfl, fun same => ⟨same ▸ soon, Nat.succ_pos _⟩⟩
    · rename_i late
      rw [if_neg late]
      have apart : w ≠ v := by
        rintro rfl
        have released : (update t.1.voices w { t.1.voices w with state := SNDRV_EMUX_ST_RELEASED } w).state =
            SNDRV_EMUX_ST_PENDING := pending
        rw [update_self] at released
        exact absurd (show SNDRV_EMUX_ST_RELEASED = SNDRV_EMUX_ST_PENDING from released) (by decide)
      exact ⟨update_of_ne apart .., fun same => absurd same apart⟩
  · rename_i other
    rw [if_neg other]
    exact ⟨rfl, fun same => absurd (same ▸ pending) other⟩

theorem Inv.callbackLoop {t : SndEmux n × Nat} (inv : t.1.Inv none) (jiffies : Nat) (l : List (Fin n)) :
    (l.foldl (SndEmux.releasePending jiffies) t).1.Inv none ∧
      (l.foldl (SndEmux.releasePending jiffies) t).1.timer = t.1.timer ∧
      t.2 ≤ (l.foldl (SndEmux.releasePending jiffies) t).2 ∧
      ∀ w, ((l.foldl (SndEmux.releasePending jiffies) t).1.voices w).state = SNDRV_EMUX_ST_PENDING →
        (l.foldl (SndEmux.releasePending jiffies) t).1.voices w = t.1.voices w ∧
          (w ∈ l → (t.1.voices w).ontime = jiffies ∧ 0 < (l.foldl (SndEmux.releasePending jiffies) t).2) := by
  induction l generalizing t with
  | nil => exact ⟨inv, rfl, Nat.le_refl _, fun w _ => ⟨rfl, fun inside => absurd inside List.not_mem_nil⟩⟩
  | cons v rest ih =>
    obtain ⟨inv', timer, more, pending⟩ := ih (inv.releasePending jiffies v)
    have same : (SndEmux.releasePending jiffies t v).1.timer = t.1.timer := by
      unfold SndEmux.releasePending
      dsimp only
      split
      · split <;> rfl
      · rfl
    have step : t.2 ≤ (SndEmux.releasePending jiffies t v).2 := by
      unfold SndEmux.releasePending
      dsimp only
      split
      · split
        · exact Nat.le_succ _
        · exact Nat.le_refl _
      · exact Nat.le_refl _
    refine ⟨inv', timer.trans same, Nat.le_trans step more, fun w state => ?_⟩
    obtain ⟨kept, later⟩ := pending w state
    have middle : ((SndEmux.releasePending jiffies t v).1.voices w).state = SNDRV_EMUX_ST_PENDING := by
      rw [← kept]
      exact state
    obtain ⟨before, here⟩ := still_pending middle
    refine ⟨kept.trans before, fun inside => ?_⟩
    rcases List.mem_cons.mp inside with first | behind
    · exact ⟨(here first).1, Nat.lt_of_lt_of_le (here first).2 more⟩
    · rw [← before]
      exact later behind

/-- Behind the callback, the voices that are still pending were triggered just now, and the timer is on its way again. -/
theorem Inv.timerCallback (inv : emu.Inv none) (firing : emu.timer = .firing) (jiffies : Nat) :
    (emu.sndEmuxTimerCallback jiffies).Inv none ∧
      ∀ w, ((emu.sndEmuxTimerCallback jiffies).voices w).state = SNDRV_EMUX_ST_PENDING →
        ((emu.sndEmuxTimerCallback jiffies).voices w).ontime = jiffies ∧ (emu.sndEmuxTimerCallback jiffies).timer = .queued := by
  obtain ⟨inv', timer, -, pending⟩ := Inv.callbackLoop (t := (emu, 0)) inv jiffies (List.finRange n)
  unfold SndEmux.sndEmuxTimerCallback
  dsimp only
  generalize (List.finRange n).foldl (SndEmux.releasePending jiffies) (emu, 0) = t at inv' timer pending
  have timer : t.1.timer = .firing := timer.trans firing
  split
  · refine ⟨⟨inv'.known, inv'.phase, inv'.standby, fun _ _ => rfl, ⟨fun _ wrong => TimerState.noConfusion wrong, fun _ => rfl⟩, ?_⟩,
      fun w state => ?_⟩
    · show (t.1.requeued || t.1.timer == .queued) = false
      rw [inv'.once, timer]
      rfl
    · obtain ⟨kept, here⟩ := pending w state
      have soon := (here (List.mem_finRange w)).1
      refine ⟨?_, rfl⟩
      show (t.1.voices w).ontime = jiffies
      rw [kept]
      exact soon
  · rename_i none_
    have nobody : ∀ w, (t.1.voices w).state ≠ SNDRV_EMUX_ST_PENDING := by
      intro w state
      have counted := ((pending w state).2 (List.mem_finRange w)).2
      exact none_ (Nat.pos_iff_ne_zero.mp counted)
    exact ⟨⟨inv'.known, inv'.phase, inv'.standby, fun w state => absurd state (nobody w),
      ⟨fun wrong => Bool.noConfusion wrong, fun wrong => absurd rfl wrong⟩, inv'.once⟩, fun w state => absurd state (nobody w)⟩

theorem Inv.terminateIf (inv : emu.Inv none) (v : Fin n) (free : Bool) (matching : Prop) [Decidable matching] :
    (if stateIsPlaying (emu.voices v).state ∧ matching then emu.terminateVoice ops v free else emu).Inv none := by
  split
  · rename_i here
    exact inv.terminateVoice here.1 free
  · exact inv

theorem Inv.setState (inv : emu.Inv none) (v : Fin n) {state : Nat}
    (before : (emu.voices v).state = SNDRV_EMUX_ST_OFF ∨ (emu.voices v).state = SNDRV_EMUX_ST_LOCKED)
    (after : state = SNDRV_EMUX_ST_OFF ∨ state = SNDRV_EMUX_ST_LOCKED) : (emu.setState v state).Inv none := by
  have silent : ∀ vp : SndEmuxVoice, vp.state = SNDRV_EMUX_ST_OFF ∨ vp.state = SNDRV_EMUX_ST_LOCKED → vp.expected = .silent :=
    fun vp state => SndEmuxVoice.expected_silent (state.imp_right Or.inr)
  refine inv.change v _ [] ⟨rfl, (List.append_nil _).symm, rfl, rfl, rfl⟩ ?_ ?_ (fun wrong => ?_) fun wrong => ?_
  · rcases after with rfl | rfl
    · exact Or.inl rfl
    · exact Or.inr (Or.inr (Or.inr (Or.inr (Or.inr rfl))))
  · rw [silent _ before, silent _ after]
    rfl
  · have wrong : state = SNDRV_EMUX_ST_STANDBY := wrong
    rcases after with rfl | rfl <;> exact absurd wrong (by decide)
  · have wrong : state = SNDRV_EMUX_ST_PENDING := wrong
    rcases after with rfl | rfl <;> exact absurd wrong (by decide)

/-- In a note-on, `get_voice` gives no voice that stands by. -/
def Fresh (ops : SndEmuxOperators) (emu : SndEmux n) : EmuxOp n → Prop
  | .noteOn chan port key zones _ =>
    Throughout (SndEmux.prepareZone ops chan port key) (fun emu zone _ => emu.NotReady zone) emu zones
  | _ => True

theorem Inv.exec (inv : emu.Inv none) {op : EmuxOp n} (fresh : emu.Fresh ops op) : (emu.exec ops op).Inv none := by
  cases op with
  | noteOn chan port key zones jiffies => exact inv.sndEmuxNoteOn jiffies fresh
  | noteOff chan note jiffies => exact inv.forVoices fun _ v inv => inv.releaseVoice chan note jiffies v
  | expire =>
    show (if emu.timer = .queued then { emu with timer := .firing } else emu).Inv none
    split
    · rename_i queued
      refine ⟨inv.known, inv.phase, inv.standby, inv.pending, ⟨fun _ wrong => TimerState.noConfusion wrong, fun _ => ?_⟩, inv.once⟩
      exact inv.active.mpr (by rw [queued]; exact fun wrong => TimerState.noConfusion wrong)
    · exact inv
  | timerCallback jiffies =>
    show (if emu.timer = .firing then emu.sndEmuxTimerCallback jiffies else emu).Inv none
    split
    · rename_i firing
      exact (inv.timerCallback firing jiffies).1
    · exact inv
  | keyPress chan note =>
    refine inv.forVoices fun emu v inv => ?_
    split
    · exact inv.updateVoice _ v
    · exact inv
  | updateChannel chan still =>
    refine inv.forVoices fun emu v inv => ?_
    split
    · exact inv.updateVoice still v
    · exact inv
  | updatePort port still =>
    refine inv.forVoices fun emu v inv => ?_
    split
    · exact inv.updateVoice still v
    · exact inv
  | terminateNote note chan => exact inv.forVoices fun emu v inv => inv.terminateIf v true _
  | terminateAll =>
    have each : (emu.forVoices fun emu v =>
        ((if stateIsPlaying (emu.voices v).state then emu.terminateVoice ops v false else emu).freeOff ops v).modify v fun vp =>
          { vp with time := 0 }).Inv none := by
      refine inv.forVoices fun emu v inv => ?_
      have ended : (if stateIsPlaying (emu.voices v).state then emu.terminateVoice ops v false else emu).Inv none := by
        split
        · rename_i playing
          exact inv.terminateVoice playing false
        · exact inv
      exact (ended.freeOff v).modify v (fun _ => rfl) (fun _ => rfl) fun _ => rfl
    exact ⟨each.known, each.phase, each.standby, each.pending, each.active, each.once⟩
  | soundsOffAll port => exact inv.forVoices fun emu v inv => (inv.terminateIf v false _).freeOff v
  | exclusiveNoteOff port exclass => exact inv.forVoices fun emu v inv => inv.terminateIf v false _
  | lockVoice v =>
    show (emu.sndEmuxLockVoice v).Inv none
    unfold SndEmux.sndEmuxLockVoice
    split
    · rename_i off
      exact inv.setState v (Or.inl off) (Or.inr rfl)
    · exact inv
  | unlockVoice v =>
    show (emu.sndEmuxUnlockVoice v).Inv none
    unfold SndEmux.sndEmuxUnlockVoice
    split
    · rename_i locked
      exact inv.setState v (Or.inr locked) (Or.inl rfl)
    · exact inv

/-- The callbacks for each voice are in order, a note-off that is not answered yet is one of a pending voice, a pending
    voice has the timer on its way, and the timer is never added while it is queued. -/
structure Correct (emu : SndEmux n) : Prop where
  ordered : ∀ v, ∃ phase, phaseOf (emu.track v) = some phase
  owed : ∀ v ontime, phaseOf (emu.track v) = some (.sounding ontime true) → (emu.voices v).state = SNDRV_EMUX_ST_PENDING
  pending : ∀ v, (emu.voices v).state = SNDRV_EMUX_ST_PENDING → emu.timer ≠ .idle
  once : emu.requeued = false

def Answered (emu : SndEmux n) (op : EmuxOp n) (emu' : SndEmux n) : Prop :=
  ∀ jiffies, op = .timerCallback jiffies → emu.timer = .firing →
    ∀ v, (emu'.voices v).state = SNDRV_EMUX_ST_PENDING → (emu'.voices v).ontime = jiffies ∧ emu'.timer = .queued

theorem Inv.correct (inv : emu.Inv none) : emu.Correct where
  ordered v := ⟨_, inv.phase v⟩
  owed v ontime phase := by
    have expected := Option.some.inj ((inv.phase v).symm.trans phase)
    unfold SndEmuxVoice.expected at expected
    split at expected
    · exact Bool.noConfusion (Phase.sounding.inj expected).2
    · split at expected
      · assumption
      · exact Phase.noConfusion expected
  pending v state := inv.active.mp (inv.pending v state)
  once := inv.once

theorem inv_init : (init : SndEmux n).Inv none :=
  ⟨fun _ => Or.inl rfl, fun _ => rfl, fun _ wrong => absurd (show SNDRV_EMUX_ST_OFF = SNDRV_EMUX_ST_STANDBY from wrong) (by decide),
    fun _ wrong => absurd (show SNDRV_EMUX_ST_OFF = SNDRV_EMUX_ST_PENDING from wrong) (by decide),
    ⟨fun wrong => Bool.noConfusion wrong, fun wrong => absurd rfl wrong⟩, rfl⟩

theorem voices_released (ops : SndEmuxOperators) (run : List (EmuxOp n))
    (fresh : Throughout (SndEmux.exec ops) (fun emu op _ => emu.Fresh ops op) init run) :
    Throughout (SndEmux.exec ops) (fun emu op emu' => emu'.Correct ∧ emu.Answered op emu') init run := by
  apply fresh.steps (fun emu => emu.Inv none) inv_init
  intro emu op inv fresh
  have next := inv.exec fresh
  refine ⟨⟨next.correct, fun jiffies same firing v state => ?_⟩, next⟩
  subst same
  have callback : emu.exec ops (.timerCallback jiffies) = emu.sndEmuxTimerCallback jiffies := if_pos firing
  rw [callback] at state ⊢
  exact (inv.timerCallback firing jiffies).2 v state

def allOperators : SndEmuxOperators := ⟨true, true, true⟩

def zone (v : Fin 2) : ZoneChoice 2 := ⟨some v, v.val, true, 0⟩

/-- A note with two zones that is released at once, by the timer. -/
theorem voices_released_soon : Throughout (SndEmux.exec allOperators) (fun emu op emu' => emu'.Correct ∧ emu.Answered op emu') init
    [.noteOn 0 0 60 [zone 0, zone 1] 5, .noteOff 0 60 5, .expire, .timerCallback 6] := by
  apply voices_released
  refine ⟨⟨?_, ?_, trivial⟩, trivial, trivial, trivial, trivial⟩
  · intro v given _
    obtain rfl := Option.some.inj given
    decide +kernel
  · intro v given _
    obtain rfl := Option.some.inj given
    decide +kernel

/-- `get_voice` gives the voice of the first zone for the second one, and it is terminated before it is triggered. -/
theorem standby_terminated : ¬ ∀ (n : Nat) (ops : SndEmuxOperators) (run : List (EmuxOp n)),
    Throughout (SndEmux.exec ops) (fun emu op emu' => emu'.Correct ∧ emu.Answered op emu') init run := by
  intro all
  have run := all 2 allOperators [.noteOn 0 0 60 [zone 0, zone 0] 5]
  obtain ⟨phase, ordered⟩ := run.1.1.ordered 0
  have broken : phaseOf ((SndEmux.exec allOperators init (.noteOn 0 0 60 [zone 0, zone 0] 5)).track 0) = none := by
    decide +kernel
  exact Option.some_ne_none phase (ordered.symm.trans broken)

end SndEmux

end AlsaDriver.Synth
