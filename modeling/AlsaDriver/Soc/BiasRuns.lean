import AlsaDriver.Lib.Runs
import AlsaDriver.Soc.Bias

namespace AlsaDriver.Soc

open Runs

def Near (a b : SndSocBiasLevel) : Prop := a.value ≤ b.value + 1 ∧ b.value ≤ a.value + 1

instance instDecidableNear (a b : SndSocBiasLevel) : Decidable (Near a b) := inferInstanceAs (Decidable (_ ∧ _))

theorem near_self (a : SndSocBiasLevel) : Near a a := ⟨Nat.le_succ _, Nat.le_succ _⟩

namespace SndSocDapmContext

variable {card : SndSocCard} {answers : Answers} {level : SndSocBiasLevel} {d : SndSocDapmContext}

def takes (card : SndSocCard) (d : SndSocDapmContext) (answers : Answers) : Bool :=
  if card.setBiasLevel then answers.card
  else if d.codec then !d.driverSetBiasLevel || answers.driver
  else !d.own || (card.setBiasLevelPost && answers.post)

def Stepwise (d : SndSocDapmContext) : Prop := ∀ m ∈ d.moves, Near m.1 m.2

def Assigned (level : SndSocBiasLevel) (d d' : SndSocDapmContext) : Prop :=
  ∃ again, (∀ m ∈ again, m = (level, level)) ∧
    d' = { d with biasLevel := level, moves := again ++ (d.biasLevel, level) :: d.moves }

theorem assigned_assign (level : SndSocBiasLevel) (d : SndSocDapmContext) : Assigned level d (d.assign level) :=
  ⟨[], fun _ wrong => absurd wrong List.not_mem_nil, rfl⟩

theorem Assigned.assign {d' : SndSocDapmContext} (assigned : Assigned level d d') : Assigned level d (d'.assign level) := by
  obtain ⟨again, same, rfl⟩ := assigned
  exact ⟨(level, level) :: again, List.forall_mem_cons.mpr ⟨rfl, same⟩, rfl⟩

theorem Assigned.post {d' : SndSocDapmContext} (assigned : Assigned level d d') :
    Assigned level d (d'.setPostLevel card answers level) := by
  unfold setPostLevel
  split
  · exact assigned.assign
  · exact assigned

theorem Assigned.context {d' : SndSocDapmContext} (assigned : Assigned level d d') :
    Assigned level d
      (if (d'.setContextLevel answers level).1 then (d'.setContextLevel answers level).2.setPostLevel card answers level
        else (d'.setContextLevel answers level).2) := by
  have kept : Assigned level d (d'.setContextLevel answers level).2 := by
    unfold setContextLevel
    split
    · split
      · split
        · exact assigned.assign
        · exact assigned
      · exact assigned.assign
    · split
      · exact assigned.assign
      · exact assigned
  split
  · exact kept.post
  · exact kept

theorem setContextLevel_cases (answers : Answers) (level : SndSocBiasLevel) (d : SndSocDapmContext) :
    (d.setContextLevel answers level = (true, d.assign level) ∧
      (if d.codec then !d.driverSetBiasLevel || answers.driver else !d.own) = true) ∨
    (d.setContextLevel answers level = (false, d) ∧ d.codec = true ∧ (!d.driverSetBiasLevel || answers.driver) = false) ∨
    (d.setContextLevel answers level = (true, d) ∧ d.codec = false ∧ d.own = true) := by
  unfold setContextLevel
  cases d.codec <;> cases d.own <;> cases d.driverSetBiasLevel <;> cases answers.driver <;> simp

theorem setBiasLevel_cases (card : SndSocCard) (answers : Answers) (level : SndSocBiasLevel) (d : SndSocDapmContext) :
    (d.takes card answers = true ∧ Assigned level d (d.setBiasLevel card answers level)) ∨
      d.takes card answers = false ∧ d.setBiasLevel card answers level = d := by
  unfold takes setBiasLevel
  dsimp only
  cases called : card.setBiasLevel with
  | true =>
    cases good : answers.card with
    | true => exact Or.inl ⟨rfl, (assigned_assign level d).context⟩
    | false => exact Or.inr ⟨rfl, rfl⟩
  | false =>
    have bare : (if false = true then d.assign level else d) = d := rfl
    rw [bare, if_neg fun wrong : false = true ∧ _ => Bool.false_ne_true wrong.1]
    rcases setContextLevel_cases answers level d with ⟨set, takes⟩ | ⟨set, codec, takes⟩ | ⟨set, codec, own⟩
    · rw [set]
      refine Or.inl ⟨?_, (assigned_assign level d).post⟩
      cases codec : d.codec <;> simp_all
    · rw [set, codec]
      exact Or.inr ⟨takes, rfl⟩
    · rw [set, codec, own]
      show _ ∧ Assigned level d (d.setPostLevel card answers level) ∨ _ ∧ d.setPostLevel card answers level = d
      unfold setPostLevel
      cases last : card.setBiasLevelPost with
      | false => exact Or.inr ⟨rfl, rfl⟩
      | true =>
        cases good : answers.post with
        | true => exact Or.inl ⟨rfl, assigned_assign level d⟩
        | false => exact Or.inr ⟨rfl, rfl⟩

section Fields

variable (card answers level d)

@[simp] theorem setBiasLevel_biasLevel : (d.setBiasLevel card answers level).biasLevel =
    if d.takes card answers then level else d.biasLevel := by
  rcases setBiasLevel_cases card answers level d with ⟨takes, again, -, same⟩ | ⟨takes, same⟩
  · rw [same, takes]
    rfl
  · rw [same, takes]
    rfl

theorem setBiasLevel_frame : ∃ now moves, d.setBiasLevel card answers level = { d with biasLevel := now, moves := moves } := by
  rcases setBiasLevel_cases card answers level d with ⟨-, again, -, same⟩ | ⟨-, same⟩
  · exact ⟨_, _, same⟩
  · exact ⟨_, _, same⟩

@[simp] theorem setBiasLevel_targetBiasLevel :
    (d.setBiasLevel card answers level).targetBiasLevel = d.targetBiasLevel := by
  obtain ⟨now, moves, same⟩ := setBiasLevel_frame card answers level d
  rw [same]

@[simp] theorem setBiasLevel_dev : (d.setBiasLevel card answers level).dev = d.dev := by
  obtain ⟨now, moves, same⟩ := setBiasLevel_frame card answers level d
  rw [same]

@[simp] theorem setBiasLevel_usage : (d.setBiasLevel card answers level).usage = d.usage := by
  obtain ⟨now, moves, same⟩ := setBiasLevel_frame card answers level d
  rw [same]

@[simp] theorem setBiasLevel_takes (answers' : Answers) :
    (d.setBiasLevel card answers level).takes card answers' = d.takes card answers' := by
  obtain ⟨now, moves, same⟩ := setBiasLevel_frame card answers level d
  rw [same]
  rfl

@[simp] theorem setBiasLevel_stepwise : (d.setBiasLevel card answers level).Stepwise ↔
    d.Stepwise ∧ (d.takes card answers = true → Near d.biasLevel level) := by
  rcases setBiasLevel_cases card answers level d with ⟨takes, again, self, same⟩ | ⟨takes, same⟩
  · have repeated : ∀ m ∈ again, Near m.1 m.2 := by
      intro m inside
      rw [self m inside]
      exact near_self level
    unfold Stepwise
    rw [same]
    simp only [takes, List.forall_mem_append, List.forall_mem_cons, forall_const]
    exact ⟨fun all => ⟨all.2.2, all.2.1⟩, fun both => ⟨repeated, both.2, both.1⟩⟩
  · rw [same, takes]
    exact ⟨fun steps => ⟨steps, fun wrong => absurd wrong Bool.false_ne_true⟩, And.left⟩

theorem pmRuntimeGetSync_eq : d.pmRuntimeGetSync = { d with usage := if d.dev then d.usage + 1 else d.usage } := by
  unfold pmRuntimeGetSync
  split <;> rfl

theorem pmRuntimePut_eq : d.pmRuntimePut = { d with usage := if d.dev then d.usage - 1 else d.usage } := by
  unfold pmRuntimePut
  split <;> rfl

end Fields

def Held (d : SndSocDapmContext) : Prop := d.usage = if d.dev = true ∧ d.biasLevel ≠ .off then 1 else 0

instance instDecidableHeld (d : SndSocDapmContext) : Decidable d.Held := inferInstanceAs (Decidable (_ = _))

structure Balanced (d : SndSocDapmContext) : Prop where
  held : d.Held
  stepwise : d.Stepwise

variable {calls : BiasCall → Answers} {target : SndSocBiasLevel}

theorem Balanced.request (balanced : d.Balanced) (answers : Answers) (near : Near d.biasLevel level)
    (some : d.biasLevel ≠ .off) (on : level ≠ .off) : (d.setBiasLevel card answers level).Balanced := by
  refine ⟨?_, ?_⟩
  · have held := balanced.held
    unfold Held at held ⊢
    rw [setBiasLevel_usage, held, setBiasLevel_dev, setBiasLevel_biasLevel]
    cases d.takes card answers with
    | true => simp [some, on]
    | false => rfl
  · exact (setBiasLevel_stepwise ..).mpr ⟨balanced.stepwise, fun _ => near⟩

section Stages

variable (card calls d)

/-- The first step of `dapm_pre_sequence_async`. -/
def turnOnStage : SndSocDapmContext :=
  if d.biasLevel = .off ∧ d.targetBiasLevel ≠ .off then
    d.pmRuntimeGetSync.setBiasLevel card (calls .turnOn) .standby
  else d

/-- The second step of `dapm_pre_sequence_async`. -/
def prepareStage : SndSocDapmContext :=
  if d.biasLevel ≠ d.targetBiasLevel then d.setBiasLevel card (calls .prepare) .prepare else d

/-- The first step of `dapm_post_sequence_async`. -/
def standbyStage : SndSocDapmContext :=
  if d.biasLevel = .prepare ∧ (d.targetBiasLevel = .standby ∨ d.targetBiasLevel = .off) then
    d.setBiasLevel card (calls .standby) .standby
  else d

/-- The second step of `dapm_post_sequence_async`. -/
def turnOffStage : SndSocDapmContext :=
  if d.biasLevel = .standby ∧ d.targetBiasLevel = .off then (d.setBiasLevel card (calls .turnOff) .off).pmRuntimePut
  else d

/-- The third step of `dapm_post_sequence_async`. -/
def activeStage : SndSocDapmContext :=
  if d.biasLevel = .prepare ∧ d.targetBiasLevel = .on then d.setBiasLevel card (calls .active) .on else d

theorem preSequence_stages : d.dapmPreSequenceAsync card calls = (d.turnOnStage card calls).prepareStage card calls := rfl

theorem postSequence_stages : d.dapmPostSequenceAsync card calls =
    ((d.standbyStage card calls).turnOffStage card calls).activeStage card calls := rfl

variable {card calls d}

theorem Balanced.prepareStage (balanced : d.Balanced) (off : d.biasLevel = .off → d.targetBiasLevel = .off) :
    (d.prepareStage card calls).Balanced := by
  unfold SndSocDapmContext.prepareStage
  split
  · rename_i differs
    have some : d.biasLevel ≠ .off := fun wrong => differs (wrong.trans (off wrong).symm)
    apply balanced.request _ _ some (by decide)
    cases now : d.biasLevel with
    | off => exact absurd now some
    | _ => decide
  · exact balanced

theorem Balanced.standbyStage (balanced : d.Balanced) : (d.standbyStage card calls).Balanced := by
  unfold SndSocDapmContext.standbyStage
  split
  · rename_i prepared
    apply balanced.request
    · rw [prepared.1]
      decide
    · rw [prepared.1]
      decide
    · decide
  · exact balanced

theorem Balanced.activeStage (balanced : d.Balanced) : (d.activeStage card calls).Balanced := by
  unfold SndSocDapmContext.activeStage
  split
  · rename_i prepared
    apply balanced.request
    · rw [prepared.1]
      decide
    · rw [prepared.1]
      decide
    · decide
  · exact balanced

theorem Balanced.turnOnStage (balanced : d.Balanced)
    (up : d.biasLevel = .off → d.targetBiasLevel ≠ .off → d.takes card (calls .turnOn) = true) :
    (d.turnOnStage card calls).Balanced ∧ ((d.turnOnStage card calls).biasLevel = .off → d.targetBiasLevel = .off) := by
  unfold SndSocDapmContext.turnOnStage
  split
  · rename_i starts
    have takes : d.pmRuntimeGetSync.takes card (calls .turnOn) = true := by
      rw [pmRuntimeGetSync_eq]
      exact up starts.1 starts.2
    have level : (d.pmRuntimeGetSync.setBiasLevel card (calls .turnOn) .standby).biasLevel = .standby := by
      rw [setBiasLevel_biasLevel, takes]
      rfl
    refine ⟨⟨?_, ?_⟩, fun wrong => absurd (level.symm.trans wrong) (by decide)⟩
    · have held := balanced.held
      unfold Held at held ⊢
      rw [level, setBiasLevel_usage, setBiasLevel_dev, pmRuntimeGetSync_eq]
      rw [starts.1] at held
      cases dev : d.dev with
      | true =>
        have none : d.usage = 0 := by simpa [dev] using held
        simp [none]
      | false => simpa [dev] using held
    · rw [setBiasLevel_stepwise, pmRuntimeGetSync_eq]
      refine ⟨balanced.stepwise, fun _ => ?_⟩
      show Near d.biasLevel .standby
      rw [starts.1]
      decide
  · rename_i stays
    exact ⟨balanced, fun off => Decidable.not_not.mp fun target => stays ⟨off, target⟩⟩

theorem Balanced.turnOffStage (balanced : d.Balanced)
    (down : d.biasLevel = .standby → d.targetBiasLevel = .off → d.takes card (calls .turnOff) = true ∨ d.dev = false) :
    (d.turnOffStage card calls).Balanced := by
  unfold SndSocDapmContext.turnOffStage
  split
  · rename_i ends
    have held := balanced.held
    refine ⟨?_, ?_⟩
    · unfold Held at held ⊢
      rw [pmRuntimePut_eq]
      dsimp only
      rw [setBiasLevel_usage, setBiasLevel_dev, setBiasLevel_biasLevel]
      rw [ends.1] at held ⊢
      rcases down ends.1 ends.2 with takes | nodev
      · rw [takes]
        cases dev : d.dev with
        | true =>
          have one : d.usage = 1 := by simpa [dev] using held
          simp [one]
        | false => simpa [dev] using held
      · simpa [nodev] using held
    · rw [pmRuntimePut_eq]
      refine (setBiasLevel_stepwise ..).mpr ⟨balanced.stepwise, fun _ => ?_⟩
      rw [ends.1]
      decide
  · exact balanced

theorem stepwise_of_post (later : (d.dapmPostSequenceAsync card calls).Stepwise) : d.Stepwise := by
  rw [postSequence_stages] at later
  have third : ((d.standbyStage card calls).turnOffStage card calls).Stepwise := by
    unfold SndSocDapmContext.activeStage at later
    split at later
    · exact ((setBiasLevel_stepwise ..).mp later).1
    · exact later
  have second : (d.standbyStage card calls).Stepwise := by
    unfold SndSocDapmContext.turnOffStage at third
    split at third
    · rw [pmRuntimePut_eq] at third
      exact ((setBiasLevel_stepwise ..).mp third).1
    · exact third
  unfold SndSocDapmContext.standbyStage at second
  split at second
  · exact ((setBiasLevel_stepwise ..).mp second).1
  · exact second

end Stages

def TurnsOff (card : SndSocCard) (calls : BiasCall → Answers) (d : SndSocDapmContext) : Prop :=
  match d.biasLevel with
  | .off => False
  | .standby => d.takes card (calls .prepare) = true → d.takes card (calls .standby) = true
  | .prepare => d.takes card (calls .standby) = true
  | .on => d.takes card (calls .prepare) = true ∧ d.takes card (calls .standby) = true

structure Clear (card : SndSocCard) (calls : BiasCall → Answers) (target : SndSocBiasLevel) (d : SndSocDapmContext) :
    Prop where
  up : d.biasLevel = .off → target ≠ .off →
    d.takes card (calls .turnOn) = true ∨ d.dev = false ∧ d.takes card (calls .prepare) = false
  down : target = .off → d.TurnsOff card calls → d.takes card (calls .turnOff) = true ∨ d.dev = false

theorem standbyStage_frame (card : SndSocCard) (calls : BiasCall → Answers) (d : SndSocDapmContext) : ∃ now moves,
    (d.prepareStage card calls).standbyStage card calls = { d with biasLevel := now, moves := moves } := by
  have prepared : ∃ now moves, d.prepareStage card calls = { d with biasLevel := now, moves := moves } := by
    unfold SndSocDapmContext.prepareStage
    split
    · exact setBiasLevel_frame ..
    · exact ⟨_, _, rfl⟩
  obtain ⟨now, moves, same⟩ := prepared
  rw [same]
  unfold SndSocDapmContext.standbyStage
  split
  · obtain ⟨later, more, same⟩ := setBiasLevel_frame card (calls .standby) .standby
      { d with biasLevel := now, moves := moves }
    exact ⟨later, more, same⟩
  · exact ⟨_, _, rfl⟩

theorem turnOnStage_target : (d.turnOnStage card calls).targetBiasLevel = d.targetBiasLevel := by
  unfold SndSocDapmContext.turnOnStage
  split
  · rw [setBiasLevel_targetBiasLevel, pmRuntimeGetSync_eq]
  · rfl

theorem sequence_target :
    ((d.dapmPreSequenceAsync card calls).dapmPostSequenceAsync card calls).targetBiasLevel = d.targetBiasLevel := by
  have last (e : SndSocDapmContext) : (e.activeStage card calls).targetBiasLevel = e.targetBiasLevel := by
    unfold SndSocDapmContext.activeStage
    split
    · exact setBiasLevel_targetBiasLevel ..
    · rfl
  have off (e : SndSocDapmContext) : (e.turnOffStage card calls).targetBiasLevel = e.targetBiasLevel := by
    unfold SndSocDapmContext.turnOffStage
    split
    · rw [pmRuntimePut_eq]
      exact setBiasLevel_targetBiasLevel ..
    · rfl
  obtain ⟨now, moves, same⟩ := standbyStage_frame card calls (d.turnOnStage card calls)
  rw [preSequence_stages, postSequence_stages, last, off, same]
  exact turnOnStage_target

theorem standby_iff_turnsOff (target : d.targetBiasLevel = .off) :
    ((d.prepareStage card calls).standbyStage card calls).biasLevel = .standby ↔ d.TurnsOff card calls := by
  unfold SndSocDapmContext.standbyStage SndSocDapmContext.prepareStage TurnsOff
  cases now : d.biasLevel <;> cases first : d.takes card (calls .prepare) <;>
    cases second : d.takes card (calls .standby) <;> simp [now, target, first, second]

theorem post_off (off : d.biasLevel = .off) : d.dapmPostSequenceAsync card calls = d := by
  unfold dapmPostSequenceAsync
  simp [off]

theorem not_taken {answers : Answers} (fails : d.takes card answers = false) : d.setBiasLevel card answers level = d := by
  rcases setBiasLevel_cases card answers level d with ⟨takes, -⟩ | ⟨-, same⟩
  · exact absurd (fails.symm.trans takes) Bool.false_ne_true
  · exact same

theorem Balanced.sequenced (balanced : d.Balanced) (clear : d.Clear card calls d.targetBiasLevel) :
    ((d.dapmPreSequenceAsync card calls).dapmPostSequenceAsync card calls).Balanced := by
  by_cases lost : (d.biasLevel = .off ∧ d.targetBiasLevel ≠ .off) ∧ d.takes card (calls .turnOn) = false
  · obtain ⟨⟨off, target⟩, fails⟩ := lost
    rcases clear.up off target with takes | ⟨nodev, still⟩
    · exact absurd (fails.symm.trans takes) Bool.false_ne_true
    · -- without a device no reference is taken, and the level stays off
      have got : d.pmRuntimeGetSync = d := by
        rw [pmRuntimeGetSync, nodev]
        rfl
      have first : d.turnOnStage card calls = d := by
        unfold SndSocDapmContext.turnOnStage
        rw [if_pos ⟨off, target⟩, got, not_taken fails]
      have second : d.prepareStage card calls = d := by
        unfold SndSocDapmContext.prepareStage
        split
        · exact not_taken still
        · rfl
      rwa [preSequence_stages, first, second, post_off off]
  · have up (off : d.biasLevel = .off) (target : d.targetBiasLevel ≠ .off) : d.takes card (calls .turnOn) = true :=
      (Bool.not_eq_false _).mp fun fails => lost ⟨⟨off, target⟩, fails⟩
    obtain ⟨first, level⟩ := balanced.turnOnStage up
    have target : (d.turnOnStage card calls).targetBiasLevel = d.targetBiasLevel := turnOnStage_target
    rw [preSequence_stages, postSequence_stages]
    have second : (((d.turnOnStage card calls).prepareStage card calls).standbyStage card calls).Balanced :=
      (first.prepareStage fun off => target.trans (level off)).standbyStage
    refine (second.turnOffStage fun standby ends => ?_).activeStage
    obtain ⟨now, moves, same⟩ := standbyStage_frame card calls (d.turnOnStage card calls)
    rw [same] at ends
    have off : d.targetBiasLevel = .off := target.symm.trans ends
    have unmoved : d.turnOnStage card calls = d := by
      unfold SndSocDapmContext.turnOnStage
      rw [if_neg fun wrong => wrong.2 off]
    rw [unmoved] at same standby
    rw [unmoved, same]
    exact clear.down off ((standby_iff_turnsOff off).mp standby)

theorem Balanced.clear (balanced : d.Balanced)
    (after : ((d.dapmPreSequenceAsync card calls).dapmPostSequenceAsync card calls).Balanced) :
    d.Clear card calls d.targetBiasLevel := by
  refine ⟨fun off target => ?_, fun target ends => ?_⟩
  · by_contra fails
    obtain ⟨lost, either⟩ := not_or.mp fails
    have lost : d.takes card (calls .turnOn) = false := (Bool.not_eq_true _).mp lost
    have first : d.turnOnStage card calls = d.pmRuntimeGetSync := by
      unfold SndSocDapmContext.turnOnStage
      rw [if_pos ⟨off, target⟩, not_taken]
      rw [pmRuntimeGetSync_eq]
      exact lost
    have differs : d.biasLevel ≠ d.targetBiasLevel := fun same => target (same.symm.trans off)
    rw [preSequence_stages, first] at after
    cases prepared : d.takes card (calls .prepare) with
    | true =>
      -- from off straight to prepare
      have stepwise := stepwise_of_post after.stepwise
      unfold SndSocDapmContext.prepareStage at stepwise
      rw [pmRuntimeGetSync_eq, if_pos differs] at stepwise
      have near := ((setBiasLevel_stepwise ..).mp stepwise).2 prepared
      dsimp only at near
      rw [off] at near
      exact absurd near (by decide)
    | false =>
      have dev : d.dev = true := (Bool.not_eq_false _).mp fun nodev => either ⟨nodev, prepared⟩
      have second : d.pmRuntimeGetSync.prepareStage card calls = d.pmRuntimeGetSync := by
        unfold SndSocDapmContext.prepareStage
        rw [pmRuntimeGetSync_eq, if_pos differs]
        exact not_taken prepared
      have stays : d.pmRuntimeGetSync.biasLevel = .off := by
        rw [pmRuntimeGetSync_eq]
        exact off
      rw [second, post_off stays] at after
      have leaked := after.held
      have held := balanced.held
      unfold Held at leaked held
      rw [pmRuntimeGetSync_eq] at leaked
      simp only [dev, off, if_true, ne_eq, not_true, and_false, if_false] at leaked held
      omega
  · by_contra fails
    obtain ⟨lost, dev⟩ := not_or.mp fails
    have lost : d.takes card (calls .turnOff) = false := (Bool.not_eq_true _).mp lost
    have dev : d.dev = true := (Bool.not_eq_false _).mp dev
    have first : d.turnOnStage card calls = d := by
      unfold SndSocDapmContext.turnOnStage
      rw [if_neg fun wrong => wrong.2 target]
    have ready : ((d.prepareStage card calls).standbyStage card calls).Balanced :=
      (balanced.prepareStage fun _ => target).standbyStage
    have standby := (standby_iff_turnsOff target).mpr ends
    obtain ⟨now, moves, same⟩ := standbyStage_frame card calls d
    rw [preSequence_stages, postSequence_stages, first] at after
    rw [same] at after ready standby
    dsimp only at standby
    subst standby
    have off : ({ d with biasLevel := SndSocBiasLevel.standby, moves := moves }.turnOffStage card calls) =
        { d with biasLevel := .standby, moves := moves, usage := d.usage - 1 } := by
      have still : ({ d with biasLevel := SndSocBiasLevel.standby, moves := moves } : SndSocDapmContext).takes card
          (calls .turnOff) = false := lost
      unfold SndSocDapmContext.turnOffStage
      rw [if_pos ⟨rfl, target⟩, not_taken still, pmRuntimePut_eq]
      dsimp only
      rw [if_pos dev]
    have last : ({ d with biasLevel := SndSocBiasLevel.standby, moves := moves, usage := d.usage - 1 }.activeStage card calls) =
        { d with biasLevel := .standby, moves := moves, usage := d.usage - 1 } := by
      unfold SndSocDapmContext.activeStage
      exact if_neg fun wrong => absurd (show SndSocBiasLevel.standby = .prepare from wrong.1) (by decide)
    rw [off, last] at after
    have held := ready.held
    have lost := after.held
    unfold Held at held lost
    dsimp only at held lost
    omega

structure Answered (card : SndSocCard) (calls : BiasCall → Answers) (target level : SndSocBiasLevel)
    (d : SndSocDapmContext) : Prop where
  target : d.targetBiasLevel = target
  all : ∀ c, d.takes card (calls c) = true
  level : d.biasLevel = level

theorem Answered.request {target now : SndSocBiasLevel} (answered : d.Answered card calls target now) (c : BiasCall)
    (level : SndSocBiasLevel) : (d.setBiasLevel card (calls c) level).Answered card calls target level := by
  refine ⟨?_, fun c' => ?_, ?_⟩
  · rw [setBiasLevel_targetBiasLevel, answered.target]
  · rw [setBiasLevel_takes, answered.all c']
  · rw [setBiasLevel_biasLevel, answered.all c]
    rfl

theorem Answered.turnOnStage {target level : SndSocBiasLevel} (answered : d.Answered card calls target level) :
    (d.turnOnStage card calls).Answered card calls target (if level = .off ∧ target ≠ .off then .standby else level) := by
  unfold SndSocDapmContext.turnOnStage
  rw [answered.level, answered.target]
  split
  · have got : d.pmRuntimeGetSync.Answered card calls target level := by
      rw [pmRuntimeGetSync_eq]
      exact ⟨answered.target, answered.all, answered.level⟩
    exact got.request _ _
  · exact answered

theorem Answered.prepareStage {target level : SndSocBiasLevel} (answered : d.Answered card calls target level) :
    (d.prepareStage card calls).Answered card calls target (if level ≠ target then .prepare else level) := by
  unfold SndSocDapmContext.prepareStage
  rw [answered.level, answered.target]
  split
  · exact answered.request _ _
  · exact answered

theorem Answered.standbyStage {target level : SndSocBiasLevel} (answered : d.Answered card calls target level) :
    (d.standbyStage card calls).Answered card calls target
      (if level = .prepare ∧ (target = .standby ∨ target = .off) then .standby else level) := by
  unfold SndSocDapmContext.standbyStage
  rw [answered.level, answered.target]
  split
  · exact answered.request _ _
  · exact answered

theorem Answered.turnOffStage {target level : SndSocBiasLevel} (answered : d.Answered card calls target level) :
    (d.turnOffStage card calls).Answered card calls target
      (if level = .standby ∧ target = .off then .off else level) := by
  unfold SndSocDapmContext.turnOffStage
  rw [answered.level, answered.target]
  split
  · have off := answered.request .turnOff .off
    rw [pmRuntimePut_eq]
    exact ⟨off.target, off.all, off.level⟩
  · exact answered

theorem Answered.activeStage {target level : SndSocBiasLevel} (answered : d.Answered card calls target level) :
    (d.activeStage card calls).Answered card calls target (if level = .prepare ∧ target = .on then .on else level) := by
  unfold SndSocDapmContext.activeStage
  rw [answered.level, answered.target]
  split
  · exact answered.request _ _
  · exact answered

theorem reaches_target (whole : d.targetBiasLevel ≠ .prepare) (all : ∀ c, d.takes card (calls c) = true) :
    ((d.dapmPreSequenceAsync card calls).dapmPostSequenceAsync card calls).biasLevel = d.targetBiasLevel := by
  have start : d.Answered card calls d.targetBiasLevel d.biasLevel := ⟨rfl, all, rfl⟩
  rw [preSequence_stages, postSequence_stages]
  rw [start.turnOnStage.prepareStage.standbyStage.turnOffStage.activeStage.level]
  cases target : d.targetBiasLevel with
  | prepare => exact absurd target whole
  | _ => cases d.biasLevel <;> rfl

end SndSocDapmContext

namespace Contexts

variable {n : Nat} {s : Contexts n}

theorem widgetTarget_whole {targets : Fin n → SndSocBiasLevel} (whole : ∀ i, targets i ≠ .prepare) (w : PoweredWidget n)
    (i : Fin n) : widgetTarget targets w i ≠ .prepare := by
  unfold widgetTarget
  by_cases powered : w.power = true
  · rw [if_pos powered]
    split
    · unfold raiseTarget
      split
      · exact whole i
      · split
        · decide
        · exact whole i
      · split
        · decide
        · exact whole i
      · split
        · decide
        · exact whole i
      · split
        · decide
        · exact whole i
      · decide
    · exact whole i
  · rw [if_neg powered]
    exact whole i

theorem targets_whole (s : Contexts n) (widgets : List (PoweredWidget n)) (i : Fin n) : s.targets widgets i ≠ .prepare := by
  have raised : ∀ i, widgets.foldl widgetTarget s.initTarget i ≠ .prepare := by
    have start : ∀ i, s.initTarget i ≠ .prepare := by
      intro i
      unfold initTarget
      split <;> decide
    generalize s.initTarget = targets at start
    induction widgets generalizing targets with
    | nil => exact start
    | cons w rest ih => exact ih _ (widgetTarget_whole start w)
  have highest (l : List (Fin n)) (bias : SndSocBiasLevel) (whole : bias ≠ .prepare) :
      l.foldl (fun bias i => if bias.value < (widgets.foldl widgetTarget s.initTarget i).value then
        widgets.foldl widgetTarget s.initTarget i else bias) bias ≠ .prepare := by
    induction l generalizing bias with
    | nil => exact whole
    | cons i rest ih =>
      apply ih
      dsimp only
      split
      · exact raised i
      · exact whole
  unfold targets
  split
  · exact raised i
  · exact highest _ _ (by decide)

structure PowerRun (n : Nat) where
  widgets : List (PoweredWidget n)
  answers : Fin n → BiasCall → Answers

def exec (card : SndSocCard) (s : Contexts n) (run : PowerRun n) : Contexts n :=
  s.dapmPowerWidgets card run.widgets run.answers

structure Kept (card : SndSocCard) (s : Contexts n) (run : PowerRun n) (s' : Contexts n) : Prop where
  balanced : ∀ i, (s' i).Balanced
  reached : (∀ i c, (s i).takes card (run.answers i c) = true) → ∀ i, (s' i).biasLevel = (s' i).targetBiasLevel

def Clear (card : SndSocCard) (s : Contexts n) (run : PowerRun n) : Prop :=
  ∀ i, (s i).Clear card (run.answers i) (s.targets run.widgets i)

theorem exec_balanced {card : SndSocCard} (balanced : ∀ i, (s i).Balanced) (run : PowerRun n) :
    (∀ i, (exec card s run i).Balanced) ↔ s.Clear card run := by
  have each (i : Fin n) : { s i with targetBiasLevel := s.targets run.widgets i }.Balanced :=
    ⟨(balanced i).held, (balanced i).stepwise⟩
  constructor
  · intro after i
    have clear := (each i).clear (after i)
    exact ⟨clear.up, clear.down⟩
  · intro clear i
    exact (each i).sequenced ⟨(clear i).up, (clear i).down⟩

theorem exec_decides {card : SndSocCard} (balanced : ∀ i, (s i).Balanced) (run : PowerRun n) :
    Kept card s run (exec card s run) ↔ s.Clear card run := by
  refine ⟨fun kept => (exec_balanced balanced run).mp kept.balanced, fun clear =>
    ⟨(exec_balanced balanced run).mpr clear, fun all i => ?_⟩⟩
  have reached := SndSocDapmContext.reaches_target (d := { s i with targetBiasLevel := s.targets run.widgets i })
    (s.targets_whole run.widgets i) (all i)
  exact reached.trans SndSocDapmContext.sequence_target.symm

def Fresh (s : Contexts n) : Prop := ∀ i, (s i).biasLevel = .off ∧ (s i).usage = 0 ∧ (s i).moves = []

theorem bias_balanced {card : SndSocCard} (fresh : s.Fresh) (runs : List (PowerRun n)) :
    Throughout (exec card) (Kept card) s runs ↔ Throughout (exec card) (fun s run _ => s.Clear card run) s runs := by
  have balanced : ∀ i, (s i).Balanced := by
    intro i
    obtain ⟨off, none, still⟩ := fresh i
    refine ⟨?_, fun m wrong => ?_⟩
    · unfold SndSocDapmContext.Held
      rw [none, off, if_neg fun wrong => wrong.2 rfl]
    · rw [still] at wrong
      exact absurd wrong List.not_mem_nil
  have all : Throughout (exec card) (fun _ _ _ => True) s runs := Throughout.of_mem fun _ _ _ => trivial
  apply throughout_iff (fun s => ∀ i, (s i).Balanced) (Kept card) (Clear card) (fun s run inv _ => exec_decides inv run) _
    balanced all
  exact fun s run inv _ clear => (exec_balanced inv run).mpr clear

end Contexts

section Example

open SndSocDapmContext Contexts

def codecAndCard : Contexts 2 := fun i =>
  { own := i == 1, dev := true, codec := i == 0, driverSetBiasLevel := i == 0, idleBiasOff := false, biasLevel := .off,
    targetBiasLevel := .off, usage := 0, moves := [] }

def noCallbacks : SndSocCard where
  setBiasLevel := false
  setBiasLevelPost := false

def withCallback : SndSocCard where
  setBiasLevel := true
  setBiasLevelPost := false

theorem codecAndCard_fresh : codecAndCard.Fresh := fun _ => ⟨rfl, rfl, rfl⟩

def runWith (answer : BiasCall → Bool) (widgets : List (PoweredWidget 2)) : PowerRun 2 where
  widgets := widgets
  answers := fun _ c => { card := answer c, driver := true, post := true }

/-- The callback fails when the contexts are to be turned on, or there is none for the card's own context. -/
theorem reference_leaks :
    codecAndCard.Fresh ∧
      ¬ Throughout (exec withCallback) (Kept withCallback) codecAndCard [runWith (fun _ => false) []] ∧
      ¬ Throughout (exec noCallbacks) (Kept noCallbacks) codecAndCard [runWith (fun _ => true) []] := by
  refine ⟨codecAndCard_fresh, fun run => ?_, fun run => ?_⟩
  · exact absurd (run.1.balanced 1).held (by decide)
  · exact absurd (run.1.balanced 1).held (by decide)

theorem bias_balanced_playing :
    Throughout (exec withCallback) (Kept withCallback) codecAndCard
      [runWith (fun _ => true) [⟨.dac, 0, true⟩], runWith (fun _ => true) [⟨.dac, 0, false⟩]] := by
  have clear (s : Contexts 2) (widgets : List (PoweredWidget 2)) : s.Clear withCallback (runWith (fun _ => true) widgets) :=
    fun _ => ⟨fun _ _ => Or.inl rfl, fun _ _ => Or.inl rfl⟩
  exact (bias_balanced codecAndCard_fresh _).mpr ⟨clear _ _, clear _ _, trivial⟩

end Example

end AlsaDriver.Soc
