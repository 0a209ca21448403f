import AlsaDriver.Usb.MixerUnits

namespace AlsaDriver.Usb

open Extra Walks Relation

namespace Parsed

structure Kept (s : Parsed) : Prop where
  nodup : s.turned.Nodup
  marked : ∀ u ∈ s.turned, s.unitbitmap u = true

structure Grows (s s' : Parsed) : Prop where
  marks : ∀ u, s.unitbitmap u = true → s'.unitbitmap u = true
  kept : s.Kept → s'.Kept

theorem Grows.refl (s : Parsed) : s.Grows s := ⟨fun _ marked => marked, fun kept => kept⟩

theorem Grows.trans {s s' s'' : Parsed} (first : s.Grows s') (second : s'.Grows s'') : s.Grows s'' :=
  ⟨fun u marked => second.marks u (first.marks u marked), fun kept => second.kept (first.kept kept)⟩

theorem Grows.unvisited {s s' : Parsed} (grows : s.Grows s') : unvisited s'.unitbitmap ≤ unvisited s.unitbitmap :=
  unvisited_mono grows.marks

theorem grows_mark (s : Parsed) (u : U8) : s.Grows { s with unitbitmap := Function.update s.unitbitmap u true } := by
  have marks : ∀ v, s.unitbitmap v = true → Function.update s.unitbitmap u true v = true := by
    intro v marked
    rw [Function.update_apply]
    split
    · rfl
    · exact marked
  exact ⟨marks, fun kept => ⟨kept.nodup, fun v inside => marks v (kept.marked v inside)⟩⟩

theorem grows_turn {s : Parsed} {u : U8} (fresh : s.unitbitmap u = false) :
    s.Grows ⟨Function.update s.unitbitmap u true, s.turned ++ [u]⟩ := by
  refine ⟨(s.grows_mark u).marks, fun kept => ⟨?_, fun v inside => ?_⟩⟩
  · have new : u ∉ s.turned := fun inside => Bool.false_ne_true (fresh.symm.trans (kept.marked u inside))
    exact List.nodup_append.mpr ⟨kept.nodup, List.nodup_singleton u, fun v inside w last same =>
      new (List.mem_singleton.mp last ▸ same ▸ inside)⟩
  · rcases List.mem_append.mp inside with before | last
    · exact (s.grows_mark u).marks v (kept.marked v before)
    · obtain rfl := List.mem_singleton.mp last
      exact Function.update_self ..

end Parsed

namespace MixerBuild

variable (m : MixerBuild)

/-- The unit that `check_input_term` goes on with. -/
def nextSource (id : U8) : Option U8 :=
  (m.findAudioControlUnit id).bind fun p =>
    let byte := fun i => m.buffer.byte (p + i)
    let subtype := m.buffer.bDescriptorSubtype p
    if subtype = UAC_INPUT_TERMINAL then if m.protocol = UAC_VERSION_1 then none else some (byte 7)
    else if subtype = UAC_FEATURE_UNIT then some (byte 4)
    else if subtype = UAC_MIXER_UNIT then none
    else if subtype = UAC_SELECTOR_UNIT ∨ subtype = UAC2_CLOCK_SELECTOR then some (m.baSourceID p 0)
    else if subtype = UAC1_PROCESSING_UNIT ∨ subtype = UAC1_EXTENSION_UNIT ∨ subtype = UAC2_EXTENSION_UNIT_V2 then
      if m.protocol = UAC_VERSION_2 ∧ subtype = UAC2_EFFECT_UNIT then none
      else if byte 6 ≠ 0 then some (m.procSourceID p 0)
      else none
    else none

variable {m}

theorem checkInputTermLoop_isSome {turns : Nat} {id : U8} {term : UsbAudioTerm} :
    (m.checkInputTermLoop turns id term).isSome = stops m.nextSource turns id := by
  induction turns generalizing id term with
  | zero => rfl
  | succ turns ih =>
    have ended : m.nextSource id = none → stops m.nextSource (turns + 1) id = true := stops_end
    have goes : ∀ b, m.nextSource id = some b → stops m.nextSource (turns + 1) id = stops m.nextSource turns b :=
      fun b step => stops_step step
    unfold checkInputTermLoop
    cases found : m.findAudioControlUnit id with
    | none =>
      have last : m.nextSource id = none := by rw [nextSource, found]; rfl
      rw [ended last]
      rfl
    | some p =>
      have next : m.nextSource id = (m.nextSource id) := rfl
      conv at next => rhs; rw [nextSource, found, Option.bind_some]
      dsimp only at next ⊢
      by_cases input : m.buffer.bDescriptorSubtype p = UAC_INPUT_TERMINAL
      · rw [if_pos input] at next ⊢
        by_cases first : m.protocol = UAC_VERSION_1
        · rw [if_pos first] at next ⊢
          rw [ended next]
          rfl
        · rw [if_neg first] at next ⊢
          rw [goes _ next, ← @ih _ UsbAudioTerm.zero]
          cases m.checkInputTermLoop turns (m.buffer.byte (p + 7)) UsbAudioTerm.zero <;> rfl
      rw [if_neg input] at next ⊢
      by_cases feature : m.buffer.bDescriptorSubtype p = UAC_FEATURE_UNIT
      · rw [if_pos feature] at next ⊢
        rw [goes _ next]
        exact ih
      rw [if_neg feature] at next ⊢
      by_cases mixer : m.buffer.bDescriptorSubtype p = UAC_MIXER_UNIT
      · rw [if_pos mixer] at next ⊢
        rw [ended next]
        rfl
      rw [if_neg mixer] at next ⊢
      by_cases selector : m.buffer.bDescriptorSubtype p = UAC_SELECTOR_UNIT ∨
          m.buffer.bDescriptorSubtype p = UAC2_CLOCK_SELECTOR
      · rw [if_pos selector] at next ⊢
        rw [goes _ next, ← @ih _ UsbAudioTerm.zero]
        cases m.checkInputTermLoop turns (m.baSourceID p 0) UsbAudioTerm.zero with
        | none => rfl
        | some result =>
          dsimp only
          split <;> rfl
      rw [if_neg selector] at next ⊢
      by_cases processing : m.buffer.bDescriptorSubtype p = UAC1_PROCESSING_UNIT ∨
          m.buffer.bDescriptorSubtype p = UAC1_EXTENSION_UNIT ∨ m.buffer.bDescriptorSubtype p = UAC2_EXTENSION_UNIT_V2
      · rw [if_pos processing] at next ⊢
        by_cases effect : m.protocol = UAC_VERSION_2 ∧ m.buffer.bDescriptorSubtype p = UAC2_EFFECT_UNIT
        · rw [if_pos effect] at next ⊢
          rw [ended next]
          rfl
        rw [if_neg effect] at next ⊢
        by_cases pins : m.buffer.byte (p + 6) ≠ 0
        · rw [if_pos pins] at next ⊢
          rw [goes _ next]
          exact ih
        · rw [if_neg pins] at next ⊢
          rw [ended next]
          rfl
      rw [if_neg processing] at next ⊢
      rw [ended next]
      split <;> rfl

def Acyclic (m : MixerBuild) : Prop := ∀ id, ¬ TransGen (Step m.nextSource) id id

variable {parse : U8 → Parsed → Option (Int × Parsed)} {check : U8 → Option (Int × UsbAudioTerm)} {unitid : U8} {p : Nat}
  {s : Parsed}

def Keeps (parse : U8 → Parsed → Option (Int × Parsed)) : Prop :=
  ∀ id s r, parse id s = some r → s.Grows r.2

def Returns (k : Nat) (parse : U8 → Parsed → Option (Int × Parsed)) : Prop :=
  ∀ id s, unvisited s.unitbitmap ≤ k → (parse id s).isSome

section

variable {k : Nat} (keeps : Keeps parse) (returns : Returns k parse) (checks : ∀ id, (check id).isSome)

include keeps

theorem keeps_pins {ids : List U8} {r : Int × Parsed} (done : parsePins parse ids s = some r) : s.Grows r.2 := by
  induction ids generalizing s with
  | nil =>
    obtain rfl := Option.some.inj done
    exact Parsed.Grows.refl s
  | cons id rest ih =>
    unfold parsePins at done
    cases first : parse id s with
    | none => rw [first] at done; exact absurd done.symm (Option.some_ne_none r)
    | some q =>
      have grows := keeps id s q first
      rw [first] at done
      dsimp only at done
      split at done
      · obtain rfl := Option.some.inj done
        exact grows
      · exact grows.trans (ih done)

theorem keeps_mixerPins {ids : List U8} {r : Int × Parsed} (done : parseMixerPins parse check ids s = some r) : s.Grows r.2 := by
  induction ids generalizing s with
  | nil =>
    obtain rfl := Option.some.inj done
    exact Parsed.Grows.refl s
  | cons id rest ih =>
    unfold parseMixerPins at done
    cases first : parse id s with
    | none => rw [first] at done; exact absurd done.symm (Option.some_ne_none r)
    | some q =>
      have grows := keeps id s q first
      rw [first] at done
      dsimp only at done
      split at done
      · exact grows.trans (ih done)
      · cases term : check id with
        | none => rw [term] at done; exact absurd done.symm (Option.some_ne_none r)
        | some t =>
          rw [term] at done
          dsimp only at done
          split at done
          · obtain rfl := Option.some.inj done
            exact grows
          · exact grows.trans (ih done)

include returns

theorem returns_pins {ids : List U8} (few : unvisited s.unitbitmap ≤ k) : (parsePins parse ids s).isSome := by
  induction ids generalizing s with
  | nil => rfl
  | cons id rest ih =>
    unfold parsePins
    obtain ⟨q, first⟩ := Option.isSome_iff_exists.mp (returns id s few)
    rw [first]
    dsimp only
    split
    · rfl
    · exact ih (Nat.le_trans (keeps id s q first).unvisited few)

include checks

theorem returns_mixerPins {ids : List U8} (few : unvisited s.unitbitmap ≤ k) : (parseMixerPins parse check ids s).isSome := by
  induction ids generalizing s with
  | nil => rfl
  | cons id rest ih =>
    unfold parseMixerPins
    obtain ⟨q, first⟩ := Option.isSome_iff_exists.mp (returns id s few)
    have few := Nat.le_trans (keeps id s q first).unvisited few
    rw [first]
    dsimp only
    split
    · exact ih few
    · obtain ⟨t, term⟩ := Option.isSome_iff_exists.mp (checks id)
      rw [term]
      dsimp only
      split
      · rfl
      · exact ih few

end

theorem returns_namePins (checks : ∀ id, (check id).isSome) {pins : List (Nat × U8)} : (m.namePins check unitid pins).isSome := by
  induction pins with
  | nil => rfl
  | cons pin rest ih =>
    unfold namePins
    split
    · split
      · exact ih
      · obtain ⟨t, term⟩ := Option.isSome_iff_exists.mp (checks pin.2)
        rw [term]
        exact ih
    · rfl

section

variable {k : Nat} {r : Int × Parsed} (keeps : Keeps parse)

include keeps

theorem keeps_mixerUnit (done : m.parseAudioMixerUnit parse check p s = some r) : s.Grows r.2 := by
  unfold parseAudioMixerUnit at done
  dsimp only at done
  split at done
  · obtain rfl := Option.some.inj done
    exact Parsed.Grows.refl s
  split at done
  · obtain rfl := Option.some.inj done
    exact Parsed.Grows.refl s
  · exact keeps_mixerPins keeps done

theorem keeps_featureUnit (done : m.parseAudioFeatureUnit parse check p s = some r) : s.Grows r.2 := by
  unfold parseAudioFeatureUnit at done
  dsimp only at done
  generalize (if m.protocol = UAC_VERSION_1 then 7 + (m.buffer.byte (p + 5)).val else 10) = size at done
  split at done
  · obtain rfl := Option.some.inj done
    exact Parsed.Grows.refl s
  split at done
  · obtain rfl := Option.some.inj done
    exact Parsed.Grows.refl s
  cases first : parse (m.buffer.byte (p + 4)) s with
  | none => rw [first] at done; exact absurd done.symm (Option.some_ne_none r)
  | some q =>
    have grows := keeps _ s q first
    rw [first] at done
    dsimp only at done
    split at done
    · obtain rfl := Option.some.inj done
      exact grows
    · obtain ⟨t, -, rfl⟩ := Option.map_eq_some_iff.mp done
      exact grows

theorem keeps_procunit (done : m.buildAudioProcunit parse unitid p s = some r) : s.Grows r.2 := by
  unfold buildAudioProcunit at done
  dsimp only at done
  split at done
  · obtain rfl := Option.some.inj done
    exact Parsed.Grows.refl s
  · obtain ⟨q, pins, rfl⟩ := Option.map_eq_some_iff.mp done
    have grows := keeps_pins keeps pins
    exact grows

theorem keeps_selectorUnit (done : m.parseAudioSelectorUnit parse check unitid p s = some r) : s.Grows r.2 := by
  unfold parseAudioSelectorUnit at done
  dsimp only at done
  split at done
  · obtain rfl := Option.some.inj done
    exact Parsed.Grows.refl s
  cases pins : parsePins parse (m.sourceIDs p) s with
  | none => rw [pins] at done; exact absurd done.symm (Option.some_ne_none r)
  | some q =>
    have grows := keeps_pins keeps pins
    rw [pins] at done
    dsimp only at done
    split at done
    · obtain rfl := Option.some.inj done
      exact grows
    split at done
    · obtain rfl := Option.some.inj done
      exact grows
    split at done
    · obtain rfl := Option.some.inj done
      exact grows
    · obtain ⟨err, -, rfl⟩ := Option.map_eq_some_iff.mp done
      exact grows

variable (returns : Returns k parse) (checks : ∀ id, (check id).isSome) (few : unvisited s.unitbitmap ≤ k)

include returns few

theorem returns_procunit : (m.buildAudioProcunit parse unitid p s).isSome := by
  unfold buildAudioProcunit
  dsimp only
  split
  · rfl
  · rw [Option.isSome_map]
    exact returns_pins keeps returns few

include checks

theorem returns_mixerUnit : (m.parseAudioMixerUnit parse check p s).isSome := by
  unfold parseAudioMixerUnit
  dsimp only
  split
  · rfl
  split
  · rfl
  · exact returns_mixerPins keeps returns checks few

omit keeps in
theorem returns_featureUnit : (m.parseAudioFeatureUnit parse check p s).isSome := by
  unfold parseAudioFeatureUnit
  dsimp only
  generalize (if m.protocol = UAC_VERSION_1 then 7 + (m.buffer.byte (p + 5)).val else 10) = size
  split
  · rfl
  split
  · rfl
  obtain ⟨q, first⟩ := Option.isSome_iff_exists.mp (returns (m.buffer.byte (p + 4)) s few)
  rw [first]
  dsimp only
  split
  · rfl
  · rw [Option.isSome_map]
    exact checks _

theorem returns_selectorUnit : (m.parseAudioSelectorUnit parse check unitid p s).isSome := by
  unfold parseAudioSelectorUnit
  dsimp only
  split
  · rfl
  have every : (parsePins parse (m.sourceIDs p) s).isSome := returns_pins keeps returns few
  obtain ⟨q, pins⟩ := Option.isSome_iff_exists.mp every
  rw [pins]
  dsimp only
  split
  · rfl
  split
  · rfl
  split
  · rfl
  · rw [Option.isSome_map]
    exact returns_namePins checks

end

theorem keeps_parseAudioUnit (m : MixerBuild) (turns : Nat) : Keeps (m.parseAudioUnit turns) := by
  induction turns with
  | zero => exact fun id s r done => absurd done.symm (Option.some_ne_none r)
  | succ turns ih =>
    intro unitid s r done
    unfold parseAudioUnit at done
    split at done
    · obtain rfl := Option.some.inj done
      exact Parsed.Grows.refl s
    rename_i fresh
    have marked := s.grows_mark unitid
    have turned := Parsed.grows_turn (Bool.eq_false_iff.mpr fresh)
    dsimp only at done
    cases found : m.findAudioControlUnit unitid with
    | none =>
      rw [found] at done
      obtain rfl := Option.some.inj done
      exact marked
    | some p =>
      rw [found] at done
      dsimp only at done
      split at done
      · obtain rfl := Option.some.inj done
        exact marked
      split at done
      · exact turned.trans (keeps_mixerUnit ih done)
      split at done
      · exact turned.trans (keeps_selectorUnit ih done)
      split at done
      · exact turned.trans (keeps_featureUnit ih done)
      split at done
      · split at done
        · exact turned.trans (keeps_procunit ih done)
        · obtain rfl := Option.some.inj done
          exact marked
      split at done
      · exact turned.trans (keeps_procunit ih done)
      · obtain rfl := Option.some.inj done
        exact marked

theorem keeps_parseTerminal {turns p : Nat} {r : Int × Parsed} (done : m.parseTerminal turns p s = some r) : s.Grows r.2 := by
  unfold parseTerminal at done
  generalize (if m.protocol = UAC_VERSION_1 then 9 else 12) = size at done
  split at done
  · obtain rfl := Option.some.inj done
    exact Parsed.Grows.refl s
  have marked := s.grows_mark (m.buffer.bUnitID p)
  dsimp only at done
  cases first : m.parseAudioUnit turns (m.buffer.byte (p + 7)) ⟨Function.update s.unitbitmap (m.buffer.bUnitID p) true, s.turned⟩ with
  | none => rw [first] at done; exact absurd done.symm (Option.some_ne_none r)
  | some q =>
    have grows := marked.trans (keeps_parseAudioUnit m turns _ _ q first)
    rw [first] at done
    dsimp only at done
    split at done
    · obtain rfl := Option.some.inj done
      exact grows
    split at done
    · obtain rfl := Option.some.inj done
      exact grows
    · obtain ⟨t, second, rfl⟩ := Option.map_eq_some_iff.mp done
      exact grows.trans (keeps_parseAudioUnit m turns _ _ t second)

theorem keeps_controlsLoop {turns fuel : Nat} {after : Option Nat} {r : Int × Parsed}
    (done : m.controlsLoop turns fuel after s = some r) : s.Grows r.2 := by
  induction fuel generalizing after s with
  | zero => exact absurd done.symm (Option.some_ne_none r)
  | succ fuel ih =>
    unfold controlsLoop at done
    cases found : m.buffer.sndUsbFindCsintDesc UAC_OUTPUT_TERMINAL after with
    | none =>
      rw [found] at done
      obtain rfl := Option.some.inj done
      exact Parsed.Grows.refl s
    | some p =>
      rw [found] at done
      dsimp only at done
      cases first : m.parseTerminal turns p s with
      | none => rw [first] at done; exact absurd done.symm (Option.some_ne_none r)
      | some q =>
        have grows := keeps_parseTerminal first
        rw [first] at done
        dsimp only at done
        split at done
        · obtain rfl := Option.some.inj done
          exact grows
        · exact grows.trans (ih done)

theorem returns_parseAudioUnit {n k turns : Nat} (stopped : ∀ id, stops m.nextSource n id = true) (enough : n + k < turns) :
    Returns k (m.parseAudioUnit turns) := by
  have checks : ∀ turns, n ≤ turns → ∀ id, (m.checkInputTerm turns id).isSome := by
    intro turns more id
    unfold checkInputTerm
    rw [checkInputTermLoop_isSome]
    exact stops_mono (stopped id) more
  induction turns generalizing k with
  | zero => exact absurd enough (Nat.not_lt_zero _)
  | succ turns ih =>
    intro unitid s few
    unfold parseAudioUnit
    split
    · rfl
    rename_i fresh
    have fresh := Bool.eq_false_iff.mpr fresh
    have fewer := Nat.lt_of_lt_of_le (unvisited_update fresh) few
    have keeps := keeps_parseAudioUnit m turns
    have returns : Returns (k - 1) (m.parseAudioUnit turns) := ih (by omega)
    have checks := checks turns (by omega)
    have less : unvisited (Function.update s.unitbitmap unitid true) ≤ k - 1 := by omega
    dsimp only
    cases m.findAudioControlUnit unitid with
    | none => rfl
    | some p =>
      dsimp only
      split
      · rfl
      split
      · exact returns_mixerUnit keeps returns checks less
      split
      · exact returns_selectorUnit keeps returns checks less
      split
      · exact returns_featureUnit returns checks less
      split
      · split
        · exact returns_procunit keeps returns less
        · rfl
      split
      · exact returns_procunit keeps returns less
      · rfl

theorem returns_parseTerminal {turns k p : Nat} (returns : Returns k (m.parseAudioUnit turns))
    (few : unvisited s.unitbitmap ≤ k) : (m.parseTerminal turns p s).isSome := by
  have marked := Nat.le_trans (s.grows_mark (m.buffer.bUnitID p)).unvisited few
  unfold parseTerminal
  generalize (if m.protocol = UAC_VERSION_1 then 9 else 12) = size
  split
  · rfl
  dsimp only
  obtain ⟨q, first⟩ := Option.isSome_iff_exists.mp (returns (m.buffer.byte (p + 7)) _ marked)
  have fewer := Nat.le_trans (keeps_parseAudioUnit m turns _ _ q first).unvisited marked
  rw [first]
  dsimp only
  split
  · rfl
  split
  · rfl
  · rw [Option.isSome_map]
    exact returns _ _ fewer

theorem returns_controlsLoop {turns k fuel : Nat} {after : Option Nat} (returns : Returns k (m.parseAudioUnit turns))
    (few : unvisited s.unitbitmap ≤ k) (enough : m.buffer.extralen ≤ after.elim 0 Nat.succ + fuel) :
    (m.controlsLoop turns (fuel + 1) after s).isSome := by
  induction fuel generalizing after s with
  | zero =>
    unfold controlsLoop
    cases found : m.buffer.sndUsbFindCsintDesc UAC_OUTPUT_TERMINAL after with
    | none => rfl
    | some p =>
      obtain ⟨inside, ahead⟩ := m.buffer.advances_findCsintDesc _ after p found
      cases after with
      | none => exact absurd inside (Nat.not_lt.mpr (Nat.le_trans enough (Nat.zero_le p)))
      | some a =>
        have behind := ahead a rfl
        have enough : m.buffer.extralen ≤ a + 1 := enough
        omega
  | succ fuel ih =>
    rw [controlsLoop]
    cases found : m.buffer.sndUsbFindCsintDesc UAC_OUTPUT_TERMINAL after with
    | none => rfl
    | some p =>
      obtain ⟨inside, ahead⟩ := m.buffer.advances_findCsintDesc _ after p found
      obtain ⟨q, first⟩ := Option.isSome_iff_exists.mp (returns_parseTerminal (p := p) returns few)
      have fewer := Nat.le_trans (keeps_parseTerminal first).unvisited few
      dsimp only
      rw [first]
      dsimp only
      split
      · rfl
      · have further : after.elim 0 Nat.succ ≤ p := by
          cases after with
          | none => exact Nat.zero_le p
          | some a => exact ahead a rfl
        have enough : m.buffer.extralen ≤ p + 1 + fuel := by omega
        exact @ih _ (some p) fewer enough

variable (m)

structure Terminates : Prop where
  progress : ∀ after dtype, ∃ result, m.buffer.findDescLoop after dtype (m.buffer.extralen + 1) 0 = some result ∧
    ∀ p ∈ result, p < m.buffer.extralen ∧ ∀ a ∈ after, a < p
  term : ∀ id, ∃ turns, (m.checkInputTerm turns id).isSome
  unit : ∀ id s, ∃ turns, (m.parseAudioUnit turns id s).isSome
  controls : ∃ turns, (m.sndUsbMixerControls turns).isSome
  once : ∀ turns r, m.sndUsbMixerControls turns = some r → r.2.turned.Nodup

/-- The parser terminates if and only if no unit gets back to itself over the sources that `check_input_term` follows. -/
theorem parsing_terminates : m.Terminates ↔ m.Acyclic := by
  constructor
  · intro terminates id cycle
    obtain ⟨turns, returned⟩ := terminates.term id
    unfold checkInputTerm at returned
    rw [checkInputTermLoop_isSome, not_stops cycle] at returned
    exact Bool.noConfusion returned
  · intro acyclic
    obtain ⟨n, stopped⟩ := stops_of_acyclic acyclic
    have units : ∀ turns, n + 256 < turns → Returns 256 (m.parseAudioUnit turns) :=
      fun turns enough => returns_parseAudioUnit stopped enough
    have all : ∀ s : Parsed, unvisited s.unitbitmap ≤ 256 := fun s => Nat.le_trans unvisited_le (Nat.le_of_eq (Fintype.card_fin 256))
    refine ⟨fun after dtype => m.buffer.findDescLoop_returns after dtype (Nat.le_add_left _ 0), fun id => ⟨n, ?_⟩,
      fun id s => ⟨n + 257, units _ (by omega) id s (all s)⟩, ⟨n + 257 + m.buffer.extralen, ?_⟩, fun turns r done => ?_⟩
    · unfold checkInputTerm
      rw [checkInputTermLoop_isSome]
      exact stopped id
    · have fuel : n + 257 + m.buffer.extralen = n + 256 + m.buffer.extralen + 1 := by omega
      unfold sndUsbMixerControls
      rw [fuel]
      exact returns_controlsLoop (units _ (by omega)) (all _) (by omega)
    · exact ((keeps_controlsLoop done).kept ⟨List.nodup_nil, fun _ inside => absurd inside List.not_mem_nil⟩).nodup

def loopedUnit : MixerBuild where
  buffer := ⟨fun i => [9, 0x24, 3, 1, 1, 3, 0, 5, 0, 8, 0x24, 6, 5, 5, 1, 1, 0].getD i 0, 17⟩
  protocol := UAC_VERSION_1
  ignored _ := false
  mappedName _ _ := false
  allocated _ := 0
  nameAllocated _ _ := true
  added _ := 0

theorem loop_hangs : ¬ ∀ m : MixerBuild, m.Terminates := by
  intro all
  have step : Step loopedUnit.nextSource 5 5 := by
    unfold Step
    decide +kernel
  obtain ⟨turns, returned⟩ := (all loopedUnit).term 5
  unfold checkInputTerm at returned
  rw [checkInputTermLoop_isSome, not_stops (TransGen.single step)] at returned
  exact Bool.noConfusion returned

end MixerBuild

end AlsaDriver.Usb
