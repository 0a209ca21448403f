import Mathlib.Algebra.GroupWithZero.Nat
import AlsaDriver.Lib.Walks
import AlsaDriver.Usb.Descriptors

namespace AlsaDriver.Usb

def UAC2_CS_CONTROL_CLOCK_VALID : Nat := 0x02

universe u

/-- The answers of a device: `get` and `set` are the transfers for the pin of a selector, and `valid` the one for the
    validity of a source, `none` where it fails. -/
structure ClockDevice (σ : Type u) where
  get : σ → U8 → Int
  set : σ → U8 → U8 → Int × σ
  valid : U8 → Option U8

structure ClockChip (σ : Type u) where
  extra : Extra
  device : ClockDevice σ
  autoclock : Bool

structure ClockSearch (σ : Type u) where
  visited : U8 → Bool
  state : σ

namespace ClockChip

def EINVAL : Int := 22
def ENXIO : Int := 6

variable {σ : Type u} (chip : ClockChip σ)

def findClockEntity (dsubtype clockId : U8) : Option Nat :=
  (searchLoop (chip.extra.sndUsbFindCsintDesc dsubtype) (fun p => chip.extra.bUnitID p == clockId)
    (chip.extra.extralen + 1) none).join

def sndUsbFindClockSource (clockId : U8) : Option Nat := chip.findClockEntity UAC2_CLOCK_SOURCE clockId

def sndUsbFindClockSelector (clockId : U8) : Option Nat := chip.findClockEntity UAC2_CLOCK_SELECTOR clockId

def sndUsbFindClockMultiplier (clockId : U8) : Option Nat := chip.findClockEntity UAC2_CLOCK_MULTIPLIER clockId

def bNrInPins (p : Nat) : U8 := chip.extra.byte (p + 4)

def baCSourceID (p i : Nat) : U8 := chip.extra.byte (p + 5 + i)

def bCSourceID (p : Nat) : U8 := chip.extra.byte (p + 4)

def uacClockSelectorSetVal (s : σ) (selectorId pin : U8) : Int × σ :=
  let (ret, s) := chip.device.set s selectorId pin
  if ret < 0 then (ret, s)
  else if ret ≠ 1 then (- EINVAL, s)
  else
    let ret := chip.device.get s selectorId
    if ret < 0 then (ret, s) else if ret ≠ pin.val then (- EINVAL, s) else (ret, s)

def uac2ControlIsReadable (bmControls : U8) (control : Nat) : Bool := bmControls.val / 2 ^ (control * 2) % 2 == 1

def uacClockSourceIsValid (sourceId : U8) : Bool :=
  match chip.sndUsbFindClockSource sourceId with
  | none => false
  | some p =>
    if ¬ uac2ControlIsReadable (chip.extra.byte (p + 5)) (UAC2_CS_CONTROL_CLOCK_VALID - 1) then true
    else chip.device.valid sourceId |>.any (· != 0)

def tryPins (find : U8 → ClockSearch σ → Option (Int × ClockSearch σ)) (entityId : U8) (p : Nat) (cur : Int) :
    List Nat → ClockSearch σ → Option (Int × ClockSearch σ)
  | [], st => some (- ENXIO, st)
  | i :: rest, st =>
    if (i : Int) = cur then tryPins find entityId p cur rest st
    else
      match find (chip.baCSourceID p (i - 1)) st with
      | none => none
      | some (ret, st) =>
        if ret < 0 then tryPins find entityId p cur rest st
        else
          let (err, s) := chip.uacClockSelectorSetVal st.state entityId (Fin.ofNat 256 i)
          if err < 0 then tryPins find entityId p cur rest { st with state := s }
          else some (ret, { st with state := s })

/-- `__uac_clock_find_source` with so many calls in each other. -/
def uacClockFindSource (validate : Bool) : Nat → U8 → ClockSearch σ → Option (Int × ClockSearch σ)
  | 0, _, _ => none
  | turns + 1, entityId, st =>
    if st.visited entityId then some (- EINVAL, st)
    else
      let st := { st with visited := Function.update st.visited entityId true }
      match chip.sndUsbFindClockSource entityId with
      | some p =>
        let entityId := chip.extra.bUnitID p
        if validate ∧ ¬ chip.uacClockSourceIsValid entityId then some (- ENXIO, st) else some (entityId, st)
      | none =>
        match chip.sndUsbFindClockSelector entityId with
        | some p =>
          let cur := chip.device.get st.state (chip.extra.bUnitID p)
          if cur < 0 then some (cur, st)
          else if cur > (chip.bNrInPins p).val ∨ cur < 1 then some (- EINVAL, st)
          else
            match uacClockFindSource validate turns (chip.baCSourceID p (cur.toNat - 1)) st with
            | none => none
            | some (ret, st) =>
              if ¬ validate ∨ ret > 0 ∨ ¬ chip.autoclock then some (ret, st)
              else
                chip.tryPins (uacClockFindSource validate turns) entityId p cur
                  ((List.range (chip.bNrInPins p)).map Nat.succ) st
        | none =>
          match chip.sndUsbFindClockMultiplier entityId with
          | some p => uacClockFindSource validate turns (chip.bCSourceID p) st
          | none => some (- EINVAL, st)

/-- `snd_usb_clock_find_source`: with 256 entities, no more than 257 calls are in each other. -/
def sndUsbClockFindSource (entityId : U8) (validate : Bool) (s : σ) : Option (Int × σ) :=
  (chip.uacClockFindSource validate 257 entityId ⟨fun _ => false, s⟩).map fun (ret, st) => (ret, st.state)

end ClockChip

end AlsaDriver.Usb

namespace AlsaDriver.Usb

open Extra Walks Relation

universe u

namespace ClockChip

variable {σ : Type u} (chip : ClockChip σ)

structure Legal : Prop where
  report : ∀ s id p, chip.sndUsbFindClockSelector id = some p →
    1 ≤ chip.device.get s id ∧ chip.device.get s id ≤ (chip.bNrInPins p).val
  accept : ∀ s id p pin, chip.sndUsbFindClockSelector id = some p → 1 ≤ pin → pin ≤ chip.bNrInPins p →
    (chip.device.set s id pin).1 = 1 ∧ chip.device.get (chip.device.set s id pin).2 id = pin.val ∧
      ∀ other, other ≠ id → chip.device.get (chip.device.set s id pin).2 other = chip.device.get s other

def IsSource (id : U8) : Prop := (chip.sndUsbFindClockSource id).isSome = true

def ValidSource (id : U8) : Prop := chip.IsSource id ∧ chip.uacClockSourceIsValid id = true

def nextClock (pins : U8 → Int) (id : U8) : Option U8 :=
  match chip.sndUsbFindClockSource id with
  | some _ => none
  | none =>
    match chip.sndUsbFindClockSelector id with
    | some p => some (chip.baCSourceID p ((pins id).toNat - 1))
    | none => (chip.sndUsbFindClockMultiplier id).map chip.bCSourceID

def Edge (a b : U8) : Prop :=
  chip.sndUsbFindClockSource a = none ∧
    ((∃ p, chip.sndUsbFindClockSelector a = some p ∧ ∃ i < (chip.bNrInPins p).val, b = chip.baCSourceID p i) ∨
      (chip.sndUsbFindClockSelector a = none ∧ ∃ p, chip.sndUsbFindClockMultiplier a = some p ∧ b = chip.bCSourceID p))

/-- The pins lead from `a` to `b` over entities that are not visited yet. -/
def Leads (visited : U8 → Bool) (s : σ) : U8 → U8 → Prop :=
  ReflTransGen fun a b => visited a = false ∧ Step (chip.nextClock (chip.device.get s)) a b

def Closed (st st' : ClockSearch σ) : Prop :=
  ∀ u, st'.visited u = true → st.visited u = false →
    ¬ chip.ValidSource u ∧ ∀ w, chip.Edge u w → st'.visited w = true

def Marks (st st' : ClockSearch σ) : Prop := ∀ u, st.visited u = true → st'.visited u = true

/-- What a call of the search for `id` does. -/
structure Outcome (validate : Bool) (id : U8) (st : ClockSearch σ) (ret : Int) (st' : ClockSearch σ) : Prop where
  marks : Marks st st'
  marked : st'.visited id = true
  failed : ret < 0 → st'.state = st.state
  manual : validate = false ∨ chip.autoclock = false → st'.state = st.state
  pins : ∀ u, st.visited u = true → chip.device.get st'.state u = chip.device.get st.state u
  closed : ret < 0 → validate = true → chip.autoclock = true → chip.Closed st st'
  found : 0 ≤ ret → ∃ t : U8, ret = t.val ∧ chip.IsSource t ∧ (validate = true → chip.uacClockSourceIsValid t = true) ∧
    chip.Leads st.visited st'.state id t

variable {chip}

theorem Closed.refl (st : ClockSearch σ) : chip.Closed st st :=
  fun _ seen fresh => absurd (seen.symm.trans fresh) Bool.true_eq_false.mp

theorem Closed.trans {st st' st'' : ClockSearch σ} (first : chip.Closed st st') (second : chip.Closed st' st'')
    (marks : Marks st' st'') : chip.Closed st st'' := by
  intro u seen fresh
  cases middle : st'.visited u with
  | true =>
    obtain ⟨invalid, targets⟩ := first u middle fresh
    exact ⟨invalid, fun w edge => marks w (targets w edge)⟩
  | false => exact second u seen middle

theorem Leads.mono {visited visited' : U8 → Bool} {s s' : σ} {a b : U8} (leads : chip.Leads visited s a b)
    (fewer : ∀ u, visited u = false → visited' u = false)
    (same : ∀ u, visited u = false → chip.device.get s' u = chip.device.get s u) : chip.Leads visited' s' a b := by
  refine ReflTransGen.mono ?_ _ _ leads
  rintro u w ⟨fresh, step⟩
  refine ⟨fewer u fresh, ?_⟩
  unfold Step nextClock at step ⊢
  rw [same u fresh]
  exact step

theorem findClockEntity_id {dsubtype id : U8} {p : Nat} (found : chip.findClockEntity dsubtype id = some p) :
    chip.extra.bUnitID p = id :=
  of_decide_eq_true (searchLoop_join (chip.extra.advances_findCsintDesc dsubtype) found).1

theorem setVal_legal (legal : chip.Legal) {id pin : U8} {p : Nat} (selector : chip.sndUsbFindClockSelector id = some p)
    (low : 1 ≤ pin) (high : pin ≤ chip.bNrInPins p) (s : σ) :
    chip.uacClockSelectorSetVal s id pin = ((pin.val : Int), (chip.device.set s id pin).2) := by
  obtain ⟨size, taken, -⟩ := legal.accept s id p pin selector low high
  unfold uacClockSelectorSetVal
  dsimp only
  rw [size, if_neg (by decide), if_neg (by decide), taken, if_neg (by omega), if_neg (fun wrong => wrong rfl)]

variable {validate : Bool} {id : U8} {p : Nat} {find : U8 → ClockSearch σ → Option (Int × ClockSearch σ)}
  {st : ClockSearch σ} {r : Int × ClockSearch σ}

/-- What the loop over the other pins of the selector `id` does. -/
structure Tried (id : U8) (p : Nat) (cur : Int) (pins : List Nat) (st : ClockSearch σ) (ret : Int) (st' : ClockSearch σ) :
    Prop where
  marks : Marks st st'
  failed : ret < 0 → st'.state = st.state
  others : ∀ u, st.visited u = true → u ≠ id → chip.device.get st'.state u = chip.device.get st.state u
  targets : ret < 0 → ∀ i ∈ pins, (i : Int) ≠ cur → st'.visited (chip.baCSourceID p (i - 1)) = true
  closed : ret < 0 → chip.Closed st st'
  found : 0 ≤ ret → ∃ t : U8, ret = t.val ∧ chip.IsSource t ∧ chip.uacClockSourceIsValid t = true ∧
    ∃ i : Nat, chip.device.get st'.state id = i ∧ chip.Leads st.visited st'.state (chip.baCSourceID p (i - 1)) t

theorem tried_pins (legal : chip.Legal) (auto : chip.autoclock = true)
    (calls : ∀ id st r, find id st = some r → chip.Outcome true id st r.1 r.2)
    (selector : chip.sndUsbFindClockSelector id = some p) {cur : Int} {pins : List Nat}
    (allowed : ∀ i ∈ pins, 1 ≤ i ∧ i ≤ (chip.bNrInPins p).val) (seen : st.visited id = true)
    (done : chip.tryPins find id p cur pins st = some r) : chip.Tried id p cur pins st r.1 r.2 := by
  induction pins generalizing st with
  | nil =>
    obtain rfl := Option.some.inj done
    exact ⟨fun _ marked => marked, fun _ => rfl, fun _ _ _ => rfl, fun _ i inside => absurd inside List.not_mem_nil, fun _ => Closed.refl st,
      fun positive => absurd positive (show ¬ (0 : Int) ≤ - ENXIO by decide)⟩
  | cons i rest ih =>
    have later : ∀ j ∈ rest, 1 ≤ j ∧ j ≤ (chip.bNrInPins p).val := fun j inside => allowed j (List.mem_cons_of_mem i inside)
    obtain ⟨low, high⟩ := allowed i List.mem_cons_self
    unfold tryPins at done
    split at done
    · rename_i current
      have tried := ih later seen done
      refine ⟨tried.marks, tried.failed, tried.others, fun wrong j inside other => ?_, tried.closed, tried.found⟩
      rcases List.mem_cons.mp inside with rfl | behind
      · exact absurd current other
      · exact tried.targets wrong j behind other
    · cases called : find (chip.baCSourceID p (i - 1)) st with
      | none => rw [called] at done; exact absurd done.symm (Option.some_ne_none r)
      | some q =>
        have outcome := calls _ _ q called
        rw [called] at done
        dsimp only at done
        split at done
        · rename_i negative
          have tried := ih later (outcome.marks id seen) done
          have same := outcome.failed negative
          refine ⟨fun u marked => tried.marks u (outcome.marks u marked), fun wrong => (tried.failed wrong).trans same,
            fun u marked other => (tried.others u (outcome.marks u marked) other).trans (outcome.pins u marked),
            fun wrong j inside other => ?_, fun wrong => (outcome.closed negative rfl auto).trans (tried.closed wrong) tried.marks,
            fun positive => ?_⟩
          · rcases List.mem_cons.mp inside with rfl | behind
            · exact tried.marks _ outcome.marked
            · exact tried.targets wrong j behind other
          · obtain ⟨t, value, source, valid, pin, set_, leads⟩ := tried.found positive
            refine ⟨t, value, source, valid, pin, set_, leads.mono (fun u fresh => ?_) fun _ _ => rfl⟩
            exact Bool.eq_false_iff.mpr fun marked => Bool.false_ne_true (fresh.symm.trans (outcome.marks u marked))
        · rename_i positive
          have small : i < 256 := Nat.lt_of_le_of_lt high (chip.bNrInPins p).isLt
          have pin : (Fin.ofNat 256 i : U8).val = i := Nat.mod_eq_of_lt small
          have one : (1 : U8) ≤ Fin.ofNat 256 i := by
            show 1 ≤ (Fin.ofNat 256 i : U8).val
            rw [pin]
            exact low
          have top : (Fin.ofNat 256 i : U8) ≤ chip.bNrInPins p := by
            show (Fin.ofNat 256 i : U8).val ≤ _
            rw [pin]
            exact high
          obtain ⟨-, taken, others⟩ := legal.accept q.2.state id p _ selector one top
          rw [setVal_legal legal selector one top] at done
          dsimp only at done
          rw [if_neg (by omega)] at done
          obtain rfl := Option.some.inj done
          obtain ⟨t, value, source, valid, leads⟩ := outcome.found (by omega)
          refine ⟨outcome.marks, fun wrong => absurd wrong positive,
            fun u marked other => (others u other).trans (outcome.pins u marked), fun wrong => absurd wrong positive,
            fun wrong => absurd wrong positive, fun _ => ⟨t, value, source, valid rfl, i, ?_, ?_⟩⟩
          · exact taken.trans (congrArg Nat.cast pin)
          · refine leads.mono (fun _ fresh => fresh) fun u fresh => others u ?_
            rintro rfl
            exact Bool.false_ne_true (fresh.symm.trans seen)

theorem marks_mark (st : ClockSearch σ) (id : U8) : Marks st { st with visited := Function.update st.visited id true } := by
  intro u marked
  show Function.update st.visited id true u = true
  rw [Function.update_apply]
  split
  · rfl
  · exact marked

theorem Closed.mark {st' : ClockSearch σ} (closed : chip.Closed { st with visited := Function.update st.visited id true } st')
    (here : ¬ chip.ValidSource id ∧ ∀ w, chip.Edge id w → st'.visited w = true) : chip.Closed st st' := by
  intro u seen new
  by_cases same : u = id
  · rw [same]
    exact here
  · have unmarked : Function.update st.visited id true u = st.visited u := Function.update_of_ne same ..
    exact closed u seen (unmarked.trans new)

theorem Leads.mark {s : σ} {next t : U8} (fresh : st.visited id = false)
    (step : Step (chip.nextClock (chip.device.get s)) id next) {visited : U8 → Bool}
    (marks : ∀ u, Function.update st.visited id true u = true → visited u = true)
    (leads : chip.Leads visited s next t) : chip.Leads st.visited s id t := by
  refine ReflTransGen.head ⟨fresh, step⟩ (leads.mono (fun u new => ?_) fun _ _ => rfl)
  exact Bool.eq_false_iff.mpr fun marked => Bool.false_ne_true (new.symm.trans (marks u (marks_mark st id u marked)))

theorem outcome_error {ret : Int} (negative : ret < 0) (last : validate = true → chip.autoclock = true →
    ¬ chip.ValidSource id ∧ ∀ w, ¬ chip.Edge id w) :
    chip.Outcome validate id st ret { st with visited := Function.update st.visited id true } := by
  refine ⟨marks_mark st id, Function.update_self .., fun _ => rfl, fun _ => rfl, fun _ _ => rfl, fun _ valid auto => ?_,
    fun positive => absurd positive (Int.not_le.mpr negative)⟩
  obtain ⟨invalid, nowhere⟩ := last valid auto
  exact (Closed.refl _).mark ⟨invalid, fun w edge => absurd edge (nowhere w)⟩

theorem Outcome.behind {next : U8} {ret : Int} {st' : ClockSearch σ} (fresh : st.visited id = false)
    (outcome : chip.Outcome validate next { st with visited := Function.update st.visited id true } ret st')
    (step : 0 ≤ ret → Step (chip.nextClock (chip.device.get st'.state)) id next)
    (closed : ret < 0 → validate = true → chip.autoclock = true →
      ¬ chip.ValidSource id ∧ ∀ w, chip.Edge id w → st'.visited w = true) :
    chip.Outcome validate id st ret st' := by
  have marks := marks_mark st id
  refine ⟨fun u marked => outcome.marks u (marks u marked), outcome.marks id (Function.update_self ..), outcome.failed,
    outcome.manual, fun u marked => outcome.pins u (marks u marked),
    fun wrong valid auto => (outcome.closed wrong valid auto).mark (closed wrong valid auto), fun positive => ?_⟩
  obtain ⟨t, value, source, valid, leads⟩ := outcome.found positive
  exact ⟨t, value, source, valid, leads.mark fresh (step positive) fun _ marked => marked⟩

theorem source_last {p : Nat} (source : chip.sndUsbFindClockSource id = some p) (w : U8) : ¬ chip.Edge id w :=
  fun edge => Option.some_ne_none p (source.symm.trans edge.1)

theorem outcome_find (legal : chip.Legal) (ids : chip.sndUsbFindClockSource 0 = none) {turns : Nat}
    (done : chip.uacClockFindSource validate turns id st = some r) : chip.Outcome validate id st r.1 r.2 := by
  induction turns generalizing id st r validate with
  | zero => exact absurd done.symm (Option.some_ne_none r)
  | succ turns ih =>
    unfold uacClockFindSource at done
    split at done
    · rename_i seen
      obtain rfl := Option.some.inj done
      exact ⟨fun _ marked => marked, seen, fun _ => rfl, fun _ => rfl, fun _ _ => rfl, fun _ _ _ => Closed.refl st,
        fun positive => absurd positive (show ¬ (0 : Int) ≤ - EINVAL by decide)⟩
    rename_i fresh
    have fresh := Bool.eq_false_iff.mpr fresh
    dsimp only at done
    cases source : chip.sndUsbFindClockSource id with
    | some p =>
      have same : chip.extra.bUnitID p = id := findClockEntity_id source
      rw [source] at done
      dsimp only at done
      rw [same] at done
      split at done
      · rename_i invalid
        obtain rfl := Option.some.inj done
        exact outcome_error (show - ENXIO < 0 by decide) fun _ _ => ⟨fun valid => invalid.2 valid.2, source_last source⟩
      · rename_i fine
        obtain rfl := Option.some.inj done
        have here : chip.IsSource id := Option.isSome_iff_exists.mpr ⟨p, source⟩
        refine ⟨marks_mark st id, Function.update_self .., fun _ => rfl, fun _ => rfl, fun _ _ => rfl,
          fun wrong => absurd wrong (Int.not_lt.mpr (Int.natCast_nonneg _)), fun _ => ⟨id, rfl, here, fun valid => ?_,
            ReflTransGen.refl⟩⟩
        by_contra invalid
        exact fine ⟨valid, invalid⟩
    | none =>
      have invalid : ¬ chip.ValidSource id := by
        rintro ⟨wrong, -⟩
        unfold IsSource at wrong
        rw [source] at wrong
        exact Bool.noConfusion wrong
      rw [source] at done
      dsimp only at done
      cases selector : chip.sndUsbFindClockSelector id with
      | some p =>
        have same : chip.extra.bUnitID p = id := findClockEntity_id selector
        obtain ⟨low, high⟩ := legal.report st.state id p selector
        rw [selector] at done
        dsimp only at done
        rw [same, if_neg (by omega), if_neg (by omega)] at done
        cases called : chip.uacClockFindSource validate turns
            (chip.baCSourceID p ((chip.device.get st.state id).toNat - 1))
            { st with visited := Function.update st.visited id true } with
        | none => rw [called] at done; exact absurd done.symm (Option.some_ne_none r)
        | some q =>
          have outcome := ih called
          have pin : chip.device.get q.2.state id = chip.device.get st.state id :=
            outcome.pins id (Function.update_self ..)
          have marks : ∀ u, Function.update st.visited id true u = true → q.2.visited u = true := outcome.marks
          rw [called] at done
          dsimp only at done
          split at done
          · rename_i finished
            obtain rfl := Option.some.inj done
            refine outcome.behind fresh (fun _ => ?_) fun wrong valid auto => ?_
            · unfold Step nextClock
              rw [source, selector, pin]
            · rcases finished with unvalidated | positive | manual
              · exact absurd valid unvalidated
              · exact absurd positive (Int.not_lt.mpr (Int.le_of_lt wrong))
              · exact absurd auto manual
          · rename_i others
            have valid : validate = true := by_contra fun wrong => others (Or.inl wrong)
            have auto : chip.autoclock = true := by_contra fun wrong => others (Or.inr (Or.inr wrong))
            have negative : q.1 < 0 := by
              by_contra positive
              have zero : ¬ q.1 > 0 := fun more => others (Or.inr (Or.inl more))
              obtain ⟨t, value, here, -⟩ := outcome.found (Int.not_lt.mp positive)
              have first : t = 0 := Fin.ext (by show t.val = 0; omega)
              unfold IsSource at here
              rw [first, ids] at here
              exact Bool.noConfusion here
            subst valid
            have seen := marks id (Function.update_self ..)
            have tried := tried_pins legal auto (fun _ _ _ done => ih done) selector (fun i inside => ?_) seen done
            · have every : ∀ u, Function.update st.visited id true u = true → r.2.visited u = true :=
                fun u marked => tried.marks u (marks u marked)
              refine ⟨fun u marked => every u (marks_mark st id u marked), tried.marks id seen,
                fun wrong => (tried.failed wrong).trans (outcome.failed negative), fun manual => ?_, fun u marked => ?_,
                fun wrong _ _ => ?_, fun positive => ?_⟩
              · rcases manual with wrong | wrong
                · exact absurd wrong (Bool.true_eq_false.mp)
                · exact absurd (auto.symm.trans wrong) Bool.true_eq_false.mp
              · have apart : u ≠ id := by
                  rintro rfl
                  exact Bool.false_ne_true (fresh.symm.trans marked)
                exact (tried.others u (marks u (marks_mark st id u marked)) apart).trans
                  (outcome.pins u (marks_mark st id u marked))
              · have closed := (outcome.closed negative rfl auto).trans (tried.closed wrong) tried.marks
                refine closed.mark ⟨invalid, fun w edge => ?_⟩
                rcases edge.2 with ⟨p', found, i, inside, rfl⟩ | ⟨wrong, -⟩
                · obtain rfl := Option.some.inj (found.symm.trans selector)
                  by_cases here : ((i + 1 : Nat) : Int) = chip.device.get st.state id
                  · have index : (chip.device.get st.state id).toNat - 1 = i := by omega
                    rw [← index]
                    exact tried.marks _ outcome.marked
                  · exact tried.targets wrong (i + 1) (List.mem_map.mpr ⟨i, List.mem_range.mpr inside, rfl⟩) here
                · exact absurd (selector.symm.trans wrong) (Option.some_ne_none p)
              · obtain ⟨t, value, here, good, i, pinned, leads⟩ := tried.found positive
                refine ⟨t, value, here, fun _ => good, leads.mark fresh ?_ marks⟩
                unfold Step nextClock
                rw [source, selector, pinned]
                rfl
            · obtain ⟨k, small, rfl⟩ := List.mem_map.mp inside
              exact ⟨Nat.succ_pos k, List.mem_range.mp small⟩
      | none =>
        rw [selector] at done
        dsimp only at done
        cases multiplier : chip.sndUsbFindClockMultiplier id with
        | some p =>
          rw [multiplier] at done
          have outcome := ih done
          refine outcome.behind fresh (fun _ => ?_) fun _ _ _ => ⟨invalid, fun w edge => ?_⟩
          · unfold Step nextClock
            rw [source, selector, multiplier]
            rfl
          · rcases edge.2 with ⟨q, wrong, -⟩ | ⟨-, q, found, rfl⟩
            · exact absurd (wrong.symm.trans selector) (Option.some_ne_none q)
            · obtain rfl := Option.some.inj (found.symm.trans multiplier)
              exact outcome.marked
        | none =>
          rw [multiplier] at done
          obtain rfl := Option.some.inj done
          refine outcome_error (show - EINVAL < 0 by decide) fun _ _ => ⟨invalid, fun w edge => ?_⟩
          rcases edge.2 with ⟨q, wrong, -⟩ | ⟨-, q, wrong, -⟩
          · exact absurd (wrong.symm.trans selector) (Option.some_ne_none q)
          · exact absurd (wrong.symm.trans multiplier) (Option.some_ne_none q)

theorem returns_pins {k : Nat} {cur : Int} {pins : List Nat}
    (calls : ∀ id st r, find id st = some r → Marks st r.2)
    (returns : ∀ id st, unvisited st.visited < k → (find id st).isSome) (few : unvisited st.visited < k) :
    (chip.tryPins find id p cur pins st).isSome := by
  induction pins generalizing st with
  | nil => rfl
  | cons i rest ih =>
    unfold tryPins
    split
    · exact ih few
    · obtain ⟨q, called⟩ := Option.isSome_iff_exists.mp (returns (chip.baCSourceID p (i - 1)) st few)
      have fewer := Nat.lt_of_le_of_lt (unvisited_mono (calls _ _ q called)) few
      rw [called]
      dsimp only
      split
      · exact ih fewer
      split
      · exact ih fewer
      · rfl

theorem returns_find (legal : chip.Legal) (ids : chip.sndUsbFindClockSource 0 = none) {k turns : Nat}
    (few : unvisited st.visited ≤ k) (enough : k < turns) : (chip.uacClockFindSource validate turns id st).isSome := by
  induction turns generalizing k id st with
  | zero => exact absurd enough (Nat.not_lt_zero k)
  | succ turns ih =>
    unfold uacClockFindSource
    split
    · rfl
    rename_i fresh
    have fewer := Nat.lt_of_lt_of_le (unvisited_update (Bool.eq_false_iff.mpr fresh)) few
    have calls : ∀ id st r, chip.uacClockFindSource validate turns id st = some r → Marks st r.2 :=
      fun _ _ _ done => (outcome_find legal ids done).marks
    have returns : ∀ id st, unvisited st.visited < k → (chip.uacClockFindSource validate turns id st).isSome :=
      fun id st less => ih (Nat.le_sub_one_of_lt less) (by omega)
    dsimp only
    cases chip.sndUsbFindClockSource id with
    | some p =>
      dsimp only
      split <;> rfl
    | none =>
      cases chip.sndUsbFindClockSelector id with
      | some p =>
        dsimp only
        split
        · rfl
        split
        · rfl
        obtain ⟨q, called⟩ := Option.isSome_iff_exists.mp
          (returns (chip.baCSourceID p ((chip.device.get st.state (chip.extra.bUnitID p)).toNat - 1))
            { st with visited := Function.update st.visited id true } fewer)
        have less := Nat.lt_of_le_of_lt (unvisited_mono (calls _ _ q called)) fewer
        rw [called]
        dsimp only
        split
        · rfl
        · exact returns_pins calls returns less
      | none =>
        cases chip.sndUsbFindClockMultiplier id with
        | some p => exact returns _ _ fewer
        | none => rfl

variable (chip)

/-- What a search does: a positive result is a clock source to which the pins lead as they are now, an error with all
    pins tried means that there is no valid source, and pins stay without `autoclock` and where the search fails. -/
structure Searched (validate : Bool) (id : U8) (s : σ) (ret : Int) (s' : σ) : Prop where
  source : 0 < ret → ∃ t : U8, ret = t.val ∧ chip.IsSource t ∧
    ReflTransGen (Step (chip.nextClock (chip.device.get s'))) id t ∧ (validate = true → chip.uacClockSourceIsValid t = true)
  exhausted : ret < 0 → validate = true → chip.autoclock = true → ∀ t, ReflTransGen chip.Edge id t → ¬ chip.ValidSource t
  manual : chip.autoclock = false → s' = s
  failed : ret < 0 → s' = s

def selectorOfTwo : ClockChip Bool where
  extra := ⟨fun i => [7, 0x24, 0x0b, 1, 2, 2, 3, 8, 0x24, 0x0a, 2, 0, 4, 0, 0, 8, 0x24, 0x0a, 3, 0, 4, 0, 0].getD i 0, 23⟩
  device := ⟨fun s id => if id = 1 then if s then 2 else 1 else 0, fun _ _ pin => (1, pin == 2), fun id => some (if id = 3 then 1 else 0)⟩
  autoclock := true

theorem selectorOfTwo_legal : selectorOfTwo.Legal := by
  have only : ∀ id, (selectorOfTwo.sndUsbFindClockSelector id).isSome = true → id = 1 := by decide +kernel
  have place : selectorOfTwo.sndUsbFindClockSelector 1 = some 0 := by decide +kernel
  refine ⟨fun s id p selector => ?_, fun s id p pin selector low high => ?_⟩
  · obtain rfl := only id (Option.isSome_iff_exists.mpr ⟨p, selector⟩)
    obtain rfl := Option.some.inj (selector.symm.trans place)
    revert s
    decide +kernel
  · obtain rfl := only id (Option.isSome_iff_exists.mpr ⟨p, selector⟩)
    obtain rfl := Option.some.inj (selector.symm.trans place)
    refine ⟨rfl, ?_, fun other apart => ?_⟩
    · revert pin
      revert s
      decide +kernel
    · show (if other = 1 then _ else (0 : Int)) = if other = 1 then _ else 0
      rw [if_neg apart, if_neg apart]

example : selectorOfTwo.sndUsbClockFindSource 1 true false = some (3, true) := by decide +kernel

end ClockChip

end AlsaDriver.Usb
