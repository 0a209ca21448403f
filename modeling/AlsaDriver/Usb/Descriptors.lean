import Mathlib.Algebra.GroupWithZero.Nat
import Mathlib.Data.Fin.Basic

namespace AlsaDriver.Usb

abbrev U8 := Fin 256

instance neZeroU8 : NeZero 256 := ⟨Nat.succ_ne_zero 255⟩

def USB_DT_CS_INTERFACE : U8 := 0x24

def UAC2_CLOCK_SOURCE : U8 := 0x0a
def UAC2_CLOCK_SELECTOR : U8 := 0x0b
def UAC2_CLOCK_MULTIPLIER : U8 := 0x0c

structure Extra where
  byte : Nat → U8
  extralen : Nat

namespace Extra

variable (extra : Extra)

def bLength (p : Nat) : U8 := extra.byte p

def bDescriptorType (p : Nat) : U8 := extra.byte (p + 1)

def bDescriptorSubtype (p : Nat) : U8 := extra.byte (p + 2)

def bUnitID (p : Nat) : U8 := extra.byte (p + 3)

def le16 (p : Nat) : Nat := extra.byte p + 256 * extra.byte (p + 1)

def le32 (p : Nat) : Nat := extra.le16 p + 65536 * extra.le16 (p + 2)

/-- The loop of `snd_usb_find_desc` for so many turns; `none` where it is still going on. -/
def findDescLoop (after : Option Nat) (dtype : U8) : Nat → Nat → Option (Option Nat)
  | 0, _ => none
  | turns + 1, p =>
    if p < extra.extralen then
      if extra.bLength p < 2 then some none
      else if p + extra.bLength p > extra.extralen then some none
      else if extra.bDescriptorType p = dtype ∧ after.all (· < p) then some (some p)
      else findDescLoop after dtype turns (p + extra.bLength p)
    else some none

def sndUsbFindDesc (dtype : U8) (after : Option Nat) : Option Nat :=
  (extra.findDescLoop after dtype (extra.extralen + 1) 0).join

end Extra

def searchLoop (search : Option Nat → Option Nat) (accept : Nat → Bool) : Nat → Option Nat → Option (Option Nat)
  | 0, _ => none
  | turns + 1, after =>
    match search after with
    | none => some none
    | some p => if accept p then some (some p) else searchLoop search accept turns (some p)

namespace Extra

variable (extra : Extra)

def sndUsbFindCsintDesc (dsubtype : U8) (after : Option Nat) : Option Nat :=
  (searchLoop (extra.sndUsbFindDesc USB_DT_CS_INTERFACE)
    (fun p => 3 ≤ extra.bLength p && extra.bDescriptorSubtype p == dsubtype) (extra.extralen + 1) after).join

variable {extra}

def Advances (extra : Extra) (search : Option Nat → Option Nat) : Prop :=
  ∀ after p, search after = some p → p < extra.extralen ∧ ∀ q ∈ after, q < p

theorem findDescLoop_returns (after : Option Nat) (dtype : U8) {turns p : Nat} (enough : extra.extralen ≤ p + turns) :
    ∃ result, extra.findDescLoop after dtype (turns + 1) p = some result ∧
      ∀ q ∈ result, q < extra.extralen ∧ ∀ a ∈ after, a < q := by
  have none_ : ∀ q ∈ (none : Option Nat), q < extra.extralen ∧ ∀ a ∈ after, a < q := fun _ wrong => absurd wrong (Option.not_mem_none _)
  induction turns generalizing p with
  | zero =>
    unfold findDescLoop
    rw [if_neg (by omega)]
    exact ⟨none, rfl, none_⟩
  | succ turns ih =>
    unfold findDescLoop
    split
    · rename_i inside
      split
      · exact ⟨none, rfl, none_⟩
      rename_i long
      have long : 2 ≤ (extra.bLength p).val := Nat.not_lt.mp long
      split
      · exact ⟨none, rfl, none_⟩
      split
      · rename_i found
        refine ⟨some p, rfl, fun q here => ?_⟩
        obtain rfl := Option.some.inj here
        refine ⟨inside, fun a given => ?_⟩
        rw [Option.mem_def.mp given] at found
        exact of_decide_eq_true found.2
      · exact ih (by omega)
    · exact ⟨none, rfl, none_⟩

theorem advances_findDesc (extra : Extra) (dtype : U8) : extra.Advances (extra.sndUsbFindDesc dtype) := by
  intro after p found
  obtain ⟨result, returned, ahead⟩ := extra.findDescLoop_returns after dtype (Nat.le_add_left extra.extralen 0)
  unfold sndUsbFindDesc at found
  rw [returned] at found
  exact ahead p found

theorem searchLoop_returns {search : Option Nat → Option Nat} (advances : extra.Advances search) (accept : Nat → Bool)
    {turns : Nat} {after : Option Nat} (enough : extra.extralen ≤ after.elim 0 Nat.succ + turns) :
    ∃ result, searchLoop search accept (turns + 1) after = some result ∧
      ∀ q ∈ result, accept q = true ∧ q < extra.extralen ∧ ∀ a ∈ after, a < q := by
  induction turns generalizing after with
  | zero =>
    unfold searchLoop
    cases step : search after with
    | none => exact ⟨none, rfl, fun _ wrong => absurd wrong (Option.not_mem_none _)⟩
    | some p =>
      obtain ⟨inside, ahead⟩ := advances after p step
      cases after with
      | none => exact absurd inside (Nat.not_lt.mpr (Nat.le_trans enough (Nat.zero_le p)))
      | some a =>
        have behind := ahead a rfl
        have enough : extra.extralen ≤ a + 1 := enough
        omega
  | succ turns ih =>
    unfold searchLoop
    cases step : search after with
    | none => exact ⟨none, rfl, fun _ wrong => absurd wrong (Option.not_mem_none _)⟩
    | some p =>
      obtain ⟨inside, ahead⟩ := advances after p step
      dsimp only
      split
      · rename_i accepted
        refine ⟨some p, rfl, fun q here => ?_⟩
        obtain rfl := Option.some.inj here
        exact ⟨accepted, inside, ahead⟩
      · have further : after.elim 0 Nat.succ ≤ p := by
          cases after with
          | none => exact Nat.zero_le p
          | some a => exact ahead a rfl
        have enough : extra.extralen ≤ p + 1 + turns := by omega
        obtain ⟨result, returned, found⟩ := @ih (some p) enough
        refine ⟨result, returned, fun q here => ?_⟩
        obtain ⟨accepted, inside', ahead'⟩ := found q here
        exact ⟨accepted, inside', fun a given => Nat.lt_trans (ahead a given) (ahead' p rfl)⟩

theorem searchLoop_join {search : Option Nat → Option Nat} (advances : extra.Advances search) {accept : Nat → Bool}
    {after : Option Nat} {p : Nat} (found : (searchLoop search accept (extra.extralen + 1) after).join = some p) :
    accept p = true ∧ p < extra.extralen ∧ ∀ a ∈ after, a < p := by
  obtain ⟨result, returned, ahead⟩ := searchLoop_returns advances accept (Nat.le_add_left extra.extralen (after.elim 0 Nat.succ))
  rw [returned] at found
  exact ahead p found

theorem advances_findCsintDesc (extra : Extra) (dsubtype : U8) : extra.Advances (extra.sndUsbFindCsintDesc dsubtype) :=
  fun _ _ found => (searchLoop_join (extra.advances_findDesc _) found).2

end Extra

end AlsaDriver.Usb
