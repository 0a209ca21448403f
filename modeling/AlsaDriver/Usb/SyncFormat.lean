import AlsaDriver.Usb.PacketSize

namespace AlsaDriver.Usb

open Runs

def INT_MIN : Int := -2 ^ 31

/-- A feedback packet, `word` is what the first four bytes of its buffer hold. -/
structure SyncPacket where
  status : Int
  actualLength : Nat
  word : Nat

namespace SyncPacket

variable (urb : SyncPacket)

def masked : Nat := if urb.actualLength = 3 then urb.word &&& 0x00ffffff else urb.word &&& 0x0fffffff

def value : Option Nat :=
  if urb.status ≠ 0 ∨ urb.actualLength < 3 then none
  else if urb.masked = 0 then none
  else some urb.masked

theorem value_bounds {urb : SyncPacket} {f : Nat} (some : urb.value = some f) : 0 < f ∧ f < 2 ^ 28 := by
  have masked : urb.masked < 2 ^ 28 := by
    unfold masked
    split
    · exact Nat.lt_of_le_of_lt Nat.and_le_right (by decide)
    · exact Nat.lt_of_le_of_lt Nat.and_le_right (by decide)
  unfold value at some
  split at some
  · exact absurd some (Option.some_ne_none f).symm
  · split at some
    · exact absurd some (Option.some_ne_none f).symm
    · rename_i nonzero
      rw [← Option.some.inj some]
      exact ⟨Nat.pos_of_ne_zero nonzero, masked⟩

end SyncPacket

def scaled (f : Nat) (shift : Int) : Nat := if 0 ≤ shift then f * 2 ^ shift.toNat else f / 2 ^ (-shift).toNat

def shiftLeft (freqn : Nat) : Nat → Nat → Int → Option (Nat × Int)
  | 0, _, _ => none
  | fuel + 1, f, shift =>
    if f < freqn - freqn / 4 then shiftLeft freqn fuel (wrap (f * 2)) (shift + 1) else some (f, shift)

def shiftRight (freqn : Nat) : Nat → Nat → Int → Option (Nat × Int)
  | 0, _, _ => none
  | fuel + 1, f, shift =>
    if wrap (freqn + freqn / 2) < f then shiftRight freqn fuel (f / 2) (shift - 1) else some (f, shift)

structure FreqState where
  freqn : Nat
  freqmax : Nat
  freqm : Nat
  freqshift : Int

namespace FreqState

variable (ep : FreqState)

def formatted (fuel f : Nat) : Option (Nat × Int) :=
  if ep.freqshift = INT_MIN then
    (shiftLeft ep.freqn fuel f 0).bind fun shifted => shiftRight ep.freqn fuel shifted.1 shifted.2
  else if 0 ≤ ep.freqshift then some (wrap (f * 2 ^ ep.freqshift.toNat), ep.freqshift)
  else some (f / 2 ^ (-ep.freqshift).toNat, ep.freqshift)

def Valid (f : Nat) : Prop := ep.freqn - ep.freqn / 8 ≤ f ∧ f ≤ ep.freqmax

instance (f : Nat) : Decidable (ep.Valid f) := inferInstanceAs (Decidable (_ ∧ _))

def update (f : Nat) (shift : Int) : FreqState :=
  if ep.Valid f then { ep with freqm := f, freqshift := shift } else { ep with freqshift := INT_MIN }

/-- `snd_usb_handle_sync_urb` for a sync endpoint. The fuel is for each of the two loops. -/
def sndUsbHandleSyncUrb (fuel : Nat) (urb : SyncPacket) : Option FreqState :=
  match urb.value with
  | none => some ep
  | some f => (ep.formatted fuel f).map fun result => ep.update result.1 result.2

def exec (ep : FreqState) (urb : SyncPacket) : FreqState := (ep.sndUsbHandleSyncUrb 32 urb).getD ep

/-- The frequencies that `snd_usb_endpoint_set_params` leaves. -/
def configured (freqn freqmax : Nat) : FreqState := ⟨freqn, freqmax, freqn, INT_MIN⟩

/-- What a packet with the value `f` has to do, where `g` is that value in the format of the endpoint. -/
structure Formats (after : FreqState) (f g : Nat) : Prop where
  window : ep.freqshift = INT_MIN → ep.freqn - ep.freqn / 4 ≤ g ∧ g ≤ ep.freqn + ep.freqn / 2
  update : ep.Valid g → (ep.freqn - ep.freqn / 8 ≤ after.freqm ∧ after.freqm ≤ ep.freqmax) ∧
    after.freqm = scaled f after.freqshift
  keep : ¬ ep.Valid g → after.freqm = ep.freqm

structure Right (urb : SyncPacket) (after : FreqState) : Prop where
  ends : ∀ fuel ≥ 32, ep.sndUsbHandleSyncUrb fuel urb = some after
  formats : ∀ f, urb.value = some f → ∀ g shift, ep.formatted 32 f = some (g, shift) → ep.Formats after f g

/-- A detection does not meet the one value that halving takes past the window, and a known shift does not push
    bits out of a value so that the rest of it looks valid. -/
structure Clear (urb : SyncPacket) : Prop where
  window : ep.freqshift = INT_MIN → ep.freqn % 4 = 3 → ∀ f, urb.value = some f →
    ∀ j, f / 2 ^ j ≠ ep.freqn + ep.freqn / 2 + 1
  bits : 0 ≤ ep.freqshift → ∀ f, urb.value = some f → 2 ^ 32 ≤ f * 2 ^ ep.freqshift.toNat →
    ¬ ep.Valid (f * 2 ^ ep.freqshift.toNat % 2 ^ 32)

end FreqState

theorem scaled_natCast (f k : Nat) : scaled f k = f * 2 ^ k := if_pos (Int.natCast_nonneg k)

theorem scaled_neg (f j : Nat) : scaled f (-j) = f / 2 ^ j := by
  rw [scaled]
  split
  · rename_i none
    have zero : j = 0 := by omega
    rw [zero]
    exact (Nat.mul_one f).trans (Nat.div_one f).symm
  · rw [Int.neg_neg, Int.toNat_natCast]

section loops

variable {freqn : Nat}

theorem shiftLeft_ends (small : freqn < 2 ^ 26) (fuel : Nat) {f : Nat} (enough : freqn ≤ f * 2 ^ fuel) (shift : Int) :
    ∃ k : Nat, (∀ more > fuel, shiftLeft freqn more f shift = some (f * 2 ^ k, shift + k)) ∧
      freqn - freqn / 4 ≤ f * 2 ^ k ∧ (k = 0 ∨ ∃ i, k = i + 1 ∧ f * 2 ^ i < freqn - freqn / 4) := by
  by_cases low : f < freqn - freqn / 4
  · cases fuel with
    | zero =>
      rw [Nat.pow_zero, Nat.mul_one] at enough
      omega
    | succ fuel =>
      have next : freqn ≤ f * 2 * 2 ^ fuel := by
        rwa [Nat.mul_assoc, ← Nat.pow_succ']
      have whole : wrap (f * 2) = f * 2 := wrap_of_lt (by omega)
      obtain ⟨k, ends, reached, first⟩ := shiftLeft_ends small fuel next (shift + 1)
      rw [Nat.mul_assoc, ← Nat.pow_succ'] at reached
      refine ⟨k + 1, ?_, reached, .inr ⟨k, rfl, ?_⟩⟩
      · intro more above
        cases more with
        | zero => omega
        | succ more =>
          rw [shiftLeft, if_pos low, whole, ends more (by omega), Nat.mul_assoc, ← Nat.pow_succ', Int.add_assoc,
            Int.add_comm 1, Int.natCast_succ]
      · rcases first with none | ⟨i, some, below⟩
        · rw [none, Nat.pow_zero, Nat.mul_one]
          exact low
        · rwa [some, Nat.pow_succ', ← Nat.mul_assoc]
  · refine ⟨0, ?_, ?_, .inl rfl⟩
    · intro more above
      cases more with
      | zero => omega
      | succ more => rw [shiftLeft, if_neg low, Nat.pow_zero, Nat.mul_one, Int.natCast_zero, Int.add_zero]
    · rw [Nat.pow_zero, Nat.mul_one]
      exact not_lt.mp low

theorem shiftRight_ends (positive : 0 < freqn) (small : freqn < 2 ^ 26) (fuel : Nat) {f : Nat}
    (enough : f < 2 ^ (fuel + 1)) (shift : Int) :
    ∃ j : Nat, (∀ more > fuel, shiftRight freqn more f shift = some (f / 2 ^ j, shift - j)) ∧
      f / 2 ^ j ≤ freqn + freqn / 2 ∧ (j = 0 ∨ ∃ i, j = i + 1 ∧ freqn + freqn / 2 < f / 2 ^ i) := by
  have whole : wrap (freqn + freqn / 2) = freqn + freqn / 2 := wrap_of_lt (by omega)
  by_cases high : freqn + freqn / 2 < f
  · cases fuel with
    | zero => omega
    | succ fuel =>
      have next : f / 2 < 2 ^ (fuel + 1) := Nat.div_lt_of_lt_mul (by rwa [← Nat.pow_succ'])
      obtain ⟨j, ends, reached, first⟩ := shiftRight_ends positive small fuel next (shift - 1)
      rw [Nat.div_div_eq_div_mul, ← Nat.pow_succ'] at reached
      refine ⟨j + 1, ?_, reached, .inr ⟨j, rfl, ?_⟩⟩
      · intro more above
        cases more with
        | zero => omega
        | succ more =>
          rw [shiftRight, whole, if_pos high, ends more (by omega), Nat.div_div_eq_div_mul, ← Nat.pow_succ',
            Int.sub_sub, Int.add_comm 1, Int.natCast_succ]
      · rcases first with none | ⟨i, some, below⟩
        · rw [none, Nat.pow_zero, Nat.div_one]
          exact high
        · rwa [some, Nat.pow_succ', ← Nat.div_div_eq_div_mul]
  · refine ⟨0, ?_, ?_, .inl rfl⟩
    · intro more above
      cases more with
      | zero => omega
      | succ more => rw [shiftRight, whole, if_neg high, Nat.pow_zero, Nat.div_one, Int.natCast_zero, Int.sub_zero]
    · rw [Nat.pow_zero, Nat.div_one]
      exact not_lt.mp high

theorem halved_window {f i : Nat} (high : freqn + freqn / 2 < f / 2 ^ i) (low : f / 2 ^ (i + 1) ≤ freqn + freqn / 2) :
    freqn - freqn / 4 ≤ f / 2 ^ (i + 1) ↔ (freqn % 4 = 3 → ∀ j, f / 2 ^ j ≠ freqn + freqn / 2 + 1) := by
  have half : f / 2 ^ (i + 1) = f / 2 ^ i / 2 := by rw [Nat.pow_succ, Nat.div_div_eq_div_mul]
  constructor
  · intro inside odd j bad
    by_cases before : j ≤ i
    · have larger : f / 2 ^ i ≤ f / 2 ^ j := Nat.div_le_div_left (Nat.pow_le_pow_right Nat.two_pos before) (Nat.two_pow_pos j)
      omega
    · have smaller : f / 2 ^ j ≤ f / 2 ^ (i + 1) :=
        Nat.div_le_div_left (Nat.pow_le_pow_right Nat.two_pos (by omega)) (Nat.two_pow_pos (i + 1))
      omega
  · intro clear
    by_contra outside
    exact clear (by omega) i (by omega)

end loops

namespace FreqState

variable {ep : FreqState} {f : Nat}

theorem detection (detects : ep.freqshift = INT_MIN) (positive : 0 < ep.freqn) (small : ep.freqn < 2 ^ 26)
    (nonzero : 0 < f) (bound : f < 2 ^ 28) :
    ∃ g shift, (∀ fuel ≥ 32, ep.formatted fuel f = some (g, shift)) ∧ g = scaled f shift ∧
      (ep.freqn - ep.freqn / 4 ≤ g ∧ g ≤ ep.freqn + ep.freqn / 2 ↔
        (ep.freqn % 4 = 3 → ∀ j, f / 2 ^ j ≠ ep.freqn + ep.freqn / 2 + 1)) := by
  have enough : ep.freqn ≤ f * 2 ^ 26 := by omega
  obtain ⟨k, left, reached, first⟩ := shiftLeft_ends small 26 enough 0
  have shifted : f * 2 ^ k < 2 ^ (27 + 1) := by
    rcases first with none | ⟨i, some, below⟩
    · rw [none, Nat.pow_zero, Nat.mul_one]
      exact bound
    · rw [some, Nat.pow_succ, ← Nat.mul_assoc]
      omega
  obtain ⟨j, right, down, last⟩ := shiftRight_ends positive small 27 shifted (0 + k)
  have ends (fuel : Nat) (more : fuel ≥ 32) :
      ep.formatted fuel f = Option.some (f * 2 ^ k / 2 ^ j, 0 + (k : Int) - j) := by
    rw [formatted, if_pos detects, left fuel (by omega)]
    exact right fuel (by omega)
  refine ⟨_, _, ends, ?_⟩
  rcases first with none | ⟨i, again, below⟩
  · subst none
    rw [Nat.pow_zero, Nat.mul_one] at reached down last ⊢
    rw [Int.natCast_zero, Int.add_zero, Int.zero_sub]
    refine ⟨(scaled_neg f j).symm, ?_⟩
    rcases last with none | ⟨i, again, above⟩
    · subst none
      rw [Nat.pow_zero, Nat.div_one] at down ⊢
      refine iff_of_true ⟨reached, down⟩ fun _ j bad => ?_
      have fewer := Nat.div_le_self f (2 ^ j)
      omega
    · subst again
      rw [and_iff_left down]
      exact halved_window above down
  · -- a value that was doubled is not halved again
    have doubled : f * 2 ^ k = f * 2 ^ i * 2 := by rw [again, Nat.pow_succ, Nat.mul_assoc]
    have stays : j = 0 := by
      rcases last with none | ⟨i', -, above⟩
      · exact none
      · have fewer := Nat.div_le_self (f * 2 ^ k) (2 ^ i')
        omega
    subst stays
    rw [Nat.pow_zero, Nat.div_one] at down ⊢
    rw [Int.zero_add, Int.natCast_zero, Int.sub_zero]
    refine ⟨(scaled_natCast f k).symm, iff_of_true ⟨reached, down⟩ fun _ j bad => ?_⟩
    have fewer := Nat.div_le_self f (2 ^ j)
    have grown : f ≤ f * 2 ^ i := Nat.le_mul_of_pos_right f (Nat.two_pow_pos i)
    omega

theorem known_format (known : ep.freqshift ≠ INT_MIN) (f : Nat) :
    ∃ g, (∀ fuel, ep.formatted fuel f = some (g, ep.freqshift)) ∧
      ((ep.Valid g → g = scaled f ep.freqshift) ↔
        (0 ≤ ep.freqshift → 2 ^ 32 ≤ f * 2 ^ ep.freqshift.toNat →
          ¬ ep.Valid (f * 2 ^ ep.freqshift.toNat % 2 ^ 32))) := by
  by_cases left : 0 ≤ ep.freqshift
  · refine ⟨_, fun fuel => by rw [formatted, if_neg known, if_pos left], ?_⟩
    rw [forall_prop_of_true left, scaled, if_pos left]
    by_cases small : f * 2 ^ ep.freqshift.toNat < 2 ^ 32
    · rw [wrap_of_lt small]
      exact iff_of_true (fun _ => rfl) fun large => absurd small (not_lt.mpr large)
    · have cut : wrap (f * 2 ^ ep.freqshift.toNat) < 2 ^ 32 := Nat.mod_lt _ (Nat.two_pow_pos 32)
      rw [forall_prop_of_true (not_lt.mp small)]
      exact ⟨fun exact valid => small (exact valid ▸ cut), fun invalid valid => absurd valid invalid⟩
  · refine ⟨_, fun fuel => by rw [formatted, if_neg known, if_neg left], ?_⟩
    rw [scaled, if_neg left]
    exact iff_of_true (fun _ => rfl) fun right => absurd right left

theorem handled {urb : SyncPacket} {fuel g : Nat} {shift : Int} (some : urb.value = some f)
    (format : ep.formatted fuel f = .some (g, shift)) : ep.sndUsbHandleSyncUrb fuel urb = .some (ep.update g shift) := by
  rw [sndUsbHandleSyncUrb, some]
  exact congrArg (Option.map _) format

theorem ignored {urb : SyncPacket} (fuel : Nat) (none : urb.value = none) : ep.sndUsbHandleSyncUrb fuel urb = some ep := by
  rw [sndUsbHandleSyncUrb, none]

theorem formats_update {g : Nat} {shift : Int} : ep.Formats (ep.update g shift) f g ↔
    (ep.freqshift = INT_MIN → ep.freqn - ep.freqn / 4 ≤ g ∧ g ≤ ep.freqn + ep.freqn / 2) ∧
      (ep.Valid g → g = scaled f shift) := by
  by_cases valid : ep.Valid g
  · have whole : ep.update g shift = { ep with freqm := g, freqshift := shift } := if_pos valid
    rw [whole]
    exact ⟨fun formats => ⟨formats.window, fun _ => (formats.update valid).2⟩,
      fun both => ⟨both.1, fun _ => ⟨valid, both.2 valid⟩, fun invalid => absurd valid invalid⟩⟩
  · have whole : ep.update g shift = { ep with freqshift := INT_MIN } := if_neg valid
    rw [whole]
    exact ⟨fun formats => ⟨formats.window, fun inside => absurd inside valid⟩,
      fun both => ⟨both.1, fun inside => absurd inside valid, fun _ => rfl⟩⟩

theorem right_iff (urb : SyncPacket) (positive : 0 < ep.freqn) (small : ep.freqn < 2 ^ 26) :
    ep.Right urb (ep.exec urb) ↔ ep.Clear urb := by
  cases received : urb.value with
  | none =>
    have same : ep.exec urb = ep := by rw [exec, ignored 32 received, Option.getD_some]
    rw [same]
    have empty (f : Nat) : urb.value ≠ some f := fun some => by
      rw [received] at some
      cases some
    exact iff_of_true ⟨fun fuel _ => ignored fuel received, fun f some => absurd some (empty f)⟩
      ⟨fun _ _ f some => absurd some (empty f), fun _ f some => absurd some (empty f)⟩
  | some f =>
    obtain ⟨nonzero, bound⟩ := SyncPacket.value_bounds received
    have clear : ep.Clear urb ↔
        (ep.freqshift = INT_MIN → ep.freqn % 4 = 3 → ∀ j, f / 2 ^ j ≠ ep.freqn + ep.freqn / 2 + 1) ∧
          (0 ≤ ep.freqshift → 2 ^ 32 ≤ f * 2 ^ ep.freqshift.toNat →
            ¬ ep.Valid (f * 2 ^ ep.freqshift.toNat % 2 ^ 32)) := by
      constructor
      · exact fun clear => ⟨fun detects odd => clear.window detects odd f received, fun known => clear.bits known f received⟩
      · intro both
        refine ⟨fun detects odd f' same => ?_, fun known f' same => ?_⟩
        · obtain rfl := Option.some.inj (received.symm.trans same)
          exact both.1 detects odd
        · obtain rfl := Option.some.inj (received.symm.trans same)
          exact both.2 known
    have right (g : Nat) (shift : Int) (ends : ∀ fuel ≥ 32, ep.formatted fuel f = some (g, shift)) :
        ep.Right urb (ep.exec urb) ↔ ep.Formats (ep.update g shift) f g := by
      have after : ep.exec urb = ep.update g shift := by
        rw [exec, handled received (ends 32 (Nat.le_refl 32)), Option.getD_some]
      rw [after]
      constructor
      · exact fun right => right.formats f received g shift (ends 32 (Nat.le_refl 32))
      · intro formats
        refine ⟨fun fuel more => handled received (ends fuel more), fun f' same g' shift' format => ?_⟩
        obtain rfl := Option.some.inj (received.symm.trans same)
        obtain ⟨rfl, rfl⟩ := Prod.mk.inj (Option.some.inj ((ends 32 (Nat.le_refl 32)).symm.trans format))
        exact formats
    rw [clear]
    by_cases detects : ep.freqshift = INT_MIN
    · obtain ⟨g, shift, ends, exact, window⟩ := detection detects positive small nonzero bound
      have unknown : ¬ 0 ≤ ep.freqshift := by
        rw [detects]
        decide
      rw [right g shift ends, formats_update, forall_prop_of_true detects, forall_prop_of_true detects,
        forall_prop_of_false unknown, and_true, window]
      exact and_iff_left fun _ => exact
    · obtain ⟨g, ends, exact⟩ := known_format detects f
      rw [right g _ fun fuel _ => ends fuel, formats_update, forall_prop_of_false detects, forall_prop_of_false detects,
        true_and, true_and, exact]

theorem exec_config (urb : SyncPacket) : (ep.exec urb).freqn = ep.freqn ∧ (ep.exec urb).freqmax = ep.freqmax := by
  have updated (g : Nat) (shift : Int) : (ep.update g shift).freqn = ep.freqn ∧ (ep.update g shift).freqmax = ep.freqmax := by
    rw [update]
    split
    · exact ⟨rfl, rfl⟩
    · exact ⟨rfl, rfl⟩
  cases after : ep.sndUsbHandleSyncUrb 32 urb with
  | none =>
    rw [exec, after]
    exact ⟨rfl, rfl⟩
  | some ep' =>
    rw [exec, after, Option.getD_some]
    cases received : urb.value with
    | none =>
      rw [ignored 32 received] at after
      obtain rfl := Option.some.inj after
      exact ⟨rfl, rfl⟩
    | some f =>
      rw [sndUsbHandleSyncUrb, received] at after
      obtain ⟨result, -, same⟩ := Option.map_eq_some_iff.mp after
      rw [← same]
      exact updated result.1 result.2

/-- A run of feedback packets does what it has to exactly as long as every packet is clear in the state it meets. -/
theorem formats_iff (fullSpeed : Bool) (rate freqmax : Nat) (urbs : List SyncPacket) (positive : 0 < nominal fullSpeed rate) :
    Throughout exec Right (configured (nominal fullSpeed rate) freqmax) urbs ↔
      Throughout exec (fun ep urb _ => ep.Clear urb) (configured (nominal fullSpeed rate) freqmax) urbs := by
  have all : Throughout exec (fun _ _ _ => True) (configured (nominal fullSpeed rate) freqmax) urbs :=
    Throughout.of_mem fun _ _ _ => trivial
  have small := nominal_lt fullSpeed rate
  apply throughout_iff (fun ep => ep.freqn = nominal fullSpeed rate) Right Clear _ _ rfl all
  · intro ep urb same _
    rw [← same] at positive small
    exact right_iff urb positive small
  · intro ep urb same _ _
    exact (exec_config urb).1.trans same

/-- Two values in 10.14 format at 44.1 kHz. -/
theorem formats_full : Throughout exec Right (configured (nominal true 44100) 3276800) [⟨0, 3, 722534⟩, ⟨0, 3, 722600⟩] := by
  apply (formats_iff true 44100 3276800 _ (by decide)).mpr
  refine ⟨⟨fun _ odd => absurd odd (by decide), fun known => absurd known (by decide)⟩,
    ⟨fun detects => absurd detects (by decide), ?_⟩, trivial⟩
  intro _ f received
  obtain rfl := Option.some.inj received
  decide

/-- The shift for a small value is kept, and takes the high bits off a large one. -/
theorem high_bits_lost : ¬ ∀ (fullSpeed : Bool) (rate freqmax : Nat) (urbs : List SyncPacket), 0 < nominal fullSpeed rate →
    Throughout exec Right (configured (nominal fullSpeed rate) freqmax) urbs := by
  intro all
  have run := all true 48000 3276800 [⟨0, 4, 98304⟩, ⟨0, 4, 134316032⟩] (by decide)
  have second := run.2.1.formats 134316032 rfl 3145728 5 rfl
  exact absurd (second.update (by decide)).2 (by decide)

end FreqState

end AlsaDriver.Usb
