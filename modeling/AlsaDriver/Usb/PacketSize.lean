import AlsaDriver.Lib.Carry
import AlsaDriver.Lib.Transducer
import AlsaDriver.Usb.Payload

namespace AlsaDriver.Usb

open Runs

def getUsbFullSpeedRate (rate : Nat) : Nat := wrap (wrap (rate * 2 ^ 13) + 62) / 125

def getUsbHighSpeedRate (rate : Nat) : Nat := wrap (wrap (rate * 2 ^ 10) + 62) / 125

def nominal (fullSpeed : Bool) (rate : Nat) : Nat :=
  if fullSpeed then getUsbFullSpeedRate rate else getUsbHighSpeedRate rate

theorem nominal_lt (fullSpeed : Bool) (rate : Nat) : nominal fullSpeed rate < 2 ^ 26 := by
  have word (n : Nat) : wrap n / 125 < 2 ^ 26 :=
    Nat.div_lt_of_lt_mul ((Nat.mod_lt n (Nat.two_pow_pos 32)).trans (by decide))
  unfold nominal
  split
  · exact word _
  · exact word _

inductive SizeOp where
  | packet
  | freq (f : Nat)

def frequencies : Nat → List SizeOp → List Nat
  | _, [] => []
  | freqm, .packet :: rest => freqm :: frequencies freqm rest
  | _, .freq f :: rest => frequencies f rest

namespace DataEp

variable (ep : DataEp)

def sizeStep (pace : Pace) : SizeOp → Pace × List Nat
  | .packet => ((ep.nextPacketSize pace).2, [(ep.nextPacketSize pace).1])
  | .freq f => ({ pace with freqm := f }, [])

def sizes (pace : Pace) (ops : List SizeOp) : List Nat := (Transducer.run ep.sizeStep pace ops).2

def Slow : SizeOp → Prop
  | .packet => True
  | .freq f => f ≤ ep.freqmax

structure NoDrift (pace : Pace) (ops : List SizeOp) : Prop where
  sum : (ep.sizes pace ops).sum =
    ((frequencies pace.freqm ops).map (· * 2 ^ ep.datainterval)).sum / 2 ^ 16
  unclamped : Throughout (fun pace op => (ep.sizeStep pace op).1)
    (fun pace op after => op = .packet → (ep.nextPacketSize pace).1 = after.phase / 2 ^ 16) pace ops

end DataEp

namespace EpParams

variable (p : EpParams)

def rated (rate : Nat) : EpParams := { p with freqn := nominal p.fullSpeed rate }

/-- `snd_usb_endpoint_set_params` for a data endpoint, which is then prepared. -/
def sndUsbEndpointSetParams (rate periodSize : Nat) : Option (DataEp × Pace) :=
  (dataEpSetParams (p.rated rate) periodSize).map fun ep => (ep, ⟨0, (p.rated rate).freqn, 0⟩)

/-- The largest packet, in frames of the runtime, has room for the frames of the descriptor's packet size and for
    those of the nominal rate. -/
structure Roomy (rate : Nat) : Prop where
  packet : p.maxpacksize / p.stride ≤ p.maxpacksize * 8 / p.runtimeFrameBits
  nominal : (p.rated rate).freqn * 2 ^ p.datainterval ≤ 2 ^ 16 * (p.maxpacksize * 8 / p.runtimeFrameBits)

end EpParams

namespace DataEp

variable {ep : DataEp} {pace : Pace} {ops : List SizeOp}

structure Calm (ep : DataEp) (f : Nat) : Prop where
  room : f * 2 ^ ep.datainterval ≤ 2 ^ 16 * ep.maxframesize
  small : f * 2 ^ ep.datainterval ≤ 2 ^ 32 - 2 ^ 16

theorem calm_iff {f : Nat} : ep.Calm f ↔
    f * 2 ^ ep.datainterval ≤ 2 ^ 16 * ep.maxframesize ∧ f * 2 ^ ep.datainterval ≤ 2 ^ 32 - 2 ^ 16 :=
  ⟨fun calm => ⟨calm.room, calm.small⟩, fun both => ⟨both.1, both.2⟩⟩

theorem nextPacketSize_calm (unfilled : ep.fillMax = false) (calm : ep.Calm pace.freqm) :
    ep.nextPacketSize pace = ((pace.phase % 2 ^ 16 + pace.freqm * 2 ^ ep.datainterval) / 2 ^ 16,
      { pace with phase := pace.phase % 2 ^ 16 + pace.freqm * 2 ^ ep.datainterval }) := by
  have fraction : pace.phase % 2 ^ 16 < 2 ^ 16 := Nat.mod_lt _ (Nat.two_pow_pos 16)
  obtain ⟨room, small⟩ := calm
  have whole : pace.phase % 2 ^ 16 + wrap (pace.freqm * 2 ^ ep.datainterval) =
      pace.phase % 2 ^ 16 + pace.freqm * 2 ^ ep.datainterval := by
    rw [wrap_of_lt (by omega)]
  have fits : (pace.phase % 2 ^ 16 + pace.freqm * 2 ^ ep.datainterval) / 2 ^ 16 ≤ ep.maxframesize := by
    apply Nat.le_of_lt_succ
    apply Nat.div_lt_of_lt_mul
    omega
  rw [nextPacketSize, if_neg (by rw [unfilled]; exact Bool.false_ne_true)]
  dsimp only
  rw [whole, wrap_of_lt (by omega), min_eq_left fits]

theorem noDrift_of_calm (pace : Pace) (unfilled : ep.fillMax = false) (calm : ep.Calm pace.freqm)
    (slow : ∀ op ∈ ops, ∀ f, op = .freq f → ep.Calm f) :
    ep.sizes pace ops = Carry.quotients (2 ^ 16) (pace.phase % 2 ^ 16)
        ((frequencies pace.freqm ops).map (· * 2 ^ ep.datainterval)) ∧
      Throughout (fun pace op => (ep.sizeStep pace op).1)
        (fun pace op after => op = .packet → (ep.nextPacketSize pace).1 = after.phase / 2 ^ 16) pace ops := by
  induction ops generalizing pace with
  | nil => exact ⟨rfl, trivial⟩
  | cons op rest ih =>
    have later : ∀ op ∈ rest, ∀ f, op = .freq f → ep.Calm f :=
      fun op inside => slow op (List.mem_cons_of_mem _ inside)
    cases op with
    | packet =>
      have size := nextPacketSize_calm unfilled calm
      have same : (ep.nextPacketSize pace).2.freqm = pace.freqm := by rw [size]
      obtain ⟨sizes, unclamped⟩ := ih (ep.nextPacketSize pace).2 (same ▸ calm) later
      refine ⟨?_, ?_, unclamped⟩
      · have first : ep.sizes pace (.packet :: rest) =
            (ep.nextPacketSize pace).1 :: ep.sizes (ep.nextPacketSize pace).2 rest := rfl
        rw [first, sizes, same, size]
        rfl
      · intro _
        show (ep.nextPacketSize pace).1 = (ep.nextPacketSize pace).2.phase / 2 ^ 16
        rw [size]
    | freq f =>
      obtain ⟨sizes, unclamped⟩ := ih { pace with freqm := f } (slow _ List.mem_cons_self f rfl) later
      refine ⟨sizes, ?_, unclamped⟩
      intro other
      cases other

theorem length_sizes (n : Nat) : (ep.sizes pace (List.replicate n .packet)).length = n := by
  induction n generalizing pace with
  | zero => rfl
  | succ n ih => exact congrArg (· + 1) ih

theorem frequencies_replicate (freqm n : Nat) : frequencies freqm (List.replicate n .packet) = List.replicate n freqm := by
  induction n with
  | zero => rfl
  | succ n ih => exact congrArg (freqm :: ·) ih

theorem nextPacketSize_clamped (pace : Pace) : (ep.nextPacketSize pace).1 ≤ ep.maxframesize := by
  rw [nextPacketSize]
  split
  · exact Nat.le_refl _
  · exact min_le_right _ _

theorem sizes_clamped (ops : List SizeOp) : ∀ n ∈ ep.sizes pace ops, n ≤ ep.maxframesize := by
  induction ops generalizing pace with
  | nil => exact fun n none => absurd none List.not_mem_nil
  | cons op rest ih =>
    cases op with
    | packet =>
      intro n inside
      rcases List.mem_cons.mp inside with rfl | later
      · exact nextPacketSize_clamped pace
      · exact ih n later
    | freq f => exact ih

theorem NoDrift.of_freq {f : Nat} (exact : ep.NoDrift pace (.freq f :: ops)) : ep.NoDrift { pace with freqm := f } ops :=
  ⟨exact.sum, exact.unclamped.2⟩

theorem NoDrift.room (exact : ep.NoDrift pace (List.replicate (2 ^ 16) .packet)) :
    pace.freqm * 2 ^ ep.datainterval ≤ 2 ^ 16 * ep.maxframesize := by
  have sum := exact.sum
  rw [frequencies_replicate, List.map_replicate] at sum
  exact Carry.le_of_served (sizes_clamped _) (length_sizes _) (Nat.two_pow_pos 16) sum

end DataEp

namespace EpParams

variable {p : EpParams} {rate periodSize : Nat} {ep : DataEp} {pace : Pace}

theorem freqmax_rated (accepted : dataEpSetParams (p.rated rate) periodSize = some ep) (interval : p.datainterval ≤ 3)
    (packet : p.maxpacksize < 2 ^ 16) (some : p.maxpacksize ≠ 0) :
    ep.freqmax * 2 ^ p.datainterval = p.maxpacksize / p.stride * 2 ^ 16 := by
  have freqmax : ep.freqmax = (p.rated rate).freqmax := congrArg DataEp.freqmax (accepted_eq accepted).2
  rw [freqmax]
  exact freqmax_scaled (p := p.rated rate) interval some ((Nat.div_le_self _ _).trans_lt packet)

theorem calm_of_slow (accepted : dataEpSetParams (p.rated rate) periodSize = some ep) (interval : p.datainterval ≤ 3)
    (packet : p.maxpacksize < 2 ^ 16) (room : p.Roomy rate) {f : Nat} (slow : f ≤ ep.freqmax) : ep.Calm f := by
  have maxframesize : ep.maxframesize = p.maxpacksize * 8 / p.runtimeFrameBits :=
    congrArg DataEp.maxframesize (accepted_eq accepted).2
  have datainterval : ep.datainterval = p.datainterval := congrArg DataEp.datainterval (accepted_eq accepted).2
  rw [DataEp.calm_iff, datainterval, maxframesize]
  by_cases some : p.maxpacksize ≠ 0
  · have step : f * 2 ^ p.datainterval ≤ p.maxpacksize / p.stride * 2 ^ 16 :=
      freqmax_rated accepted interval packet some ▸ Nat.mul_le_mul_right _ slow
    have fewer := Nat.div_le_self p.maxpacksize p.stride
    have fits := room.packet
    omega
  · have none : p.maxpacksize = 0 := not_not.mp some
    have nominal := room.nominal
    rw [none, Nat.zero_mul, Nat.zero_div, Nat.mul_zero] at nominal
    have silent : (p.rated rate).freqn = 0 := by
      rcases Nat.mul_eq_zero.mp (Nat.le_zero.mp nominal) with zero | zero
      · exact zero
      · exact absurd zero (Nat.two_pow_pos _).ne'
    have freqmax : ep.freqmax = (p.rated rate).freqmax := congrArg DataEp.freqmax (accepted_eq accepted).2
    have still : (p.rated rate).freqmax = 0 := by
      rw [EpParams.freqmax, if_neg (show ¬ (p.rated rate).maxpacksize ≠ 0 from some), silent]
      rfl
    rw [freqmax, still, Nat.le_zero] at slow
    rw [slow, Nat.zero_mul]
    exact ⟨Nat.zero_le _, Nat.zero_le _⟩

/-- The packet sizes of a prepared endpoint do not drift just where its largest packet has room for the rate. -/
theorem noDrift_iff (configured : p.sndUsbEndpointSetParams rate periodSize = some (ep, pace))
    (unfilled : p.fillMax = false) (interval : p.datainterval ≤ 3) (packet : p.maxpacksize < 2 ^ 16) :
    (∀ ops, (∀ op ∈ ops, ep.Slow op) → ep.NoDrift pace ops) ↔ p.Roomy rate := by
  obtain ⟨ep', accepted, same⟩ := Option.map_eq_some_iff.mp configured
  obtain ⟨made, start⟩ := Prod.mk.inj same
  rw [made] at accepted
  subst start
  have maxframesize : ep.maxframesize = p.maxpacksize * 8 / p.runtimeFrameBits :=
    congrArg DataEp.maxframesize (accepted_eq accepted).2
  have datainterval : ep.datainterval = p.datainterval := congrArg DataEp.datainterval (accepted_eq accepted).2
  have filled : ep.fillMax = p.fillMax := congrArg DataEp.fillMax (accepted_eq accepted).2
  constructor
  · intro exact
    have still (op : SizeOp) (inside : op ∈ List.replicate (2 ^ 16) .packet) : ep.Slow op := by
      rw [List.eq_of_mem_replicate inside]
      trivial
    refine ⟨?_, ?_⟩
    · by_cases some : p.maxpacksize ≠ 0
      · have fastest : ep.NoDrift ⟨0, ep.freqmax, 0⟩ (List.replicate (2 ^ 16) .packet) := by
          apply DataEp.NoDrift.of_freq (exact (.freq ep.freqmax :: List.replicate (2 ^ 16) .packet) ?_)
          exact List.forall_mem_cons.mpr ⟨Nat.le_refl _, still⟩
        have room := fastest.room
        rw [datainterval, maxframesize, freqmax_rated accepted interval packet some, Nat.mul_comm] at room
        exact Nat.le_of_mul_le_mul_left room (Nat.two_pow_pos 16)
      · rw [not_not.mp some, Nat.zero_div]
        exact Nat.zero_le _
    · have room := (exact _ still).room
      rwa [datainterval, maxframesize] at room
  · intro room ops slow
    have calm : ep.Calm (p.rated rate).freqn := by
      refine ⟨by rw [datainterval, maxframesize]; exact room.nominal, ?_⟩
      have few : 2 ^ p.datainterval ≤ 2 ^ 3 := Nat.pow_le_pow_right Nat.two_pos interval
      rw [datainterval]
      calc (p.rated rate).freqn * 2 ^ p.datainterval ≤ 2 ^ 26 * 2 ^ 3 := Nat.mul_le_mul (nominal_lt p.fullSpeed rate).le few
        _ ≤ 2 ^ 32 - 2 ^ 16 := by decide
    have calmer : ∀ op ∈ ops, ∀ f, op = .freq f → ep.Calm f := by
      rintro op inside f rfl
      have bound : f ≤ ep.freqmax := slow _ inside
      exact calm_of_slow accepted interval packet room bound
    obtain ⟨sizes, unclamped⟩ := DataEp.noDrift_of_calm ⟨0, (p.rated rate).freqn, 0⟩ (filled.trans unfilled) calm calmer
    refine ⟨?_, unclamped⟩
    rw [sizes, Carry.sum_quotients (Nat.mod_lt _ (Nat.two_pow_pos 16)), Nat.zero_mod, Nat.zero_add]

theorem noDrift_stereo : ∃ ep pace, stereo.sndUsbEndpointSetParams 44100 1024 = some (ep, pace) ∧
    ∀ ops, (∀ op ∈ ops, ep.Slow op) → ep.NoDrift pace ops := by
  have configured : stereo.sndUsbEndpointSetParams 44100 1024 = some (_, _) := rfl
  exact ⟨_, _, configured, (noDrift_iff configured rfl (Nat.zero_le 3) (by decide)).mpr ⟨by decide, by decide⟩⟩

/-- Without a packet size in the descriptor, every packet is empty. -/
theorem unsized_empty : ¬ ∀ (p : EpParams) (rate periodSize : Nat) (ep : DataEp) (pace : Pace),
    p.sndUsbEndpointSetParams rate periodSize = some (ep, pace) → p.fillMax = false → p.datainterval ≤ 3 →
    p.maxpacksize < 2 ^ 16 → pace.freqm ≤ ep.freqmax → ∀ ops, (∀ op ∈ ops, ep.Slow op) → ep.NoDrift pace ops := by
  intro all
  have one := all { stereo with maxpacksize := 0 } 48000 1024 _ _ rfl rfl (Nat.zero_le 3) (by decide) (by decide)
    [.packet] fun op single => by
      rw [List.mem_singleton.mp single]
      trivial
  exact absurd one.sum (by decide)

end EpParams

end AlsaDriver.Usb
