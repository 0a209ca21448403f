import AlsaDriver.Pcm.ApplPtr

namespace AlsaDriver.Pcm

open RingCounter PcmRuntime

variable {cfg : PcmConfig} {rt rt' : PcmRuntime}

def IsBase (cfg : PcmConfig) (base : Nat) : Prop := cfg.bufferSize ∣ base ∧ base < cfg.boundary

theorem IsBase.room {base : Nat} (isBase : IsBase cfg base) : base + cfg.bufferSize ≤ cfg.boundary := by
  obtain ⟨⟨a, rfl⟩, below⟩ := isBase
  obtain ⟨b, limit⟩ := cfg.boundary_dvd
  rw [limit] at below ⊢
  have less : a < b := Nat.lt_of_mul_lt_mul_left below
  have next := Nat.mul_le_mul_left cfg.bufferSize (Nat.succ_le_of_lt less)
  rwa [Nat.mul_succ] at next

theorem IsBase.zero : IsBase cfg 0 := by
  have large := cfg.boundary_large
  exact ⟨Nat.dvd_zero _, by omega⟩

theorem nextBase_eq {base : Nat} (below : base < cfg.boundary) :
    nextBase cfg base = nextPass cfg.bufferSize cfg.boundary base := by
  have room := cfg.boundary_room
  have word : ulong (base + cfg.bufferSize) = base + cfg.bufferSize := by
    have exact := ulong_of_range (x := base + cfg.bufferSize) (by omega) (by omega)
    omega
  simp only [nextBase, nextPass, word]

theorem IsBase.next {base : Nat} (isBase : IsBase cfg base) : IsBase cfg (nextBase cfg base) := by
  have large := cfg.boundary_large
  rw [nextBase_eq isBase.2]
  exact ⟨nextPass_dvd isBase.1, nextPass_lt (by omega)⟩

theorem seenPos_lt (cfg : PcmConfig) (pointer : Nat) : seenPos cfg pointer < cfg.bufferSize := by
  have positive := cfg.buffer_pos
  unfold seenPos
  dsimp only
  split <;> omega

theorem IsBase.pointer {base pos : Nat} (isBase : IsBase cfg base) (inside : pos < cfg.bufferSize) :
    ulong (base + pos) = base + pos := by
  have room := cfg.boundary_room
  have fits := isBase.room
  have exact := ulong_of_range (x := base + pos) (by omega) (by omega)
  omega

structure RingInv (cfg : PcmConfig) (rt : PcmRuntime) : Prop where
  base : IsBase cfg rt.hwPtrBase
  base_le : rt.hwPtrBase ≤ rt.hwPtr
  inside : rt.hwPtr < rt.hwPtrBase + cfg.bufferSize
  interrupt : rt.hwPtrInterrupt < cfg.boundary
  appl : rt.applPtr < cfg.boundary

theorem RingInv.hw (inv : RingInv cfg rt) : rt.hwPtr < cfg.boundary := Nat.lt_of_lt_of_le inv.inside inv.base.room

theorem RingInv.of_pointers (inv : RingInv cfg rt) (hw : rt'.hwPtr = rt.hwPtr) (base : rt'.hwPtrBase = rt.hwPtrBase)
    (interrupt : rt'.hwPtrInterrupt = rt.hwPtrInterrupt) (appl : rt'.applPtr < cfg.boundary) : RingInv cfg rt' := by
  refine ⟨?_, ?_, ?_, ?_, appl⟩
  · rw [base]
    exact inv.base
  · rw [base, hw]
    exact inv.base_le
  · rw [base, hw]
    exact inv.inside
  · rw [interrupt]
    exact inv.interrupt

theorem RingInv.stop (inv : RingInv cfg rt) (state : SndPcmState) : RingInv cfg (rt.stop state) := by
  obtain ⟨next, same⟩ := rt.stop_eq state
  rw [same]
  exact inv.of_pointers rfl rfl rfl inv.appl

theorem updateState_eq (cfg : PcmConfig) (rt : PcmRuntime) :
    ∃ next, (rt.updateState cfg).2 = { rt with state := next } := by
  unfold updateState
  dsimp only
  split
  · split
    · exact rt.stop_eq .setup
    · exact ⟨rt.state, rfl⟩
  · split
    · exact rt.stop_eq .xrun
    · exact ⟨rt.state, rfl⟩

theorem RingInv.updateState (inv : RingInv cfg rt) : RingInv cfg (rt.updateState cfg).2 := by
  obtain ⟨next, same⟩ := updateState_eq cfg rt
  rw [same]
  exact inv.of_pointers rfl rfl rfl inv.appl

theorem interruptPtr_lt {newHwPtr : Nat} (interrupt : rt.hwPtrInterrupt < cfg.boundary)
    (below : newHwPtr < cfg.boundary) : rt.interruptPtr cfg newHwPtr < cfg.boundary := by
  have room := cfg.boundary_room
  have first := slong_of_range (x := newHwPtr - rt.hwPtrInterrupt) (by omega) (by omega)
  unfold interruptPtr
  simp only [first]
  set delta : Int := if (newHwPtr : Int) - rt.hwPtrInterrupt < 0 then
    slong (newHwPtr - rt.hwPtrInterrupt + cfg.boundary) else newHwPtr - rt.hwPtrInterrupt with deltaIs
  have range : 0 ≤ delta ∧ delta < cfg.boundary := by
    rw [deltaIs]
    split
    · rw [slong_of_range (by omega) (by omega)]
      omega
    · omega
  have word := ulong_of_range range.1 (by omega)
  have part := Nat.mod_le (ulong delta) cfg.periodSize
  rw [slong_of_range (by omega) (by omega)]
  have sum := ulong_of_range (x := rt.hwPtrInterrupt + (delta - (ulong delta % cfg.periodSize : Nat))) (by omega)
    (by omega)
  split
  · have wrapped := ulong_of_range
      (x := (ulong (rt.hwPtrInterrupt + (delta - (ulong delta % cfg.periodSize : Nat))) : Int) - cfg.boundary)
      (by omega) (by omega)
    omega
  · omega

theorem RingInv.moved (inv : RingInv cfg rt) {inInterrupt : Bool} {hwBase pos jiffies : Nat}
    (isBase : IsBase cfg hwBase) (inside : pos < cfg.bufferSize) :
    RingInv cfg (rt.moved cfg inInterrupt hwBase (hwBase + pos) jiffies) := by
  have room := isBase.room
  refine ⟨isBase, Nat.le_add_right _ _, ?_, ?_, inv.appl⟩
  · simp only [PcmRuntime.moved]
    omega
  · cases inInterrupt with
    | false => exact inv.interrupt
    | true => exact interruptPtr_lt inv.interrupt (by omega)

theorem seenBase_isBase (base : IsBase cfg rt.hwPtrBase) (inInterrupt : Bool) (pos jiffies : Nat) :
    IsBase cfg (rt.seenBase cfg inInterrupt pos jiffies) := by
  unfold seenBase
  dsimp only
  split
  · exact base.next
  · split
    · exact base.next
    · exact base

theorem catchUp_isBase {bufferJiffies fuel : Nat} {threshold hdelta : Int} {hwBase result : Nat}
    (base : IsBase cfg hwBase) (caught : catchUp cfg bufferJiffies threshold fuel hdelta hwBase = some result) :
    IsBase cfg result := by
  induction fuel generalizing hdelta hwBase with
  | zero =>
    unfold catchUp at caught
    split at caught
    · exact Option.some.inj caught ▸ base
    · cases caught
  | succ fuel ih =>
    unfold catchUp at caught
    split at caught
    · exact Option.some.inj caught ▸ base
    · exact ih base.next caught

theorem updateHwPtr0_cases {hz pointer jiffies : Nat} {inInterrupt : Bool} {out : Int × PcmRuntime}
    (base : IsBase cfg rt.hwPtrBase) (updated : rt.updateHwPtr0 cfg hz inInterrupt pointer jiffies = some out) :
    out = (-EPIPE, rt.stop .xrun) ∨ out = (0, rt) ∨
      ∃ hwBase, IsBase cfg hwBase ∧
        out = (rt.moved cfg inInterrupt hwBase (hwBase + seenPos cfg pointer) jiffies).updateState cfg := by
  have inside := seenPos_lt cfg pointer
  have stored {hwBase : Nat} (isBase : IsBase cfg hwBase)
      (is : rt.storeHwPtr cfg inInterrupt hwBase (ulong (hwBase + seenPos cfg pointer)) jiffies = out) :
      out = (0, rt) ∨ ∃ hwBase, IsBase cfg hwBase ∧
        out = (rt.moved cfg inInterrupt hwBase (hwBase + seenPos cfg pointer) jiffies).updateState cfg := by
    rw [isBase.pointer inside] at is
    unfold storeHwPtr at is
    split at is
    · exact Or.inl is.symm
    · exact Or.inr ⟨hwBase, isBase, is.symm⟩
  have seen := seenBase_isBase base inInterrupt (seenPos cfg pointer) jiffies
  unfold updateHwPtr0 at updated
  split at updated
  · exact Or.inl (Option.some.inj updated).symm
  · right
    dsimp only at updated
    split at updated
    · obtain ⟨hwBase, caught, is⟩ := Option.map_eq_some_iff.mp updated
      refine stored ?_ is
      unfold compensate at caught
      dsimp only at caught
      split at caught
      · exact Option.some.inj caught ▸ seen
      · exact catchUp_isBase seen caught
    · split at updated
      · exact Or.inl (Option.some.inj updated).symm
      · exact stored seen (Option.some.inj updated)

theorem RingInv.updateHwPtr0 {hz pointer jiffies : Nat} {inInterrupt : Bool} {out : Int × PcmRuntime}
    (inv : RingInv cfg rt) (updated : rt.updateHwPtr0 cfg hz inInterrupt pointer jiffies = some out) :
    RingInv cfg out.2 := by
  obtain rfl | rfl | ⟨hwBase, isBase, rfl⟩ := updateHwPtr0_cases inv.base updated
  · exact inv.stop .xrun
  · exact inv
  · exact (inv.moved isBase (seenPos_lt cfg pointer)).updateState

end AlsaDriver.Pcm
