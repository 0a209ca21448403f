import AlsaDriver.Lib.Runs
import AlsaDriver.Pcm.Tracking

namespace AlsaDriver.Pcm

open Runs PcmRuntime

/-- The runtime and the transfers under way, each with the `appl_ptr` and the frames it began with. -/
structure PointerSystem where
  rt : PcmRuntime
  transfers : List (Nat × Nat)
  deriving DecidableEq

inductive PointerOp where
  | prepare (io : DeviceTime) (ret : Int)
  | reset (io : DeviceTime)
  | start (jiffies : Nat) (ret : Int)
  | stop (state : SndPcmState)
  | pause (push : Bool) (io : DeviceTime) (ret : Int)
  | suspend
  | resume (ret : Int)
  | drain (jiffies : Nat)
  | update (io : DeviceTime)
  | periodElapsed (io : DeviceTime)
  | rewind (io : DeviceTime) (frames : Nat)
  | forward (io : DeviceTime) (frames : Nat)
  | transferBegin (size avail : Nat)
  | transferEnd (index : Nat) (copied : Bool)
  | hwsync (io : DeviceTime)
  | syncPtr (io : DeviceTime) (sync : SyncPtr)

section Exec

variable (cfg : PcmConfig) (hz : Nat)

def pointerStep (rt : PcmRuntime) : PointerOp → Option PcmRuntime
  | .prepare io ret => rt.prepare cfg hz io ret
  | .reset io => rt.reset cfg hz io
  | .start jiffies ret => some (rt.start cfg hz jiffies ret)
  | .stop state => some (rt.stop state)
  | .pause push io ret => rt.pause cfg hz io push ret
  | .suspend => some rt.suspend
  | .resume ret => some (rt.resume ret)
  | .drain jiffies => some (rt.drainInit cfg hz jiffies)
  | .update io => (rt.updateHwPtr cfg hz io.pointer io.jiffies).map Prod.snd
  | .periodElapsed io => rt.periodElapsed cfg hz io.pointer io.jiffies
  | .rewind io frames => (rt.rewind cfg hz io frames).map Prod.snd
  | .forward io frames => (rt.forward cfg hz io frames).map Prod.snd
  | .hwsync io => (rt.hwsync cfg hz io).map Prod.snd
  | .syncPtr io sync => (rt.syncPtr cfg hz io sync).map Prod.snd
  | .transferBegin .. | .transferEnd .. => some rt

def transferStep (sys : PointerSystem) : PointerOp → PointerSystem
  | .transferBegin size avail =>
    { sys with transfers := (sys.rt.applPtr, sys.rt.transferFrames cfg size avail) :: sys.transfers }
  | .transferEnd index copied =>
    match sys.transfers[index]? with
    | none => sys
    | some (applPtr, frames) =>
      { rt := if copied then sys.rt.transferDone cfg applPtr frames else sys.rt
        transfers := sys.transfers.eraseIdx index }
  | _ => sys

def pointerExec (state : Option PointerSystem) (op : PointerOp) : Option PointerSystem :=
  match state with
  | none => none
  | some sys => (pointerStep cfg hz sys.rt op).map fun rt => transferStep cfg { sys with rt := rt } op

end Exec

variable {cfg : PcmConfig} {hz : Nat} {rt rt' : PcmRuntime} {io : DeviceTime}

theorem RingInv.congr (inv : RingInv cfg rt) (hw : rt'.hwPtr = rt.hwPtr) (base : rt'.hwPtrBase = rt.hwPtrBase)
    (interrupt : rt'.hwPtrInterrupt = rt.hwPtrInterrupt) (appl : rt'.applPtr = rt.applPtr) : RingInv cfg rt' :=
  inv.of_pointers hw base interrupt (appl ▸ inv.appl)

theorem RingInv.doReset (inv : RingInv cfg rt) (done : rt.doReset cfg hz io = some rt') : RingInv cfg rt' := by
  have positive := cfg.buffer_pos
  have large := cfg.boundary_large
  have small := cfg.buffer_lt
  obtain ⟨rt1, reset, rfl⟩ := Option.map_eq_some_iff.mp done
  -- the position is brought into the first pass
  have first : rt1.hwPtr < cfg.bufferSize ∧ rt1.applPtr < cfg.boundary := by
    unfold ioctlReset at reset
    split at reset
    · obtain ⟨out, updated, rfl⟩ := Option.map_eq_some_iff.mp reset
      have kept := inv.updateHwPtr0 updated
      dsimp only
      split
      · exact ⟨Nat.mod_lt _ positive, kept.appl⟩
      · exact ⟨positive, kept.appl⟩
    · obtain rfl := Option.some.inj reset
      exact ⟨positive, inv.appl⟩
  have part := Nat.mod_le rt1.hwPtr cfg.periodSize
  have word := ulong_of_range (x := rt1.hwPtr - (rt1.hwPtr % cfg.periodSize : Nat)) (by omega) (by omega)
  refine ⟨.zero, Nat.zero_le _, ?_, ?_, first.2⟩
  · dsimp only
    omega
  · dsimp only
    omega

theorem RingInv.applied (inv : RingInv cfg rt) : RingInv cfg { rt with applPtr := rt.hwPtr } :=
  inv.of_pointers rfl rfl rfl inv.hw

theorem RingInv.pointerReady (inv : RingInv cfg rt) {ready polled : List SndPcmState} {out : Int × PcmRuntime}
    (passed : rt.pointerReady cfg hz io ready polled = some out) : RingInv cfg out.2 := by
  unfold PcmRuntime.pointerReady at passed
  split at passed
  · obtain rfl := Option.some.inj passed
    exact inv
  · split at passed
    · obtain ⟨first, updated, rfl⟩ := Option.map_eq_some_iff.mp passed
      have kept := inv.updateHwPtr0 updated
      dsimp only
      split
      · exact kept
      · exact kept
    · split at passed <;> obtain rfl := Option.some.inj passed <;> exact inv

theorem RingInv.rewindReady (inv : RingInv cfg rt) {out : Int × PcmRuntime}
    (passed : rt.rewindReady cfg hz io = some out) : RingInv cfg out.2 := by
  unfold PcmRuntime.rewindReady at passed
  split at passed <;> exact inv.pointerReady passed

theorem RingInv.forwardReady (inv : RingInv cfg rt) {out : Int × PcmRuntime}
    (passed : rt.forwardReady cfg hz io = some out) : RingInv cfg out.2 := by
  unfold PcmRuntime.forwardReady at passed
  split at passed <;> exact inv.pointerReady passed

theorem hwAvail_le (inv : RingInv cfg rt) : rt.hwAvail cfg ≤ cfg.bufferSize := by
  obtain ⟨playback, capture⟩ := avail_lt inv.hw inv.appl
  have room := cfg.boundary_room
  unfold hwAvail playbackHwAvail captureHwAvail
  split
  · rw [slong_of_range (by omega) (by omega)]
    omega
  · rw [slong_of_range (by omega) (by omega)]
    omega

theorem moveBack_inv (inv : RingInv cfg rt) {hwAvail : Int} (some : hwAvail ≤ cfg.bufferSize) (frames : Nat) :
    RingInv cfg (rt.moveBack cfg hwAvail frames).2 := by
  have appl := inv.appl
  have room := cfg.boundary_room
  have large := cfg.boundary_large
  have small := cfg.buffer_lt
  unfold moveBack
  split
  · exact inv
  · rename_i positive
    have word := ulong_of_range (x := hwAvail) (by omega) (by omega)
    dsimp only
    set taken := if ulong hwAvail < frames then ulong hwAvail else frames with takenIs
    have bound : taken ≤ cfg.bufferSize := by
      rw [takenIs]
      split <;> omega
    refine inv.of_pointers ?_ ?_ ?_ ?_
    · rfl
    · rfl
    · rfl
    rw [slong_of_range (by omega) (by omega)]
    dsimp only
    split
    · rw [slong_of_range (by omega) (by omega)]
      have exact := ulong_of_range (x := rt.applPtr - taken + cfg.boundary) (by omega) (by omega)
      omega
    · have exact := ulong_of_range (x := rt.applPtr - taken) (by omega) (by omega)
      omega

/-- Moving ahead keeps `appl_ptr` below the boundary unless the sum leaves the signed words: then it
    is stored as it is. -/
theorem moveAhead_appl {avail frames : Nat} (appl : rt.applPtr < cfg.boundary) (below : avail < cfg.boundary) :
    (rt.moveAhead cfg avail frames).2.applPtr < cfg.boundary ↔ rt.applPtr + min frames avail < 2 ^ 63 := by
  have room := cfg.boundary_room
  unfold moveAhead
  rw [slong_of_range (x := avail) (by omega) (by omega), slong_of_range (x := cfg.boundary) (by omega) (by omega)]
  split
  · have none : min frames avail = 0 := by omega
    rw [none]
    dsimp only
    omega
  · have moved : (if avail < frames then avail else frames) = min frames avail := by
      rw [Nat.min_def]
      split <;> split <;> omega
    have bound := Nat.min_le_right frames avail
    dsimp only
    rw [moved]
    by_cases fits : rt.applPtr + min frames avail < 2 ^ 63
    · rw [slong_of_range (by omega) (by omega)]
      refine iff_of_true ?_ fits
      split
      · rw [slong_of_range (by omega) (by omega)]
        have exact := ulong_of_range (x := rt.applPtr + min frames avail - cfg.boundary) (by omega) (by omega)
        omega
      · have exact := ulong_of_range (x := rt.applPtr + min frames avail) (by omega) (by omega)
        omega
    · rw [slong_of_high (by omega) (by omega), if_neg (by omega)]
      refine iff_of_false ?_ fits
      have exact : (ulong (rt.applPtr + min frames avail - 2 ^ 64) : Int) = _ :=
        Words.toUnsigned_cast 64 (rt.applPtr + min frames avail - 2 ^ 64)
      omega

theorem transferDone_appl {applPtr frames : Nat} (appl : rt.applPtr < cfg.boundary) (began : applPtr < cfg.boundary)
    (bound : frames ≤ cfg.bufferSize) : (rt.transferDone cfg applPtr frames).applPtr < cfg.boundary := by
  have room := cfg.boundary_room
  have large := cfg.boundary_large
  have small := cfg.buffer_lt
  have exact := ulong_of_range (x := applPtr + frames) (by omega) (by omega)
  unfold transferDone
  split
  · exact appl
  · exact appl
  · dsimp only
    split
    · have wrapped := ulong_of_range (x := (ulong (applPtr + frames) : Int) - cfg.boundary) (by omega) (by omega)
      omega
    · omega

theorem transferDone_pointers (rt : PcmRuntime) (cfg : PcmConfig) (applPtr frames : Nat) :
    (rt.transferDone cfg applPtr frames).hwPtr = rt.hwPtr ∧
      (rt.transferDone cfg applPtr frames).hwPtrBase = rt.hwPtrBase ∧
      (rt.transferDone cfg applPtr frames).hwPtrInterrupt = rt.hwPtrInterrupt := by
  cases state : rt.state <;> simp only [transferDone, state, and_self]

theorem transferFrames_le (cfg : PcmConfig) (rt : PcmRuntime) (size avail : Nat) :
    rt.transferFrames cfg size avail ≤ cfg.bufferSize := by
  unfold transferFrames
  dsimp only
  split <;> split <;> omega

structure PointerInv (cfg : PcmConfig) (sys : PointerSystem) : Prop where
  ring : RingInv cfg sys.rt
  transfers : ∀ t ∈ sys.transfers, t.1 < cfg.boundary ∧ t.2 ≤ cfg.bufferSize

/-- The forward request does not bring the sum of `appl_ptr` and the frames out of the signed words. -/
def ForwardFits (cfg : PcmConfig) (hz : Nat) (rt : PcmRuntime) (io : DeviceTime) (frames : Nat) : Prop :=
  frames ≠ 0 → ∀ out, rt.forwardReady cfg hz io = some out → 0 ≤ out.1 →
    out.2.applPtr + min frames (out.2.avail cfg) < 2 ^ 63

/-- The user's `appl_ptr`, where the request stores it, is below the boundary. -/
def SyncFits (cfg : PcmConfig) (hz : Nat) (rt : PcmRuntime) (io : DeviceTime) (sync : SyncPtr) : Prop :=
  sync.appl = false → (sync.hwsync = true → ∃ out, rt.hwsync cfg hz io = some out ∧ 0 ≤ out.1) →
    ulong sync.userApplPtr < cfg.boundary

def OpFits (cfg : PcmConfig) (hz : Nat) (rt : PcmRuntime) : PointerOp → Prop
  | .forward io frames => ForwardFits cfg hz rt io frames
  | .syncPtr io sync => SyncFits cfg hz rt io sync
  | _ => True

theorem forward_inv_iff (inv : RingInv cfg rt) (frames : Nat) :
    (∀ rt', (rt.forward cfg hz io frames).map Prod.snd = some rt' → rt'.applPtr < cfg.boundary) ↔
      ForwardFits cfg hz rt io frames := by
  unfold forward ForwardFits
  by_cases none : frames = 0
  · simp [none, inv.appl]
  · simp only [none, if_false, ne_eq, not_false_eq_true, true_implies, Option.map_map]
    constructor
    · intro below out passed accepted
      have kept := inv.forwardReady passed
      have moved := below _ (by rw [passed]; rfl)
      have within : out.2.avail cfg < cfg.boundary := by
        obtain ⟨playback, capture⟩ := avail_lt kept.hw kept.appl
        unfold avail
        split <;> assumption
      have fresh : ¬ out.1 < 0 := by omega
      simp only [Function.comp, fresh, if_false] at moved
      exact (moveAhead_appl kept.appl within).mp moved
    · intro fits rt' moved
      obtain ⟨out, passed, rfl⟩ := Option.map_eq_some_iff.mp moved
      have kept := inv.forwardReady passed
      have within : out.2.avail cfg < cfg.boundary := by
        obtain ⟨playback, capture⟩ := avail_lt kept.hw kept.appl
        unfold avail
        split <;> assumption
      by_cases refused : out.1 < 0
      · simp only [Function.comp, refused, if_true]
        exact kept.appl
      · simp only [Function.comp, refused, if_false]
        exact (moveAhead_appl kept.appl within).mpr (fits out passed (by omega))

theorem moveAhead_pointers (rt : PcmRuntime) (cfg : PcmConfig) (avail frames : Nat) :
    (rt.moveAhead cfg avail frames).2.hwPtr = rt.hwPtr ∧
      (rt.moveAhead cfg avail frames).2.hwPtrBase = rt.hwPtrBase ∧
      (rt.moveAhead cfg avail frames).2.hwPtrInterrupt = rt.hwPtrInterrupt := by
  by_cases none : slong avail ≤ 0 <;> simp only [moveAhead, none, if_true, if_false, and_self]

theorem forward_pointers (inv : RingInv cfg rt) {frames : Nat}
    (moved : (rt.forward cfg hz io frames).map Prod.snd = some rt') (appl : rt'.applPtr < cfg.boundary) :
    RingInv cfg rt' := by
  unfold forward at moved
  by_cases none : frames = 0
  · simp only [none, if_true, Option.map_some, Option.some.injEq] at moved
    exact moved ▸ inv
  · simp only [none, if_false, Option.map_map] at moved
    obtain ⟨out, passed, rfl⟩ := Option.map_eq_some_iff.mp moved
    have kept := inv.forwardReady passed
    by_cases refused : out.1 < 0
    · simp only [Function.comp, refused, if_true]
      exact kept
    · simp only [Function.comp, refused, if_false] at appl ⊢
      obtain ⟨hw, base, interrupt⟩ := moveAhead_pointers out.2 cfg (out.2.avail cfg) frames
      exact kept.of_pointers hw base interrupt appl

theorem hwsync_inv (inv : RingInv cfg rt) {out : Int × PcmRuntime} (synced : rt.hwsync cfg hz io = some out) :
    RingInv cfg out.2 := by
  have polled {out : Int × PcmRuntime}
      (is : (rt.updateHwPtr cfg hz io.pointer io.jiffies).map
        (fun out => ((if out.1 < 0 then out.1 else 0 : Int), out.2)) = some out) : RingInv cfg out.2 := by
    obtain ⟨first, updated, rfl⟩ := Option.map_eq_some_iff.mp is
    have kept : RingInv cfg first.2 := inv.updateHwPtr0 updated
    exact kept
  unfold hwsync at synced
  dsimp only at synced
  split at synced
  · split at synced
    · exact Option.some.inj synced ▸ inv
    · exact polled synced
  · exact polled synced
  all_goals exact Option.some.inj synced ▸ inv

theorem syncControl_pointers (inv : RingInv cfg rt) (sync : SyncPtr)
    (appl : (rt.syncControl sync).applPtr < cfg.boundary) : RingInv cfg (rt.syncControl sync) :=
  inv.of_pointers rfl rfl rfl appl

theorem syncControl_appl (inv : RingInv cfg rt) (sync : SyncPtr) :
    (rt.syncControl sync).applPtr < cfg.boundary ↔ (sync.appl = false → ulong sync.userApplPtr < cfg.boundary) := by
  cases stored : sync.appl <;> simp [syncControl, stored, inv.appl]

theorem syncPtr_inv_iff (inv : RingInv cfg rt) (sync : SyncPtr) :
    (∀ rt', (rt.syncPtr cfg hz io sync).map Prod.snd = some rt' → rt'.applPtr < cfg.boundary) ↔
      SyncFits cfg hz rt io sync := by
  unfold syncPtr SyncFits
  cases first : sync.hwsync with
  | false => simpa using syncControl_appl inv sync
  | true =>
    simp only [if_true, Option.map_map, true_implies]
    constructor
    · intro below stored synced
      obtain ⟨out, passed, accepted⟩ := synced
      have kept := hwsync_inv inv passed
      have moved := below _ (by rw [passed]; rfl)
      have fresh : ¬ out.1 < 0 := by omega
      simp only [Function.comp, fresh, if_false] at moved
      exact (syncControl_appl kept sync).mp moved stored
    · intro fits rt' moved
      obtain ⟨out, passed, rfl⟩ := Option.map_eq_some_iff.mp moved
      have kept := hwsync_inv inv passed
      by_cases refused : out.1 < 0
      · simp only [Function.comp, refused, if_true]
        exact kept.appl
      · simp only [Function.comp, refused, if_false]
        exact (syncControl_appl kept sync).mpr fun stored => fits stored ⟨out, passed, by omega⟩

theorem syncPtr_pointers (inv : RingInv cfg rt) {sync : SyncPtr}
    (moved : (rt.syncPtr cfg hz io sync).map Prod.snd = some rt') (appl : rt'.applPtr < cfg.boundary) :
    RingInv cfg rt' := by
  unfold syncPtr at moved
  split at moved
  · rw [Option.map_map] at moved
    obtain ⟨out, passed, rfl⟩ := Option.map_eq_some_iff.mp moved
    have kept := hwsync_inv inv passed
    by_cases refused : out.1 < 0
    · simp only [Function.comp, refused, if_true]
      exact kept
    · simp only [Function.comp, refused, if_false] at appl ⊢
      exact syncControl_pointers kept sync appl
  · obtain rfl := Option.some.inj moved
    exact syncControl_pointers inv sync appl

theorem prepare_inv (inv : RingInv cfg rt) {ret : Int} (prepared : rt.prepare cfg hz io ret = some rt') :
    RingInv cfg rt' := by
  unfold prepare at prepared
  split at prepared
  · exact Option.some.inj prepared ▸ inv
  · split at prepared
    · exact Option.some.inj prepared ▸ inv
    · split at prepared
      · exact Option.some.inj prepared ▸ inv
      · obtain ⟨rt1, done, rfl⟩ := Option.map_eq_some_iff.mp prepared
        have kept := (inv.doReset done).applied
        unfold PcmRuntime.setState
        split
        · exact kept.congr rfl rfl rfl rfl
        · exact kept

theorem reset_inv (inv : RingInv cfg rt) (cleared : rt.reset cfg hz io = some rt') : RingInv cfg rt' := by
  unfold reset at cleared
  split at cleared
  · obtain ⟨rt1, done, rfl⟩ := Option.map_eq_some_iff.mp cleared
    exact (inv.doReset done).applied
  · obtain ⟨rt1, done, rfl⟩ := Option.map_eq_some_iff.mp cleared
    exact (inv.doReset done).applied
  · obtain ⟨rt1, done, rfl⟩ := Option.map_eq_some_iff.mp cleared
    exact (inv.doReset done).applied
  · obtain ⟨rt1, done, rfl⟩ := Option.map_eq_some_iff.mp cleared
    exact (inv.doReset done).applied
  · exact Option.some.inj cleared ▸ inv

theorem postStart_inv (inv : RingInv cfg rt) (jiffies : Nat) (state : SndPcmState) :
    RingInv cfg (rt.postStart cfg hz jiffies state) := inv.congr rfl rfl rfl rfl

theorem start_inv (inv : RingInv cfg rt) (jiffies : Nat) (ret : Int) : RingInv cfg (rt.start cfg hz jiffies ret) := by
  unfold start
  split
  · exact inv
  · split
    · exact inv
    · split
      · exact postStart_inv inv jiffies .running
      · exact inv

theorem pause_inv (inv : RingInv cfg rt) {push : Bool} {ret : Int} (paused : rt.pause cfg hz io push ret = some rt') :
    RingInv cfg rt' := by
  unfold pause at paused
  by_cases refused : ¬ cfg.infoPause = true ∨ rt.state ≠ (if push = true then .running else .paused)
  · rw [if_pos refused] at paused
    exact Option.some.inj paused ▸ inv
  · rw [if_neg refused] at paused
    obtain ⟨rt1, updated, rfl⟩ := Option.map_eq_some_iff.mp paused
    have kept : RingInv cfg rt1 := by
      split at updated
      · obtain ⟨out, polled, rfl⟩ := Option.map_eq_some_iff.mp updated
        exact inv.updateHwPtr0 polled
      · exact Option.some.inj updated ▸ inv
    exact kept.congr rfl rfl rfl rfl

theorem suspend_inv (inv : RingInv cfg rt) : RingInv cfg rt.suspend := by
  unfold suspend
  split
  · exact inv
  · exact inv.congr rfl rfl rfl rfl

theorem resume_inv (inv : RingInv cfg rt) (ret : Int) : RingInv cfg (rt.resume ret) := by
  unfold resume
  split
  · exact inv.congr rfl rfl rfl rfl
  · exact inv

theorem drainInit_inv (inv : RingInv cfg rt) (jiffies : Nat) : RingInv cfg (rt.drainInit cfg hz jiffies) := by
  unfold drainInit
  split
  · split
    · exact postStart_inv inv jiffies .draining
    · exact inv
  · exact inv.congr rfl rfl rfl rfl
  · exact inv.congr rfl rfl rfl rfl
  · exact inv.stop _
  · exact inv

theorem rewind_inv (inv : RingInv cfg rt) {frames : Nat}
    (moved : (rt.rewind cfg hz io frames).map Prod.snd = some rt') : RingInv cfg rt' := by
  unfold rewind at moved
  split at moved
  · exact Option.some.inj moved ▸ inv
  · rw [Option.map_map] at moved
    obtain ⟨out, passed, rfl⟩ := Option.map_eq_some_iff.mp moved
    have kept := inv.rewindReady passed
    by_cases refused : out.1 < 0
    · simp only [Function.comp, refused, if_true]
      exact kept
    · simp only [Function.comp, refused, if_false]
      exact moveBack_inv kept (hwAvail_le kept) frames

theorem periodElapsed_inv (inv : RingInv cfg rt) {pointer jiffies : Nat}
    (elapsed : rt.periodElapsed cfg hz pointer jiffies = some rt') : RingInv cfg rt' := by
  unfold periodElapsed at elapsed
  split at elapsed
  · obtain ⟨out, updated, rfl⟩ := Option.map_eq_some_iff.mp elapsed
    exact inv.updateHwPtr0 updated
  · exact Option.some.inj elapsed ▸ inv

theorem pointerStep_inv (inv : RingInv cfg rt) {op : PointerOp} (step : pointerStep cfg hz rt op = some rt')
    (appl : rt'.applPtr < cfg.boundary) : RingInv cfg rt' := by
  cases op with
  | prepare io ret => exact prepare_inv inv step
  | reset io => exact reset_inv inv step
  | start jiffies ret => exact Option.some.inj step ▸ start_inv inv jiffies ret
  | stop state => exact Option.some.inj step ▸ inv.stop state
  | pause push io ret => exact pause_inv inv step
  | suspend => exact Option.some.inj step ▸ suspend_inv inv
  | resume ret => exact Option.some.inj step ▸ resume_inv inv ret
  | drain jiffies => exact Option.some.inj step ▸ drainInit_inv inv jiffies
  | update io =>
    obtain ⟨out, updated, rfl⟩ := Option.map_eq_some_iff.mp step
    exact inv.updateHwPtr0 updated
  | periodElapsed io =>
    exact periodElapsed_inv inv step
  | rewind io frames => exact rewind_inv inv step
  | forward io frames => exact forward_pointers inv step appl
  | hwsync io =>
    obtain ⟨out, synced, rfl⟩ := Option.map_eq_some_iff.mp step
    exact hwsync_inv inv synced
  | syncPtr io sync => exact syncPtr_pointers inv step appl
  | transferBegin size avail => exact Option.some.inj step ▸ inv
  | transferEnd index copied => exact Option.some.inj step ▸ inv

theorem pointerStep_appl_iff (inv : RingInv cfg rt) (op : PointerOp) :
    (∀ rt', pointerStep cfg hz rt op = some rt' → rt'.applPtr < cfg.boundary) ↔ OpFits cfg hz rt op := by
  cases op with
  | forward io frames => exact forward_inv_iff inv frames
  | syncPtr io sync => exact syncPtr_inv_iff inv sync
  | prepare io ret => exact iff_of_true (fun rt' step => (prepare_inv inv step).appl) trivial
  | reset io => exact iff_of_true (fun rt' step => (reset_inv inv step).appl) trivial
  | start jiffies ret =>
    exact iff_of_true (fun rt' step => Option.some.inj step ▸ (start_inv inv jiffies ret).appl) trivial
  | stop state => exact iff_of_true (fun rt' step => Option.some.inj step ▸ (inv.stop state).appl) trivial
  | pause push io ret => exact iff_of_true (fun rt' step => (pause_inv inv step).appl) trivial
  | suspend => exact iff_of_true (fun rt' step => Option.some.inj step ▸ (suspend_inv inv).appl) trivial
  | resume ret => exact iff_of_true (fun rt' step => Option.some.inj step ▸ (resume_inv inv ret).appl) trivial
  | drain jiffies =>
    exact iff_of_true (fun rt' step => Option.some.inj step ▸ (drainInit_inv inv jiffies).appl) trivial
  | update io =>
    refine iff_of_true (fun rt' step => ?_) trivial
    obtain ⟨out, updated, rfl⟩ := Option.map_eq_some_iff.mp step
    exact (inv.updateHwPtr0 updated).appl
  | periodElapsed io =>
    refine iff_of_true (fun rt' step => ?_) trivial
    exact (periodElapsed_inv inv step).appl
  | rewind io frames => exact iff_of_true (fun rt' step => (rewind_inv inv step).appl) trivial
  | hwsync io =>
    refine iff_of_true (fun rt' step => ?_) trivial
    obtain ⟨out, synced, rfl⟩ := Option.map_eq_some_iff.mp step
    exact (hwsync_inv inv synced).appl
  | transferBegin size avail => exact iff_of_true (fun rt' step => Option.some.inj step ▸ inv.appl) trivial
  | transferEnd index copied => exact iff_of_true (fun rt' step => Option.some.inj step ▸ inv.appl) trivial

theorem pointerStep_inv_iff (inv : RingInv cfg rt) (op : PointerOp) :
    (∀ rt', pointerStep cfg hz rt op = some rt' → RingInv cfg rt') ↔ OpFits cfg hz rt op := by
  rw [← pointerStep_appl_iff inv]
  constructor
  · exact fun kept rt' step => (kept rt' step).appl
  · exact fun below rt' step => pointerStep_inv inv step (below rt' step)

theorem transferStep_inv {sys : PointerSystem} (inv : PointerInv cfg sys) (op : PointerOp) :
    PointerInv cfg (transferStep cfg sys op) := by
  cases op with
  | transferBegin size avail =>
    refine ⟨inv.ring, ?_⟩
    intro t inside
    obtain rfl | older := List.mem_cons.mp inside
    · exact ⟨inv.ring.appl, transferFrames_le cfg sys.rt size avail⟩
    · exact inv.transfers t older
  | transferEnd index copied =>
    simp only [transferStep]
    split
    · exact inv
    · rename_i applPtr frames found
      obtain ⟨began, bound⟩ := inv.transfers (applPtr, frames) (List.mem_of_getElem? found)
      refine ⟨?_, fun t inside => inv.transfers t (List.mem_of_mem_eraseIdx inside)⟩
      cases copied with
      | false => exact inv.ring
      | true =>
        have appl := transferDone_appl inv.ring.appl began bound
        have pointers := transferDone_pointers sys.rt cfg applPtr frames
        exact inv.ring.of_pointers pointers.1 pointers.2.1 pointers.2.2 appl
  | _ => exact inv

structure RingPointers (cfg : PcmConfig) (rt : PcmRuntime) : Prop where
  base_dvd : cfg.bufferSize ∣ rt.hwPtrBase
  base_lt : rt.hwPtrBase < cfg.boundary
  base_le : rt.hwPtrBase ≤ rt.hwPtr
  inside : rt.hwPtr < rt.hwPtrBase + cfg.bufferSize
  hw_lt : rt.hwPtr < cfg.boundary
  appl_lt : rt.applPtr < cfg.boundary
  interrupt_lt : rt.hwPtrInterrupt < cfg.boundary
  playback_lt : rt.playbackAvail cfg < cfg.boundary
  playback_congr :
    (rt.playbackAvail cfg : Int) % cfg.boundary = ((rt.hwPtr : Int) + cfg.bufferSize - rt.applPtr) % cfg.boundary
  capture_lt : rt.captureAvail cfg < cfg.boundary
  capture_congr : (rt.captureAvail cfg : Int) % cfg.boundary = ((rt.hwPtr : Int) - rt.applPtr) % cfg.boundary

theorem ringPointers_iff : RingPointers cfg rt ↔ RingInv cfg rt := by
  constructor
  · intro pointers
    exact ⟨⟨pointers.base_dvd, pointers.base_lt⟩, pointers.base_le, pointers.inside, pointers.interrupt_lt,
      pointers.appl_lt⟩
  · intro inv
    obtain ⟨playback, capture⟩ := avail_lt inv.hw inv.appl
    refine ⟨inv.base.1, inv.base.2, inv.base_le, inv.inside, inv.hw, inv.appl, inv.interrupt, playback, ?_, capture, ?_⟩
    · rw [playbackAvail_eq inv.hw inv.appl, Int.emod_emod]
    · rw [captureAvail_eq inv.hw inv.appl, Int.emod_emod]

structure AvailRange (cfg : PcmConfig) (rt : PcmRuntime) : Prop where
  appl_lt : rt.applPtr < cfg.boundary
  playback_lt : rt.playbackAvail cfg < cfg.boundary
  capture_lt : rt.captureAvail cfg < cfg.boundary

structure Configured (sys : PointerSystem) : Prop where
  hw : sys.rt.hwPtr = 0
  base : sys.rt.hwPtrBase = 0
  interrupt : sys.rt.hwPtrInterrupt = 0
  appl : sys.rt.applPtr = 0
  transfers : sys.transfers = []

theorem Configured.inv {sys : PointerSystem} (configured : Configured sys) : PointerInv cfg sys := by
  have positive := cfg.buffer_pos
  have large := cfg.boundary_large
  refine ⟨⟨?_, ?_, ?_, ?_, ?_⟩, ?_⟩
  · rw [configured.base]
    exact .zero
  · rw [configured.base]
    exact Nat.zero_le _
  · rw [configured.base, configured.hw]
    omega
  · rw [configured.interrupt]
    omega
  · rw [configured.appl]
    omega
  · rw [configured.transfers]
    simp

def WhenAlive (P : PointerSystem → Prop) (state : Option PointerSystem) : Prop := ∀ sys, state = some sys → P sys

/-- A step of the system keeps its invariant exactly if the operation fits; the transfers only add
    and store what fits. -/
theorem pointerExec_inv_iff {sys : PointerSystem} (inv : PointerInv cfg sys) (op : PointerOp) :
    WhenAlive (PointerInv cfg) (pointerExec cfg hz (some sys) op) ↔ OpFits cfg hz sys.rt op := by
  rw [← pointerStep_inv_iff inv.ring]
  constructor
  · intro kept rt' step
    have next : PointerInv cfg (transferStep cfg { sys with rt := rt' } op) := kept _ (by rw [pointerExec, step]; rfl)
    cases op with
    | transferBegin size avail => exact Option.some.inj step ▸ inv.ring
    | transferEnd index copied => exact Option.some.inj step ▸ inv.ring
    | _ => exact next.ring
  · rintro kept sys' step
    obtain ⟨rt', stepped, rfl⟩ := Option.map_eq_some_iff.mp step
    have next : PointerInv cfg { sys with rt := rt' } := ⟨kept rt' stepped, inv.transfers⟩
    exact transferStep_inv next op

theorem pointerExec_appl_iff {sys : PointerSystem} (inv : PointerInv cfg sys) (op : PointerOp) :
    WhenAlive (fun sys => sys.rt.applPtr < cfg.boundary) (pointerExec cfg hz (some sys) op) ↔
      OpFits cfg hz sys.rt op := by
  constructor
  · intro below
    rw [← pointerStep_inv_iff inv.ring]
    intro rt' step
    have appl : (transferStep cfg { sys with rt := rt' } op).rt.applPtr < cfg.boundary :=
      below _ (by rw [pointerExec, step]; rfl)
    cases op with
    | transferBegin size avail => exact Option.some.inj step ▸ inv.ring
    | transferEnd index copied => exact Option.some.inj step ▸ inv.ring
    | _ => exact pointerStep_inv inv.ring step appl
  · intro fits sys' step
    exact ((pointerExec_inv_iff inv op).mpr fits sys' step).ring.appl

def Fits (cfg : PcmConfig) (hz : Nat) (state : Option PointerSystem) (op : PointerOp) : Prop :=
  WhenAlive (fun sys => OpFits cfg hz sys.rt op) state

theorem pointerExec_keeps {state : Option PointerSystem} {op : PointerOp} (inv : WhenAlive (PointerInv cfg) state)
    (fits : Fits cfg hz state op) : WhenAlive (PointerInv cfg) (pointerExec cfg hz state op) := by
  cases state with
  | none => simp [WhenAlive, pointerExec]
  | some sys => exact (pointerExec_inv_iff (inv sys rfl) op).mpr (fits sys rfl)

theorem pointerExec_decides {Q : PcmRuntime → Prop} (weaker : ∀ rt, RingInv cfg rt → Q rt)
    (stronger : ∀ rt, Q rt → rt.applPtr < cfg.boundary) {state : Option PointerSystem} {op : PointerOp}
    (inv : WhenAlive (PointerInv cfg) state) :
    WhenAlive (fun sys => Q sys.rt) (pointerExec cfg hz state op) ↔ Fits cfg hz state op := by
  constructor
  · rintro holds sys rfl
    refine (pointerExec_appl_iff (inv sys rfl) op).mp ?_
    exact fun sys' step => stronger sys'.rt (holds sys' step)
  · intro fits sys' step
    exact weaker sys'.rt (pointerExec_keeps inv fits sys' step).ring

section Runs

variable {sys : PointerSystem} {ops : List PointerOp}

/-- The ring pointers stay as they should in every run without `SYNC_PTR` exactly if every forward
    fits. -/
theorem pointerRun_ring_iff (configured : Configured sys)
    (own : Throughout (pointerExec cfg hz) (fun _ op _ => ∀ io sync, op ≠ .syncPtr io sync) (some sys) ops) :
    Throughout (pointerExec cfg hz) (fun _ _ state => WhenAlive (fun sys => RingPointers cfg sys.rt) state) (some sys)
        ops ↔
      Throughout (pointerExec cfg hz)
        (fun state op _ => WhenAlive (fun sys => ∀ io frames, op = .forward io frames →
          ForwardFits cfg hz sys.rt io frames) state) (some sys) ops := by
  have fits {state : Option PointerSystem} {op : PointerOp} (unsynced : ∀ io sync, op ≠ .syncPtr io sync) :
      Fits cfg hz state op ↔ WhenAlive (fun sys => ∀ io frames, op = .forward io frames →
        ForwardFits cfg hz sys.rt io frames) state := by
    cases op with
    | forward io frames => simp [Fits, WhenAlive, OpFits]
    | syncPtr io sync => exact absurd rfl (unsynced io sync)
    | _ => simp [Fits, WhenAlive, OpFits]
  refine throughout_iff (WhenAlive (PointerInv cfg)) _ _ ?_ ?_ ?_ own
  · intro state op inv unsynced
    rw [← fits unsynced]
    exact pointerExec_decides (fun rt inv => ringPointers_iff.mpr inv) (fun rt pointers => pointers.appl_lt) inv
  · intro state op inv unsynced condition
    exact pointerExec_keeps inv ((fits unsynced).mpr condition)
  · rintro sys' same
    exact Option.some.inj same ▸ configured.inv

/-- The avail functions keep their documented range in every run exactly if every forward fits and
    every `appl_ptr` that the user sets is below the boundary. -/
theorem pointerRun_avail_iff (configured : Configured sys) :
    Throughout (pointerExec cfg hz) (fun _ _ state => WhenAlive (fun sys => AvailRange cfg sys.rt) state) (some sys)
        ops ↔
      Throughout (pointerExec cfg hz) (fun state op _ => Fits cfg hz state op) (some sys) ops := by
  have anything : Throughout (pointerExec cfg hz) (fun _ _ _ => True) (some sys) ops := .of_mem fun _ _ _ => trivial
  refine throughout_iff (WhenAlive (PointerInv cfg)) _ _ ?_ ?_ ?_ anything
  · intro state op inv _
    refine pointerExec_decides (fun rt inv => ?_) (fun rt range => range.appl_lt) inv
    obtain ⟨playback, capture⟩ := avail_lt inv.hw inv.appl
    exact ⟨inv.appl, playback, capture⟩
  · intro state op inv _ condition
    exact pointerExec_keeps inv condition
  · rintro sys' same
    exact Option.some.inj same ▸ configured.inv

end Runs

section Passes

variable {rt0 : PcmRuntime}

/-- The polls of `n` passes over the ring. -/
def passOps (jiffies : Nat) : Nat → List PointerOp
  | 0 => []
  | n + 1 => .update ⟨1, jiffies⟩ :: .update ⟨0, jiffies⟩ :: passOps jiffies n

theorem passOps_run (hz : Nat) (free : FreeRunning cfg rt0) (n : Nat) {total : Nat} (aligned : cfg.bufferSize ∣ total) :
    (passOps rt0.hwPtrJiffies n).foldl (pointerExec cfg hz) (some ⟨runningAt cfg rt0 total 0, []⟩) =
      some ⟨runningAt cfg rt0 (total + n * cfg.bufferSize) 0, []⟩ := by
  induction n generalizing total with
  | zero => simp [passOps]
  | succ n ih =>
    obtain ⟨first, second⟩ := polls_runningAt hz free aligned
    have middle : pointerExec cfg hz (some ⟨runningAt cfg rt0 total 0, []⟩) (.update ⟨1, rt0.hwPtrJiffies⟩) =
        some ⟨runningAt cfg rt0 total 1, []⟩ := by
      simp [pointerExec, pointerStep, transferStep, first]
    have last : pointerExec cfg hz (some ⟨runningAt cfg rt0 total 1, []⟩) (.update ⟨0, rt0.hwPtrJiffies⟩) =
        some ⟨runningAt cfg rt0 (total + cfg.bufferSize) 0, []⟩ := by
      simp [pointerExec, pointerStep, transferStep, second]
    rw [passOps, List.foldl_cons, List.foldl_cons, middle, last, ih (Nat.dvd_add aligned (Nat.dvd_refl _)),
      Nat.succ_mul, Nat.add_assoc, Nat.add_comm cfg.bufferSize]

theorem passOps_update {jiffies n : Nat} {op : PointerOp} (inside : op ∈ passOps jiffies n) :
    ∃ io, op = .update io := by
  induction n with
  | zero => simp [passOps] at inside
  | succ n ih =>
    obtain rfl | inside := List.mem_cons.mp inside
    · exact ⟨_, rfl⟩
    · obtain rfl | inside := List.mem_cons.mp inside
      · exact ⟨_, rfl⟩
      · exact ih inside

end Passes

section Example

def oddConfig : PcmConfig where
  stream := .playback
  rate := 48000
  periodSize := 3 * 2 ^ 30
  bufferSize := 3 * 2 ^ 30
  minAlign := 1
  noPeriodWakeup := false
  infoPause := true
  startThreshold := 1
  stopThreshold := 2 ^ 63
  rate_pos := by decide
  period_pos := by decide
  buffer_pos := by decide
  align_pos := Nat.one_pos
  rate_lt := by decide
  period_lt := by decide
  buffer_lt := by decide

def configuredSystem : PointerSystem where
  rt :=
    { state := .setup, suspendedState := .open, hwPtr := 0, hwPtrBase := 0, hwPtrInterrupt := 0, hwPtrJiffies := 0,
      hwPtrBufferJiffies := 0, applPtr := 0, availMin := 1, twake := 0 }
  transfers := []

theorem configuredSystem_configured : Configured configuredSystem := ⟨rfl, rfl, rfl, rfl, rfl⟩

/-- The stream runs to two buffers before the boundary, where all that was played is skipped, and on
    until two boundaries no longer fit. -/
def forwardOps : List PointerOp :=
  [.prepare ⟨0, 0⟩ 0, .start 0 0] ++ (passOps 0 (2 ^ 31 - 2) ++
    ([.forward ⟨0, 0⟩ (2 ^ 61 * 3 - 2 ^ 31 * 3)] ++
      (passOps 0 715827885 ++ [.forward ⟨0, 0⟩ (2 ^ 63 - 1)])))

def oddRuntime (applPtr : Nat) : PcmRuntime where
  state := .running
  suspendedState := .open
  hwPtr := 0
  hwPtrBase := 0
  hwPtrInterrupt := 0
  hwPtrJiffies := 0
  hwPtrBufferJiffies := 16777216
  applPtr := applPtr
  availMin := 1
  twake := 0

theorem oddRuntime_free {applPtr : Nat} (appl : applPtr < oddConfig.boundary) :
    FreeRunning oddConfig (oddRuntime applPtr) := by
  have interrupt : 0 < oddConfig.boundary := by decide
  exact ⟨rfl, rfl, by decide, by decide, rfl, interrupt, appl⟩

theorem forwardOps_own {op : PointerOp} (inside : op ∈ forwardOps) : ∀ io sync, op ≠ .syncPtr io sync := by
  simp only [forwardOps, List.mem_append, List.mem_cons, List.not_mem_nil, or_false] at inside
  rintro io sync rfl
  obtain (begun | begun) | first | jump | second | last := inside
  · cases begun
  · cases begun
  · obtain ⟨io', same⟩ := passOps_update first
    cases same
  · cases jump
  · obtain ⟨io', same⟩ := passOps_update second
    cases same
  · cases last

/-- The last forward stores the sum as it is, beyond the boundary. -/
theorem forward_beyond_boundary :
    Configured configuredSystem ∧
      Throughout (pointerExec oddConfig 250) (fun _ op _ => ∀ io sync, op ≠ .syncPtr io sync)
        (some configuredSystem) forwardOps ∧
      ¬ Throughout (pointerExec oddConfig 250)
        (fun _ _ state => WhenAlive (fun sys => RingPointers oddConfig sys.rt) state) (some configuredSystem)
        forwardOps := by
  refine ⟨configuredSystem_configured, .of_mem fun op inside _ => forwardOps_own inside, ?_⟩
  have begun : [PointerOp.prepare ⟨0, 0⟩ 0, .start 0 0].foldl (pointerExec oddConfig 250) (some configuredSystem) =
      some ⟨runningAt oddConfig (oddRuntime 0) 0 0, []⟩ := by decide
  have first := passOps_run 250 (oddRuntime_free (by decide : 0 < oddConfig.boundary)) (2 ^ 31 - 2)
    (Nat.dvd_zero _)
  have jump : [PointerOp.forward ⟨0, 0⟩ (2 ^ 61 * 3 - 2 ^ 31 * 3)].foldl (pointerExec oddConfig 250)
      (some ⟨runningAt oddConfig (oddRuntime 0) (0 + (2 ^ 31 - 2) * oddConfig.bufferSize) 0, []⟩) =
        some ⟨runningAt oddConfig (oddRuntime 6917529021198630912)
          (0 + (2 ^ 31 - 2) * oddConfig.bufferSize) 0, []⟩ := by decide +kernel
  have second := passOps_run 250 (oddRuntime_free (by decide : 6917529021198630912 < oddConfig.boundary))
    715827885 (Nat.dvd_add (Nat.dvd_zero oddConfig.bufferSize) (Nat.dvd_mul_left _ (2 ^ 31 - 2)))
  have jiffies (applPtr : Nat) : (oddRuntime applPtr).hwPtrJiffies = 0 := rfl
  rw [jiffies] at first second
  intro kept
  rw [forwardOps, throughout_append, begun, throughout_append, first, throughout_append, jump, throughout_append,
    second] at kept
  obtain ⟨-, -, -, -, last, -⟩ := kept
  have below := (last _ rfl).appl_lt
  exact absurd below (by decide)

theorem pointerRun_ring_iff_forward :
    Throughout (pointerExec oddConfig 250) (fun _ _ state => WhenAlive (fun sys => RingPointers oddConfig sys.rt) state)
        (some configuredSystem) [.prepare ⟨0, 0⟩ 0, .forward ⟨0, 0⟩ 5] ↔
      Throughout (pointerExec oddConfig 250)
        (fun state op _ => WhenAlive (fun sys => ∀ io frames, op = .forward io frames →
          ForwardFits oddConfig 250 sys.rt io frames) state)
        (some configuredSystem) [.prepare ⟨0, 0⟩ 0, .forward ⟨0, 0⟩ 5] :=
  pointerRun_ring_iff configuredSystem_configured ⟨by simp, by simp, trivial⟩

theorem pointerRun_avail_iff_forward :
    Throughout (pointerExec oddConfig 250) (fun _ _ state => WhenAlive (fun sys => AvailRange oddConfig sys.rt) state)
        (some configuredSystem) [.prepare ⟨0, 0⟩ 0, .forward ⟨0, 0⟩ 5] ↔
      Throughout (pointerExec oddConfig 250) (fun state op _ => Fits oddConfig 250 state op)
        (some configuredSystem) [.prepare ⟨0, 0⟩ 0, .forward ⟨0, 0⟩ 5] :=
  pointerRun_avail_iff configuredSystem_configured

/-- The user's pointer is stored as it is. -/
theorem syncPtr_beyond_boundary :
    Configured configuredSystem ∧
      ¬ Throughout (pointerExec oddConfig 250)
        (fun _ _ state => WhenAlive (fun sys => AvailRange oddConfig sys.rt) state) (some configuredSystem)
        [.syncPtr ⟨0, 0⟩ ⟨false, false, false, 2 ^ 64 - 1, 1⟩] := by
  refine ⟨configuredSystem_configured, ?_⟩
  rintro ⟨kept, -⟩
  have below := (kept _ rfl).appl_lt
  exact absurd below (by decide)

end Example

end AlsaDriver.Pcm
