import AlsaDriver.Pcm.Runtime

namespace AlsaDriver.Pcm

def SNDRV_PCM_POS_XRUN : Nat := 2 ^ 64 - 1

namespace PcmRuntime

variable (cfg : PcmConfig) (rt : PcmRuntime)

def updateState : Int × PcmRuntime :=
  let avail := rt.avail cfg
  if rt.state = .draining then
    if cfg.bufferSize ≤ avail then (-EPIPE, rt.stop .setup) else (0, rt)
  else if cfg.stopThreshold ≤ avail then (-EPIPE, rt.stop .xrun)
  else (0, rt)

def seenPos (pointer : Nat) : Nat :=
  let pos := if cfg.bufferSize ≤ pointer then 0 else pointer
  pos - pos % cfg.minAlign

/-- `hw_base += buffer_size`, back to 0 at the boundary. -/
def nextBase (hwBase : Nat) : Nat :=
  let hwBase := ulong (hwBase + cfg.bufferSize)
  if cfg.boundary ≤ hwBase then 0 else hwBase

/-- The base of the new pointer as the interrupt and the position tell it, with the unsigned
    comparisons of the source. -/
def seenBase (inInterrupt : Bool) (pos jiffies : Nat) : Nat :=
  let newHwPtr := ulong (rt.hwPtrBase + pos)
  if inInterrupt ∧ newHwPtr < ulong (rt.hwPtrInterrupt + cfg.periodSize) ∧
      rt.hwPtrBufferJiffies / 2 < ulong (jiffies - rt.hwPtrJiffies) then
    nextBase cfg rt.hwPtrBase
  else if newHwPtr < rt.hwPtr then nextBase cfg rt.hwPtrBase
  else rt.hwPtrBase

def hwPtrDelta (newHwPtr : Nat) : Int :=
  let delta := slong (newHwPtr - rt.hwPtr)
  if delta < 0 then slong (delta + cfg.boundary) else delta

/-- The loop that adds the buffers lost without period wakeups; `none` when it never ends. -/
def catchUp (bufferJiffies : Nat) (threshold : Int) : Nat → Int → Nat → Option Nat
  | fuel, hdelta, hwBase =>
    if hdelta ≤ threshold then some hwBase
    else
      match fuel with
      | 0 => none
      | fuel + 1 => catchUp bufferJiffies threshold fuel (slong (hdelta - bufferJiffies)) (nextBase cfg hwBase)

/-- The base after the check of the elapsed time; a loop that ends takes a jiffy off `hdelta` in
    every pass. -/
def compensate (hz jiffies : Nat) (delta : Int) (hwBase : Nat) : Option Nat :=
  let jdelta := ulong (jiffies - rt.hwPtrJiffies)
  if jdelta < rt.hwPtrBufferJiffies / 2 then some hwBase
  else
    let hdelta := slong (jdelta - (slong (delta * hz)).tdiv cfg.rate)
    let xrunThreshold := slong (rt.hwPtrBufferJiffies / 2 + 1 : Nat)
    catchUp cfg rt.hwPtrBufferJiffies xrunThreshold hdelta.toNat hdelta hwBase

/-- `hw_ptr_interrupt` after a period interrupt. -/
def interruptPtr (newHwPtr : Nat) : Nat :=
  let delta := slong (newHwPtr - rt.hwPtrInterrupt)
  let delta := if delta < 0 then slong (delta + cfg.boundary) else delta
  let delta := slong (delta - (ulong delta % cfg.periodSize : Nat))
  let hwPtrInterrupt := ulong (rt.hwPtrInterrupt + delta)
  if cfg.boundary ≤ hwPtrInterrupt then ulong (hwPtrInterrupt - cfg.boundary) else hwPtrInterrupt

def moved (inInterrupt : Bool) (hwBase newHwPtr jiffies : Nat) : PcmRuntime :=
  { rt with
    hwPtrInterrupt := if inInterrupt then rt.interruptPtr cfg newHwPtr else rt.hwPtrInterrupt
    hwPtrBase := hwBase
    hwPtr := newHwPtr
    hwPtrJiffies := jiffies }

def storeHwPtr (inInterrupt : Bool) (hwBase newHwPtr jiffies : Nat) : Int × PcmRuntime :=
  if rt.hwPtr = newHwPtr then (0, rt) else (rt.moved cfg inInterrupt hwBase newHwPtr jiffies).updateState cfg

/-- `snd_pcm_update_hw_ptr0` without the jiffies debug check; `none` when it does not return. -/
def updateHwPtr0 (hz : Nat) (inInterrupt : Bool) (pointer jiffies : Nat) : Option (Int × PcmRuntime) :=
  if pointer = SNDRV_PCM_POS_XRUN then some (-EPIPE, rt.stop .xrun)
  else
    let pos := seenPos cfg pointer
    let hwBase := rt.seenBase cfg inInterrupt pos jiffies
    let newHwPtr := ulong (hwBase + pos)
    let delta := rt.hwPtrDelta cfg newHwPtr
    if cfg.noPeriodWakeup then
      (rt.compensate cfg hz jiffies delta hwBase).map fun hwBase =>
        rt.storeHwPtr cfg inInterrupt hwBase (ulong (hwBase + pos)) jiffies
    else if ulong (cfg.bufferSize + cfg.periodSize) ≤ ulong delta then some (0, rt)
    else some (rt.storeHwPtr cfg inInterrupt hwBase newHwPtr jiffies)

def updateHwPtr (hz pointer jiffies : Nat) : Option (Int × PcmRuntime) :=
  rt.updateHwPtr0 cfg hz false pointer jiffies

def periodElapsed (hz pointer jiffies : Nat) : Option PcmRuntime :=
  if rt.running cfg then (rt.updateHwPtr0 cfg hz true pointer jiffies).map Prod.snd else some rt

def postStart (hz jiffies : Nat) (state : SndPcmState) : PcmRuntime :=
  { rt with
    hwPtrJiffies := jiffies
    hwPtrBufferJiffies := ulong (cfg.bufferSize * hz) / cfg.rate
    state := state }

end PcmRuntime

end AlsaDriver.Pcm

namespace AlsaDriver.Pcm

/-- What a pointer update reads: the position the driver delivers and `jiffies`. -/
structure DeviceTime where
  pointer : Nat
  jiffies : Nat

namespace PcmRuntime

variable (cfg : PcmConfig) (hz : Nat) (io : DeviceTime) (rt : PcmRuntime)

def ioctlReset : Option PcmRuntime :=
  if rt.running cfg then
    (rt.updateHwPtr cfg hz io.pointer io.jiffies).map fun (err, rt) =>
      if 0 ≤ err then { rt with hwPtr := rt.hwPtr % cfg.bufferSize } else { rt with hwPtr := 0 }
  else some { rt with hwPtr := 0 }

def doReset : Option PcmRuntime :=
  (rt.ioctlReset cfg hz io).map fun rt =>
    { rt with hwPtrBase := 0, hwPtrInterrupt := ulong (rt.hwPtr - (rt.hwPtr % cfg.periodSize : Nat)) }

def reset : Option PcmRuntime :=
  match rt.state with
  | .running | .prepared | .paused | .suspended =>
    (rt.doReset cfg hz io).map fun rt => { rt with applPtr := rt.hwPtr }
  | _ => some rt

def setState (state : SndPcmState) : PcmRuntime :=
  if rt.state ≠ .disconnected then { rt with state := state } else rt

/-- `ret` is the result of the driver's `prepare`. -/
def prepare (ret : Int) : Option PcmRuntime :=
  if rt.state = .open ∨ rt.state = .disconnected then some rt
  else if rt.running cfg then some rt
  else if ret < 0 then some rt
  else (rt.doReset cfg hz io).map fun rt => { rt with applPtr := rt.hwPtr }.setState .prepared

def playbackData : Bool := decide (cfg.boundary ≤ cfg.stopThreshold) || decide (rt.playbackAvail cfg < cfg.bufferSize)

/-- `ret` is the result of the trigger. -/
def start (jiffies : Nat) (ret : Int) : PcmRuntime :=
  if rt.state ≠ .prepared then rt
  else if cfg.stream = .playback ∧ ¬ rt.playbackData cfg then rt
  else if ret = 0 then rt.postStart cfg hz jiffies .running
  else rt

def pause (push : Bool) (ret : Int) : Option PcmRuntime :=
  if ¬ cfg.infoPause ∨ rt.state ≠ (if push then .running else .paused) then some rt
  else
    (if push then (rt.updateHwPtr cfg hz io.pointer io.jiffies).map Prod.snd else some rt).map fun rt =>
      { rt with
        hwPtrJiffies := ulong (io.jiffies - hz * 1000)
        state := if ret = 0 then (if push then .paused else .running) else rt.state }

def suspend : PcmRuntime :=
  if rt.state = .suspended then rt else { rt with suspendedState := rt.state, state := .suspended }

def resume (ret : Int) : PcmRuntime := if ret = 0 then { rt with state := rt.suspendedState } else rt

def drainInit (jiffies : Nat) : PcmRuntime :=
  match cfg.stream, rt.state with
  | .playback, .prepared =>
    if rt.playbackAvail cfg < cfg.bufferSize then rt.postStart cfg hz jiffies .draining else rt
  | .playback, .running => { rt with state := .draining }
  | .playback, .xrun => { rt with state := .setup }
  | .capture, .running => rt.stop (if 0 < rt.captureAvail cfg then .draining else .setup)
  | _, _ => rt

/-- The state test of rewind and forward: in `ready` the pointers are as they are, in `polled` they
    are updated first. -/
def pointerReady (ready polled : List SndPcmState) : Option (Int × PcmRuntime) :=
  if rt.state ∈ ready then some (0, rt)
  else if rt.state ∈ polled then
    (rt.updateHwPtr cfg hz io.pointer io.jiffies).map fun (err, rt) => if 0 ≤ err then (0, rt) else (-EPIPE, rt)
  else
    match rt.state with
    | .xrun => some (-EPIPE, rt)
    | .suspended => some (-ESTRPIPE, rt)
    | _ => some (-EBADFD, rt)

def moveBack (hwAvail : Int) (frames : Nat) : Int × PcmRuntime :=
  if hwAvail ≤ 0 then (0, rt)
  else
    let frames := if ulong hwAvail < frames then ulong hwAvail else frames
    let applPtr := slong (rt.applPtr - frames)
    let applPtr := if applPtr < 0 then slong (applPtr + cfg.boundary) else applPtr
    (slong frames, { rt with applPtr := ulong applPtr })

def moveAhead (avail : Nat) (frames : Nat) : Int × PcmRuntime :=
  if slong avail ≤ 0 then (0, rt)
  else
    let frames := if avail < frames then avail else frames
    let applPtr := slong (rt.applPtr + frames)
    let applPtr := if slong cfg.boundary ≤ applPtr then slong (applPtr - cfg.boundary) else applPtr
    (slong frames, { rt with applPtr := ulong applPtr })

def hwAvail : Int :=
  match cfg.stream with
  | .playback => rt.playbackHwAvail cfg
  | .capture => rt.captureHwAvail cfg

def rewindReady : Option (Int × PcmRuntime) :=
  match cfg.stream with
  | .playback => rt.pointerReady cfg hz io [.prepared] [.draining, .running]
  | .capture => rt.pointerReady cfg hz io [.prepared, .draining] [.running]

/-- `snd_pcm_playback_rewind` and `snd_pcm_capture_rewind`. -/
def rewind (frames : Nat) : Option (Int × PcmRuntime) :=
  if frames = 0 then some (0, rt)
  else (rt.rewindReady cfg hz io).map fun (err, rt) =>
    if err < 0 then (err, rt) else rt.moveBack cfg (rt.hwAvail cfg) frames

def forwardReady : Option (Int × PcmRuntime) :=
  match cfg.stream with
  | .playback => rt.pointerReady cfg hz io [.prepared, .paused] [.draining, .running]
  | .capture => rt.pointerReady cfg hz io [.prepared, .draining, .paused] [.running]

/-- `snd_pcm_playback_forward` and `snd_pcm_capture_forward`. -/
def forward (frames : Nat) : Option (Int × PcmRuntime) :=
  if frames = 0 then some (0, rt)
  else (rt.forwardReady cfg hz io).map fun (err, rt) =>
    if err < 0 then (err, rt) else rt.moveAhead cfg (rt.avail cfg) frames

def hwsync : Option (Int × PcmRuntime) :=
  let polled := (rt.updateHwPtr cfg hz io.pointer io.jiffies).map fun (err, rt) => (if err < 0 then err else 0, rt)
  match rt.state with
  | .draining => if cfg.stream = .capture then some (-EBADFD, rt) else polled
  | .running => polled
  | .prepared | .suspended => some (0, rt)
  | .xrun => some (-EPIPE, rt)
  | _ => some (-EBADFD, rt)

/-- The flags of a `SYNC_PTR` request and the user's control values. -/
structure SyncPtr where
  hwsync : Bool
  appl : Bool
  availMin : Bool
  userApplPtr : Nat
  userAvailMin : Nat

def syncControl (sync : SyncPtr) : PcmRuntime :=
  { rt with
    applPtr := if sync.appl then rt.applPtr else ulong sync.userApplPtr
    availMin := if sync.availMin then rt.availMin else ulong sync.userAvailMin }

def syncPtr (sync : SyncPtr) : Option (Int × PcmRuntime) :=
  if sync.hwsync then
    (rt.hwsync cfg hz io).map fun (err, rt) => if err < 0 then (err, rt) else (0, rt.syncControl sync)
  else some (0, rt.syncControl sync)

/-- The frames of one transfer of read and write, from their locals `size` and `avail`. -/
def transferFrames (size avail : Nat) : Nat :=
  let frames := if avail < size then avail else size
  let cont := cfg.bufferSize - rt.applPtr % cfg.bufferSize
  if cont < frames then cont else frames

/-- The end of a transfer that began at `applPtr`, unless the stream was stopped meanwhile. -/
def transferDone (applPtr frames : Nat) : PcmRuntime :=
  match rt.state with
  | .xrun | .suspended => rt
  | _ =>
    let applPtr := ulong (applPtr + frames)
    { rt with applPtr := if cfg.boundary ≤ applPtr then ulong (applPtr - cfg.boundary) else applPtr }

end PcmRuntime

end AlsaDriver.Pcm
