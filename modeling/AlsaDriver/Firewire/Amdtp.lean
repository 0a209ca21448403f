import AlsaDriver.Firewire.Errors
import AlsaDriver.Lib.Pacing

namespace AlsaDriver.Firewire

def TICKS_PER_CYCLE : Nat := 3072
def CYCLES_PER_SECOND : Nat := 8000
def TICKS_PER_SECOND : Nat := TICKS_PER_CYCLE * CYCLES_PER_SECOND
def TRANSFER_DELAY_TICKS : Nat := 0x2e00
def QUEUE_LENGTH : Nat := 48

inductive CipSfc where
  | sfc32000
  | sfc44100
  | sfc48000
  | sfc88200
  | sfc96000
  | sfc176400
  | sfc192000
  deriving DecidableEq

namespace CipSfc

def code : CipSfc → Nat
  | .sfc32000 => 0
  | .sfc44100 => 1
  | .sfc48000 => 2
  | .sfc88200 => 3
  | .sfc96000 => 4
  | .sfc176400 => 5
  | .sfc192000 => 6

def all : List CipSfc := [.sfc32000, .sfc44100, .sfc48000, .sfc88200, .sfc96000, .sfc176400, .sfc192000]

def isBase44100 (sfc : CipSfc) : Bool := sfc.code % 2 == 1

/-- The table `rate_info`: rate and SYT interval. -/
def rateInfo : CipSfc → Nat × Nat
  | .sfc32000 => (32000, 8)
  | .sfc44100 => (44100, 8)
  | .sfc48000 => (48000, 8)
  | .sfc88200 => (88200, 16)
  | .sfc96000 => (96000, 16)
  | .sfc176400 => (176400, 32)
  | .sfc192000 => (192000, 32)

def rate (sfc : CipSfc) : Nat := sfc.rateInfo.1

def maxDataBlocks : CipSfc → Nat
  | .sfc32000 => 4
  | .sfc44100 => 6
  | .sfc48000 => 6
  | .sfc88200 => 12
  | .sfc96000 => 12
  | .sfc176400 => 23
  | .sfc192000 => 24

/-- The table `initial_state`: data block state and SYT offset state. -/
def initialState : CipSfc → Nat × Nat
  | .sfc32000 => (4, 3072)
  | .sfc48000 => (6, 1024)
  | .sfc96000 => (12, 1024)
  | .sfc192000 => (24, 1024)
  | .sfc44100 => (0, 67)
  | .sfc88200 => (0, 67)
  | .sfc176400 => (0, 67)

end CipSfc

structure AmdtpOutStream where
  sfc : CipSfc
  sytInterval : Nat
  pcmChannels : Nat
  midiPorts : Nat
  dataBlockQuadlets : Nat
  running : Bool
  packetIndex : Option Nat
  dataBlockCounter : Nat
  dataBlockState : Nat
  lastSytOffset : Nat
  sytOffsetState : Nat

structure Packet where
  dataBlockQuadlets : Nat
  dataBlockCounter : Nat
  sfc : CipSfc
  syt : Nat
  dataBlocks : Nat
  payloadLength : Nat

/-- `no info`. -/
def noInfo : Nat := 0xffff

namespace AmdtpOutStream

variable (s : AmdtpOutStream)

def amdtpOutStreamSetRate (rate : Nat) : AmdtpOutStream :=
  if s.running then s
  else
    match CipSfc.all.find? fun sfc => sfc.rateInfo.1 == rate with
    | some sfc => { s with sfc, sytInterval := sfc.rateInfo.2 }
    | none => s

def amdtpOutStreamGetMaxPayload : Nat × AmdtpOutStream :=
  let s := { s with dataBlockQuadlets := s.pcmChannels + (s.midiPorts + 7) / 8 }
  (8 + s.sfc.maxDataBlocks * 4 * s.dataBlockQuadlets, s)

def phaseDataBlocks (sfc : CipSfc) (phase : Nat) : Nat :=
  if sfc = .sfc44100 then 5 + ((phase &&& 1) ^^^ (if phase = 0 ∨ 40 ≤ phase then 1 else 0))
  else 11 * (sfc.code >>> 1) + if phase = 0 then 1 else 0

def calculateDataBlocks : Nat × AmdtpOutStream :=
  if s.sfc.isBase44100 = false then (s.dataBlockState, s)
  else
    let phase := s.dataBlockState
    let dataBlocks := phaseDataBlocks s.sfc phase
    let phase := phase + 1
    (dataBlocks, { s with dataBlockState := if 80 >>> (s.sfc.code >>> 1) ≤ phase then 0 else phase })

def phaseSytStep (phase : Nat) : Nat :=
  let index := phase % 13
  1386 + if (index ≠ 0 ∧ index &&& 3 = 0) ∨ phase = 146 then 1 else 0

/-- The SYT field for an offset in the packet of `cycle`. -/
def sytField (cycle sytOffset : Nat) : Nat :=
  let sytOffset := sytOffset + (TRANSFER_DELAY_TICKS - TICKS_PER_CYCLE)
  ((cycle + sytOffset / TICKS_PER_CYCLE) * 2 ^ 12 + sytOffset % TICKS_PER_CYCLE) % 2 ^ 16

def nextSytOffset : AmdtpOutStream :=
  if s.lastSytOffset < TICKS_PER_CYCLE then
    if s.sfc.isBase44100 = false then { s with lastSytOffset := s.lastSytOffset + s.sytOffsetState }
    else
      let phase := s.sytOffsetState
      { s with
        lastSytOffset := s.lastSytOffset + phaseSytStep phase
        sytOffsetState := if 147 ≤ phase + 1 then 0 else phase + 1 }
  else { s with lastSytOffset := s.lastSytOffset - TICKS_PER_CYCLE }

def calculateSyt (cycle : Nat) : Nat × AmdtpOutStream :=
  let s := s.nextSytOffset
  (if s.lastSytOffset < TICKS_PER_CYCLE then sytField cycle s.lastSytOffset else noInfo, s)

/-- `queued` tells that the packet can be queued. After an error there are no more packets. -/
def queueOutPacket (cycle : Nat) (queued : Bool) : Option Packet × AmdtpOutStream :=
  match s.packetIndex with
  | none => (none, s)
  | some index =>
    let (dataBlocks, s) := s.calculateDataBlocks
    let (syt, s) := s.calculateSyt cycle
    let packet :=
      { dataBlockQuadlets := s.dataBlockQuadlets
        dataBlockCounter := s.dataBlockCounter
        sfc := s.sfc
        syt
        dataBlocks
        payloadLength := 8 + dataBlocks * 4 * s.dataBlockQuadlets }
    let s := { s with dataBlockCounter := (s.dataBlockCounter + dataBlocks) % 2 ^ 8 }
    if queued then (some packet, { s with packetIndex := some (if QUEUE_LENGTH ≤ index + 1 then 0 else index + 1) })
    else (none, { s with packetIndex := none })

def queueOutPackets : List (Nat × Bool) → AmdtpOutStream → List Packet
  | [], _ => []
  | (cycle, queued) :: calls, s =>
    let (packet, s) := s.queueOutPacket cycle queued
    packet.toList ++ queueOutPackets calls s

/-- `failure` is the error of the resources of the stream, or of one of the packets to skip. These lead the index
    of the packets back to zero. -/
def amdtpOutStreamStart (failure : Option Int) : Except Int AmdtpOutStream :=
  if s.running = true ∨ (s.pcmChannels = 0 ∧ s.midiPorts = 0) then .error (- EBADFD)
  else
    let s := { s with
      dataBlockState := s.sfc.initialState.1
      sytOffsetState := s.sfc.initialState.2
      lastSytOffset := TICKS_PER_CYCLE }
    let s := s.amdtpOutStreamGetMaxPayload.2
    match failure with
    | some err => .error err
    | none => .ok { s with running := true, packetIndex := some 0, dataBlockCounter := 0 }

end AmdtpOutStream

end AlsaDriver.Firewire

namespace AlsaDriver.Firewire

open Pacing

namespace CipSfc

variable (sfc : CipSfc)

def blocks (n : Nat) : Nat := due sfc.rate CYCLES_PER_SECOND n

def pace : Nat × Nat :=
  match sfc with
  | .sfc32000 => (1, 2)
  | .sfc48000 | .sfc96000 | .sfc192000 => (3, 4)
  | .sfc44100 | .sfc88200 | .sfc176400 => (441, 640)

def sytTime (k : Nat) : Nat :=
  if sfc.isBase44100 then (k * 1310720 + 147) / 294 else k * (TICKS_PER_CYCLE + sfc.initialState.2)

def sytPhase (k : Nat) : Nat := if sfc.isBase44100 then (67 + k) % 147 else sfc.initialState.2

def sytStep (phase : Nat) : Nat := if sfc.isBase44100 then AmdtpOutStream.phaseSytStep phase else phase

def sytNext (phase : Nat) : Nat := if sfc.isBase44100 then if 147 ≤ phase + 1 then 0 else phase + 1 else phase

variable {sfc}

theorem rate_pos : 0 < sfc.rate := by cases sfc <;> decide

theorem pace_bounds : 0 < sfc.pace.1 ∧ sfc.pace.1 ≤ sfc.pace.2 ∧ sfc.pace.1 < 2 * TICKS_PER_CYCLE := by
  cases sfc <;> decide

theorem pace_scale : ∃ c, 0 < c ∧ sfc.rate = c * sfc.pace.1 ∧ sfc.rateInfo.2 * CYCLES_PER_SECOND = c * sfc.pace.2 := by
  cases sfc with
  | sfc32000 => exact ⟨32000, by decide⟩
  | sfc44100 => exact ⟨100, by decide⟩
  | sfc48000 => exact ⟨16000, by decide⟩
  | sfc88200 => exact ⟨200, by decide⟩
  | sfc96000 => exact ⟨32000, by decide⟩
  | sfc176400 => exact ⟨400, by decide⟩
  | sfc192000 => exact ⟨64000, by decide⟩

theorem sytTime_zero : sfc.sytTime 0 = 0 := by cases sfc <;> decide

theorem sytTime_rounds : Rounds sfc.pace.1 sfc.pace.2 TICKS_PER_CYCLE sfc.sytTime := by
  constructor
  · intro k
    cases sfc <;> simp [pace, sytTime, isBase44100, code, initialState, TICKS_PER_CYCLE] <;> omega
  · intro k
    cases sfc <;> simp [pace, sytTime, isBase44100, code, initialState, TICKS_PER_CYCLE] <;> omega

theorem phaseSytStep_period : ∀ b < 147,
    ((b + 1) * 1310720 + 147) / 294 = (b * 1310720 + 147) / 294 + 3072 + AmdtpOutStream.phaseSytStep ((67 + b) % 147) := by
  decide +kernel

theorem sytTime_grows (k : Nat) : sfc.sytTime (k + 1) = sfc.sytTime k + TICKS_PER_CYCLE + sfc.sytStep (sfc.sytPhase k) := by
  unfold sytTime sytStep sytPhase
  split
  · have period := phaseSytStep_period (k % 147) (Nat.mod_lt _ (by decide))
    have phase : (67 + k % 147) % 147 = (67 + k) % 147 := by omega
    have shift (b : Nat) : ((147 * (k / 147) + b) * 1310720 + 147) / 294 = (b * 1310720 + 147) / 294 + 655360 * (k / 147) := by
      have whole : (147 * (k / 147) + b) * 1310720 + 147 = b * 1310720 + 147 + 294 * (655360 * (k / 147)) := by ring
      rw [whole]
      exact Nat.add_mul_div_left (b * 1310720 + 147) (655360 * (k / 147)) (Nat.succ_pos 293)
    have now := shift (k % 147)
    have later := shift (k % 147 + 1)
    rw [← Nat.add_assoc, Nat.div_add_mod] at later
    rw [Nat.div_add_mod] at now
    rw [later, now, period, phase, TICKS_PER_CYCLE]
    ring
  · ring

theorem sytNext_phase (k : Nat) : sfc.sytNext (sfc.sytPhase k) = sfc.sytPhase (k + 1) := by
  unfold sytNext sytPhase
  split
  · split <;> omega
  · rfl

theorem phaseDataBlocks_period (base : sfc.isBase44100 = true) : ∀ b < 80 >>> (sfc.code >>> 1),
    sfc.blocks b + AmdtpOutStream.phaseDataBlocks sfc b = sfc.blocks (b + 1) := by
  cases sfc with
  | sfc44100 => decide +kernel
  | sfc88200 => decide +kernel
  | sfc176400 => decide +kernel
  | _ => exact absurd base (by decide)

theorem period_blocks (base : sfc.isBase44100 = true) :
    80 >>> (sfc.code >>> 1) * sfc.rate = 441 * CYCLES_PER_SECOND ∧ 0 < 80 >>> (sfc.code >>> 1) := by
  cases sfc with
  | sfc44100 => decide
  | sfc88200 => decide
  | sfc176400 => decide
  | _ => exact absurd base (by decide)

theorem blocks_base (base : sfc.isBase44100 = true) (n : Nat) :
    sfc.blocks n + AmdtpOutStream.phaseDataBlocks sfc (n % (80 >>> (sfc.code >>> 1))) = sfc.blocks (n + 1) := by
  obtain ⟨period, positive⟩ := period_blocks base
  have now := phaseDataBlocks_period base _ (Nat.mod_lt n positive)
  have before := due_add_mul (by decide : 0 < CYCLES_PER_SECOND) period (n / (80 >>> (sfc.code >>> 1)))
    (n % (80 >>> (sfc.code >>> 1)))
  have after := due_add_mul (by decide : 0 < CYCLES_PER_SECOND) period (n / (80 >>> (sfc.code >>> 1)))
    (n % (80 >>> (sfc.code >>> 1)) + 1)
  rw [← Nat.add_assoc, Nat.div_add_mod] at after
  rw [Nat.div_add_mod] at before
  unfold blocks at now ⊢
  omega

theorem blocks_whole (plain : sfc.isBase44100 = false) (n : Nat) :
    sfc.blocks n + sfc.initialState.1 = sfc.blocks (n + 1) := by
  have integral : sfc.rate = sfc.initialState.1 * CYCLES_PER_SECOND := by
    cases sfc with
    | sfc44100 => exact absurd plain (by decide)
    | sfc88200 => exact absurd plain (by decide)
    | sfc176400 => exact absurd plain (by decide)
    | _ => decide
  have exact_ (m : Nat) : sfc.blocks m = sfc.initialState.1 * m := by
    have period := due_add_mul (by decide : 0 < CYCLES_PER_SECOND) ((Nat.one_mul _).trans integral) m 0
    rw [Nat.one_mul, due_zero (by decide), Nat.add_zero, Nat.add_zero] at period
    exact period
  rw [exact_, exact_, Nat.mul_succ]

theorem blocks_max (n : Nat) : sfc.blocks (n + 1) ≤ sfc.blocks n + sfc.maxDataBlocks := by
  have first : due sfc.rate CYCLES_PER_SECOND 1 = sfc.maxDataBlocks := by
    cases sfc <;> decide
  rw [← first]
  exact due_add_le (by decide) 1

theorem interval_iff (n k : Nat) :
    sfc.blocks n ≤ k * sfc.rateInfo.2 ∧ k * sfc.rateInfo.2 < sfc.blocks (n + 1) ↔
      k = due sfc.pace.1 sfc.pace.2 n ∧ k * sfc.pace.2 < (n + 1) * sfc.pace.1 := by
  obtain ⟨c, scale, rate, interval⟩ := @pace_scale sfc
  obtain ⟨positive, sparse, -⟩ := @pace_bounds sfc
  have slots : 0 < sfc.pace.2 := positive.trans_le sparse
  have scaled (m : Nat) : m * sfc.rate ≤ k * sfc.rateInfo.2 * CYCLES_PER_SECOND ↔ m * sfc.pace.1 ≤ k * sfc.pace.2 := by
    rw [Nat.mul_assoc, interval, rate, Nat.mul_left_comm m, Nat.mul_left_comm k, Nat.mul_le_mul_left_iff scale]
  rw [blocks, blocks, due_le_iff (by decide), lt_due_iff (by decide), scaled, ← not_le, scaled, not_le]
  constructor
  · rintro ⟨after, before⟩
    have high : due sfc.pace.1 sfc.pace.2 n ≤ k := (due_le_iff slots).mpr after
    have low : k < due sfc.pace.1 sfc.pace.2 (n + 1) := (lt_due_iff slots).mpr before
    refine ⟨?_, before⟩
    rw [due_succ slots sparse] at low
    split at low <;> omega
  · rintro ⟨same, before⟩
    exact ⟨(due_le_iff slots).mp same.ge, before⟩

end CipSfc

namespace AmdtpOutStream

variable {s : AmdtpOutStream}

theorem nextSytOffset_eq (s : AmdtpOutStream) :
    (s.nextSytOffset.lastSytOffset, s.nextSytOffset.sytOffsetState) =
      advance TICKS_PER_CYCLE s.sfc.sytStep s.sfc.sytNext s.lastSytOffset s.sytOffsetState := by
  unfold nextSytOffset advance CipSfc.sytStep CipSfc.sytNext
  split
  · cases base : s.sfc.isBase44100 <;> rfl
  · rfl

theorem nextSytOffset_frame (s : AmdtpOutStream) : s.nextSytOffset =
    { s with lastSytOffset := s.nextSytOffset.lastSytOffset, sytOffsetState := s.nextSytOffset.sytOffsetState } := by
  unfold nextSytOffset
  split
  · split <;> rfl
  · rfl

variable (s) in
/-- The stream before packet `n`. -/
structure Aligned (sfc : CipSfc) (quadlets n : Nat) : Prop where
  rate : s.sfc = sfc
  quadlets : s.dataBlockQuadlets = quadlets
  counter : s.dataBlockCounter = sfc.blocks n % 2 ^ 8
  phase : s.dataBlockState =
    if sfc.isBase44100 then n % (80 >>> (sfc.code >>> 1)) else sfc.initialState.1
  tracks : Tracks TICKS_PER_CYCLE sfc.pace.1 sfc.pace.2 sfc.sytTime sfc.sytPhase s.lastSytOffset s.sytOffsetState n

theorem mod_next {period : Nat} (positive : 0 < period) (n : Nat) :
    (n + 1) % period = if period ≤ n % period + 1 then 0 else n % period + 1 := by
  have below := Nat.mod_lt n positive
  have whole := Nat.div_add_mod n period
  split
  · have last : n + 1 = period * (n / period + 1) := by
      rw [Nat.mul_succ]
      omega
    rw [last, Nat.mul_mod_right]
  · have inner : n + 1 = period * (n / period) + (n % period + 1) := by omega
    rw [inner, Nat.mul_add_mod, Nat.mod_eq_of_lt (by omega)]

theorem Aligned.dataBlocks {sfc : CipSfc} {quadlets n : Nat} (aligned : s.Aligned sfc quadlets n) :
    ∃ state, s.calculateDataBlocks = (sfc.blocks (n + 1) - sfc.blocks n, { s with dataBlockState := state }) ∧
      state = if sfc.isBase44100 then (n + 1) % (80 >>> (sfc.code >>> 1)) else sfc.initialState.1 := by
  obtain ⟨rfl, -, -, phase, -⟩ := aligned
  unfold calculateDataBlocks
  by_cases plain : s.sfc.isBase44100 = false
  · have whole := CipSfc.blocks_whole plain n
    rw [plain, if_neg Bool.false_ne_true] at phase
    rw [if_pos plain]
    refine ⟨s.dataBlockState, Prod.ext ?_ rfl, by rw [plain, if_neg Bool.false_ne_true, phase]⟩
    show s.dataBlockState = _
    omega
  · have base := Bool.eq_true_of_not_eq_false plain
    have total := CipSfc.blocks_base base n
    obtain ⟨-, positive⟩ := CipSfc.period_blocks base
    rw [if_pos base] at phase
    rw [if_neg plain, if_pos base, phase, mod_next positive]
    refine ⟨_, Prod.ext ?_ rfl, rfl⟩
    show phaseDataBlocks s.sfc (n % (80 >>> (s.sfc.code >>> 1))) = _
    omega

/-- What packet `n` has, where its SYT offset is the time of the interval that is due. -/
structure Sent (sfc : CipSfc) (quadlets n cycle : Nat) (packet : Packet) : Prop where
  counter : packet.dataBlockCounter = sfc.blocks n % 2 ^ 8
  blocks : sfc.blocks n + packet.dataBlocks = sfc.blocks (n + 1)
  length : packet.payloadLength = 8 + packet.dataBlocks * 4 * quadlets
  syt : ∃ offset, offset + TICKS_PER_CYCLE * n = sfc.sytTime (due sfc.pace.1 sfc.pace.2 n) ∧
    packet.syt = if offset < TICKS_PER_CYCLE then sytField cycle offset else noInfo

theorem queueOutPacket_eq {index cycle dataBlocks syt : Nat} {between after : AmdtpOutStream}
    (open_ : s.packetIndex = some index) (blocks : s.calculateDataBlocks = (dataBlocks, between))
    (stamp : between.calculateSyt cycle = (syt, after)) (queued : Bool) :
    s.queueOutPacket cycle queued =
      if queued then
        (some
          { dataBlockQuadlets := after.dataBlockQuadlets
            dataBlockCounter := after.dataBlockCounter
            sfc := after.sfc
            syt
            dataBlocks
            payloadLength := 8 + dataBlocks * 4 * after.dataBlockQuadlets },
          { after with
            dataBlockCounter := (after.dataBlockCounter + dataBlocks) % 2 ^ 8
            packetIndex := some (if QUEUE_LENGTH ≤ index + 1 then 0 else index + 1) })
      else (none, { after with dataBlockCounter := (after.dataBlockCounter + dataBlocks) % 2 ^ 8, packetIndex := none }) := by
  unfold queueOutPacket
  rw [open_]
  dsimp only
  rw [blocks]
  dsimp only
  rw [stamp]

theorem Aligned.queue {sfc : CipSfc} {quadlets n : Nat} (aligned : s.Aligned sfc quadlets n) {index : Nat}
    (open_ : s.packetIndex = some index) (cycle : Nat) :
    ∃ packet next closed, Sent sfc quadlets n cycle packet ∧ next.Aligned sfc quadlets (n + 1) ∧
      s.queueOutPacket cycle true = (some packet, next) ∧
      s.queueOutPacket cycle false = (none, closed) ∧ closed.packetIndex = none := by
  obtain ⟨state, blocks, phase⟩ := aligned.dataBlocks
  have grows : sfc.blocks n + (sfc.blocks (n + 1) - sfc.blocks n) = sfc.blocks (n + 1) := by
    apply Nat.add_sub_cancel'
    rw [CipSfc.blocks, Pacing.due_le_iff (by decide)]
    exact (Nat.mul_le_mul_right _ (Nat.le_succ n)).trans ((Pacing.due_le_iff (by decide)).mp (le_refl _))
  let before : AmdtpOutStream := { s with dataBlockState := state }
  have generator := nextSytOffset_eq before
  have frame := nextSytOffset_frame before
  obtain ⟨positive, sparse, coarse⟩ := @CipSfc.pace_bounds sfc
  have tracks := advance_tracks CipSfc.sytTime_rounds positive sparse coarse CipSfc.sytTime_zero CipSfc.sytTime_grows
    CipSfc.sytNext_phase aligned.tracks
  rw [show before.sfc = sfc from aligned.rate] at generator
  rw [show s.lastSytOffset = before.lastSytOffset from rfl, show s.sytOffsetState = before.sytOffsetState from rfl,
    ← generator] at tracks
  generalize before.nextSytOffset.lastSytOffset = offset at frame tracks
  generalize before.nextSytOffset.sytOffsetState = sytState at frame tracks
  have syt : before.calculateSyt cycle = (if offset < TICKS_PER_CYCLE then sytField cycle offset else noInfo,
      { before with lastSytOffset := offset, sytOffsetState := sytState }) := by
    unfold calculateSyt
    rw [frame]
  have result := queueOutPacket_eq open_ blocks syt
  rw [result true, result false]
  refine ⟨_, _, _, ?sent, ?aligned, if_pos rfl, if_neg Bool.false_ne_true, rfl⟩
  case sent =>
    refine ⟨aligned.counter, grows, ?_, offset, tracks.1, rfl⟩
    show 8 + _ * 4 * s.dataBlockQuadlets = _
    rw [aligned.quadlets]
  case aligned =>
    refine ⟨aligned.rate, aligned.quadlets, ?_, phase, tracks⟩
    show (s.dataBlockCounter + _) % 2 ^ 8 = _
    rw [aligned.counter, Nat.mod_add_mod, grows]

theorem closed_silent (closed : s.packetIndex = none) (calls : List (Nat × Bool)) : s.queueOutPackets calls = [] := by
  induction calls with
  | nil => rfl
  | cons call rest ih =>
    have same : s.queueOutPacket call.1 call.2 = (none, s) := by
      unfold queueOutPacket
      rw [closed]
    rw [queueOutPackets, same]
    exact ih

theorem Aligned.run {sfc : CipSfc} {quadlets n : Nat} (aligned : s.Aligned sfc quadlets n) (calls : List (Nat × Bool)) {m : Nat}
    {packet : Packet} (sent : (s.queueOutPackets calls)[m]? = some packet) :
    ∃ cycle, calls[m]? = some (cycle, true) ∧ Sent sfc quadlets (n + m) cycle packet := by
  induction calls generalizing s n m with
  | nil => exact absurd sent (by simp [queueOutPackets])
  | cons call rest ih =>
    obtain ⟨cycle, queued⟩ := call
    cases place : s.packetIndex with
    | none =>
      rw [closed_silent place] at sent
      exact absurd sent (by simp)
    | some index =>
      obtain ⟨first, next, last, sound, later, yes, no, closed⟩ := aligned.queue place cycle
      cases queued with
      | false =>
        rw [queueOutPackets, no] at sent
        dsimp only at sent
        rw [closed_silent closed] at sent
        exact absurd sent (by simp)
      | true =>
        rw [queueOutPackets, yes] at sent
        cases m with
        | zero =>
          have same : first = packet := Option.some.inj sent
          exact ⟨cycle, rfl, same ▸ sound⟩
        | succ m =>
          obtain ⟨cycle', called, sound'⟩ := ih later (m := m) sent
          rw [Nat.add_right_comm] at sound'
          exact ⟨cycle', called, sound'⟩

theorem blocks_total {sfc : CipSfc} {quadlets : Nat} {packets : List Packet}
    (each : ∀ m packet, packets[m]? = some packet → ∃ cycle, Sent sfc quadlets m cycle packet) {n : Nat} (short : n ≤ packets.length) :
    ((packets.take n).map Packet.dataBlocks).sum = sfc.blocks n := by
  induction n with
  | zero => exact (Pacing.due_zero (by decide)).symm
  | succ n ih =>
    have some := List.getElem?_eq_getElem (Nat.lt_of_succ_le short)
    obtain ⟨_, sound⟩ := each n _ some
    rw [List.take_add_one, some, List.map_append, List.sum_append, ih (Nat.le_of_succ_le short)]
    exact sound.blocks

theorem started_aligned {failure : Option Int} {started : AmdtpOutStream} (start : s.amdtpOutStreamStart failure = .ok started) :
    started.Aligned s.sfc started.dataBlockQuadlets 0 ∧ started.sfc = s.sfc ∧
      started.dataBlockQuadlets = started.pcmChannels + (started.midiPorts + 7) / 8 := by
  unfold amdtpOutStreamStart at start
  split at start
  · exact absurd start (by simp)
  · dsimp only [amdtpOutStreamGetMaxPayload] at start
    cases failure with
    | some err => exact absurd start (by simp)
    | none =>
      obtain rfl := Except.ok.inj start
      have counter : 0 = s.sfc.blocks 0 % 2 ^ 8 := by
        rw [CipSfc.blocks, Pacing.due_zero (by decide), Nat.zero_mod]
      refine ⟨⟨rfl, rfl, counter, ?_, rfl, ?_⟩, rfl, rfl⟩
      · show s.sfc.initialState.1 = _
        cases s.sfc <;> rfl
      · show s.sfc.initialState.2 = _
        cases s.sfc <;> rfl

/-- What a receiver relies on: the counter of the data blocks, a SYT field in exactly the packets in which an
    interval starts, and a time that is less than a tick off. -/
structure WellTimed (sfc : CipSfc) (n first cycle : Nat) (packet : Packet) : Prop where
  counter : packet.dataBlockCounter = first % 2 ^ 8
  stamped : packet.syt ≠ noInfo ↔ ∃ j, first ≤ j ∧ j < first + packet.dataBlocks ∧ sfc.rateInfo.2 ∣ j
  near : ∀ j, first ≤ j → j < first + packet.dataBlocks → sfc.rateInfo.2 ∣ j →
    ∃ offset, packet.syt = sytField cycle offset ∧
      |(offset : ℚ) - (j / sfc.rate - n / CYCLES_PER_SECOND) * TICKS_PER_SECOND| < 1

theorem sytField_info (cycle offset : Nat) : sytField cycle offset ≠ noInfo := by
  have inside (cycles ticks : Nat) (small : ticks < 3072) : (cycles * 2 ^ 12 + ticks) % 2 ^ 16 ≠ 0xffff := by omega
  exact inside _ _ (Nat.mod_lt _ (by decide))

theorem interval_time (sfc : CipSfc) (k : Nat) :
    ((k * sfc.rateInfo.2 : Nat) : ℚ) / sfc.rate * TICKS_PER_SECOND = k * sfc.pace.2 * TICKS_PER_CYCLE / sfc.pace.1 := by
  obtain ⟨c, scale, rate, interval⟩ := @CipSfc.pace_scale sfc
  have rates : (sfc.rate : ℚ) ≠ 0 := Nat.cast_ne_zero.mpr (Nat.pos_iff_ne_zero.mp CipSfc.rate_pos)
  have paces : (sfc.pace.1 : ℚ) ≠ 0 := Nat.cast_ne_zero.mpr (Nat.pos_iff_ne_zero.mp CipSfc.pace_bounds.1)
  have cross : k * sfc.rateInfo.2 * TICKS_PER_SECOND * sfc.pace.1 = k * sfc.pace.2 * TICKS_PER_CYCLE * sfc.rate := by
    calc k * sfc.rateInfo.2 * TICKS_PER_SECOND * sfc.pace.1
        = k * TICKS_PER_CYCLE * sfc.pace.1 * (sfc.rateInfo.2 * CYCLES_PER_SECOND) := by rw [TICKS_PER_SECOND]; ring
      _ = k * TICKS_PER_CYCLE * sfc.pace.1 * (c * sfc.pace.2) := by rw [interval]
      _ = k * sfc.pace.2 * TICKS_PER_CYCLE * sfc.rate := by rw [rate]; ring
  rw [div_mul_eq_mul_div, div_eq_div_iff rates paces]
  exact_mod_cast cross

theorem Sent.wellTimed {sfc : CipSfc} {quadlets n cycle : Nat} {packet : Packet} (sent : Sent sfc quadlets n cycle packet) :
    WellTimed sfc n (sfc.blocks n) cycle packet := by
  obtain ⟨offset, time, syt⟩ := sent.syt
  obtain ⟨positive, sparse, coarse⟩ := @CipSfc.pace_bounds sfc
  have event : offset < TICKS_PER_CYCLE ↔
      due sfc.pace.1 sfc.pace.2 n * sfc.pace.2 < (n + 1) * sfc.pace.1 := by
    rw [← CipSfc.sytTime_rounds.before_iff positive coarse, ← time, Nat.mul_succ]
    omega
  have here (k : Nat) : sfc.blocks n ≤ k * sfc.rateInfo.2 ∧ k * sfc.rateInfo.2 < sfc.blocks n + packet.dataBlocks ↔
      k = due sfc.pace.1 sfc.pace.2 n ∧ offset < TICKS_PER_CYCLE := by
    rw [sent.blocks, CipSfc.interval_iff, event]
    exact and_congr_right fun same => by rw [same]
  refine ⟨sent.counter, ⟨?_, ?_⟩, ?_⟩
  · intro stamped
    have early : offset < TICKS_PER_CYCLE := by
      by_contra late
      exact stamped (syt.trans (if_neg late))
    obtain ⟨low, high⟩ := (here _).mpr ⟨rfl, early⟩
    exact ⟨_, low, high, Dvd.intro_left _ rfl⟩
  · rintro ⟨j, low, high, k, rfl⟩
    rw [Nat.mul_comm] at low high
    rw [syt, if_pos ((here k).mp ⟨low, high⟩).2]
    exact sytField_info cycle offset
  · rintro j low high ⟨k, rfl⟩
    rw [Nat.mul_comm] at low high ⊢
    obtain ⟨rfl, early⟩ := (here k).mp ⟨low, high⟩
    refine ⟨offset, syt.trans (if_pos early), ?_⟩
    have near := CipSfc.sytTime_rounds.near positive (due sfc.pace.1 sfc.pace.2 n)
    rw [← time] at near
    have cycles : (n : ℚ) / CYCLES_PER_SECOND * TICKS_PER_SECOND = TICKS_PER_CYCLE * n := by
      rw [TICKS_PER_SECOND, TICKS_PER_CYCLE, CYCLES_PER_SECOND]
      push_cast
      ring
    rw [sub_mul, interval_time, cycles]
    push_cast at near
    rw [show (offset : ℚ) - (due sfc.pace.1 sfc.pace.2 n * sfc.pace.2 * TICKS_PER_CYCLE / sfc.pace.1 - TICKS_PER_CYCLE * n) =
      offset + TICKS_PER_CYCLE * n - due sfc.pace.1 sfc.pace.2 n * sfc.pace.2 * TICKS_PER_CYCLE / sfc.pace.1 by ring]
    exact near

theorem setRate_eq (sfc : CipSfc) (stopped : s.running = false) :
    s.amdtpOutStreamSetRate sfc.rate = { s with sfc, sytInterval := sfc.rateInfo.2 } := by
  unfold amdtpOutStreamSetRate
  rw [if_neg (by rw [stopped]; exact Bool.false_ne_true)]
  cases sfc <;> rfl

theorem start_stopped {failure : Option Int} {started : AmdtpOutStream} (start : s.amdtpOutStreamStart failure = .ok started) :
    s.running = false ∧ started.sytInterval = s.sytInterval := by
  unfold amdtpOutStreamStart at start
  split at start
  · exact absurd start (by simp)
  · rename_i fine
    refine ⟨Bool.eq_false_of_not_eq_true fun running => fine (.inl running), ?_⟩
    dsimp only [amdtpOutStreamGetMaxPayload] at start
    cases failure with
    | some err => exact absurd start (by simp)
    | none =>
      obtain rfl := Except.ok.inj start
      rfl

theorem setRate_running (rate : Nat) : (s.amdtpOutStreamSetRate rate).running = s.running := by
  unfold amdtpOutStreamSetRate
  split
  · rfl
  · split <;> rfl

def stereo : AmdtpOutStream :=
  { sfc := .sfc32000, sytInterval := 8, pcmChannels := 2, midiPorts := 0, dataBlockQuadlets := 0, running := false,
    packetIndex := some 0, dataBlockCounter := 0, dataBlockState := 0, lastSytOffset := 0, sytOffsetState := 0 }

example : ((List.range 8).map fun n => CipSfc.sfc44100.blocks (n + 1) - CipSfc.sfc44100.blocks n) = [6, 6, 5, 6, 5, 6, 5, 6] := by
  decide +kernel

end AmdtpOutStream

end AlsaDriver.Firewire
