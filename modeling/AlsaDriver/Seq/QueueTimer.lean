import Mathlib.Algebra.Order.Group.Nat
import Mathlib.Tactic.Ring
import AlsaDriver.Seq.CheckQueue
import AlsaDriver.Lib.Runs

namespace AlsaDriver.Seq

def SKEW_BASE : Nat := 0x10000

def SNDRV_SEQ_TIMER_ALSA : Int := 0

def SNDRV_TIMER_CLASS_SLAVE : Int := 0
def SNDRV_TIMER_CLASS_GLOBAL : Int := 1
def SNDRV_TIMER_SCLASS_SEQUENCER : Int := 2
def SNDRV_TIMER_GLOBAL_SYSTEM : Int := 0

structure SndTimerId where
  devClass : Int
  devSclass : Int
  card : Int
  device : Int
  subdevice : Int
  deriving DecidableEq

def SndTimerId.triesSystem (id : SndTimerId) : Bool :=
  id.devClass != SNDRV_TIMER_CLASS_SLAVE &&
    (id.devClass != SNDRV_TIMER_CLASS_GLOBAL || id.device != SNDRV_TIMER_GLOBAL_SYSTEM)

/-- The module parameters `seq_default_timer_*`. -/
structure SeqDefaultTimer where
  id : SndTimerId
  resolution : Nat

/-- `struct snd_seq_timer`, with whether it has an open timer instance. -/
structure SndSeqQueueTimer extends SndSeqTimer where
  tempo : Nat
  ppq : Nat
  type : Int
  alsaId : SndTimerId
  preferredResolution : Nat
  timeri : Bool
  deriving DecidableEq

/-- The value that `snd_seq_timer_set_tick_resolution` stores. -/
def tickResolutionOf (tempo ppq : Nat) : Nat :=
  let resolution :=
    if tempo < 1000000 then tempo * 1000 % 2 ^ 32 / ppq
    else
      let s := tempo % ppq
      let s := s * 1000 % 2 ^ 32 / ppq
      tempo / ppq * 1000 % 2 ^ 32 + s
  if resolution = 0 then 1 else resolution

namespace SndSeqQueueTimer

variable (tmr : SndSeqQueueTimer)

def setTickResolution : SndSeqQueueTimer :=
  { tmr with
    toSndSeqTimer :=
      ({ tmr.toSndSeqTimer with tickResolution := tickResolutionOf tmr.tempo tmr.ppq } : SndSeqTimer).updateTick 0 }

def defaults (d : SeqDefaultTimer) : SndSeqQueueTimer :=
  let tmr := { tmr with ppq := 96, tempo := 500000 }.setTickResolution
  { tmr with
    running := false, type := SNDRV_SEQ_TIMER_ALSA, alsaId := d.id, preferredResolution := d.resolution,
    skew := SKEW_BASE, skewBase := SKEW_BASE }

def reset : SndSeqQueueTimer := { tmr with curTime := ⟨0, 0⟩, curTick := 0, fraction := 0 }

/-- `snd_seq_timer_open`, with whether `snd_timer_open` succeeds for the requested and for the system timer. -/
def openTimer (requested system : Bool) : SndSeqQueueTimer :=
  if tmr.timeri then tmr
  else if tmr.type ≠ SNDRV_SEQ_TIMER_ALSA then tmr
  else
    let tmr :=
      if tmr.alsaId.devClass ≠ SNDRV_TIMER_CLASS_SLAVE then
        { tmr with alsaId := { tmr.alsaId with devSclass := SNDRV_TIMER_SCLASS_SEQUENCER } }
      else tmr
    if requested || (tmr.alsaId.triesSystem && system) then { tmr with timeri := true } else tmr

def closeTimer : SndSeqQueueTimer := { tmr with timeri := false }

/-- `snd_seq_timer_interrupt`, up to the check of the queue. -/
def interrupt (resolution ticks : Nat) : SndSeqQueueTimer :=
  if tmr.running then { tmr with toSndSeqTimer := tmr.advance resolution ticks } else tmr

end SndSeqQueueTimer

end AlsaDriver.Seq

namespace AlsaDriver.Seq

open Runs

def scaledTime (skew resolution ticks : Nat) : Nat := resolution * ticks * skew / 65536

/-- The timer counts the nanoseconds `n`, in real time and in ticks. -/
structure Accurate (tempo ppq : Nat) (tmr : SndSeqQueueTimer) (n : Nat) : Prop where
  tickResolution : tmr.tickResolution = max 1 (tempo * 1000 / ppq)
  nsec_lt : tmr.curTime.tvNsec < 1000000000
  nsec : tmr.curTime.tvNsec = n % 1000000000
  sec : tmr.curTime.tvSec = n / 1000000000 % 2 ^ 32
  fraction_lt : tmr.fraction < tmr.tickResolution
  fraction : tmr.fraction = n % tmr.tickResolution
  tick : tmr.curTick = n / tmr.tickResolution % 2 ^ 32

def timed (s : SndSeqQueueTimer × Nat) (call : Nat × Nat) : SndSeqQueueTimer × Nat :=
  (s.1.interrupt call.1 call.2, s.2 + scaledTime s.1.skew call.1 call.2)

/-- The 32-bit products of the second branch of `snd_seq_timer_set_tick_resolution` do not overflow. -/
def TempoFits (tempo ppq : Nat) : Prop :=
  tempo < 1000000 ∨ tempo / ppq * 1000 < 2 ^ 32 ∧ tempo % ppq * 1000 < 2 ^ 32

def StepFits32 (tmr : SndSeqQueueTimer) (call : Nat × Nat) : Prop :=
  (tmr.skew = 0 ∨ call.1 * call.2 < 2 ^ 64) ∧ tmr.curTime.tvNsec + scaledTime tmr.skew call.1 call.2 < 2 ^ 32

theorem mul_div_add (a b c : Nat) (positive : 0 < c) : a * b / c = a / c * b + a % c * b / c := by
  have split : a * b = a % c * b + c * (a / c * b) := by
    calc a * b = (a % c + c * (a / c)) * b := by rw [Nat.mod_add_div]
      _ = a % c * b + c * (a / c * b) := by ring
  rw [split, Nat.add_mul_div_left _ _ positive, Nat.add_comm]

theorem tickResolutionOf_eq {tempo ppq : Nat} (positive : 0 < ppq) (fits : TempoFits tempo ppq) :
    tickResolutionOf tempo ppq = max 1 (tempo * 1000 / ppq) := by
  have value : (if tempo < 1000000 then tempo * 1000 % 2 ^ 32 / ppq
      else tempo / ppq * 1000 % 2 ^ 32 + tempo % ppq * 1000 % 2 ^ 32 / ppq) = tempo * 1000 / ppq := by
    split
    · rw [Nat.mod_eq_of_lt (by omega)]
    · rename_i large
      obtain ⟨high, low⟩ := fits.resolve_left large
      rw [Nat.mod_eq_of_lt high, Nat.mod_eq_of_lt low, mul_div_add tempo 1000 ppq positive]
  unfold tickResolutionOf
  dsimp only
  rw [value]
  split <;> omega

theorem truncated_lt {high low ppq : Nat} (positive : 0 < ppq) (range : ppq < 2 ^ 31)
    (overflows : ¬ (high < 2 ^ 32 ∧ low < 2 ^ 32)) : high % 2 ^ 32 + low % 2 ^ 32 / ppq + 1 < high + low / ppq := by
  have quotient : low % 2 ^ 32 / ppq ≤ low / ppq := Nat.div_le_div_right (Nat.mod_le _ _)
  by_cases fits : high < 2 ^ 32
  · have large : 2 ^ 32 ≤ low := by
      by_contra less
      exact overflows ⟨fits, Nat.not_le.mp less⟩
    have gap : low % 2 ^ 32 / ppq + 2 ≤ low / ppq := by
      rw [Nat.le_div_iff_mul_le positive, Nat.add_mul]
      have below := Nat.div_mul_le_self (low % 2 ^ 32) ppq
      omega
    rw [Nat.mod_eq_of_lt fits]
    omega
  · omega

theorem tickResolutionOf_lt {tempo ppq : Nat} (positive : 0 < ppq) (range : ppq < 2 ^ 31)
    (overflows : ¬ TempoFits tempo ppq) : tickResolutionOf tempo ppq < max 1 (tempo * 1000 / ppq) := by
  rw [TempoFits, not_or] at overflows
  obtain ⟨large, overflows⟩ := overflows
  have more := truncated_lt positive range overflows
  rw [← mul_div_add tempo 1000 ppq positive] at more
  unfold tickResolutionOf
  dsimp only
  rw [if_neg large]
  refine Nat.lt_of_lt_of_le ?_ (Nat.le_max_right _ _)
  refine Nat.lt_of_le_of_lt ?_ more
  split
  · exact Nat.le_add_left ..
  · exact Nat.le_succ _

section Step

variable {tmr : SndSeqQueueTimer} {tempo ppq n resolution ticks : Nat}

theorem skewed_eq (base : tmr.skewBase = SKEW_BASE) (range : tmr.skew < 2 ^ 32)
    (product : tmr.skew = 0 ∨ resolution * ticks < 2 ^ 64) (fits : scaledTime tmr.skew resolution ticks < 2 ^ 32) :
    tmr.skewed (resolution * ticks % 2 ^ 64) = scaledTime tmr.skew resolution ticks := by
  unfold scaledTime at *
  unfold SndSeqTimer.skewed
  rcases product with zero | whole
  · rw [if_pos (by rw [zero, base]; decide), zero]
    simp
  rw [Nat.mod_eq_of_lt whole]
  generalize resolution * ticks = x at *
  split
  · have small : x % 2 ^ 16 * tmr.skew < 2 ^ 64 := by
      calc x % 2 ^ 16 * tmr.skew ≤ 2 ^ 16 * tmr.skew := Nat.mul_le_mul_right _ (Nat.mod_lt _ (by decide)).le
        _ < 2 ^ 16 * 2 ^ 32 := Nat.mul_lt_mul_of_pos_left range (by decide)
        _ ≤ 2 ^ 64 := by decide
    rw [Nat.mod_eq_of_lt small, ← mul_div_add x tmr.skew (2 ^ 16) (by decide)]
    exact Nat.mod_eq_of_lt (fits.trans (by decide))
  · rename_i same
    rw [not_not.mp same, base, SKEW_BASE, Nat.mul_div_cancel _ (by decide)]

theorem Accurate.curTime (accurate : Accurate tempo ppq tmr n) {inc : Nat} (fits : tmr.curTime.tvNsec + inc < 2 ^ 32) :
    (sndSeqIncTimeNsec tmr.curTime inc).tvNsec = (n + inc) % 1000000000 ∧
      (sndSeqIncTimeNsec tmr.curTime inc).tvSec = (n + inc) / 1000000000 % 2 ^ 32 := by
  have nsec := accurate.nsec
  have sec := accurate.sec
  unfold sndSeqIncTimeNsec sndSeqSanityRealTime
  dsimp only
  omega

theorem add_div_split (n inc d : Nat) (positive : 0 < d) : (n + inc) / d = n / d + (n % d + inc) / d := by
  have split : n + inc = n % d + inc + d * (n / d) := by
    have whole := Nat.mod_add_div n d
    omega
  calc (n + inc) / d = (n % d + inc + d * (n / d)) / d := congrArg (· / d) split
    _ = n / d + (n % d + inc) / d := by rw [Nat.add_mul_div_left _ _ positive, Nat.add_comm]

theorem Accurate.updateTick (accurate : Accurate tempo ppq tmr n) {inc : Nat} (fits : tmr.fraction + inc < 2 ^ 64) :
    (tmr.updateTick inc).fraction = (n + inc) % tmr.tickResolution ∧
      (tmr.updateTick inc).curTick = (n + inc) / tmr.tickResolution % 2 ^ 32 := by
  have positive : 0 < tmr.tickResolution := Nat.zero_lt_of_lt accurate.fraction_lt
  have whole := add_div_split n inc tmr.tickResolution positive
  have fraction := accurate.fraction
  have tick := accurate.tick
  unfold SndSeqTimer.updateTick
  rw [if_pos positive]
  dsimp only
  rw [Nat.mod_eq_of_lt fits, fraction]
  constructor
  · rw [Nat.add_mod n inc, Nat.add_mod (n % _), Nat.mod_mod]
  · rw [whole]
    omega

theorem tickResolution_le (ppq : Nat) (tempoRange : tempo < 2 ^ 31) : max 1 (tempo * 1000 / ppq) ≤ 2 ^ 31 * 1000 := by
  have below : tempo * 1000 / ppq ≤ tempo * 1000 := Nat.div_le_self ..
  omega

structure Settings (tmr : SndSeqQueueTimer) (skew : Nat) : Prop where
  running : tmr.running
  base : tmr.skewBase = SKEW_BASE
  skew : tmr.skew = skew

theorem updateTick_keeps (t : SndSeqTimer) (inc : Nat) :
    (t.updateTick inc).running = t.running ∧ (t.updateTick inc).skewBase = t.skewBase ∧
      (t.updateTick inc).skew = t.skew ∧ (t.updateTick inc).tickResolution = t.tickResolution := by
  unfold SndSeqTimer.updateTick
  split <;> exact ⟨rfl, rfl, rfl, rfl⟩

theorem updateTick_curTime (t : SndSeqTimer) (time : SndSeqRealTime) (inc : Nat) :
    ({ t with curTime := time } : SndSeqTimer).updateTick inc = { t.updateTick inc with curTime := time } := by
  unfold SndSeqTimer.updateTick
  dsimp only
  split <;> rfl

theorem advance_eq (t : SndSeqTimer) (resolution ticks inc : Nat) (skewed : t.skewed (resolution * ticks % 2 ^ 64) = inc) :
    t.advance resolution ticks = { t.updateTick inc with curTime := sndSeqIncTimeNsec t.curTime inc } := by
  unfold SndSeqTimer.advance
  rw [skewed]
  exact updateTick_curTime ..

theorem interrupt_eq (running : tmr.running) :
    tmr.interrupt resolution ticks = { tmr with toSndSeqTimer := tmr.advance resolution ticks } := if_pos running

theorem Settings.interrupt {skew : Nat} (settings : Settings tmr skew) :
    Settings (tmr.interrupt resolution ticks) skew := by
  rw [interrupt_eq settings.running, advance_eq _ _ _ _ rfl]
  obtain ⟨running, base, same, -⟩ :=
    updateTick_keeps tmr.toSndSeqTimer (tmr.skewed (resolution * ticks % 2 ^ 64))
  exact ⟨running.trans settings.running, base.trans settings.base, same.trans settings.skew⟩

theorem Accurate.interrupt {skew : Nat} (accurate : Accurate tempo ppq tmr n) (settings : Settings tmr skew)
    (range : skew < 2 ^ 32) (tempoRange : tempo < 2 ^ 31) (fits : StepFits32 tmr (resolution, ticks)) :
    Accurate tempo ppq (tmr.interrupt resolution ticks) (n + scaledTime tmr.skew resolution ticks) := by
  obtain ⟨product, nsecFits⟩ := fits
  have skewed := skewed_eq settings.base (settings.skew ▸ range) product (Nat.lt_of_le_of_lt (Nat.le_add_left ..) nsecFits)
  rw [interrupt_eq settings.running, advance_eq _ _ _ _ skewed]
  generalize scaledTime tmr.skew resolution ticks = inc at *
  have positive : 0 < tmr.tickResolution := Nat.zero_lt_of_lt accurate.fraction_lt
  have bounded := accurate.tickResolution ▸ tickResolution_le ppq tempoRange
  have fractionFits : tmr.fraction + inc < 2 ^ 64 := by
    have below := accurate.fraction_lt
    omega
  obtain ⟨nsec, sec⟩ := accurate.curTime nsecFits
  obtain ⟨fraction, tick⟩ := accurate.updateTick fractionFits
  obtain ⟨-, -, -, resolution⟩ := updateTick_keeps tmr.toSndSeqTimer inc
  rw [← resolution] at fraction tick positive
  exact {
    tickResolution := resolution.trans accurate.tickResolution
    nsec_lt := nsec.trans_lt (Nat.mod_lt _ (by decide))
    nsec := nsec
    sec := sec
    fraction_lt := fraction.trans_lt (Nat.mod_lt _ positive)
    fraction := fraction
    tick := tick }

end Step

def started (tmr : SndSeqQueueTimer) : SndSeqQueueTimer := tmr.setTickResolution.reset

theorem started_settings {tmr : SndSeqQueueTimer} (running : tmr.running) (base : tmr.skewBase = SKEW_BASE) :
    Settings (started tmr) tmr.skew := by
  obtain ⟨sameRunning, sameBase, sameSkew, -⟩ :=
    updateTick_keeps { tmr.toSndSeqTimer with tickResolution := tickResolutionOf tmr.tempo tmr.ppq } 0
  exact ⟨sameRunning.trans running, sameBase.trans base, sameSkew⟩

theorem started_tickResolution (tmr : SndSeqQueueTimer) :
    (started tmr).tickResolution = tickResolutionOf tmr.tempo tmr.ppq := by
  obtain ⟨-, -, -, same⟩ :=
    updateTick_keeps { tmr.toSndSeqTimer with tickResolution := tickResolutionOf tmr.tempo tmr.ppq } 0
  exact same

theorem started_accurate_iff {tmr : SndSeqQueueTimer} (positive : 0 < tmr.ppq) (range : tmr.ppq < 2 ^ 31) :
    Accurate tmr.tempo tmr.ppq (started tmr) 0 ↔ TempoFits tmr.tempo tmr.ppq := by
  have resolution := started_tickResolution tmr
  constructor
  · intro accurate
    by_contra overflows
    have less := tickResolutionOf_lt positive range overflows
    rw [← resolution, accurate.tickResolution] at less
    exact Nat.lt_irrefl _ less
  · intro fits
    rw [tickResolutionOf_eq positive fits] at resolution
    exact {
      tickResolution := resolution
      nsec_lt := Nat.succ_pos _
      nsec := rfl
      sec := rfl
      fraction_lt := by
        rw [resolution]
        exact Nat.lt_of_lt_of_le Nat.zero_lt_one (Nat.le_max_left ..)
      fraction := (Nat.zero_mod _).symm
      tick := by rw [Nat.zero_div]; rfl }

/-- The clock does not drift: interrupts that fit keep the exact time, where the tempo does not overflow. -/
theorem clock_accurate (tmr : SndSeqQueueTimer) (tempoRange : tmr.tempo < 2 ^ 31) (positive : 0 < tmr.ppq)
    (range : tmr.ppq < 2 ^ 31) (skewRange : tmr.skew < 2 ^ 32) (base : tmr.skewBase = SKEW_BASE)
    (running : tmr.running) :
    (Accurate tmr.tempo tmr.ppq (started tmr) 0 ↔ TempoFits tmr.tempo tmr.ppq) ∧
      ∀ calls : List (Nat × Nat), TempoFits tmr.tempo tmr.ppq →
        Throughout timed (fun s call _ => StepFits32 s.1 call) (started tmr, 0) calls →
          Throughout timed (fun _ _ s' => Accurate tmr.tempo tmr.ppq s'.1 s'.2) (started tmr, 0) calls := by
  refine ⟨started_accurate_iff positive range, fun calls tempoFits fits => ?_⟩
  refine fits.steps (fun s => Accurate tmr.tempo tmr.ppq s.1 s.2 ∧ Settings s.1 tmr.skew)
    ⟨(started_accurate_iff positive range).mpr tempoFits, started_settings running base⟩ ?_
  intro s call ⟨accurate, settings⟩ fits
  have next := accurate.interrupt settings skewRange tempoRange fits
  exact ⟨next, next, settings.interrupt⟩

def fastTimer : SndSeqQueueTimer where
  running := true
  curTime := ⟨7, 900000000⟩
  curTick := 4
  tickResolution := 1
  fraction := 0
  skew := 0x10100
  skewBase := SKEW_BASE
  tempo := 500000
  ppq := 96
  type := SNDRV_SEQ_TIMER_ALSA
  alsaId := ⟨SNDRV_TIMER_CLASS_GLOBAL, SNDRV_TIMER_SCLASS_SEQUENCER, 0, SNDRV_TIMER_GLOBAL_SYSTEM, 0⟩
  preferredResolution := 0
  timeri := true

theorem clock_accurate_fast :
    Accurate 500000 96 (started fastTimer) 0 ∧
      Throughout timed (fun _ _ s' => Accurate 500000 96 s'.1 s'.2) (started fastTimer, 0)
        [(1000000, 1), (4000000, 3), (999999999, 2)] := by
  have accurate := clock_accurate fastTimer (by decide) (by decide) (by decide) (by decide) rfl rfl
  exact ⟨accurate.1.mpr (.inl (by decide)), accurate.2 _ (.inl (by decide))
    ⟨⟨.inr (by decide), by decide⟩, ⟨.inr (by decide), by decide⟩, ⟨.inr (by decide), by decide⟩, trivial⟩⟩

/-- An interrupt after five seconds loses the nanoseconds that do not fit. -/
theorem five_seconds_lost :
    ¬ Throughout timed (fun _ _ s' => Accurate 500000 96 s'.1 s'.2) (started { fastTimer with skew := SKEW_BASE }, 0)
      [(5000000000, 1)] :=
  fun run => absurd run.1.sec (by decide)

end AlsaDriver.Seq
