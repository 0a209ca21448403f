import Mathlib.Data.Finset.Card
import Mathlib.Data.Fintype.Basic
import AlsaDriver.Lib.Runs
import AlsaDriver.Seq.Deliver
import AlsaDriver.Seq.QueueTimer

namespace AlsaDriver.Seq

open Runs

abbrev ClientNumber := Fin SNDRV_SEQ_MAX_CLIENTS

/-- What `snd_seq_queue_use` reads and writes of a queue. The bitmap is the set of its set bits. -/
structure UsedQueue where
  clients : Int
  clientsBitmap : Finset ClientNumber
  timer : SndSeqQueueTimer

/-- A call of `snd_seq_queue_use`, with whether `snd_timer_open` succeeds for the requested and for the
    system timer, or other calls, which set the timer but neither open nor close it. -/
inductive QueueCall where
  | use (client : ClientNumber) (use requested system : Bool)
  | set (timer : SndSeqQueueTimer)

namespace UsedQueue

variable (d : SeqDefaultTimer) (queue : UsedQueue)

def countUse (client : ClientNumber) (use : Bool) : UsedQueue :=
  if use then
    if client ∈ queue.clientsBitmap then queue
    else { queue with clientsBitmap := insert client queue.clientsBitmap, clients := queue.clients + 1 }
  else
    if client ∈ queue.clientsBitmap then
      { queue with clientsBitmap := queue.clientsBitmap.erase client, clients := queue.clients - 1 }
    else queue

def sndSeqQueueUse (client : ClientNumber) (use requested system : Bool) : UsedQueue :=
  let queue := queue.countUse client use
  if queue.clients ≠ 0 then
    let timer := if use ∧ queue.clients = 1 then queue.timer.defaults d else queue.timer
    { queue with timer := timer.openTimer requested system }
  else { queue with timer := queue.timer.closeTimer }

def exec (queue : UsedQueue) : QueueCall → UsedQueue
  | .use client use requested system => queue.sndSeqQueueUse d client use requested system
  | .set timer => { queue with timer := { timer with timeri := queue.timer.timeri } }

def unused (timer : SndSeqQueueTimer) : UsedQueue := ⟨0, ∅, timer.closeTimer⟩

structure Accounted : Prop where
  clients : queue.clients = queue.clientsBitmap.card
  timeri : queue.timer.timeri = true ↔ 0 < queue.clientsBitmap.card

def UseAccounted (queue : UsedQueue) (call : QueueCall) (queue' : UsedQueue) : Prop :=
  queue'.Accounted ∧
    ∀ client requested system, call = .use client true requested system → client ∈ queue.clientsBitmap →
      queue' = queue

end UsedQueue

/-- The settings of `snd_seq_timer_defaults`. -/
structure AtDefaults (d : SeqDefaultTimer) (tmr : SndSeqQueueTimer) : Prop where
  tempo : tmr.tempo = 500000
  ppq : tmr.ppq = 96
  tickResolution : tmr.tickResolution = 5208333
  fraction : tmr.fraction < 5208333
  curTick : tmr.curTick < 2 ^ 32
  running : tmr.running = false
  type : tmr.type = SNDRV_SEQ_TIMER_ALSA
  alsaId : tmr.alsaId = d.id
  preferredResolution : tmr.preferredResolution = d.resolution
  skew : tmr.skew = SKEW_BASE
  skewBase : tmr.skewBase = SKEW_BASE

theorem defaults_eq (d : SeqDefaultTimer) (tmr : SndSeqQueueTimer) :
    tmr.defaults d =
      { tmr with
        running := false, tempo := 500000, ppq := 96, tickResolution := 5208333
        curTick := (tmr.curTick + tmr.fraction % 2 ^ 64 / 5208333) % 2 ^ 32
        fraction := tmr.fraction % 2 ^ 64 % 5208333
        type := SNDRV_SEQ_TIMER_ALSA, alsaId := d.id, preferredResolution := d.resolution
        skew := SKEW_BASE, skewBase := SKEW_BASE } := by
  have resolution : tickResolutionOf 500000 96 = 5208333 := by decide
  unfold SndSeqQueueTimer.defaults SndSeqQueueTimer.setTickResolution SndSeqTimer.updateTick
  dsimp only
  rw [resolution, if_pos (by decide)]
  rfl

theorem defaults_eq_self_iff (d : SeqDefaultTimer) (tmr : SndSeqQueueTimer) : tmr.defaults d = tmr ↔ AtDefaults d tmr := by
  rw [defaults_eq]
  constructor
  · intro same
    exact {
      tempo := (congrArg (·.tempo) same).symm
      ppq := (congrArg (·.ppq) same).symm
      tickResolution := (congrArg (·.tickResolution) same).symm
      fraction := (congrArg (·.fraction) same).symm.trans_lt (Nat.mod_lt _ (by decide))
      curTick := (congrArg (·.curTick) same).symm.trans_lt (Nat.mod_lt _ (by decide))
      running := (congrArg (·.running) same).symm
      type := (congrArg (·.type) same).symm
      alsaId := (congrArg (·.alsaId) same).symm
      preferredResolution := (congrArg (·.preferredResolution) same).symm
      skew := (congrArg (·.skew) same).symm
      skewBase := (congrArg (·.skewBase) same).symm }
  · rintro ⟨tempo, ppq, tickResolution, fraction, tick, running, type, alsaId, preferredResolution, skew, skewBase⟩
    have small : tmr.fraction < 2 ^ 64 := fraction.trans (by decide)
    rw [Nat.mod_eq_of_lt small, Nat.mod_eq_of_lt fraction, Nat.div_eq_of_lt fraction, Nat.add_zero, Nat.mod_eq_of_lt tick]
    clear fraction tick small
    obtain ⟨⟨⟩⟩ := tmr
    simp only at *
    subst_vars
    rfl

namespace SndSeqQueueTimer

variable {tmr : SndSeqQueueTimer} {requested system : Bool}

theorem openTimer_of_open (isOpen : tmr.timeri = true) : tmr.openTimer requested system = tmr := if_pos isOpen

theorem openTimer_timeri (closed : tmr.timeri = false) (type : tmr.type = SNDRV_SEQ_TIMER_ALSA) :
    (tmr.openTimer requested system).timeri = (requested || (tmr.alsaId.triesSystem && system)) := by
  have tries (devSclass : Int) : ({ tmr.alsaId with devSclass := devSclass }).triesSystem = tmr.alsaId.triesSystem := rfl
  unfold openTimer
  rw [if_neg (by rw [closed]; decide), if_neg (not_not.mpr type)]
  dsimp only
  split <;> split <;> simp_all

end SndSeqQueueTimer

namespace UsedQueue

variable {d : SeqDefaultTimer} {queue : UsedQueue} {client : ClientNumber}

theorem countUse_clients (client : ClientNumber) (accounted : queue.clients = queue.clientsBitmap.card) (use : Bool) :
    (queue.countUse client use).clients = (queue.countUse client use).clientsBitmap.card := by
  unfold countUse
  split
  · split
    · exact accounted
    · rename_i new
      simp [Finset.card_insert_of_notMem new, accounted]
  · split
    · rename_i member
      have some_ := Finset.card_pos.mpr ⟨client, member⟩
      simp only [Finset.card_erase_of_mem member, accounted]
      omega
    · exact accounted

def UseSettles (d : SeqDefaultTimer) (queue : UsedQueue) : QueueCall → Prop
  | .use client true requested system =>
    if client ∈ queue.clientsBitmap then queue.clients = 1 → AtDefaults d queue.timer
    else queue.clients = 0 → requested = true ∨ d.id.triesSystem = true ∧ system = true
  | _ => True

theorem use_again (accounted : queue.Accounted) (member : client ∈ queue.clientsBitmap) (requested system : Bool) :
    queue.sndSeqQueueUse d client true requested system =
      { queue with timer := if queue.clients = 1 then queue.timer.defaults d else queue.timer } := by
  have some_ := Finset.card_pos.mpr ⟨client, member⟩
  have isOpen := accounted.timeri.mpr some_
  have count : queue.clients ≠ 0 := by
    rw [accounted.clients]
    omega
  unfold sndSeqQueueUse countUse
  rw [if_pos rfl, if_pos member]
  dsimp only
  rw [if_pos count]
  split
  · rename_i only
    rw [if_pos only.2, SndSeqQueueTimer.openTimer_of_open]
    rw [defaults_eq]
    exact isOpen
  · rename_i several
    rw [if_neg fun only => several ⟨rfl, only⟩, SndSeqQueueTimer.openTimer_of_open isOpen]

theorem countUse_timer (use : Bool) : (queue.countUse client use).timer = queue.timer := by
  unfold countUse
  split <;> split <;> rfl

theorem sndSeqQueueUse_accounted_iff (accounted : queue.Accounted) (use requested system : Bool) :
    (queue.sndSeqQueueUse d client use requested system).Accounted ↔
      ((queue.countUse client use).clients ≠ 0 →
        ((if use ∧ (queue.countUse client use).clients = 1 then queue.timer.defaults d else queue.timer).openTimer
          requested system).timeri = true) := by
  have count := countUse_clients client accounted.clients use
  unfold sndSeqQueueUse
  dsimp only
  rw [countUse_timer]
  split
  · rename_i some_
    have users : 0 < (queue.countUse client use).clientsBitmap.card := by omega
    exact ⟨fun after _ => after.timeri.mpr users, fun isOpen => ⟨count, iff_of_true (isOpen some_) users⟩⟩
  · rename_i none_
    refine iff_of_true ⟨count, iff_of_false Bool.false_ne_true ?_⟩ fun some_ => absurd some_ none_
    show ¬ 0 < (queue.countUse client use).clientsBitmap.card
    omega

theorem closed_of_unused (accounted : queue.Accounted) (none_ : queue.clients = 0) : queue.timer.timeri = false := by
  have users := accounted.clients.symm.trans none_
  exact Bool.eq_false_iff.mpr fun isOpen => by
    have some_ := accounted.timeri.mp isOpen
    omega

theorem use_first (accounted : queue.Accounted) (new : client ∉ queue.clientsBitmap) (none_ : queue.clients = 0)
    (requested system : Bool) :
    (queue.sndSeqQueueUse d client true requested system).Accounted ↔
      requested = true ∨ d.id.triesSystem = true ∧ system = true := by
  have count : (queue.countUse client true).clients = 1 := by
    unfold countUse
    rw [if_pos rfl, if_neg new]
    dsimp only
    rw [none_]
    rfl
  have closed : (queue.timer.defaults d).timeri = false := by
    rw [defaults_eq]
    exact closed_of_unused accounted none_
  have type : (queue.timer.defaults d).type = SNDRV_SEQ_TIMER_ALSA := rfl
  have alsaId : (queue.timer.defaults d).alsaId = d.id := rfl
  rw [sndSeqQueueUse_accounted_iff accounted, count, if_pos ⟨rfl, rfl⟩, SndSeqQueueTimer.openTimer_timeri closed type,
    alsaId, Bool.or_eq_true, Bool.and_eq_true]
  exact ⟨fun isOpen => isOpen (by decide), fun isOpen _ => isOpen⟩

theorem use_more (accounted : queue.Accounted) (new : client ∉ queue.clientsBitmap) (some_ : queue.clients ≠ 0)
    (requested system : Bool) : (queue.sndSeqQueueUse d client true requested system).Accounted := by
  have users := accounted.clients
  have isOpen := accounted.timeri.mpr (by omega)
  have count : (queue.countUse client true).clients ≠ 1 := by
    unfold countUse
    rw [if_pos rfl, if_neg new]
    dsimp only
    omega
  rw [sndSeqQueueUse_accounted_iff accounted, if_neg fun only => count only.2,
    SndSeqQueueTimer.openTimer_of_open isOpen]
  exact fun _ => isOpen

theorem unuse (accounted : queue.Accounted) (requested system : Bool) :
    (queue.sndSeqQueueUse d client false requested system).Accounted := by
  rw [sndSeqQueueUse_accounted_iff accounted, if_neg fun only => Bool.false_ne_true only.1]
  intro left
  have isOpen : queue.timer.timeri = true := by
    refine accounted.timeri.mpr (Finset.card_pos.mpr ?_)
    by_contra empty
    rw [Finset.not_nonempty_iff_eq_empty] at empty
    refine left ?_
    unfold countUse
    rw [if_neg Bool.false_ne_true, if_neg (by rw [empty]; exact Finset.notMem_empty _), accounted.clients, empty]
    rfl
  rw [SndSeqQueueTimer.openTimer_of_open isOpen]
  exact isOpen

theorem again_accounted_iff (accounted : queue.Accounted) (member : client ∈ queue.clientsBitmap)
    (requested system : Bool) :
    queue.sndSeqQueueUse d client true requested system = queue ↔ (queue.clients = 1 → AtDefaults d queue.timer) := by
  rw [use_again accounted member, ← defaults_eq_self_iff]
  split
  · rename_i only
    exact ⟨fun same _ => congrArg timer same, fun same => by rw [same only]⟩
  · rename_i several
    exact iff_of_true rfl fun only => absurd only several

theorem exec_accounted_iff (accounted : queue.Accounted) (call : QueueCall) :
    queue.UseAccounted call (queue.exec d call) ↔ UseSettles d queue call := by
  cases call with
  | set timer =>
    exact iff_of_true ⟨⟨accounted.clients, accounted.timeri⟩, fun _ _ _ same => QueueCall.noConfusion same⟩ trivial
  | use client use requested system =>
    cases use with
    | false =>
      refine iff_of_true ⟨unuse accounted requested system, ?_⟩ trivial
      rintro _ _ _ ⟨⟩
    | true =>
      rw [UseSettles]
      by_cases member : client ∈ queue.clientsBitmap
      · rw [if_pos member, ← again_accounted_iff accounted member requested system]
        refine ⟨fun kept => kept.2 client requested system rfl member, fun same => ⟨?_, ?_⟩⟩
        · rw [exec, same]
          exact accounted
        · rintro _ _ _ ⟨⟩ -
          exact same
      · rw [if_neg member]
        have other : queue.UseAccounted (.use client true requested system)
            (queue.exec d (.use client true requested system)) ↔
              (queue.sndSeqQueueUse d client true requested system).Accounted := by
          refine ⟨fun kept => kept.1, fun after => ⟨after, ?_⟩⟩
          rintro _ _ _ ⟨⟩ inside
          exact absurd inside member
        rw [other]
        by_cases none_ : queue.clients = 0
        · rw [use_first accounted member none_]
          exact ⟨fun isOpen _ => isOpen, fun isOpen => isOpen none_⟩
        · exact iff_of_true (use_more accounted member none_ requested system) fun first => absurd first none_

theorem unused_accounted (timer : SndSeqQueueTimer) : (unused timer).Accounted :=
  ⟨rfl, iff_of_false Bool.false_ne_true (Nat.lt_irrefl 0)⟩

/-- The accounts of a queue are right throughout its uses exactly when no use resets a timer that was set
    and the timer opens for every first user. -/
theorem queueUse_accounted_iff (d : SeqDefaultTimer) (timer : SndSeqQueueTimer) (calls : List QueueCall) :
    Throughout (exec d) UseAccounted (unused timer) calls ↔
      Throughout (exec d) (fun queue call _ => UseSettles d queue call) (unused timer) calls := by
  have run : Throughout (exec d) (fun _ _ _ => True) (unused timer) calls := Throughout.of_mem fun _ _ _ => trivial
  exact throughout_iff Accounted UseAccounted (UseSettles d) (fun _ call accounted _ => exec_accounted_iff accounted call)
    (fun _ call accounted _ settles => ((exec_accounted_iff accounted call).mpr settles).1) (unused_accounted timer) run

end UsedQueue

def systemTimer : SeqDefaultTimer where
  id := ⟨SNDRV_TIMER_CLASS_GLOBAL, 0, 0, SNDRV_TIMER_GLOBAL_SYSTEM, 0⟩
  resolution := 0

def userClient : ClientNumber := ⟨128, by decide⟩

/-- The only user doubles the tempo and starts the queue; when it uses the queue again, both are lost. -/
theorem use_again_resets :
    ¬ Throughout (UsedQueue.exec systemTimer) UsedQueue.UseAccounted (UsedQueue.unused (fastTimer.defaults systemTimer))
      [.use userClient true true true, .set { fastTimer with tempo := 250000 }, .use userClient true true true] := by
  rintro ⟨-, -, ⟨-, keeps⟩, -⟩
  have same := congrArg (fun queue : UsedQueue => queue.timer.tempo) (keeps _ _ _ rfl (by decide))
  exact absurd same (by decide)

end AlsaDriver.Seq
