import AlsaDriver.Lib.Runs
import AlsaDriver.Timer.User

namespace AlsaDriver.Timer

open Ring Runs

namespace SndTimerUser

variable (tu : SndTimerUser)

/-- The entries that the reader has copied and that `qused` still counts. -/
def held : Nat := if tu.phase = .copied ∨ tu.phase = .wrapped then 1 else 0

/-- The counters when `k` entries are left to read. -/
structure Counters (k : Nat) : Prop where
  used : tu.qused = k + tu.held
  room : k + tu.held ≤ tu.queueSize
  head : tu.qhead ≤ tu.queueSize
  wrapped : tu.phase ≠ .copied → tu.qhead < tu.queueSize
  tail : (tu.qhead + k) % tu.queueSize = tu.qtail
  ready : tu.phase = .checked → 0 < k

def Sound : Prop := tu.resizing = 0 →
  0 ≤ tu.qused ∧ tu.qused ≤ tu.queueSize ∧ tu.qtail < tu.queueSize ∧
    (tu.held = 0 → tu.qhead < tu.queueSize ∧ (tu.qhead + tu.qused) % tu.queueSize = tu.qtail)

def Inv : Prop := 0 < tu.queueSize ∧ (tu.resizing = 0 → ∃ k, tu.Counters k)

/-- The copies to the reader do not fault, PARAMS resets no queue that is being read, and has room for the early
    event; no tick is added to an entry that the reader has copied, and no sum of ticks is out of range. -/
def Proper : UserOp → Prop
  | .readCopy fault => tu.phase = .checked → fault = false
  | .paramsReset => tu.resizing ≠ 0 → tu.phase = .idle
  | .paramsEarly => tu.resizing = 0 → tu.tread = false → tu.qused < tu.queueSize ∧ tu.qtail + 1 < tu.queueSize
  | .callback _ resolution ticks =>
    if tu.tread then
      tu.filter.testBit SNDRV_TIMER_EVENT_TICK = true → ticks < 2 ^ 32 ∧
        (ticks ≠ 0 → ¬ tu.news resolution → 0 < tu.qused → (tu.tqueue tu.prev).event = SNDRV_TIMER_EVENT_TICK →
          tu.held < tu.qused ∧ (tu.tqueue tu.prev).val + ticks < 2 ^ 32)
    else
      ticks < 2 ^ 32 ∧ (0 < tu.qused → (tu.queue tu.prev).resolution = resolution →
        (ticks ≠ 0 → tu.held < tu.qused) ∧ (tu.queue tu.prev).ticks + ticks < 2 ^ 32)
  | _ => True

variable {tu} {k : Nat}

theorem Inv.sound (inv : tu.Inv) : tu.Sound := by
  intro quiet
  obtain ⟨size, ring⟩ := inv
  obtain ⟨k, counters⟩ := ring quiet
  have used := counters.used
  have room := counters.room
  have tail : tu.qtail < tu.queueSize := by
    rw [← counters.tail]
    exact Nat.mod_lt _ size
  refine ⟨by omega, by omega, tail, ?_⟩
  intro free
  have head : tu.qhead < tu.queueSize := by
    apply counters.wrapped
    intro copied
    rw [held, if_pos (.inl copied)] at free
    cases free
  have used' : tu.qused = k := by
    rw [used, free]
    exact Int.add_zero _
  refine ⟨head, ?_⟩
  rw [used', ← counters.tail]
  rfl

structure SameCounters (tu tu' : SndTimerUser) : Prop where
  size : tu'.queueSize = tu.queueSize
  head : tu'.qhead = tu.qhead
  tail : tu'.qtail = tu.qtail
  used : tu'.qused = tu.qused
  phase : tu'.phase = tu.phase
  resizing : tu'.resizing = tu.resizing

variable {tu' : SndTimerUser}

theorem SameCounters.held (same : tu.SameCounters tu') : tu'.held = tu.held := by
  rw [SndTimerUser.held, SndTimerUser.held, same.phase]

theorem Counters.same (counters : tu.Counters k) (same : tu.SameCounters tu') : tu'.Counters k := by
  refine ⟨?_, ?_, ?_, ?_, ?_, ?_⟩
  · rw [same.used, same.held]
    exact counters.used
  · rw [same.size, same.held]
    exact counters.room
  · rw [same.head, same.size]
    exact counters.head
  · rw [same.phase, same.head, same.size]
    exact counters.wrapped
  · rw [same.head, same.size, same.tail]
    exact counters.tail
  · rw [same.phase]
    exact counters.ready

theorem Counters.push (counters : tu.Counters k) (free : tu.qused < tu.queueSize) : tu.push.Counters (k + 1) := by
  have used := counters.used
  refine ⟨?_, ?_, counters.head, counters.wrapped, ?_, fun _ => Nat.succ_pos k⟩
  · show tu.qused + 1 = ((k + 1 : Nat) : Int) + tu.held
    omega
  · show k + 1 + tu.held ≤ tu.queueSize
    omega
  · show (tu.qhead + (k + 1)) % tu.queueSize = (tu.qtail + 1) % tu.queueSize
    rw [← counters.tail, Nat.mod_add_mod, Nat.add_assoc]

variable (tu) in
theorem append_cases (t : SndTimerTread) :
    (tu.queueSize ≤ tu.qused ∧ tu.appendToTqueue t = { tu with overrun := tu.overrun + 1 }) ∨
    (tu.qused < tu.queueSize ∧
      tu.appendToTqueue t = { tu with tqueue := Function.update tu.tqueue tu.qtail t }.push) := by
  rw [appendToTqueue]
  split
  · rename_i full
    exact .inl ⟨full, rfl⟩
  · rename_i free
    exact .inr ⟨Int.lt_of_not_ge free, rfl⟩

theorem Counters.prev (size : 0 < tu.queueSize) (counters : tu.Counters (k + 1)) :
    tu.prev = (tu.qhead + k) % tu.queueSize := by
  have inside := Nat.mod_lt (tu.qhead + k) size
  have tail := counters.tail
  rw [← Nat.add_assoc, ← Nat.mod_add_mod] at tail
  rw [SndTimerUser.prev]
  by_cases last : (tu.qhead + k) % tu.queueSize + 1 < tu.queueSize
  · rw [Nat.mod_eq_of_lt last] at tail
    rw [if_neg (by omega)]
    omega
  · have around : (tu.qhead + k) % tu.queueSize + 1 = tu.queueSize := by omega
    rw [around, Nat.mod_self] at tail
    rw [if_pos tail.symm]
    omega

def Tells (entries : List SndTimerTread) (events : List SndTimerTread) (ticks : Nat) : Prop :=
  entries.filter (fun t => t.event != SNDRV_TIMER_EVENT_TICK) = events ∧
    ((entries.filter fun t => t.event == SNDRV_TIMER_EVENT_TICK).map SndTimerTread.val).sum = ticks

section

variable {entries events : List SndTimerTread} {ticks : Nat} {t : SndTimerTread}

private theorem filter_kept {p : SndTimerTread → Bool} (kept : p t = true) :
    (entries ++ [t]).filter p = entries.filter p ++ [t] := by
  rw [List.filter_append, List.filter_cons_of_pos kept, List.filter_nil]

private theorem filter_dropped {p : SndTimerTread → Bool} (dropped : p t = false) :
    (entries ++ [t]).filter p = entries.filter p := by
  have dropped' : ¬ p t = true := Bool.eq_false_iff.mp dropped
  rw [List.filter_append, List.filter_cons_of_neg dropped', List.filter_nil, List.append_nil]

theorem Tells.event (tells : Tells entries events ticks) (other : t.event ≠ SNDRV_TIMER_EVENT_TICK) :
    Tells (entries ++ [t]) (events ++ [t]) ticks := by
  have event : (t.event != SNDRV_TIMER_EVENT_TICK) = true := bne_iff_ne.mpr other
  have tick : (t.event == SNDRV_TIMER_EVENT_TICK) = false := beq_eq_false_iff_ne.mpr other
  constructor
  · rw [filter_kept event, tells.1]
  · rw [filter_dropped tick]
    exact tells.2

theorem tells_ticks (tick : t.event = SNDRV_TIMER_EVENT_TICK) :
    Tells (entries ++ [t]) events ticks ↔ ∃ rest, Tells entries events rest ∧ ticks = rest + t.val := by
  have event : (t.event != SNDRV_TIMER_EVENT_TICK) = false := bne_eq_false_iff_eq.mpr tick
  have also : (t.event == SNDRV_TIMER_EVENT_TICK) = true := beq_iff_eq.mpr tick
  have sum : (((entries ++ [t]).filter fun t => t.event == SNDRV_TIMER_EVENT_TICK).map SndTimerTread.val).sum =
      ((entries.filter fun t => t.event == SNDRV_TIMER_EVENT_TICK).map SndTimerTread.val).sum + t.val := by
    rw [filter_kept also, List.map_append, List.sum_append]
    exact congrArg _ (Nat.add_zero _)
  have events' : (entries ++ [t]).filter (fun t => t.event != SNDRV_TIMER_EVENT_TICK) =
      entries.filter fun t => t.event != SNDRV_TIMER_EVENT_TICK := filter_dropped event
  rw [Tells, sum, events']
  constructor
  · rintro ⟨same, total⟩
    exact ⟨_, ⟨same, rfl⟩, total.symm⟩
  · rintro ⟨rest, ⟨same, total⟩, rfl⟩
    exact ⟨same, by rw [total]⟩

end

variable (tu) in
def treads (k : Nat) : List SndTimerTread := tu.tgot ++ window tu.queueSize tu.tqueue tu.qhead k

variable (tu) in
def reads (k : Nat) : List SndTimerRead := tu.got ++ window tu.queueSize tu.queue tu.qhead k

variable (tu) in
def Story (k : Nat) (events : List SndTimerTread) (ticks : Nat) : Prop :=
  if tu.tread then Tells (tu.treads k) events ticks
  else events = [] ∧ ((tu.reads k).map SndTimerRead.ticks).sum = ticks

structure Advance (tu tu' : SndTimerUser) (k k' : Nat) (events : List SndTimerTread) (ticks : Nat) : Prop where
  counters : tu'.Counters k'
  size : tu'.queueSize = tu.queueSize
  resizing : tu'.resizing = tu.resizing
  overrun : tu.overrun ≤ tu'.overrun
  story : ∀ before total, tu'.overrun = 0 → tu.Story k before total → tu'.Story k' (before ++ events) (total + ticks)

theorem Advance.trans {tu'' : SndTimerUser} {k' k'' : Nat} {events events' : List SndTimerTread} {ticks ticks' : Nat}
    (first : Advance tu tu' k k' events ticks) (second : Advance tu' tu'' k' k'' events' ticks') :
    Advance tu tu'' k k'' (events ++ events') (ticks + ticks') := by
  refine ⟨second.counters, second.size.trans first.size, second.resizing.trans first.resizing,
    first.overrun.trans second.overrun, ?_⟩
  intro before total none story
  have none' : tu'.overrun = 0 := Nat.le_zero.mp (none ▸ second.overrun)
  rw [← List.append_assoc, ← Nat.add_assoc]
  exact second.story _ _ none (first.story _ _ none' story)

theorem Advance.refl (counters : tu.Counters k) : Advance tu tu k k [] 0 := by
  refine ⟨counters, rfl, rfl, Nat.le_refl _, ?_⟩
  intro before total _ story
  rwa [List.append_nil]

theorem advance_overrun (counters : tu.Counters k) (events : List SndTimerTread) (ticks : Nat) :
    Advance tu { tu with overrun := tu.overrun + 1 } k k events ticks :=
  ⟨counters.same ⟨rfl, rfl, rfl, rfl, rfl, rfl⟩, rfl, rfl, Nat.le_succ _, fun _ _ none => absurd none (Nat.succ_ne_zero _)⟩

variable (tu) in
theorem story_tread (tread : tu.tread = true) (events : List SndTimerTread) (ticks : Nat) :
    tu.Story k events ticks ↔ Tells (tu.treads k) events ticks := by
  rw [Story, if_pos tread]

variable (tu) in
theorem story_plain (plain : tu.tread = false) (events : List SndTimerTread) (ticks : Nat) :
    tu.Story k events ticks ↔ events = [] ∧ ((tu.reads k).map SndTimerRead.ticks).sum = ticks := by
  rw [Story, if_neg (Bool.eq_false_iff.mp plain)]

theorem advance_append {t : SndTimerTread} {events : List SndTimerTread} {ticks : Nat}
    (counters : tu.Counters k) (tread : tu.tread = true)
    (tells : ∀ entries before total, Tells entries before total →
      Tells (entries ++ [t]) (before ++ events) (total + ticks)) :
    ∃ k', Advance tu (tu.appendToTqueue t) k k' events ticks := by
  rcases append_cases tu t with ⟨-, state⟩ | ⟨free, state⟩
  · exact ⟨k, state ▸ advance_overrun counters events ticks⟩
  · have filled : ({ tu with tqueue := Function.update tu.tqueue tu.qtail t } : SndTimerUser).Counters k :=
      counters.same ⟨rfl, rfl, rfl, rfl, rfl, rfl⟩
    have used := counters.used
    have fits : k + 1 ≤ tu.queueSize := by omega
    have added : (tu.appendToTqueue t).treads (k + 1) = tu.treads k ++ [t] := by
      rw [state]
      show tu.tgot ++ window tu.queueSize (Function.update tu.tqueue tu.qtail t) tu.qhead (k + 1) = _
      rw [window_update_push t counters.tail.symm fits, ← List.append_assoc, treads]
    have mode : (tu.appendToTqueue t).tread = true := by
      rw [state]
      exact tread
    refine ⟨k + 1, state ▸ filled.push free, state ▸ rfl, state ▸ rfl, state ▸ Nat.le_refl _, ?_⟩
    intro before total _ story
    rw [story_tread _ mode, added]
    exact tells _ _ _ ((story_tread _ tread _ _).mp story)

theorem advance_merge {r : SndTimerTread} {ticks : Nat} (size : 0 < tu.queueSize) (counters : tu.Counters k)
    (tread : tu.tread = true) (event : r.event = SNDRV_TIMER_EVENT_TICK)
    (merges : tu.overrun = 0 → (tu.tqueue tu.prev).event = SNDRV_TIMER_EVENT_TICK ∧ 0 < k ∧
      r.val = (tu.tqueue tu.prev).val + ticks) :
    Advance tu { tu with tqueue := Function.update tu.tqueue tu.prev r } k k [] ticks := by
  refine ⟨counters.same ⟨rfl, rfl, rfl, rfl, rfl, rfl⟩, rfl, rfl, Nat.le_refl _, ?_⟩
  intro before total none story
  obtain ⟨tick, some, val⟩ := merges none
  obtain ⟨j, rfl⟩ : ∃ j, k = j + 1 := ⟨k - 1, by omega⟩
  have prev := counters.prev size
  have fits : j + 1 ≤ tu.queueSize := Nat.le_trans (Nat.le_add_right ..) counters.room
  have was : tu.treads (j + 1) = tu.treads j ++ [tu.tqueue tu.prev] := by
    rw [treads, window_succ, ← List.append_assoc, ← prev, treads]
  let merged : SndTimerUser := { tu with tqueue := Function.update tu.tqueue tu.prev r }
  have becomes : merged.treads (j + 1) = tu.treads j ++ [r] := by
    show tu.tgot ++ window tu.queueSize (Function.update tu.tqueue tu.prev r) tu.qhead (j + 1) = _
    rw [window_update_push r prev fits, ← List.append_assoc, treads]
  rw [story_tread _ tread, was, tells_ticks tick] at story
  apply (story_tread merged tread _ _).mpr
  rw [becomes, tells_ticks event]
  obtain ⟨rest, tells, rfl⟩ := story
  refine ⟨rest, ?_, ?_⟩
  · rwa [List.append_nil]
  · rw [val, Nat.add_assoc]

theorem advance_addTicks {tstamp : Int × Int} {ticks : Nat} (size : 0 < tu.queueSize) (counters : tu.Counters k)
    (tread : tu.tread = true) (small : ticks < 2 ^ 32)
    (merges : tu.overrun = 0 → 0 < tu.qused → (tu.tqueue tu.prev).event = SNDRV_TIMER_EVENT_TICK →
      tu.held < tu.qused ∧ (tu.tqueue tu.prev).val + ticks < 2 ^ 32) :
    ∃ k', Advance tu (tu.addTicks tstamp ticks) k k' [] ticks := by
  rw [addTicks]
  split
  · rename_i newest
    refine ⟨k, advance_merge size counters tread newest.2 ?_⟩
    intro none
    obtain ⟨free, range⟩ := merges none newest.1 newest.2
    have used := counters.used
    exact ⟨newest.2, by omega, Nat.mod_eq_of_lt range⟩
  · apply advance_append counters tread
    intro entries before total tells
    rw [tells_ticks rfl, List.append_nil, Nat.mod_eq_of_lt small]
    exact ⟨total, tells, rfl⟩

theorem append_newest {t : SndTimerTread} (size : 0 < tu.queueSize) (counters : tu.Counters k)
    (none : (tu.appendToTqueue t).overrun = 0) :
    (tu.appendToTqueue t).tqueue (tu.appendToTqueue t).prev = t := by
  rcases append_cases tu t with ⟨-, state⟩ | ⟨free, state⟩
  · rw [state] at none
    exact absurd none (Nat.succ_ne_zero _)
  · have filled : ({ tu with tqueue := Function.update tu.tqueue tu.qtail t } : SndTimerUser).Counters k :=
      counters.same ⟨rfl, rfl, rfl, rfl, rfl, rfl⟩
    have pushed := filled.push free
    have prev := Counters.prev (by exact size) pushed
    rw [state, prev]
    show Function.update tu.tqueue tu.qtail t ((tu.qhead + k) % tu.queueSize) = t
    rw [counters.tail, Function.update_self]

theorem Advance.resolved {k' : Nat} {events : List SndTimerTread} {ticks : Nat}
    (advance : Advance tu tu' k k' events ticks) (resolution : Nat) :
    Advance tu { tu' with lastResolution := resolution } k k' events ticks :=
  ⟨advance.counters.same ⟨rfl, rfl, rfl, rfl, rfl, rfl⟩, advance.size, advance.resizing, advance.overrun, advance.story⟩

variable {resolution ticks : Nat} {now : Int × Int}

theorem advance_ticks {tstamp : Int × Int} (size : 0 < tu.queueSize) (counters : tu.Counters k) (tread : tu.tread = true)
    (merges : tu.filter.testBit SNDRV_TIMER_EVENT_TICK = true → ticks < 2 ^ 32 ∧ (ticks ≠ 0 → tu.overrun = 0 → 0 < tu.qused →
      (tu.tqueue tu.prev).event = SNDRV_TIMER_EVENT_TICK → tu.held < tu.qused ∧ (tu.tqueue tu.prev).val + ticks < 2 ^ 32)) :
    ∃ k', Advance tu (if tu.filter.testBit SNDRV_TIMER_EVENT_TICK = false then tu
      else if ticks = 0 then tu else tu.addTicks tstamp ticks) k k' []
      (if tu.filter.testBit SNDRV_TIMER_EVENT_TICK = false then 0 else ticks) := by
  by_cases off : tu.filter.testBit SNDRV_TIMER_EVENT_TICK = false
  · rw [if_pos off, if_pos off]
    exact ⟨k, Advance.refl counters⟩
  rw [if_neg off, if_neg off]
  obtain ⟨small, merges⟩ := merges (Bool.eq_true_of_not_eq_false off)
  by_cases zero : ticks = 0
  · rw [if_pos zero, zero]
    exact ⟨k, Advance.refl counters⟩
  · rw [if_neg zero]
    exact advance_addTicks size counters tread small (merges zero)

variable (tu) in
theorem append_settings (t : SndTimerTread) :
    (tu.appendToTqueue t).filter = tu.filter ∧ (tu.appendToTqueue t).tread = tu.tread := by
  rcases append_cases tu t with ⟨-, state⟩ | ⟨-, state⟩ <;> rw [state] <;> exact ⟨rfl, rfl⟩

theorem advance_tinterrupt (size : 0 < tu.queueSize) (counters : tu.Counters k) (tread : tu.tread = true)
    (proper : tu.Proper (.callback now resolution ticks)) :
    ∃ k', Advance tu (tu.sndTimerUserTinterrupt now resolution ticks) k k'
      (tu.reportedEvents (.callback now resolution ticks)) (tu.reportedTicks (.callback now resolution ticks)) := by
  rw [Proper, if_pos tread] at proper
  simp only [sndTimerUserTinterrupt, reportedEvents, reportedTicks, tread, true_and]
  by_cases off : tu.filter.testBit SNDRV_TIMER_EVENT_RESOLUTION = false ∧
      tu.filter.testBit SNDRV_TIMER_EVENT_TICK = false
  · have old : ¬ tu.news resolution := fun news => Bool.false_ne_true (off.1.symm.trans news.1)
    rw [if_pos off, if_neg old, if_pos off.2]
    exact ⟨k, Advance.refl counters⟩
  rw [if_neg off]
  by_cases news : tu.news resolution
  · simp only [if_pos news]
    let t : SndTimerTread := ⟨SNDRV_TIMER_EVENT_RESOLUTION, tu.stamp now resolution ticks, resolution % 2 ^ 32⟩
    have other : t.event ≠ SNDRV_TIMER_EVENT_TICK := Nat.zero_ne_one
    obtain ⟨k₁, first⟩ := @advance_append _ _ t [t] 0 counters tread
      fun _ _ _ tells => tells.event other
    let told : SndTimerUser := { tu.appendToTqueue t with lastResolution := resolution }
    have advance : Advance tu told k k₁ [t] 0 := first.resolved resolution
    obtain ⟨filter, mode⟩ := append_settings tu t
    have filter' : told.filter = tu.filter := filter
    obtain ⟨k₂, second⟩ := @advance_ticks told _ ticks (tu.stamp now resolution ticks) (advance.size ▸ size) advance.counters (mode.trans tread) (by
        intro on
        refine ⟨(proper (filter' ▸ on)).1, ?_⟩
        -- the newest entry is the resolution
        intro _ none _ tick
        have newest : (told.tqueue told.prev).event = t.event :=
          congrArg SndTimerTread.event (append_newest size counters none)
        exact absurd (newest.symm.trans tick) other)
    have both := advance.trans second
    have same : (if told.filter.testBit SNDRV_TIMER_EVENT_TICK = false then 0 else ticks) =
        if tu.filter.testBit SNDRV_TIMER_EVENT_TICK = false then 0 else ticks := by rw [filter']
    rw [same, Nat.zero_add] at both
    exact ⟨k₂, both⟩
  · simp only [if_neg news]
    apply advance_ticks size counters tread
    intro on
    obtain ⟨small, merges⟩ := proper on
    exact ⟨small, fun some _ => merges some news⟩

theorem advance_interrupt (size : 0 < tu.queueSize) (counters : tu.Counters k) (plain : tu.tread = false)
    (proper : tu.Proper (.callback now resolution ticks)) :
    ∃ k', Advance tu (tu.sndTimerUserInterrupt resolution ticks) k k' [] ticks := by
  rw [Proper, if_neg (Bool.eq_false_iff.mp plain)] at proper
  obtain ⟨small, merges⟩ := proper
  have used := counters.used
  simp only [sndTimerUserInterrupt]
  split
  · rename_i newest
    obtain ⟨free, range⟩ := merges newest.1 newest.2
    let r : SndTimerRead := { tu.queue tu.prev with ticks := ((tu.queue tu.prev).ticks + ticks) % 2 ^ 32 }
    let merged : SndTimerUser := { tu with queue := Function.update tu.queue tu.prev r }
    have same : merged.Counters k := counters.same ⟨rfl, rfl, rfl, rfl, rfl, rfl⟩
    refine ⟨k, same, rfl, rfl, Nat.le_refl _, ?_⟩
    intro before total _ story
    rw [story_plain _ plain] at story
    apply (story_plain merged plain _ _).mpr
    refine ⟨(List.append_nil _).trans story.1, ?_⟩
    cases k with
    | zero =>
      have zero : ticks = 0 := by
        by_contra some
        have := free some
        omega
      rw [zero]
      exact story.2
    | succ j =>
      have prev := counters.prev size
      have fits : j + 1 ≤ tu.queueSize := Nat.le_trans (Nat.le_add_right ..) counters.room
      have was : tu.reads (j + 1) = tu.reads j ++ [tu.queue tu.prev] := by
        rw [reads, window_succ, ← List.append_assoc, ← prev, reads]
      have becomes : merged.reads (j + 1) = tu.reads j ++ [r] := by
        show tu.got ++ window tu.queueSize (Function.update tu.queue tu.prev r) tu.qhead (j + 1) = _
        rw [window_update_push r prev fits, ← List.append_assoc, reads]
      have total := story.2
      rw [was, List.map_append, List.sum_append] at total
      rw [becomes, List.map_append, List.sum_append, ← total, Nat.add_assoc]
      apply congrArg
      show ((tu.queue tu.prev).ticks + ticks) % 2 ^ 32 + 0 = (tu.queue tu.prev).ticks + 0 + ticks
      rw [Nat.mod_eq_of_lt range, Nat.add_zero, Nat.add_zero]
  · split
    · exact ⟨k, advance_overrun counters [] ticks⟩
    · rename_i free
      let r : SndTimerRead := ⟨resolution % 2 ^ 32, ticks % 2 ^ 32⟩
      let filled : SndTimerUser := { tu with queue := Function.update tu.queue tu.qtail r }
      have same : filled.Counters k := counters.same ⟨rfl, rfl, rfl, rfl, rfl, rfl⟩
      have fits : k + 1 ≤ tu.queueSize := by omega
      refine ⟨k + 1, same.push (Int.lt_of_not_ge free), rfl, rfl, Nat.le_refl _, ?_⟩
      intro before total _ story
      rw [story_plain _ plain] at story
      apply (story_plain filled.push plain _ _).mpr
      refine ⟨(List.append_nil _).trans story.1, ?_⟩
      have added : filled.push.reads (k + 1) = tu.reads k ++ [r] := by
        show tu.got ++ window tu.queueSize (Function.update tu.queue tu.qtail r) tu.qhead (k + 1) = _
        rw [window_update_push r counters.tail.symm fits, ← List.append_assoc, reads]
      rw [added, List.map_append, List.sum_append, story.2]
      show total + (ticks % 2 ^ 32 + 0) = total + ticks
      rw [Nat.mod_eq_of_lt small, Nat.add_zero]

theorem notice_ne_tick (notice : SndTimerNotice) : notice.event ≠ SNDRV_TIMER_EVENT_TICK := by
  cases notice <;> decide

theorem advance_ccallback (counters : tu.Counters k) (notice : SndTimerNotice) (tstamp : Int × Int) (resolution : Nat) :
    ∃ k', Advance tu (tu.sndTimerUserCcallback notice.event tstamp resolution) k k'
      (tu.reportedEvents (.ccallback notice tstamp resolution)) 0 := by
  rw [sndTimerUserCcallback, reportedEvents]
  by_cases ignored : tu.filter.testBit notice.event = false ∨ tu.tread = false
  · have unreported : ¬ (tu.tread = true ∧ tu.filter.testBit notice.event = true) := by
      rintro ⟨tread, listed⟩
      rcases ignored with unlisted | plain
      · exact Bool.false_ne_true (unlisted.symm.trans listed)
      · exact Bool.false_ne_true (plain.symm.trans tread)
    rw [if_pos ignored, if_neg unreported]
    exact ⟨k, Advance.refl counters⟩
  · obtain ⟨listed, tread⟩ := not_or.mp ignored
    have tread' := Bool.eq_true_of_not_eq_false tread
    rw [if_neg ignored, if_pos ⟨tread', Bool.eq_true_of_not_eq_false listed⟩]
    exact advance_append counters tread' fun _ _ _ tells => tells.event (notice_ne_tick notice)

section reader

theorem held_idle (idle : tu.phase = .idle) : tu.held = 0 := by
  rw [held, idle]
  rfl

theorem held_checked (checked : tu.phase = .checked) : tu.held = 0 := by
  rw [held, checked]
  rfl

theorem held_copied (copied : tu.phase = .copied) : tu.held = 1 := by
  rw [held, copied]
  rfl

theorem held_wrapped (wrapped : tu.phase = .wrapped) : tu.held = 1 := by
  rw [held, wrapped]
  rfl

theorem advance_readCheck (counters : tu.Counters k) : Advance tu tu.readCheck k k [] 0 := by
  rw [readCheck]
  split
  · rename_i found
    have free := held_idle found.1
    have used := counters.used
    have room := counters.room
    rw [free] at used room
    refine ⟨⟨used, room, counters.head, ?_, counters.tail, ?_⟩, rfl, rfl, Nat.le_refl _, (Advance.refl counters).story⟩
    · intro _
      apply counters.wrapped
      rw [found.1]
      exact ReadPhase.noConfusion
    · intro _
      have := found.2
      omega
  · exact Advance.refl counters

theorem advance_readCopy (counters : tu.Counters k) (fault : Bool)
    (proper : tu.Proper (.readCopy fault)) : ∃ k', Advance tu (tu.readCopy fault) k k' [] 0 := by
  rw [readCopy]
  by_cases checked : tu.phase = .checked
  · have sound : fault = false := proper checked
    have below : tu.qhead < tu.queueSize := counters.wrapped (by rw [checked]; exact ReadPhase.noConfusion)
    have ready := counters.ready checked
    have used := counters.used
    have room := counters.room
    have free := held_checked checked
    obtain ⟨j, rfl⟩ : ∃ j, k = j + 1 := ⟨k - 1, by omega⟩
    have tail : (tu.qhead + 1 + j) % tu.queueSize = tu.qtail := by
      rw [← counters.tail]
      exact congrArg (· % tu.queueSize) (by omega)
    have first : tu.qhead % tu.queueSize = tu.qhead := Nat.mod_eq_of_lt below
    rw [if_neg (not_not.mpr checked), if_neg (Bool.eq_false_iff.mp sound)]
    refine ⟨j, ?_⟩
    by_cases tread : tu.tread = true
    · rw [if_pos tread]
      let copied : SndTimerUser := { tu with qhead := tu.qhead + 1, phase := .copied, tgot := tu.tgot ++ [tu.tqueue tu.qhead] }
      have counted : copied.Counters j :=
        ⟨by show tu.qused = j + (1 : Nat); omega, by show j + 1 ≤ tu.queueSize; omega, below,
          fun other => absurd rfl other, tail, ReadPhase.noConfusion⟩
      refine ⟨counted, rfl, rfl, Nat.le_refl _, ?_⟩
      intro before total _ story
      rw [story_tread _ tread] at story
      apply (story_tread copied tread _ _).mpr
      have same : copied.treads j = tu.treads (j + 1) := by
        show tu.tgot ++ [tu.tqueue tu.qhead] ++ window tu.queueSize tu.tqueue (tu.qhead + 1) j = _
        rw [treads, Nat.add_comm j 1, window_add, List.append_assoc]
        show _ = _ ++ ([tu.tqueue (tu.qhead % tu.queueSize)] ++ _)
        rw [first]
      rwa [same, List.append_nil]
    · have plain := Bool.eq_false_of_not_eq_true tread
      rw [if_neg tread]
      let copied : SndTimerUser := { tu with qhead := tu.qhead + 1, phase := .copied, got := tu.got ++ [tu.queue tu.qhead] }
      have counted : copied.Counters j :=
        ⟨by show tu.qused = j + (1 : Nat); omega, by show j + 1 ≤ tu.queueSize; omega, below,
          fun other => absurd rfl other, tail, ReadPhase.noConfusion⟩
      refine ⟨counted, rfl, rfl, Nat.le_refl _, ?_⟩
      intro before total _ story
      rw [story_plain _ plain] at story
      apply (story_plain copied plain _ _).mpr
      have same : copied.reads j = tu.reads (j + 1) := by
        show tu.got ++ [tu.queue tu.qhead] ++ window tu.queueSize tu.queue (tu.qhead + 1) j = _
        rw [reads, Nat.add_comm j 1, window_add, List.append_assoc]
        show _ = _ ++ ([tu.queue (tu.qhead % tu.queueSize)] ++ _)
        rw [first]
      rwa [same, List.append_nil]
  · rw [if_pos checked]
    exact ⟨k, Advance.refl counters⟩

theorem advance_readWrap (size : 0 < tu.queueSize) (counters : tu.Counters k) : Advance tu tu.readWrap k k [] 0 := by
  rw [readWrap]
  split
  · rename_i copied
    have held := held_copied copied
    have used := counters.used
    have room := counters.room
    rw [held] at used room
    have below : tu.qhead % tu.queueSize < tu.queueSize := Nat.mod_lt _ size
    have tail : (tu.qhead % tu.queueSize + k) % tu.queueSize = tu.qtail := by
      rw [Nat.mod_add_mod]
      exact counters.tail
    let wrapped : SndTimerUser := { tu with qhead := tu.qhead % tu.queueSize, phase := .wrapped }
    refine ⟨⟨used, room, below.le, fun _ => below, tail, ReadPhase.noConfusion⟩, rfl, rfl, Nat.le_refl _, ?_⟩
    intro before total _ story
    have treads : wrapped.treads k = tu.treads k := congrArg (tu.tgot ++ ·) window_mod
    have reads : wrapped.reads k = tu.reads k := congrArg (tu.got ++ ·) window_mod
    show wrapped.Story k _ _
    rw [Story, treads, reads, List.append_nil]
    exact story
  · exact Advance.refl counters

theorem advance_readNext (counters : tu.Counters k) (more : Bool) : Advance tu (tu.readNext more) k k [] 0 := by
  rw [readNext]
  split
  · rename_i wrapped
    have used := counters.used
    have room := counters.room
    rw [held_wrapped wrapped] at used room
    let next : SndTimerUser :=
      { tu with qused := tu.qused - 1, phase := if more = true ∧ tu.qused - 1 ≠ 0 then .checked else .idle }
    have free : next.held = 0 := by
      by_cases again : more = true ∧ tu.qused - 1 ≠ 0
      · exact held_checked (if_pos again)
      · exact held_idle (if_neg again)
    have below : tu.qhead < tu.queueSize := counters.wrapped (by rw [wrapped]; exact ReadPhase.noConfusion)
    refine ⟨⟨?_, ?_, counters.head, fun _ => below, counters.tail, ?_⟩, rfl, rfl, Nat.le_refl _,
      (Advance.refl counters).story⟩
    · show tu.qused - 1 = k + (next.held : Int)
      omega
    · show k + next.held ≤ tu.queueSize
      omega
    · show next.phase = .checked → 0 < k
      intro checked
      by_contra none
      have last : ¬ (more = true ∧ tu.qused - 1 ≠ 0) := by
        rintro ⟨-, some⟩
        omega
      have idle : next.phase = .idle := if_neg last
      exact ReadPhase.noConfusion (idle.symm.trans checked)
  · exact Advance.refl counters

end reader

theorem advance_exec (size : 0 < tu.queueSize) (counters : tu.Counters k) (op : UserOp) (proper : tu.Proper op)
    (other : op.isParams = false) :
    ∃ k', Advance tu (tu.exec op) k k' (tu.reportedEvents op) (tu.reportedTicks op) := by
  cases op with
  | callback now resolution ticks =>
    rw [exec]
    by_cases tread : tu.tread = true
    · rw [if_pos tread]
      exact advance_tinterrupt size counters tread proper
    · have events : tu.reportedEvents (.callback now resolution ticks) = [] := if_neg fun both => tread both.1
      have all : tu.reportedTicks (.callback now resolution ticks) = ticks := if_neg fun both => tread both.1
      rw [if_neg tread, events, all]
      exact advance_interrupt size counters (Bool.eq_false_of_not_eq_true tread) proper
  | ccallback notice tstamp resolution => exact advance_ccallback counters notice tstamp resolution
  | readCheck => exact ⟨k, advance_readCheck counters⟩
  | readCopy fault => exact advance_readCopy counters fault proper
  | readWrap => exact ⟨k, advance_readWrap size counters⟩
  | readNext more => exact ⟨k, advance_readNext counters more⟩
  | paramsQueue size memory queue tqueue => cases other
  | paramsReset => cases other
  | paramsEarly => cases other
  | paramsFilter filter => cases other

section frame

variable (tu) in
theorem append_frame (t : SndTimerTread) :
    (tu.appendToTqueue t).queueSize = tu.queueSize ∧ (tu.appendToTqueue t).resizing = tu.resizing := by
  rcases append_cases tu t with ⟨-, state⟩ | ⟨-, state⟩ <;> rw [state] <;> exact ⟨rfl, rfl⟩

theorem tinterrupt_frame (now : Int × Int) (resolution ticks : Nat) :
    (tu.sndTimerUserTinterrupt now resolution ticks).queueSize = tu.queueSize ∧
      (tu.sndTimerUserTinterrupt now resolution ticks).resizing = tu.resizing := by
  have ticked : ∀ (s : SndTimerUser) (tstamp : Int × Int), (s.addTicks tstamp ticks).queueSize = s.queueSize ∧
      (s.addTicks tstamp ticks).resizing = s.resizing := by
    intro s tstamp
    rw [addTicks]
    split
    · exact ⟨rfl, rfl⟩
    · exact append_frame _ _
  simp only [sndTimerUserTinterrupt]
  split
  · exact ⟨rfl, rfl⟩
  by_cases news : tu.news resolution
  · simp only [if_pos news]
    have appended := append_frame tu
      ⟨SNDRV_TIMER_EVENT_RESOLUTION, tu.stamp now resolution ticks, resolution % 2 ^ 32⟩
    split
    · exact appended
    split
    · exact appended
    · have last := ticked { tu.appendToTqueue ⟨SNDRV_TIMER_EVENT_RESOLUTION, tu.stamp now resolution ticks,
        resolution % 2 ^ 32⟩ with lastResolution := resolution } (tu.stamp now resolution ticks)
      exact ⟨last.1.trans appended.1, last.2.trans appended.2⟩
  · simp only [if_neg news]
    split
    · exact ⟨rfl, rfl⟩
    split
    · exact ⟨rfl, rfl⟩
    · exact ticked tu _

theorem exec_frame (op : UserOp) (other : op.isParams = false) :
    (tu.exec op).queueSize = tu.queueSize ∧ (tu.exec op).resizing = tu.resizing := by
  cases op with
  | callback now resolution ticks =>
    rw [exec]
    split
    · exact tinterrupt_frame now resolution ticks
    · simp only [sndTimerUserInterrupt]
      split
      · exact ⟨rfl, rfl⟩
      split <;> exact ⟨rfl, rfl⟩
  | ccallback notice tstamp resolution =>
    rw [exec, sndTimerUserCcallback]
    split
    · exact ⟨rfl, rfl⟩
    · exact append_frame _ _
  | readCheck =>
    rw [exec, readCheck]
    split <;> exact ⟨rfl, rfl⟩
  | readCopy fault =>
    rw [exec, readCopy]
    split
    · exact ⟨rfl, rfl⟩
    split
    · exact ⟨rfl, rfl⟩
    split <;> exact ⟨rfl, rfl⟩
  | readWrap =>
    rw [exec, readWrap]
    split <;> exact ⟨rfl, rfl⟩
  | readNext more =>
    rw [exec, readNext]
    split <;> exact ⟨rfl, rfl⟩
  | paramsQueue size memory queue tqueue => cases other
  | paramsReset => cases other
  | paramsEarly => cases other
  | paramsFilter filter => cases other

end frame

section params

theorem Inv.paramsQueue (inv : tu.Inv) (size : Nat) (memory : Bool) (queue : Nat → SndTimerRead)
    (tqueue : Nat → SndTimerTread) : (tu.paramsQueue size memory queue tqueue).Inv := by
  simp only [SndTimerUser.paramsQueue]
  split
  · exact inv
  split
  · rename_i sized
    split
    · exact ⟨sized.1, fun quiet => absurd quiet (Nat.succ_ne_zero _)⟩
    · exact ⟨sized.1, fun quiet => absurd quiet (Nat.succ_ne_zero _)⟩
  · exact ⟨inv.1, fun quiet => absurd quiet (Nat.succ_ne_zero _)⟩

theorem Inv.paramsReset (inv : tu.Inv) (proper : tu.Proper .paramsReset) : tu.paramsReset.Inv := by
  rw [SndTimerUser.paramsReset]
  split
  · exact inv
  · rename_i resizing
    have idle := proper resizing
    have free := held_idle idle
    have room : 0 + tu.held ≤ tu.queueSize := by omega
    refine ⟨inv.1, fun _ => ⟨0, ⟨?_, room, Nat.zero_le _, fun _ => inv.1, Nat.zero_mod _, ?_⟩⟩⟩
    · show (0 : Int) = (0 : Nat) + tu.held
      rw [free]
      rfl
    · intro checked
      exact ReadPhase.noConfusion (idle.symm.trans checked)

theorem Inv.paramsEarly (inv : tu.Inv) (proper : tu.Proper .paramsEarly) : tu.paramsEarly.Inv := by
  rw [SndTimerUser.paramsEarly]
  split
  · rename_i tread
    obtain ⟨size, resizing⟩ := append_frame tu ⟨SNDRV_TIMER_EVENT_EARLY, (0, 0), 0⟩
    refine ⟨size ▸ inv.1, ?_⟩
    intro quiet
    obtain ⟨k, counters⟩ := inv.2 (resizing ▸ quiet)
    have early : SNDRV_TIMER_EVENT_EARLY ≠ SNDRV_TIMER_EVENT_TICK := by decide
    obtain ⟨k', advance⟩ := @advance_append _ _ ⟨SNDRV_TIMER_EVENT_EARLY, (0, 0), 0⟩ _ 0 counters tread fun _ _ _ tells => tells.event early
    exact ⟨k', advance.counters⟩
  · rename_i plain
    refine ⟨inv.1, ?_⟩
    intro quiet
    obtain ⟨free, room⟩ := proper quiet (Bool.eq_false_of_not_eq_true plain)
    obtain ⟨k, counters⟩ := inv.2 quiet
    have pushed := counters.push free
    refine ⟨k + 1, pushed.used, pushed.room, pushed.head, pushed.wrapped, ?_, pushed.ready⟩
    exact pushed.tail.trans (Nat.mod_eq_of_lt room)

theorem Inv.paramsFilter (inv : tu.Inv) (filter : Nat) : (tu.paramsFilter filter).Inv := by
  rw [SndTimerUser.paramsFilter]
  split
  · refine ⟨inv.1, ?_⟩
    intro quiet
    obtain ⟨k, counters⟩ := inv.2 quiet
    exact ⟨k, counters.same ⟨rfl, rfl, rfl, rfl, rfl, rfl⟩⟩
  · exact inv

end params

theorem Inv.exec (inv : tu.Inv) (op : UserOp) (proper : tu.Proper op) : (tu.exec op).Inv := by
  by_cases other : op.isParams = false
  · obtain ⟨size, resizing⟩ := @exec_frame tu op other
    refine ⟨size ▸ inv.1, ?_⟩
    intro quiet
    obtain ⟨k, counters⟩ := inv.2 (resizing ▸ quiet)
    obtain ⟨k', advance⟩ := advance_exec inv.1 counters op proper other
    exact ⟨k', advance.counters⟩
  · cases op with
    | paramsQueue size memory queue tqueue => exact inv.paramsQueue size memory queue tqueue
    | paramsReset => exact inv.paramsReset proper
    | paramsEarly => exact inv.paramsEarly proper
    | paramsFilter filter => exact inv.paramsFilter filter
    | _ => exact absurd rfl other

theorem advance_run (size : 0 < tu.queueSize) (counters : tu.Counters k) (ops : List UserOp)
    (proper : Throughout exec (fun s op _ => s.Proper op) tu ops) (others : ∀ op ∈ ops, op.isParams = false) :
    ∃ k', Advance tu (ops.foldl exec tu) k k' (eventsOf tu ops) (ticksOf tu ops) := by
  induction ops generalizing tu k with
  | nil => exact ⟨k, Advance.refl counters⟩
  | cons op rest ih =>
    obtain ⟨k₁, first⟩ := advance_exec size counters op proper.1 (others op (List.mem_cons_self ..))
    obtain ⟨k₂, later⟩ := ih (first.size ▸ size) first.counters proper.2
      fun op inside => others op (List.mem_cons_of_mem _ inside)
    exact ⟨k₂, first.trans later⟩

variable (tu) in
structure Quiet : Prop where
  size : 0 < tu.queueSize
  empty : tu.qused = 0
  head : tu.qhead < tu.queueSize
  tail : tu.qhead = tu.qtail
  idle : tu.phase = .idle
  settled : tu.resizing = 0
  got : tu.got = []
  tgot : tu.tgot = []

theorem Quiet.counters (quiet : tu.Quiet) : tu.Counters 0 := by
  have free := held_idle quiet.idle
  refine ⟨?_, ?_, quiet.head.le, fun _ => quiet.head, ?_, ?_⟩
  · rw [quiet.empty, free]
    rfl
  · rw [free]
    exact Nat.zero_le _
  · rw [← quiet.tail]
    exact Nat.mod_eq_of_lt quiet.head
  · intro checked
    exact ReadPhase.noConfusion (quiet.idle.symm.trans checked)

theorem Quiet.story (quiet : tu.Quiet) : tu.Story 0 [] 0 := by
  rw [Story, treads, reads, quiet.got, quiet.tgot]
  split
  · exact ⟨rfl, rfl⟩
  · exact ⟨rfl, rfl⟩

/-- The counters describe a ring all along a run; without PARAMS and overruns, what was read and what is queued
    tells every event and all ticks. -/
def Conserved (tu : SndTimerUser) (ops : List UserOp) : Prop :=
  Throughout exec (fun s _ s' => s.Sound ∧ s'.Sound) tu ops ∧
    ((∀ op ∈ ops, op.isParams = false) → (ops.foldl exec tu).overrun = 0 →
      ∃ k, (ops.foldl exec tu).Counters k ∧ (ops.foldl exec tu).Story k (eventsOf tu ops) (ticksOf tu ops))

theorem user_queue_conserved (tu : SndTimerUser) (ops : List UserOp) (quiet : tu.Quiet)
    (proper : Throughout exec (fun s op _ => s.Proper op) tu ops) : tu.Conserved ops := by
  have inv : tu.Inv := ⟨quiet.size, fun _ => ⟨0, quiet.counters⟩⟩
  refine ⟨?_, ?_⟩
  · apply Throughout.steps Inv inv proper
    intro s op inv proper
    have next := inv.exec op proper
    exact ⟨⟨inv.sound, next.sound⟩, next⟩
  · intro others none
    obtain ⟨k, advance⟩ := advance_run quiet.size quiet.counters ops proper others
    have story := advance.story [] 0 none quiet.story
    rw [List.nil_append, Nat.zero_add] at story
    exact ⟨k, advance.counters, story⟩

def opened : SndTimerUser :=
  { tread := true, queueSize := 128, qhead := 0, qtail := 0, qused := 0, queue := fun _ => ⟨0, 0⟩,
    tqueue := fun _ => ⟨0, (0, 0), 0⟩, lastResolution := 0, filter := 6, overrun := 0, phase := .idle, resizing := 0,
    got := [], tgot := [] }

theorem opened_quiet : opened.Quiet := ⟨by decide, rfl, by decide, rfl, rfl, rfl, rfl, rfl⟩

instance (tu : SndTimerUser) : (op : UserOp) → Decidable (tu.Proper op)
  | .readCopy fault => inferInstanceAs (Decidable (tu.phase = .checked → fault = false))
  | .paramsReset => inferInstanceAs (Decidable (tu.resizing ≠ 0 → tu.phase = .idle))
  | .paramsEarly => inferInstanceAs (Decidable (tu.resizing = 0 → tu.tread = false →
      tu.qused < tu.queueSize ∧ tu.qtail + 1 < tu.queueSize))
  | .callback _ resolution ticks => inferInstanceAs (Decidable (if tu.tread then
      tu.filter.testBit SNDRV_TIMER_EVENT_TICK = true → ticks < 2 ^ 32 ∧
        (ticks ≠ 0 → ¬ tu.news resolution → 0 < tu.qused → (tu.tqueue tu.prev).event = SNDRV_TIMER_EVENT_TICK →
          tu.held < tu.qused ∧ (tu.tqueue tu.prev).val + ticks < 2 ^ 32)
    else
      ticks < 2 ^ 32 ∧ (0 < tu.qused → (tu.queue tu.prev).resolution = resolution →
        (ticks ≠ 0 → tu.held < tu.qused) ∧ (tu.queue tu.prev).ticks + ticks < 2 ^ 32)))
  | .ccallback _ _ _ | .paramsQueue _ _ _ _ | .paramsFilter _ | .readCheck | .readWrap | .readNext _ => .isTrue trivial

theorem user_queue_conserved_read : opened.Conserved
    [.callback (1, 0) 100 1, .ccallback .start (2, 0) 100, .callback (3, 0) 100 1, .readCheck, .readCopy false,
      .callback (4, 0) 100 2, .readWrap, .readNext false] :=
  user_queue_conserved _ _ opened_quiet (by decide +kernel)

instance (entries events : List SndTimerTread) (ticks : Nat) : Decidable (Tells entries events ticks) :=
  inferInstanceAs (Decidable (_ ∧ _))

instance (tu : SndTimerUser) (k : Nat) (events : List SndTimerTread) (ticks : Nat) : Decidable (tu.Story k events ticks) :=
  inferInstanceAs (Decidable (if tu.tread then Tells (tu.treads k) events ticks
    else events = [] ∧ ((tu.reads k).map SndTimerRead.ticks).sum = ticks))

/-- Ticks that are added to an entry after the reader has copied it are lost. -/
theorem merged_after_copy : ¬ ∀ (tu : SndTimerUser) (ops : List UserOp), tu.Quiet → tu.Conserved ops := by
  intro all
  have conserved := all opened [.callback (1, 0) 100 1, .readCheck, .readCopy false, .callback (2, 0) 100 1, .readWrap,
    .readNext false] opened_quiet
  obtain ⟨k, counters, story⟩ := conserved.2 (by decide) (by decide +kernel)
  have used := counters.used
  have none : k = 0 := by
    cases k with
    | zero => rfl
    | succ k =>
      change (0 : Int) = ((k + 1 : Nat) : Int) + (0 : Nat) at used
      omega
  rw [none] at story
  exact absurd story (by decide +kernel)

end SndTimerUser

end AlsaDriver.Timer
