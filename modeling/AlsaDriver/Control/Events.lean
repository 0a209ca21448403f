import Mathlib.Data.List.Nodup
import AlsaDriver.Control.Identity

namespace AlsaDriver.Control

open Runs

def maskOf (log : List SndKctlEvent) (id : SndCtlElemId) : BitVec 32 :=
  ((log.filter fun ev => ev.id = id).map SndKctlEvent.mask).foldl (· ||| ·) 0

structure Accurate (queue log : List SndKctlEvent) : Prop where
  once : (queue.map SndKctlEvent.id).Nodup
  same : ∀ id, id ∈ queue.map SndKctlEvent.id ↔ id ∈ log.map SndKctlEvent.id
  mask : ∀ ev ∈ queue, ev.mask = maskOf log ev.id

def Unmixed (ids : List SndCtlElemId) (id : SndCtlElemId) : Prop := ∀ other ∈ ids, other.numid = id.numid → other = id

instance (ids : List SndCtlElemId) (id : SndCtlElemId) : Decidable (Unmixed ids id) :=
  inferInstanceAs (Decidable (∀ other ∈ ids, other.numid = id.numid → other = id))

section Queue

variable {queue log : List SndKctlEvent} {mask : BitVec 32} {id : SndCtlElemId}

theorem accurate_nil : Accurate [] [] := ⟨.nil, fun _ => Iff.rfl, fun _ inside => absurd inside List.not_mem_nil⟩

theorem maskOf_append (log : List SndKctlEvent) (ev : SndKctlEvent) (id : SndCtlElemId) :
    maskOf (log ++ [ev]) id = if ev.id = id then maskOf log id ||| ev.mask else maskOf log id := by
  rw [maskOf, maskOf, List.filter_append, List.map_append, List.foldl_append]
  by_cases same : ev.id = id
  · rw [if_pos same, List.filter_cons_of_pos (by simpa using same)]
    rfl
  · rw [if_neg same, List.filter_cons_of_neg (by simpa using same)]
    rfl

theorem maskOf_absent (absent : id ∉ log.map SndKctlEvent.id) : maskOf log id = 0 := by
  have none_ : log.filter (fun ev => ev.id = id) = [] := by
    apply List.filter_eq_nil_iff.mpr
    intro ev inside same
    exact absent (List.mem_map.mpr ⟨ev, inside, by simpa using same⟩)
  rw [maskOf, none_]
  rfl

theorem queueEvent_new (unmixed : Unmixed (queue.map SndKctlEvent.id) id) (new : id ∉ queue.map SndKctlEvent.id) :
    queueEvent mask id queue = queue ++ [⟨id, mask⟩] := by
  induction queue with
  | nil => rfl
  | cons ev rest ih =>
    obtain ⟨first, later⟩ := List.forall_mem_cons.mp unmixed
    rw [List.map_cons, List.mem_cons, not_or] at new
    rw [queueEvent, if_neg fun same => new.1 (first same).symm, ih later new.2, List.cons_append]

theorem queueEvent_old (mask : BitVec 32) (unmixed : Unmixed (queue.map SndKctlEvent.id) id) (once : (queue.map SndKctlEvent.id).Nodup)
    (old : id ∈ queue.map SndKctlEvent.id) :
    (queueEvent mask id queue).map SndKctlEvent.id = queue.map SndKctlEvent.id ∧
      ∀ ev ∈ queueEvent mask id queue, ∃ before ∈ queue, before.id = ev.id ∧
        ev.mask = if id = ev.id then before.mask ||| mask else before.mask := by
  induction queue with
  | nil => exact absurd old List.not_mem_nil
  | cons ev rest ih =>
    obtain ⟨first, later⟩ := List.forall_mem_cons.mp unmixed
    obtain ⟨fresh, others⟩ := List.nodup_cons.mp once
    rw [queueEvent]
    by_cases here : ev.id.numid = id.numid
    · have same := first here
      rw [if_pos here]
      refine ⟨rfl, List.forall_mem_cons.mpr ⟨⟨ev, List.mem_cons_self, rfl, (if_pos same.symm).symm⟩, ?_⟩⟩
      intro other inside
      refine ⟨other, List.mem_cons_of_mem _ inside, rfl, (if_neg ?_).symm⟩
      intro equal
      exact fresh (List.mem_map.mpr ⟨other, inside, equal.symm.trans same.symm⟩)
    · have other : ev.id ≠ id := fun same => here (congrArg SndCtlElemId.numid same)
      have behind : id ∈ rest.map SndKctlEvent.id := by
        rcases List.mem_cons.mp old with same | behind
        · exact absurd same.symm other
        · exact behind
      obtain ⟨ids, entries⟩ := ih later others behind
      rw [if_neg here, List.map_cons, List.map_cons, ids]
      refine ⟨rfl, List.forall_mem_cons.mpr ⟨⟨ev, List.mem_cons_self, rfl, (if_neg other.symm).symm⟩, ?_⟩⟩
      intro entry inside
      obtain ⟨before, there, same, masks⟩ := entries entry inside
      exact ⟨before, List.mem_cons_of_mem _ there, same, masks⟩

theorem Accurate.notify (accurate : Accurate queue log) (unmixed : Unmixed (queue.map SndKctlEvent.id) id) :
    Accurate (queueEvent mask id queue) (log ++ [⟨id, mask⟩]) := by
  have logged (other : SndCtlElemId) :
      other ∈ (log ++ [⟨id, mask⟩] : List SndKctlEvent).map SndKctlEvent.id ↔ other ∈ queue.map SndKctlEvent.id ∨ other = id := by
    rw [List.map_append, List.mem_append, accurate.same other]
    simp
  by_cases old : id ∈ queue.map SndKctlEvent.id
  · obtain ⟨ids, entries⟩ := queueEvent_old mask unmixed accurate.once old
    refine ⟨ids ▸ accurate.once, fun other => ?_, fun ev inside => ?_⟩
    · rw [ids, logged]
      exact ⟨Or.inl, fun either => either.elim (fun inside => inside) fun same => same ▸ old⟩
    · obtain ⟨before, there, same, masks⟩ := entries ev inside
      rw [masks, maskOf_append, accurate.mask before there, same]
  · rw [queueEvent_new unmixed old]
    have unlogged : id ∉ log.map SndKctlEvent.id := fun inside => old ((accurate.same id).mpr inside)
    refine ⟨?_, fun other => ?_, fun ev inside => ?_⟩
    · rw [List.map_append, List.map_singleton]
      exact List.Nodup.append accurate.once (List.nodup_singleton _) (by simpa using old)
    · rw [logged, List.map_append, List.mem_append, List.map_singleton, List.mem_singleton]
    · rw [maskOf_append]
      rcases List.mem_append.mp inside with before | last
      · have other : id ≠ ev.id := by
          intro same
          exact old (same ▸ List.mem_map_of_mem before)
        rw [if_neg other, accurate.mask ev before]
      · rw [List.mem_singleton.mp last, if_pos rfl, maskOf_absent unlogged]
        exact BitVec.zero_or.symm

theorem Accurate.notifyElems (accurate : Accurate queue log) {k : SndKcontrol} {count : Nat} (few : count ≤ k.count)
    (unmixed : ∀ i < k.count, Unmixed (queue.map SndKctlEvent.id) (k.elem i)) :
    Accurate ((List.range count).foldl (fun queue i => queueEvent mask (k.elem i) queue) queue)
      (log ++ (List.range count).map fun i => ⟨k.elem i, mask⟩) := by
  induction count with
  | zero =>
    rw [List.range_zero, List.map_nil, List.append_nil]
    exact accurate
  | succ count ih =>
    have before := ih (Nat.le_of_succ_le few)
    rw [List.range_succ, List.foldl_append, List.map_append, ← List.append_assoc]
    apply before.notify
    intro other inside numid
    have logged := (before.same other).mp inside
    rw [List.map_append, List.mem_append, ← accurate.same] at logged
    rcases logged with old | new
    · exact unmixed count few other old numid
    · obtain ⟨ev, there, rfl⟩ := List.mem_map.mp new
      obtain ⟨i, low, rfl⟩ := List.mem_map.mp there
      have below : i < count := List.mem_range.mp low
      have limit := k.counted.2
      have numbers := congrArg BitVec.toNat numid
      rw [SndKcontrol.elem_numid (by omega), SndKcontrol.elem_numid few] at numbers
      rw [MAX_CONTROL_COUNT] at limit
      omega

end Queue

def SndKcontrol.elemEvents (k : SndKcontrol) (mask : BitVec 32) : List SndKctlEvent :=
  (List.range k.count).map fun i => ⟨k.elem i, mask⟩

namespace SndCard

variable (card : SndCard) (file : Nat)

def queueIds : List SndCtlElemId := ((card.files[file]?.map SndCtlFile.events).getD []).map SndKctlEvent.id

def addOccurs (k : SndKcontrol) : List SndKctlEvent :=
  match sndCtlFindHole card.controls k.len card.lastNumid with
  | (false, _) => []
  | (true, last) => (k.setNumid (last + 1)).elemEvents SNDRV_CTL_EVENT_MASK_ADD

def removeOccurs (place : Nat) : List SndKctlEvent :=
  match card.controls[place]? with
  | none => []
  | some k => k.elemEvents SNDRV_CTL_EVENT_MASK_REMOVE

def written (id : SndCtlElemId) : Option SndKcontrol :=
  (sndCtlFindId card.controls id).bind fun place => card.controls[place]?

def occurs : CtlOp → List SndKctlEvent
  | .add k =>
    match sndCtlFindId card.controls k.id with
    | some _ => []
    | none => card.addOccurs k
  | .replace k addOnReplace =>
    match sndCtlFindId card.controls k.id with
    | none => if addOnReplace then card.addOccurs k else []
    | some old => card.removeOccurs old ++ (card.sndCtlRemove old).addOccurs k
  | .remove place => card.removeOccurs place
  | .elemWrite id changed =>
    match card.written id with
    | none => []
    | some k => if changed then [⟨k.buildIoff (k.getIoff id), SNDRV_CTL_EVENT_MASK_VALUE⟩] else []
  | .notify mask place idx _ =>
    match card.controls[place]? with
    | none => []
    | some k => [⟨k.elem idx, mask⟩]
  | .renameId _ _ | .subscribe _ _ | .drain _ => []

def NamesAdded (k : SndKcontrol) : Prop :=
  ∀ last, sndCtlFindHole card.controls k.len card.lastNumid = (true, last) →
    k.id.numid = last + 1 ∧ ∀ i < k.count, Unmixed (card.queueIds file) (k.elem i)

def NamesRemoved (place : Nat) : Prop :=
  ∀ k, card.controls[place]? = some k → ∀ i < k.count, Unmixed (card.queueIds file) (k.elem i)

/-- The ids that an operation passes to the queue are those of the elements, and no numid is queued
    for another element. -/
def NamesRight : CtlOp → Prop
  | .add k => sndCtlFindId card.controls k.id = none → card.NamesAdded file k
  | .replace k addOnReplace =>
    (sndCtlFindId card.controls k.id = none → addOnReplace = true → card.NamesAdded file k) ∧
      ∀ old, sndCtlFindId card.controls k.id = some old →
        card.NamesRemoved file old ∧ (card.sndCtlRemove old).NamesAdded file k
  | .remove place => card.NamesRemoved file place
  | .elemWrite id changed => ∀ k, card.written id = some k → changed = true →
    Unmixed (card.queueIds file) (k.buildIoff (k.getIoff id))
  | .notify _ place idx id => ∃ k, card.controls[place]? = some k ∧ idx < k.count ∧ id = k.elem idx ∧
    Unmixed (card.queueIds file) id
  | .renameId _ _ | .subscribe _ _ | .drain _ => True

def restarts : CtlOp → Bool
  | .drain drained => drained == file
  | .subscribe other _ => other == file && !(card.files[file]?.map SndCtlFile.subscribed).getD false
  | _ => false

end SndCard

structure Watch where
  card : SndCard
  log : List SndKctlEvent

def Watch.exec (file : Nat) (w : Watch) (op : CtlOp) : Watch where
  card := w.card.exec op
  log := if w.card.restarts file op then [] else w.log ++ w.card.occurs op

def Watch.Faithful (file : Nat) (w : Watch) : Prop :=
  ∀ f, w.card.files[file]? = some f → f.subscribed = true → Accurate f.events w.log

theorem SndCtlFile.notify_on (f : SndCtlFile) {mask : BitVec 32} {id : SndCtlElemId} (on : f.subscribed = true) :
    f.notify mask id = ⟨true, queueEvent mask id f.events⟩ := by
  rw [SndCtlFile.notify, if_pos on, on]

theorem SndCtlFile.notify_off (f : SndCtlFile) {mask : BitVec 32} {id : SndCtlElemId} (off : f.subscribed = false) :
    f.notify mask id = f := by
  rw [SndCtlFile.notify, off]
  rfl

structure Listening (log : List SndKctlEvent) (f : SndCtlFile) : Prop where
  heard : f.subscribed = true → Accurate f.events log
  quiet : f.subscribed = false → f.events = []

namespace Listening

variable {f : SndCtlFile} {log : List SndKctlEvent} {mask : BitVec 32} {id : SndCtlElemId} {k : SndKcontrol}

theorem notify (listening : Listening log f) (unmixed : Unmixed (f.events.map SndKctlEvent.id) id) :
    Listening (log ++ [⟨id, mask⟩]) (f.notify mask id) := by
  cases on : f.subscribed with
  | false =>
    rw [f.notify_off on]
    exact ⟨fun heard => absurd (on.symm.trans heard) (by decide), listening.quiet⟩
  | true =>
    rw [f.notify_on on]
    exact ⟨fun _ => (listening.heard on).notify unmixed, fun quiet => by cases quiet⟩

theorem notifyElems (listening : Listening log f)
    (unmixed : ∀ i < k.count, Unmixed (f.events.map SndKctlEvent.id) (k.elem i)) :
    Listening (log ++ k.elemEvents mask) ((List.range k.count).foldl (fun f i => f.notify mask (k.elem i)) f) := by
  cases on : f.subscribed with
  | false =>
    have folded (l : List Nat) : l.foldl (fun f i => f.notify mask (k.elem i)) f = f := by
      induction l with
      | nil => rfl
      | cons i rest ih => rw [List.foldl_cons, f.notify_off on, ih]
    rw [folded]
    exact ⟨fun heard => absurd (on.symm.trans heard) (by decide), listening.quiet⟩
  | true =>
    have folded (l : List Nat) (f : SndCtlFile) (on : f.subscribed = true) : l.foldl (fun f i => f.notify mask (k.elem i)) f =
        ⟨true, l.foldl (fun queue i => queueEvent mask (k.elem i) queue) f.events⟩ := by
      induction l generalizing f with
      | nil => rw [List.foldl_nil, List.foldl_nil, ← on]
      | cons i rest ih => rw [List.foldl_cons, List.foldl_cons, f.notify_on on, ih _ rfl]
    rw [folded _ f on]
    exact ⟨fun _ => (listening.heard on).notifyElems (Nat.le_refl _) unmixed, fun quiet => by cases quiet⟩

end Listening

def SndCard.Hears (card : SndCard) (file : Nat) (log : List SndKctlEvent) : Prop :=
  ∀ f, card.files[file]? = some f → Listening log f

namespace SndCard

variable {card : SndCard} {file : Nat} {log : List SndKctlEvent} {mask : BitVec 32}

theorem files_notifyElems (card : SndCard) (mask : BitVec 32) (id : SndCtlElemId) (count : Nat) :
    (card.notifyElems mask id count).files =
      card.files.map fun f => (List.range count).foldl (fun f i => f.notify mask (id.offset (BitVec.ofNat 32 i))) f := by
  rw [notifyElems]
  induction count with
  | zero => exact (List.map_id _).symm
  | succ count ih =>
    rw [List.range_succ, List.foldl_append]
    show List.map _ _ = _
    rw [ih, List.map_map]
    congr 1
    funext f
    rw [List.foldl_append]
    rfl

theorem unmixed_queue {f : SndCtlFile} (here : card.files[file]? = some f) {id : SndCtlElemId} :
    Unmixed (card.queueIds file) id ↔ Unmixed (f.events.map SndKctlEvent.id) id := by
  rw [queueIds, here]
  exact Iff.rfl

theorem Hears.notify (hears : card.Hears file log) {id : SndCtlElemId} (unmixed : Unmixed (card.queueIds file) id) :
    (card.sndCtlNotify mask id).Hears file (log ++ [⟨id, mask⟩]) := by
  intro f there
  obtain ⟨before, here, rfl⟩ := Option.map_eq_some_iff.mp ((List.getElem?_map ..).symm.trans there)
  exact (hears before here).notify ((unmixed_queue here).mp unmixed)

theorem Hears.notifyElems (hears : card.Hears file log) {k : SndKcontrol}
    (unmixed : ∀ i < k.count, Unmixed (card.queueIds file) (k.elem i)) :
    (card.notifyElems mask k.id k.count).Hears file (log ++ k.elemEvents mask) := by
  intro f there
  rw [files_notifyElems] at there
  obtain ⟨before, here, rfl⟩ := Option.map_eq_some_iff.mp ((List.getElem?_map ..).symm.trans there)
  exact (hears before here).notifyElems fun i below => (unmixed_queue here).mp (unmixed i below)

theorem setNumid_self {k : SndKcontrol} {n : BitVec 32} (same : k.id.numid = n) : k.setNumid n = k := by
  subst same
  rfl

theorem Hears.addTail (hears : card.Hears file log) {k : SndKcontrol} (names : card.NamesAdded file k) :
    (card.addTail k).2.Hears file (log ++ card.addOccurs k) := by
  rw [SndCard.addTail, addOccurs]
  cases hole : sndCtlFindHole card.controls k.len card.lastNumid with
  | mk found last =>
    cases found with
    | false =>
      rw [List.append_nil]
      exact hears
    | true =>
      obtain ⟨numid, unmixed⟩ := names last hole
      dsimp only
      rw [setNumid_self numid]
      apply Hears.notifyElems
      · exact hears
      · exact unmixed

theorem Hears.remove (hears : card.Hears file log) {place : Nat} (names : card.NamesRemoved file place) :
    (card.sndCtlRemove place).Hears file (log ++ card.removeOccurs place) := by
  rw [sndCtlRemove, removeOccurs]
  cases here : card.controls[place]? with
  | none =>
    rw [List.append_nil]
    exact hears
  | some k =>
    apply Hears.notifyElems
    · exact hears
    · exact names k here

theorem Hears.congr {card' : SndCard} (hears : card.Hears file log) (same : card'.files[file]? = card.files[file]?) :
    card'.Hears file log := by
  intro f there
  exact hears f (same ▸ there)

theorem Hears.subscribe (hears : card.Hears file log) (other : Nat) (on : Bool) :
    (card.sndCtlSubscribeEvents other on).Hears file (if card.restarts file (.subscribe other on) then [] else log) := by
  intro f there
  rw [sndCtlSubscribeEvents, List.getElem?_modify] at there
  obtain ⟨before, here, same⟩ := Option.map_eq_some_iff.mp there
  have listening := hears before here
  rw [restarts, here]
  by_cases mine : other = file
  · rw [if_pos mine] at same
    subst same
    cases was : before.subscribed with
    | false =>
      have empty := listening.quiet was
      rw [if_pos (by simp [mine, was])]
      cases on with
      | false => exact ⟨fun heard => by simp [was] at heard, fun _ => by simpa using empty⟩
      | true => exact ⟨fun _ => empty ▸ accurate_nil, fun quiet => by cases quiet⟩
    | true =>
      rw [if_neg (by simp [was])]
      cases on with
      | false => exact ⟨fun heard => by simp at heard, fun _ => by simp⟩
      | true => exact ⟨fun _ => listening.heard was, fun quiet => by cases quiet⟩
  · rw [if_neg mine] at same
    subst same
    rw [if_neg (by simp [mine])]
    exact listening

theorem Hears.drain (hears : card.Hears file log) (other : Nat) :
    (card.exec (.drain other)).Hears file (if card.restarts file (.drain other) then [] else log) := by
  intro f there
  rw [exec, sndCtlRead, List.getElem?_modify] at there
  obtain ⟨before, here, same⟩ := Option.map_eq_some_iff.mp there
  have listening := hears before here
  rw [restarts]
  by_cases mine : other = file
  · rw [if_pos mine, mine, here] at same
    subst same
    rw [if_pos (by simpa using mine)]
    cases was : before.subscribed with
    | false => exact ⟨fun heard => by simp [was] at heard, fun _ => by simpa [was] using listening.quiet was⟩
    | true =>
      refine ⟨fun _ => ?_, fun quiet => by simp at quiet⟩
      have empty : before.events.drop before.events.length = [] := List.drop_length
      simpa [was, empty] using accurate_nil
  · rw [if_neg mine] at same
    subst same
    rw [if_neg (by simpa using mine)]
    exact listening

theorem exec_hears (hears : card.Hears file log) {op : CtlOp} (names : card.NamesRight file op) :
    (card.exec op).Hears file (if card.restarts file op then [] else log ++ card.occurs op) := by
  cases op with
  | add k =>
    show (card.sndCtlAdd k).2.Hears file (log ++ card.occurs (.add k))
    rw [sndCtlAdd, occurs]
    cases found : sndCtlFindId card.controls k.id with
    | some place =>
      rw [List.append_nil]
      exact hears
    | none => exact hears.addTail (names found)
  | replace k addOnReplace =>
    show (card.sndCtlReplace k addOnReplace).2.Hears file (log ++ card.occurs (.replace k addOnReplace))
    rw [sndCtlReplace, occurs]
    cases found : sndCtlFindId card.controls k.id with
    | none =>
      cases addOnReplace with
      | false =>
        show card.Hears file (log ++ [])
        rw [List.append_nil]
        exact hears
      | true => exact hears.addTail (names.1 found rfl)
    | some old =>
      obtain ⟨removed, added⟩ := names.2 old found
      dsimp only
      rw [← List.append_assoc]
      exact (hears.remove removed).addTail added
  | remove place => exact hears.remove names
  | renameId srcId dstId =>
    show (card.sndCtlRenameId srcId dstId).2.Hears file (log ++ [])
    rw [List.append_nil, sndCtlRenameId]
    cases sndCtlFindId card.controls srcId with
    | none => exact hears
    | some place =>
      dsimp only
      cases card.controls[place]? with
      | none => exact hears
      | some k => exact hears.congr rfl
  | elemWrite id changed =>
    show (card.sndCtlElemWrite id changed).Hears file (log ++ card.occurs (.elemWrite id changed))
    rw [sndCtlElemWrite, ← written, occurs]
    cases found : card.written id with
    | none =>
      rw [List.append_nil]
      exact hears
    | some k =>
      cases changed with
      | false =>
        show card.Hears file (log ++ [])
        rw [List.append_nil]
        exact hears
      | true => exact hears.notify (names k found rfl)
  | notify mask place idx id =>
    obtain ⟨k, here, -, rfl, unmixed⟩ := names
    show (card.sndCtlNotify mask (k.elem idx)).Hears file (log ++ card.occurs (.notify mask place idx (k.elem idx)))
    rw [occurs, here]
    exact hears.notify unmixed
  | subscribe other on =>
    rw [occurs, List.append_nil]
    exact hears.subscribe other on
  | drain other =>
    rw [occurs, List.append_nil]
    exact hears.drain other

end SndCard

/-- While all names are right, the queue of a file tells what happened since it was empty. -/
theorem events_faithful {card : SndCard} {file : Nat} {ops : List CtlOp}
    (drained : ∀ f, card.files[file]? = some f → f.events = [])
    (run : Throughout (Watch.exec file) (fun w op _ => w.card.NamesRight file op) ⟨card, []⟩ ops) :
    Throughout (Watch.exec file) (fun _ _ w => w.Faithful file) ⟨card, []⟩ ops := by
  have start : card.Hears file [] := by
    intro f here
    have empty := drained f here
    exact ⟨fun _ => empty ▸ accurate_nil, fun _ => empty⟩
  have kept := run.invariant (fun w : Watch => w.card.Hears file w.log) start
    fun w op hears names => SndCard.exec_hears hears names
  apply kept.mono
  rintro w op w' ⟨-, -, hears⟩
  exact fun f here => (hears f here).heard

def listened : SndCard := ⟨[], 0, [⟨true, []⟩]⟩

theorem events_faithful_listened : Throughout (Watch.exec 0) (fun _ _ w => w.Faithful 0) ⟨listened, []⟩
    [.add ((control 0 2 counted_two).setNumid 1), .remove 0] := by
  apply events_faithful
  · intro f here
    cases here
    rfl
  · refine ⟨fun _ last found => ?_, fun k here i below => ?_, trivial⟩
    · cases found
      exact ⟨rfl, fun i _ other inside => absurd inside List.not_mem_nil⟩
    · cases here
      have low : i = 0 ∨ i = 1 := by
        have few : i < 2 := below
        omega
      rcases low with rfl | rfl <;> decide

/-- Two controls are added, and one entry with numid 0 is all that the queue has of them. -/
theorem events_merged :
    ¬ Throughout (Watch.exec 0) (fun _ _ w => w.Faithful 0) ⟨listened, []⟩
        [.add (control 0 1 counted_one), .add (control 5 1 counted_one)] ∧
      (([CtlOp.add (control 0 1 counted_one), .add (control 5 1 counted_one)].foldl SndCard.exec listened).files.map
        fun f => f.events) = [[⟨(control 0 1 counted_one).id, SNDRV_CTL_EVENT_MASK_ADD⟩]] := by
  constructor
  · rintro ⟨-, faithful, -⟩
    have accurate := faithful _ rfl rfl
    have there := (accurate.same ((control 5 1 counted_one).setNumid 2).id).mpr (by decide)
    exact absurd there (by decide)
  · decide

end AlsaDriver.Control
