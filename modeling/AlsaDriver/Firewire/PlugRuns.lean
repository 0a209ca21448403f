import AlsaDriver.Firewire.Cmp

namespace AlsaDriver.Firewire

open Runs

def FreePlug (ipcr : BitVec 32) (own : Bool) : Prop :=
  ipcr &&& IPCR_ONLINE ≠ 0 ∧ ipcr &&& IPCR_BCAST_CONN = 0 ∧ p2pConnections ipcr ≤ own.toNat

instance (ipcr : BitVec 32) (own : Bool) : Decidable (FreePlug ipcr own) := inferInstanceAs (Decidable (_ ∧ _))

theorem masked {ipcr whole part : BitVec 32} (none : ipcr &&& whole = 0) (inside : whole &&& part = part) :
    ipcr &&& part = 0 := by
  rw [← inside, ← BitVec.and_assoc, none]
  exact BitVec.zero_and

theorem set_check_free {ipcr : BitVec 32} (accepted : ¬ pcrCheck .establish ipcr < 0) : FreePlug ipcr false := by
  unfold pcrCheck ipcrSetCheck at accepted
  rw [if_neg CmpCall.noConfusion] at accepted
  split at accepted
  · exact absurd (by decide : - EBUSY < 0) accepted
  · rename_i unused
    split at accepted
    · exact absurd (by decide : - ECONNREFUSED < 0) accepted
    · rename_i online
      have none := not_not.mp unused
      refine ⟨online, masked none (by decide), ?_⟩
      rw [p2pConnections, masked none (by decide)]
      decide

namespace Cmp

variable (s : Cmp)

def Respects : Prop :=
  (s.finished = some (.establish, 0) → ∃ ipcr own, s.replaced = some (ipcr, own) ∧ FreePlug ipcr own) ∧
    ∀ err < 0, s.finished = some (.establish, err) → s.made = false

/-- A swap of establish does not use a cached value that is that of a plug in use, and the response of one that was
    carried out is not lost, unless a bus reset follows before the next attempt. -/
def Careful : CmpOp → Prop
  | .lock locked =>
    match s.control with
    | .swapping .establish _ old errors cached => s.cardGeneration = s.conn.resources.generation →
        s.made = false ∧ (locked = .respond → cached = true → s.ipcr = old → FreePlug s.ipcr s.own) ∧
          (locked = .lose true → s.ipcr = old → errors + 1 < 3)
    | _ => True
  | _ => True

def Unmade : CmpControl → Prop
  | .allocating _ | .reading _ | .waiting _ | .managing _ | .freeing (.retry _) => s.made = false
  | .freeing (.fail .establish err) => s.made = false ∧ err < 0
  | .swapping .establish _ old _ cached => cached = false → FreePlug old false
  | _ => True

structure Guarded : Prop where
  place : s.Unmade s.control
  present : s.made = true → s.cardGeneration = s.conn.resources.generation
  quiet : s.control ≠ .idle → s.finished = none
  respects : s.Respects

variable {s}

theorem respects_other {call : CmpCall} {result : Int} (finished : s.finished = some (call, result))
    (other : call ≠ .establish) : s.Respects := by
  have none (err : Int) : s.finished ≠ some (.establish, err) := by
    intro same
    rw [finished] at same
    exact other (Prod.mk.inj (Option.some.inj same)).1
  exact ⟨fun same => absurd same (none 0), fun err _ same => absurd same (none err)⟩

theorem respects_failed {result : Int} (finished : s.finished = some (.establish, result)) (failed : result < 0)
    (unmade : s.made = false) : s.Respects := by
  refine ⟨?_, fun _ _ _ => unmade⟩
  intro same
  rw [finished] at same
  have := (Prod.mk.inj (Option.some.inj same)).2
  omega

theorem respects_running (running : s.finished = none) : s.Respects := by
  have none (err : Int) : s.finished ≠ some (.establish, err) := by
    rw [running]
    exact (Option.some_ne_none _).symm
  exact ⟨fun same => absurd same (none 0), fun err _ same => absurd same (none err)⟩

theorem guarded_running (running : s.finished = none) (place : s.Unmade s.control)
    (present : s.made = true → s.cardGeneration = s.conn.resources.generation) : s.Guarded :=
  ⟨place, present, fun _ => running, respects_running running⟩

theorem guarded_idle (idle : s.control = .idle)
    (present : s.made = true → s.cardGeneration = s.conn.resources.generation) (respects : s.Respects) : s.Guarded := by
  refine ⟨?_, present, fun busy => absurd idle busy, respects⟩
  rw [idle]
  trivial

section plug

variable {call : CmpCall} {payload : Nat}

theorem Guarded.at (guarded : s.Guarded) {control : CmpControl} (here : s.control = control) : s.Unmade control :=
  here ▸ guarded.place

theorem Guarded.establish (payload : Nat) : (s.cmpConnectionEstablish payload).Guarded := by
  unfold cmpConnectionEstablish
  dsimp only
  split
  · exact guarded_idle rfl (fun made => absurd made Bool.false_ne_true) (respects_failed rfl (by decide) rfl)
  · exact guarded_running rfl rfl fun made => absurd made Bool.false_ne_true

theorem Guarded.update (guarded : s.Guarded) : s.cmpConnectionUpdate.Guarded := by
  unfold cmpConnectionUpdate
  dsimp only
  split
  · exact guarded_idle rfl guarded.present (respects_other rfl CmpCall.noConfusion)
  · split
    · exact guarded_running rfl trivial guarded.present
    · exact guarded_running rfl trivial fun _ => rfl

theorem Guarded.breakConnection (guarded : s.Guarded) : s.cmpConnectionBreak.Guarded := by
  unfold cmpConnectionBreak
  dsimp only
  split
  · exact guarded_idle rfl guarded.present (respects_other rfl CmpCall.noConfusion)
  · exact guarded_running rfl trivial guarded.present

theorem Guarded.running (guarded : s.Guarded) {control : CmpControl} (here : s.control = control) (busy : control ≠ .idle) :
    s.finished = none :=
  guarded.quiet (here ▸ busy)

theorem Guarded.allocate (guarded : s.Guarded) (here : s.control = .allocating payload) :
    (s.fwIsoResourcesAllocate payload).Guarded := by
  have unmade : s.made = false := guarded.at here
  unfold fwIsoResourcesAllocate
  split
  · exact guarded_idle rfl guarded.present (respects_failed rfl (by decide) unmade)
  · exact guarded_running (guarded.running here CmpControl.noConfusion) unmade guarded.present

theorem Guarded.allocateManage (guarded : s.Guarded) (here : s.control = .managing payload) (managed : Managed) :
    (s.allocateManage payload managed).Guarded := by
  have unmade : s.made = false := guarded.at here
  have running := guarded.running here CmpControl.noConfusion
  unfold Cmp.allocateManage
  split
  · exact guarded_running running unmade guarded.present
  · cases managed with
    | channel channel =>
      exact guarded_running running (fun cached => absurd cached.symm Bool.false_ne_true) guarded.present
    | busy => exact guarded_idle rfl guarded.present (respects_failed rfl (by decide) unmade)
    | ioError => exact guarded_idle rfl guarded.present (respects_failed rfl (by decide) unmade)

theorem Guarded.updateManage (guarded : s.Guarded) (here : s.control = .updating) (managed : Managed) :
    (s.updateManage managed).Guarded := by
  unfold Cmp.updateManage
  split
  · exact guarded_idle rfl guarded.present (respects_other rfl CmpCall.noConfusion)
  · cases managed with
    | channel channel => exact guarded_running (guarded.running here CmpControl.noConfusion) trivial guarded.present
    | busy => exact guarded_idle rfl guarded.present (respects_other rfl CmpCall.noConfusion)
    | ioError => exact guarded_idle rfl guarded.present (respects_other rfl CmpCall.noConfusion)

theorem swapIf_results (done : Bool) (call : CmpCall) (old : BitVec 32) :
    (s.swapIf done call old).finished = s.finished ∧ (s.swapIf done call old).conn = s.conn ∧
      (s.swapIf done call old).cardGeneration = s.cardGeneration := by
  unfold swapIf
  split
  · exact ⟨rfl, rfl, rfl⟩
  · exact ⟨rfl, rfl, rfl⟩

theorem Guarded.establishTurn (guarded : s.Guarded) {old : BitVec 32} {errors : Nat} {cached : Bool}
    (here : s.control = .swapping .establish payload old errors cached) (locked : Locked)
    (careful : s.cardGeneration = s.conn.resources.generation →
      s.made = false ∧ (locked = .respond → cached = true → s.ipcr = old → FreePlug s.ipcr s.own) ∧
        (locked = .lose true → s.ipcr = old → errors + 1 < 3)) :
    (s.swapTurn .establish payload old errors cached locked).Guarded := by
  have checked : cached = false → FreePlug old false := guarded.at here
  have running := guarded.running here CmpControl.noConfusion
  unfold Cmp.swapTurn
  split
  · rename_i reset
    rw [if_pos rfl]
    have unmade : s.made = false := eq_false_of_ne_true fun made => reset (guarded.present made)
    exact guarded_running running unmade guarded.present
  · rename_i same
    have now := not_not.mp same
    obtain ⟨unmade, unused, answered⟩ := careful now
    cases locked with
    | respond =>
      dsimp only
      split
      · rename_i meets
        have free : FreePlug s.ipcr s.own := by
          cases cached with
          | true => exact unused rfl rfl meets
          | false =>
            obtain ⟨online, quiet, none⟩ := checked rfl
            rw [meets]
            exact ⟨online, quiet, Nat.le_trans none (Nat.zero_le _)⟩
        refine guarded_idle rfl (fun _ => now) ⟨fun _ => ⟨s.ipcr, s.own, rfl, free⟩, ?_⟩
        intro err failed finished
        have zero := (Prod.mk.inj (Option.some.inj finished)).2
        omega
      · split
        · rename_i refused
          exact guarded_running running ⟨unmade, refused⟩ guarded.present
        · rename_i accepted
          exact guarded_running running (fun _ => set_check_free accepted) guarded.present
    | lose done =>
      obtain ⟨finished, conn, generation⟩ := swapIf_results (s := s) done .establish old
      dsimp only
      split
      · rename_i last
        have idle : s.swapIf done .establish old = s := by
          unfold swapIf
          rw [if_neg]
          rintro ⟨rfl, meets⟩
          have := answered rfl meets
          omega
        rw [idle]
        exact guarded_running running ⟨unmade, by decide⟩ guarded.present
      · refine guarded_running (finished.trans running) checked fun _ => ?_
        show (s.swapIf done .establish old).cardGeneration = (s.swapIf done .establish old).conn.resources.generation
        rw [generation, conn]
        exact now
    | refuse => exact guarded_running running ⟨unmade, by decide⟩ guarded.present

theorem swap_made (other : call ≠ .establish) (old : BitVec 32) (made : (s.swap call old).made = true) : s.made = true := by
  unfold swap at made
  dsimp only at made
  rw [if_neg other] at made
  split at made
  · exact absurd made Bool.false_ne_true
  · exact made

theorem guarded_done (running : s.finished = none) (present : s.made = true → s.cardGeneration = s.conn.resources.generation)
    (other : call ≠ .establish) : (s.swapDone call).Guarded := by
  cases call with
  | establish => exact absurd rfl other
  | update => exact guarded_idle rfl present (respects_other rfl CmpCall.noConfusion)
  | breakConnection => exact guarded_running running trivial present

theorem guarded_swapFailed (running : s.finished = none) (present : s.made = true → s.cardGeneration = s.conn.resources.generation)
    (other : call ≠ .establish) (err : Int) : (s.swapFailed call err).Guarded := by
  cases call with
  | establish => exact absurd rfl other
  | update => exact guarded_running running trivial present
  | breakConnection => exact guarded_running running trivial present

theorem Guarded.otherTurn (guarded : s.Guarded) {old : BitVec 32} {errors : Nat} {cached : Bool}
    (here : s.control = .swapping call payload old errors cached) (other : call ≠ .establish) (locked : Locked) :
    (s.swapTurn call payload old errors cached locked).Guarded := by
  have running := guarded.running here CmpControl.noConfusion
  have place (t : Cmp) (old : BitVec 32) (errors : Nat) (cached : Bool) :
      t.Unmade (.swapping call payload old errors cached) := by
    cases call with
    | establish => exact absurd rfl other
    | update => trivial
    | breakConnection => trivial
  unfold Cmp.swapTurn
  split
  · exact guarded_done running guarded.present other
  · cases locked with
    | respond =>
      dsimp only
      split
      · exact guarded_done running (fun made => guarded.present (swap_made other old made)) other
      · split
        · exact guarded_swapFailed running guarded.present other _
        · exact guarded_running running (place _ _ _ _) guarded.present
    | lose done =>
      obtain ⟨finished, conn, generation⟩ := swapIf_results (s := s) done call old
      have present : (s.swapIf done call old).made = true →
          (s.swapIf done call old).cardGeneration = (s.swapIf done call old).conn.resources.generation := by
        rw [generation, conn]
        intro made
        apply guarded.present
        unfold swapIf at made
        split at made
        · exact swap_made other old made
        · exact made
      dsimp only
      split
      · exact guarded_swapFailed (finished.trans running) present other _
      · exact guarded_running (finished.trans running) (place _ _ _ _) present
    | refuse => exact guarded_swapFailed running guarded.present other _

theorem freed_frame : s.fwIsoResourcesFree.finished = s.finished ∧ s.fwIsoResourcesFree.made = s.made ∧
    s.fwIsoResourcesFree.cardGeneration = s.cardGeneration ∧
    s.fwIsoResourcesFree.conn.resources.generation = s.conn.resources.generation := by
  unfold fwIsoResourcesFree
  split
  · exact ⟨rfl, rfl, rfl, rfl⟩
  · exact ⟨rfl, rfl, rfl, rfl⟩

theorem Guarded.freeTurn (guarded : s.Guarded) {next : AfterFree} (here : s.control = .freeing next) :
    (s.freeTurn next).Guarded := by
  have running := guarded.running here CmpControl.noConfusion
  have place := guarded.at here
  obtain ⟨finished, made, generation, read⟩ := @freed_frame s
  have present : s.fwIsoResourcesFree.made = true →
      s.fwIsoResourcesFree.cardGeneration = s.fwIsoResourcesFree.conn.resources.generation := by
    rw [made, generation, read]
    exact guarded.present
  unfold Cmp.freeTurn
  cases next with
  | retry maxPayloadBytes => exact guarded_running (finished.trans running) (made.trans place) present
  | fail call err =>
    cases call with
    | establish => exact guarded_idle rfl present (respects_failed rfl place.2 (made.trans place.1))
    | update => exact guarded_idle rfl present (respects_other rfl CmpCall.noConfusion)
    | breakConnection => exact guarded_idle rfl present (respects_other rfl CmpCall.noConfusion)
  | finish => exact guarded_idle rfl present (respects_other rfl CmpCall.noConfusion)

theorem Guarded.fewer (guarded : s.Guarded) {t : Cmp} (control : t.control = s.control) (finished : t.finished = s.finished)
    (replaced : t.replaced = s.replaced) (fewer : s.made = false → t.made = false)
    (present : t.made = true → t.cardGeneration = t.conn.resources.generation) : t.Guarded := by
  refine ⟨?_, present, ?_, ?_, ?_⟩
  · have place := guarded.place
    rw [control]
    revert place
    unfold Unmade
    split
    · exact fewer
    · exact fewer
    · exact fewer
    · exact fewer
    · exact fewer
    · exact fun place => ⟨fewer place.1, place.2⟩
    · exact id
    · exact id
  · rw [control, finished]
    exact guarded.quiet
  · rw [finished, replaced]
    exact guarded.respects.1
  · intro err failed
    rw [finished]
    exact fun same => fewer (guarded.respects.2 err failed same)

theorem Guarded.exec (guarded : s.Guarded) (op : CmpOp) (careful : s.Careful op) : (s.exec op).Guarded := by
  cases op with
  | establish maxPayloadBytes =>
    rw [Cmp.exec]
    split
    · exact Guarded.establish maxPayloadBytes
    · exact guarded
  | update =>
    rw [Cmp.exec]
    split
    · exact guarded.update
    · exact guarded
  | breakConnection =>
    rw [Cmp.exec]
    split
    · exact guarded.breakConnection
    · exact guarded
  | proceed =>
    rw [Cmp.exec]
    split
    · rename_i maxPayloadBytes here
      exact guarded.allocate here
    · rename_i maxPayloadBytes here
      exact guarded_running (guarded.running here CmpControl.noConfusion) (guarded.at here) fun _ => rfl
    · rename_i next here
      exact guarded.freeTurn here
    · exact guarded
  | wait interrupted =>
    rw [Cmp.exec]
    split
    · rename_i maxPayloadBytes here
      have unmade : s.made = false := guarded.at here
      split
      · exact guarded_idle rfl guarded.present (respects_failed rfl (by decide) unmade)
      · exact guarded_running (guarded.running here CmpControl.noConfusion) unmade guarded.present
    · exact guarded
  | manage managed =>
    rw [Cmp.exec]
    split
    · rename_i maxPayloadBytes here
      exact guarded.allocateManage here managed
    · rename_i here
      exact guarded.updateManage here managed
    · exact guarded
  | lock locked =>
    rw [Cmp.exec]
    split
    · rename_i call maxPayloadBytes old errors cached here
      by_cases establish : call = .establish
      · subst establish
        apply guarded.establishTurn here locked
        unfold Careful at careful
        rw [here] at careful
        exact careful
      · exact guarded.otherTurn here establish locked
    · exact guarded
  | busReset => exact guarded.fewer rfl rfl rfl (fun _ => rfl) fun made => absurd made Bool.false_ne_true
  | foreign ipcr =>
    refine guarded.fewer rfl rfl rfl ?_ ?_
    · intro unmade
      show (s.made && _) = false
      rw [unmade, Bool.false_and]
    · intro made
      exact guarded.present (Bool.and_eq_true_iff.mp made).1

end plug

theorem Fresh.guarded (fresh : s.Fresh) (unmade : s.made = false) : s.Guarded :=
  guarded_idle fresh.idle (fun made => absurd (unmade.symm.trans made) Bool.false_ne_true) (respects_running fresh.first)

theorem plug_respected (s : Cmp) (ops : List CmpOp) (fresh : s.Fresh) (unmade : s.made = false)
    (careful : Throughout exec (fun s op _ => s.Careful op) s ops) :
    Throughout exec (fun s _ s' => s.Respects ∧ s'.Respects) s ops := by
  apply Throughout.steps Guarded (fresh.guarded unmade) careful
  intro s op guarded careful
  have next := guarded.exec op careful
  exact ⟨⟨guarded.respects, next.respects⟩, next⟩

theorem plug_respected_unused : Throughout exec (fun s _ s' => s.Respects ∧ s'.Respects) initial established := by
  apply plug_respected initial established initial_fresh rfl
  refine ⟨trivial, trivial, trivial, trivial, trivial, ?_, trivial⟩
  exact fun _ => ⟨rfl, fun _ _ _ => by decide +kernel, fun lost => Locked.noConfusion lost⟩

/-- An update fails after a bus reset, and another controller connects with the same channel before the next call of
    establish, the first swap of which uses the value of the old connection. -/
theorem stale_cache : ¬ ∀ (s : Cmp) (ops : List CmpOp), s.Fresh → s.made = false →
    Throughout exec (fun s _ s' => s.Respects ∧ s'.Respects) s ops := by
  intro all
  have run := all initial (established ++ [.busReset, .update, .manage .busy, .foreign (ipcrSetModify 3 IPCR_ONLINE)] ++
    established) initial_fresh rfl
  have last := run.2.2.2.2.2.2.2.2.2.2.2.2.2.2.2.1.2.1 rfl
  obtain ⟨ipcr, own, replaced, free⟩ := last
  obtain ⟨rfl, rfl⟩ := Prod.mk.inj (Option.some.inj replaced)
  exact absurd free (by decide +kernel)

end Cmp

end AlsaDriver.Firewire
