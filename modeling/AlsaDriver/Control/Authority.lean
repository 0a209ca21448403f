import AlsaDriver.Control.UserCtl

namespace AlsaDriver.Control

def Kctl.Spare (c : Kctl) (file : Nat) : Prop := ∀ i < c.control.count, ¬ c.OwnedByOther file i

namespace CtlCard

/-- What a request by a file may do: only user elements go, and elements that another file owns stay with
    their owner and their data. -/
structure Respects (card : CtlCard) (file : Nat) (reply : Reply) : Prop where
  removed : ∀ c ∈ card.controls, (∀ d ∈ reply.card.controls, d.ptr ≠ c.ptr) → ∀ i < c.control.count,
    (c.vd i).access &&& SNDRV_CTL_ELEM_ACCESS_USER ≠ 0 ∧ ¬ c.OwnedByOther file i
  kept : ∀ c ∈ card.controls, ∀ d ∈ reply.card.controls, d.ptr = c.ptr → ∀ i < c.control.count,
    c.OwnedByOther file i → (d.vd i).owner = (c.vd i).owner ∧ d.user = c.user
  calls : ∀ c ∈ card.controls, ∀ i < c.control.count, c.OwnedByOther file i →
    .put c.ptr i ∉ reply.calls ∧ .tlv c.ptr ∉ reply.calls

/-- The check of `snd_ctl_elem_write`. -/
def MayPut (c : Kctl) (file i : Nat) : Prop :=
  ¬ ((c.vd i).access &&& SNDRV_CTL_ELEM_ACCESS_WRITE = 0 ∨ c.put = false ∨ c.OwnedByOther file i)

/-- The checks of `snd_ctl_tlv_ioctl`. -/
structure MayTlv (c : Kctl) (file i : Nat) : Prop where
  tlv : c.tlv ≠ false
  write : (c.vd i).access &&& SNDRV_CTL_ELEM_ACCESS_TLV_WRITE ≠ 0
  callback : (c.vd i).access &&& SNDRV_CTL_ELEM_ACCESS_TLV_CALLBACK ≠ 0
  owner : ¬ c.OwnedByOther file i

/-- A REPLACE finds a user control, or none, and where a request removes a control or changes data that its
    elements share, no other file owns one of them. -/
def Authorised (card : CtlCard) (file : Nat) : UserRequest → Prop
  | .replace info _ _ => info.count.toNat < 1 ∨
    ∀ c, card.findId info.id.byName = some c → c.user.isSome ∧ c.Spare file
  | .write id value _ => ∀ c ue, card.findId id = some c → c.user = some ue →
    MayPut c file (c.control.getIoff id).toNat → (ue.put value).1 = true → c.Spare file
  | .tlvWrite numid tlv fault _ => ∀ c, 8 ≤ tlv.length → card.findNumid numid = some c →
    MayTlv c file (numid - c.control.id.numid).toNat →
    (∀ ue, c.user = some ue → tlv.length ≤ 1024 * 128 ∧ fault = false ∧ ue.tlvData ≠ tlv) → c.Spare file
  | _ => True

variable {card : CtlCard} {file : Nat} {reply : Reply} {c d : Kctl}

theorem eq_of_ptr (here : c ∈ card.controls) (there : d ∈ card.controls) (same : d.ptr = c.ptr) : d = c :=
  List.inj_on_of_nodup_map card.apart there here same

theorem mem_of_kctlAt {place : Option Nat} (found : card.kctlAt place = some c) : c ∈ card.controls := by
  obtain ⟨i, -, there⟩ := Option.bind_eq_some_iff.mp found
  exact List.mem_of_getElem? there

theorem respects_same (same : reply.card.controls = card.controls)
    (calls : ∀ c ∈ card.controls, ∀ i < c.control.count, c.OwnedByOther file i →
      .put c.ptr i ∉ reply.calls ∧ .tlv c.ptr ∉ reply.calls) : card.Respects file reply where
  removed := by
    intro c here gone
    rw [same] at gone
    exact absurd rfl (gone c here)
  kept := by
    intro c here d there ptr i _ _
    rw [same] at there
    rw [eq_of_ptr here there ptr]
    exact ⟨rfl, rfl⟩
  calls := calls

theorem respects_refuse (err : Int) : card.Respects file (card.refuse err) :=
  respects_same rfl fun _ _ _ _ _ => ⟨List.not_mem_nil, List.not_mem_nil⟩

theorem respects_changeAt {f : Kctl → Kctl} (here : c ∈ card.controls)
    (same : reply.card.controls = card.controls.map fun d => if d.ptr = c.ptr then f d else d)
    (ptr : (f c).ptr = c.ptr) (calls : reply.calls = []) : card.Respects file reply ↔
      ∀ i < c.control.count, c.OwnedByOther file i → ((f c).vd i).owner = (c.vd i).owner ∧ (f c).user = c.user := by
  have changed : f c ∈ reply.card.controls := by
    rw [same]
    exact List.mem_map.mpr ⟨c, here, if_pos rfl⟩
  constructor
  · intro respects i inside owned
    exact respects.kept c here (f c) changed ptr i inside owned
  · intro spares
    have image (d e : Kctl) (there : d ∈ card.controls) (after : e ∈ reply.card.controls) (at_d : e.ptr = d.ptr) :
        e = if d.ptr = c.ptr then f d else d := by
      rw [same] at after
      obtain ⟨before, old, rfl⟩ := List.mem_map.mp after
      have ptrs : (if before.ptr = c.ptr then f before else before).ptr = before.ptr := by
        split
        · rename_i at_c
          rw [eq_of_ptr here old at_c, ptr]
        · rfl
      rw [eq_of_ptr there old (ptrs.symm.trans at_d)]
    refine ⟨?_, ?_, ?_⟩
    · intro d there gone
      have after : (if d.ptr = c.ptr then f d else d) ∈ reply.card.controls := by
        rw [same]
        exact List.mem_map.mpr ⟨d, there, rfl⟩
      refine absurd ?_ (gone _ after)
      split
      · rename_i at_c
        rw [eq_of_ptr here there at_c, ptr]
      · rfl
    · intro d there e after at_d i inside owned
      rw [image d e there after at_d]
      split
      · rename_i at_c
        obtain rfl := eq_of_ptr here there at_c
        exact spares i inside owned
      · exact ⟨rfl, rfl⟩
    · intro d _ i _ _
      rw [calls]
      exact ⟨List.not_mem_nil, List.not_mem_nil⟩

theorem respects_removal {extra : List Kctl} (here : c ∈ card.controls)
    (same : reply.card.controls = (card.controls.filter fun d => decide (d.ptr ≠ c.ptr)) ++ extra)
    (new : ∀ d ∈ extra, d.ptr = card.nextPtr) (calls : reply.calls = []) : card.Respects file reply ↔
      ∀ i < c.control.count, (c.vd i).access &&& SNDRV_CTL_ELEM_ACCESS_USER ≠ 0 ∧ ¬ c.OwnedByOther file i := by
  have after (d e : Kctl) (there : d ∈ card.controls) (left : e ∈ reply.card.controls) (at_d : e.ptr = d.ptr) :
      e ∈ card.controls ∧ e.ptr ≠ c.ptr := by
    rw [same] at left
    rcases List.mem_append.mp left with old | added
    · obtain ⟨old, other⟩ := List.mem_filter.mp old
      exact ⟨old, of_decide_eq_true other⟩
    · have low := card.fresh d there
      rw [← at_d, new e added] at low
      exact absurd low (Nat.lt_irrefl _)
  constructor
  · intro respects
    exact respects.removed c here fun e left at_c => (after c e here left at_c).2 at_c
  · intro spares
    refine ⟨?_, ?_, ?_⟩
    · intro d there gone
      have at_c : d.ptr = c.ptr := by
        by_contra other
        apply gone d _ rfl
        rw [same]
        exact List.mem_append_left _ (List.mem_filter.mpr ⟨there, decide_eq_true other⟩)
      obtain rfl := eq_of_ptr here there at_c
      exact spares
    · intro d there e left at_d i _ _
      rw [eq_of_ptr there (after d e there left at_d).1 at_d]
      exact ⟨rfl, rfl⟩
    · intro d _ i _ _
      rw [calls]
      exact ⟨List.not_mem_nil, List.not_mem_nil⟩

theorem respects_add {extra : List Kctl} (same : reply.card.controls = card.controls ++ extra)
    (new : ∀ d ∈ extra, d.ptr = card.nextPtr) (calls : reply.calls = []) : card.Respects file reply := by
  refine ⟨?_, ?_, ?_⟩
  · intro c here gone
    refine absurd rfl (gone c ?_)
    rw [same]
    exact List.mem_append_left _ here
  · intro c here d left at_c i _ _
    rw [same] at left
    rcases List.mem_append.mp left with old | added
    · rw [eq_of_ptr here old at_c]
      exact ⟨rfl, rfl⟩
    · have low := card.fresh c here
      rw [← at_c, new d added] at low
      exact absurd low (Nat.lt_irrefl _)
  · intro c _ i _ _
    rw [calls]
    exact ⟨List.not_mem_nil, List.not_mem_nil⟩

theorem addKctl_controls (new : c.ptr = card.nextPtr) : ∃ extra,
    (card.sndCtlAddKctl c new).2.controls = card.controls ++ extra ∧ ∀ d ∈ extra, d.ptr = card.nextPtr := by
  have none : ∀ d ∈ ([] : List Kctl), d.ptr = card.nextPtr := fun d inside => absurd inside List.not_mem_nil
  rw [sndCtlAddKctl]
  split
  · exact ⟨[], (List.append_nil _).symm, none⟩
  · split
    · exact ⟨[], (List.append_nil _).symm, none⟩
    · refine ⟨_, rfl, fun d inside => ?_⟩
      rw [List.mem_singleton.mp inside]
      exact new

theorem addElem_controls (info : SndCtlElemInfo) (memory fault : Bool) : ∃ extra,
    (card.addElem file info memory fault).card.controls = card.controls ++ extra ∧
      (∀ d ∈ extra, d.ptr = card.nextPtr) ∧ (card.addElem file info memory fault).calls = [] := by
  have none (err : Int) : ∃ extra, (card.refuse err).card.controls = card.controls ++ extra ∧
      (∀ d ∈ extra, d.ptr = card.nextPtr) ∧ (card.refuse err).calls = [] :=
    ⟨[], (List.append_nil _).symm, fun d inside => absurd inside List.not_mem_nil, rfl⟩
  rw [addElem]
  split
  · exact none _
  · split
    · exact none _
    · split
      · exact none _
      · split
        · exact none _
        · rename_i size _ _ _ _ control _
          obtain ⟨extra, same, new⟩ := @addKctl_controls card (card.newKctl file info size control) rfl
          dsimp only
          split
          · exact ⟨extra, same, new, rfl⟩
          · exact ⟨extra, same, new, rfl⟩

theorem removable_iff : (∀ i < c.control.count, (c.vd i).access &&& SNDRV_CTL_ELEM_ACCESS_USER ≠ 0 ∧
    ¬ c.OwnedByOther file i) ↔ c.user.isSome ∧ c.Spare file := by
  constructor
  · intro all
    exact ⟨(c.marked 0).mp (all 0 c.control.counted.1).1, fun i inside => (all i inside).2⟩
  · rintro ⟨user, spare⟩ i inside
    exact ⟨(c.marked i).mpr user, spare i inside⟩

theorem respects_elemAdd {info : SndCtlElemInfo} {memory fault : Bool} :
    card.Respects file (card.sndCtlElemAdd file info false memory fault) := by
  rw [sndCtlElemAdd]
  split
  · exact respects_refuse _
  · split
    · exact respects_refuse _
    · split
      · exact respects_refuse _
      · obtain ⟨extra, same, new, calls⟩ := @addElem_controls card file info memory fault
        exact respects_add same new calls

theorem respects_elemReplace {info : SndCtlElemInfo} {memory fault : Bool} :
    card.Respects file (card.sndCtlElemAdd file info true memory fault) ↔
      card.Authorised file (.replace info memory fault) := by
  rw [sndCtlElemAdd, Authorised, if_neg fun both => absurd both.1 (by decide)]
  split
  · rename_i few
    exact iff_of_true (respects_refuse _) (.inl few)
  · rename_i enough
    rw [or_iff_right enough]
    split
    · rename_i c found
      obtain ⟨extra, same, new, calls⟩ := @addElem_controls (card.sndCtlRemoveKctl c) file info memory fault
      have removal := @respects_removal _ file _ _ _ (mem_of_kctlAt found) same new calls
      rw [if_pos rfl, removal, removable_iff]
      constructor
      · rintro good d there
        obtain rfl := Option.some.inj (found.symm.trans there)
        exact good
      · intro all
        exact all c found
    · rename_i found
      refine iff_of_true (respects_refuse _) fun c there => ?_
      rw [found] at there
      cases there

theorem respects_remove (id : SndCtlElemId) : card.Respects file (card.sndCtlRemoveUserCtl file id) := by
  rw [sndCtlRemoveUserCtl]
  split
  · exact respects_refuse _
  · rename_i c found
    split
    · exact respects_refuse _
    · rename_i user
      split
      · exact respects_refuse _
      · rename_i spare
        have same : (card.sndCtlRemoveKctl c).controls =
            (card.controls.filter fun d => decide (d.ptr ≠ c.ptr)) ++ [] := (List.append_nil _).symm
        apply (respects_removal (mem_of_kctlAt found) same (fun d inside => absurd inside List.not_mem_nil) rfl).mpr
        apply removable_iff.mpr
        refine ⟨(c.marked 0).mp user, fun i inside owned => spare ⟨i, inside, owned⟩⟩

theorem respects_put {i : Nat} (here : c ∈ card.controls) (owner : ¬ c.OwnedByOther file i)
    (same : reply.card.controls = card.controls) (calls : reply.calls = [.put c.ptr i]) : card.Respects file reply := by
  apply respects_same same
  intro d there j _ owned
  rw [calls]
  constructor
  · intro inside
    obtain ⟨ptr, rfl⟩ := DriverCall.put.inj (List.mem_singleton.mp inside)
    rw [eq_of_ptr here there ptr] at owned
    exact owner owned
  · intro inside
    cases List.mem_singleton.mp inside

theorem respects_tlv (here : c ∈ card.controls)
    (same : reply.card.controls = card.controls) (calls : reply.calls = [.tlv c.ptr]) :
    card.Respects file reply ↔ c.Spare file := by
  constructor
  · intro respects j inside owned
    apply (respects.calls c here j inside owned).2
    rw [calls]
    exact List.mem_singleton_self _
  · intro spare
    apply respects_same same
    intro d there j inside owned
    rw [calls]
    constructor
    · intro call
      cases List.mem_singleton.mp call
    · intro call
      have ptr := DriverCall.tlv.inj (List.mem_singleton.mp call)
      rw [eq_of_ptr here there ptr] at inside owned
      exact spare j inside owned

theorem respects_setUser {ue : UserElement} {change : UserElement → UserElement} (here : c ∈ card.controls)
    (user : c.user = some ue) (changed : change ue ≠ ue)
    (same : reply.card.controls = card.controls.map fun d => if d.ptr = c.ptr then d.setUser change else d)
    (calls : reply.calls = []) : card.Respects file reply ↔ c.Spare file := by
  rw [respects_changeAt here same rfl calls]
  constructor
  · intro kept i inside owned
    have data : c.user.map change = c.user := (kept i inside owned).2
    rw [user] at data
    exact changed (Option.some.inj data)
  · intro spare i inside owned
    exact absurd owned (spare i inside)

theorem respects_write {id : SndCtlElemId} {value : List (BitVec 8)} {driver : Int} :
    card.Respects file (card.sndCtlElemWriteKctl file id value driver) ↔
      card.Authorised file (.write id value driver) := by
  rw [sndCtlElemWriteKctl, Authorised]
  split
  · rename_i found
    refine iff_of_true (respects_refuse _) fun c ue there => ?_
    rw [found] at there
    cases there
  · rename_i c found
    have here : c ∈ card.controls := mem_of_kctlAt found
    have one : (∀ d ue, card.findId id = some d → d.user = some ue → MayPut d file (d.control.getIoff id).toNat →
        (ue.put value).1 = true → d.Spare file) ↔
        ∀ ue, c.user = some ue → MayPut c file (c.control.getIoff id).toNat → (ue.put value).1 = true → c.Spare file := by
      constructor
      · intro all ue
        exact all c ue found
      · intro at_c d ue there
        obtain rfl := Option.some.inj (found.symm.trans there)
        exact at_c ue
    rw [one]
    dsimp only
    split
    · rename_i refused
      exact iff_of_true (respects_refuse _) fun ue _ may => absurd refused may
    · rename_i allowed
      cases user : c.user with
      | some ue =>
        have only : (∀ ue', some ue = some ue' → MayPut c file (c.control.getIoff id).toNat → (ue'.put value).1 = true →
            c.Spare file) ↔ ((ue.put value).1 = true → c.Spare file) := by
          constructor
          · intro all
            exact all ue rfl allowed
          · intro at_ue ue' same _
            obtain rfl := Option.some.inj same
            exact at_ue
        rw [only]
        dsimp only
        split
        · rename_i changes
          rw [forall_prop_of_true changes]
          apply respects_setUser here user _ rfl rfl
          intro unchanged
          have differs : value.take ue.elemData.length ≠ ue.elemData := of_decide_eq_true changes
          exact differs (congrArg UserElement.elemData unchanged)
        · rename_i keeps
          exact iff_of_true (respects_refuse _) fun changes => absurd changes keeps
      | none =>
        have owner : ¬ c.OwnedByOther file (c.control.getIoff id).toNat := fun other => allowed (.inr (.inr other))
        refine iff_of_true ?_ fun ue none => by cases none
        dsimp only
        split
        · exact respects_put here owner rfl rfl
        · exact respects_put here owner rfl rfl

theorem writeTlv_ne {ue : UserElement} {tlv : List (BitVec 8)} {fault : Bool} : (ue.writeTlv tlv fault).2 ≠ ue ↔
    tlv.length ≤ 1024 * 128 ∧ fault = false ∧ ue.tlvData ≠ tlv := by
  rw [UserElement.writeTlv]
  split
  · rename_i long
    exact iff_of_false (fun differs => differs rfl) fun good => absurd long (Nat.not_lt.mpr good.1)
  · rename_i short
    split
    · rename_i bad
      exact iff_of_false (fun differs => differs rfl) fun good => absurd good.2.1 (Bool.not_eq_false _ ▸ bad)
    · rename_i readable
      rw [and_iff_right (Nat.le_of_not_lt short), and_iff_right (Bool.not_eq_true _ ▸ readable)]
      constructor
      · intro differs same
        apply differs
        rw [← same]
      · intro differs same
        exact differs (congrArg UserElement.tlvData same).symm

theorem respects_tlvWrite {numid : BitVec 32} {tlv : List (BitVec 8)} {fault : Bool} {driver : Int} :
    card.Respects file (card.sndCtlTlvWrite file numid tlv fault driver) ↔
      card.Authorised file (.tlvWrite numid tlv fault driver) := by
  rw [sndCtlTlvWrite, Authorised]
  split
  · rename_i short
    exact iff_of_true (respects_refuse _) fun _ long => absurd short (Nat.not_lt.mpr long)
  · rename_i long
    split
    · rename_i found
      refine iff_of_true (respects_refuse _) fun c _ there => ?_
      rw [found] at there
      cases there
    · rename_i c found
      have here : c ∈ card.controls := mem_of_kctlAt found
      have one : (∀ d, 8 ≤ tlv.length → card.findNumid numid = some d →
          MayTlv d file (numid - d.control.id.numid).toNat →
          (∀ ue, d.user = some ue → tlv.length ≤ 1024 * 128 ∧ fault = false ∧ ue.tlvData ≠ tlv) → d.Spare file) ↔
          (MayTlv c file (numid - c.control.id.numid).toNat →
          (∀ ue, c.user = some ue → tlv.length ≤ 1024 * 128 ∧ fault = false ∧ ue.tlvData ≠ tlv) → c.Spare file) := by
        constructor
        · intro all
          exact all c (Nat.le_of_not_lt long) found
        · intro at_c d _ there
          obtain rfl := Option.some.inj (found.symm.trans there)
          exact at_c
      rw [one]
      dsimp only
      split
      · rename_i none
        exact iff_of_true (respects_refuse _) fun may => absurd none may.tlv
      · rename_i tlv'
        split
        · rename_i none
          exact iff_of_true (respects_refuse _) fun may => absurd none may.write
        · rename_i write
          split
          · rename_i none
            exact iff_of_true (respects_refuse _) fun may => absurd none may.callback
          · rename_i callback
            split
            · rename_i other
              exact iff_of_true (respects_refuse _) fun may => absurd other may.owner
            · rename_i owner
              rw [forall_prop_of_true (MayTlv.mk tlv' write callback owner)]
              cases user : c.user with
              | some ue =>
                have only : (∀ ue', some ue = some ue' → tlv.length ≤ 1024 * 128 ∧ fault = false ∧ ue'.tlvData ≠ tlv) ↔
                    (ue.writeTlv tlv fault).2 ≠ ue := by
                  rw [writeTlv_ne]
                  constructor
                  · intro all
                    exact all ue rfl
                  · intro at_ue ue' same
                    obtain rfl := Option.some.inj same
                    exact at_ue
                rw [only]
                dsimp only
                by_cases changed : (ue.writeTlv tlv fault).2 = ue
                · have still : (c.setUser fun ue => (ue.writeTlv tlv fault).2).user = c.user := by
                    show c.user.map (fun ue => (ue.writeTlv tlv fault).2) = c.user
                    rw [user, Option.map_some, changed]
                  have respects (reply : Reply) (same : reply.card.controls = (card.changeAt c.ptr
                      (·.setUser fun ue => (ue.writeTlv tlv fault).2) fun _ => rfl).controls) (calls : reply.calls = []) :
                      card.Respects file reply :=
                    (respects_changeAt here same rfl calls).mpr fun _ _ _ => ⟨rfl, still⟩
                  apply iff_of_true _ fun differs => absurd changed differs
                  split
                  · exact respects _ rfl rfl
                  · exact respects _ rfl rfl
                · rw [forall_prop_of_true changed]
                  split
                  · exact respects_setUser here user changed rfl rfl
                  · exact respects_setUser here user changed rfl rfl
              | none =>
                rw [forall_prop_of_true fun ue none => by cases none]
                dsimp only
                split
                · exact respects_tlv here rfl rfl
                · exact respects_tlv here rfl rfl

theorem setOwner_owner (i j : Nat) (owner : Option Nat) :
    ((c.setOwner i owner).vd j).owner = if j = i then owner else (c.vd j).owner := by
  show (if j = i then { c.vd i with owner := owner } else c.vd j).owner = _
  split
  · rfl
  · rfl

theorem respects_lock (id : SndCtlElemId) : card.Respects file (card.sndCtlElemLock file id) := by
  rw [sndCtlElemLock]
  split
  · exact respects_refuse _
  · rename_i c found
    dsimp only
    split
    · exact respects_refuse _
    · rename_i free
      apply (respects_changeAt (mem_of_kctlAt found) rfl rfl rfl).mpr
      intro i _ owned
      refine ⟨?_, rfl⟩
      rw [setOwner_owner]
      apply if_neg
      rintro rfl
      exact owned.1 (not_not.mp free)

theorem respects_unlock (id : SndCtlElemId) : card.Respects file (card.sndCtlElemUnlock file id) := by
  rw [sndCtlElemUnlock]
  split
  · exact respects_refuse _
  · rename_i c found
    dsimp only
    split
    · exact respects_refuse _
    · split
      · exact respects_refuse _
      · rename_i own
        apply (respects_changeAt (mem_of_kctlAt found) rfl rfl rfl).mpr
        intro i _ owned
        refine ⟨?_, rfl⟩
        rw [setOwner_owner]
        apply if_neg
        rintro rfl
        exact owned.2 (not_not.mp own)

/-- A request keeps to what its file may do exactly where it is authorised. -/
theorem request_respects (card : CtlCard) (file : Nat) (req : UserRequest) :
    card.Respects file (card.request file req) ↔ card.Authorised file req := by
  cases req with
  | add info memory fault => exact iff_of_true respects_elemAdd trivial
  | replace info memory fault => exact respects_elemReplace
  | remove id => exact iff_of_true (respects_remove id) trivial
  | write id value driver => exact respects_write
  | tlvWrite numid tlv fault driver => exact respects_tlvWrite
  | lock id => exact iff_of_true (respects_lock id) trivial
  | unlock id => exact iff_of_true (respects_unlock id) trivial

theorem one_counted : 0 < 1 ∧ 1 ≤ MAX_CONTROL_COUNT := by
  decide

theorem readwrite_user : SNDRV_CTL_ELEM_ACCESS_READWRITE &&& SNDRV_CTL_ELEM_ACCESS_USER = 0 := by
  decide

theorem marked_none : Marked (fun _ => ⟨SNDRV_CTL_ELEM_ACCESS_READWRITE, none⟩) none :=
  fun _ => iff_of_false (fun user => user readwrite_user) Bool.false_ne_true

def usersInfo (name : BitVec 8) : SndCtlElemInfo :=
  ⟨⟨0, 2, 0, 0, [name], 0⟩, SNDRV_CTL_ELEM_TYPE_INTEGER, 0, 1, 0, 0, []⟩

def twoKctls : List Kctl := [
  ⟨0, ⟨⟨1, 2, 0, 0, [77], 0⟩, 1, one_counted⟩, fun _ => ⟨SNDRV_CTL_ELEM_ACCESS_READWRITE, none⟩, true, false, none,
    marked_none⟩,
  ⟨1, ⟨⟨2, 2, 0, 0, [85], 0⟩, 1, one_counted⟩, fun _ => ⟨(usersInfo 85).userAccess, some 1⟩, true, false,
    some ⟨List.replicate 8 0, []⟩, SndCtlElemInfo.marked_userAccess _ _⟩]

theorem twoKctls_fresh : ∀ c ∈ twoKctls, c.ptr < 2 := by
  decide

theorem twoKctls_apart : (twoKctls.map Kctl.ptr).Nodup := by
  decide

def twoKctlsCard : CtlCard := ⟨twoKctls, 2, [], 1, 2, twoKctls_fresh, twoKctls_apart⟩

/-- The file 0 replaces a driver's control, and a control that the file 1 owns. -/
theorem replace_takes_others : ¬ twoKctlsCard.Respects 0 (twoKctlsCard.request 0 (.replace (usersInfo 77) true false)) ∧
    ¬ twoKctlsCard.Respects 0 (twoKctlsCard.request 0 (.replace (usersInfo 85) true false)) := by
  constructor
  · intro respects
    rcases respects_elemReplace.mp respects with few | good
    · exact absurd few (by decide)
    · exact absurd (good _ rfl).1 (by decide)
  · intro respects
    rcases respects_elemReplace.mp respects with few | good
    · exact absurd few (by decide)
    · exact (good _ rfl).2 0 (by decide) (by decide)

end CtlCard

end AlsaDriver.Control
