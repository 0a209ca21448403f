import AlsaDriver.Lib.Runs
import AlsaDriver.Seq.PortConnect

namespace AlsaDriver.Seq

open Function Runs PortsState

namespace PortsState

structure Sound (s : PortsState) : Prop where
  placed : ∀ id, s.Live id → ∃ p q, s.Listed p ∧ s.Listed q ∧
    s.addr p = (s.subs id).info.sender ∧ s.addr q = (s.subs id).info.dest ∧
    (∀ p', id ∈ (s.group (.src, p')).list ↔ p' = p) ∧ ∀ q', id ∈ (s.group (.dest, q')).list ↔ q' = q
  once : ∀ key, (s.group key).list.Nodup ∧ ∀ id ∈ (s.group key).list, s.Live id
  count : ∀ t p, s.Listed p → (s.group (t, p)).count = (s.group (t, p)).list.length
  exclusive : ∀ t p, s.Listed p → ((s.group (t, p)).exclusive = true ↔
    ∃ id, (s.group (t, p)).list = [id] ∧ (s.subs id).info.exclusive = true)
  freed : s.freed.Nodup

def FailsQuietly (s : PortsState) : PortsOp → Prop
  | .connect info env => (s.connect info env).1 < 0 → (s.connect info env).2.group = s.group
  | _ => True

def NoExclusivePeer (s : PortsState) : PortsOp → Prop
  | .deletePort client port => ∀ p, s.findPort client port = some p → s.ExclusiveWithin [p]
  | .deleteAllPorts client => s.ExclusiveWithin (s.portsListHead client)
  | _ => True

theorem fails_quietly (s : PortsState) (op : PortsOp) : s.FailsQuietly op := by
  cases op with
  | connect info env =>
    show (s.connect info env).1 < 0 → (s.connect info env).2.group = s.group
    rw [PortsState.connect]
    cases s.usePtr info.sender with
    | none => exact fun _ => rfl
    | some sport =>
      cases s.usePtr info.dest with
      | none => exact fun _ => rfl
      | some dport =>
        dsimp only
        intro failed
        rcases s.sndSeqPortConnect_cases sport dport info env with ⟨-, same | refused⟩ | ⟨zero, -⟩
        · rw [same]
        · rw [refused]
          rfl
        · rw [zero] at failed
          exact absurd failed (by decide)
  | createPort | disconnect | deletePort | deleteAllPorts => trivial

end PortsState

def PortsInv (s : PortsState) : Prop := (∃ E ends, Settled s E ends) ∧ s.FlagsOk

section Steps

variable {s : PortsState} {E : GroupType → List Nat} {ends : GroupType → Nat → Nat}

theorem Settled.sound_iff (settled : Settled s E ends) : s.Sound ↔ s.FlagsOk := by
  have graph := settled.graph
  constructor
  · exact fun sound t p listed => (sound.exclusive t p listed).mp
  · intro ok
    have only (t : GroupType) (id : Nat) (live : s.Live id) (p : Nat) : id ∈ (s.group (t, p)).list ↔ p = ends t id := by
      rw [graph.mem]
      exact ⟨fun there => there.2.symm, fun same => ⟨settled.mem_all live t, same.symm⟩⟩
    refine ⟨fun id live => ⟨ends .src id, ends .dest id, settled.listed _ id live, settled.listed _ id live,
      (graph.address .src id live).symm, (graph.address .dest id live).symm, only .src id live, only .dest id live⟩, ?_,
      graph.count, fun t p listed => ⟨ok t p listed, ?_⟩, graph.freed.1⟩
    · rintro ⟨t, p⟩
      exact ⟨graph.nodup_list t p, fun id inside => graph.alive (graph.mem.mp inside).1⟩
    · rintro ⟨id, list, exclusive⟩
      exact (graph.alone t p listed id (list ▸ List.mem_singleton.mpr rfl) exclusive).2

theorem Settled.deleted (settled : Settled s E ends) (client : Nat) (l D : List Nat)
    (sub : l.Sublist (s.portsListHead client)) (all : ∀ p, p ∈ s.portsListHead client ↔ p ∈ l ∨ p ∈ D)
    (apart : ∀ p ∈ D, p ∉ l) (ok : s.FlagsOk) :
    (∃ E', Settled (D.foldl portDelete (s.takeOff client l)) E' ends) ∧
      ((D.foldl portDelete (s.takeOff client l)).FlagsOk ↔ s.ExclusiveWithin D) := by
  obtain ⟨E', after, listed, flags, info, sublists, mem⟩ := settled.delete sub all apart
  exact ⟨⟨E', after⟩, settled.delete_flags after listed flags info sublists mem ok⟩

theorem sndSeqDeletePort_eq (dir : Directory s) {client port found : Nat} (first : s.findPort client port = some found) :
    (s.sndSeqDeletePort client port).2 =
      [found].foldl portDelete (s.takeOff client ((s.portsListHead client).erase found)) := by
  have inside : found ∈ s.portsListHead client := List.mem_of_find?_eq_some first
  have count : s.numPorts client - 1 = ((s.portsListHead client).erase found).length := by
    rw [dir.count, List.length_erase_of_mem inside]
  rw [sndSeqDeletePort, first]
  dsimp only
  rw [count]
  rfl

theorem exec_sound (settled : Settled s E ends) (ok : s.FlagsOk) (op : PortsOp) :
    (∃ E' ends', Settled (s.exec op) E' ends') ∧ ((s.exec op).FlagsOk ↔ s.NoExclusivePeer op) := by
  have dir := settled.graph.dir
  cases op with
  | createPort client port hasOpen callbackAll =>
    obtain ⟨after, flags⟩ := settled.createPort client port hasOpen callbackAll
    exact ⟨⟨E, ends, after⟩, iff_of_true (flags ok) trivial⟩
  | connect info env =>
    have same : (∃ E' ends', Settled s E' ends') ∧ (s.FlagsOk ↔ s.NoExclusivePeer (.connect info env)) :=
      ⟨⟨E, ends, settled⟩, iff_of_true ok trivial⟩
    rw [PortsState.exec, PortsState.connect]
    cases src : s.usePtr info.sender with
    | none => exact same
    | some sport =>
      cases dest : s.usePtr info.dest with
      | none => exact same
      | some dport =>
        dsimp only
        rcases s.sndSeqPortConnect_cases sport dport info env with ⟨-, kept | refused⟩ | ⟨-, free, connected⟩
        · rw [kept]
          exact same
        · rw [refused]
          obtain ⟨after, flags⟩ := settled.refused info
          exact ⟨⟨E, ends, after⟩, iff_of_true (flags ok) trivial⟩
        · rw [connected]
          obtain ⟨empty, shared⟩ := Settled.free_of_not_busy free
          obtain ⟨after, flags⟩ := settled.connected sport dport info
            (by intro t; cases t; exacts [src, dest])
            (by intro t; cases t; exacts [⟨fun mode => (empty mode).1, fun mode => (shared mode).1⟩,
              ⟨fun mode => (empty mode).2, fun mode => (shared mode).2⟩])
          exact ⟨⟨_, _, after⟩, iff_of_true (flags ok) trivial⟩
  | disconnect info =>
    have same : (∃ E' ends', Settled s E' ends') ∧ (s.FlagsOk ↔ s.NoExclusivePeer (.disconnect info)) :=
      ⟨⟨E, ends, settled⟩, iff_of_true ok trivial⟩
    rw [PortsState.exec, PortsState.disconnect]
    cases src : s.usePtr info.sender with
    | none => exact same
    | some sport =>
      cases dest : s.usePtr info.dest with
      | none => exact same
      | some dport =>
        dsimp only
        cases first : (s.group (.src, sport)).list.find? fun id => matchSubsInfo info (s.subs id).info with
        | none =>
          rw [sndSeqPortDisconnect, first]
          exact same
        | some id =>
          obtain ⟨⟨E', after⟩, flags⟩ := settled.disconnected sport dport info
            (by intro t; cases t; exacts [src, dest]) first
          exact ⟨⟨E', ends, after⟩, iff_of_true (flags ok) trivial⟩
  | deletePort client port =>
    show _ ∧ (_ ↔ ∀ p, s.findPort client port = some p → s.ExclusiveWithin [p])
    cases first : s.findPort client port with
    | none =>
      have nothing : (s.sndSeqDeletePort client port).2 = s := by
        rw [sndSeqDeletePort, first]
      rw [PortsState.exec, nothing]
      exact ⟨⟨E, ends, settled⟩, iff_of_true ok fun p found => by cases found⟩
    | some found =>
      have inside : found ∈ s.portsListHead client := List.mem_of_find?_eq_some first
      have nodup := dir.nodup client
      rw [PortsState.exec, sndSeqDeletePort_eq dir first]
      obtain ⟨⟨E', after⟩, flags⟩ := settled.deleted client ((s.portsListHead client).erase found) [found]
        List.erase_sublist (by
          intro p
          rw [nodup.mem_erase_iff, List.mem_singleton]
          by_cases same : p = found
          · simp [same, inside]
          · simp [same]) (by
          intro p same there
          rw [List.mem_singleton.mp same, nodup.mem_erase_iff] at there
          exact there.1 rfl) ok
      refine ⟨⟨E', ends, after⟩, flags.trans ⟨?_, fun condition => condition found rfl⟩⟩
      rintro within p same
      cases same
      exact within
  | deleteAllPorts client =>
    obtain ⟨⟨E', after⟩, flags⟩ := settled.deleted client [] (s.portsListHead client)
      (List.nil_sublist _) (by simp) (by simp) ok
    exact ⟨⟨E', ends, after⟩, flags⟩

end Steps

theorem settled_noPorts : Settled noPorts (fun _ => []) (fun _ _ => 0) where
  graph := {
    dir := ⟨fun _ _ inside => absurd inside List.not_mem_nil, fun _ _ inside => absurd inside List.not_mem_nil,
      fun _ => .nil, fun _ => List.nodup_nil, fun _ => rfl, fun _ _ inside => absurd inside List.not_mem_nil⟩
    list := fun _ _ => rfl
    nodup := fun _ => List.nodup_nil
    count := fun _ _ _ => rfl
    alone := fun _ _ _ _ inside => absurd inside List.not_mem_nil
    refs := fun _ live => absurd live.1 (Nat.not_lt_zero _)
    live := fun _ => ⟨fun live => absurd live.1 (Nat.not_lt_zero _), fun inside => inside.elim fun _ inside => absurd inside List.not_mem_nil⟩
    freed := ⟨List.nodup_nil, fun _ inside => absurd inside List.not_mem_nil⟩
    address := fun _ _ live => absurd live.1 (Nat.not_lt_zero _)
    found := fun _ _ live => absurd live.1 (Nat.not_lt_zero _)
    both := fun _ _ live => absurd live.1 (Nat.not_lt_zero _)
    stranger := fun _ _ live => absurd live.1 (Nat.not_lt_zero _) }
  listed := fun _ _ live => absurd live.1 (Nat.not_lt_zero _)

/-- The subscriptions stay sound exactly as long as no port goes that has an exclusive record with a
    port that stays. -/
theorem subscriptions_sound (ops : List PortsOp) :
    Throughout PortsState.exec (fun s op s' => s'.Sound ∧ s.FailsQuietly op) noPorts ops ↔
      Throughout PortsState.exec (fun s op _ => s.NoExclusivePeer op) noPorts ops := by
  have start : PortsInv noPorts :=
    ⟨⟨_, _, settled_noPorts⟩, fun _ _ listed => absurd listed List.not_mem_nil⟩
  apply throughout_iff PortsInv _ _ (P := fun _ _ _ => True) _ _ start
  · exact Throughout.of_mem fun _ _ _ => trivial
  · rintro s op ⟨⟨E, ends, settled⟩, ok⟩ -
    obtain ⟨⟨E', ends', after⟩, flags⟩ := exec_sound settled ok op
    rw [after.sound_iff, flags]
    exact ⟨And.left, fun condition => ⟨condition, s.fails_quietly op⟩⟩
  · rintro s op ⟨⟨E, ends, settled⟩, ok⟩ - condition
    obtain ⟨after, flags⟩ := exec_sound settled ok op
    exact ⟨after, flags.mpr condition⟩

def exclusiveSubs : SndSeqPortSubscribe := ⟨⟨0, 0⟩, ⟨1, 0⟩, SNDRV_SEQ_PORT_SUBS_EXCLUSIVE, 0⟩

def sharedSubs : SndSeqPortSubscribe := ⟨⟨0, 0⟩, ⟨2, 0⟩, 0, 0⟩

def goodEnv : ConnectEnv := ⟨true, fun _ => true, fun _ => 0⟩

/-- The receiver of an exclusive connection is deleted, and the sender accepts no other connection. -/
theorem subscriptions_stale :
    let ops : List PortsOp := [.createPort 0 none (fun _ => false) false, .createPort 1 none (fun _ => false) false,
      .createPort 2 none (fun _ => false) false, .connect exclusiveSubs goodEnv, .deletePort 1 0]
    ¬ Throughout PortsState.exec (fun s op s' => s'.Sound ∧ s.FailsQuietly op) noPorts ops ∧
      ((ops.foldl PortsState.exec noPorts).group (.src, 0)).list = [] ∧
      ((ops.foldl PortsState.exec noPorts).group (.src, 0)).exclusive = true ∧
      ((ops.foldl PortsState.exec noPorts).connect sharedSubs goodEnv).1 = -EBUSY := by
  refine ⟨?_, by decide, by decide, by decide⟩
  rintro ⟨-, -, -, -, ⟨sound, -⟩, -⟩
  have listed := sound.exclusive .src 0 (List.mem_singleton.mpr rfl)
  obtain ⟨id, list, -⟩ := listed.mp (by decide)
  have empty : [] = [id] := list
  cases empty

end AlsaDriver.Seq
