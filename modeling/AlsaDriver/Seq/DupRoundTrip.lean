import AlsaDriver.Seq.ExternalData

namespace AlsaDriver.Seq

open Chains Function

namespace SeqMemory

structure FreeList (m : SeqMemory) (id : Nat) (free : List SeqCell) : Prop where
  chain : Chain m.next (m.pool id).free free
  mine : ∀ c ∈ free, c.pool = id

def taken (m : SeqMemory) (id : Nat) (c : SeqCell) : SeqMemory :=
  (m.setPool id { m.pool id with free := m.next c, counter := (m.pool id).counter + 1 }).setNext c none

variable {m : SeqMemory} {id : Nat} {c : SeqCell} {free rest data : List SeqCell}

theorem allocWait_cases (freeList : m.FreeList id free) (nonblock : Bool) :
    (∃ err, m.sndSeqCellAllocWait nonblock id = .error err ∧ err < 0) ∨
      ∃ c rest, free = c :: rest ∧ m.sndSeqCellAllocWait nonblock id = .ok (c, m.taken id c) := by
  rw [sndSeqCellAllocWait]
  split
  · exact .inl ⟨_, rfl, by decide⟩
  · cases call : m.sndSeqCellAlloc id with
    | error err => exact .inl ⟨err, rfl, sndSeqCellAlloc_error call⟩
    | ok result =>
      obtain ⟨c, m'⟩ := result
      obtain ⟨first, after⟩ := Owned.sndSeqCellAlloc_ok call
      have front := freeList.chain.head_eq
      rw [first] at front
      cases free with
      | nil => cases front
      | cons d rest =>
        cases front
        exact .inr ⟨c, rest, rfl, by rw [after]; rfl⟩

theorem taken_pool (m : SeqMemory) (id : Nat) (c : SeqCell) :
    (m.taken id c).pool id = { m.pool id with free := m.next c, counter := (m.pool id).counter + 1 } := update_self ..

theorem FreeList.taken (freeList : m.FreeList id (c :: rest)) : (m.taken id c).FreeList id rest := by
  have apart := List.nodup_cons.mp freeList.chain.nodup
  refine ⟨?_, fun d inside => freeList.mine d (List.mem_cons_of_mem _ inside)⟩
  rw [taken_pool]
  refine freeList.chain.2.frame fun d inside => update_of_ne ?_ ..
  rintro rfl
  exact apart.1 inside

theorem FreeList.freeCell (freeList : m.FreeList id free) (fresh : c ∉ free) (kin : c.pool = id) :
    (m.freeCell id c).FreeList id (c :: free) ∧ ((m.freeCell id c).pool id).counter = (m.pool id).counter - 1 := by
  have pool : (m.freeCell id c).pool id = { m.pool id with free := some c, counter := (m.pool id).counter - 1 } :=
    update_self ..
  refine ⟨⟨?_, fun d inside => ?_⟩, by rw [pool]⟩
  · rw [pool]
    exact freeList.chain.push fresh
  · rcases List.mem_cons.mp inside with rfl | old
    · exact kin
    · exact freeList.mine d old

theorem FreeList.freeChain {p : Option SeqCell} {fuel : Nat} (freeList : m.FreeList id free)
    (chain : Chain m.next p data) (apart : (data ++ free).Nodup) (kin : ∀ d ∈ data, d.pool = id)
    (enough : data.length ≤ fuel) :
    (freeChain id fuel p m).FreeList id (data.reverse ++ free) ∧
      ((SeqMemory.freeChain id fuel p m).pool id).counter = (m.pool id).counter - data.length := by
  induction data generalizing m p free fuel with
  | nil =>
    obtain rfl : p = none := chain
    cases fuel <;> exact ⟨freeList, rfl⟩
  | cons d data ih =>
    obtain ⟨rfl, later⟩ := chain
    cases fuel with
    | zero => exact absurd enough (Nat.not_succ_le_zero _)
    | succ fuel =>
      obtain ⟨fresh, others⟩ := List.nodup_cons.mp apart
      obtain ⟨freed, counter⟩ :=
        freeList.freeCell (fun inside => fresh (List.mem_append_right _ inside)) (kin d List.mem_cons_self)
      have after : Chain (m.freeCell id d).next (m.next d) data := by
        refine later.frame fun e inside => freeCell_next ?_
        rintro rfl
        exact fresh (List.mem_append_left _ inside)
      have apart' : (data ++ d :: free).Nodup := List.nodup_middle.mpr (List.nodup_cons.mpr ⟨fresh, others⟩)
      obtain ⟨done, count⟩ :=
        ih freed after apart' (fun e inside => kin e (List.mem_cons_of_mem _ inside)) (Nat.le_of_succ_le_succ enough)
      rw [SeqMemory.freeChain, List.reverse_cons, List.append_assoc]
      refine ⟨done, ?_⟩
      rw [count, counter, List.length_cons, Nat.sub_sub, Nat.add_comm]

/-- The copy in the middle of the loop: `data` is chained behind the cell, `rest` is still free, and together
    they are the cells `F` that were free before. -/
structure Building (m : SeqMemory) (id : Nat) (ev : SndSeqEvent) (counter total : Nat) (cell : SeqCell)
    (F data rest : List SeqCell) : Prop where
  freeList : m.FreeList id rest
  behind : Chain m.next data.head? data
  event : m.event cell = copyOf ev ev.data.ext.len data.head?
  cells : cell :: (data ++ rest) = F
  apart : F.Nodup
  mine : ∀ d ∈ F, d.pool = id
  counter : (m.pool id).counter = counter + 1 + data.length
  total : (m.pool id).totalElements = total

section Building

variable {ev : SndSeqEvent} {counter total : Nat} {cell tmp : SeqCell} {F : List SeqCell}

theorem linkChunk_pool (tail : Option SeqCell) : (m.linkChunk cell tail tmp).pool = m.pool := by
  have ptr : (m.setExtPtr cell tmp).pool = m.pool := by
    rw [setExtPtr]
    split <;> rfl
  cases tail <;> exact ptr

theorem Building.linked (now : m.Building id ev counter total cell F data (tmp :: rest)) :
    Chain ((m.taken id tmp).linkChunk cell data.getLast? tmp).next (data ++ [tmp]).head? (data ++ [tmp]) ∧
      ((m.taken id tmp).linkChunk cell data.getLast? tmp).event cell =
        copyOf ev ev.data.ext.len (data ++ [tmp]).head? ∧
      ∀ d ∈ rest, ((m.taken id tmp).linkChunk cell data.getLast? tmp).next d = (m.taken id tmp).next d := by
  have apart := now.apart
  rw [← now.cells] at apart
  obtain ⟨-, -, cross⟩ := List.nodup_append.mp (List.nodup_cons.mp apart).2
  rcases List.eq_nil_or_concat data with rfl | ⟨before, last, rfl⟩
  · have written : (m.taken id tmp).linkChunk cell ([] : List SeqCell).getLast? tmp =
        (m.taken id tmp).setEvent cell (copyOf ev ev.data.ext.len (some tmp)) := setExtPtr_none now.event
    rw [written]
    exact ⟨⟨rfl, update_self ..⟩, update_self .., fun _ _ => rfl⟩
  · rw [List.concat_eq_append] at now cross ⊢
    have front : ∃ first, (before ++ [last]).head? = some first := by
      cases before with
      | nil => exact ⟨last, rfl⟩
      | cons first _ => exact ⟨first, rfl⟩
    obtain ⟨first, front⟩ := front
    have event := now.event
    rw [front] at event
    have linked : (m.taken id tmp).linkChunk cell (before ++ [last]).getLast? tmp =
        (m.taken id tmp).setNext last (some tmp) := by
      rw [List.getLast?_concat, linkChunk, setExtPtr_some (m := m.taken id tmp) event]
    have fresh : tmp ∉ before ++ [last] := fun inside => cross tmp inside tmp List.mem_cons_self rfl
    have inserted := now.behind.insert (c := tmp) fresh
    rw [now.behind.last_next] at inserted
    have head : (before ++ [last] ++ [tmp]).head? = (before ++ [last]).head? := by
      rw [List.head?_append, front]
      rfl
    rw [linked, head, List.append_assoc]
    refine ⟨inserted, by rw [front]; exact event, fun d inside => update_of_ne ?_ ..⟩
    rintro rfl
    exact cross d (List.mem_append_right _ List.mem_cons_self) d (List.mem_cons_of_mem _ inside) rfl

theorem Building.chunk (now : m.Building id ev counter total cell F data (tmp :: rest)) (bytes : List Byte) :
    (((m.taken id tmp).linkChunk cell data.getLast? tmp).setChunk tmp bytes).Building id ev counter total cell F
      (data ++ [tmp]) rest := by
  obtain ⟨behind, event, next⟩ := now.linked
  have free := now.freeList.taken
  have pool : ((m.taken id tmp).linkChunk cell data.getLast? tmp).pool = (m.taken id tmp).pool := linkChunk_pool _
  have taken := taken_pool m id tmp
  refine ⟨⟨?_, free.mine⟩, behind, event, ?_, now.apart, now.mine, ?_, ?_⟩
  · show Chain ((m.taken id tmp).linkChunk cell data.getLast? tmp).next
      (((m.taken id tmp).linkChunk cell data.getLast? tmp).pool id).free rest
    rw [pool]
    exact free.chain.frame next
  · rw [← now.cells, List.append_assoc]
    rfl
  · show (((m.taken id tmp).linkChunk cell data.getLast? tmp).pool id).counter = _
    rw [pool, taken, List.length_append, List.length_singleton, now.counter]
    rfl
  · show (((m.taken id tmp).linkChunk cell data.getLast? tmp).pool id).totalElements = _
    rw [pool, taken, now.total]

theorem Building.freed (now : m.Building id ev counter total cell F data rest) (variable_ : ev.isVariable = true)
    (few : data.length ≤ total) :
    (m.sndSeqCellFree cell).FreeList id (data.reverse ++ cell :: rest) ∧
      ((m.sndSeqCellFree cell).pool id).counter = counter := by
  have apart := now.apart
  rw [← now.cells, List.nodup_cons] at apart
  obtain ⟨notCell, others⟩ := apart
  have kin : cell.pool = id := now.mine cell (now.cells ▸ List.mem_cons_self)
  have held : m.heldPtr cell = data.head? := by
    have variable' : (copyOf ev ev.data.ext.len data.head?).isVariable = true := variable_
    rw [heldPtr, now.event, if_pos variable']
    rfl
  obtain ⟨freed, count⟩ := now.freeList.freeCell (fun inside => notCell (List.mem_append_right _ inside)) kin
  have behind : Chain (m.freeCell id cell).next data.head? data := by
    refine now.behind.frame fun d inside => freeCell_next ?_
    rintro rfl
    exact notCell (List.mem_append_left _ inside)
  have apart' : (data ++ cell :: rest).Nodup := List.nodup_middle.mpr (List.nodup_cons.mpr ⟨notCell, others⟩)
  have mine (d : SeqCell) (inside : d ∈ data) : d.pool = id :=
    now.mine d (now.cells ▸ List.mem_cons_of_mem _ (List.mem_append_left _ inside))
  obtain ⟨done, counts⟩ := freed.freeChain behind apart' mine (now.total ▸ few)
  rw [sndSeqCellFree_eq, held, kin]
  refine ⟨done, ?_⟩
  rw [counts, count, now.counter]
  omega

theorem taken_kept (m : SeqMemory) (id : Nat) (inside : tmp ∈ F) : KeptOutside F m (m.taken id tmp) :=
  ⟨fun _ outside => update_of_ne (ne_of_outside inside outside) .., fun _ _ => rfl, fun _ _ => rfl⟩

theorem Building.loop (now : m.Building id ev counter total cell F data rest) (nonblock : Bool) (fault : Nat → Bool)
    (ncells left : Nat) {src : SndSeqExt} (source : m.Source F src) :
    (∃ m' more rest', dupLoopWait nonblock fault id cell ncells left src data.getLast? m = (.ok cell, m') ∧
      more.length = ncells ∧ m'.Building id ev counter total cell F (data ++ more) rest' ∧ KeptOutside F m m' ∧
      (∀ d ∈ data, m'.chunk d = m.chunk d) ∧ more.map m'.chunk = m.sourceBlocks ncells left src) ∨
    ∃ (err : Int) (m' : SeqMemory) (data' rest' : List SeqCell), dupLoopWait nonblock fault id cell ncells left src data.getLast? m =
        (.error err, m'.sndSeqCellFree cell) ∧ err < 0 ∧ data'.length ≤ data.length + ncells ∧
      m'.Building id ev counter total cell F data' rest' := by
  induction ncells generalizing m data rest left src with
  | zero => exact .inl ⟨m, [], rest, rfl, rfl, by rwa [List.append_nil], .refl F m, fun _ _ => rfl, rfl⟩
  | succ ncells ih =>
    rcases allocWait_cases now.freeList nonblock with ⟨err, call, negative⟩ | ⟨tmp, rest', rfl, call⟩
    · refine .inr ⟨err, m, data, rest, ?_, negative, Nat.le_add_right .., now⟩
      rw [dupLoopWait, call]
    · rw [dupLoopWait, call]
      dsimp only
      split
      · have linked := now.chunk (((m.taken id tmp).linkChunk cell data.getLast? tmp).chunk tmp)
        have same : ((m.taken id tmp).linkChunk cell data.getLast? tmp).setChunk tmp
            (((m.taken id tmp).linkChunk cell data.getLast? tmp).chunk tmp) =
              (m.taken id tmp).linkChunk cell data.getLast? tmp := by
          rw [setChunk, update_eq_self]
        rw [same] at linked
        refine .inr ⟨-EFAULT, _, data ++ [tmp], rest', rfl, by decide, ?_, linked⟩
        rw [List.length_append, List.length_singleton]
        omega
      · have inF : tmp ∈ F := now.cells ▸ List.mem_cons_of_mem _ (List.mem_append_right _ List.mem_cons_self)
        have cellF : cell ∈ F := now.cells ▸ List.mem_cons_self
        have dataF (d : SeqCell) (inside : d ∈ data) : d ∈ F :=
          now.cells ▸ List.mem_cons_of_mem _ (List.mem_append_left _ inside)
        obtain ⟨linkKept, linkChunk⟩ := linkChunk_kept (m.taken id tmp) tmp cellF dataF
        have kept := (taken_kept m id inF).trans linkKept
        have same := (sourceChunk_kept source kept (chunkSize left)).1
        rw [same]
        have kept' := kept.trans (kept_setChunk _ inF (m.sourceChunk (chunkSize left) src).1)
        have source' := (sourceChunk_kept source kept' (chunkSize left)).2
        have source0 := (sourceChunk_kept source (.refl F m) (chunkSize left)).2
        have next := now.chunk (m.sourceChunk (chunkSize left) src).1
        have lastTmp : (data ++ [tmp]).getLast? = some tmp := List.getLast?_concat ..
        have fresh : tmp ∉ data := by
          have apart := now.apart
          rw [← now.cells] at apart
          obtain ⟨-, -, cross⟩ := List.nodup_append.mp (List.nodup_cons.mp apart).2
          exact fun inside => cross tmp inside tmp List.mem_cons_self rfl
        have wrote (d : SeqCell) (inside : d ∈ data) :
            (((m.taken id tmp).linkChunk cell data.getLast? tmp).setChunk tmp
              (m.sourceChunk (chunkSize left) src).1).chunk d = m.chunk d := by
          have other : d ≠ tmp := by
            rintro rfl
            exact fresh inside
          exact (update_of_ne other ..).trans (congrFun linkChunk d)
        rw [← lastTmp]
        rcases ih next (left - chunkSize left) source' with
          ⟨m', more, rest'', run, length, done, kept'', chunks, blocks⟩ |
          ⟨err, m', data', rest'', run, negative, few, done⟩
        · refine .inl ⟨m', tmp :: more, rest'', run, by rw [List.length_cons, length], ?_, kept'.trans kept'', ?_, ?_⟩
          · rwa [List.append_assoc] at done
          · intro d inside
            rw [chunks d (List.mem_append_left _ inside), wrote d inside]
          · rw [List.map_cons, chunks tmp (List.mem_append_right _ List.mem_cons_self), blocks,
              sourceBlocks_kept source0 kept']
            exact congrArg (· :: _) (update_self ..)
        · refine .inr ⟨err, m', data', rest'', run, negative, ?_, done⟩
          rw [List.length_append, List.length_singleton] at few
          omega

end Building

/-- A copy of an event: its cells came off the free list, its readers get the data, and freeing it gives
    each cell back once. -/
structure CopiedOut (m m' : SeqMemory) (id : Nat) (ev : SndSeqEvent) (free : List SeqCell) (cell : SeqCell)
    (data rest : List SeqCell) : Prop where
  reproduces : m'.Reproduces (m'.event cell) (m.expandVarEvent ev.data.ext)
  taken : free = cell :: (data ++ rest)
  count : data.length = (ev.data.ext.len + SIZEOF_SND_SEQ_EVENT - 1) / SIZEOF_SND_SEQ_EVENT
  left : m'.FreeList id rest
  counter : (m'.pool id).counter = (m.pool id).counter + (1 + data.length)
  freed : (m'.sndSeqCellFree cell).FreeList id (data.reverse ++ cell :: rest)
  freedCounter : ((m'.sndSeqCellFree cell).pool id).counter = (m.pool id).counter

structure GivenBack (m m' : SeqMemory) (id : Nat) (free free' : List SeqCell) : Prop where
  freeList : m'.FreeList id free'
  cells : free'.Perm free
  counter : (m'.pool id).counter = (m.pool id).counter

end SeqMemory

open SeqMemory

variable {m : SeqMemory} {id : Nat} {ev : SndSeqEvent} {free l : List SeqCell}

theorem building_start (ev : SndSeqEvent) {cell : SeqCell} {rest : List SeqCell} (freeList : m.FreeList id (cell :: rest)) :
    ((m.taken id cell).setEvent cell (copyOf ev ev.data.ext.len none)).Building id ev (m.pool id).counter
      (m.pool id).totalElements cell (cell :: rest) [] rest := by
  have taken := freeList.taken
  refine ⟨⟨taken.chain, taken.mine⟩, rfl, update_self .., rfl, freeList.chain.nodup, freeList.mine, ?_, ?_⟩
  · show ((m.taken id cell).pool id).counter = _
    rw [taken_pool]
    rfl
  · show ((m.taken id cell).pool id).totalElements = _
    rw [taken_pool]

/-- Duplicating an event with external data either copies it out or gives every cell back. -/
theorem sndSeqEventDup_roundTrip (nonblock : Bool) (fault : Nat → Bool) (variable_ : ev.isVariable = true)
    (freeList : m.FreeList id free) (filled : m.Filled ev.data.ext l) (apart : ∀ d ∈ l, d ∉ free) :
    (∃ cell m' data rest, m.sndSeqEventDupWait nonblock fault id ev = (.ok cell, m') ∧
      CopiedOut m m' id ev free cell data rest) ∨
    ∃ err m' free', m.sndSeqEventDupWait nonblock fault id ev = (.error err, m') ∧ err < 0 ∧
      GivenBack m m' id free free' := by
  rw [sndSeqEventDupWait]
  split
  · exact .inr ⟨-ENOMEM, m, free, rfl, by decide, freeList, .refl _, rfl⟩
  rename_i enough
  rcases allocWait_cases freeList nonblock with ⟨err, call, negative⟩ | ⟨cell, rest, rfl, call⟩
  · rw [call]
    exact .inr ⟨err, m, free, rfl, negative, freeList, .refl _, rfl⟩
  rw [call]
  dsimp only
  have start := building_start ev freeList
  have inF : cell ∈ cell :: rest := List.mem_cons_self
  have kept := (taken_kept m id inF).trans (kept_setEvent _ inF (copyOf ev ev.data.ext.len none))
  have source : m.Source (cell :: rest) ev.data.ext := ⟨l, filled.1, apart⟩
  have source' : ((m.taken id cell).setEvent cell (copyOf ev ev.data.ext.len none)).Source (cell :: rest) ev.data.ext :=
    ⟨l, filled.1.frame fun d inside => kept.next d (apart d inside), apart⟩
  have variable' (head : Option SeqCell) : (copyOf ev ev.data.ext.len head).isVariable = true := variable_
  rcases start.loop nonblock fault (dupCells ev) ev.data.ext.len source' with
    ⟨m', data, rest', run, length, done, -, -, blocks⟩ | ⟨err, m', data', rest', run, negative, few, done⟩
  · rw [List.nil_append] at done
    have chunks := blocks.trans (sourceBlocks_kept source kept _ _)
    have behind := done.behind
    have bytes : m'.expandVarEvent (m'.event cell).data.ext = m.expandVarEvent ev.data.ext := by
      rw [done.event]
      refine (dumpChain_eq behind (Nat.le_refl _)).trans ?_
      rw [chunks]
      exact sourceBlocks_bytes variable_ filled
    have ext : (m'.event cell).data.ext = .chained ev.data.ext.len data.head? := by
      rw [done.event]
      rfl
    have whole := reproduces_chained (done.event ▸ variable' _) ext behind
    rw [bytes] at whole
    obtain ⟨freed, counter⟩ := done.freed variable_ (by omega)
    refine .inl ⟨cell, m', data, rest', run, whole, done.cells.symm, ?_, done.freeList, ?_, freed, counter⟩
    · rw [length, dupCells, if_pos variable_]
    · rw [done.counter, Nat.add_assoc]
  · obtain ⟨freed, counter⟩ := done.freed variable_ (by simp at few; omega)
    refine .inr ⟨err, _, _, run, negative, freed, ?_, counter⟩
    rw [← done.cells]
    exact List.perm_middle.trans (List.Perm.cons _ ((List.reverse_perm _).append_right _))

def fourCells : SeqMemory := (emptyMemory.setPool 0 (sndSeqPoolNew 4)).sndSeqPoolInit 0

theorem fourCells_free : fourCells.FreeList 0 [⟨0, 3⟩, ⟨0, 2⟩, ⟨0, 1⟩, ⟨0, 0⟩] :=
  ⟨⟨rfl, rfl, rfl, rfl, rfl⟩, by decide⟩

def longSysex : SndSeqEvent :=
  { blankEvent with
    type := SNDRV_SEQ_EVENT_SYSEX, flags := SNDRV_SEQ_EVENT_LENGTH_VARIABLE
    data := { blankEvent.data with ext := .kernel 30 (List.replicate 30 0x41) } }

theorem sndSeqEventDup_roundTrip_long : ∃ cell m' data rest,
    fourCells.sndSeqEventDupWait true (fun _ => false) 0 longSysex = (.ok cell, m') ∧
      fourCells.CopiedOut m' 0 longSysex [⟨0, 3⟩, ⟨0, 2⟩, ⟨0, 1⟩, ⟨0, 0⟩] cell data rest := by
  have filled : fourCells.Filled longSysex.data.ext [] := ⟨rfl, Nat.le_of_eq List.length_replicate.symm⟩
  have room : (fourCells.sndSeqEventDupWait true (fun _ => false) 0 longSysex).1 = .ok ⟨0, 3⟩ := rfl
  rcases sndSeqEventDup_roundTrip true (fun _ => false) rfl fourCells_free filled (by simp) with
    done | ⟨err, m', free', failed, -⟩
  · exact done
  · rw [failed] at room
    cases room

end AlsaDriver.Seq
