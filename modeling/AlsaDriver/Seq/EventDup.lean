import AlsaDriver.Seq.Places

namespace AlsaDriver.Seq

open Chains Function

namespace SeqMemory

structure KeptOutside (F : List SeqCell) (m m' : SeqMemory) : Prop where
  next : ∀ d, d ∉ F → m'.next d = m.next d
  event : ∀ d, d ∉ F → m'.event d = m.event d
  chunk : ∀ d, d ∉ F → m'.chunk d = m.chunk d

theorem KeptOutside.refl (F : List SeqCell) (m : SeqMemory) : KeptOutside F m m :=
  ⟨fun _ _ => rfl, fun _ _ => rfl, fun _ _ => rfl⟩

theorem KeptOutside.trans {F : List SeqCell} {m m' m'' : SeqMemory} (first : KeptOutside F m m')
    (second : KeptOutside F m' m'') : KeptOutside F m m'' where
  next d outside := (second.next d outside).trans (first.next d outside)
  event d outside := (second.event d outside).trans (first.event d outside)
  chunk d outside := (second.chunk d outside).trans (first.chunk d outside)

section Writes

variable {F : List SeqCell} {cell : SeqCell} (m : SeqMemory)

theorem ne_of_outside {d : SeqCell} (inside : cell ∈ F) (outside : d ∉ F) : d ≠ cell := by
  rintro rfl
  exact outside inside

theorem kept_setNext (inside : cell ∈ F) (link : Option SeqCell) : KeptOutside F m (m.setNext cell link) :=
  ⟨fun _ outside => update_of_ne (ne_of_outside inside outside) .., fun _ _ => rfl, fun _ _ => rfl⟩

theorem kept_setEvent (inside : cell ∈ F) (ev : SndSeqEvent) : KeptOutside F m (m.setEvent cell ev) :=
  ⟨fun _ _ => rfl, fun _ outside => update_of_ne (ne_of_outside inside outside) .., fun _ _ => rfl⟩

theorem kept_setChunk (inside : cell ∈ F) (bytes : List Byte) : KeptOutside F m (m.setChunk cell bytes) :=
  ⟨fun _ _ => rfl, fun _ _ => rfl, fun _ outside => update_of_ne (ne_of_outside inside outside) ..⟩

end Writes

def sourceBlocks (m : SeqMemory) : Nat → Nat → SndSeqExt → List (List Byte)
  | 0, _, _ => []
  | ncells + 1, len, src =>
    let size := chunkSize len
    let (bytes, rest) := m.sourceChunk size src
    bytes :: sourceBlocks m ncells (len - size) rest

def Source (m : SeqMemory) (F : List SeqCell) (src : SndSeqExt) : Prop :=
  ∃ l, Chain m.next src.ptr l ∧ ∀ d ∈ l, d ∉ F

theorem sourceChunk_kept {F : List SeqCell} {m m' : SeqMemory} {src : SndSeqExt} (source : m.Source F src)
    (kept : KeptOutside F m m') (size : Nat) :
    m'.sourceChunk size src = m.sourceChunk size src ∧ m'.Source F (m.sourceChunk size src).2 := by
  obtain ⟨l, chain, outside⟩ := source
  cases src with
  | kernel len buf => exact ⟨rfl, [], rfl, by simp⟩
  | user len buf => exact ⟨rfl, [], rfl, by simp⟩
  | chained len ptr =>
    cases l with
    | nil =>
      have none_ : ptr = none := chain
      subst none_
      exact ⟨rfl, [], rfl, by simp⟩
    | cons c rest =>
      obtain ⟨first, later⟩ := chain
      have some_ : ptr = some c := first
      subst some_
      have here := outside c (List.mem_cons_self ..)
      refine ⟨?_, rest, ?_, fun d inside => outside d (List.mem_cons_of_mem _ inside)⟩
      · rw [sourceChunk, sourceChunk, kept.chunk c here, kept.next c here]
      · exact later.frame fun d inside => kept.next d (outside d (List.mem_cons_of_mem _ inside))

theorem sourceBlocks_kept {F : List SeqCell} {m m' : SeqMemory} {src : SndSeqExt} (source : m.Source F src)
    (kept : KeptOutside F m m') (ncells len : Nat) : m'.sourceBlocks ncells len src = m.sourceBlocks ncells len src := by
  induction ncells generalizing len src with
  | zero => rfl
  | succ ncells ih =>
    obtain ⟨same, after⟩ := sourceChunk_kept source kept (chunkSize len)
    obtain ⟨-, before⟩ := sourceChunk_kept source (.refl F m)
      (chunkSize len)
    rw [sourceBlocks, sourceBlocks, same]
    exact congrArg _ (ih before _)

end SeqMemory

open SeqMemory

section Dup

variable {T : Nat → Prop} {m m' : SeqMemory} {g : Ledger} {id : Nat} {cell : SeqCell} {hand F data : List SeqCell}
  {ev : SndSeqEvent} {len : Nat}

/-- The copy in the middle of the loop: `data` is behind the cell, and only cells of `F` were written. -/
structure Copying (T : Nat → Prop) (m : SeqMemory) (g : Ledger) (id : Nat) (ev : SndSeqEvent) (len : Nat)
    (cell : SeqCell) (hand F : List SeqCell) (data : List SeqCell) : Prop where
  owned : Owned T m g
  hand : g.hand = cell :: hand
  behind : g.lists (.behind cell) = data
  pool : cell.pool = id
  event : m.event cell = copyOf ev len data.head?
  alone : m.next cell = none
  free : ∀ d ∈ g.lists (.free id), d ∈ F
  mine : cell ∈ F
  data : ∀ d ∈ data, d ∈ F

theorem dupLoop_ok {ncells len : Nat} {src : SndSeqExt} {tail : Option SeqCell} {tmp : SeqCell}
    (call : m.sndSeqCellAlloc id = .ok (tmp, m')) :
    dupLoop id cell (ncells + 1) len src tail m =
      dupLoop id cell ncells (len - chunkSize len) ((m'.linkChunk cell tail tmp).sourceChunk (chunkSize len) src).2
        (some tmp)
        ((m'.linkChunk cell tail tmp).setChunk tmp ((m'.linkChunk cell tail tmp).sourceChunk (chunkSize len) src).1) := by
  rw [dupLoop, call]

theorem dupLoop_error {ncells len : Nat} {src : SndSeqExt} {tail : Option SeqCell} {err : Int}
    (call : m.sndSeqCellAlloc id = .error err) :
    dupLoop id cell (ncells + 1) len src tail m = (.error err, m.sndSeqCellFree cell) := by
  rw [dupLoop, call]

theorem setExtPtr_none {tmp : SeqCell} (event : m.event cell = copyOf ev len none) :
    m.setExtPtr cell tmp = m.setEvent cell (copyOf ev len (some tmp)) := by
  rw [setExtPtr, event]
  rfl

theorem setExtPtr_some {tmp first : SeqCell} (event : m.event cell = copyOf ev len (some first)) :
    m.setExtPtr cell tmp = m := by
  rw [setExtPtr, event]
  rfl

variable (m) in
theorem linkChunk_kept (tmp : SeqCell) (mine : cell ∈ F) (within : ∀ d ∈ data, d ∈ F) :
    KeptOutside F m (m.linkChunk cell data.getLast? tmp) ∧ (m.linkChunk cell data.getLast? tmp).chunk = m.chunk := by
  have ptr : KeptOutside F m (m.setExtPtr cell tmp) ∧ (m.setExtPtr cell tmp).chunk = m.chunk := by
    rw [setExtPtr]
    split
    · exact ⟨kept_setEvent _ mine _, rfl⟩
    · exact ⟨.refl F m, rfl⟩
  cases last : data.getLast? with
  | none => exact ptr
  | some tail => exact ⟨ptr.1.trans (kept_setNext _ (within tail (List.mem_of_getLast? last)) _), ptr.2⟩

theorem linkChunk_next {tmp : SeqCell} (apart : cell ∉ data) :
    (m.linkChunk cell data.getLast? tmp).next cell = m.next cell := by
  have ptr : (m.setExtPtr cell tmp).next = m.next := by
    rw [setExtPtr]
    split <;> rfl
  cases last : data.getLast? with
  | none => exact congrFun ptr cell
  | some tail =>
    have other : cell ≠ tail := by
      rintro rfl
      exact apart (List.mem_of_getLast? last)
    exact (update_of_ne other ..).trans (congrFun ptr cell)

theorem Owned.linkChunk {spare : List SeqCell} {tmp : SeqCell} (owned : Owned T m g) (mine : cell ∈ g.hand)
    (first : g.spare = tmp :: spare) (kin : tmp.pool = cell.pool) (variable_ : ev.isVariable = true)
    (behind : g.lists (.behind cell) = data) (event : m.event cell = copyOf ev len data.head?)
    (alone : m.next tmp = none) :
    ∃ h, Owned T (m.linkChunk cell data.getLast? tmp) (g.move (.behind cell) h (data ++ [tmp]) g.hand spare) ∧
      (m.linkChunk cell data.getLast? tmp).event cell = copyOf ev len (data ++ [tmp]).head? := by
  have loose := owned.loose tmp (Or.inr (first ▸ List.mem_cons_self ..))
  have chain := owned.located.chain (.behind cell)
  rcases List.eq_nil_or_concat data with empty | ⟨before, last, split⟩
  · subst empty
    rw [behind] at chain
    have linked : m.linkChunk cell ([] : List SeqCell).getLast? tmp = m.setEvent cell (copyOf ev len (some tmp)) :=
      setExtPtr_none event
    have written : (m.setEvent cell (copyOf ev len (some tmp))).event cell = copyOf ev len (some tmp) := update_self ..
    have none_ : g.head (.behind cell) = none := chain
    have pushed := owned.located.push loose (.behind cell)
    rw [none_, ← alone, update_eq_self, behind] at pushed
    have attached := owned.attach (m.linkChunk cell ([] : List SeqCell).getLast? tmp) (some tmp) mine first kin
      (by rw [linked, behind]; exact pushed) (fun e apart => by rw [linked]; exact update_of_ne apart ..)
      (by rw [linked]; rfl) (by rw [linked, heldPtr, written]; exact if_pos variable_)
    rw [behind] at attached
    refine ⟨_, attached, ?_⟩
    rw [linked, written]
    rfl
  · rw [List.concat_eq_append] at split
    subst split
    have end_ : (before ++ [last]).getLast? = some last := by simp
    have head : ∃ c, (before ++ [last]).head? = some c := by
      cases before with
      | nil => exact ⟨last, rfl⟩
      | cons c _ => exact ⟨c, rfl⟩
    obtain ⟨c, front⟩ := head
    have longer : (before ++ [last] ++ [tmp]).head? = some c := by
      rw [List.head?_append, front]
      rfl
    rw [front] at event
    have linked : m.linkChunk cell (before ++ [last]).getLast? tmp = m.setNext last (some tmp) := by
      rw [end_, SeqMemory.linkChunk, setExtPtr_some event]
    have appended := owned.located.append loose behind alone
    have same : update g.head (.behind cell) (g.head (.behind cell)) = g.head := update_eq_self ..
    have held := owned.held cell (Or.inl mine)
    have attached := owned.attach (m.linkChunk cell (before ++ [last]).getLast? tmp) (g.head (.behind cell))
      mine first kin (by rw [linked, behind, same, List.append_assoc]; exact appended) (fun e _ => by rw [linked]; rfl)
      (by rw [linked]; rfl) (by rw [linked, held]; rfl)
    rw [behind] at attached
    refine ⟨_, attached, ?_⟩
    rw [linked, longer]
    exact event

theorem Copying.chunk (now : Copying T m g id ev len cell hand F data) (tracked : T id)
    (variable_ : ev.isVariable = true) {tmp : SeqCell} (bytes : List Byte)
    (call : m.sndSeqCellAlloc id = .ok (tmp, m')) :
    ∃ g', Copying T ((m'.linkChunk cell data.getLast? tmp).setChunk tmp bytes) g' id ev len cell hand F
        (data ++ [tmp]) ∧
      g'.spare = g.spare ∧ tmp ∉ data ∧ tmp ∈ F ∧
      (∀ p, p ≠ .free id → p ≠ .behind cell → g'.lists p = g.lists p ∧ g'.head p = g.head p) ∧
      KeptOutside F m (m'.linkChunk cell data.getLast? tmp) ∧
      (m'.linkChunk cell data.getLast? tmp).chunk = m.chunk := by
  obtain ⟨rest, front, owned, event, chunk, next⟩ := now.owned.alloc tracked call
  have tmpFree : tmp ∈ g.lists (.free id) := front ▸ List.mem_cons_self ..
  have tmpF : tmp ∈ F := now.free tmp tmpFree
  have inHand : cell ∈ g.hand := now.hand ▸ List.mem_cons_self ..
  have kin : tmp.pool = cell.pool := (now.owned.fits (.free id) tmp tmpFree).trans now.pool.symm
  have away : tmp ∉ data := by
    intro inside
    rw [← now.behind] at inside
    have same := now.owned.located.apart _ _ tmp inside tmpFree
    cases same
  have allocKept : KeptOutside F m m' := by
    refine ⟨fun d outside => ?_, fun d _ => by rw [event], fun d _ => by rw [chunk]⟩
    rw [next]
    exact update_of_ne (ne_of_outside tmpF outside) ..
  have behind : (g.move (.free id) (m.next tmp) rest g.hand (tmp :: g.spare)).lists (.behind cell) = data := by
    rw [Ledger.move_lists_of_ne (by simp), now.behind]
  obtain ⟨h, linked, event'⟩ := owned.linkChunk inHand rfl kin variable_ behind (by rw [event]; exact now.event)
    (by rw [next, update_self])
  obtain ⟨kept, chunks⟩ := linkChunk_kept m' tmp now.mine now.data
  have apart : cell ∉ data := by
    rw [← now.behind]
    exact now.owned.loose cell (Or.inl inHand) _
  have other : cell ≠ tmp := by
    rintro rfl
    exact now.owned.loose cell (Or.inl inHand) _ tmpFree
  have alone : (m'.linkChunk cell data.getLast? tmp).next cell = none := by
    rw [linkChunk_next apart, next, update_of_ne other]
    exact now.alone
  refine ⟨_, ⟨linked.congr rfl rfl rfl, now.hand, update_self .., now.pool, event', alone, ?_, now.mine, ?_⟩, rfl,
    away, tmpF, ?_, allocKept.trans kept, chunks.trans chunk⟩
  · intro d inside
    rw [Ledger.move_lists_of_ne (by simp)] at inside
    rcases Ledger.mem_move.mp inside with ⟨-, here⟩ | ⟨wrong, -⟩
    · exact now.free d (front ▸ List.mem_cons_of_mem _ here)
    · exact absurd rfl wrong
  · intro d inside
    rcases List.mem_append.mp inside with old | new
    · exact now.data d old
    · exact List.mem_singleton.mp new ▸ tmpF
  · intro p notFree notBehind
    rw [Ledger.move_lists_of_ne notBehind, Ledger.move_lists_of_ne notFree, Ledger.move_head_of_ne notBehind,
      Ledger.move_head_of_ne notFree]
    exact ⟨rfl, rfl⟩

theorem sndSeqCellFree_kept (chain : Chain m.next (m.heldPtr cell) data) (apart : cell ∉ data) (mine : cell ∈ F)
    (within : ∀ d ∈ data, d ∈ F) : KeptOutside F m (m.sndSeqCellFree cell) := by
  refine ⟨fun d outside => ?_, fun d _ => by rw [sndSeqCellFree_event], fun d _ => by rw [sndSeqCellFree_chunk]⟩
  exact sndSeqCellFree_next chain apart (ne_of_outside mine outside) fun inside => outside (within d inside)

structure Undone (T : Nat → Prop) (id : Nat) (F : List SeqCell) (m m' : SeqMemory) (g g' : Ledger) : Prop where
  owned : Owned T m' g'
  same : SameBut id g g'
  spare : g'.spare = g.spare
  kept : KeptOutside F m m'

theorem Copying.loop (ncells left : Nat) {src : SndSeqExt} (now : Copying T m g id ev len cell hand F data)
    (tracked : T id) (variable_ : ev.isVariable = true) (source : m.Source F src) :
    (∃ m' g' more, dupLoop id cell ncells left src data.getLast? m = (.ok cell, m') ∧
      Copying T m' g' id ev len cell hand F (data ++ more) ∧ g'.spare = g.spare ∧
      (∀ p, p ≠ .free id → p ≠ .behind cell → g'.lists p = g.lists p ∧ g'.head p = g.head p) ∧ KeptOutside F m m' ∧
      (∀ d ∈ data, m'.chunk d = m.chunk d) ∧ more.map m'.chunk = m.sourceBlocks ncells left src) ∨
    ∃ err m' g', dupLoop id cell ncells left src data.getLast? m = (.error err, m') ∧ Owned T m' g' ∧ g'.hand = hand ∧
      g'.spare = g.spare ∧ g'.head (.behind cell) = none ∧ g'.lists (.behind cell) = [] ∧
      (∀ p, p ≠ .free id → p ≠ .behind cell → g'.lists p = g.lists p ∧ g'.head p = g.head p) ∧ KeptOutside F m m' := by
  induction ncells generalizing m g data left src with
  | zero =>
    left
    exact ⟨m, g, [], rfl, by simpa using now, rfl, fun _ _ _ => ⟨rfl, rfl⟩, .refl F m, fun _ _ => rfl, rfl⟩
  | succ ncells ih =>
    cases call : m.sndSeqCellAlloc id with
    | error err =>
      right
      have inHand : cell ∈ g.hand := now.hand ▸ List.mem_cons_self ..
      obtain ⟨g', owned, hand', spare, head, list, places⟩ := now.owned.cellFree now.hand
      have chain := now.owned.located.chain (.behind cell)
      rw [now.owned.held cell (Or.inl inHand)] at chain
      have within : ∀ d ∈ g.lists (.behind cell), d ∈ F := by
        rw [now.behind]
        exact now.data
      rw [now.pool] at places
      exact ⟨err, _, g', dupLoop_error call, owned, hand', spare, head, list, places,
        sndSeqCellFree_kept chain (now.owned.loose cell (Or.inl inHand) _) now.mine within⟩
    | ok result =>
      obtain ⟨tmp, m1⟩ := result
      rw [dupLoop_ok call]
      obtain ⟨g1, next, spare, away, tmpF, places, kept, chunks⟩ :=
        now.chunk tracked variable_ ((m1.linkChunk cell data.getLast? tmp).sourceChunk (chunkSize left) src).1 call
      have kept' := kept.trans (kept_setChunk _ tmpF
        ((m1.linkChunk cell data.getLast? tmp).sourceChunk (chunkSize left) src).1)
      obtain ⟨sameChunk, -⟩ := sourceChunk_kept source kept (chunkSize left)
      have source' := (sourceChunk_kept source kept' (chunkSize left)).2
      have source0 := (sourceChunk_kept source (.refl F m) (chunkSize left)).2
      have lastTmp : (data ++ [tmp]).getLast? = some tmp := by simp
      rw [sameChunk] at next kept' source' ⊢
      rw [← lastTmp]
      rcases ih _ next source' with ⟨m', g', more, run, done, spare', places', kept'', chunks', blocks⟩ |
        ⟨err, m', g', run, owned, hand', spare', head, list, places', kept''⟩
      · left
        refine ⟨m', g', tmp :: more, run, by simpa using done, spare'.trans spare, ?_, kept'.trans kept'', ?_, ?_⟩
        · intro p first second
          obtain ⟨lists, heads⟩ := places' p first second
          obtain ⟨lists0, heads0⟩ := places p first second
          exact ⟨lists.trans lists0, heads.trans heads0⟩
        · intro d inside
          have other : d ≠ tmp := by
            rintro rfl
            exact away inside
          rw [chunks' d (List.mem_append_left _ inside)]
          exact (update_of_ne other ..).trans (congrFun chunks d)
        · rw [List.map_cons, chunks' tmp (by simp), blocks, sourceBlocks_kept source0 kept']
          exact congrArg (· :: _) (update_self ..)
      · right
        refine ⟨err, m', g', run, owned, hand', spare'.trans spare, head, list, ?_, kept'.trans kept''⟩
        intro p first second
        obtain ⟨lists, heads⟩ := places' p first second
        obtain ⟨lists0, heads0⟩ := places p first second
        exact ⟨lists.trans lists0, heads.trans heads0⟩

structure Dupped (T : Nat → Prop) (id : Nat) (ev : SndSeqEvent) (m m' : SeqMemory) (g g' : Ledger) (cell : SeqCell)
    (data : List SeqCell) : Prop where
  owned : Owned T m' g'
  hand : g'.hand = cell :: g.hand
  spare : g'.spare = g.spare
  behind : g'.lists (.behind cell) = data
  was : cell ∈ g.lists (.free id)
  places : ∀ p, p ≠ .free id → p ≠ .behind cell → g'.lists p = g.lists p ∧ g'.head p = g.head p
  kept : KeptOutside (g.lists (.free id)) m m'
  event : m'.event cell = if ev.isVariable then copyOf ev ev.data.ext.len data.head? else ev
  alone : m'.next cell = none
  chunks : ev.isVariable → data.map m'.chunk = m.sourceBlocks (dupCells ev) ev.data.ext.len ev.data.ext

theorem undone_refl (owned : Owned T m g) (F : List SeqCell) : Undone T id F m m g g :=
  ⟨owned, ⟨rfl, fun _ _ => rfl, fun _ _ => rfl⟩, rfl, .refl F m⟩

theorem Owned.newEvent {rest : List SeqCell} (front : g.lists (.free id) = cell :: rest)
    {m1 : SeqMemory} (owned : Owned T m1 (g.move (.free id) (m.next cell) rest g.hand (cell :: g.spare)))
    (alone : (m1.setEvent cell ev).heldPtr cell = none) :
    ∃ g', Owned T (m1.setEvent cell ev) g' ∧ g'.hand = cell :: g.hand ∧ g'.spare = g.spare ∧
      g'.lists (.behind cell) = [] ∧ (∀ d ∈ g'.lists (.free id), d ∈ g.lists (.free id)) ∧
      ∀ p, p ≠ .free id → p ≠ .behind cell → g'.lists p = g.lists p ∧ g'.head p = g.head p := by
  refine ⟨_, owned.write rfl ev alone, rfl, rfl, update_self .., ?_, ?_⟩
  · intro d inside
    rw [Ledger.move_lists_of_ne (by simp)] at inside
    rcases Ledger.mem_move.mp inside with ⟨-, here⟩ | ⟨wrong, -⟩
    · exact front ▸ List.mem_cons_of_mem _ here
    · exact absurd rfl wrong
  · intro p first second
    rw [Ledger.move_lists_of_ne second, Ledger.move_lists_of_ne first, Ledger.move_head_of_ne second,
      Ledger.move_head_of_ne first]
    exact ⟨rfl, rfl⟩

theorem sndSeqEventDup_cases (owned : Owned T m g) (tracked : T id)
    (source : ev.isVariable → m.Source (g.lists (.free id)) ev.data.ext) :
    (∃ cell m' g' data, m.sndSeqEventDup id ev = (.ok cell, m') ∧ Dupped T id ev m m' g g' cell data) ∨
      ∃ err m' g', m.sndSeqEventDup id ev = (.error err, m') ∧ Undone T id (g.lists (.free id)) m m' g g' := by
  rw [sndSeqEventDup]
  split
  · exact Or.inr ⟨_, m, g, rfl, undone_refl owned _⟩
  · cases call : m.sndSeqCellAlloc id with
    | error err => exact Or.inr ⟨err, m, g, rfl, undone_refl owned _⟩
    | ok result =>
      obtain ⟨cell, m1⟩ := result
      obtain ⟨rest, front, taken, event, chunk, next⟩ := owned.alloc tracked call
      have was : cell ∈ g.lists (.free id) := front ▸ List.mem_cons_self ..
      have alone1 : m1.next cell = none := by
        rw [next, update_self]
      have allocKept : KeptOutside (g.lists (.free id)) m m1 := by
        refine ⟨fun d outside => ?_, fun d _ => by rw [event], fun d _ => by rw [chunk]⟩
        rw [next]
        exact update_of_ne (ne_of_outside was outside) ..
      dsimp only
      split
      · rename_i variable_
        have written : (m1.setEvent cell (copyOf ev ev.data.ext.len none)).event cell = copyOf ev ev.data.ext.len none :=
          update_self ..
        have alone : (m1.setEvent cell (copyOf ev ev.data.ext.len none)).heldPtr cell = none := by
          rw [heldPtr, written]
          exact if_pos variable_
        obtain ⟨g1, start, hand1, spare1, behind1, free1, places1⟩ := taken.newEvent front alone
        have kept1 := allocKept.trans (kept_setEvent m1 was (copyOf ev ev.data.ext.len none))
        have source1 : (m1.setEvent cell (copyOf ev ev.data.ext.len none)).Source (g.lists (.free id)) ev.data.ext := by
          obtain ⟨l, chain, outside⟩ := source variable_
          exact ⟨l, chain.frame fun d inside => kept1.next d (outside d inside), outside⟩
        have copying : Copying T (m1.setEvent cell (copyOf ev ev.data.ext.len none)) g1 id ev ev.data.ext.len cell g.hand
            (g.lists (.free id)) [] :=
          ⟨start, hand1, behind1, owned.fits (.free id) cell was, written, alone1, free1, was, by simp⟩
        rcases copying.loop (dupCells ev) ev.data.ext.len tracked variable_ source1 with
          ⟨m', g', data, run, done, spare, places, kept, -, blocks⟩ |
          ⟨err, m', g', run, owned', hand, spare, head, list, places, kept⟩
        · left
          refine ⟨cell, m', g', data, run, done.owned, done.hand, spare.trans spare1, done.behind, was, ?_,
            kept1.trans kept, ?_, done.alone, fun _ => ?_⟩
          · intro p first second
            obtain ⟨lists, heads⟩ := places p first second
            obtain ⟨lists1, heads1⟩ := places1 p first second
            exact ⟨lists.trans lists1, heads.trans heads1⟩
          · rw [if_pos variable_]
            exact done.event
          · rw [blocks]
            exact sourceBlocks_kept (source variable_) kept1 _ _
        · right
          have notHeld := owned.not_held_of_free was
          refine ⟨err, m', g', run, owned', ⟨hand, fun p other => ?_, fun p other => ?_⟩, spare.trans spare1,
            kept1.trans kept⟩
          · by_cases same : p = .behind cell
            · rw [same, head, owned.no_head notHeld]
            · exact (places p other same).2.trans (places1 p other same).2
          · by_cases same : p = .behind cell
            · rw [same, list, owned.idle cell notHeld]
            · exact (places p other same).1.trans (places1 p other same).1
      · rename_i fixed
        have written : (m1.setEvent cell ev).event cell = ev := update_self ..
        have alone : (m1.setEvent cell ev).heldPtr cell = none := by
          rw [heldPtr, written]
          exact if_neg fixed
        obtain ⟨g1, start, hand1, spare1, behind1, -, places1⟩ := taken.newEvent front alone
        left
        refine ⟨cell, _, g1, [], rfl, start, hand1, spare1, behind1, was, places1,
          allocKept.trans (kept_setEvent m1 was ev), ?_, alone1, fun variable_ => absurd variable_ fixed⟩
        rw [if_neg fixed]
        exact written

theorem sndSeqCellAlloc_error {err : Int} (call : m.sndSeqCellAlloc id = .error err) : err < 0 := by
  simp only [sndSeqCellAlloc] at call
  split at call
  · cases call
    decide
  · split at call
    · cases call
      decide
    · split at call
      · cases call
        decide
      · cases call

theorem dupLoop_error_neg {ncells left : Nat} {src : SndSeqExt} {tail : Option SeqCell} {err : Int}
    (call : dupLoop id cell ncells left src tail m = (.error err, m')) : err < 0 := by
  induction ncells generalizing left src tail m with
  | zero => cases call
  | succ ncells ih =>
    cases alloc : m.sndSeqCellAlloc id with
    | error err' =>
      rw [dupLoop_error alloc] at call
      cases call
      exact sndSeqCellAlloc_error alloc
    | ok result =>
      rw [dupLoop_ok alloc] at call
      exact ih call

theorem sndSeqEventDup_error {err : Int} (call : m.sndSeqEventDup id ev = (.error err, m')) : err < 0 := by
  rw [sndSeqEventDup] at call
  split at call
  · cases call
    decide
  · split at call
    · rename_i alloc
      cases call
      exact sndSeqCellAlloc_error alloc
    · split at call
      · exact dupLoop_error_neg call
      · cases call

end Dup

end AlsaDriver.Seq
