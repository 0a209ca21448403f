import AlsaDriver.Seq.EventDup

namespace AlsaDriver.Seq

open Chains Function

namespace SeqMemory

/-- `len` bytes out of chunks. -/
def joinBlocks : Nat → List (List Byte) → List Byte
  | _, [] => []
  | len, bytes :: rest => bytes.take (chunkSize len) ++ joinBlocks (len - chunkSize len) rest

theorem chunkSize_le (len : Nat) : chunkSize len ≤ len := by
  rw [chunkSize]
  split <;> omega

theorem chunkSize_pos {len : Nat} (some_ : 0 < len) : 0 < chunkSize len := by
  rw [chunkSize, SIZEOF_SND_SEQ_EVENT]
  split <;> omega

theorem left_le {len n : Nat} (few : len ≤ SIZEOF_SND_SEQ_EVENT * (n + 1)) :
    len - chunkSize len ≤ SIZEOF_SND_SEQ_EVENT * n := by
  rw [SIZEOF_SND_SEQ_EVENT] at few ⊢
  rw [chunkSize, SIZEOF_SND_SEQ_EVENT]
  split <;> omega

theorem joinBlocks_zero (blocks : List (List Byte)) : joinBlocks 0 blocks = [] := by
  induction blocks with
  | nil => rfl
  | cons bytes rest ih => simpa [joinBlocks, chunkSize, SIZEOF_SND_SEQ_EVENT] using ih

theorem joinBlocks_take {len n : Nat} (few : len ≤ SIZEOF_SND_SEQ_EVENT * n) (blocks : List (List Byte)) :
    joinBlocks len (blocks.take n) = joinBlocks len blocks := by
  induction blocks generalizing len n with
  | nil => simp
  | cons bytes rest ih =>
    cases n with
    | zero =>
      have none_ : len = 0 := Nat.le_zero.mp few
      subst none_
      rw [joinBlocks_zero, joinBlocks_zero]
    | succ n => rw [List.take_succ_cons, joinBlocks, joinBlocks, ih (left_le few)]

theorem dumpChain_eq {m : SeqMemory} {fuel len : Nat} {ptr : Option SeqCell} {data : List SeqCell}
    (chain : Chain m.next ptr data) (enough : len ≤ fuel) :
    m.dumpChain fuel len ptr = joinBlocks len (data.map m.chunk) := by
  induction fuel generalizing len ptr data with
  | zero =>
    have none_ : len = 0 := Nat.le_zero.mp enough
    subst none_
    rw [joinBlocks_zero, dumpChain]
  | succ fuel ih =>
    cases len with
    | zero => exact (joinBlocks_zero _).symm
    | succ len =>
      cases data with
      | nil =>
        have none_ : ptr = none := chain
        subst none_
        rfl
      | cons c rest =>
        obtain ⟨first, later⟩ := chain
        subst first
        have some_ : 0 < chunkSize (len + 1) := chunkSize_pos (Nat.succ_pos len)
        have fewer : len + 1 - chunkSize (len + 1) ≤ fuel := by omega
        show (m.chunk c).take (chunkSize (len + 1)) ++ m.dumpChain fuel (len + 1 - chunkSize (len + 1)) (m.next c) = _
        rw [List.map_cons, joinBlocks, ih later fewer]

theorem sourceBlocks_buffer {m : SeqMemory} {n len total : Nat} {buf : List Byte} {src : Nat → List Byte → SndSeqExt}
    (kinds : src = .kernel ∨ src = .user) (few : len ≤ SIZEOF_SND_SEQ_EVENT * n) :
    joinBlocks len (m.sourceBlocks n len (src total buf)) = buf.take len := by
  induction n generalizing len buf with
  | zero =>
    have none_ : len = 0 := Nat.le_zero.mp few
    subst none_
    rw [joinBlocks_zero, List.take_zero]
  | succ n ih =>
    have chunk : m.sourceChunk (chunkSize len) (src total buf) =
        (buf.take (chunkSize len), src total (buf.drop (chunkSize len))) := by
      rcases kinds with kind | kind <;> rw [kind] <;> rfl
    have split : chunkSize len + (len - chunkSize len) = len := Nat.add_sub_of_le (chunkSize_le len)
    rw [sourceBlocks, chunk]
    dsimp only
    rw [joinBlocks, ih (left_le few), List.take_take, Nat.min_self, ← List.take_add, split]

theorem sourceBlocks_chained {m : SeqMemory} {n len total : Nat} {ptr : Option SeqCell} {l : List SeqCell}
    (chain : Chain m.next ptr l) (many : n ≤ l.length) :
    m.sourceBlocks n len (.chained total ptr) = (l.map m.chunk).take n := by
  induction n generalizing len ptr l with
  | zero => rfl
  | succ n ih =>
    cases l with
    | nil => exact absurd many (Nat.not_succ_le_zero _)
    | cons c rest =>
      obtain ⟨first, later⟩ := chain
      subst first
      rw [sourceBlocks, sourceChunk]
      dsimp only
      rw [ih later (Nat.le_of_succ_le_succ many), List.map_cons, List.take_succ_cons]

def Filled (m : SeqMemory) (ext : SndSeqExt) (l : List SeqCell) : Prop :=
  Chain m.next ext.ptr l ∧
    match ext with
    | .kernel len buf | .user len buf => len ≤ buf.length
    | .chained len _ => len ≤ SIZEOF_SND_SEQ_EVENT * l.length

theorem userOf_congr {m m' : SeqMemory} {cell : SeqCell} {data : List SeqCell}
    (chain : Chain m.next (m.heldPtr cell) data) (event : m'.event cell = m.event cell)
    (next : ∀ d ∈ data, m'.next d = m.next d) (chunk : ∀ d ∈ data, m'.chunk d = m.chunk d) :
    m'.userOf (m'.event cell) = m.userOf (m.event cell) := by
  rw [event, userOf, userOf]
  split
  · rename_i variable_
    rw [heldPtr, if_pos variable_] at chain
    cases ext : (m.event cell).data.ext with
    | kernel len buf => rfl
    | user len buf => rfl
    | chained len ptr =>
      rw [ext] at chain
      have here : Chain m.next ptr data := chain
      have there : Chain m'.next ptr data := here.frame next
      have blocks : data.map m'.chunk = data.map m.chunk := List.map_congr_left chunk
      simp only [expandVarEvent, dumpChain_eq here (Nat.le_refl len), dumpChain_eq there (Nat.le_refl len), blocks]
  · rfl

end SeqMemory

open SeqMemory

theorem len_le_dupCells {ev : SndSeqEvent} (variable_ : ev.isVariable = true) :
    ev.data.ext.len ≤ SIZEOF_SND_SEQ_EVENT * dupCells ev := by
  rw [dupCells, if_pos variable_, SIZEOF_SND_SEQ_EVENT]
  omega

theorem dupCells_le {ev : SndSeqEvent} {n : Nat} (few : ev.data.ext.len ≤ SIZEOF_SND_SEQ_EVENT * n) : dupCells ev ≤ n := by
  rw [dupCells]
  rw [SIZEOF_SND_SEQ_EVENT] at few ⊢
  split <;> omega

theorem sourceBlocks_bytes {m : SeqMemory} {ev : SndSeqEvent} {l : List SeqCell} (variable_ : ev.isVariable = true)
    (filled : m.Filled ev.data.ext l) :
    joinBlocks ev.data.ext.len (m.sourceBlocks (dupCells ev) ev.data.ext.len ev.data.ext) =
      m.expandVarEvent ev.data.ext := by
  have few := len_le_dupCells variable_
  obtain ⟨source, enough⟩ := filled
  cases ext : ev.data.ext with
  | kernel len buf =>
    rw [ext] at few
    exact sourceBlocks_buffer (Or.inl rfl) few
  | user len buf =>
    rw [ext] at few
    exact sourceBlocks_buffer (Or.inr rfl) few
  | chained len ptr =>
    rw [ext] at few source enough
    have many : dupCells ev ≤ l.length := dupCells_le (by rw [ext]; exact enough)
    have source : Chain m.next ptr l := source
    show joinBlocks len (m.sourceBlocks (dupCells ev) len (.chained len ptr)) = _
    rw [sourceBlocks_chained source many]
    have same := joinBlocks_take few (l.map m.chunk)
    exact same.trans (dumpChain_eq source (Nat.le_refl len)).symm

theorem Dupped.userOf {T : Nat → Prop} {m m' : SeqMemory} {g g' : Ledger} {id : Nat} {ev : SndSeqEvent} {cell : SeqCell}
    {data l : List SeqCell} (dupped : Dupped T id ev m m' g g' cell data)
    (filled : ev.isVariable → m.Filled ev.data.ext l) : m'.userOf (m'.event cell) = m.userOf ev := by
  have mine : cell ∈ g'.hand := dupped.hand ▸ List.mem_cons_self ..
  have chain := dupped.owned.located.chain (.behind cell)
  rw [dupped.owned.held cell (Or.inl mine), dupped.behind] at chain
  rw [dupped.event]
  by_cases variable_ : ev.isVariable
  · have bytes : m'.dumpChain ev.data.ext.len ev.data.ext.len data.head? = m.expandVarEvent ev.data.ext := by
      rw [heldPtr, dupped.event, if_pos variable_] at chain
      have here : Chain m'.next data.head? data := by
        have variable' : (copyOf ev ev.data.ext.len data.head?).isVariable = true := variable_
        rwa [if_pos variable'] at chain
      rw [dumpChain_eq here (Nat.le_refl _), dupped.chunks variable_]
      exact sourceBlocks_bytes variable_ (filled variable_)
    have variable' : (copyOf ev ev.data.ext.len data.head?).isVariable = true := variable_
    rw [if_pos variable_, SeqMemory.userOf, SeqMemory.userOf, if_pos variable_, if_pos variable']
    show ({ ev with data := { ev.data with ext := .kernel ev.data.ext.len _ } } : SndSeqEvent) = _
    rw [← bytes]
    rfl
  · rw [if_neg variable_, SeqMemory.userOf, SeqMemory.userOf, if_neg variable_, if_neg variable_]

end AlsaDriver.Seq
