import Mathlib

namespace AlsaDriver.Memory

def pageShift : Nat := 12
def pageSize : Nat := 4096

structure SndSgPage where
  buf : Nat
  addr : Nat

/-- `addr & PAGE_MASK`. -/
def pageMask (addr : Nat) : Nat := addr >>> pageShift <<< pageShift

section table

variable (table : Nat → SndSgPage)

def pageOf (k : Nat) : Nat := (table k).addr >>> pageShift

def sndSgbufGetAddr (offset : Nat) : Nat := pageMask (table (offset >>> pageShift)).addr + offset % pageSize

/-- The loop of `snd_sgbuf_get_chunk_size` with `left` pages up to `end`; `pg` has 32 bits. -/
def chunkLoop (ofs size : Nat) : Nat → Nat → Nat → Nat
  | 0, _, _ => size
  | left + 1, start, pg =>
    if pageOf table (start + 1) = (pg + 1) % 2 ^ 32 then chunkLoop ofs size left (start + 1) ((pg + 1) % 2 ^ 32)
    else (start + 1) <<< pageShift - ofs

def sndSgbufGetChunkSize (ofs size : Nat) : Nat :=
  let start := ofs >>> pageShift
  let last := (ofs + size - 1) >>> pageShift
  chunkLoop table ofs size (last - start) start (pageOf table start % 2 ^ 32)

def Narrow : Prop := ∀ k, pageOf table k + 1 < 2 ^ 32

variable {table}

theorem sndSgbufGetAddr_eq (table : Nat → SndSgPage) (offset : Nat) :
    sndSgbufGetAddr table offset = pageOf table (offset / 4096) * 4096 + offset % 4096 := by
  simp [sndSgbufGetAddr, pageMask, pageOf, pageShift, pageSize, Nat.shiftLeft_eq, Nat.shiftRight_eq_div_pow]

/-- `n` bytes from `ofs` are in one piece. -/
def Straight (table : Nat → SndSgPage) (ofs n : Nat) : Prop :=
  ∀ i < n, sndSgbufGetAddr table (ofs + i) = sndSgbufGetAddr table ofs + i

theorem straight_of_pages {ofs n first : Nat} (here : ofs / 4096 = first)
    (pages : ∀ k, first + k ≤ (ofs + n - 1) / 4096 → pageOf table (first + k) = pageOf table first + k) : Straight table ofs n := by
  intro i inside
  obtain ⟨k, at_k⟩ := Nat.exists_eq_add_of_le (show first ≤ (ofs + i) / 4096 by omega)
  have page := pages k (by omega)
  rw [sndSgbufGetAddr_eq, sndSgbufGetAddr_eq, at_k, page, here]
  omega

theorem chunkLoop_spec (narrow : Narrow table) {ofs size left start pg first k : Nat} (some_ : 0 < size) (here : ofs / 4096 = first)
    (at_k : start = first + k) (stop : start + left = (ofs + size - 1) / 4096) (number : pg = pageOf table first + k)
    (pages : ∀ j ≤ k, pageOf table (first + j) = pageOf table first + j) :
    0 < chunkLoop table ofs size left start pg ∧ chunkLoop table ofs size left start pg ≤ size ∧
      Straight table ofs (chunkLoop table ofs size left start pg) ∧
      (chunkLoop table ofs size left start pg = size ∨ (ofs + chunkLoop table ofs size left start pg) % 4096 = 0) := by
  induction left generalizing start pg k with
  | zero =>
    have all : Straight table ofs size := by
      apply straight_of_pages here
      intro j near
      apply pages
      omega
    exact ⟨some_, Nat.le_refl _, all, .inl rfl⟩
  | succ left ih =>
    have fits := narrow start
    have near := pages k (Nat.le_refl k)
    rw [at_k, near] at fits
    have next : (pg + 1) % 2 ^ 32 = pageOf table first + (k + 1) := by
      rw [number, Nat.mod_eq_of_lt (show pageOf table first + k + 1 < 2 ^ 32 from fits)]
      omega
    rw [chunkLoop, next]
    by_cases more : pageOf table (start + 1) = pageOf table first + (k + 1)
    · rw [if_pos more]
      apply ih (k := k + 1)
      · omega
      · omega
      · rfl
      · intro j near
        rcases Nat.le_succ_iff.mp near with old | last
        · exact pages j old
        · subst last
          rw [← more]
          congr 1
          omega
    · rw [if_neg more]
      have size_eq : (start + 1) <<< pageShift - ofs = (start + 1) * 4096 - ofs := by
        simp [pageShift, Nat.shiftLeft_eq]
      rw [size_eq]
      refine ⟨by omega, by omega, ?_, .inr (by omega)⟩
      apply straight_of_pages here
      intro j near
      apply pages
      omega

theorem chunkSize_spec (narrow : Narrow table) (ofs : Nat) {size : Nat} (some_ : 0 < size) :
    0 < sndSgbufGetChunkSize table ofs size ∧ sndSgbufGetChunkSize table ofs size ≤ size ∧
      Straight table ofs (sndSgbufGetChunkSize table ofs size) ∧
      (sndSgbufGetChunkSize table ofs size = size ∨ (ofs + sndSgbufGetChunkSize table ofs size) % 4096 = 0) := by
  have fits := narrow (ofs / 4096)
  have shift : ∀ n, n >>> pageShift = n / 4096 := by
    intro n
    simp [pageShift, Nat.shiftRight_eq_div_pow]
  unfold sndSgbufGetChunkSize
  simp only [shift]
  apply chunkLoop_spec narrow some_ rfl (k := 0)
  · rfl
  · omega
  · rw [Nat.mod_eq_of_lt (show pageOf table (ofs / 4096) < 2 ^ 32 by omega)]
    rfl
  · intro j near
    rw [Nat.le_zero.mp near]
    rfl

theorem Straight.mono {ofs n m : Nat} (straight : Straight table ofs n) (less : m ≤ n) : Straight table ofs m :=
  fun i inside => straight i (Nat.lt_of_lt_of_le inside less)

end table

end AlsaDriver.Memory
