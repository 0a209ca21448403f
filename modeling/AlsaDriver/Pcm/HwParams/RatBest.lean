import AlsaDriver.Lib.Aligned
import AlsaDriver.Lib.Nearest
import AlsaDriver.Pcm.HwParams.IntervalMeet

namespace AlsaDriver.Pcm

open OpenBounds Nearest Aligned

def divUp (a b : UInt32) : UInt32 :=
  if b == 0 then UINT_MAX
  else
    let (q, r) := div32 a b
    if r != 0 then q + 1 else q

/-- `best_num`, `best_den` and `best_diff` of `snd_interval_ratnum` and `snd_interval_ratden`. -/
structure RatBest where
  num : UInt32
  den : UInt32
  diff : UInt32
  deriving DecidableEq, Repr

def RatBest.start : RatBest := ⟨0, 0, 0⟩

def ratNearer (best c : RatBest) : Bool := best.num == 0 || c.diff * best.den < best.diff * c.den

/-- The search of one end; `none` stands for the entries that the loop skips. -/
def ratLoop {R : Type} (candidate : R → Option RatBest) : List R → RatBest → RatBest
  | [], best => best
  | r :: rest, best =>
    match candidate r with
    | none => ratLoop candidate rest best
    | some c => ratLoop candidate rest (if ratNearer best c then c else best)

/-- The interval `t` between the two candidates. -/
def ratBounds (low high : RatBest) : SndInterval where
  min := divDown low.num low.den
  max := divUp high.num high.den
  openmin := low.num % low.den != 0
  openmax := high.num % high.den != 0
  integer := false
  empty := false

/-- What a search returns: the status, the interval, and what it writes through `nump` and `denp`. -/
structure RatResult where
  err : Int
  interval : SndInterval
  reported : Option (UInt32 × UInt32)
  deriving DecidableEq, Repr

def ratRefine (i : SndInterval) (low high single : RatBest) : RatResult :=
  let (err, j) := sndIntervalRefine i (ratBounds low high)
  ⟨err, j, if 0 ≤ err ∧ sndIntervalSingle j then some (single.num, single.den) else none⟩

theorem EINVAL_negative : -EINVAL < 0 := by decide

def ratFail (i : SndInterval) : RatResult := ⟨-EINVAL, { i with empty := true }, none⟩

structure KeepsRealisable (realisable : ℚ → Prop) (i : SndInterval) (result : RatResult) : Prop where
  kept : ∀ v, realisable v → i.Contains v → result.interval.Contains v
  fails : result.err < 0 → ∀ v, realisable v → ¬ i.Contains v

namespace RatBest

def stale (c : RatBest) : Bool := c.num == 0

def value (c : RatBest) : ℚ := (c.num.toNat : ℚ) / c.den.toNat

def cost (c : RatBest) : ℚ := (c.diff.toNat : ℚ) / c.den.toNat

def CrossFits (a b : RatBest) : Prop :=
  a.diff.toNat * b.den.toNat < 2 ^ 32 ∧ b.diff.toNat * a.den.toNat < 2 ^ 32

instance (a b : RatBest) : Decidable (CrossFits a b) := inferInstanceAs (Decidable (_ ∧ _))

end RatBest

open RatBest

theorem divUp_toNat (a b : UInt32) (positive : 0 < b.toNat) :
    (divUp a b).toNat = a.toNat / b.toNat + if a.toNat % b.toNat = 0 then 0 else 1 := by
  have nonzero : (b == 0) = false := beq_eq_false_iff_ne.mpr ((ne_zero_iff_toNat b).mpr positive)
  unfold divUp div32
  rw [nonzero]
  simp only [Bool.false_eq_true, if_false, bne_iff_ne, ne_eq, ← UInt32.toNat_inj, UInt32.toNat_mod, UInt32.toNat_zero]
  split
  · rename_i inexact
    rw [UInt32.toNat_add, UInt32.toNat_div, UInt32.toNat_one]
    have bound := a.toNat_lt
    have split := Nat.div_add_mod a.toNat b.toNat
    have smaller : a.toNat / b.toNat ≤ b.toNat * (a.toNat / b.toNat) := Nat.le_mul_of_pos_left _ positive
    rw [Nat.mod_eq_of_lt]
    omega
  · rename_i whole
    rw [if_pos (not_not.mp whole), UInt32.toNat_div, add_zero]

theorem divDown_toNat (a b : UInt32) (positive : 0 < b.toNat) : (divDown a b).toNat = a.toNat / b.toNat := by
  rw [divDown, if_neg (by rw [beq_iff_eq]; exact (ne_zero_iff_toNat b).mpr positive), UInt32.toNat_div]

theorem remainder_open (a b : UInt32) : (a % b != 0) = decide (a.toNat % b.toNat ≠ 0) := by
  rw [Bool.eq_iff_iff, bne_iff_ne, decide_eq_true_iff, ne_eq, ← UInt32.toNat_inj, UInt32.toNat_mod, UInt32.toNat_zero]

theorem toNat_sub_mod {a b s : UInt32} (below : b.toNat ≤ a.toNat) :
    (((a - b) % s).toNat : Int) = ((a.toNat : Int) - b.toNat) % s.toNat := by
  rw [UInt32.toNat_mod, UInt32.toNat_sub_of_le _ _ (UInt32.le_iff_toNat_le.mpr below), Int.natCast_mod, Nat.cast_sub below]

theorem alignUp_toNat {a o s : UInt32} (below : o.toNat ≤ a.toNat) (positive : 0 < s.toNat)
    (fits : (up false o.toNat s.toNat (a.toNat : Int)).toNat < 2 ^ 32) :
    (if (a - o) % s != 0 then a + (s - (a - o) % s) else a).toNat = (up false o.toNat s.toNat (a.toNat : Int)).toNat := by
  have remainder := toNat_sub_mod (s := s) below
  have smaller : ((a - o) % s).toNat < s.toNat := by
    rw [UInt32.toNat_mod]
    exact Nat.mod_lt _ positive
  rw [up, ← remainder] at fits ⊢
  simp only [bne_iff_ne, ne_eq, ← UInt32.toNat_inj, UInt32.toNat_zero, Bool.false_eq_true, or_false] at fits ⊢
  split
  · rename_i moves
    have moves' : ¬ (((a - o) % s).toNat : Int) = 0 := by exact_mod_cast moves
    have gap : (s - (a - o) % s).toNat = s.toNat - ((a - o) % s).toNat :=
      UInt32.toNat_sub_of_le _ _ (UInt32.le_iff_toNat_le.mpr smaller.le)
    rw [if_pos moves'] at fits ⊢
    rw [UInt32.toNat_add, gap]
    omega
  · rename_i still
    have still' : (((a - o) % s).toNat : Int) = 0 := by exact_mod_cast not_not.mp still
    rw [if_neg (not_not.mpr still')]
    rfl

theorem alignDown_toNat {a o s : UInt32} (below : o.toNat ≤ a.toNat) :
    (if (a - o) % s != 0 then a - (a - o) % s else a).toNat = (down o.toNat s.toNat (a.toNat : Int)).toNat := by
  have remainder := toNat_sub_mod (s := s) below
  have part : ((a - o) % s).toNat ≤ a.toNat := by
    rw [UInt32.toNat_mod, UInt32.toNat_sub_of_le _ _ (UInt32.le_iff_toNat_le.mpr below)]
    exact (Nat.mod_le _ _).trans (Nat.sub_le _ _)
  rw [down, ← remainder]
  simp only [bne_iff_ne, ne_eq, ← UInt32.toNat_inj, UInt32.toNat_zero]
  split
  · rw [UInt32.toNat_sub_of_le _ _ (UInt32.le_iff_toNat_le.mpr part)]
    omega
  · rename_i still
    rw [not_not.mp still]
    omega

theorem filterMap_guard {A B : Type} (p : A → Bool) (g : A → B) (l : List A) :
    (l.filterMap fun a => if p a then some (g a) else none) = (l.filter p).map g := by
  induction l with
  | nil => rfl
  | cons a l ih =>
    rw [List.filterMap_cons, List.filter_cons, ih]
    cases p a <;> rfl

theorem crossProduct_lt_iff {best c : RatBest} (fits : CrossFits best c) (positive : 0 < best.den.toNat)
    (positive' : 0 < c.den.toNat) : c.diff * best.den < best.diff * c.den ↔ c.cost < best.cost := by
  have product : (c.diff * best.den).toNat = c.diff.toNat * best.den.toNat := by
    rw [UInt32.toNat_mul, Nat.mod_eq_of_lt fits.2]
  have product' : (best.diff * c.den).toNat = best.diff.toNat * c.den.toNat := by
    rw [UInt32.toNat_mul, Nat.mod_eq_of_lt fits.1]
  have left : (0 : ℚ) < best.den.toNat := Nat.cast_pos.mpr positive
  have right : (0 : ℚ) < c.den.toNat := Nat.cast_pos.mpr positive'
  rw [UInt32.lt_iff_toNat_lt, product, product', cost, cost, div_lt_div_iff₀ right left]
  exact_mod_cast Iff.rfl

theorem ratNearer_iff {best c : RatBest} (fits : CrossFits best c) (positive : 0 < best.den.toNat)
    (positive' : 0 < c.den.toNat) : ratNearer best c = true ↔ best.stale ∨ c.cost < best.cost := by
  rw [ratNearer, Bool.or_eq_true, decide_eq_true_iff, crossProduct_lt_iff fits positive positive', stale]

theorem ratLoop_eq {R : Type} (candidate : R → Option RatBest) (rats : List R) (best : RatBest) :
    ratLoop candidate rats best =
      (rats.filterMap candidate).foldl (fun best c => if ratNearer best c then c else best) best := by
  induction rats generalizing best with
  | nil => rfl
  | cons r rest ih =>
    rw [ratLoop]
    cases found : candidate r with
    | none =>
      rw [List.filterMap_cons_none found]
      exact ih best
    | some c =>
      rw [List.filterMap_cons_some found, List.foldl_cons]
      exact ih _

theorem foldl_ratNearer {l : List RatBest} (fits : l.Pairwise CrossFits) (positive : ∀ c ∈ l, 0 < c.den.toNat) :
    l.foldl (fun best c => if ratNearer best c then c else best) .start =
      (l.foldl (pick stale cost) none).getD .start := by
  induction l using List.reverseRecOn with
  | nil => rfl
  | append_singleton l c ih =>
    obtain ⟨fits, -, against⟩ := List.pairwise_append.mp fits
    have here : c ∈ l ++ [c] := List.mem_append_right _ List.mem_cons_self
    rw [List.foldl_append, ih fits fun d inside => positive d (List.mem_append_left _ inside), foldl_pick_concat,
      List.foldl_cons, List.foldl_nil]
    cases best : l.foldl (pick stale cost) none with
    | none => rfl
    | some b =>
      have inside := foldl_pick_mem best
      have same := ratNearer_iff (against b inside c List.mem_cons_self) (positive b (List.mem_append_left _ inside))
        (positive c here)
      rw [Option.getD_some, pick]
      by_cases nearer : ratNearer b c = true
      · rw [if_pos nearer, if_pos (same.mp nearer), Option.getD_some]
      · rw [if_neg nearer, if_neg fun other => nearer (same.mpr other), Option.getD_some]

theorem ratLoop_pick {R : Type} {candidate : R → Option RatBest} {rats : List R}
    (fits : (rats.filterMap candidate).Pairwise CrossFits)
    (positive : ∀ c ∈ rats.filterMap candidate, 0 < c.den.toNat) :
    ratLoop candidate rats .start = ((rats.filterMap candidate).foldl (pick stale cost) none).getD .start := by
  rw [ratLoop_eq, foldl_ratNearer fits positive]

theorem ratLoop_nearest {R : Type} {candidate : R → Option RatBest} {g : R → RatBest} {gap : R → ℚ} {p : R → Bool}
    {rats : List R} (candidates : rats.filterMap candidate = (rats.filter p).map g)
    (fits : (rats.filterMap candidate).Pairwise CrossFits)
    (real : ∀ r ∈ rats.filter p, 0 < (g r).num.toNat ∧ 0 < (g r).den.toNat ∧ cost (g r) = gap r)
    (some_ : rats.filter p ≠ []) :
    ∃ b, FirstLeast gap (rats.filter p) b ∧ ratLoop candidate rats .start = g b := by
  have den (c : RatBest) (inside : c ∈ rats.filterMap candidate) : 0 < c.den.toNat := by
    rw [candidates] at inside
    obtain ⟨r, there, rfl⟩ := List.mem_map.mp inside
    exact (real r there).2.1
  have fresh (c : RatBest) (inside : c ∈ (rats.filterMap candidate).dropLast) : ¬ stale c := by
    have inside := List.dropLast_subset _ inside
    rw [candidates] at inside
    obtain ⟨r, there, rfl⟩ := List.mem_map.mp inside
    rw [stale, beq_iff_eq]
    exact (ne_zero_iff_toNat _).mpr (real r there).1
  have more : rats.filterMap candidate ≠ [] := by
    rw [candidates, ne_eq, List.map_eq_nil_iff]
    exact some_
  obtain ⟨b, best, first⟩ := foldl_pick_first cost fresh more
  rw [candidates] at first
  obtain ⟨r, nearest, rfl⟩ := firstLeast_map.mp first
  exact ⟨r, nearest.congr fun s there => (real s there).2.2, by rw [ratLoop_pick fits den, best, Option.getD_some]⟩

section Bounds

variable {i : SndInterval} {low high : RatBest} {v : ℚ}

theorem ratBounds_covers (positive : 0 < low.den.toNat) (positive' : 0 < high.den.toNat) :
    (ratBounds low high).Covers v ↔
      FloorAtLeast low.num.toNat low.den.toNat v ∧ CeilAtMost high.num.toNat high.den.toNat v := by
  have lower : AtLeast (ratBounds low high).openmin ((ratBounds low high).min.toNat : ℚ) v ↔
      FloorAtLeast low.num.toNat low.den.toNat v := by
    simp only [ratBounds, remainder_open, divDown_toNat _ _ positive, FloorAtLeast]
  have upper : AtMost (ratBounds low high).openmax v ((ratBounds low high).max.toNat : ℚ) ↔
      CeilAtMost high.num.toNat high.den.toNat v := by
    simp only [ratBounds, remainder_open, divUp_toNat _ _ positive', CeilAtMost]
  exact ⟨fun covers => ⟨lower.mp covers.low, upper.mp covers.high⟩,
    fun both => ⟨lower.mpr both.1, upper.mpr both.2, fun flag => absurd flag Bool.false_ne_true⟩⟩

theorem sndIntervalSingle_normalise_iff {k : SndInterval} (full : sndIntervalCheckempty (sndIntervalNormalise k) = false) :
    sndIntervalSingle (sndIntervalNormalise k) = true ↔
      ∃ m : Nat, ∀ x, (sndIntervalNormalise k).Covers x → (m : ℚ) ≤ x ∧ x < m + 1 := by
  have closed : (sndIntervalNormalise k).integer = true → _ := sndIntervalNormalise_closed (i := k)
  generalize sndIntervalNormalise k = j at full closed ⊢
  rw [sndIntervalCheckempty_eq, decide_eq_false_iff_not, not_le, SndInterval.low, SndInterval.high] at full
  have bit := Bool.toNat_le j.openmin
  have bit' := Bool.toNat_le (!j.openmax)
  have order : j.min.toNat ≤ j.max.toNat := by omega
  have top := j.max.toNat_lt
  constructor
  · intro single
    refine ⟨j.min.toNat, fun x covers => ⟨covers.low.1, ?_⟩⟩
    simp only [sndIntervalSingle, Bool.or_eq_true, Bool.and_eq_true, beq_iff_eq] at single
    rcases single with same | ⟨next, isOpen⟩
    · have above := covers.high.1
      rw [← same] at above
      linarith
    · have below := covers.high.2 isOpen
      have value : j.max.toNat = j.min.toNat + 1 := by
        rw [← next, UInt32.toNat_add, UInt32.toNat_one] at order ⊢
        omega
      rw [value] at below
      exact_mod_cast below
  · rintro ⟨m, share⟩
    by_contra several
    simp only [sndIntervalSingle, Bool.or_eq_true, Bool.and_eq_true, beq_iff_eq, not_or, not_and] at several
    have less : j.min.toNat + 1 ≤ j.max.toNat := by
      have distinct : j.min.toNat ≠ j.max.toNat := fun same => several.1 (UInt32.toNat_inj.mp same)
      omega
    have room : ((j.min.toNat + 1 : Nat) : ℚ) ≤ j.max.toNat := by exact_mod_cast less
    push_cast at room
    by_cases integer : j.integer = true
    · obtain ⟨low, high⟩ := closed integer
      have first := share j.min.toNat ⟨⟨le_refl _, fun isOpen => absurd isOpen (by simp [low])⟩,
        AtMost.of_lt (by linarith), fun _ => ⟨_, (Int.cast_natCast _).symm⟩⟩
      have last := share j.max.toNat ⟨AtLeast.of_lt (by linarith),
        ⟨le_refl _, fun isOpen => absurd isOpen (by simp [high])⟩, fun _ => ⟨_, (Int.cast_natCast _).symm⟩⟩
      linarith
    · have first := share (j.min.toNat + 1 / 2) ⟨AtLeast.of_lt (by linarith), AtMost.of_lt (by linarith),
        fun flag => absurd flag integer⟩
      have floor : m ≤ j.min.toNat := by
        have real : (m : ℚ) < (j.min.toNat + 1 : Nat) := by
          push_cast
          linarith
        exact Nat.lt_succ_iff.mp (by exact_mod_cast real)
      have floor : (m : ℚ) ≤ j.min.toNat := by exact_mod_cast floor
      by_cases isOpen : j.openmax = true
      · have gap : j.min.toNat + 2 ≤ j.max.toNat := by
          by_contra tight
          have value : j.max.toNat = j.min.toNat + 1 := by omega
          refine several.2 (UInt32.toNat_inj.mp ?_) isOpen
          rw [UInt32.toNat_add, UInt32.toNat_one]
          omega
        have gap : ((j.min.toNat + 2 : Nat) : ℚ) ≤ j.max.toNat := by exact_mod_cast gap
        push_cast at gap
        have last := share (j.max.toNat - 1 / 2) ⟨AtLeast.of_lt (by linarith), AtMost.of_lt (by linarith),
          fun flag => absurd flag integer⟩
        linarith
      · have last := share j.max.toNat ⟨AtLeast.of_lt (by linarith), ⟨le_refl _, fun set => absurd set isOpen⟩,
          fun flag => absurd flag integer⟩
        linarith

theorem ratBounds_last (positive : 0 < low.den.toNat) (positive' : 0 < high.den.toNat) :
    ¬ (ratBounds low high).ExcludesLast := by
  rintro (⟨isOpen, last⟩ | ⟨isOpen, last⟩)
  · simp only [ratBounds, remainder_open, decide_eq_true_iff] at isOpen
    rw [ratBounds, ← UInt32.toNat_inj, divDown_toNat _ _ positive, UINT_MAX_toNat] at last
    have bound := low.num.toNat_lt
    have split := Nat.div_add_mod low.num.toNat low.den.toNat
    rw [last] at split
    omega
  · simp only [ratBounds, remainder_open, decide_eq_true_iff] at isOpen
    rw [ratBounds, ← UInt32.toNat_inj, divUp_toNat _ _ positive', if_neg isOpen, UInt32.toNat_zero] at last
    exact Nat.succ_ne_zero _ last

theorem SndInterval.Contains.last (inside : i.Contains v) : ¬ i.ExcludesLast := by
  rintro (⟨isOpen, last⟩ | ⟨isOpen, last⟩)
  · have above := (inside.low.2 isOpen).trans_le inside.high.1
    rw [last] at above
    have top : (i.max.toNat : ℚ) ≤ UINT_MAX.toNat := by exact_mod_cast le_UINT_MAX i.max
    linarith
  · have below := inside.high.2 isOpen
    rw [last, UInt32.toNat_zero, Nat.cast_zero] at below
    linarith [inside.nonneg]

theorem sndIntervalRefine_ratBounds {x : ℚ} (positive : 0 < low.den.toNat) (positive' : 0 < high.den.toNat)
    (inside : i.Contains v) : (sndIntervalRefine i (ratBounds low high)).2.Contains x ↔
      i.Contains x ∧ FloorAtLeast low.num.toNat low.den.toNat x ∧ CeilAtMost high.num.toNat high.den.toNat x := by
  have bounded : sndIntervalRefineWraps i (ratBounds low high) = false := by
    rw [← Bool.not_eq_true, sndIntervalRefineWraps_iff]
    exact fun wraps => wraps.2.elim inside.last (ratBounds_last positive positive')
  rw [← ratBounds_covers positive positive', (refinesExactly_of_bounded inside.nonempty bounded).points]
  exact and_congr_left fun _ => ⟨fun covers => ⟨covers, inside.nonempty⟩, fun there => there.toCovers⟩

theorem ratRefine_single_iff (low high single : RatBest) (inside : i.Contains v) :
    0 ≤ (ratRefine i low high single).err ∧ sndIntervalSingle (ratRefine i low high single).interval ↔
      (∃ x, (ratRefine i low high single).interval.Contains x) ∧
        ∃ m : Nat, ∀ x, (ratRefine i low high single).interval.Contains x → (m : ℚ) ≤ x ∧ x < m + 1 := by
  unfold ratRefine
  dsimp only
  rcases sndIntervalRefine_cases (v := ratBounds low high) inside.nonempty with ⟨-, failed, empty⟩ | ⟨full, result, same⟩
  · refine ⟨fun fine => absurd fine.1 (failed ▸ EINVAL_failure), fun some_ => ?_⟩
    obtain ⟨x, there⟩ := some_.1
    exact absurd (there.nonempty.symm.trans empty) Bool.false_ne_true
  · have flag : (sndIntervalNormalise (sndIntervalMeet i (ratBounds low high)).2).empty = false := by
      rw [sndIntervalNormalise_empty, sndIntervalMeet_empty, inside.nonempty]
    have fine : 0 ≤ (sndIntervalRefine i (ratBounds low high)).1 := by
      rw [result]
      split <;> decide
    obtain ⟨x, covers⟩ := sndIntervalNormalise_inhabited full
    rw [and_iff_right fine, same, sndIntervalSingle_normalise_iff full, and_iff_right ⟨x, covers, flag⟩]
    exact exists_congr fun m => forall_congr' fun y => imp_congr_left ⟨fun there => ⟨there, flag⟩, fun there => there.toCovers⟩

theorem keepsRealisable_ratRefine (realisable : ℚ → Prop) (single : RatBest) (positive : 0 < low.den.toNat)
    (positive' : 0 < high.den.toNat) : KeepsRealisable realisable i (ratRefine i low high single) ↔
      ∀ v, realisable v → i.Contains v →
        FloorAtLeast low.num.toNat low.den.toNat v ∧ CeilAtMost high.num.toNat high.den.toNat v := by
  constructor
  · exact fun keeps v real inside =>
      ((sndIntervalRefine_ratBounds positive positive' inside).mp (keeps.kept v real inside)).2
  · refine fun admitted => ⟨fun v real inside => ?_, fun failed v real inside => ?_⟩
    · exact (sndIntervalRefine_ratBounds positive positive' inside).mpr ⟨inside, admitted v real inside⟩
    · have fine := (sndIntervalRefine_contains inside ((ratBounds_covers positive positive').mpr (admitted v real inside))).1
      exact absurd failed (not_lt.mpr fine)

theorem keepsRealisable_ratFail {realisable : ℚ → Prop} :
    KeepsRealisable realisable i (ratFail i) ↔ ∀ v, realisable v → ¬ i.Contains v := by
  refine ⟨fun keeps => keeps.fails EINVAL_negative, fun none => ⟨fun v real inside => absurd inside (none v real), fun _ => none⟩⟩

end Bounds

end AlsaDriver.Pcm
