import Mathlib.Algebra.GroupWithZero.Nat
import Mathlib.Logic.Function.Basic
import Mathlib.Data.Nat.Basic
import AlsaDriver.Lib.Bitmap
import AlsaDriver.Lib.Holders
import AlsaDriver.Lib.Runs

namespace AlsaDriver.Pci

open Function

def bitSet (rscs : Nat → BitVec 8) (i : Nat) : Bool := (rscs (i / 8) &&& 1#8 <<< (i % 8)) != 0

def setBit (rscs : Nat → BitVec 8) (i : Nat) : Nat → BitVec 8 := update rscs (i / 8) (rscs (i / 8) ||| 1#8 <<< (i % 8))

def clearBit (rscs : Nat → BitVec 8) (i : Nat) : Nat → BitVec 8 :=
  update rscs (i / 8) (rscs (i / 8) &&& ~~~(1#8 <<< (i % 8)))

/-- The loop of `get_resource` that looks for `multi` clear bits, `left` of them from here on; it ends at the last one,
    or at `amount`. -/
def searchLoop (rscs : Nat → BitVec 8) (multi : Nat) : Nat → Nat → Int → Nat
  | 0, i, _ => i
  | left + 1, i, n =>
    if bitSet rscs i then searchLoop rscs multi left (i + 1) multi
    else if n - 1 = 0 then i
    else searchLoop rscs multi left (i + 1) (n - 1)

def markLoop : Nat → Int → (Nat → BitVec 8) → Int × (Nat → BitVec 8)
  | 0, i, rscs => (i, rscs)
  | n + 1, i, rscs => markLoop n (i - 1) (setBit rscs i.toNat)

def getResource (rscs : Nat → BitVec 8) (amount multi : Nat) : Option ((Nat → BitVec 8) × Nat) :=
  let i := searchLoop rscs multi amount 0 multi
  if amount ≤ i then none
  else
    let marked := markLoop multi i rscs
    some (marked.2, (marked.1 + 1).toNat)

def putResource : Nat → Nat → (Nat → BitVec 8) → Nat → BitVec 8
  | 0, _, rscs => rscs
  | multi + 1, idx, rscs => putResource multi (idx + 1) (clearBit rscs idx)

/-- A manager whose bits are counted with an `int`, and the ranges that it has given out. -/
structure RscMgr where
  amount : Nat
  small : amount < 2 ^ 31
  avail : Nat
  rscs : Nat → BitVec 8

namespace RscMgr

variable (mgr : RscMgr)

/-- `mgr_get_resource`; none for `-ENOENT`. -/
def mgrGetResource (n : Nat) : Option (RscMgr × Nat) :=
  if mgr.avail < n then none
  else (getResource mgr.rscs mgr.amount n).map fun got => ({ mgr with avail := mgr.avail - n, rscs := got.1 }, got.2)

def mgrPutResource (n idx : Nat) : RscMgr := { mgr with avail := mgr.avail + n, rscs := putResource n idx mgr.rscs }

end RscMgr

structure RscRange where
  idx : Nat
  n : Nat
  deriving DecidableEq, Repr

structure RscState where
  mgr : RscMgr
  held : List RscRange

inductive RscOp where
  | get (n : Nat)
  | put (range : RscRange)

namespace RscState

def exec (s : RscState) : RscOp → RscState
  | .get n =>
    match s.mgr.mgrGetResource n with
    | none => s
    | some (mgr, idx) => ⟨mgr, ⟨idx, n⟩ :: s.held⟩
  | .put range => ⟨s.mgr.mgrPutResource range.n range.idx, s.held.erase range⟩

end RscState

end AlsaDriver.Pci

namespace AlsaDriver.Pci

open Function Bitmap Holders Runs

variable {rscs : Nat → BitVec 8} {amount multi s n i : Nat}

theorem bitSet_eq (rscs : Nat → BitVec 8) (i : Nat) : bitSet rscs i = (rscs (i / 8)).getLsbD (i % 8) := by
  unfold bitSet
  rw [← BitVec.twoPow_eq, BitVec.and_twoPow]
  have inside : i % 8 < 8 := Nat.mod_lt _ (by decide)
  cases bit : (rscs (i / 8)).getLsbD (i % 8) with
  | false => simp
  | true =>
    have some_ : BitVec.twoPow 8 (i % 8) ≠ 0 := by
      intro zero
      have same := congrArg (fun x : BitVec 8 => x.getLsbD (i % 8)) zero
      simp [inside] at same
    simpa using some_

theorem same_bit {i l : Nat} (byte : l / 8 = i / 8) : i % 8 = l % 8 ↔ l = i := by omega

theorem bitSet_setBit (rscs : Nat → BitVec 8) (i l : Nat) : bitSet (setBit rscs i) l = (bitSet rscs l || decide (l = i)) := by
  rw [bitSet_eq, bitSet_eq, setBit]
  by_cases byte : l / 8 = i / 8
  · have inside : l % 8 < 8 := Nat.mod_lt _ (by decide)
    have low : i % 8 < 8 := Nat.mod_lt _ (by decide)
    rw [byte, update_self, ← BitVec.twoPow_eq, BitVec.getLsbD_or, BitVec.getLsbD_twoPow]
    simp [low, same_bit byte]
  · have other : l ≠ i := fun same => byte (by rw [same])
    simp [byte, other]

theorem bitSet_clearBit (rscs : Nat → BitVec 8) (i l : Nat) : bitSet (clearBit rscs i) l = (bitSet rscs l && !decide (l = i)) := by
  rw [bitSet_eq, bitSet_eq, clearBit]
  by_cases byte : l / 8 = i / 8
  · have inside : l % 8 < 8 := Nat.mod_lt _ (by decide)
    have low : i % 8 < 8 := Nat.mod_lt _ (by decide)
    rw [byte, update_self, ← BitVec.twoPow_eq, BitVec.getLsbD_and, BitVec.getLsbD_not, BitVec.getLsbD_twoPow]
    simp [low, inside, same_bit byte]
  · have other : l ≠ i := fun same => byte (by rw [same])
    simp [byte, other]

theorem markLoop_eq (rscs : Nat → BitVec 8) (fits : n ≤ i) :
    (markLoop n ((i : Int) - 1) rscs).1 = (i : Int) - n - 1 ∧
      ∀ l, bitSet (markLoop n ((i : Int) - 1) rscs).2 l = (bitSet rscs l || (decide (i - n ≤ l) && decide (l < i))) := by
  induction n generalizing i rscs with
  | zero =>
    refine ⟨by simp [markLoop], fun l => ?_⟩
    have none_ : (decide (i - 0 ≤ l) && decide (l < i)) = false := by
      simp
    rw [markLoop, none_, Bool.or_false]
  | succ n ih =>
    have place : ((i : Int) - 1).toNat = i - 1 := by omega
    have next : (i : Int) - 1 - 1 = ((i - 1 : Nat) : Int) - 1 := by omega
    rw [markLoop, place, next]
    obtain ⟨last, bits⟩ := ih (setBit rscs (i - 1)) (show n ≤ i - 1 by omega)
    refine ⟨by rw [last]; omega, fun l => ?_⟩
    rw [bits, bitSet_setBit, Bool.or_assoc]
    congr 1
    rw [Bool.eq_iff_iff]
    simp only [Bool.or_eq_true, Bool.and_eq_true, decide_eq_true_eq]
    omega

theorem putResource_eq (n idx : Nat) (rscs : Nat → BitVec 8) (l : Nat) :
    bitSet (putResource n idx rscs) l = (bitSet rscs l && !(decide (idx ≤ l) && decide (l < idx + n))) := by
  induction n generalizing idx rscs with
  | zero =>
    have none_ : (decide (idx ≤ l) && decide (l < idx + 0)) = false := by simp
    rw [putResource, none_, Bool.not_false, Bool.and_true]
  | succ n ih =>
    rw [putResource, ih, bitSet_clearBit, Bool.and_assoc]
    congr 1
    rw [Bool.eq_iff_iff]
    simp only [Bool.and_eq_true, Bool.not_eq_true', Bool.and_eq_false_iff, decide_eq_false_iff_not]
    omega

/-- What the search has seen in front of `i`: a stretch of `c` clear bits, and no run of `multi` of them. -/
structure Seen (rscs : Nat → BitVec 8) (multi i c : Nat) : Prop where
  inside : c ≤ i
  short : c < multi
  run : Run (bitSet rscs) (i - c) c
  most : c = i ∨ bitSet rscs (i - c - 1) = true
  none_ : ∀ s, s + multi ≤ i → ¬ Run (bitSet rscs) s multi

theorem Seen.start (some_ : 0 < multi) : Seen rscs multi 0 0 := by
  refine ⟨Nat.le_refl 0, some_, fun l _ small => absurd small (Nat.not_lt_zero l), Or.inl rfl, ?_⟩
  intro s fits
  omega

theorem Seen.used {c : Nat} (seen : Seen rscs multi i c) (used : bitSet rscs i = true) : Seen rscs multi (i + 1) 0 := by
  have short := seen.short
  refine ⟨Nat.zero_le _, by omega, fun l low high => by omega, Or.inr used, ?_⟩
  intro s fits run
  by_cases before : s + multi ≤ i
  · exact seen.none_ s before run
  · have free := run i (by omega) (by omega)
    rw [used] at free
    cases free

theorem Seen.clear {c : Nat} (seen : Seen rscs multi i c) (free : bitSet rscs i = false) :
    Run (bitSet rscs) (i - c) (c + 1) ∧ ∀ s, s < i - c → s + multi ≤ i + 1 → ¬ Run (bitSet rscs) s multi := by
  have inside := seen.inside
  have short := seen.short
  constructor
  · intro l low high
    by_cases last : l = i
    · rw [last]
      exact free
    · exact seen.run l low (by omega)
  · intro s before fits run
    by_cases whole : s + multi ≤ i
    · exact seen.none_ s whole run
    · rcases seen.most with all | used
      · omega
      · have there := run (i - c - 1) (by omega) (by omega)
        rw [used] at there
        cases there

theorem searchLoop_spec {left c : Nat} (seen : Seen rscs multi i c) :
    (searchLoop rscs multi left i ((multi : Int) - c) = i + left ∧
        ∀ s, s + multi ≤ i + left → ¬ Run (bitSet rscs) s multi) ∨
      ∃ s, searchLoop rscs multi left i ((multi : Int) - c) + 1 = s + multi ∧ s + multi ≤ i + left ∧
        Run (bitSet rscs) s multi ∧ ∀ t < s, ¬ Run (bitSet rscs) t multi := by
  induction left generalizing i c with
  | zero => exact Or.inl ⟨rfl, seen.none_⟩
  | succ left ih =>
    have short := seen.short
    have inside := seen.inside
    have ahead : i + 1 + left = i + (left + 1) := by omega
    rw [searchLoop]
    cases bit : bitSet rscs i with
    | true =>
      have later := ih (seen.used bit)
      rw [ahead] at later
      simpa using later
    | false =>
      obtain ⟨run, lower⟩ := seen.clear bit
      rw [if_neg Bool.false_ne_true]
      by_cases last : (multi : Int) - c - 1 = 0
      · rw [if_pos last]
        have length : c + 1 = multi := by omega
        rw [length] at run
        refine Or.inr ⟨i - c, by omega, by omega, run, fun t before => lower t before (by omega)⟩
      · rw [if_neg last]
        have next : (multi : Int) - c - 1 = (multi : Int) - ((c + 1 : Nat) : Int) := by omega
        have seen' : Seen rscs multi (i + 1) (c + 1) := by
          have same : i + 1 - (c + 1) = i - c := by omega
          refine ⟨by omega, by omega, ?_, ?_, ?_⟩
          · rw [same]
            exact run
          · rcases seen.most with all | used
            · exact Or.inl (by omega)
            · rw [same]
              exact Or.inr used
          · intro s fits
            exact lower s (by omega) fits
        have later := ih seen'
        rw [next]
        rw [ahead] at later
        exact later

theorem getResource_spec (rscs : Nat → BitVec 8) (amount : Nat) (some_ : 0 < multi) :
    (getResource rscs amount multi = none ∧ ∀ s, s + multi ≤ amount → ¬ Run (bitSet rscs) s multi) ∨
      ∃ rscs' s, getResource rscs amount multi = some (rscs', s) ∧ s + multi ≤ amount ∧ Run (bitSet rscs) s multi ∧
        (∀ t < s, ¬ Run (bitSet rscs) t multi) ∧
        ∀ l, bitSet rscs' l = (bitSet rscs l || (decide (s ≤ l) && decide (l < s + multi))) := by
  have start : Seen rscs multi 0 0 := Seen.start some_
  have search := @searchLoop_spec rscs multi 0 amount 0 start
  have whole : (multi : Int) - ((0 : Nat) : Int) = multi := Int.sub_zero _
  unfold getResource
  rw [whole, Nat.zero_add] at search
  rcases search with ⟨ends, none_⟩ | ⟨s, ends, fits, run, lowest⟩
  · rw [ends]
    exact Or.inl ⟨if_pos (Nat.le_refl amount), none_⟩
  · dsimp only
    generalize searchLoop rscs multi amount 0 multi = i at ends
    rw [if_neg (by omega)]
    have last : (i : Int) = ((s + multi : Nat) : Int) - 1 := by omega
    obtain ⟨first, bits⟩ := markLoop_eq rscs (show multi ≤ s + multi by omega)
    rw [last]
    refine Or.inr ⟨(markLoop multi (((s + multi : Nat) : Int) - 1) rscs).2, s, ?_, fits, run, lowest, ?_⟩
    · have place : (((s + multi : Nat) : Int) - multi - 1 + 1).toNat = s := by omega
      rw [first, place]
    · intro l
      rw [bits, Nat.add_sub_cancel]

theorem mgrGetResource_spec {mgr : RscMgr} (avail : mgr.avail = clear (bitSet mgr.rscs) mgr.amount) (some_ : 0 < n) :
    (mgr.mgrGetResource n = none ∧ ∀ p, p + n ≤ mgr.amount → ¬ Run (bitSet mgr.rscs) p n) ∨
      ∃ rscs' p, mgr.mgrGetResource n = some ({ mgr with avail := mgr.avail - n, rscs := rscs' }, p) ∧ p + n ≤ mgr.amount ∧
        Run (bitSet mgr.rscs) p n ∧ (∀ t < p, ¬ Run (bitSet mgr.rscs) t n) ∧
        ∀ l, bitSet rscs' l = (bitSet mgr.rscs l || (decide (p ≤ l) && decide (l < p + n))) := by
  unfold RscMgr.mgrGetResource
  by_cases few : mgr.avail < n
  · rw [if_pos few]
    refine Or.inl ⟨rfl, fun p fits run => ?_⟩
    have least := run_le_clear run fits
    omega
  · rw [if_neg few]
    rcases getResource_spec mgr.rscs mgr.amount some_ with ⟨fails, none_⟩ | ⟨rscs', p, got, found⟩
    · rw [fails]
      exact Or.inl ⟨rfl, none_⟩
    · rw [got]
      exact Or.inr ⟨rscs', p, rfl, found⟩

def RscRange.Has (r : RscRange) (i : Nat) : Prop := r.idx ≤ i ∧ i < r.idx + r.n

instance (r : RscRange) (i : Nat) : Decidable (r.Has i) := inferInstanceAs (Decidable (_ ∧ _))

namespace RscState

variable {s : RscState}

structure Balanced (s : RscState) : Prop where
  avail : s.mgr.avail = clear (bitSet s.mgr.rscs) s.mgr.amount
  ranges : ∀ r ∈ s.held, r.idx + r.n ≤ s.mgr.amount ∧ ∀ i, r.Has i → bitSet s.mgr.rscs i = true
  apart : s.held.Pairwise fun r r' => ∀ i, ¬ (r.Has i ∧ r'.Has i)
  full : ∀ i, bitSet s.mgr.rscs i = true → ∃ r ∈ s.held, r.Has i

def Answers (s : RscState) : RscOp → Prop
  | .get n => (s.mgr.mgrGetResource n).elim
      (∀ p, p + n ≤ s.mgr.amount → ¬ Run (bitSet s.mgr.rscs) p n)
      fun got => got.2 + n ≤ s.mgr.amount ∧ Run (bitSet s.mgr.rscs) got.2 n ∧ ∀ p < got.2, ¬ Run (bitSet s.mgr.rscs) p n
  | .put _ => True

structure Kept (s : RscState) (op : RscOp) (s' : RscState) : Prop where
  balanced : s'.Balanced
  answers : s.Answers op
  fails : ∀ n, op = .get n → s.mgr.mgrGetResource n = none → s' = s

def Proper (s : RscState) : RscOp → Prop
  | .get n => 1 ≤ n
  | .put range => range ∈ s.held

instance (s : RscState) : (op : RscOp) → Decidable (s.Proper op)
  | .get _ => inferInstanceAs (Decidable (1 ≤ _))
  | .put _ => inferInstanceAs (Decidable (_ ∈ _))

structure Inv (s : RscState) : Prop where
  avail : s.mgr.avail = clear (bitSet s.mgr.rscs) s.mgr.amount
  inside : ∀ r ∈ s.held, r.idx + r.n ≤ s.mgr.amount
  holders : ∀ i, holders RscRange.Has s.held i = if bitSet s.mgr.rscs i = true then 1 else 0

theorem Inv.balanced (inv : s.Inv) : s.Balanced := by
  refine ⟨inv.avail, fun r listed => ⟨inv.inside r listed, fun i has => ?_⟩, ?_, fun i set_ => ?_⟩
  · have some_ := holders_pos.mpr ⟨r, listed, has⟩
    rw [inv.holders i] at some_
    split at some_
    · next set_ => exact set_
    · exact absurd some_ (Nat.lt_irrefl 0)
  · apply apart_of_holders
    intro i
    rw [inv.holders i]
    split <;> omega
  · apply holders_pos.mp
    rw [inv.holders i, if_pos set_]
    exact Nat.one_pos

theorem Inv.get (inv : s.Inv) {n : Nat} (some_ : 1 ≤ n) : (s.exec (.get n)).Inv ∧ s.Answers (.get n) := by
  rcases mgrGetResource_spec inv.avail some_ with ⟨fails, none_⟩ | ⟨rscs, p, got, fits, run, lowest, bits⟩
  · have same : s.exec (.get n) = s := by simp [exec, fails]
    rw [same]
    refine ⟨inv, ?_⟩
    show (s.mgr.mgrGetResource n).elim _ _
    rw [fails]
    exact none_
  · have next : s.exec (.get n) = ⟨{ s.mgr with avail := s.mgr.avail - n, rscs := rscs }, ⟨p, n⟩ :: s.held⟩ := by simp [exec, got]
    rw [next]
    refine ⟨⟨?_, ?_, ?_⟩, ?_⟩
    · have count := clear_set run fits bits
      show s.mgr.avail - n = clear (bitSet rscs) s.mgr.amount
      rw [inv.avail]
      omega
    · exact List.forall_mem_cons.mpr ⟨fits, inv.inside⟩
    · intro i
      show Holders.holders RscRange.Has (⟨p, n⟩ :: s.held) i = if bitSet rscs i = true then 1 else 0
      rw [holders_cons, inv.holders, bits]
      by_cases has : p ≤ i ∧ i < p + n
      · have free := run i has.1 has.2
        simp [free, RscRange.Has, has]
      · have outside : (decide (p ≤ i) && decide (i < p + n)) = false := by simpa using has
        have misses : ¬ (⟨p, n⟩ : RscRange).Has i := has
        rw [if_neg misses, outside, Bool.or_false, Nat.add_zero]
    · show (s.mgr.mgrGetResource n).elim _ _
      rw [got]
      exact ⟨fits, run, lowest⟩

theorem Inv.put (inv : s.Inv) {range : RscRange} (listed : range ∈ s.held) : (s.exec (.put range)).Inv := by
  have perm := List.perm_cons_erase listed
  have fits := inv.inside range listed
  have full (i : Nat) (has : range.Has i) : bitSet s.mgr.rscs i = true := (inv.balanced.ranges range listed).2 i has
  have bits := putResource_eq range.n range.idx s.mgr.rscs
  refine ⟨?_, ?_, ?_⟩
  · show s.mgr.avail + range.n = clear (bitSet (putResource range.n range.idx s.mgr.rscs)) s.mgr.amount
    rw [clear_cleared (fun i low high => full i ⟨low, high⟩) fits bits, inv.avail]
  · exact fun r inside => inv.inside r (List.mem_of_mem_erase inside)
  · intro i
    show Holders.holders RscRange.Has (s.held.erase range) i = if bitSet (putResource range.n range.idx s.mgr.rscs) i = true then 1 else 0
    have count := inv.holders i
    rw [holders_perm perm, holders_cons] at count
    rw [bits]
    by_cases has : range.Has i
    · rw [if_pos has, if_pos (full i has)] at count
      simp [RscRange.Has] at has
      simp [has]
      omega
    · rw [if_neg has] at count
      have outside : (decide (range.idx ≤ i) && decide (i < range.idx + range.n)) = false := by
        simpa [RscRange.Has] using has
      rw [outside, Bool.not_false, Bool.and_true]
      exact count

/-- A manager as `rsc_mgr_init` makes it. -/
def init (amount : Nat) (small : amount < 2 ^ 31) : RscState := ⟨⟨amount, small, amount, fun _ => 0⟩, []⟩

theorem init_inv (amount : Nat) (small : amount < 2 ^ 31) : (init amount small).Inv := by
  have none_ (i : Nat) : bitSet (fun _ => 0) i = false := by simp [bitSet]
  refine ⟨?_, fun r listed => absurd listed List.not_mem_nil, fun i => ?_⟩
  · have all : clear (bitSet fun _ => 0) amount = (List.range amount).length := by
      apply List.countP_eq_length.mpr
      intro i _
      rw [none_]
      rfl
    rw [List.length_range] at all
    exact all.symm
  · show holders RscRange.Has [] i = if bitSet (fun _ => 0) i = true then 1 else 0
    rw [none_]
    rfl

/-- The resources are given out in disjoint runs, the lowest one first. -/
theorem resources_balanced (amount : Nat) (small : amount < 2 ^ 31) (ops : List RscOp)
    (proper : Throughout exec (fun s op _ => s.Proper op) (init amount small) ops) :
    Throughout exec Kept (init amount small) ops := by
  apply proper.steps Inv (init_inv amount small)
  intro s op inv step
  cases op with
  | get n =>
    obtain ⟨inv', answers⟩ := inv.get step
    refine ⟨⟨inv'.balanced, answers, fun n' same fails => ?_⟩, inv'⟩
    cases same
    simp [exec, fails]
  | put range =>
    have inv' := inv.put step
    exact ⟨⟨inv'.balanced, trivial, fun n same => by cases same⟩, inv'⟩

theorem twelve_small : 12 < 2 ^ 31 := by decide

/-- A hole of two, a request that has to pass it, and one that fails. -/
theorem resources_balanced_hole :
    Throughout exec Kept (init 12 twelve_small) [.get 4, .get 2, .get 1, .put ⟨4, 2⟩, .get 3, .get 2, .get 4] :=
  resources_balanced 12 twelve_small _ (by decide)

end RscState

end AlsaDriver.Pci
