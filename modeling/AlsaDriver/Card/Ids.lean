import Mathlib
import AlsaDriver.Lib.Delimited
import AlsaDriver.Lib.Runs

namespace AlsaDriver.Card

abbrev Byte := BitVec 8

def text (s : List Char) : List Byte := s.map fun c => BitVec.ofNat 8 c.toNat

/-! The character classes of the kernel, which take Latin 1 as their character set. -/

def isdigit (c : Byte) : Bool := decide (0x30 ≤ c) && decide (c ≤ 0x39)

def isalpha (c : Byte) : Bool :=
  (decide (0x41 ≤ c) && decide (c ≤ 0x5a)) || (decide (0x61 ≤ c) && decide (c ≤ 0x7a)) ||
    (decide (0xc0 ≤ c) && c != 0xd7 && c != 0xf7)

def isalnum (c : Byte) : Bool := isalpha c || isdigit c

def isspace (c : Byte) : Bool := (decide (9 ≤ c) && decide (c ≤ 13)) || c == 0x20 || c == 0xa0

def underscore : Byte := 0x5f

def hyphenByte : Byte := 0x2d

/-- `sizeof(card->id)`. -/
def idSize : Nat := 16

def reservedWords : List (List Byte) :=
  [text ['v', 'e', 'r', 's', 'i', 'o', 'n'], text ['m', 'e', 'm', 'i', 'n', 'f', 'o'],
    text ['m', 'e', 'm', 'd', 'e', 'b', 'u', 'g'], text ['d', 'e', 't', 'e', 'c', 't'],
    text ['d', 'e', 'v', 'i', 'c', 'e', 's'], text ['o', 's', 's'], text ['c', 'a', 'r', 'd', 's'],
    text ['t', 'i', 'm', 'e', 'r', 's'], text ['s', 'y', 'n', 't', 'h'], text ['p', 'c', 'm'], text ['s', 'e', 'q']]

def cardText : List Byte := text ['c', 'a', 'r', 'd']

def defaultText : List Byte := text ['D', 'e', 'f', 'a', 'u', 'l', 't']

def sndInfoCheckReservedWords (str : List Byte) : Bool := !reservedWords.contains str && !(str.take 4 == cardText)

def retrieveLoop : List Byte → List Byte → List Byte
  | [], spos => spos
  | c :: name, spos => retrieveLoop name (if isspace c && name.head?.any isalnum then name else spos)

def retrieveIdFromCardName (name : List Byte) : List Byte := retrieveLoop name name

def copyLoop : List Byte → List Byte → List Byte
  | [], id => id
  | c :: nid, id =>
    if id.length < idSize - 1 then copyLoop nid (if isalnum c then id ++ [c] else id) else id

def digitGuard (src nid : List Byte) : List Byte :=
  if nid.head?.any isdigit then [(src.head?.filter isalpha).getD 0x44] else []

def copyValidIdString (src nid : List Byte) : List Byte :=
  let nid := nid.dropWhile fun c => !isalnum c
  copyLoop nid (digitGuard src nid)

def hexDigit (d : Nat) : Byte := BitVec.ofNat 8 (if d < 10 then 0x30 + d else 0x37 + d)

/-- The conversion `%X` of a number of at most `width` digits. -/
def hexX : Nat → Nat → List Byte
  | 0, _ => []
  | width + 1, n => if n < 16 then [hexDigit n] else hexX width (n / 16) ++ [hexDigit (n % 16)]

def sfxstr (loops : Nat) : List Byte := underscore :: hexX 8 (loops + 1)

/-- The suffix stored over the end of the id, which had `len` characters at first. -/
def suffixed (len loops : Nat) (id : List Byte) : List Byte :=
  let sfx := sfxstr loops
  id.take (if idSize ≤ len + sfx.length then idSize - sfx.length - 1 else len) ++ sfx

def candidateLoop (ok : List Byte → Bool) (len : Nat) : Nat → Nat → List Byte → Bool × List Byte
  | 0, _, id => (false, id)
  | left + 1, loops, id => if ok id then (true, id) else candidateLoop ok len left (loops + 1) (suffixed len loops id)

/-- The registered cards by their slots, of which those from `limit` on are empty. -/
structure CardIds where
  cards : Nat
  limit : Nat
  ids : Nat → Option (List Byte)
  cards_le : cards ≤ 256
  limit_le : limit ≤ cards
  outside : ∀ i, limit ≤ i → ids i = none

namespace CardIds

variable (s : CardIds)

/-- `card_id_ok` for the card of a slot, or for none. -/
def cardIdOk (card : Option Nat) (id : List Byte) : Bool :=
  sndInfoCheckReservedWords id &&
    (List.range s.limit).all fun i => !((s.ids i).any fun other => some i != card && other == id)

/-- From the label `again` on, with the default id. -/
def setDefault (number : Nat) (procRoot : List Byte) : List Byte :=
  match candidateLoop (s.cardIdOk (some number)) defaultText.length s.cards 0 defaultText with
  | (true, id) => id
  | (false, _) => procRoot

/-- The id that the card of the slot gets; `procRoot` is the name of its proc directory. -/
def sndCardSetIdNoLock (number : Nat) (src nid procRoot : List Byte) : List Byte :=
  let id := copyValidIdString src nid
  if id = [] ∨ id.take 4 = cardText then s.setDefault number procRoot
  else
    match candidateLoop (s.cardIdOk (some number)) id.length s.cards 0 id with
    | (true, id) => id
    | (false, _) => s.setDefault number procRoot

def setId (number : Fin s.limit) (id : Option (List Byte)) : CardIds :=
  { s with
    ids := Function.update s.ids number id
    outside := fun i large => by
      have other : i ≠ number := by omega
      rw [Function.update_of_ne other]
      exact s.outside i large }

/-- The part of `snd_card_register` that names the card and enters it. -/
def register (number : Fin s.limit) (id shortname longname procRoot : List Byte) : CardIds :=
  if (s.ids number).isSome then s
  else if id ≠ [] then s.setId number (some (s.sndCardSetIdNoLock number id id procRoot))
  else
    let src := if shortname ≠ [] then shortname else longname
    s.setId number (some (s.sndCardSetIdNoLock number src (retrieveIdFromCardName src) procRoot))

def einval : Int := -22
def eexist : Int := -17

def writable (c : Byte) : Bool := isalnum c || c == underscore || c == hyphenByte

/-- A write of `buf` to the attribute of a card; only registered cards are in `ids`. -/
def cardIdStoreAttr (number : Fin s.limit) (buf : List Byte) : Int × CardIds :=
  let buf1 := buf.take (idSize - 1)
  if buf1.any fun c => !writable c then (einval, s)
  else if s.cardIdOk none buf1 then
    (buf.length, if (s.ids number).isSome then s.setId number (some buf1) else s)
  else (eexist, s)

/-- The part of `snd_card_disconnect` that takes the card out. -/
def disconnect (number : Fin s.limit) : CardIds := s.setId number none

end CardIds

end AlsaDriver.Card

namespace AlsaDriver.Card

open Delimited Runs

/-! Suffixes. -/

theorem hexDigit_inj : ∀ d < 16, ∀ e < 16, hexDigit d = hexDigit e → d = e := by decide

theorem hexDigit_ne : ∀ d < 16, hexDigit d ≠ underscore := by decide

theorem hexX_ne_nil (width : Nat) (n : Nat) : hexX (width + 1) n ≠ [] := by
  rw [hexX]
  split <;> simp

theorem hexX_length (width n : Nat) : (hexX width n).length ≤ width := by
  induction width generalizing n with
  | zero => exact Nat.le_refl 0
  | succ width ih =>
    have shorter := ih (n / 16)
    rw [hexX]
    split
    · simp
    · simp
      omega

theorem underscore_not_mem (width n : Nat) : underscore ∉ hexX width n := by
  induction width generalizing n with
  | zero => simp [hexX]
  | succ width ih =>
    rw [hexX]
    split
    · next small => simpa using (hexDigit_ne n small).symm
    · simpa using ⟨ih (n / 16), (hexDigit_ne (n % 16) (Nat.mod_lt n (by decide))).symm⟩

theorem hexX_small (width : Nat) {n : Nat} (small : n < 16) : hexX (width + 1) n = [hexDigit n] := if_pos small

theorem hexX_large (width : Nat) {n : Nat} (large : ¬ n < 16) :
    hexX (width + 1) n = hexX width (n / 16) ++ [hexDigit (n % 16)] := if_neg large

theorem hexX_digit_ne (width d n : Nat) : [hexDigit d] ≠ hexX (width + 1) (n / 16) ++ [hexDigit (n % 16)] := by
  intro same
  have length := congrArg List.length same
  have some_ := List.length_pos_iff.mpr (hexX_ne_nil width (n / 16))
  simp only [List.length_append, List.length_singleton] at length
  omega

theorem hexX_inj {width n m : Nat} (fits : n < 16 ^ width) (fits' : m < 16 ^ width) (same : hexX width n = hexX width m) :
    n = m := by
  induction width generalizing n m with
  | zero =>
    rw [Nat.pow_zero] at fits fits'
    omega
  | succ width ih =>
    rw [Nat.pow_succ] at fits fits'
    cases width with
    | zero =>
      rw [hexX_small 0 (by omega), hexX_small 0 (by omega)] at same
      exact hexDigit_inj n (by omega) m (by omega) (List.singleton_inj.mp same)
    | succ width =>
      by_cases small : n < 16
      · by_cases small' : m < 16
        · rw [hexX_small _ small, hexX_small _ small'] at same
          exact hexDigit_inj n small m small' (List.singleton_inj.mp same)
        · rw [hexX_small _ small, hexX_large _ small'] at same
          exact absurd same (hexX_digit_ne width n m)
      · by_cases small' : m < 16
        · rw [hexX_large _ small, hexX_small _ small'] at same
          exact absurd same.symm (hexX_digit_ne width m n)
        · rw [hexX_large _ small, hexX_large _ small'] at same
          obtain ⟨front, last⟩ := List.append_inj' same rfl
          have high := ih (by omega) (by omega) front
          have low := hexDigit_inj (n % 16) (by omega) (m % 16) (by omega) (List.singleton_inj.mp last)
          omega

def candidate (len : Nat) (id : List Byte) : Nat → List Byte
  | 0 => id
  | k + 1 => suffixed len k (candidate len id k)

theorem sfxstr_length (k : Nat) : 1 ≤ (sfxstr k).length ∧ (sfxstr k).length ≤ 9 := by
  have digits := hexX_length 8 (k + 1)
  simp [sfxstr]
  omega

theorem first_reverse {u a : List Byte} (outside : underscore ∉ a) :
    first underscore (u ++ underscore :: a).reverse = a.reverse := by
  have pass : ∀ c ∈ a.reverse, decide (c ≠ underscore) = true := by
    intro c inside
    rw [decide_eq_true_eq]
    intro same
    exact outside (same ▸ List.mem_reverse.mp inside)
  rw [first, List.reverse_append, List.reverse_cons, List.append_assoc, List.takeWhile_append_of_pos pass]
  simp

theorem suffixed_inj {len len' k j : Nat} {id id' : List Byte} (small : k < 256) (small' : j < 256)
    (same : suffixed len k id = suffixed len' j id') : k = j := by
  have parts := congrArg (fun l => first underscore l.reverse) same
  simp only [suffixed, sfxstr] at parts
  rw [first_reverse (underscore_not_mem 8 _), first_reverse (underscore_not_mem 8 _)] at parts
  have number := hexX_inj (by omega) (by omega) (List.reverse_injective parts)
  omega

theorem candidate_inj {len : Nat} {id : List Byte} (plain : underscore ∉ id) {k j : Nat} (small : k ≤ 256) (small' : j ≤ 256)
    (same : candidate len id k = candidate len id j) : k = j := by
  have marked (n : Nat) : underscore ∈ candidate len id (n + 1) := by simp [candidate, suffixed, sfxstr]
  cases k with
  | zero =>
    cases j with
    | zero => rfl
    | succ j =>
      have inside := marked j
      rw [← same] at inside
      exact absurd inside plain
  | succ k =>
    cases j with
    | zero =>
      have inside := marked k
      rw [same] at inside
      exact absurd inside plain
    | succ j => rw [suffixed_inj (by omega) (by omega) same]

/-! The loop over the candidates. -/

theorem candidateLoop_true {ok : List Byte → Bool} {len n k : Nat} {id r : List Byte} {P : List Byte → Prop} (start : P id)
    (keeps : ∀ k id, P (suffixed len k id)) (accepted : candidateLoop ok len n k id = (true, r)) : ok r = true ∧ P r := by
  induction n generalizing k id with
  | zero => cases accepted
  | succ n ih =>
    rw [candidateLoop] at accepted
    by_cases fits : ok id = true
    · rw [if_pos fits] at accepted
      cases accepted
      exact ⟨fits, start⟩
    · rw [if_neg fits] at accepted
      exact ih (keeps k id) accepted

theorem candidateLoop_false {ok : List Byte → Bool} {len n k : Nat} {id r : List Byte}
    (refused : candidateLoop ok len n k (candidate len id k) = (false, r)) :
    ∀ j, k ≤ j → j < k + n → ok (candidate len id j) = false := by
  induction n generalizing k with
  | zero => omega
  | succ n ih =>
    rw [candidateLoop] at refused
    by_cases fits : ok (candidate len id k) = true
    · rw [if_pos fits] at refused
      cases refused
    · rw [if_neg fits] at refused
      intro j low high
      by_cases first : j = k
      · rw [first]
        simpa using fits
      · exact ih (k := k + 1) refused j (by omega) (by omega)

def Sized (id : List Byte) : Prop := id ≠ [] ∧ id.length < idSize

theorem sized_suffixed (len k : Nat) (id : List Byte) : Sized (suffixed len k id) := by
  have sfx := sfxstr_length k
  have size : idSize = 16 := rfl
  refine ⟨by simp [suffixed, sfxstr], ?_⟩
  rw [suffixed, List.length_append, List.length_take]
  split <;> omega

theorem copyLoop_length (nid : List Byte) {id : List Byte} (fits : id.length < idSize) : (copyLoop nid id).length < idSize := by
  have size : idSize = 16 := rfl
  induction nid generalizing id with
  | nil => exact fits
  | cons c rest ih =>
    rw [copyLoop]
    split
    · next room =>
      apply ih
      split
      · rw [List.length_append, List.length_singleton]
        omega
      · exact fits
    · exact fits

theorem copyValidIdString_length (src nid : List Byte) : (copyValidIdString src nid).length < idSize := by
  apply copyLoop_length
  unfold digitGuard
  split
  · exact (by decide : 1 < idSize)
  · exact (by decide : 0 < idSize)

/-! The default id always has a free candidate. -/

theorem defaultText_plain : underscore ∉ defaultText := by decide

theorem reserved_plain : ∀ word ∈ reservedWords, underscore ∉ word := by decide

theorem candidate_default (k : Nat) : (candidate defaultText.length defaultText k).head? = some 0x44 := by
  induction k with
  | zero => rfl
  | succ k ih =>
    have sfx := sfxstr_length k
    have size : idSize = 16 := rfl
    have length : defaultText.length = 7 := rfl
    rw [candidate, suffixed]
    generalize candidate defaultText.length defaultText k = id at ih ⊢
    cases id with
    | nil => cases ih
    | cons c rest =>
      obtain ⟨n, place⟩ : ∃ n, (if idSize ≤ defaultText.length + (sfxstr k).length then idSize - (sfxstr k).length - 1
          else defaultText.length) = n + 1 := Nat.exists_eq_succ_of_ne_zero (by split <;> omega)
      simp only [place]
      exact ih

theorem candidate_default_free (k : Nat) : sndInfoCheckReservedWords (candidate defaultText.length defaultText k) = true := by
  cases k with
  | zero => decide
  | succ k =>
    have head := candidate_default (k + 1)
    have marked : underscore ∈ candidate defaultText.length defaultText (k + 1) := by simp [candidate, suffixed, sfxstr]
    generalize candidate defaultText.length defaultText (k + 1) = id at head marked ⊢
    have other : id.take 4 ≠ cardText := by
      intro same
      have first := congrArg List.head? same
      rw [List.head?_take, if_neg (by decide), head] at first
      revert first
      decide
    have free : id ∉ reservedWords := fun listed => reserved_plain id listed marked
    simp [sndInfoCheckReservedWords, free, other]

namespace CardIds

variable {s : CardIds} {number : Nat}

def others (s : CardIds) (number : Nat) : List (List Byte) := ((List.range s.limit).erase number).filterMap s.ids

theorem others_length (inside : number < s.limit) : (s.others number).length < s.limit := by
  have whole := List.length_erase_of_mem (List.mem_range.mpr inside)
  have most := List.length_filterMap_le s.ids ((List.range s.limit).erase number)
  rw [List.length_range] at whole
  unfold others
  omega

theorem mem_others {id : List Byte} : id ∈ s.others number ↔ ∃ i, i ≠ number ∧ s.ids i = some id := by
  unfold others
  rw [List.mem_filterMap]
  constructor
  · rintro ⟨i, listed, has⟩
    exact ⟨i, ((List.Nodup.mem_erase_iff List.nodup_range).mp listed).1, has⟩
  · rintro ⟨i, other, has⟩
    have inside : i < s.limit := by
      by_contra large
      rw [s.outside i (Nat.not_lt.mp large)] at has
      cases has
    exact ⟨i, (List.Nodup.mem_erase_iff List.nodup_range).mpr ⟨other, List.mem_range.mpr inside⟩, has⟩

theorem cardIdOk_iff {card : Option Nat} {id : List Byte} :
    s.cardIdOk card id = true ↔ sndInfoCheckReservedWords id = true ∧ ∀ i, some i ≠ card → s.ids i ≠ some id := by
  unfold cardIdOk
  rw [Bool.and_eq_true, List.all_eq_true]
  apply and_congr_right
  intro _
  constructor
  · intro all i other has
    have inside : i < s.limit := by
      by_contra large
      rw [s.outside i (Nat.not_lt.mp large)] at has
      cases has
    have test := all i (List.mem_range.mpr inside)
    simp [has, other] at test
  · intro free i _
    cases has : s.ids i with
    | none => rfl
    | some other =>
      by_cases own : some i = card
      · simp [own]
      · have differs : other ≠ id := fun same => free i own (same ▸ has)
        simp [differs]

def Assigned (s : CardIds) (number : Nat) (id : List Byte) : Prop :=
  Sized id ∧ sndInfoCheckReservedWords id = true ∧ ∀ i, i ≠ number → s.ids i ≠ some id

theorem assigned_of_loop {len n k : Nat} {id r : List Byte} (sized : Sized id)
    (accepted : candidateLoop (s.cardIdOk (some number)) len n k id = (true, r)) : s.Assigned number r := by
  obtain ⟨ok, sized'⟩ := candidateLoop_true sized (fun k id => sized_suffixed len k id) accepted
  obtain ⟨reserved, free⟩ := cardIdOk_iff.mp ok
  exact ⟨sized', reserved, fun i other => free i fun same => other (Option.some.inj same)⟩

theorem default_found (inside : number < s.limit) :
    (candidateLoop (s.cardIdOk (some number)) defaultText.length s.cards 0 defaultText).1 = true := by
  by_contra fails
  obtain ⟨r, refused⟩ : ∃ r, candidateLoop (s.cardIdOk (some number)) defaultText.length s.cards 0 defaultText = (false, r) :=
    ⟨_, Prod.ext (by simpa using fails) rfl⟩
  have taken := @candidateLoop_false _ defaultText.length _ 0 defaultText r refused
  have cards_le := s.cards_le
  have limit_le := s.limit_le
  have distinct : ((List.range s.cards).map (candidate defaultText.length defaultText)).Nodup := by
    apply List.Nodup.map_on _ List.nodup_range
    intro k small j small' same
    rw [List.mem_range] at small small'
    exact candidate_inj defaultText_plain (by omega) (by omega) same
  have listed : (List.range s.cards).map (candidate defaultText.length defaultText) ⊆ s.others number := by
    intro id inside
    obtain ⟨k, small, rfl⟩ := List.mem_map.mp inside
    have refused := taken k (Nat.zero_le k) (by simpa using small)
    by_contra free
    have ok : s.cardIdOk (some number) (candidate defaultText.length defaultText k) = true := by
      refine cardIdOk_iff.mpr ⟨candidate_default_free k, fun i other has => ?_⟩
      exact free (mem_others.mpr ⟨i, fun same => other (congrArg some same), has⟩)
    rw [ok] at refused
    cases refused
  have most := (List.subperm_of_subset distinct listed).length_le
  have few := others_length inside
  rw [List.length_map, List.length_range] at most
  omega

theorem setDefault_assigned (inside : number < s.limit) (procRoot : List Byte) :
    s.Assigned number (s.setDefault number procRoot) := by
  have found := default_found inside
  unfold setDefault
  cases run : candidateLoop (s.cardIdOk (some number)) defaultText.length s.cards 0 defaultText with
  | mk accepted id =>
    rw [run] at found
    obtain rfl : accepted = true := found
    exact assigned_of_loop ⟨by decide, by decide⟩ run

theorem setIdNoLock_assigned (inside : number < s.limit) (src nid procRoot : List Byte) :
    s.Assigned number (s.sndCardSetIdNoLock number src nid procRoot) := by
  unfold sndCardSetIdNoLock
  dsimp only
  split
  · exact setDefault_assigned inside procRoot
  · next plain =>
    have sized : Sized (copyValidIdString src nid) := ⟨fun empty => plain (.inl empty), copyValidIdString_length src nid⟩
    cases run : candidateLoop (s.cardIdOk (some number)) (copyValidIdString src nid).length s.cards 0
        (copyValidIdString src nid) with
    | mk accepted id =>
      cases accepted
      · exact setDefault_assigned inside procRoot
      · exact assigned_of_loop sized run

def Distinct (s : CardIds) : Prop := ∀ i j id, s.ids i = some id → s.ids j = some id → i = j

theorem setId_distinct (distinct : s.Distinct) {number : Fin s.limit} {id : List Byte}
    (free : ∀ i, i ≠ number.val → s.ids i ≠ some id) : (s.setId number (some id)).Distinct := by
  have old (i : Nat) (other : i ≠ number.val) : (s.setId number (some id)).ids i = s.ids i := Function.update_of_ne other ..
  have new : (s.setId number (some id)).ids number = some id := Function.update_self ..
  intro i j found first second
  by_cases here : i = number.val
  · by_cases there : j = number.val
    · exact here.trans there.symm
    · rw [here, new] at first
      rw [old j there, ← first] at second
      exact absurd second (free j there)
  · by_cases there : j = number.val
    · rw [there, new] at second
      rw [old i here, ← second] at first
      exact absurd first (free i here)
    · rw [old i here] at first
      rw [old j there] at second
      exact distinct i j found first second

theorem setId_none_distinct (distinct : s.Distinct) (number : Fin s.limit) : (s.setId number none).Distinct := by
  have kept (i : Nat) {id : List Byte} (has : (s.setId number none).ids i = some id) : s.ids i = some id := by
    by_cases here : i = number.val
    · rw [here] at has
      have gone : (s.setId number none).ids number = none := Function.update_self ..
      rw [gone] at has
      cases has
    · exact (Function.update_of_ne here ..).symm.trans has
  exact fun i j id first second => distinct i j id (kept i first) (kept j second)

end CardIds

inductive IdOp
  | register (number : Nat) (id shortname longname procRoot : List Byte)
  | store (number : Nat) (buf : List Byte)
  | disconnect (number : Nat)

namespace CardIds

def exec (s : CardIds) : IdOp → CardIds
  | .register number id shortname longname procRoot =>
    if inside : number < s.limit then s.register ⟨number, inside⟩ id shortname longname procRoot else s
  | .store number buf => if inside : number < s.limit then (s.cardIdStoreAttr ⟨number, inside⟩ buf).2 else s
  | .disconnect number => if inside : number < s.limit then s.disconnect ⟨number, inside⟩ else s

structure Kept (s : CardIds) (op : IdOp) (s' : CardIds) : Prop where
  assigned : ∀ number id shortname longname procRoot, op = .register number id shortname longname procRoot →
    number < s.limit → s.ids number = none → ∃ got, s'.ids number = some got ∧ s.Assigned number got
  distinct : s.Distinct → s'.Distinct

theorem register_assigned {s : CardIds} (number : Fin s.limit) (free : s.ids number = none)
    (id shortname longname procRoot : List Byte) :
    ∃ got, s.register number id shortname longname procRoot = s.setId number (some got) ∧ s.Assigned number got := by
  unfold register
  rw [if_neg (by simp [free])]
  dsimp only
  split
  · exact ⟨_, rfl, setIdNoLock_assigned number.isLt ..⟩
  · exact ⟨_, rfl, setIdNoLock_assigned number.isLt ..⟩

theorem store_distinct {s : CardIds} (distinct : s.Distinct) (number : Fin s.limit) (buf : List Byte) :
    (s.cardIdStoreAttr number buf).2.Distinct := by
  unfold cardIdStoreAttr
  dsimp only
  split
  · exact distinct
  · split
    · next ok =>
      split
      · exact setId_distinct distinct fun i _ => (cardIdOk_iff.mp ok).2 i (by simp)
      · exact distinct
    · exact distinct

/-- Registered cards have unique ids, whatever names they come with and whatever is written. -/
theorem ids_unique (s : CardIds) (ops : List IdOp) : Throughout exec Kept s ops := by
  apply Throughout.of_mem
  intro op _ s
  cases op with
  | register number id shortname longname procRoot =>
    by_cases inside : number < s.limit
    · have step : s.exec (.register number id shortname longname procRoot) =
          s.register ⟨number, inside⟩ id shortname longname procRoot := dif_pos inside
      rw [step]
      cases free : s.ids number with
      | none =>
        obtain ⟨got, run, assigned⟩ := register_assigned ⟨number, inside⟩ free id shortname longname procRoot
        rw [run]
        refine ⟨fun n i a b c same _ _ => ?_, fun distinct => setId_distinct distinct assigned.2.2⟩
        cases same
        exact ⟨got, Function.update_self .., assigned⟩
      | some own =>
        have same : s.register ⟨number, inside⟩ id shortname longname procRoot = s := if_pos (by simp [free])
        rw [same]
        refine ⟨fun n i a b c same _ none_ => ?_, fun distinct => distinct⟩
        cases same
        rw [free] at none_
        cases none_
    · have step : s.exec (.register number id shortname longname procRoot) = s := dif_neg inside
      rw [step]
      refine ⟨fun n i a b c same within _ => ?_, fun distinct => distinct⟩
      cases same
      exact absurd within inside
  | store number buf =>
    refine ⟨fun n i a b c same => (by cases same), fun distinct => ?_⟩
    by_cases inside : number < s.limit
    · have step : s.exec (.store number buf) = (s.cardIdStoreAttr ⟨number, inside⟩ buf).2 := dif_pos inside
      rw [step]
      exact store_distinct distinct ⟨number, inside⟩ buf
    · have step : s.exec (.store number buf) = s := dif_neg inside
      rw [step]
      exact distinct
  | disconnect number =>
    refine ⟨fun n i a b c same => (by cases same), fun distinct => ?_⟩
    by_cases inside : number < s.limit
    · have step : s.exec (.disconnect number) = s.disconnect ⟨number, inside⟩ := dif_pos inside
      rw [step]
      exact setId_none_distinct distinct ⟨number, inside⟩
    · have step : s.exec (.disconnect number) = s := dif_neg inside
      rw [step]
      exact distinct

end CardIds

end AlsaDriver.Card
