import Mathlib.Logic.Function.Basic

namespace AlsaDriver.Card

def ENOMEM : Int := 12
def EBUSY : Int := 16
def ENODEV : Int := 19

/-- What is fixed when the module is loaded: `SNDRV_CARDS`, whether the drivers are modules, and the
    names in `slots`. -/
structure CardConfig where
  cards : Nat
  modules : Bool
  slots : Nat → Option (List Char)

def hyphen (c : Char) : Char := if c = '-' then '_' else c

/-- The comparison loop of `module_slot_match`. -/
def slotNameLoop (found : Bool) : List Char → List Char → Bool
  | [], [] => found
  | c1 :: s1, c2 :: s2 => if hyphen c1 ≠ hyphen c2 then !found else slotNameLoop found s1 s2
  | _, _ => !found

namespace CardConfig

variable (cfg : CardConfig)

/-- `name` is that of the module, which may be missing. -/
def moduleSlotMatch (name : Option (List Char)) (idx : Nat) : Bool :=
  if cfg.modules then
    match name, cfg.slots idx with
    | some s1, some ('!' :: s2) => slotNameLoop false s1 s2
    | some s1, some s2 => slotNameLoop true s1 s2
    | _, _ => false
  else true

def unassigned (idx : Nat) : Bool := (cfg.slots idx).all List.isEmpty

end CardConfig

/-- The fields of a card that decide on its slot and its life. `freeing` stands for a `snd_card_free`
    that waits for the last reference. -/
structure SndCard where
  number : Nat
  shutdown : Bool
  refcount : Int
  freeOnLastClose : Bool
  freeing : Bool
  deriving DecidableEq, Repr

structure CardSystem where
  sndCardsLock : Nat → Bool
  sndEcardsLimit : Int
  card : Nat → Option SndCard
  next : Nat

/-- The arguments of `snd_card_create`, and which of its steps succeed. -/
structure Creation where
  idx : BitVec 32
  module : Option (List Char)
  allocated : Bool
  ctlCreated : Bool
  infoCreated : Bool
  deriving DecidableEq, Repr

namespace CardSystem

variable (cfg : CardConfig) (s : CardSystem)

def maskAllows (idx : BitVec 32) (idx2 : Nat) : Bool := !(decide (idx2 < 4) && !idx.getLsbD idx2)

def searchSlot (idx : BitVec 32) (suits : Nat → Bool) : Option Nat :=
  (List.range cfg.cards).find? fun idx2 => maskAllows idx idx2 && !s.sndCardsLock idx2 && suits idx2

def findSlot (idx : BitVec 32) (name : Option (List Char)) : Except Int Nat :=
  if idx.toInt < 0 then
    match s.searchSlot cfg idx (cfg.moduleSlotMatch name) with
    | some slot => .ok slot
    | none =>
      match s.searchSlot cfg idx cfg.unassigned with
      | some slot => .ok slot
      | none => .error (- ENODEV)
  else if idx.toInt < s.sndEcardsLimit then if s.sndCardsLock idx.toNat then .error (- EBUSY) else .ok idx.toNat
  else if (cfg.cards : Int) ≤ idx.toInt then .error (- ENODEV)
  else .ok idx.toNat

def reserve (slot : Nat) : CardSystem :=
  { s with
    sndCardsLock := Function.update s.sndCardsLock slot true
    sndEcardsLimit := if s.sndEcardsLimit ≤ slot then slot + 1 else s.sndEcardsLimit }

def finish (req : Creation) (slot : Nat) : Int × CardSystem :=
  if ¬ req.ctlCreated ∨ ¬ req.infoCreated then (- ENOMEM, s)
  else
    (0, { s with
      card := Function.update s.card s.next
        (some { number := slot, shutdown := false, refcount := 0, freeOnLastClose := false, freeing := false })
      next := s.next + 1 })

def sndCardCreate (req : Creation) : Int × CardSystem :=
  if ¬ req.allocated then (- ENOMEM, s)
  else
    match s.findSlot cfg req.idx req.module with
    | .error err => (err, s)
    | .ok slot => (s.reserve slot).finish req slot

def modify (c : Nat) (f : SndCard → SndCard) : CardSystem :=
  { s with card := Function.update s.card c ((s.card c).map f) }

def sndCardDoFree (c : Nat) : CardSystem := { s with card := Function.update s.card c none }

def sndCardDisconnect (c : Nat) : CardSystem :=
  match s.card c with
  | none => s
  | some card =>
    if card.shutdown then s
    else { s.modify c fun card => { card with shutdown := true } with
      sndCardsLock := Function.update s.sndCardsLock card.number false }

/-- The end of `atomic_dec_and_test` on the reference counter. -/
def decAndTest (c : Nat) (zero : CardSystem → CardSystem) : CardSystem :=
  match s.card c with
  | none => s
  | some card =>
    let s := s.modify c fun card => { card with refcount := card.refcount - 1 }
    if card.refcount - 1 = 0 then zero s else s

def sndCardUnref (c : Nat) : CardSystem :=
  s.decAndTest c fun s => if (s.card c).any SndCard.freeOnLastClose then s.sndCardDoFree c else s

def sndCardFreeWhenClosed (c : Nat) : CardSystem :=
  let s := s.modify c fun card => { card with refcount := card.refcount + 1 }
  let s := s.sndCardDisconnect c
  let s := s.modify c fun card => { card with freeOnLastClose := true }
  s.decAndTest c fun s => s.sndCardDoFree c

/-- `snd_card_free` up to its wait. -/
def sndCardFree (c : Nat) : CardSystem :=
  (s.sndCardDisconnect c).modify c fun card => { card with freeing := true }

/-- A waiting `snd_card_free` goes on when no reference is left. -/
def wake (c : Nat) : CardSystem :=
  if (s.card c).any fun card => card.freeing && card.refcount == 0 then s.sndCardDoFree c else s

end CardSystem

inductive CardOp
  | create (req : Creation)
  | disconnect (c : Nat)
  | free (c : Nat)
  | freeWhenClosed (c : Nat)
  | ref (c : Nat)
  | unref (c : Nat)
  | wake (c : Nat)
  deriving DecidableEq, Repr

namespace CardSystem

variable (cfg : CardConfig)

def exec (s : CardSystem) : CardOp → CardSystem
  | .create req => (s.sndCardCreate cfg req).2
  | .disconnect c => s.sndCardDisconnect c
  | .free c => s.sndCardFree c
  | .freeWhenClosed c => s.sndCardFreeWhenClosed c
  | .ref c => s.modify c fun card => { card with refcount := card.refcount + 1 }
  | .unref c => s.sndCardUnref c
  | .wake c => s.wake c

end CardSystem

end AlsaDriver.Card
