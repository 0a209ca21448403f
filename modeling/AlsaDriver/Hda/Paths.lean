import Mathlib.Algebra.GroupWithZero.Nat
import Mathlib.Init

namespace AlsaDriver.Hda

abbrev HdaNid := BitVec 16

def maxNidPathDepth : Nat := 10

/-- The fields of `struct nid_path` that the search writes, with arrays of `MAX_NID_PATH_DEPTH` elements. -/
structure NidPath where
  depth : Nat
  path : List HdaNid
  idx : List (BitVec 8)
  multi : List (BitVec 8)
  path_size : path.length = maxNidPathDepth
  idx_size : idx.length = maxNidPathDepth
  multi_size : multi.length = maxNidPathDepth

/-- A path that was cleared with `memset`. -/
def NidPath.zero : NidPath where
  depth := 0
  path := List.replicate maxNidPathDepth 0
  idx := List.replicate maxNidPathDepth 0
  multi := List.replicate maxNidPathDepth 0
  path_size := List.length_replicate
  idx_size := List.length_replicate
  multi_size := List.length_replicate

/-- A codec: the capabilities of its widgets (0 outside of its nodes), their connection lists (empty
    on an error), and the paths that were added. -/
structure HdaCodec where
  getWcaps : HdaNid → BitVec 32
  conn : HdaNid → List HdaNid
  paths : List NidPath

def acWidAudOut : Int := 0
def acWidAudIn : Int := 1
def acWidAudMix : Int := 2
def acWidPin : Int := 4

def getWcapsType (wcaps : BitVec 32) : Int := if wcaps = 0 then -1 else ((wcaps &&& 0xf00000) >>> 20).toNat

def isNidContained (p : NidPath) (nid : HdaNid) : Bool := (p.path.take p.depth).contains nid

namespace HdaCodec

variable (codec : HdaCodec)

def typeOf (nid : HdaNid) : Int := getWcapsType (codec.getWcaps nid)

def isDacAlreadyUsed (nid : HdaNid) : Bool := codec.paths.any fun p => p.path.head? == some nid

/-- The test of a connection in the first loop of `__parse_nid_path`. -/
def starts (from_ nid : HdaNid) : Bool :=
  nid == from_ || (from_ == 0 && codec.typeOf nid == acWidAudOut && !codec.isDacAlreadyUsed nid)

def inner (nid : HdaNid) : Bool :=
  codec.typeOf nid != acWidAudOut && codec.typeOf nid != acWidAudIn && codec.typeOf nid != acWidPin

/-- The label `found`; no result where a store would fall outside of an array. -/
def found (to_ c : HdaNid) (i : Nat) (p : NidPath) : Option NidPath :=
  if p.depth + 1 < maxNidPathDepth then
    some { p with
      depth := p.depth + 1
      path := p.path.set p.depth c
      idx := p.idx.set (p.depth + 1) (BitVec.ofNat 8 i)
      multi := if 1 < (codec.conn to_).length ∧ codec.typeOf to_ ≠ acWidAudMix then p.multi.set (p.depth + 1) 1 else p.multi
      path_size := by simpa using p.path_size
      idx_size := by simpa using p.idx_size
      multi_size := by split <;> simpa using p.multi_size }
  else none

def tryConns (parse : HdaNid → NidPath → Option (Bool × NidPath)) (to_ : HdaNid) :
    List (HdaNid × Nat) → NidPath → Option (Bool × NidPath)
  | [], p => some (false, p)
  | (c, i) :: rest, p =>
    if codec.inner c then
      match parse c p with
      | none => none
      | some (true, p') => (codec.found to_ c i p').map fun p'' => (true, p'')
      | some (false, p') => tryConns parse to_ rest p'
    else tryConns parse to_ rest p

/-- `__parse_nid_path` at `depth = MAX_NID_PATH_DEPTH + 1 - levels`. -/
def parseNidPath (from_ : HdaNid) : Nat → HdaNid → Int → NidPath → Option (Bool × NidPath)
  | 0, _, _, p => some (false, p)
  | levels + 1, to_, anchor, p =>
    if (to_.toNat : Int) ≠ anchor ∧ to_ = BitVec.ofInt 16 (-anchor) then some (false, p)
    else
      let passed := if (to_.toNat : Int) = anchor then 0 else anchor
      match (codec.conn to_).zipIdx.find? fun h => codec.starts from_ h.1 && decide (passed ≤ 0) with
      | some h => (codec.found to_ h.1 h.2 p).map fun p' => (true, p')
      | none =>
        if levels = 0 then some (false, p)
        else codec.tryConns (fun c p => parseNidPath from_ levels c passed p) to_ (codec.conn to_).zipIdx p

def sndHdaParseNidPath (from_ to_ : HdaNid) (anchor : Int) (p : NidPath) : Option (Bool × NidPath) :=
  match codec.parseNidPath from_ maxNidPathDepth to_ anchor p with
  | none => none
  | some (false, p') => some (false, p')
  | some (true, p') =>
    if p'.depth < maxNidPathDepth then
      some (true, { p' with
        depth := p'.depth + 1
        path := p'.path.set p'.depth to_
        path_size := by simpa using p'.path_size })
    else none

/-- `snd_hda_get_conn_index` with `recursive = 11 - levels`, as far as it tells whether there is an index. -/
def hasConnIndex : Nat → HdaNid → HdaNid → Bool
  | levels, mux, nid =>
    (codec.conn mux).contains nid ||
      match levels with
      | 0 => false
      | levels + 1 => (codec.conn mux).any fun c =>
          codec.typeOf c != acWidPin && codec.typeOf c != acWidAudOut && hasConnIndex levels c nid

def isReachablePath (from_ to_ : HdaNid) : Bool := from_ != 0 && to_ != 0 && codec.hasConnIndex 10 to_ from_

def getNidPath (from_ to_ : HdaNid) (anchor : Int) : Option NidPath :=
  codec.paths.find? fun p =>
    decide (0 < p.depth) && (from_ == 0 || p.path.head? == some from_) && (to_ == 0 || p.path[p.depth - 1]? == some to_) &&
      (decide (anchor = 0) || (decide (0 < anchor) && isNidContained p (BitVec.ofInt 16 anchor)) ||
        (decide (anchor < 0) && !isNidContained p (BitVec.ofInt 16 anchor)))

/-- The path that is returned, if any, and the paths afterwards; `allocated` is the answer of `snd_array_new`. -/
def sndHdaAddNewPath (from_ to_ : HdaNid) (anchor : Int) (allocated : Bool) : Option (Option NidPath × List NidPath) :=
  if from_ ≠ 0 ∧ to_ ≠ 0 ∧ codec.isReachablePath from_ to_ = false then some (none, codec.paths)
  else
    match codec.getNidPath from_ to_ anchor with
    | some p => some (some p, codec.paths)
    | none =>
      if allocated then
        match sndHdaParseNidPath { codec with paths := codec.paths ++ [NidPath.zero] } from_ to_ anchor NidPath.zero with
        | none => none
        | some (true, p) => some (some p, codec.paths ++ [p])
        | some (false, _) => some (none, codec.paths)
      else some (none, codec.paths)

end HdaCodec

end AlsaDriver.Hda
