import FlowBlocks.Outline.Basic
/-!
Two checks on outlines. `rangeErrors` asks only that ranges and indices lie within the outline, which is
what printing needs. `complaints` asks in addition that the blocks tile the units, that edges match at
both ends, and that entries and orphans are marked consistently.
-/
namespace FlowBlocks.Outline

/-- A range or an index that points outside the outline. -/
inductive RangeError
  | units (block : Nat) (start stop total : Nat)
  | index (what : Bytes) (value : UInt32) (blocks : Nat)
deriving DecidableEq, Repr

def RangeError.message (name : Bytes) (e : RangeError) : Bytes :=
  bytes "blockgraph: snapshot " ++ name ++ bytes ": " ++
    match e with
    | .units b start stop total =>
      blockName b ++ bytes " covers units [" ++ decimal start ++ bytes "," ++ decimal stop ++
        bytes ") of " ++ decimal total
    | .index what v n =>
      what ++ bytes " index " ++ decimal v.toNat ++ bytes " out of range (" ++ decimal n ++
        bytes " blocks)"

/-- The first index of a list that names no block. -/
def indexError (what : Bytes) (blocks : Nat) (indices : List UInt32) : List RangeError :=
  match indices.find? (blocks ≤ ·.toNat) with
  | some v => [.index what v blocks]
  | none => []

/-- What points outside, block by block and then for entries, exits and orphans. -/
def rangeErrors (o : Outline) : List RangeError :=
  let total := o.unitList.length
  let n := o.blockList.length
  (o.blockList.zipIdx.flatMap fun (b, i) =>
    (if b.stop > total then [.units i b.start.toNat b.stop total] else []) ++
      indexError (blockName i ++ bytes " pred") n b.predList ++
      indexError (blockName i ++ bytes " succ") n b.succList) ++
  indexError (bytes "head") n o.headList ++ indexError (bytes "tail") n o.tailList ++
  indexError (bytes "orphan") n o.orphanList

/-- What the range check says, one error a line, or nothing where the outline passes. A missing outline
does not pass. -/
def rangeReport : Option Outline → Option Bytes
  | none => some (bytes "blockgraph: nil snapshot")
  | some o =>
    match o.rangeErrors with
    | [] => none
    | errors => some (Bytes.join [10] (errors.map (RangeError.message o.name)))

/-- A way in which an outline is not that of a block flow. -/
inductive Complaint
  | emptyBlock (block : Nat)
  | wrongStart (block : Nat) (start expected : UInt32)
  | wrongCover (covered : UInt32) (total : Nat)
  | outOfRange (what : Bytes) (value : UInt32)
  | unmatchedSucc (source : Nat) (target : UInt32)
  | unmatchedPred (target : Nat) (source : UInt32)
  | firstNotHead
  | orphanIsHead (orphan : UInt32)
  | orphanHasPreds (orphan : UInt32)
  | tooManyBlocks
deriving DecidableEq, Repr

def Complaint.message : Complaint → Bytes
  | .emptyBlock i => blockName i ++ bytes " is empty"
  | .wrongStart i s e =>
    blockName i ++ bytes " starts at " ++ decimal s.toNat ++ bytes ", want " ++ decimal e.toNat
  | .wrongCover n m =>
    bytes "blocks cover " ++ decimal n.toNat ++ bytes " units, body has " ++ decimal m
  | .outOfRange what v => what ++ bytes " index " ++ decimal v.toNat ++ bytes " out of range"
  | .unmatchedSucc i j => blockName i ++ bytes " -> " ++ blockName j.toNat ++ bytes " has no matching pred"
  | .unmatchedPred i j => blockName i ++ bytes " <- " ++ blockName j.toNat ++ bytes " has no matching succ"
  | .firstNotHead => bytes "B0 is not a head"
  | .orphanIsHead o => bytes "orphan " ++ blockName o.toNat ++ bytes " is a head"
  | .orphanHasPreds o => bytes "orphan " ++ blockName o.toNat ++ bytes " has preds"
  | .tooManyBlocks => bytes "block count overflow: out of range"

/-- Whether each block starts where the one before it ended; positions are counted on 32 bits. Ends with
the position past the last block. -/
def tiling : Nat → UInt32 → List OutlineBlock → List Complaint × UInt32
  | _, next, [] => ([], next)
  | i, next, b :: rest =>
    let (later, last) := tiling (i + 1) (b.start + b.len) rest
    ((if b.len = 0 then [.emptyBlock i] else []) ++
      (if b.start = next then [] else [.wrongStart i b.start next]) ++ later, last)

def outOfRange (what : Bytes) (blocks : Nat) (indices : List UInt32) : List Complaint :=
  (indices.filter (blocks ≤ ·.toNat)).map (.outOfRange what)

def shapeComplaints (o : Outline) : List Complaint :=
  let n := o.blockList.length
  let (tiles, covered) := tiling 0 0 o.blockList
  tiles ++
  (if covered.toNat = o.unitList.length then [] else [.wrongCover covered o.unitList.length]) ++
  outOfRange (bytes "head") n o.headList ++ outOfRange (bytes "tail") n o.tailList ++
  outOfRange (bytes "orphan") n o.orphanList ++
  o.blockList.zipIdx.flatMap fun (b, i) =>
    outOfRange (blockName i ++ bytes " pred") n b.predList ++
      outOfRange (blockName i ++ bytes " succ") n b.succList

/-- The predecessors, and the successors, that a block lists. -/
def predsOf (o : Outline) (i : UInt32) : List UInt32 :=
  ((o.blockList[i.toNat]?).map OutlineBlock.predList).getD []

def succsOf (o : Outline) (i : UInt32) : List UInt32 :=
  ((o.blockList[i.toNat]?).map OutlineBlock.succList).getD []

/-- Edges listed at one end only, and entries and orphans marked inconsistently. -/
def edgeComplaints (o : Outline) : List Complaint :=
  (o.blockList.zipIdx.flatMap fun (b, i) =>
    (b.succList.filter fun j => !(o.predsOf j).contains i.toUInt32).map (.unmatchedSucc i) ++
      (b.predList.filter fun j => !(o.succsOf j).contains i.toUInt32).map (.unmatchedPred i)) ++
  (if !o.blockList.isEmpty && !o.headList.contains 0 then [.firstNotHead] else []) ++
  o.orphanList.flatMap fun i =>
    (if o.headList.contains i then [.orphanIsHead i] else []) ++
      if (o.predsOf i).isEmpty then [] else [.orphanHasPreds i]

/-- Complaints about edges are raised only where shape gives no cause for any, and neither where the blocks
cannot be counted on 32 bits. -/
def complaints (o : Outline) : List Complaint :=
  if o.blockList.length < 0x100000000 then
    match o.shapeComplaints with
    | [] => o.edgeComplaints
    | found => found
  else [.tooManyBlocks]

/-- What the full check says, one complaint a line, or nothing. -/
def complaintReport : Option Outline → Option Bytes
  | none => some (bytes "nil snapshot")
  | some o =>
    match o.complaints with
    | [] => none
    | found => some (Bytes.join [10] (found.map Complaint.message))

end FlowBlocks.Outline
