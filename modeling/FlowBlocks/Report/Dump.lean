import FlowBlocks.Outline.Check
import FlowBlocks.Report.Paint
import FlowBlocks.Text.Column
import FlowBlocks.Writer
/-!
An outline printed block by block: a headline, one line per block, and on request one line per unit.
-/
namespace FlowBlocks

/-- How an outline is printed. Units wider than `width` columns are cut; 0 or less means no limit. -/
structure DumpStyle where
  color : Bool := false
  units : Bool := false
  width : Int := 0
deriving DecidableEq, Repr

namespace Outline

def paintBlock : Paint := ⟨"36;1", "0;22"⟩
def paintHead : Paint := ⟨"32", "0"⟩
def paintTail : Paint := ⟨"33", "0"⟩
def paintOrphan : Paint := ⟨"31", "0"⟩
def paintPosition : Paint := ⟨"2", "22"⟩

def names (is : List UInt32) : Bytes := blockNames (is.map (·.toNat))

def headline (o : Outline) : Bytes :=
  bytes "body " ++ o.name ++ bytes ": " ++ decimal o.blockList.length ++ bytes " blocks, heads " ++
    names o.headList ++ bytes ", tails " ++ names o.tailList ++ [10]

def marks (style : DumpStyle) (o : Outline) (i : Nat) : List Bytes :=
  let mark := fun (is : List UInt32) (p : Paint) (text : String) =>
    if is.any (·.toNat == i) then [p.apply style.color (bytes text)] else []
  mark o.headList paintHead "head" ++ mark o.tailList paintTail "tail" ++
    mark o.orphanList paintOrphan "orphan"

/-- The line of a block. Names are filled up to the width of the last one. -/
def blockLine (style : DumpStyle) (o : Outline) (i : Nat) (b : OutlineBlock) : Bytes :=
  let nameWidth := Column.width (blockName (o.blockList.length - 1))
  let ms := o.marks style i
  bytes "  " ++ paintBlock.apply style.color (Column.fill nameWidth (blockName i)) ++
    bytes "  preds " ++ names b.predList ++ bytes "  succs " ++ names b.succList ++
    (if ms.isEmpty then [] else bytes "  " ++ Bytes.join (bytes " ") ms) ++ [10]

/-- The line of the unit at a position. Positions are as wide as the last one. -/
def unitLine (style : DumpStyle) (o : Outline) (position : Nat) (unit : Bytes) : Bytes :=
  let positionWidth := (decimal (o.unitList.length - 1)).length
  let shown := if style.width > 0 then Column.truncate style.width unit else unit
  bytes "      " ++ paintPosition.apply style.color (Bytes.padLeft positionWidth (decimal position)) ++
    bytes "  " ++ shown ++ [10]

/-- The lines of a block and, on request, of its units. -/
def blockLines (style : DumpStyle) (o : Outline) (i : Nat) (b : OutlineBlock) : List Bytes :=
  o.blockLine style i b ::
    if style.units then
      ((o.blockUnits? i).getD []).zipIdx.map fun (u, j) => o.unitLine style (b.start.toNat + j) u
    else []

def dumpLines (style : DumpStyle) (o : Outline) : List Bytes :=
  o.headline :: o.blockList.zipIdx.flatMap fun (b, i) => o.blockLines style i b

/-- Prints an outline, one write a line. An outline that fails the range check is refused before
anything is written. -/
def dump (style : DumpStyle) (o : Outline) (w : Writer) : Option Bytes × Writer :=
  match rangeReport (some o) with
  | some e => (some e, w)
  | none => w.writeAll (o.dumpLines style)

end Outline

end FlowBlocks
