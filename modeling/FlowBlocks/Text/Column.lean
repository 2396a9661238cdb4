import FlowBlocks.Text.Cluster
import FlowBlocks.Text.Column.Table
/-!
Widths of texts in terminal columns, cutting a text to a width and filling it up to one.
-/
namespace FlowBlocks.Column

/-- A displayed character is as wide as its first code point that takes a column at all. -/
def ofCluster (s : Bytes) : Nat :=
  (((Utf8.runes s).map fun r => ofCode r.code).find? (· > 0)).getD 0

def width (s : Bytes) : Nat := (clusters s).foldl (fun n c => n + ofCluster c) 0

/-- The longest prefix of whole characters that fits into `room` columns. -/
def prefixWithin : Int → List Bytes → List Bytes
  | _, [] => []
  | room, c :: rest =>
    if (ofCluster c : Int) > room then [] else c :: prefixWithin (room - ofCluster c) rest

/-- The text itself where it fits into `limit` columns, else as much of it as leaves three columns for
dots, then the dots. -/
def truncate (limit : Int) (s : Bytes) : Bytes :=
  if (width s : Int) ≤ limit then s
  else (prefixWithin (limit - 3) (clusters s)).flatten ++ bytes "..."

/-- Spaces behind, up to `limit` columns in all. -/
def fill (limit : Nat) (s : Bytes) : Bytes :=
  s ++ List.replicate (limit - width s) (byte ' ')

end FlowBlocks.Column
