import FlowBlocks.Report.Paint
import FlowBlocks.Text.Column
import FlowBlocks.Text.Column.Shown
import FlowBlocks.Writer
/-!
The summary of a batch: an aligned table with one row per body, and a line of totals.
-/
namespace FlowBlocks

/-- A row: file, body, four counts, and `ok`, `cached` or what went wrong. -/
structure Row where
  file : Bytes := []
  body : Bytes := []
  blocks : Int := 0
  heads : Int := 0
  tails : Int := 0
  orphans : Int := 0
  status : Bytes := []
deriving DecidableEq, Repr

/-- Which colours a terminal has: none, or the basic ones. -/
inductive Palette
  | plain | ansi
deriving DecidableEq, Repr

/-- How a table is printed. Statuses wider than `maxStatus` columns are cut; 0 or less means no limit. -/
structure TableStyle where
  colored : Bool := false
  palette : Palette := .plain
  maxStatus : Int := 0
deriving DecidableEq, Repr

namespace Row

def failed (r : Row) : Bool := r.status != bytes "ok" && r.status != bytes "cached"

def cells (style : TableStyle) (r : Row) : List Bytes :=
  [r.file, r.body, decimalInt r.blocks, decimalInt r.heads, decimalInt r.tails, decimalInt r.orphans,
    if style.maxStatus > 0 then Column.truncate style.maxStatus r.status else r.status]

def paint (r : Row) : Paint :=
  if r.failed then ⟨"31", "0"⟩ else if r.status = bytes "cached" then ⟨"36", "0"⟩ else ⟨"32", "0"⟩

end Row

namespace Table

def titles : List Bytes :=
  ["FILE", "BODY", "BLOCKS", "HEADS", "TAILS", "ORPHANS", "STATUS"].map bytes

/-- The width of each column: that of its widest cell. -/
def widths (rows : List (List Bytes)) : List Nat :=
  rows.foldl (fun ws row => ws.zipWith max (row.map Column.width)) (titles.map fun _ => 0)

/-- The cells of a row side by side, all but the last filled up. -/
def align (ws : List Nat) (row : List Bytes) : Bytes :=
  Bytes.join (bytes "  ")
    ((row.zip ws).dropLast.map (fun (cell, w) => Column.fill w cell) ++ row.getLast?.toList)

/-- A text in one colour: tabs become four spaces, and each line is coloured on its own and filled up to
the widest. The widths are those that a terminal shows. -/
def colorize (palette : Palette) (p : Paint) (s : Bytes) : Bytes :=
  let s := Bytes.replace [9] (bytes "    ") s
  let pieces := (Bytes.splitOn 10 s).map (p.apply (palette = .ansi))
  let widest := (pieces.map Column.shownWidth).foldl max 0
  Bytes.join [10] (pieces.map fun line =>
    line ++ List.replicate (widest - Column.shownWidth line) (byte ' '))

/-- The line of a row: aligned, coloured on request, without spaces at its end. -/
def line (style : TableStyle) (ws : List Nat) (p : Paint) (row : List Bytes) : Bytes :=
  let text := align ws row
  let text := if style.colored then colorize style.palette p text else text
  Bytes.dropEndWhile (· == byte ' ') text ++ [10]

def totals (rows : List Row) : Bytes :=
  decimal rows.length ++ bytes " bodies, " ++ decimal (rows.filter Row.failed).length ++
    bytes " failed\n"

def lines (style : TableStyle) (rows : List Row) : List Bytes :=
  let cells := rows.map (Row.cells style)
  let ws := widths (titles :: cells)
  line style ws ⟨"1", "0"⟩ titles ::
    (rows.zip cells).map (fun (r, row) => line style ws r.paint row) ++ [totals rows]

/-- Prints the table, one write a line. -/
def print (style : TableStyle) (rows : List Row) (w : Writer) : Option Bytes × Writer :=
  w.writeAll (lines style rows)

end Table

end FlowBlocks
