import FlowBlocks.Batch
import FlowBlocks.Report.Dump
import FlowBlocks.Report.Table
/-!
What commands print of the results of a batch, together with the count of what failed. A file that could
not be read or parsed counts as one body.
-/
namespace FlowBlocks.Cli

/-- Printed text, messages, and how many of how many bodies failed. -/
structure Tally where
  out : Bytes := []
  err : Bytes := []
  failed : Nat := 0
  total : Nat := 0
deriving DecidableEq, Repr

namespace Tally

def append (a b : Tally) : Tally :=
  ⟨a.out ++ b.out, a.err ++ b.err, a.failed + b.failed, a.total + b.total⟩

instance : Append Tally := ⟨append⟩

def sum (ts : List Tally) : Tally := ts.foldl append {}

def complaint (path body why : Bytes) : Bytes :=
  path ++ bytes ": body " ++ body ++ bytes ": " ++ why ++ [10]

/-- A body: its dump, or why there is none. -/
def ofBody (style : DumpStyle) (path : Bytes) (b : BodyResult) : Tally :=
  match b.failure with
  | some e => { err := complaint path b.name e.message, failed := 1, total := 1 }
  | none =>
    match b.outline with
    | none => { total := 1 }
    | some o =>
      match o.dump style {} with
      | (none, w) => { out := w.text, total := 1 }
      | (some e, w) => { out := w.text, err := complaint path b.name e, failed := 1, total := 1 }

/-- A file: the dumps of its bodies, under its name if it is one of several. -/
def ofFile (style : DumpStyle) (heading : Bool) (r : FileResult) : Tally :=
  let head : Tally := { out := if heading then bytes "# " ++ r.path ++ [10] else [] }
  head ++ match r.failure with
    | some e => { err := r.path ++ bytes ": " ++ e.message ++ [10], failed := 1, total := 1 }
    | none => sum (r.bodies.map (ofBody style r.path))

def ofFiles (style : DumpStyle) (quiet : Bool) (results : List FileResult) : Tally :=
  sum (results.map (ofFile style (results.length > 1 && !quiet)))

/-- The messages of the bodies that failed to build. -/
def ofFailures (r : FileResult) : Tally :=
  sum (r.bodies.map fun b => match b.failure with
    | some e => { err := complaint r.path b.name e.message, failed := 1, total := 1 }
    | none => { total := 1 })

end Tally

def oneLine (s : Bytes) : Bytes := Bytes.replace [10] (bytes "; ") (trim s)

def bodyRow (r : FileResult) (b : BodyResult) : Row :=
  let count := fun {α : Type} (f : Outline → List α) => (((b.outline.map f).getD []).length : Int)
  { file := r.path, body := b.name
    blocks := count Outline.blockList, heads := count Outline.headList
    tails := count Outline.tailList, orphans := count Outline.orphanList
    status := match b.failure, b.violations with
      | some e, _ => oneLine e.message
      | none, some v => bytes "verify: " ++ oneLine v
      | none, none => if r.cached then bytes "cached" else bytes "ok" }

/-- A row per body, or one for a file without bodies to show. -/
def fileRows (r : FileResult) : List Row :=
  match r.failure with
  | some e => [{ file := r.path, body := bytes "-", status := oneLine e.message }]
  | none => r.bodies.map (bodyRow r)

def summaryRows (results : List FileResult) : List Row := results.flatMap fileRows

end FlowBlocks.Cli
