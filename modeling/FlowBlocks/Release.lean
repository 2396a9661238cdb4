import FlowBlocks.Report.Paint
import FlowBlocks.Text.Blank
import FlowBlocks.Text.JsonText
/-!
What a build says about itself.
-/
namespace FlowBlocks

/-- Version, commit and date of a build; the last two may be unknown. -/
structure Release where
  version : Bytes := bytes "0.1.0-dev"
  commit : Bytes := []
  date : Bytes := []
deriving DecidableEq, Repr

namespace Release

/-- The three numbers and the suffix of a version, if it has that form. -/
def triple? (v : Bytes) : Option (Bytes × Bytes × Bytes × Bytes) :=
  let (core, suffix) := (Bytes.cut? (byte '-') v).getD (v, [])
  match Bytes.splitOn (byte '.') core with
  | [a, b, c] => some (a, b, c, suffix)
  | _ => none

/-- The version, each of its three numbers in a colour of its own. -/
def pretty (colored : Bool) (r : Release) : Bytes :=
  let v := trim r.version
  match triple? v with
  | none => v
  | some (a, b, c, suffix) =>
    Paint.apply ⟨"33;1", "0;22"⟩ colored a ++ bytes "." ++
      Paint.apply ⟨"32;1", "0;22"⟩ colored b ++ bytes "." ++
      Paint.apply ⟨"34;1", "0;22"⟩ colored c ++
      if suffix.isEmpty then [] else bytes "-" ++ suffix

def orUnknown (s : Bytes) : Bytes :=
  let s := trim s
  if s.isEmpty then bytes "unknown" else s

/-- A line for the version, and on request one each for commit and date. -/
def text (colored showCommit showDate : Bool) (r : Release) : Bytes :=
  bytes "bbg " ++ r.pretty colored ++ [10] ++
    (if showCommit then bytes "commit: " ++ orUnknown r.commit ++ [10] else []) ++
    if showDate then bytes "built:  " ++ orUnknown r.date ++ [10] else []

/-- The same as a JSON object, a member a line. -/
def json (showCommit showDate : Bool) (r : Release) : Bytes :=
  let members :=
    [("tool", bytes "bbg"), ("version", trim r.version)] ++
    (if showCommit then [("git_commit", orUnknown r.commit)] else []) ++
    if showDate then [("build_date", orUnknown r.date)] else []
  bytes "\x7b\n" ++
    Bytes.join (bytes ",\n") (members.map fun (k, v) =>
      bytes "  " ++ jsonString (bytes k) ++ bytes ": " ++ jsonString v) ++
    bytes "\n\x7d\n"

end Release

end FlowBlocks
