import FlowBlocks.Path
import FlowBlocks.Text.JsonText
import FlowBlocks.Trace.Stamp
/-!
Events as lines of text or of JSON.
-/
namespace FlowBlocks.Trace

/-- The form of a trace. `auto` leaves it to the name of the file. -/
inductive Format
  | auto | text | json
deriving DecidableEq, Repr

namespace Format

def ofCode : Nat → Format
  | 0 => .auto
  | 2 => .json
  | _ => .text

def parse : Bytes → Except ChoiceError Format :=
  choose "trace format" "auto|text|ndjson"
    [("", .auto), ("auto", .auto), ("text", .text), ("ndjson", .json), ("json", .json)]

/-- The form that suits a file name. -/
def ofPath (path : Bytes) : Format :=
  let ext := Path.extension path
  if isNamed ".ndjson" ext || isNamed ".jsonl" ext then .json else .text

end Format

namespace Kind

def sign : Kind → Bytes
  | .begin_ => bytes "→ "
  | .end_ => bytes "← "
  | .point => bytes "• "
  | .error => bytes "! "
  | .unnamed => []

end Kind

namespace Event

/-- The event as a line of text: number, sign, scope and name, then detail and remarks. -/
def text (e : Event) : Bytes :=
  bytes "[" ++ Bytes.padLeft 6 (decimal e.seq) ++ bytes "] " ++
    (if e.parent > 0 then bytes "  " else []) ++ e.kind.sign ++ e.scope.name ++ bytes ":" ++ e.name ++
    (if e.detail.isEmpty then [] else bytes " (" ++ e.detail ++ bytes ")") ++
    (if e.notes.isEmpty then [] else
      bytes " \x7b" ++
        Bytes.join (bytes ", ") (e.notes.sorted.map fun (k, v) => k ++ bytes "=" ++ v) ++ bytes "\x7d") ++
    [10]

def member (key : String) (value : Bytes) : Bytes := jsonString (bytes key) ++ bytes ":" ++ value

/-- The event as a line of JSON. Spans and parents 0, empty details and empty remarks are left out. -/
def json (e : Event) : Bytes :=
  let members :=
    [member "time" (jsonString e.time.render), member "seq" (decimal e.seq),
      member "kind" (jsonString e.kind.name), member "scope" (jsonString e.scope.name)] ++
    (if e.span = 0 then [] else [member "span_id" (decimal e.span)]) ++
    (if e.parent = 0 then [] else [member "parent_id" (decimal e.parent)]) ++
    [member "name" (jsonString e.name)] ++
    (if e.detail.isEmpty then [] else [member "detail" (jsonString e.detail)]) ++
    (if e.notes.isEmpty then [] else
      [member "extra" (bytes "\x7b" ++
        Bytes.join (bytes ",") (e.notes.sorted.map fun (k, v) =>
          jsonString k ++ bytes ":" ++ jsonString v) ++ bytes "\x7d")])
  bytes "\x7b" ++ Bytes.join (bytes ",") members ++ bytes "\x7d\n"

/-- The event in a given form; `auto` means text here. -/
def render (f : Format) (e : Event) : Bytes :=
  match f with
  | .json => e.json
  | _ => e.text

end Event

end FlowBlocks.Trace
