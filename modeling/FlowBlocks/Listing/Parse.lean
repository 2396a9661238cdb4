import FlowBlocks.Listing.Body
import FlowBlocks.Path
import FlowBlocks.Text.Blank
import FlowBlocks.Text.Canonical
import FlowBlocks.Text.Letter
/-!
Reading listings. A line is first read on its own (`Line.read`): it opens a body, adds a trap, or holds
labels with or without an instruction. The lines are then put together one by one (`Draft`); a body is
closed by the next `.body` line or by the end of the listing.
-/
namespace FlowBlocks

/-- What is wrong with a line, or with the body that ends there. -/
inductive LineError
  | bodyArity
  | trapArity
  | unknownDirective (word : Bytes)
  | jumpArity
  | condForm
  | switchForm
  | throwArity
  | lineOverflow
  | danglingLabel (label : Bytes)
  | badBody (name : Bytes) (cause : BodyError)
deriving DecidableEq, Repr

/-- Why a listing is refused: at a line, or because a line does not fit the reading buffer. -/
inductive ListingError
  | malformed (line : Nat) (cause : LineError)
  | lineTooLong
deriving DecidableEq, Repr

def LineError.message : LineError → Bytes
  | .bodyArity => bytes ".body takes exactly one name"
  | .trapArity => bytes ".trap takes BEGIN END HANDLER"
  | .unknownDirective w => bytes "unknown directive " ++ w
  | .jumpArity => bytes "goto takes one label"
  | .condForm => bytes "expected: if COND goto LABEL"
  | .switchForm => bytes "expected: switch VALUE LABEL... default LABEL"
  | .throwArity => bytes "throw takes one operand"
  | .lineOverflow => bytes "line number overflow: out of range"
  | .danglingLabel l => bytes "label " ++ quoted l ++ bytes " does not precede a unit"
  | .badBody name e => bytes "body " ++ name ++ bytes ": " ++ e.message

def ListingError.message (file : Bytes) : ListingError → Bytes
  | .malformed line e => file ++ bytes ":" ++ decimal line ++ bytes ": " ++ e.message
  | .lineTooLong => file ++ bytes ": bufio.Scanner: token too long"

/-- What a line says on its own. -/
inductive Line
  | body (name : Bytes)
  | trap (t : Trap)
  | code (labels : List Bytes) (instr : Option Instr)
deriving DecidableEq, Repr

namespace Line

/-- Whether a code point may stand at byte offset `at_` of a label: letters, `_`, `.`, `$`, and digits
past the start. -/
def isNameCode (at_ c : Nat) : Bool :=
  c == 0x5F || c == 0x2E || c == 0x24 || isLetter c || (at_ > 0 && isDigit c)

/-- Whether every code point may stand where it does; `first` tells that none came before. -/
def isName (first : Bool) : List Rune → Bool
  | [] => true
  | r :: rest => isNameCode (if first then 0 else 1) r.code && isName false rest

/-- Cuts a leading label off: a name before the first colon, unless `=` follows that colon. -/
def splitLabel? (text : Bytes) : Option (Bytes × Bytes) :=
  match Bytes.cut? (byte ':') text with
  | none => none
  | some (name, rest) =>
    if name.isEmpty || rest.head? == some (byte '=') || !isName true (Utf8.runes name) then none
    else some (canonical name, trim rest)

/-- All leading labels, and what is left. The number bounds the labels; the length of the text
suffices. -/
def splitLabels : Nat → Bytes → List Bytes × Bytes
  | 0, text => ([], text)
  | n + 1, text =>
    match splitLabel? text with
    | none => ([], text)
    | some (label, rest) =>
      let (labels, last) := splitLabels n rest
      (label :: labels, last)

/-- The kind of an instruction and the labels it may jump to. -/
def readOp (text : Bytes) : Except LineError (Op × List Bytes) :=
  let ws := words text
  match ws with
  | [] => .ok (.stmt, [])
  | key :: rest =>
    if key = bytes "goto" then
      match rest with
      | [l] => .ok (.jump, [canonical l])
      | _ => .error .jumpArity
    else if key = bytes "if" then
      match ws.reverse with
      | l :: goto :: _ :: _ :: _ =>
        if goto = bytes "goto" then .ok (.cond, [canonical l]) else .error .condForm
      | _ => .error .condForm
    else if key = bytes "switch" then
      match ws.reverse with
      | l :: default :: _ :: _ :: _ =>
        if default = bytes "default" then
          .ok (.switch, (((ws.drop 2).dropLast).dropLast ++ [l]).map canonical)
        else .error .switchForm
      | _ => .error .switchForm
    else if key = bytes "return" then .ok (.ret, [])
    else if key = bytes "throw" then
      match rest with
      | [_] => .ok (.throw, [])
      | _ => .error .throwArity
    else if key = bytes "nop" then .ok (.nop, [])
    else .ok (.stmt, [])

/-- A line that starts with a dot, by its words. -/
def readDirective (ws : List Bytes) : Except LineError Line :=
  match ws with
  | key :: args =>
    if key = bytes ".body" then
      match args with
      | [name] => .ok (.body name)
      | _ => .error .bodyArity
    else if key = bytes ".trap" then
      match args with
      | [first, past, handler] =>
        .ok (.trap ⟨canonical first, if past = bytes "-" then [] else canonical past,
          canonical handler⟩)
      | _ => .error .trapArity
    else .error (.unknownDirective key)
  | [] => .ok (.code [] none)

/-- The last line on which an instruction may stand, as it keeps its line number on 32 bits. -/
def maxNumber : Nat := 0xFFFFFFFF

/-- Reads one line: a comment is cut off at `#`, then blanks at both ends. Lines without an instruction
may stand anywhere. -/
def read (number : Nat) (raw : Bytes) : Except LineError Line :=
  let text := trim (raw.takeWhile (· != byte '#'))
  if text.head? == some (byte '.') then readDirective (words text)
  else
    let (labels, rest) := splitLabels text.length text
    if rest.isEmpty then .ok (.code labels none)
    else if number > maxNumber then .error .lineOverflow
    else do
      let (op, targets) ← readOp rest
      return .code labels (some { line := number, op, text := rest, targets })

end Line

/-- A body in the making. `pending` holds labels that wait for an instruction; `opened` tells that a
`.body` line began it. -/
structure Draft where
  name : Bytes := []
  opened : Bool := false
  instrs : List Instr := []
  traps : List Trap := []
  pending : List Bytes := []
deriving DecidableEq, Repr

namespace Draft

/-- Nothing was said that would make a body. -/
def isVoid (d : Draft) : Bool :=
  !d.opened && d.instrs.isEmpty && d.traps.isEmpty && d.pending.isEmpty

/-- The name given by `.body`, or the stem of the file name. -/
def title (file : Bytes) (d : Draft) : Bytes := if d.name.isEmpty then Path.stem file else d.name

/-- Ends the body in the making; a void draft makes none. -/
def close (file : Bytes) (d : Draft) : Except LineError (List Body) :=
  if d.isVoid then .ok []
  else match d.pending with
    | l :: _ => .error (.danglingLabel l)
    | [] =>
      match Body.make (d.title file) file d.instrs d.traps with
      | .ok b => .ok [b]
      | .error e => .error (.badBody (d.title file) e)

end Draft

namespace Listing

/-- The bodies closed so far and the one in the making. -/
structure Progress where
  bodies : List Body := []
  draft : Draft := {}
deriving DecidableEq, Repr

def Progress.add (file : Bytes) (p : Progress) : Line → Except LineError Progress
  | .body name => do
    let closed ← p.draft.close file
    return ⟨p.bodies ++ closed, { name, opened := true }⟩
  | .trap t => .ok { p with draft.traps := p.draft.traps ++ [t] }
  | .code labels none => .ok { p with draft.pending := p.draft.pending ++ labels }
  | .code labels (some x) =>
    let x := { x with labels := p.draft.pending ++ labels }
    .ok { p with draft.instrs := p.draft.instrs ++ [x], draft.pending := [] }

/-- The size of the reading buffer: a line with its end has to fit into it. -/
def bufferSize : Nat := 65536

/-- A carriage return before the end of a line belongs to the end. -/
def dropReturn (line : Bytes) : Bytes :=
  if line.getLast? == some 13 then line.dropLast else line

/-- The lines as they stand between line feeds. Nothing after the last line feed is no line. -/
def rawLines (src : Bytes) : List Bytes :=
  let pieces := Bytes.splitOn 10 src
  if pieces.getLast? == some [] then pieces.dropLast else pieces

def step (file : Bytes) (p : Progress) (line : Bytes × Nat) : Except ListingError Progress :=
  if line.1.length ≥ bufferSize then .error .lineTooLong
  else match Line.read line.2 (dropReturn line.1) >>= p.add file with
    | .ok q => .ok q
    | .error e => .error (.malformed line.2 e)

/-- Reads every body of a listing, or reports the first line at fault. -/
def parse (file src : Bytes) : Except ListingError (List Body) := do
  let lines := rawLines src
  let p ← (lines.zipIdx 1).foldlM (step file) {}
  match p.draft.close file with
  | .ok closed => return p.bodies ++ closed
  | .error e => .error (.malformed lines.length e)

end Listing

end FlowBlocks
