import FlowBlocks.Cli.Options
import FlowBlocks.Text.Fold
/-!
From arguments to a request. Flags and operands may stand in any order; the first operand is the command,
and `--` ends the flags.
-/
namespace FlowBlocks.Cli

/-- Why arguments are no request. A group is the letters of one argument from the one at fault on. -/
inductive UsageError
  | badSyntax (arg : Bytes)
  | unknownFlag (name : Bytes)
  | unknownShort (letter : UInt8) (group : Bytes)
  | noValue (name : Bytes)
  | noShortValue (letter : UInt8) (group : Bytes)
  | badValue (value flag cause : Bytes)
  | unknownCommand (word : Bytes) (near : List Bytes)
  | tooFewOperands (count : Nat)
  | wrongOperands (count : Nat)
  | noOperands (word : Bytes) (command : Bytes)
  | outputMissing
deriving DecidableEq, Repr

namespace UsageError

/-- A letter between apostrophes. A byte outside ASCII shows as the first byte of its own spelling. -/
def quotedLetter (letter : UInt8) : Bytes :=
  let c := (Utf8.encode letter.toNat).headD 0
  let inner :=
    if c = byte '\'' then bytes "\\'"
    else if c = byte '"' then [c]
    else ((Utf8.runes (Utf8.encode c.toNat)).flatMap Rune.quoted)
  bytes "'" ++ inner ++ bytes "'"

def message : UsageError → Bytes
  | .badSyntax arg => bytes "bad flag syntax: " ++ arg
  | .unknownFlag name => bytes "unknown flag: --" ++ name
  | .unknownShort letter group =>
    bytes "unknown shorthand flag: " ++ quotedLetter letter ++ bytes " in -" ++ group
  | .noValue name => bytes "flag needs an argument: --" ++ name
  | .noShortValue letter group =>
    bytes "flag needs an argument: " ++ quotedLetter letter ++ bytes " in -" ++ group
  | .badValue value flag cause =>
    bytes "invalid argument " ++ quoted value ++ bytes " for " ++ quoted flag ++ bytes " flag: " ++ cause
  | .unknownCommand word near =>
    bytes "unknown command " ++ quoted word ++ bytes " for \"bbg\"" ++
      if near.isEmpty then []
      else bytes "\n\nDid you mean this?\n" ++ near.flatMap fun n => bytes "\t" ++ n ++ [10]
  | .tooFewOperands count =>
    bytes "requires at least 1 arg(s), only received " ++ decimal count
  | .wrongOperands count => bytes "accepts 1 arg(s), received " ++ decimal count
  | .noOperands word command =>
    bytes "unknown command " ++ quoted word ++ bytes " for " ++ quoted (bytes "bbg " ++ command)
  | .outputMissing => bytes "required flag(s) \"output\" not set"

end UsageError

def dash : UInt8 := byte '-'

def dashes : Bytes := [dash, dash]

def isDashed (arg : Bytes) : Bool := arg.head? == some dash

/-- Whether a flag with this long name needs no value. -/
def longImplied (fs : List Flag) (name : Bytes) : Bool :=
  fs.any fun f => bytes f.name == name && f.implied.isSome

def shortImplied (fs : List Flag) (letter : UInt8) : Bool :=
  fs.any fun f => f.short.map byte == some letter && f.implied.isSome

/-- Whether the next argument belongs to this one, as far as the flags tell that are known before the
command is. A flag that is not among them counts as one that takes a value. -/
def takesNext (fs : List Flag) (arg : Bytes) : Bool :=
  !arg.contains (byte '=') &&
    if dashes.isPrefixOf arg then !longImplied fs (arg.drop 2)
    else match arg with
      | [d, letter] => d = dash && !shortImplied fs letter
      | _ => false

/-- The first operand. A value that is the last argument hides what stands before it. -/
def firstOperand (fs : List Flag) : List Bytes → Option Bytes
  | [] => none
  | a :: rest =>
    if a = dashes then none
    else if takesNext fs a then
      match rest with
      | _ :: next :: later => firstOperand fs (next :: later)
      | _ => none
    else if !a.isEmpty && !isDashed a then some a
    else firstOperand fs rest

/-- The arguments without the first operand that reads `word`. -/
def withoutOperand (fs : List Flag) (word : Bytes) : List Bytes → List Bytes
  | [] => []
  | a :: rest =>
    if a = dashes then a :: rest
    else if takesNext fs a then
      match rest with
      | v :: later => a :: v :: withoutOperand fs word later
      | [] => [a]
    else if !isDashed a && a = word then rest
    else a :: withoutOperand fs word rest

/-- A flag by the names it is given by, as messages show it. -/
def Flag.title (f : Flag) : Bytes :=
  (match f.short with
    | some c => [dash, byte c] ++ bytes ", "
    | none => []) ++ dashes ++ bytes f.name

def Flag.apply (f : Flag) (o : Options) (value : Bytes) : Except UsageError Options :=
  (f.set o value).mapError (UsageError.badValue value f.title)

/-- Sets the flag that a long argument names, and tells whether the value was the next argument. -/
def longFlag (fs : List Flag) (o : Options) (arg : Bytes) (next : Option Bytes) :
    Except UsageError (Options × Bool) :=
  let body := arg.drop 2
  let (name, given) := match Bytes.cut? (byte '=') body with
    | some (name, value) => (name, some value)
    | none => (body, none)
  if body.head? == some dash || body.head? == some (byte '=') then .error (.badSyntax arg)
  else match fs.find? fun f => bytes f.name == name with
    | none => .error (.unknownFlag name)
    | some f =>
      match given, f.implied, next with
      | some value, _, _ => do return (← f.apply o value, false)
      | none, some value, _ => do return (← f.apply o (bytes value), false)
      | none, none, some value => do return (← f.apply o value, true)
      | none, none, none => .error (.noValue name)

/-- How the flags of a test runner start. They are passed over. -/
def runnerStart : Bytes := bytes "test."

/-- Sets the flags that a group of letters names. What follows the letter of a flag with a value is that
value, with or without an equals sign. -/
def shortFlags (fs : List Flag) (next : Option Bytes) : Options → Bytes →
    Except UsageError (Options × Bool)
  | o, [] => .ok (o, false)
  | o, letter :: rest =>
    if runnerStart.isPrefixOf (letter :: rest) then .ok (o, false)
    else match fs.find? fun f => f.short.map byte == some letter with
    | none => .error (.unknownShort letter (letter :: rest))
    | some f =>
      match rest, f.implied, next with
      | 0x3D :: v :: value, _, _ => do return (← f.apply o (v :: value), false)
      | rest, some value, _ => do shortFlags fs next (← f.apply o (bytes value)) rest
      | v :: value, none, _ => do return (← f.apply o (v :: value), false)
      | [], none, some value => do return (← f.apply o value, true)
      | [], none, none => .error (.noShortValue letter (letter :: rest))

def readArguments (fs : List Flag) (o : Options) : List Bytes → Except UsageError (Options × List Bytes)
  | [] => .ok (o, [])
  | a :: rest =>
    if !isDashed a || a = [dash] then do
      let (o, operands) ← readArguments fs o rest
      return (o, a :: operands)
    else if a = dashes then .ok (o, rest)
    else do
      let (o, used) ← if dashes.isPrefixOf a then longFlag fs o a rest.head?
        else shortFlags fs rest.head? o (a.drop 1)
      match used, rest with
      | true, _ :: later => readArguments fs o later
      | _, rest => readArguments fs o rest

inductive Request
  | help
  | release
  | run (command : Command) (options : Options) (operands : List Bytes)
deriving DecidableEq, Repr

/-- One step of the edit distance: the row of distances for one more letter. -/
def distanceRow (letter : UInt8) (word : Bytes) (row : List Nat) : List Nat :=
  let cells := word.zip (row.zip row.tail)
  (cells.foldl (fun (done : List Nat) (w, diagonal, above) =>
    let left := done.headD 0
    (if w = letter then diagonal else 1 + min diagonal (min left above)) :: done)
    [row.headD 0 + 1]).reverse

/-- How many bytes have to be put in, taken out or replaced to turn one word into the other, without
regard to case. -/
def distance (a b : Bytes) : Nat :=
  let a := lowercase a
  let b := lowercase b
  (a.foldl (fun row c => distanceRow c b row) (List.range (b.length + 1))).getLastD 0

/-- The command that prints completion scripts for shells. Only its name is known here. -/
def completionName : Bytes := bytes "completion"

/-- The commands that a word may be a slip of the pen for or the start of. -/
def near (word : Bytes) : List Bytes :=
  ((Command.all.map fun c => bytes c.name) ++ [completionName]).filter fun n =>
    distance word n ≤ 2 || (lowercase word).isPrefixOf n

def checkOperands (c : Command) (operands : List Bytes) : Except UsageError Unit :=
  match c with
  | .blocks | .check => if operands.isEmpty then .error (.tooFewOperands 0) else .ok ()
  | .export_ => if operands.length = 1 then .ok () else .error (.wrongOperands operands.length)
  | .version =>
    match operands with
    | [] => .ok ()
    | word :: _ => .error (.noOperands word (bytes c.name))

/-- Reads a request. Operands are checked before flags that have to be there. The flag for the version
is known where there is a version to tell. -/
def request (versioned : Bool) (args : List Bytes) : Except UsageError Request :=
  let general := Flag.common ++ [Flag.help]
  match firstOperand Flag.common args with
  | none => do
    let (o, _) ← readArguments (general ++ if versioned then [Flag.release] else []) {} args
    return if o.release && !o.help then .release else .help
  | some word =>
    let others := withoutOperand Flag.common word args
    if word = bytes "help" || word = completionName then do
      let _ ← readArguments general {} others
      return .help
    else match Command.ofName? word with
      | none => .error (.unknownCommand word (near word))
      | some c => do
        let (o, operands) ← readArguments c.flags {} others
        if o.help then return .help
        else
          checkOperands c operands
          if c = .export_ && o.output.isNone then .error .outputMissing
          else return .run c o operands

end FlowBlocks.Cli
