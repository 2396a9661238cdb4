import FlowBlocks.Toml.Scalar
/-!
Texts in quotes. A text in double quotes has escapes, one in single quotes has none; either may run over
several lines between three quotes.
-/
namespace FlowBlocks.Toml

def quote : UInt8 := byte '"'

def apostrophe : UInt8 := byte '\''

def backslash : UInt8 := byte '\\'

def isNewline (b : UInt8) : Bool := b = 10 || b = 13

def isSpace (b : UInt8) : Bool := b = 0x20 || b = 9

/-- The raw text up to the closing quote, on one line. A byte behind a backslash never closes. -/
def rawText : Bytes → Option (Bytes × Bytes)
  | [] => none
  | b :: rest =>
    if b = quote then some ([], rest)
    else if isNewline b then none
    else if b = backslash then
      match rest with
      | [] => none
      | c :: after => (rawText after).map fun (t, rest) => (b :: c :: t, rest)
    else (rawText rest).map fun (t, rest) => (b :: t, rest)

/-- The text up to the closing apostrophe, on one line. -/
def literalText (s : Bytes) : Option (Bytes × Bytes) :=
  let text := s.takeWhile (· != apostrophe)
  match s.drop text.length with
  | _ :: rest => if text.any isNewline then none else some (text, rest)
  | [] => none

/-- The raw text up to three quotes `q`. A longer run of quotes closes with its last three and must not be
longer than `limit`, which is five; behind an escaped backslash it is six. -/
def rawLines (q : UInt8) (escapes : Bool) (limit : Nat) : Bytes → Option (Bytes × Bytes)
  | [] => none
  | b :: rest =>
    if b = q then
      let run := 1 + (rest.takeWhile (· == q)).length
      if run < 3 then (rawLines q escapes 5 rest).map fun (t, rest) => (b :: t, rest)
      else if run ≤ limit then some (List.replicate (run - 3) q, rest.drop (run - 1))
      else none
    else if escapes && b = backslash then
      match rest with
      | [] => none
      | c :: after =>
        (rawLines q escapes (if c = backslash then 6 else 5) after).map fun (t, rest) =>
          (b :: c :: t, rest)
    else (rawLines q escapes 5 rest).map fun (t, rest) => (b :: t, rest)

def dropNewline : Bytes → Bytes
  | 10 :: rest => rest
  | 13 :: 10 :: rest => rest
  | s => s

def isGap (b : UInt8) : Bool := isSpace b || isNewline b

/-- Drops every backslash that ends a line, with the blanks and newlines after it. `skip` says that the
next blanks follow such a backslash. -/
def joinLines (skip : Bool) : Bytes → Bytes
  | [] => []
  | b :: rest =>
    if skip && isGap b then joinLines true rest
    else if b = backslash then
      match rest with
      | [] => [b]
      | c :: after =>
        if c = backslash then b :: c :: joinLines false after
        else if ((c :: after).takeWhile isGap).contains 10 then joinLines true (c :: after)
        else b :: joinLines false (c :: after)
    else b :: joinLines false rest

/-- The code point that hexadecimal digits name, spelled out; surrogates and codes past the last one are
refused. -/
def codePoint? (digits : Bytes) : Option Bytes :=
  let c := digitsValue 16 digits
  if digits.all isHexByte && c ≤ 0x10FFFF && !(0xD800 ≤ c && c ≤ 0xDFFF) then some (Utf8.encode c)
  else none

/-- The byte that a one-letter escape stands for. -/
def escapeByte? (b : UInt8) : Option UInt8 :=
  ([('b', 8), ('t', 9), ('n', 10), ('f', 12), ('r', 13), ('"', quote), ('\\', backslash)].find?
    fun (c, _) => byte c == b).map Prod.snd

def unescape : Bytes → Option Bytes
  | [] => some []
  | b :: rest =>
    if b = backslash then
      match rest with
      | 0x75 :: c :: d :: e :: f :: after => do
        return (← codePoint? [c, d, e, f]) ++ (← unescape after)
      | 0x55 :: c :: d :: e :: f :: g :: h :: i :: j :: after => do
        return (← codePoint? [c, d, e, f, g, h, i, j]) ++ (← unescape after)
      | c :: after => do return (← escapeByte? c) :: (← unescape after)
      | [] => none
    else (unescape rest).map (b :: ·)

/-- Takes a text on one line off the front. -/
def shortText? : Bytes → Option (Bytes × Bytes)
  | [] => none
  | b :: rest =>
    if b = quote then do
      let (raw, rest) ← rawText rest
      return (← unescape raw, rest)
    else if b = apostrophe then literalText rest
    else none

/-- Takes a text of any kind off the front. -/
def text? (s : Bytes) : Option (Bytes × Bytes) :=
  if (bytes "\"\"\"").isPrefixOf s then do
    let (raw, rest) ← rawLines quote true 5 (s.drop 3)
    return (← unescape (joinLines false (dropNewline raw)), rest)
  else if (bytes "'''").isPrefixOf s then do
    let (raw, rest) ← rawLines apostrophe false 5 (s.drop 3)
    return (dropNewline raw, rest)
  else shortText? s

end FlowBlocks.Toml
