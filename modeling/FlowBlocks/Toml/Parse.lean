import FlowBlocks.Toml.Quoted
/-!
Reading a document into statements. A document is well-formed UTF-8 without control characters; one line
holds one statement, and a comment may stand behind it. Readers take something off the front of a text and
give what is left.
-/
namespace FlowBlocks.Toml

def skipSpaces (s : Bytes) : Bytes := s.dropWhile isSpace

/-- Drops blanks, newlines and comments. -/
def skipGaps (inComment : Bool) : Bytes → Bytes
  | [] => []
  | b :: rest =>
    if isNewline b then skipGaps false rest
    else if inComment || isSpace b then skipGaps inComment rest
    else if b = byte '#' then skipGaps true rest
    else b :: rest

def keyPart? (s : Bytes) : Option (Bytes × Bytes) :=
  match s with
  | [] => none
  | b :: _ =>
    if b = quote || b = apostrophe then shortText? s
    else if isBare b then some (s.takeWhile isBare, s.dropWhile isBare)
    else none

/-- Takes a key and the blanks around it off the front. The number bounds the parts; the length of the text
suffices. -/
def key? : Nat → Bytes → Option (Key × Bytes)
  | 0, _ => none
  | n + 1, s => do
    let (part, s) ← keyPart? (skipSpaces s)
    match skipSpaces s with
    | 0x2E :: rest =>
      let (parts, s) ← key? n rest
      return (part :: parts, s)
    | s => return ([part], s)

mutual

/-- Takes a value off the front. The number bounds the nesting and the items together; twice the length of
the text and one more suffices. -/
def value? : Nat → Bytes → Option (Value × Bytes)
  | 0, _ => none
  | _ + 1, [] => none
  | n + 1, b :: rest =>
    if b = byte '[' then (items? n (skipGaps false rest)).map fun (vs, s) => (.list vs, s)
    else if b = byte '\x7b' then
      match skipSpaces rest with
      | 0x7D :: s => some (.table [], s)
      | s => (entries? n s).map fun (es, s) => (.table es, s)
    else if b = quote || b = apostrophe then (text? (b :: rest)).map fun (t, s) => (.text t, s)
    else scalar? (b :: rest)

/-- Takes the items of a list and its closing bracket off the front. A comma may stand behind the last. -/
def items? : Nat → Bytes → Option (List Value × Bytes)
  | 0, _ => none
  | _ + 1, 0x5D :: s => some ([], s)
  | n + 1, s => do
    let (v, s) ← value? n s
    match skipGaps false s with
    | 0x5D :: s => return ([v], s)
    | 0x2C :: s =>
      let (vs, s) ← items? n (skipGaps false s)
      return (v :: vs, s)
    | _ => none

/-- Takes the entries of an inline table, of which there is one at least, and its closing brace off the
front. They stand on one line. -/
def entries? : Nat → Bytes → Option (List (Key × Value) × Bytes)
  | 0, _ => none
  | n + 1, s => do
    let (k, s) ← key? s.length s
    let (v, s) ← value? n (skipSpaces (← expect? '=' s))
    match skipSpaces s with
    | 0x7D :: s => return ([(k, v)], s)
    | 0x2C :: s =>
      let (es, s) ← entries? n s
      return ((k, v) :: es, s)
    | _ => none

end

def statement? (s : Bytes) : Option (Statement × Bytes) :=
  match s with
  | 0x5B :: 0x5B :: rest => do
    let (k, s) ← key? rest.length rest
    return (.item k, ← expect? ']' (← expect? ']' s))
  | 0x5B :: rest => do
    let (k, s) ← key? rest.length rest
    return (.table k, ← expect? ']' s)
  | _ => do
    let (k, s) ← key? s.length s
    let (v, s) ← value? (2 * s.length + 1) (skipSpaces (← expect? '=' s))
    return (.entry k v, s)

/-- What may stand behind a statement: nothing, a newline or a comment. -/
def endsLine (s : Bytes) : Bool :=
  match skipSpaces s with
  | [] => true
  | b :: _ => isNewline b || b = byte '#'

/-- The statements up to the end, in front of those read before, which stand last first. The number bounds
them; the length of the text and one more suffices. -/
def statementsOnto : Nat → List Statement → Bytes → Option (List Statement)
  | 0, _, _ => none
  | n + 1, done, s =>
    match skipGaps false s with
    | [] => some done.reverse
    | s =>
      match statement? s with
      | some (st, rest) => if endsLine rest then statementsOnto n (st :: done) rest else none
      | none => none

def dropMark : Bytes → Bytes
  | 0xFF :: 0xFE :: rest => rest
  | 0xFE :: 0xFF :: rest => rest
  | 0xEF :: 0xBB :: 0xBF :: rest => rest
  | s => s

/-- Control characters have no place in a document, tabs and newlines apart; a carriage return belongs to
a newline. -/
def controlsFit : Bytes → Bool
  | [] => true
  | b :: rest =>
    (if b = 13 then rest.head? == some 10 else b = 9 || b = 10 || (0x20 ≤ b && b != 0x7F)) &&
      controlsFit rest

/-- Whether a text can be a document at all. Besides stray bytes a spelled-out U+FFFD is refused, as it
tells of a text that was damaged before. -/
def isDocument (s : Bytes) : Bool :=
  controlsFit s && (Utf8.runes s).all fun r => r.code != Rune.replacement

def statements? (source : Bytes) : Option (List Statement) :=
  let s := dropMark source
  if isDocument s then statementsOnto (s.length + 1) [] s else none

end FlowBlocks.Toml
