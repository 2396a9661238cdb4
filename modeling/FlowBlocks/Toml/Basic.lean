import FlowBlocks.Text.Rune
/-!
TOML documents as they are written: values, and the three kinds of statements a document is made of.
-/
namespace FlowBlocks.Toml

/-- A key by its parts. -/
abbrev Key := List Bytes

/-- A value. Floats and times are kept as they are spelled; the entries of an inline table have keys that
may have several parts. -/
inductive Value
  | text (s : Bytes)
  | int (n : Int)
  | float (spelling : Bytes)
  | bool (b : Bool)
  | time (spelling : Bytes)
  | list (items : List Value)
  | table (entries : List (Key × Value))

/-- A table header, a header that adds a table to a list of tables, or a key with its value. -/
inductive Statement
  | table (name : Key)
  | item (name : Key)
  | entry (key : Key) (value : Value)

/-- Bytes that stand in a key without quotes: letters, digits, `_` and `-`. -/
def isBare (b : UInt8) : Bool :=
  (0x41 ≤ b && b ≤ 0x5A) || (0x61 ≤ b && b ≤ 0x7A) || (0x30 ≤ b && b ≤ 0x39) || b == 0x5F ||
    b == 0x2D

/-- A byte of a quoted key as it is shown. -/
def keyByte (b : UInt8) : Bytes :=
  if b = 0x22 then bytes "\\\""
  else if b = 0x5C then bytes "\\\\"
  else if b = 8 then bytes "\\b"
  else if b = 9 then bytes "\\t"
  else if b = 10 then bytes "\\n"
  else if b = 12 then bytes "\\f"
  else if b = 13 then bytes "\\r"
  else if b < 0x20 || b = 0x7F then bytes "\\u00" ++ hexByte b
  else [b]

/-- A part of a key as it is shown: in quotes unless it can do without. -/
def keyPart (part : Bytes) : Bytes :=
  if !part.isEmpty && part.all isBare then part
  else bytes "\"" ++ part.flatMap keyByte ++ bytes "\""

def showKey (key : Key) : Bytes := Bytes.join (bytes ".") (key.map keyPart)

end FlowBlocks.Toml
