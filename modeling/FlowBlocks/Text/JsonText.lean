import FlowBlocks.Text.Rune
/-!
JSON strings that are safe inside markup and scripts: besides quotes, backslashes and controls, the
signs `<`, `>`, `&` and the two line separators are written as escapes.
-/
namespace FlowBlocks

/-- The escape of a control or punctuation sign that has a short one. -/
def jsonShort? (c : Nat) : Option Char :=
  if c == 0x22 then some '"' else if c == 0x5C then some '\\' else if c == 8 then some 'b'
  else if c == 12 then some 'f' else if c == 10 then some 'n' else if c == 13 then some 'r'
  else if c == 9 then some 't' else none

/-- One step of reading inside a JSON string. A stray byte becomes U+FFFD. -/
def Rune.json (r : Rune) : Bytes :=
  if r.isStray then Utf8.encode Rune.replacement
  else match jsonShort? r.code with
    | some c => [byte '\\', byte c]
    | none =>
      if r.code < 0x20 || r.code == 0x3C || r.code == 0x3E || r.code == 0x26 ||
          r.code == 0x2028 || r.code == 0x2029 then
        bytes "\\u" ++ hexPadded 4 r.code
      else r.spelling

def jsonString (s : Bytes) : Bytes :=
  byte '"' :: (Utf8.runes s).flatMap Rune.json ++ [byte '"']

end FlowBlocks
