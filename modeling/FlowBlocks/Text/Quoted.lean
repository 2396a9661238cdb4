import FlowBlocks.Text.Printable
/-!
Texts between double quotes, as messages show them: whatever could not be told apart on a terminal is
written as an escape.
-/
namespace FlowBlocks

/-- The escape of a code point that has a letter of its own. -/
def letterEscape? (c : Nat) : Option Char :=
  if c == 7 then some 'a' else if c == 8 then some 'b' else if c == 12 then some 'f'
  else if c == 10 then some 'n' else if c == 13 then some 'r' else if c == 9 then some 't'
  else if c == 11 then some 'v' else none

/-- One step of reading, between double quotes. -/
def Rune.quoted (r : Rune) : Bytes :=
  if r.isStray then bytes "\\x" ++ r.spelling.flatMap hexByte
  else if r.code == 0x22 || r.code == 0x5C then byte '\\' :: r.spelling
  else if isPrintable r.code then r.spelling
  else match letterEscape? r.code with
    | some c => [byte '\\', byte c]
    | none =>
      if r.code < 0x20 || r.code == 0x7F then bytes "\\x" ++ hexPadded 2 r.code
      else if r.code < 0x10000 then bytes "\\u" ++ hexPadded 4 r.code
      else bytes "\\U" ++ hexPadded 8 r.code

def quoted (s : Bytes) : Bytes :=
  byte '"' :: (Utf8.runes s).flatMap Rune.quoted ++ [byte '"']

end FlowBlocks
