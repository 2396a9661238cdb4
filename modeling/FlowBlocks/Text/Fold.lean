import FlowBlocks.Text.Rune
/-!
Comparing a word with an ASCII name regardless of case. Lowercase forms are taken code point by code
point.
-/
namespace FlowBlocks

def lowerAscii (c : Nat) : Nat := if 0x41 ≤ c && c ≤ 0x5A then c + 0x20 else c

/-- The letters whose lowercase form is spelled with another number of bytes, with that form. The
lowercase forms of U+0130 (capital I with dot) and U+212A (Kelvin sign) are ASCII letters. -/
def resizedLowercase : List (Nat × Nat) := [
  (0x130, 0x69), (0x23A, 0x2C65), (0x23E, 0x2C66), (0x1E9E, 0xDF), (0x2126, 0x3C9),
  (0x212A, 0x6B), (0x212B, 0xE5), (0x2C62, 0x26B), (0x2C64, 0x27D), (0x2C6D, 0x251),
  (0x2C6E, 0x271), (0x2C6F, 0x250), (0x2C70, 0x252), (0x2C7E, 0x23F), (0x2C7F, 0x240),
  (0xA78D, 0x265), (0xA7AA, 0x266), (0xA7AB, 0x25C), (0xA7AC, 0x261), (0xA7AD, 0x26C),
  (0xA7AE, 0x26A), (0xA7B0, 0x29E), (0xA7B1, 0x287), (0xA7B2, 0x29D), (0xA7C5, 0x282),
  (0xA7CB, 0x264), (0xA7DC, 0x19B)]

/-- The lowercase form as far as an ASCII name can tell: a letter outside ASCII keeps its code point
where its lowercase form is outside ASCII too and as long. -/
def lowerCode (c : Nat) : Nat :=
  ((resizedLowercase.find? fun (upper, _) => upper == c).map Prod.snd).getD (lowerAscii c)

/-- The spelling of the text by lowercase code points. -/
def lowercase (s : Bytes) : Bytes := (Utf8.runes s).flatMap fun r => Utf8.encode (lowerCode r.code)

/-- The text by lowercase code points. Equal to an ASCII name exactly when the full lowercase form of
the text is that name. -/
def lowerCodes (s : Bytes) : List Nat := (Utf8.runes s).map fun r => lowerCode r.code

/-- Whether `s` is `name` in any mixture of cases; `name` is lowercase ASCII. -/
def isNamed (name : String) (s : Bytes) : Bool := lowerCodes s == (bytes name).map UInt8.toNat

/-- The representative of a code point under simple case folding where that is an ASCII letter:
U+017F (long s) folds to `s`, U+212A (Kelvin sign) to `k`. -/
def foldCode (c : Nat) : Nat :=
  if c == 0x17F then 0x73 else if c == 0x212A then 0x6B else lowerAscii c

/-- Whether `s` and the lowercase ASCII `name` agree up to simple case folding. -/
def foldsTo (name : String) (s : Bytes) : Bool :=
  (Utf8.runes s).map (fun r => foldCode r.code) == (bytes name).map UInt8.toNat

end FlowBlocks
