import FlowBlocks.Text.Rune
/-!
Blank code points (the property White_Space), and the two ways a line is taken apart by them.
-/
namespace FlowBlocks

def isBlank (c : Nat) : Bool :=
  (9 ≤ c && c ≤ 13) || c == 0x20 || c == 0x85 || c == 0xA0 || c == 0x1680 ||
    (0x2000 ≤ c && c ≤ 0x200A) || c == 0x2028 || c == 0x2029 || c == 0x202F || c == 0x205F ||
    c == 0x3000

def Rune.isBlank (r : Rune) : Bool := FlowBlocks.isBlank r.code

def trim (bs : Bytes) : Bytes :=
  let fromLeft := (Utf8.runes bs).dropWhile Rune.isBlank
  Utf8.spell (fromLeft.reverse.dropWhile Rune.isBlank).reverse

/-- A finished word in front of the words after it; an empty one is none. -/
def consWord (word : Bytes) (words : List Bytes) : List Bytes :=
  if word.isEmpty then words else word :: words

/-- The maximal runs without blanks, in order. -/
def words (bs : Bytes) : List Bytes :=
  let (first, later) := (Utf8.runes bs).foldr
    (fun r (word, later) =>
      if r.isBlank then ([], consWord word later) else (r.spelling ++ word, later))
    (([], []) : Bytes × List Bytes)
  consWord first later

end FlowBlocks
