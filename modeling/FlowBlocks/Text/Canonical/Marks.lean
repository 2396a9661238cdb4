import FlowBlocks.Text.Canonical.Class
import FlowBlocks.Text.Canonical.Mapping
/-!
How many marks a code point brings to a run of marks. They are counted in its compatibility
decomposition, so that the same runs are too long whichever normal form is asked for. A code point
that composes with the one before it counts as a mark, though its class may be 0.
-/
namespace FlowBlocks.Canonical

/-! Hangul syllables: leading consonant, vowel and trailing consonant are places of a number. -/

def isSyllable (c : Nat) : Bool := 0xAC00 ≤ c && c ≤ 0xD7A3

def isLeading (c : Nat) : Bool := 0x1100 ≤ c && c ≤ 0x1112

def isVowel (c : Nat) : Bool := 0x1161 ≤ c && c ≤ 0x1175

def isTrailing (c : Nat) : Bool := 0x11A8 ≤ c && c ≤ 0x11C2

def syllableParts (c : Nat) : List Nat :=
  let n := c - 0xAC00
  [0x1100 + n / 588, 0x1161 + n % 588 / 28] ++ if n % 28 == 0 then [] else [0x11A7 + n % 28]

/-- The full canonical decomposition; mappings nest at most `depth` deep. -/
def expandWithin : Nat → Nat → List Nat
  | 0, c => [c]
  | depth + 1, c =>
    if isSyllable c then syllableParts c
    else match mapping? c with
      | some parts => parts.flatMap (expandWithin depth)
      | none => [c]

/-- The full canonical decomposition. No mapping nests deeper than four. -/
def expand (c : Nat) : List Nat := if c < 0xC0 then [c] else expandWithin 4 c

/-- Whether a code point may compose with one before it. -/
def leansBack (c : Nat) : Bool :=
  isVowel c || isTrailing c ||
    (0x300 ≤ c && mappings.any fun (code, _, b) => b == c && !neverComposed.contains code)

/-- A mark for the purpose of counting. -/
def countsAsMark (c : Nat) : Bool := combiningClass c != 0 || leansBack c

/-- Closed ranges of code points whose compatibility decomposition has other numbers of marks than the
canonical one, with the marks at its start and at its end. -/
def compatibilityMarks : List (Nat × Nat × Nat × Nat) := [
  (0xA8, 0xA8, 0, 1), (0xAF, 0xAF, 0, 1), (0xB4, 0xB4, 0, 1), (0xB8, 0xB8, 0, 1),
  (0x1C4, 0x1C6, 0, 1), (0x2D8, 0x2DD, 0, 1), (0x37A, 0x37A, 0, 1), (0x384, 0x384, 0, 1),
  (0x385, 0x385, 0, 2), (0xF77, 0xF77, 0, 2), (0xF79, 0xF79, 0, 2), (0x1FBD, 0x1FBD, 0, 1),
  (0x1FBF, 0x1FC0, 0, 1), (0x1FC1, 0x1FC1, 0, 2), (0x1FCD, 0x1FCF, 0, 2), (0x1FDD, 0x1FDF, 0, 2),
  (0x1FED, 0x1FEE, 0, 2), (0x1FFD, 0x1FFE, 0, 1), (0x2017, 0x2017, 0, 1), (0x203E, 0x203E, 0, 1),
  (0x309B, 0x309C, 0, 1), (0x3133, 0x3133, 1, 1), (0x3135, 0x3136, 1, 1), (0x313A, 0x313F, 1, 1),
  (0x314F, 0x3163, 1, 1), (0x326E, 0x327E, 0, 1), (0x3304, 0x3304, 0, 1), (0x3307, 0x3307, 0, 1),
  (0x3310, 0x3310, 0, 1), (0x331E, 0x331E, 0, 1), (0x3321, 0x3321, 0, 1), (0x3332, 0x3332, 0, 1),
  (0x333B, 0x333B, 0, 1), (0x3340, 0x3340, 0, 1), (0x334B, 0x334B, 0, 1), (0x334E, 0x334E, 0, 1),
  (0xFBA4, 0xFBA5, 0, 1), (0xFBB0, 0xFBB1, 0, 1), (0xFC5B, 0xFC5D, 0, 1), (0xFC5E, 0xFC63, 0, 2),
  (0xFC90, 0xFC90, 0, 1), (0xFCD9, 0xFCD9, 0, 1), (0xFCF2, 0xFCF4, 0, 2), (0xFD3C, 0xFD3D, 0, 1),
  (0xFE49, 0xFE4C, 0, 1), (0xFE70, 0xFE72, 0, 1), (0xFE74, 0xFE74, 0, 1), (0xFE76, 0xFE7F, 0, 1),
  (0xFE81, 0xFE8C, 0, 1), (0xFEF5, 0xFEFA, 0, 1), (0xFF9E, 0xFF9F, 1, 1), (0xFFA3, 0xFFA3, 1, 1),
  (0xFFA5, 0xFFA6, 1, 1), (0xFFAA, 0xFFAF, 1, 1), (0xFFC2, 0xFFC7, 1, 1), (0xFFCA, 0xFFCF, 1, 1),
  (0xFFD2, 0xFFD7, 1, 1), (0xFFDA, 0xFFDC, 1, 1), (0xFFE3, 0xFFE3, 0, 1), (0x1F213, 0x1F213, 0, 1)]

/-- The marks at the start and at the end of a decomposition. -/
def marksOf (parts : List Nat) : Nat × Nat :=
  ((parts.takeWhile countsAsMark).length, (parts.reverse.takeWhile countsAsMark).length)

def marks (c : Nat) : Nat × Nat :=
  match compatibilityMarks.find? fun (lo, hi, _, _) => lo ≤ c && c ≤ hi with
  | some (_, _, atStart, atEnd) => (atStart, atEnd)
  | none => marksOf (expand c)

end FlowBlocks.Canonical
