import FlowBlocks.Text.Rune
import FlowBlocks.Text.Canonical.Marks
/-!
The canonical composed form of a text (NFC), under which labels are compared. A text is cut into
segments, each a starter with what leans on it; a segment is decomposed, its marks are put in order and
drawn into what they follow. Bytes that are not UTF-8 stay where they are and compose with nothing. A
run of more than thirty marks is broken by the joiner U+034F, so that the form of a text never needs
unbounded look-ahead.
-/
namespace FlowBlocks.Canonical

/-- A code point with its combining class, or a byte kept as it is. -/
inductive Sign
  | code (c cls : Nat)
  | raw (b : UInt8)
deriving DecidableEq, Repr

namespace Sign

/-- The combining class; 0 for a starter and for a kept byte. -/
def cls : Sign → Nat
  | .code _ k => k
  | .raw _ => 0

def spelling : Sign → Bytes
  | .code c _ => Utf8.encode c
  | .raw b => [b]

def ofCode (c : Nat) : Sign := .code c (combiningClass c)

/-- The joiner that ends a run of marks which is too long. -/
def joiner : Sign := .code 0x34F 0

end Sign

/-- The decomposition of one step of reading. -/
def signs (r : Rune) : List Sign :=
  if r.isStray then r.spelling.map .raw else (expand r.code).map .ofCode

/-- The length of the sequence that a first byte announces. -/
def announced (b : UInt8) : Nat :=
  if b < 0xC2 then 1 else if b < 0xE0 then 2 else if b < 0xF0 then 3 else if b < 0xF8 then 4 else 1

/-- Whether a step is the first byte of a sequence for which the text is too short. No sequence goes on
for more than three steps. -/
def cutShort (r : Rune) (rest : List Rune) : Bool :=
  r.isStray && r.spelling.any fun b => 1 + (Utf8.spell (rest.take 3)).length < announced b

/-- The longest run of marks that is left unbroken. -/
def maxRun : Nat := 30

/-- Cuts a text into segments. The first result goes on with the segment before, whose run holds
`count` marks; the second holds the segments that follow. A text that ends within a sequence is kept
from there on as it is. -/
def segments : Nat → List Rune → List Sign × List (List Sign)
  | _, [] => ([], [])
  | count, r :: rest =>
    if cutShort r rest then ([], [(Utf8.spell (r :: rest)).map .raw])
    else
      let (atStart, atEnd) := if r.isStray then (0, 0) else marks r.code
      if atStart == 0 then
        let (own, more) := segments atEnd rest
        ([], (signs r ++ own) :: more)
      else if count + atStart > maxRun then
        let (own, more) := segments atStart rest
        ([.joiner], (signs r ++ own) :: more)
      else
        let (own, more) := segments (count + atStart) rest
        (signs r ++ own, more)

/-- Puts a sign in front of ordered signs, past those marks that have a lower class. -/
def place (s : Sign) : List Sign → List Sign
  | [] => [s]
  | t :: rest => if t.cls != 0 && t.cls < s.cls then t :: place s rest else s :: t :: rest

/-- Sorts every run of marks by class, keeping the order of equal classes. -/
def reorder (ss : List Sign) : List Sign := ss.foldr place []

/-- The syllable that two neighbours form. -/
def syllable? (a b : Nat) : Option Nat :=
  if isLeading a && isVowel b then some (0xAC00 + (a - 0x1100) * 588 + (b - 0x1161) * 28)
  else if isSyllable a && (a - 0xAC00) % 28 == 0 && isTrailing b then some (a + (b - 0x11A7))
  else none

/-- A segment while it is composed. `base` is the sign that marks are drawn into, `before` the signs
in front of it and `held` those after it, both last first. -/
structure Window where
  before : List Sign
  base : Sign
  held : List Sign
  /-- Whether a Hangul consonant or vowel was met, from which on only syllables are formed. -/
  hangul : Bool
deriving DecidableEq, Repr

namespace Window

def toList (w : Window) : List Sign := w.before.reverse ++ w.base :: w.held.reverse

def hold (w : Window) (s : Sign) : Window := { w with held := s :: w.held }

/-- Makes the last sign the base if it is a starter. -/
def settle (w : Window) : Window :=
  match w.held with
  | [] => w
  | last :: held =>
    if last.cls == 0 then { w with before := held ++ w.base :: w.before, base := last, held := [] }
    else w

/-- Whether the last sign held keeps a sign of class `k` from the base. -/
def blocks (w : Window) (k : Nat) : Bool :=
  match w.held with
  | [] => false
  | last :: _ => last.cls ≥ k

/-- Draws a sign into the base if the two compose and nothing in between blocks it. -/
def draw (join? : Nat → Nat → Option Nat) (w : Window) (s : Sign) : Window :=
  let w := w.settle
  match w.base, s with
  | .code a _, .code b k =>
    match if w.blocks k then none else join? a b with
    | some c => { w with base := .code c 0 }
    | none => w.hold s
  | _, _ => w.hold s

/-- The next sign of the segment. The base moves only when a sign that leans back comes up. -/
def push (w : Window) : Sign → Window
  | .raw b => w.hold (.raw b)
  | .code c k =>
    let hangul := w.hangul || (0x1100 ≤ c && c ≤ 0x11FF)
    let w := { w with hangul }
    if hangul then w.draw syllable? (.code c k)
    else if leansBack c then w.draw composite? (.code c k)
    else w.hold (.code c k)

end Window

def compose : List Sign → List Sign
  | [] => []
  | s :: rest => (rest.foldl Window.push ⟨[], s, [], false⟩).toList

end FlowBlocks.Canonical

namespace FlowBlocks

open Canonical in
/-- The canonical composed form. A text of ASCII alone is its own form. -/
def canonical (s : Bytes) : Bytes :=
  if s.all (· < 0x80) then s
  else
    let (first, rest) := segments 0 (Utf8.runes s)
    (first :: rest).flatMap fun segment => (compose (reorder segment)).flatMap Sign.spelling

end FlowBlocks
