import FlowBlocks.Text.Rune
import FlowBlocks.Text.Cluster.Break
/-!
Displayed characters: a text is split where a reader would see one character end and the next begin.
-/
namespace FlowBlocks.Cluster

/-- A stretch of bytes that is never split. Its class is missing where the text ends inside a
sequence; such a stretch stays with what stands before it. -/
structure Piece where
  kind : Option Break
  spelling : Bytes
deriving Repr

/-- The first piece of a non-empty text: a lead byte takes as many bytes as it announces, or those up
to the first one that cannot follow. -/
def firstPiece (a : UInt8) (rest : Bytes) : Piece :=
  if a < 0x80 then ⟨some (breakOf a.toNat), [a]⟩
  else if a < 0xC2 || 0xF8 ≤ a then ⟨some .other, [a]⟩
  else
    let size := if a < 0xE0 then 1 else if a < 0xF0 then 2 else 3
    let next := rest.take size
    if next.length < size then ⟨none, a :: rest⟩
    else
      let tail := next.takeWhile Utf8.isTail
      if tail.length < size then ⟨some .other, a :: tail⟩
      else match Utf8.runes (a :: tail) with
        | [r] => ⟨some (breakOf r.code), a :: tail⟩
        | _ => ⟨some .other, a :: tail⟩

/-- The pieces of a text, last first, in front of those already found. The number says how many of the
next bytes belong to the last piece. -/
def piecesOnto : List Piece → Nat → Bytes → List Piece
  | done, _, [] => done
  | done, skip + 1, _ :: rest => piecesOnto done skip rest
  | done, 0, a :: rest =>
    let p := firstPiece a rest
    piecesOnto (p :: done) (p.spelling.length - 1) rest

def pieces (s : Bytes) : List Piece := (piecesOnto [] 0 s).reverse

/-- What is remembered of the current character: the class of its last piece, the last two classes
that are not `extend`, and how many regional indicators in a row were joined. -/
structure State where
  last : Break
  core : Break
  coreBefore : Break
  regionals : Nat

def State.start (b : Break) : State := ⟨b, .other, .other, 0⟩

/-- Takes note of the last piece before the next one is looked at. -/
def State.settle (st : State) : State :=
  if st.last = .extend then st else ⟨st.last, st.last, st.core, st.regionals⟩

def isBreaking (b : Break) : Bool := b = .control || b = .cr || b = .lf

def State.joins (st : State) (next : Break) : Bool :=
  if next = .lf && st.last = .cr then true
  else if isBreaking next || isBreaking st.last then false
  else
    (st.last = .hangulL && (next = .hangulL || next = .hangulV || next = .hangulLV || next = .hangulLVT))
    || ((st.last = .hangulLV || st.last = .hangulV) && (next = .hangulV || next = .hangulT))
    || ((st.last = .hangulLVT || st.last = .hangulT) && next = .hangulT)
    || next = .extend || next = .zwj || next = .spacingMark
    || st.last = .prepend
    || (next = .pictograph && st.last = .zwj && st.coreBefore = .pictograph)
    || (next = .regional && st.last = .regional && st.regionals % 2 = 0)

def State.push (st : State) (next : Break) : State :=
  { st with
    last := next
    regionals := if next = .regional && st.last = .regional then st.regionals + 1 else st.regionals }

/-- Groups pieces into characters. `current` holds the spellings of the open one, last first. -/
def group : State → List Bytes → List Piece → List Bytes
  | _, current, [] => [current.reverse.flatten]
  | st, current, ⟨none, s⟩ :: rest => group st (s :: current) rest
  | st, current, ⟨some b, s⟩ :: rest =>
    let st := st.settle
    if st.joins b then group (st.push b) (s :: current) rest
    else current.reverse.flatten :: group (.start b) [s] rest

end FlowBlocks.Cluster

namespace FlowBlocks

/-- The displayed characters of a text, in order. -/
def clusters (s : Bytes) : List Bytes :=
  match Cluster.pieces s with
  | [] => []
  | p :: rest => Cluster.group (.start (p.kind.getD .other)) [p.spelling] rest

end FlowBlocks
