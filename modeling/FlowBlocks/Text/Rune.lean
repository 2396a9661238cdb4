import FlowBlocks.Bytes
/-!
Reading bytes as UTF-8. Reading never fails: a byte that starts no well-formed sequence is a step of
its own and reads as U+FFFD. The spellings of the steps, put together, are the text that was read.
-/
namespace FlowBlocks

/-- A code point together with the bytes that spell it. -/
structure Rune where
  code : Nat
  spelling : Bytes
deriving DecidableEq, Repr

namespace Rune

/-- What a byte outside every well-formed sequence reads as. -/
def replacement : Nat := 0xFFFD

def stray (b : UInt8) : Rune := ⟨replacement, [b]⟩

/-- A lone byte that belongs to no sequence, as opposed to a spelled-out U+FFFD. -/
def isStray (r : Rune) : Bool := r.code == replacement && r.spelling.length == 1

end Rune

namespace Utf8

def isTail (b : UInt8) : Bool := 0x80 ≤ b && b ≤ 0xBF

/-- The payload bits of a byte after the first one. -/
def tailBits (b : UInt8) : Nat := b.toNat % 0x40

def leads2 (a b : UInt8) : Bool := 0xC2 ≤ a && a ≤ 0xDF && isTail b

/-- The first two bytes of a three-byte sequence, short of overlong forms and surrogates. -/
def leads3 (a b : UInt8) : Bool :=
  0xE0 ≤ a && a ≤ 0xEF && isTail b && (a != 0xE0 || 0xA0 ≤ b) && (a != 0xED || b ≤ 0x9F)

/-- The first two bytes of a four-byte sequence, short of overlong forms and of codes above U+10FFFF. -/
def leads4 (a b : UInt8) : Bool :=
  0xF0 ≤ a && a ≤ 0xF4 && isTail b && (a != 0xF0 || 0x90 ≤ b) && (a != 0xF4 || b ≤ 0x8F)

def code2 (a b : UInt8) : Nat := a.toNat % 0x20 * 0x40 + tailBits b

def code3 (a b c : UInt8) : Nat := (a.toNat % 0x10 * 0x40 + tailBits b) * 0x40 + tailBits c

def code4 (a b c d : UInt8) : Nat :=
  ((a.toNat % 8 * 0x40 + tailBits b) * 0x40 + tailBits c) * 0x40 + tailBits d

/-- The first step of reading a text that starts with `a` and goes on with `rest`. -/
def first (a : UInt8) (rest : Bytes) : Rune :=
  if a < 0x80 then ⟨a.toNat, [a]⟩
  else match rest with
    | [] => .stray a
    | b :: rest =>
      if leads2 a b then ⟨code2 a b, [a, b]⟩
      else match rest with
        | [] => .stray a
        | c :: rest =>
          if leads3 a b && isTail c then ⟨code3 a b c, [a, b, c]⟩
          else match rest with
            | [] => .stray a
            | d :: _ =>
              if leads4 a b && isTail c && isTail d then ⟨code4 a b c d, [a, b, c, d]⟩ else .stray a

/-- The steps of reading a text, last first, in front of those already taken. The number says how
many of the next bytes belong to the last step. -/
def readOnto : List Rune → Nat → Bytes → List Rune
  | done, _, [] => done
  | done, skip + 1, _ :: rest => readOnto done skip rest
  | done, 0, a :: rest =>
    let r := first a rest
    readOnto (r :: done) (r.spelling.length - 1) rest

def runes (bs : Bytes) : List Rune := (readOnto [] 0 bs).reverse

def spell (rs : List Rune) : Bytes := rs.flatMap Rune.spelling

def encode (c : Nat) : Bytes :=
  if c < 0x80 then [c.toUInt8]
  else if c < 0x800 then [(0xC0 + c / 0x40).toUInt8, (0x80 + c % 0x40).toUInt8]
  else if c < 0x10000 then
    [(0xE0 + c / 0x1000).toUInt8, (0x80 + c / 0x40 % 0x40).toUInt8, (0x80 + c % 0x40).toUInt8]
  else
    [(0xF0 + c / 0x40000).toUInt8, (0x80 + c / 0x1000 % 0x40).toUInt8,
      (0x80 + c / 0x40 % 0x40).toUInt8, (0x80 + c % 0x40).toUInt8]

end Utf8

/-- A table of closed ranges of code points holds `c`. -/
def inRanges (table : List (Nat × Nat)) (c : Nat) : Bool :=
  table.any fun (lo, hi) => lo ≤ c && c ≤ hi

end FlowBlocks
