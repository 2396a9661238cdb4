import FlowBlocks.Bytes
/-!
Digits, and integers as people type them: a sign, a base mark (`0x`, `0o`, `0b`, or a bare `0` for base
eight), and underscores between the digits.
-/
namespace FlowBlocks

def isDigitByte (b : UInt8) : Bool := 0x30 ≤ b && b ≤ 0x39

def hexDigit? (b : UInt8) : Option Nat :=
  if isDigitByte b then some (b.toNat - 0x30)
  else if 0x61 ≤ b && b ≤ 0x66 then some (b.toNat - 0x57)
  else if 0x41 ≤ b && b ≤ 0x46 then some (b.toNat - 0x37)
  else none

def digitsValue (base : Nat) (s : Bytes) : Nat :=
  s.foldl (fun n b => n * base + (hexDigit? b).getD 0) 0

def underscore : UInt8 := byte '_'

/-- The text behind a sign, and whether the sign is a minus. -/
def splitSign (s : Bytes) : Bool × Bytes :=
  match s with
  | b :: rest => if b = byte '-' then (true, rest) else if b = byte '+' then (false, rest) else (false, s)
  | [] => (false, s)

namespace Decimal

/-- Why a text is no integer: it has not the form of one, or it does not fit 64 bits. -/
inductive IntegerFault
  | form | range
deriving DecidableEq, Repr

/-- The value of digits after those of value `n`, underscores aside. A value past 64 bits is noticed at
once, whatever follows. -/
def scanDigits (base : Nat) : Nat → Bytes → Except IntegerFault Nat
  | n, [] => .ok n
  | n, b :: rest =>
    if b = underscore then scanDigits base n rest
    else match hexDigit? b with
      | none => .error .form
      | some d =>
        if base ≤ d then .error .form
        else if 0x10000000000000000 ≤ n * base + d then .error .range
        else scanDigits base (n * base + d) rest

/-- Every underscore has a digit on either side; `before` says that something like a digit stands in
front. -/
def separates (before : Bool) : Bytes → Bool
  | [] => true
  | b :: rest =>
    if b = underscore then before && !rest.isEmpty && separates false rest else separates true rest

/-- The base of an unsigned integer, whether a letter marks it, and the digits. -/
def splitBase (s : Bytes) : Nat × Bool × Bytes :=
  match s with
  | 0x30 :: mark :: first :: rest =>
    if mark = byte 'b' || mark = byte 'B' then (2, true, first :: rest)
    else if mark = byte 'o' || mark = byte 'O' then (8, true, first :: rest)
    else if mark = byte 'x' || mark = byte 'X' then (16, true, first :: rest)
    else (8, false, s)
  | 0x30 :: _ => (8, false, s)
  | _ => (10, false, s)

def readInteger (s : Bytes) : Except IntegerFault Int := do
  let (negative, body) := splitSign s
  let (base, marked, digits) := splitBase body
  if body.isEmpty then .error .form
  else
    let n ← scanDigits base 0 digits
    if !separates marked digits then .error .form
    else if negative then
      if 0x8000000000000000 < n then .error .range else return -(n : Int)
    else if 0x8000000000000000 ≤ n then .error .range
    else return n

end Decimal

end FlowBlocks
