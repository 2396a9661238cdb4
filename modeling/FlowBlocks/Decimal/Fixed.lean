import FlowBlocks.Bytes
/-!
Quotients as they come out of 53-bit binary arithmetic, written with a fixed number of decimal places.
Both roundings go to the nearest neighbour and, half-way, to the even one.
-/
namespace FlowBlocks.Decimal

/-- The whole number nearest to `num / den`; half-way, the even one. -/
def roundDiv (num den : Nat) : Nat :=
  let q := num / den
  let r := num % den
  if 2 * r < den then q else if 2 * r > den then q + 1 else if q % 2 = 0 then q else q + 1

/-- A number with a binary exponent: `mantissa · 2 ^ exponent`. -/
structure Binary where
  mantissa : Nat
  exponent : Int
deriving DecidableEq, Repr

/-- `num / den` on 53 bits. -/
def Binary.ofRatio (num den : Nat) : Binary :=
  if num = 0 then ⟨0, 0⟩
  else
    let e : Int := (num.log2 : Int) - den.log2 - 53
    let scale := fun (e : Int) => (num * Nat.pow 2 (-e).toNat, den * Nat.pow 2 e.toNat)
    let e := if (scale e).1 / (scale e).2 ≥ 0x20000000000000 then e + 1 else e
    ⟨roundDiv (scale e).1 (scale e).2, e⟩

/-- The number times `10 ^ places`, to the nearest whole number. -/
def Binary.scaled (b : Binary) (places : Nat) : Nat :=
  roundDiv (b.mantissa * Nat.pow 2 b.exponent.toNat * Nat.pow 10 places) (Nat.pow 2 (-b.exponent).toNat)

/-- A sign, digits, a point, and `places` more digits. -/
def fixed (places : Nat) (negative : Bool) (b : Binary) : Bytes :=
  let n := b.scaled places
  let digits := decimal n
  let digits := List.replicate (places + 1 - digits.length) (byte '0') ++ digits
  (if negative then [byte '-'] else []) ++ digits.take (digits.length - places) ++ bytes "." ++
    digits.drop (digits.length - places)

end FlowBlocks.Decimal
