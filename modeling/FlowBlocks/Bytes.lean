/-!
Text as this library handles it: a list of bytes, which need not be well-formed UTF-8. Listings,
labels, paths and messages are all of this type, so nothing is lost between reading and printing.
-/
namespace FlowBlocks

abbrev Bytes := List UInt8

def bytes (s : String) : Bytes := s.toByteArray.data.toList

def byte (c : Char) : UInt8 := c.toNat.toUInt8

/-- Decimal digits, most significant first, without leading zeros. -/
def decimal (n : Nat) : Bytes := (Nat.toDigits 10 n).map byte

/-- Decimal digits behind a minus sign where one is due. -/
def decimalInt : Int → Bytes
  | .ofNat n => decimal n
  | .negSucc n => byte '-' :: decimal (n + 1)

def hexByte (b : UInt8) : Bytes :=
  [b.toNat / 16, b.toNat % 16].map fun d => byte (Nat.digitChar d)

/-- A number in lowercase hexadecimal, on at least `width` digits. -/
def hexPadded (width n : Nat) : Bytes :=
  let digits := (Nat.toDigits 16 n).map byte
  List.replicate (width - digits.length) (byte '0') ++ digits

namespace Bytes

/-- The parts in order, with `sep` between neighbours. -/
def join (sep : Bytes) (parts : List Bytes) : Bytes := (parts.intersperse sep).flatten

/-- Lexicographic order of bytes. -/
def le : Bytes → Bytes → Bool
  | [], _ => true
  | _ :: _, [] => false
  | a :: as, b :: bs => a < b || (a == b && le as bs)

/-- Spaces in front, up to `width` bytes in all. -/
def padLeft (width : Nat) (s : Bytes) : Bytes :=
  List.replicate (width - s.length) (byte ' ') ++ s

/-- The pieces between occurrences of `sep`; one more than there are occurrences. -/
def splitOn (sep : UInt8) (s : Bytes) : List Bytes :=
  s.foldr (fun b acc => match acc with
    | piece :: rest => if b = sep then [] :: piece :: rest else (b :: piece) :: rest
    | [] => if b = sep then [[], []] else [[b]]) [[]]

/-- The part before the first `sep` and the part after it, or `none` where `sep` does not occur. -/
def cut? (sep : UInt8) (s : Bytes) : Option (Bytes × Bytes) :=
  match s.dropWhile (· != sep) with
  | [] => none
  | _ :: after => some (s.takeWhile (· != sep), after)

def dropEndWhile (p : UInt8 → Bool) (s : Bytes) : Bytes := (s.reverse.dropWhile p).reverse

/-- Copies `s` onto `done`, which holds the output last first, with every non-overlapping occurrence of
`part` replaced. The number says how many of the next bytes belong to the last occurrence. -/
def replaceOnto (part new : Bytes) : Bytes → Nat → Bytes → Bytes
  | done, _, [] => done
  | done, skip + 1, _ :: rest => replaceOnto part new done skip rest
  | done, 0, b :: rest =>
    if part.isPrefixOf (b :: rest) then
      replaceOnto part new (new.reverse ++ done) (part.length - 1) rest
    else replaceOnto part new (b :: done) 0 rest

/-- Every non-overlapping occurrence of a non-empty `part`, from the left, replaced by `new`. -/
def replace (part new s : Bytes) : Bytes :=
  if part.isEmpty then s else (replaceOnto part new [] 0 s).reverse

end Bytes

/-- The elements of a list, each at its first occurrence only. -/
def distinct {α : Type} [DecidableEq α] (xs : List α) : List α :=
  xs.foldl (fun seen x => if x ∈ seen then seen else seen ++ [x]) []

end FlowBlocks
