import FlowBlocks.Decimal.Integer
import FlowBlocks.Toml.Basic
/-!
Numbers and times. A number or time is first cut off by the bytes it may be made of and then held against
its rules, so `1.2.3` is a faulty float and not a float with something behind it.
-/
namespace FlowBlocks.Toml

def isHexByte (b : UInt8) : Bool := (hexDigit? b).isSome

/-- Every underscore stands between digits, and a digit stands last. -/
def underscoresFit (s : Bytes) : Bool :=
  let (fits, digit) := s.foldl
    (fun (fits, digit) b => (fits && (b != underscore || digit), isHexByte b)) (true, false)
  fits && digit

def hasLeadingZero (s : Bytes) : Bool :=
  let body := (splitSign s).2
  body.length > 1 && body.head? == some (byte '0')

/-- An integer that fits 64 bits. -/
def inRange? (n : Int) : Option Value :=
  if -0x8000000000000000 ≤ n && n < 0x8000000000000000 then some (.int n) else none

/-- A decimal integer with or without a sign. -/
def decimalInt? (token : Bytes) : Option Value :=
  if underscoresFit token && !hasLeadingZero token then
    let (negative, body) := splitSign token
    let n : Int := digitsValue 10 (body.filter (· != underscore))
    inRange? (if negative then -n else n)
  else none

/-- An integer in another base; the digits stand behind a zero and a letter. -/
def basedInt? (base : Nat) (digits : Bytes) : Option Value :=
  if digits.head?.any isHexByte && underscoresFit digits then
    inRange? (digitsValue base (digits.filter (· != underscore)))
  else none

/-- The number of an exponent. Digits count until it has reached ten thousand and not after. -/
def exponent (digits : Bytes) : Nat :=
  digits.foldl (fun n b => if n < 10000 then n * 10 + digitsValue 10 [b] else n) 0

/-- Digits with a fraction and an exponent, each of them optional: the digits without the point and
without zeros in front, and the power of ten they are multiplied by. -/
def scientific? (s : Bytes) : Option (Bytes × Int) :=
  let whole := s.takeWhile isDigitByte
  let rest := s.dropWhile isDigitByte
  let (fraction, rest) := match rest with
    | 0x2E :: after => (after.takeWhile isDigitByte, after.dropWhile isDigitByte)
    | _ => ([], rest)
  let digits := (whole ++ fraction).dropWhile (· == byte '0')
  if (whole ++ fraction).isEmpty then none
  else match rest with
    | [] => some (digits, -fraction.length)
    | e :: after =>
      let (negative, power) := splitSign after
      if (e = byte 'e' || e = byte 'E') && !power.isEmpty && power.all isDigitByte then
        let n : Int := exponent power
        some (digits, (if negative then -n else n) - fraction.length)
      else none

/-- Whether a decimal is too large for a double: it is not below 2^1024 by half a unit in the last place.
Decimals with few or very many digits before the point are told without computing them. -/
def overflows (digits : Bytes) (power : Int) : Bool :=
  let places : Int := digits.length + power
  if digits.isEmpty || places < 300 then false
  else if places > 320 then true
  else
    let bound := Nat.pow 2 1024 - Nat.pow 2 970
    digitsValue 10 digits * Nat.pow 10 power.toNat ≥ bound * Nat.pow 10 (-power).toNat

/-- The parts between points and exponent marks that are not empty. -/
def floatParts (token : Bytes) : List Bytes :=
  let marks := [byte '.', byte 'e', byte 'E']
  (Bytes.splitOn (byte '.') (token.map fun b => if marks.contains b then byte '.' else b)).filter
    (!·.isEmpty)

/-- Every point has a digit behind it. -/
def pointsFit : Bytes → Bool
  | [] => true
  | b :: rest => (b != byte '.' || rest.head?.any isDigitByte) && pointsFit rest

def float? (token : Bytes) : Option Value :=
  let parts := floatParts token
  if parts.all underscoresFit && !hasLeadingZero (parts.headD []) && pointsFit token then
    match scientific? (splitSign (token.filter (· != underscore))).2 with
    | some (digits, power) => if overflows digits power then none else some (.float token)
    | none => none
  else none

/-- Takes a number of exactly two digits off the front. -/
def twoDigits? : Bytes → Option (Nat × Bytes)
  | a :: b :: rest =>
    if isDigitByte a && isDigitByte b then some (digitsValue 10 [a, b], rest) else none
  | _ => none

/-- Takes one byte off the front if it is `b`. -/
def expect? (b : Char) : Bytes → Option Bytes
  | c :: rest => if c = byte b then some rest else none
  | [] => none

def daysIn (year month : Nat) : Nat :=
  if month = 2 then
    if year % 4 = 0 && (year % 100 != 0 || year % 400 = 0) then 29 else 28
  else if [4, 6, 9, 11].contains month then 30 else 31

def date? (s : Bytes) : Option Bytes := do
  let year := s.take 4
  guard (year.length = 4 && year.all isDigitByte)
  let (month, s) ← twoDigits? (← expect? '-' (s.drop 4))
  let (day, s) ← twoDigits? (← expect? '-' s)
  guard (1 ≤ month && month ≤ 12 && 1 ≤ day && day ≤ daysIn (digitsValue 10 year) month)
  return s

/-- Takes an hour off the front, which may have one digit only. -/
def hour? : Bytes → Option Bytes
  | a :: b :: rest =>
    if !isDigitByte a then none
    else if isDigitByte b then
      if digitsValue 10 [a, b] < 24 then some rest else none
    else some (b :: rest)
  | _ => none

/-- Takes a time of day off the front, with or without a fraction of a second. -/
def clock? (s : Bytes) : Option Bytes := do
  let s ← hour? s
  let (minute, s) ← twoDigits? (← expect? ':' s)
  let (second, s) ← twoDigits? (← expect? ':' s)
  guard (minute < 60 && second < 60)
  match s with
  | 0x2E :: d :: rest => if isDigitByte d then return rest.dropWhile isDigitByte else return s
  | _ => return s

/-- An offset from universal time and nothing behind it. -/
def isOffset (s : Bytes) : Bool :=
  match s with
  | [b] => b = byte 'Z'
  | sign :: rest =>
    (sign = byte '+' || sign = byte '-') &&
      (do
        let (hours, s) ← twoDigits? rest
        let (minutes, s) ← twoDigits? (← expect? ':' s)
        guard (hours ≤ 24 && minutes ≤ 60 && s.isEmpty)).isSome
  | [] => false

/-- A date, a time of day, or both, the latter with or without an offset. The mark between date and time
is a `T` of either case or a blank. -/
def time? (token : Bytes) : Option Value :=
  let s := token.map fun b =>
    if b = byte 't' || b = byte ' ' then byte 'T' else if b = byte 'z' then byte 'Z' else b
  let fits := match date? s with
    | some [] => true
    | some rest => match (expect? 'T' rest).bind clock? with
      | some after => after.isEmpty || isOffset after
      | none => false
    | none => clock? s == some []
  if fits then some (.time token) else none

def isFloatByte (b : UInt8) : Bool :=
  isDigitByte b || [byte '_', byte '.', byte '-', byte '+', byte 'e', byte 'E'].contains b

def isTimeByte (b : UInt8) : Bool :=
  isDigitByte b || (bytes "-:Tt .Zz+").contains b

/-- The letter behind the zero of an integer in another base. -/
def bases : List (UInt8 × Nat) := [(byte 'b', 2), (byte 'o', 8), (byte 'x', 16)]

/-- Takes a number or time that starts with a digit or a sign off the front. -/
def number? (s : Bytes) : Option (Value × Bytes) :=
  let sign := s.takeWhile fun b => b = byte '+' || b = byte '-'
  let body := s.drop sign.length
  let digits := body.takeWhile isDigitByte
  let next := (body.drop digits.length).headD 0
  let based := if sign.isEmpty && digits = bytes "0" then bases.find? (·.1 == next) else none
  if sign.length > 1 || digits.isEmpty then none
  else match based with
    | some (_, base) =>
      let rest := body.drop 2
      let inBase := fun b => b = underscore || (hexDigit? b).any (· < base)
      (basedInt? base (rest.takeWhile inBase)).map fun v => (v, rest.dropWhile inBase)
    | none =>
      if sign.isEmpty && digits != bytes "0" && (next = byte '-' || next = byte ':') then
        let token := Bytes.dropEndWhile (· == byte ' ') (s.takeWhile isTimeByte)
        (time? token).map fun v => (v, s.dropWhile isTimeByte)
      else
        let isIntByte := fun b => isDigitByte b || b = underscore
        let rest := body.dropWhile isIntByte
        if [byte '.', byte 'e', byte 'E'].contains (rest.headD 0) then
          (float? (sign ++ body.takeWhile isFloatByte)).map fun v => (v, body.dropWhile isFloatByte)
        else (decimalInt? (sign ++ body.takeWhile isIntByte)).map fun v => (v, rest)

/-- Values that are words. -/
def wordValues : List (String × Value) :=
  [("true", .bool true), ("false", .bool false), ("inf", .float (bytes "inf")),
    ("nan", .float (bytes "nan")), ("+inf", .float (bytes "+inf")), ("+nan", .float (bytes "+nan")),
    ("-inf", .float (bytes "-inf")), ("-nan", .float (bytes "-nan"))]

/-- Takes a word, number or time off the front. -/
def scalar? (s : Bytes) : Option (Value × Bytes) :=
  match wordValues.find? fun (w, _) => (bytes w).isPrefixOf s with
  | some (w, v) => some (v, s.drop (bytes w).length)
  | none => number? s

end FlowBlocks.Toml
