import FlowBlocks.Bytes
/-!
The SHA-256 digest of a byte string.
-/
namespace FlowBlocks.Digest

/-- The cube roots of the first 64 primes, 32 bits of each fraction. -/
def roundConstants : List UInt32 := [
  0x428a2f98, 0x71374491, 0xb5c0fbcf, 0xe9b5dba5, 0x3956c25b, 0x59f111f1, 0x923f82a4, 0xab1c5ed5,
  0xd807aa98, 0x12835b01, 0x243185be, 0x550c7dc3, 0x72be5d74, 0x80deb1fe, 0x9bdc06a7, 0xc19bf174,
  0xe49b69c1, 0xefbe4786, 0x0fc19dc6, 0x240ca1cc, 0x2de92c6f, 0x4a7484aa, 0x5cb0a9dc, 0x76f988da,
  0x983e5152, 0xa831c66d, 0xb00327c8, 0xbf597fc7, 0xc6e00bf3, 0xd5a79147, 0x06ca6351, 0x14292967,
  0x27b70a85, 0x2e1b2138, 0x4d2c6dfc, 0x53380d13, 0x650a7354, 0x766a0abb, 0x81c2c92e, 0x92722c85,
  0xa2bfe8a1, 0xa81a664b, 0xc24b8b70, 0xc76c51a3, 0xd192e819, 0xd6990624, 0xf40e3585, 0x106aa070,
  0x19a4c116, 0x1e376c08, 0x2748774c, 0x34b0bcb5, 0x391c0cb3, 0x4ed8aa4a, 0x5b9cca4f, 0x682e6ff3,
  0x748f82ee, 0x78a5636f, 0x84c87814, 0x8cc70208, 0x90befffa, 0xa4506ceb, 0xbef9a3f7, 0xc67178f2]

structure Words where
  a : UInt32
  b : UInt32
  c : UInt32
  d : UInt32
  e : UInt32
  f : UInt32
  g : UInt32
  h : UInt32
deriving DecidableEq, Repr

/-- The square roots of the first eight primes, 32 bits of each fraction. -/
def start : Words :=
  ⟨0x6a09e667, 0xbb67ae85, 0x3c6ef372, 0xa54ff53a, 0x510e527f, 0x9b05688c, 0x1f83d9ab, 0x5be0cd19⟩

def rotate (x : UInt32) (n : UInt32) : UInt32 := (x >>> n) ||| (x <<< (32 - n))

/-- The bytes of a number, most significant first, on `width` bytes. -/
def bigEndian : Nat → Nat → Bytes
  | 0, _ => []
  | width + 1, n => bigEndian width (n / 256) ++ [(n % 256).toUInt8]

/-- The text, a one bit, zeros, and the length in bits on 64, up to a whole number of 64-byte blocks. -/
def padding (s : Bytes) : Bytes :=
  s ++ [0x80] ++ List.replicate ((119 - s.length % 64) % 64) 0 ++ bigEndian 8 (s.length * 8)

/-- Groups of four bytes as words, most significant byte first. -/
def toWords : Bytes → List UInt32
  | a :: b :: c :: d :: rest =>
    (((a.toNat * 256 + b.toNat) * 256 + c.toNat) * 256 + d.toNat).toUInt32 :: toWords rest
  | _ => []

/-- Extends a message schedule, last word first, by `n` words. -/
def extend : Nat → List UInt32 → List UInt32
  | 0, ws => ws
  | n + 1, ws =>
    let at_ := fun i => ws[i]?.getD 0
    let s0 := let x := at_ 14; rotate x 7 ^^^ rotate x 18 ^^^ (x >>> 3)
    let s1 := let x := at_ 1; rotate x 17 ^^^ rotate x 19 ^^^ (x >>> 10)
    extend n ((at_ 15 + s0 + at_ 6 + s1) :: ws)

def round (w : Words) (k : UInt32 × UInt32) : Words :=
  let s1 := rotate w.e 6 ^^^ rotate w.e 11 ^^^ rotate w.e 25
  let ch := (w.e &&& w.f) ^^^ (~~~w.e &&& w.g)
  let t1 := w.h + s1 + ch + k.1 + k.2
  let s0 := rotate w.a 2 ^^^ rotate w.a 13 ^^^ rotate w.a 22
  let maj := (w.a &&& w.b) ^^^ (w.a &&& w.c) ^^^ (w.b &&& w.c)
  ⟨t1 + (s0 + maj), w.a, w.b, w.c, w.d + t1, w.e, w.f, w.g⟩

def absorb (w : Words) (block : List UInt32) : Words :=
  let schedule := (extend 48 block.reverse).reverse
  let v := (roundConstants.zip schedule).foldl round w
  ⟨w.a + v.a, w.b + v.b, w.c + v.c, w.d + v.d, w.e + v.e, w.f + v.f, w.g + v.g, w.h + v.h⟩

/-- Takes in the first `n` blocks of a list of words. -/
def absorbAll : Nat → Words → List UInt32 → Words
  | 0, w, _ => w
  | n + 1, w, words => absorbAll n (absorb w (words.take 16)) (words.drop 16)

def sha256 (s : Bytes) : Bytes :=
  let padded := padding s
  let w := absorbAll (padded.length / 64) start (toWords padded)
  [w.a, w.b, w.c, w.d, w.e, w.f, w.g, w.h].flatMap fun x => bigEndian 4 x.toNat

end FlowBlocks.Digest
