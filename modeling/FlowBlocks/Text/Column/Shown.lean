import FlowBlocks.Text.Cluster.Break
import FlowBlocks.Text.Column.Table
/-!
The width of a text on a terminal that obeys escape sequences: the sequences take no column, and
a displayed character is as wide as its code points together, except that flags, Hangul syllables and
joined pictures are as wide as their first code point.
-/
namespace FlowBlocks.Column

/-- Pictographs that are shown as a picture unless the text asks otherwise. -/
def pictureRanges : List (Nat × Nat) := [
  (0x231A, 0x231B), (0x23E9, 0x23EC), (0x23F0, 0x23F0), (0x23F3, 0x23F3), (0x25FD, 0x25FE),
  (0x2614, 0x2615), (0x2648, 0x2653), (0x267F, 0x267F), (0x2693, 0x2693), (0x26A1, 0x26A1),
  (0x26AA, 0x26AB), (0x26BD, 0x26BE), (0x26C4, 0x26C5), (0x26CE, 0x26CE), (0x26D4, 0x26D4),
  (0x26EA, 0x26EA), (0x26F2, 0x26F3), (0x26F5, 0x26F5), (0x26FA, 0x26FA), (0x26FD, 0x26FD),
  (0x2705, 0x2705), (0x270A, 0x270B), (0x2728, 0x2728), (0x274C, 0x274C), (0x274E, 0x274E),
  (0x2753, 0x2755), (0x2757, 0x2757), (0x2795, 0x2797), (0x27B0, 0x27B0), (0x27BF, 0x27BF),
  (0x2B1B, 0x2B1C), (0x2B50, 0x2B50), (0x2B55, 0x2B55), (0x1F004, 0x1F004), (0x1F0CF, 0x1F0CF),
  (0x1F18E, 0x1F18E), (0x1F191, 0x1F19A), (0x1F1E6, 0x1F1FF), (0x1F201, 0x1F201),
  (0x1F21A, 0x1F21A), (0x1F22F, 0x1F22F), (0x1F232, 0x1F236), (0x1F238, 0x1F23A),
  (0x1F250, 0x1F251), (0x1F300, 0x1F320), (0x1F32D, 0x1F335), (0x1F337, 0x1F37C),
  (0x1F37E, 0x1F393), (0x1F3A0, 0x1F3CA), (0x1F3CF, 0x1F3D3), (0x1F3E0, 0x1F3F0),
  (0x1F3F4, 0x1F3F4), (0x1F3F8, 0x1F43E), (0x1F440, 0x1F440), (0x1F442, 0x1F4FC),
  (0x1F4FF, 0x1F53D), (0x1F54B, 0x1F54E), (0x1F550, 0x1F567), (0x1F57A, 0x1F57A),
  (0x1F595, 0x1F596), (0x1F5A4, 0x1F5A4), (0x1F5FB, 0x1F64F), (0x1F680, 0x1F6C5),
  (0x1F6CC, 0x1F6CC), (0x1F6D0, 0x1F6D2), (0x1F6D5, 0x1F6D7), (0x1F6DC, 0x1F6DF),
  (0x1F6EB, 0x1F6EC), (0x1F6F4, 0x1F6FC), (0x1F7E0, 0x1F7EB), (0x1F7F0, 0x1F7F0),
  (0x1F90C, 0x1F93A), (0x1F93C, 0x1F945), (0x1F947, 0x1F9FF), (0x1FA70, 0x1FA7C),
  (0x1FA80, 0x1FA88), (0x1FA90, 0x1FABD), (0x1FABF, 0x1FAC5), (0x1FACE, 0x1FADB),
  (0x1FAE0, 0x1FAE8), (0x1FAF0, 0x1FAF8)]

/-- Code points that a terminal shows in one column although they belong to wide groups. -/
def narrowRanges : List (Nat × Nat) := [(0x2FFC, 0x2FFF), (0x31EF, 0x31EF)]

/-- The columns of a code point of class `kind`. The two long dashes take three and four. -/
def shownCode (c : Nat) (kind : Cluster.Break) : Nat :=
  match kind with
  | .control | .cr | .lf | .extend | .zwj => 0
  | .regional => 2
  | .pictograph => if inRanges pictureRanges c then 2 else 1
  | _ =>
    if c == 0x2E3A then 3
    else if c == 0x2E3B then 4
    else if inRanges wideRanges c && !inRanges narrowRanges c then 2
    else 1

/-- What is open at the end of a displayed character. -/
inductive Chain
  | any | control | leading | vowel | trailing | prepended | picture | joinedPicture | oddFlag
  | evenFlag
deriving DecidableEq, Repr

namespace Chain

def alone : Cluster.Break → Chain
  | .control | .cr | .lf => .control
  | .hangulL => .leading
  | .hangulV | .hangulLV => .vowel
  | .hangulT | .hangulLVT => .trailing
  | .prepend => .prepended
  | .pictograph => .picture
  | .regional => .oddFlag
  | _ => .any

/-- The chain after one more code point, or nothing where a new character begins. -/
def extend? (ch : Chain) (kind : Cluster.Break) : Option Chain :=
  match ch, kind with
  | _, .control | _, .cr | _, .lf | .control, _ => none
  | .leading, .hangulL => some .leading
  | .leading, .hangulV | .leading, .hangulLV => some .vowel
  | .leading, .hangulLVT => some .trailing
  | .vowel, .hangulV => some .vowel
  | .vowel, .hangulT | .trailing, .hangulT => some .trailing
  | .picture, .extend => some .picture
  | .picture, .zwj => some .joinedPicture
  | .joinedPicture, .pictograph => some .picture
  | .oddFlag, .regional => some .evenFlag
  | .prepended, _ => some (alone kind)
  | _, .extend | _, .zwj | _, .spacingMark => some .any
  | _, _ => none

end Chain

/-- The width of a character that starts with a code point of class `first` once `c`, of class
`kind`, has joined it. A variation selector decides between text and picture. -/
def joinedWidth (first : Cluster.Break) (w c : Nat) (kind : Cluster.Break) : Nat :=
  match first with
  | .pictograph => if c == 0xFE0E then 1 else if c == 0xFE0F then 2 else w
  | .regional | .hangulL => w
  | _ => w + shownCode c kind

/-- The width and the number of bytes of a character of which `w` columns and `n` bytes are known. The
number `skip` says how many of the next bytes belong to the last code point. -/
def restOfCharacter (first : Cluster.Break) : Chain → Nat → Nat → Nat → Bytes → Nat × Nat
  | _, w, n, _, [] => (w, n)
  | ch, w, n, skip + 1, _ :: rest => restOfCharacter first ch w n skip rest
  | ch, w, n, 0, a :: rest =>
    let r := Utf8.first a rest
    let kind := Cluster.breakOf r.code
    match ch.extend? kind with
    | none => (w, n)
    | some ch =>
      let size := r.spelling.length
      restOfCharacter first ch (joinedWidth first w r.code kind) (n + size) (size - 1) rest

/-- The width and the number of bytes of the character that starts with `a`. -/
def firstCharacter (a : UInt8) (rest : Bytes) : Nat × Nat :=
  let r := Utf8.first a rest
  let kind := Cluster.breakOf r.code
  let size := r.spelling.length
  restOfCharacter kind (.alone kind) (shownCode r.code kind) size (size - 1) rest

/-- Where a terminal stands in an escape sequence. `framed` is a string that only a terminator ends. -/
inductive Escape
  | ground | escape | escapeMid | control | controlParam | controlMid
  | device | deviceParam | deviceMid | deviceString | system | framed
deriving DecidableEq, Repr

namespace Escape

def within (lo hi b : UInt8) : Bool := lo ≤ b && b ≤ hi

/-- Control bytes that leave a sequence open. -/
def isQuiet (b : UInt8) : Bool := b ≤ 0x17 || b == 0x19 || within 0x1C 0x1F b || b == 0x7F

/-- What holds in every state: some bytes end a sequence, some begin one. -/
def anywhere (b : UInt8) : Escape :=
  if b == 0x1B then .escape
  else if b == 0x98 || b == 0x9E || b == 0x9F then .framed
  else if b == 0x9B then .control
  else if b == 0x90 then .device
  else if b == 0x9D then .system
  else .ground

def afterEscape (b : UInt8) : Escape :=
  if isQuiet b then .escape
  else if within 0x20 0x2F b then .escapeMid
  else if b == byte 'X' || b == byte '^' || b == byte '_' then .framed
  else if b == byte 'P' then .device
  else if b == byte '[' then .control
  else if b == byte ']' then .system
  else anywhere b

def afterControl (st : Escape) (b : UInt8) : Escape :=
  if isQuiet b then st
  else if within 0x20 0x2F b then .controlMid
  else if within 0x30 0x3F b && st != .controlMid then .controlParam
  else anywhere b

def afterDevice (st : Escape) (b : UInt8) : Escape :=
  if st == .device && (within 0x08 0x0D b || b == 0x1B) then .deviceString
  else if isQuiet b then st
  else if within 0x20 0x2F b then .deviceMid
  else if within 0x30 0x3F b then if st == .deviceMid then .deviceString else .deviceParam
  else if within 0x40 0x7E b then .deviceString
  else anywhere b

/-- The state after a byte that starts no code point of several bytes. -/
def next (st : Escape) (b : UInt8) : Escape :=
  match st with
  | .ground => anywhere b
  | .escape => afterEscape b
  | .escapeMid => if isQuiet b || within 0x20 0x2F b then st else anywhere b
  | .control | .controlParam | .controlMid => afterControl st b
  | .device | .deviceParam | .deviceMid => afterDevice st b
  | .deviceString =>
    if b == 0x1B then .escape else if b == 0x9C || b == 0x18 || b == 0x1A then .ground else st
  | .system =>
    if b == 0x1B then .escape
    else if b == 0x07 || b == 0x9C || b == 0x18 || b == 0x1A then .ground
    else st
  | .framed => if isQuiet b || within 0x20 0x7E b then st else anywhere b

/-- Whether a byte starts a code point of several bytes that is shown. Strings for the device or the
system swallow such bytes. -/
def opensCharacter (st : Escape) (b : UInt8) : Bool :=
  st != .deviceString && st != .system && within 0xC2 0xF4 b

end Escape

/-- The columns of a text read from a state on. The number says how many of the next bytes belong to
the last character. -/
def shownFrom : Escape → Nat → Bytes → Nat
  | _, _, [] => 0
  | st, skip + 1, _ :: rest => shownFrom st skip rest
  | st, 0, a :: rest =>
    if st.opensCharacter a then
      let (w, n) := firstCharacter a rest
      w + shownFrom .ground (n - 1) rest
    else
      let own := if st == .ground && Escape.within 0x20 0x7E a then 1 else 0
      own + shownFrom (st.next a) 0 rest

/-- The columns that a text takes on a terminal. -/
def shownWidth (s : Bytes) : Nat := shownFrom .ground 0 s

end FlowBlocks.Column
