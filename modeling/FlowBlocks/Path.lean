import FlowBlocks.Bytes
/-!
Slash-separated paths as texts: cleaning, joining, and the parts of a path. Nothing here looks at a
disk.
-/
namespace FlowBlocks.Path

def slash : UInt8 := byte '/'

def isAbsolute (p : Bytes) : Bool := p.head? == some slash

/-- The non-empty parts between slashes. -/
def parts (p : Bytes) : List Bytes := (Bytes.splitOn slash p).filter (!·.isEmpty)

/-- Adds one part to cleaned parts, which stand last first. A `..` takes the part before it away; with
nothing to take away it stays in a relative path and vanishes in an absolute one. -/
def cleanStep (rooted : Bool) (done : List Bytes) (part : Bytes) : List Bytes :=
  if part = bytes "." then done
  else if part = bytes ".." then
    match done with
    | [] => if rooted then [] else [part]
    | last :: before => if last = bytes ".." then part :: done else before
  else part :: done

/-- The shortest path that means the same by its text alone. -/
def clean (p : Bytes) : Bytes :=
  let rooted := isAbsolute p
  let body := Bytes.join [slash] ((parts p).foldl (cleanStep rooted) []).reverse
  if rooted then slash :: body else if body.isEmpty then bytes "." else body

/-- Joins the parts that are not empty and cleans the result. -/
def join (ps : List Bytes) : Bytes :=
  match ps.filter (!·.isEmpty) with
  | [] => []
  | qs => clean (Bytes.join [slash] qs)

/-- The last part; `.` for an empty path and `/` for one of slashes alone. -/
def base (p : Bytes) : Bytes :=
  if p.isEmpty then bytes "."
  else match (parts p).getLast? with
    | some last => last
    | none => [slash]

/-- From the last dot of what follows the last slash, or nothing. -/
def extension (p : Bytes) : Bytes :=
  let last := (p.reverse.takeWhile (· != slash)).reverse
  if last.contains (byte '.') then byte '.' :: (last.reverse.takeWhile (· != byte '.')).reverse
  else []

/-- Everything up to the last slash, cleaned. -/
def directory (p : Bytes) : Bytes := clean (p.reverse.dropWhile (· != slash)).reverse

def absolute (cwd p : Bytes) : Bytes := if isAbsolute p then clean p else join [cwd, p]

def stem (p : Bytes) : Bytes :=
  let b := base p
  let e := extension p
  if e.isSuffixOf b then b.take (b.length - e.length) else b

end FlowBlocks.Path
