import FlowBlocks.Record.Basic
/-!
Reading records back from MessagePack. Reading is lenient in form: any integer encoding does for a number,
binary strings do for texts, a list of all fields does for a map, unknown fields are skipped, and nil
stands for the zero value. A field that occurs twice is read over what the first occurrence left. Only the
first value is read; what follows it does not matter.
-/
namespace FlowBlocks.Unpack

/-- A reader takes a value off the front, or refuses. -/
abbrev Reader (α : Type) := Bytes → Option (α × Bytes)

def code : Reader UInt8
  | [] => none
  | b :: rest => some (b, rest)

def take (n : Nat) : Reader Bytes := fun s =>
  let front := s.take n
  if front.length < n then none else some (front, s.drop n)

/-- The number that bytes spell, most significant first. -/
def value (s : Bytes) : Nat := s.foldl (fun n b => n * 256 + b.toNat) 0

/-- A number on `n` bytes. -/
def unsigned (n : Nat) : Reader Nat := fun s => (take n s).map fun (b, rest) => (value b, rest)

/-- A number on `n` bytes whose first bit is a sign. -/
def signed (n : Nat) : Reader Int := fun s =>
  (unsigned n s).map fun (v, rest) =>
    (if v < Nat.pow 2 (8 * n - 1) then (v : Int) else (v : Int) - Nat.pow 2 (8 * n), rest)

/-- Any integer, whatever its width and sign; nil is 0. -/
def integer : Reader Int := fun s =>
  match code s with
  | none => none
  | some (c, rest) =>
    if c = 0xC0 then some (0, rest)
    else if c < 0x80 then some (c.toNat, rest)
    else if c ≥ 0xE0 then some ((c.toNat : Int) - 256, rest)
    else if 0xCC ≤ c && c ≤ 0xCF then
      (unsigned (Nat.pow 2 (c - 0xCC).toNat) rest).map fun (v, rest) => ((v : Int), rest)
    else if 0xD0 ≤ c && c ≤ 0xD3 then signed (Nat.pow 2 (c - 0xD0).toNat) rest
    else none

/-- The length behind the code of a text or binary string; nil has none. -/
def textLength (c : UInt8) : Reader (Option Nat) := fun s =>
  if c = 0xC0 then some (none, s)
  else if 0xA0 ≤ c && c ≤ 0xBF then some (some (c - 0xA0).toNat, s)
  else
    let sized := fun n => (unsigned n s).map fun (v, rest) => (some v, rest)
    if c = 0xD9 || c = 0xC4 then sized 1
    else if c = 0xDA || c = 0xC5 then sized 2
    else if c = 0xDB || c = 0xC6 then sized 4
    else none

/-- A text; nil is the empty one. -/
def text : Reader Bytes := fun s =>
  match code s with
  | none => none
  | some (c, rest) =>
    match textLength c rest with
    | none => none
    | some (none, rest) => some ([], rest)
    | some (some n, rest) => take n rest

/-- The length behind the code of a list; nil has none. -/
def listLength (c : UInt8) : Reader (Option Nat) := fun s =>
  if c = 0xC0 then some (none, s)
  else if 0x90 ≤ c && c ≤ 0x9F then some (some (c - 0x90).toNat, s)
  else
    let sized := fun n => (unsigned n s).map fun (v, rest) => (some v, rest)
    if c = 0xDC then sized 2 else if c = 0xDD then sized 4 else none

/-- The length behind the code of a map; nil has none. -/
def mapLength (c : UInt8) : Reader (Option Nat) := fun s =>
  if c = 0xC0 then some (none, s)
  else if 0x80 ≤ c && c ≤ 0x8F then some (some (c - 0x80).toNat, s)
  else
    let sized := fun n => (unsigned n s).map fun (v, rest) => (some v, rest)
    if c = 0xDE then sized 2 else if c = 0xDF then sized 4 else none

/-- The number of bytes after the code of a value without parts. -/
def plainLength (c : UInt8) : Reader Nat := fun s =>
  if c < 0x80 || c ≥ 0xE0 || c = 0xC0 || c = 0xC2 || c = 0xC3 then some (0, s)
  else if 0xCC ≤ c && c ≤ 0xCF then some (Nat.pow 2 (c - 0xCC).toNat, s)
  else if 0xD0 ≤ c && c ≤ 0xD3 then some (Nat.pow 2 (c - 0xD0).toNat, s)
  else if c = 0xCA then some (4, s)
  else if c = 0xCB then some (8, s)
  else if 0xD4 ≤ c && c ≤ 0xD8 then some (1 + Nat.pow 2 (c - 0xD4).toNat, s)
  else if 0xC7 ≤ c && c ≤ 0xC9 then
    (unsigned (Nat.pow 2 (c - 0xC7).toNat) s).map fun (n, rest) => (n + 1, rest)
  else match textLength c s with
    | some (some n, rest) => some (n, rest)
    | _ => none

/-- Skips `todo` values. Parts of a list or map are added to what is to do. The number bounds the codes
read; the length of the text suffices. -/
def skipValues : Nat → Nat → Bytes → Option Bytes
  | _, 0, s => some s
  | 0, _ + 1, _ => none
  | fuel + 1, todo + 1, s =>
    match code s with
    | none => none
    | some (c, rest) =>
      match plainLength c rest with
      | some (n, rest) => (take n rest).bind fun (_, rest) => skipValues fuel todo rest
      | none =>
        match listLength c rest with
        | some (some n, rest) => skipValues fuel (todo + n) rest
        | _ =>
          match mapLength c rest with
          | some (some n, rest) => skipValues fuel (todo + 2 * n) rest
          | _ => none

def skip (s : Bytes) : Option Bytes := skipValues s.length 1 s

/-- A field: its name and how to read it into a structure. -/
structure Field (σ : Type) where
  name : String
  read : σ → Reader σ

/-- Reads `n` named fields over `state`, skipping those that are not known. -/
def readNamed {σ : Type} (fs : List (Field σ)) : Nat → σ → Reader σ
  | 0, state, s => some (state, s)
  | n + 1, state, s =>
    match text s with
    | none => none
    | some (name, rest) =>
      match fs.find? fun f => bytes f.name == name with
      | some f => (f.read state rest).bind fun (state, rest) => readNamed fs n state rest
      | none => (skip rest).bind fun rest => readNamed fs n state rest

/-- Reads fields in their order over `state`. -/
def readOrdered {σ : Type} : List (Field σ) → σ → Reader σ
  | [], state, s => some (state, s)
  | f :: fs, state, s => (f.read state s).bind fun (state, rest) => readOrdered fs state rest

/-- A structure: a map of fields read over `state`, or a list of all of them; nil and the empty list are
the zero value. -/
def structured {σ : Type} (zero : σ) (fs : List (Field σ)) (state : σ) : Reader σ := fun s =>
  match code s with
  | none => none
  | some (c, rest) =>
    match mapLength c rest with
    | some (none, rest) => some (zero, rest)
    | some (some n, rest) => readNamed fs n state rest
    | none =>
      match listLength c rest with
      | some (some 0, rest) => some (zero, rest)
      | some (some n, rest) => if n = fs.length then readOrdered fs state rest else none
      | _ => none

/-- Reads `n` elements, each over the one that stood at its position before. -/
def readItems {α : Type} (zero : α) (item : α → Reader α) : Nat → List α → Reader (List α)
  | 0, _, s => some ([], s)
  | n + 1, before, s =>
    (item (before.head?.getD zero) s).bind fun (x, rest) =>
      (readItems zero item n before.tail rest).map fun (xs, rest) => (x :: xs, rest)

/-- A list while its record is read. A shorter list that is read over it leaves the elements past its
end as `spare`, and a longer one is read over them again. -/
structure Shelf (α : Type) where
  shown : List α := []
  spare : List α := []

namespace Shelf

def all {α : Type} (sh : Shelf α) : List α := sh.shown ++ sh.spare

/-- A list over the one that stood there before; nil is a missing list. -/
def read {α : Type} (zero : α) (item : α → Reader α) (before : Option (Shelf α)) :
    Reader (Option (Shelf α)) := fun s =>
  match code s with
  | none => none
  | some (c, rest) =>
    match listLength c rest with
    | none => none
    | some (none, rest) => some (none, rest)
    | some (some n, rest) =>
      let stored := (before.getD {}).all
      (readItems zero item n stored rest).map fun (xs, rest) => (some ⟨xs, stored.drop n⟩, rest)

end Shelf

/-- A list of values that are read whole; nil is a missing list. -/
def list {α : Type} (zero : α) (item : Reader α) : Reader (Option (List α)) := fun s =>
  (Shelf.read zero (fun _ => item) none s).map fun (sh, rest) => (sh.map Shelf.shown, rest)

/-- A list of texts; nil leaves what stood there before. -/
def textList (before : Option (List Bytes)) : Reader (Option (List Bytes)) := fun s =>
  (list [] text s).map fun (xs, rest) => (xs.or before, rest)

def word32 : Reader UInt32 := fun s =>
  (integer s).map fun (n, rest) => ((n % 0x100000000).toNat.toUInt32, rest)

def field {σ α : Type} (name : String) (read : σ → Reader α) (set : σ → α → σ) : Field σ :=
  ⟨name, fun state s => (read state s).map fun (a, rest) => (set state a, rest)⟩

def wordList : Reader (Option (List UInt32)) := list 0 word32

def blockFields : List (Field OutlineBlock) := [
  field "start" (fun _ => word32) fun b v => { b with start := v },
  field "len" (fun _ => word32) fun b v => { b with len := v },
  field "preds" (fun _ => wordList) fun b v => { b with preds := v },
  field "succs" (fun _ => wordList) fun b v => { b with succs := v }]

/-- An outline while it is read: its blocks may have spare ones. -/
structure OutlineDraft where
  outline : Outline := {}
  blocks : Option (Shelf OutlineBlock) := none

/-- The outline with the blocks that were read last. -/
def OutlineDraft.finish (d : OutlineDraft) : Outline :=
  { d.outline with blocks := d.blocks.map Shelf.shown }

/-- A field of the outline apart from its blocks. -/
def outlineField {α : Type} (name : String) (read : Outline → Reader α) (set : Outline → α → Outline) :
    Field OutlineDraft :=
  field name (fun d => read d.outline) fun d v => { d with outline := set d.outline v }

def outlineFields : List (Field OutlineDraft) := [
  outlineField "name" (fun _ => text) fun o v => { o with name := v },
  outlineField "units" (fun o => textList o.units) fun o v => { o with units := v },
  field "blocks" (fun d => Shelf.read {} (structured {} blockFields) d.blocks)
    fun d v => { d with blocks := v },
  outlineField "heads" (fun _ => wordList) fun o v => { o with heads := v },
  outlineField "tails" (fun _ => wordList) fun o v => { o with tails := v },
  outlineField "orphans" (fun _ => wordList) fun o v => { o with orphans := v }]

/-- An outline over the one that stood there before; nil is none. -/
def outline? (before : Option OutlineDraft) : Reader (Option OutlineDraft) := fun s =>
  match s with
  | 0xC0 :: rest => some (none, rest)
  | _ =>
    (structured {} outlineFields (before.getD {}) s).map fun (d, rest) => (some d, rest)

structure BodyDraft where
  name : Bytes := []
  outline : Option OutlineDraft := none
  error : Bytes := []

def BodyDraft.finish (d : BodyDraft) : BodyRecord :=
  ⟨d.name, d.outline.map OutlineDraft.finish, d.error⟩

def bodyFields : List (Field BodyDraft) := [
  field "name" (fun _ => text) fun b v => { b with name := v },
  field "snapshot" (fun b => outline? b.outline) fun b v => { b with outline := v },
  field "err" (fun _ => text) fun b v => { b with error := v }]

structure Draft where
  record : Record := {}
  bodies : Option (Shelf BodyDraft) := none

/-- The record with the bodies that were read last. -/
def Draft.finish (d : Draft) : Record :=
  { d.record with bodies := d.bodies.map fun sh => sh.shown.map BodyDraft.finish }

/-- A field of the record apart from its bodies. -/
def recordField {α : Type} (name : String) (read : Reader α) (set : Record → α → Record) : Field Draft :=
  field name (fun _ => read) fun d v => { d with record := set d.record v }

def recordFields : List (Field Draft) := [
  recordField "schema" integer fun r v => { r with schema := (v % 0x10000).toNat.toUInt16 },
  recordField "file" text fun r v => { r with file := v },
  recordField "graph" text fun r v => { r with graph := v },
  recordField "policy" text fun r v => { r with policy := v },
  field "bodies" (fun d => Shelf.read {} (structured {} bodyFields) d.bodies)
    fun d v => { d with bodies := v },
  recordField "written" integer fun r v => { r with written := Int64.ofInt v }]

/-- A record, whatever its version and outlines. -/
def record : Reader Record := fun s =>
  (structured {} recordFields {} s).map fun (d, rest) => (d.finish, rest)

end FlowBlocks.Unpack

namespace FlowBlocks.Record

/-- The record that bytes start with, if it is of the current version and its outlines pass the range
check. -/
def decode (s : Bytes) : Except ReadError Record :=
  match Unpack.record s with
  | none => .error .malformed
  | some (r, _) => r.checked

end FlowBlocks.Record
