import FlowBlocks.Digest
import FlowBlocks.Record.Basic
/-!
Records as MessagePack. A structure is a map from field names in a fixed order; numbers have a fixed
width; texts and lists take the shortest header that fits; a missing list is nil. Fields that may be left
out are left out when empty.
-/
namespace FlowBlocks.Pack

def nil : Bytes := [0xC0]

def word16 (n : UInt16) : Bytes := 0xCD :: Digest.bigEndian 2 n.toNat

def word32 (n : UInt32) : Bytes := 0xCE :: Digest.bigEndian 4 n.toNat

def int64 (n : Int64) : Bytes := 0xD3 :: Digest.bigEndian 8 n.toUInt64.toNat

def textHeader (n : Nat) : Bytes :=
  if n < 32 then [(0xA0 + n).toUInt8]
  else if n < 0x100 then 0xD9 :: Digest.bigEndian 1 n
  else if n < 0x10000 then 0xDA :: Digest.bigEndian 2 n
  else 0xDB :: Digest.bigEndian 4 n

def text (s : Bytes) : Bytes := textHeader s.length ++ s

def listHeader (n : Nat) : Bytes :=
  if n < 16 then [(0x90 + n).toUInt8]
  else if n < 0x10000 then 0xDC :: Digest.bigEndian 2 n
  else 0xDD :: Digest.bigEndian 4 n

def list {α : Type} (item : α → Bytes) (xs : List α) : Bytes := listHeader xs.length ++ xs.flatMap item

def list? {α : Type} (item : α → Bytes) : Option (List α) → Bytes
  | none => nil
  | some xs => list item xs

/-- A map from names to encoded values; there are fewer than sixteen. -/
def fields (fs : List (String × Bytes)) : Bytes :=
  [(0x80 + fs.length).toUInt8] ++ fs.flatMap fun (name, value) => text (bytes name) ++ value

def block (b : OutlineBlock) : Bytes :=
  fields [("start", word32 b.start), ("len", word32 b.len), ("preds", list? word32 b.preds),
    ("succs", list? word32 b.succs)]

def outline (o : Outline) : Bytes :=
  fields ([("name", text o.name), ("units", list? text o.units), ("blocks", list? block o.blocks),
      ("heads", list? word32 o.heads), ("tails", list? word32 o.tails)] ++
    if o.orphanList.isEmpty then [] else [("orphans", list word32 o.orphanList)])

def bodyRecord (b : BodyRecord) : Bytes :=
  fields ([("name", text b.name)] ++
    (match b.outline with
      | some o => [("snapshot", outline o)]
      | none => []) ++
    if b.error.isEmpty then [] else [("err", text b.error)])

def record (r : Record) : Bytes :=
  fields [("schema", word16 r.schema), ("file", text r.file), ("graph", text r.graph),
    ("policy", text r.policy), ("bodies", list? bodyRecord r.bodies), ("written", int64 r.written)]

end FlowBlocks.Pack

namespace FlowBlocks.Record

/-- The stored form of a record that was stamped. -/
def encode (r : Record) : Bytes := Pack.record r

end FlowBlocks.Record
