import Mathlib.Algebra.Order.Ring.Nat
import FlowBlocks.Record.Decode
import FlowBlocks.Record.Encode
/-!
Stored records read back. Every encoder has a reader that takes its bytes off the front of any text and
leaves the rest, as long as lengths fit into the 32 bits that a header has for them.
-/
namespace FlowBlocks

section Numbers

theorem length_bigEndian (width n : Nat) : (Digest.bigEndian width n).length = width := by
  induction width generalizing n with
  | zero => rfl
  | succ width ih => rw [Digest.bigEndian, List.length_append, ih, List.length_singleton]

theorem value_append (s : Bytes) (b : UInt8) :
    Unpack.value (s ++ [b]) = Unpack.value s * 256 + b.toNat := by
  simp [Unpack.value]

theorem value_bigEndian {width n : Nat} (h : n < 256 ^ width) :
    Unpack.value (Digest.bigEndian width n) = n := by
  induction width generalizing n with
  | zero =>
      rw [Nat.pow_zero] at h
      rw [Nat.lt_one_iff.mp h]
      rfl
  | succ width ih =>
      have hdiv : n / 256 < 256 ^ width := Nat.div_lt_of_lt_mul (by rw [Nat.mul_comm]; exact h)
      have hmod : (n % 256).toUInt8.toNat = n % 256 :=
        UInt8.toNat_ofNat_of_lt (Nat.mod_lt n (by decide))
      rw [Digest.bigEndian, value_append, ih hdiv, hmod]
      exact Nat.div_add_mod' n 256

theorem take_append {n : Nat} {s : Bytes} (h : s.length = n) (rest : Bytes) :
    Unpack.take n (s ++ rest) = some (s, rest) := by
  subst h
  simp only [Unpack.take, List.take_left, List.drop_left, Nat.lt_irrefl, if_false]

theorem unsigned_append (width : Nat) {n : Nat} (h : n < 256 ^ width) (rest : Bytes) :
    Unpack.unsigned width (Digest.bigEndian width n ++ rest) = some (n, rest) := by
  simp only [Unpack.unsigned, take_append (length_bigEndian width n), Option.map_some, value_bigEndian h]

theorem integer_word16 (n : UInt16) (rest : Bytes) :
    Unpack.integer (Pack.word16 n ++ rest) = some ((n.toNat : Int), rest) := by
  have hread : Unpack.unsigned 2 (Digest.bigEndian 2 n.toNat ++ rest) = some (n.toNat, rest) :=
    unsigned_append 2 n.toNat_lt rest
  simp [Unpack.integer, Unpack.code, Pack.word16, hread]

theorem word32_append (n : UInt32) (rest : Bytes) :
    Unpack.word32 (Pack.word32 n ++ rest) = some (n, rest) := by
  have hread : Unpack.unsigned 4 (Digest.bigEndian 4 n.toNat ++ rest) = some (n.toNat, rest) :=
    unsigned_append 4 n.toNat_lt rest
  have hlt : n.toNat < 0x100000000 := n.toNat_lt
  have hmod : (((n.toNat : Int) % 0x100000000).toNat).toUInt32 = n := by
    rw [Int.emod_eq_of_lt (by omega) (by omega), Int.toNat_natCast]
    exact UInt32.ofNat_toNat
  simp [Unpack.word32, Unpack.integer, Unpack.code, Pack.word32, hread, hmod]

theorem integer_int64 (n : Int64) (rest : Bytes) :
    Unpack.integer (Pack.int64 n ++ rest) = some (n.toInt, rest) := by
  have hread : Unpack.unsigned 8 (Digest.bigEndian 8 n.toUInt64.toNat ++ rest) =
      some (n.toUInt64.toNat, rest) := unsigned_append 8 n.toUInt64.toNat_lt rest
  have hsign : n.toInt = if n.toUInt64.toNat < 9223372036854775808 then (n.toUInt64.toNat : Int)
      else (n.toUInt64.toNat : Int) - 18446744073709551616 := by
    change n.toBitVec.toInt = if n.toBitVec.toNat < _ then (n.toBitVec.toNat : Int)
      else (n.toBitVec.toNat : Int) - _
    rw [BitVec.toInt_eq_toNat_cond]
    split <;> split <;> omega
  simp [Unpack.integer, Unpack.code, Unpack.signed, Pack.int64, hread, hsign]

end Numbers

section Headers

theorem textLength_short {n : Nat} (h : n < 32) (s : Bytes) :
    Unpack.textLength (0xA0 + n).toUInt8 s = some (some n, s) := by
  have hcode : ∀ n < 32, (0xA0 + n).toUInt8 ≠ 0xC0 ∧ 0xA0 ≤ (0xA0 + n).toUInt8 ∧
      (0xA0 + n).toUInt8 ≤ 0xBF ∧ ((0xA0 + n).toUInt8 - 0xA0).toNat = n := by decide
  obtain ⟨hnil, hlow, hhigh, hval⟩ := hcode n h
  simp only [Unpack.textLength, if_neg hnil, hlow, hhigh, decide_true, Bool.and_self, if_true, hval]

/-- A text of up to 2^32 - 1 bytes is read back. -/
theorem text_append {s : Bytes} (h : s.length < 0x100000000) (rest : Bytes) :
    Unpack.text (Pack.text s ++ rest) = some (s, rest) := by
  have htake := take_append (rfl : s.length = s.length) rest
  unfold Pack.text Pack.textHeader
  split
  · next hlt =>
      simp only [Unpack.text, List.cons_append, List.nil_append, Unpack.code, textLength_short hlt, htake]
  · split
    · next hlt =>
        have hread := unsigned_append 1 (by omega : s.length < 256 ^ 1) (s ++ rest)
        simp [Unpack.text, Unpack.code, Unpack.textLength, hread, htake]
    · split
      · next hlt =>
          have hread := unsigned_append 2 (by omega : s.length < 256 ^ 2) (s ++ rest)
          simp [Unpack.text, Unpack.code, Unpack.textLength, hread, htake]
      · have hread := unsigned_append 4 (by omega : s.length < 256 ^ 4) (s ++ rest)
        simp [Unpack.text, Unpack.code, Unpack.textLength, hread, htake]

theorem listLength_short {n : Nat} (h : n < 16) (s : Bytes) :
    Unpack.listLength (0x90 + n).toUInt8 s = some (some n, s) := by
  have hcode : ∀ n < 16, (0x90 + n).toUInt8 ≠ 0xC0 ∧ 0x90 ≤ (0x90 + n).toUInt8 ∧
      (0x90 + n).toUInt8 ≤ 0x9F ∧ ((0x90 + n).toUInt8 - 0x90).toNat = n := by decide
  obtain ⟨hnil, hlow, hhigh, hval⟩ := hcode n h
  simp only [Unpack.listLength, if_neg hnil, hlow, hhigh, decide_true, Bool.and_self, if_true, hval]

theorem mapLength_short {n : Nat} (h : n < 16) (s : Bytes) :
    Unpack.mapLength (0x80 + n).toUInt8 s = some (some n, s) := by
  have hcode : ∀ n < 16, (0x80 + n).toUInt8 ≠ 0xC0 ∧ 0x80 ≤ (0x80 + n).toUInt8 ∧
      (0x80 + n).toUInt8 ≤ 0x8F ∧ ((0x80 + n).toUInt8 - 0x80).toNat = n := by decide
  obtain ⟨hnil, hlow, hhigh, hval⟩ := hcode n h
  simp only [Unpack.mapLength, if_neg hnil, hlow, hhigh, decide_true, Bool.and_self, if_true, hval]

/-- The header of a list is a code and a length behind it. -/
theorem listHeader_append {n : Nat} (h : n < 0x100000000) (rest : Bytes) :
    ∃ c tail, Pack.listHeader n ++ rest = c :: tail ∧ Unpack.listLength c tail = some (some n, rest) := by
  unfold Pack.listHeader
  split
  · next hlt => exact ⟨_, rest, rfl, listLength_short hlt rest⟩
  · split
    · next hlt =>
        refine ⟨0xDC, _, rfl, ?_⟩
        simp [Unpack.listLength, unsigned_append 2 (by omega : n < 256 ^ 2) rest]
    · refine ⟨0xDD, _, rfl, ?_⟩
      simp [Unpack.listLength, unsigned_append 4 (by omega : n < 256 ^ 4) rest]

end Headers

section Lists

variable {α β : Type}

/-- Elements written one after the other are read one after the other, over nothing. -/
theorem readItems_append {zero : β} {item : β → Unpack.Reader β} {enc : α → Bytes} {f : α → β}
    {xs : List α} (h : ∀ x ∈ xs, ∀ rest, item zero (enc x ++ rest) = some (f x, rest)) (rest : Bytes) :
    Unpack.readItems zero item xs.length [] (xs.flatMap enc ++ rest) = some (xs.map f, rest) := by
  induction xs with
  | nil => rfl
  | cons x xs ih =>
      have hx := h x List.mem_cons_self (xs.flatMap enc ++ rest)
      have hxs := ih fun y hy => h y (List.mem_cons_of_mem x hy)
      simp only [List.length_cons, Unpack.readItems, List.head?_nil, Option.getD_none, List.flatMap_cons,
        List.append_assoc, hx, Option.bind_some, List.tail_nil, hxs, Option.map_some, List.map_cons]

theorem shelf_append {zero : β} {item : β → Unpack.Reader β} {enc : α → Bytes} {f : α → β}
    {xs : List α} (hlen : xs.length < 0x100000000)
    (h : ∀ x ∈ xs, ∀ rest, item zero (enc x ++ rest) = some (f x, rest)) (rest : Bytes) :
    Unpack.Shelf.read zero item none (Pack.list enc xs ++ rest) = some (some ⟨xs.map f, []⟩, rest) := by
  obtain ⟨c, tail, hheader, hlength⟩ := listHeader_append hlen (xs.flatMap enc ++ rest)
  rw [Pack.list, List.append_assoc, hheader]
  simp only [Unpack.Shelf.read, Unpack.code, hlength, Option.getD_none, Unpack.Shelf.all, List.append_nil,
    readItems_append h, Option.map_some, List.drop_nil]

/-- A list that may be missing, as a shelf without spare elements. -/
theorem shelf?_append {zero : β} {item : β → Unpack.Reader β} {enc : α → Bytes} {f : α → β}
    {xs : Option (List α)} (hlen : ∀ l ∈ xs, l.length < 0x100000000)
    (h : ∀ l ∈ xs, ∀ x ∈ l, ∀ rest, item zero (enc x ++ rest) = some (f x, rest)) (rest : Bytes) :
    Unpack.Shelf.read zero item none (Pack.list? enc xs ++ rest) =
      some (xs.map fun l => ⟨l.map f, []⟩, rest) := by
  cases xs with
  | none => rfl
  | some l => exact shelf_append (hlen l rfl) (h l rfl) rest

theorem list?_append {zero : α} {item : Unpack.Reader α} {enc : α → Bytes} {xs : Option (List α)}
    (hlen : ∀ l ∈ xs, l.length < 0x100000000)
    (h : ∀ l ∈ xs, ∀ x ∈ l, ∀ rest, item (enc x ++ rest) = some (x, rest)) (rest : Bytes) :
    Unpack.list zero item (Pack.list? enc xs ++ rest) = some (xs, rest) := by
  have hread : Unpack.Shelf.read zero (fun _ => item) none (Pack.list? enc xs ++ rest) =
      some (xs.map fun l => ⟨l.map id, []⟩, rest) := shelf?_append hlen h rest
  rw [Unpack.list, hread]
  cases xs with
  | none => rfl
  | some l => simp

theorem wordList_append {xs : Option (List UInt32)} (hlen : ∀ l ∈ xs, l.length < 0x100000000)
    (rest : Bytes) : Unpack.wordList (Pack.list? Pack.word32 xs ++ rest) = some (xs, rest) :=
  list?_append hlen (fun _ _ n _ => word32_append n) rest

end Lists

section Fields

variable {σ : Type}

/-- Named values that take a structure from one state to another when they are read in order. -/
inductive Fill (fs : List (Unpack.Field σ)) : List (String × Bytes) → σ → σ → Prop
  | nil (state : σ) : Fill fs [] state state
  | cons {f : Unpack.Field σ} {name : String} {value : Bytes} {kvs : List (String × Bytes)}
      {state state' last : σ} (short : (bytes name).length < 0x100000000)
      (known : fs.find? (fun f => bytes f.name == bytes name) = some f)
      (read : ∀ rest, f.read state (value ++ rest) = some (state', rest)) (later : Fill fs kvs state' last) :
      Fill fs ((name, value) :: kvs) state last

/-- Reading a field sets it. -/
theorem Fill.set {α : Type} {fs : List (Unpack.Field σ)} {name name' : String} {value : Bytes}
    {kvs : List (String × Bytes)} {state last : σ} {reader : σ → Unpack.Reader α} {set : σ → α → σ} {a : α}
    (short : (bytes name).length < 0x100000000)
    (known : fs.find? (fun f => bytes f.name == bytes name) = some (Unpack.field name' reader set))
    (read : ∀ rest, reader state (value ++ rest) = some (a, rest)) (later : Fill fs kvs (set state a) last) :
    Fill fs ((name, value) :: kvs) state last := by
  refine .cons short known (fun rest => ?_) later
  simp only [Unpack.field, read, Option.map_some]

theorem Fill.append {fs : List (Unpack.Field σ)} {kvs kvs' : List (String × Bytes)} {a b c : σ}
    (h : Fill fs kvs a b) (h' : Fill fs kvs' b c) : Fill fs (kvs ++ kvs') a c := by
  induction h with
  | nil => exact h'
  | cons short known read _ ih => exact .cons short known read (ih h')

theorem Fill.readNamed {fs : List (Unpack.Field σ)} {kvs : List (String × Bytes)} {state last : σ}
    (h : Fill fs kvs state last) (rest : Bytes) :
    Unpack.readNamed fs kvs.length state
      ((kvs.flatMap fun (name, value) => Pack.text (bytes name) ++ value) ++ rest) = some (last, rest) := by
  induction h with
  | nil => rfl
  | cons short known read _ ih =>
      simp only [List.length_cons, Unpack.readNamed, List.flatMap_cons, List.append_assoc,
        text_append short, known, read, Option.bind_some]
      exact ih

/-- A structure of fewer than sixteen fields is read back if its fields are. -/
theorem Fill.structured {fs : List (Unpack.Field σ)} {kvs : List (String × Bytes)} {zero state last : σ}
    (h : Fill fs kvs state last) (hlen : kvs.length < 16) (rest : Bytes) :
    Unpack.structured zero fs state (Pack.fields kvs ++ rest) = some (last, rest) := by
  rw [Pack.fields, List.append_assoc]
  simp only [Unpack.structured, List.cons_append, List.nil_append, Unpack.code, mapLength_short hlen]
  exact h.readNamed rest

end Fields

/-- What the headers of the lists of a block can hold. -/
def OutlineBlock.Fits (b : OutlineBlock) : Prop :=
  b.predList.length < 0x100000000 ∧ b.succList.length < 0x100000000

instance : DecidablePred OutlineBlock.Fits := fun _ => inferInstanceAs (Decidable (_ ∧ _))

/-- What the headers of the texts and lists of an outline can hold. -/
def Outline.Fits (o : Outline) : Prop :=
  o.name.length < 0x100000000 ∧
    (o.unitList.length < 0x100000000 ∧ ∀ u ∈ o.unitList, u.length < 0x100000000) ∧
    (o.blockList.length < 0x100000000 ∧ ∀ b ∈ o.blockList, b.Fits) ∧
    o.headList.length < 0x100000000 ∧ o.tailList.length < 0x100000000 ∧
    o.orphanList.length < 0x100000000

instance : DecidablePred Outline.Fits := fun _ => inferInstanceAs (Decidable (_ ∧ _))

/-- Orphans are not listed where there are none: an empty list is stored as a missing one. -/
def BodyRecord.Listed (b : BodyRecord) : Prop := ∀ o ∈ b.outline, o.orphans ≠ some []

def BodyRecord.Fits (b : BodyRecord) : Prop :=
  b.name.length < 0x100000000 ∧ (∀ o ∈ b.outline, o.Fits) ∧ b.error.length < 0x100000000

instance : DecidablePred BodyRecord.Fits := fun _ => inferInstanceAs (Decidable (_ ∧ _))

/-- No text or list of the record is longer than a header can say. -/
def Record.Fits (r : Record) : Prop :=
  r.file.length < 0x100000000 ∧ r.graph.length < 0x100000000 ∧ r.policy.length < 0x100000000 ∧
    (r.bodies.getD []).length < 0x100000000 ∧ ∀ b ∈ r.bodies.getD [], b.Fits

instance : DecidablePred Record.Fits := fun _ => inferInstanceAs (Decidable (_ ∧ _))

section Structures

variable {α : Type}

theorem length_lt_of_getD {xs : Option (List α)} {n : Nat} (h : (xs.getD []).length < n) :
    ∀ l ∈ xs, l.length < n := by
  rintro l ⟨⟩
  exact h

theorem block_append {b : OutlineBlock} (h : b.Fits) (rest : Bytes) :
    Unpack.structured {} Unpack.blockFields {} (Pack.block b ++ rest) = some (b, rest) := by
  refine Fill.structured ?_ (Nat.lt_of_sub_eq_succ rfl) rest
  refine .set (by decide) rfl (word32_append b.start) ?_
  refine .set (by decide) rfl (word32_append b.len) ?_
  refine .set (by decide) rfl (wordList_append (length_lt_of_getD h.1)) ?_
  refine .set (by decide) rfl (wordList_append (length_lt_of_getD h.2)) ?_
  exact .nil b

theorem textList_append {xs : Option (List Bytes)} (hlen : ∀ l ∈ xs, l.length < 0x100000000)
    (h : ∀ l ∈ xs, ∀ s ∈ l, s.length < 0x100000000) (rest : Bytes) :
    Unpack.textList none (Pack.list? Pack.text xs ++ rest) = some (xs, rest) := by
  have hread : Unpack.list [] Unpack.text (Pack.list? Pack.text xs ++ rest) = some (xs, rest) :=
    list?_append hlen (fun l hl s hs => text_append (h l hl s hs)) rest
  simp only [Unpack.textList, hread, Option.map_some, Option.or_none]

/-- An outline as reading leaves it, with no spare blocks. -/
def Outline.draft (o : Outline) : Unpack.OutlineDraft :=
  ⟨{ o with blocks := none }, o.blocks.map fun l => ⟨l, []⟩⟩

theorem Outline.finish_draft (o : Outline) : o.draft.finish = o := by
  obtain ⟨name, units, blocks, heads, tails, orphans⟩ := o
  cases blocks <;> rfl

theorem outline_fields {o : Outline} (h : o.Fits) :
    Fill Unpack.outlineFields [("name", Pack.text o.name), ("units", Pack.list? Pack.text o.units),
      ("blocks", Pack.list? Pack.block o.blocks), ("heads", Pack.list? Pack.word32 o.heads),
      ("tails", Pack.list? Pack.word32 o.tails)] {} { o with orphans := none }.draft := by
  obtain ⟨hname, ⟨hunits, htexts⟩, ⟨hblocks, hfit⟩, hheads, htails, -⟩ := h
  refine .set (by decide) rfl (text_append hname) ?_
  refine .set (by decide) rfl (textList_append (length_lt_of_getD hunits) ?_) ?_
  · rintro l hl
    rw [Outline.unitList, hl] at htexts
    exact htexts
  refine .set (by decide) rfl (shelf?_append (f := id) (length_lt_of_getD hblocks) ?_) ?_
  · rintro l hl b hb
    rw [Outline.blockList, hl] at hfit
    exact block_append (hfit b hb)
  refine .set (by decide) rfl (wordList_append (length_lt_of_getD hheads)) ?_
  refine .set (by decide) rfl (wordList_append (length_lt_of_getD htails)) ?_
  have hshelf : (o.blocks.map fun l => (⟨l.map id, []⟩ : Unpack.Shelf OutlineBlock)) =
      o.blocks.map fun l => ⟨l, []⟩ := by simp only [List.map_id]
  simp only [hshelf]
  exact .nil _

theorem outline_append {o : Outline} (h : o.Fits) (hlisted : o.orphans ≠ some []) (rest : Bytes) :
    Unpack.structured {} Unpack.outlineFields {} (Pack.outline o ++ rest) = some (o.draft, rest) := by
  have hmain := outline_fields h
  obtain ⟨-, -, -, -, -, horphans⟩ := h
  unfold Pack.outline
  by_cases hnone : o.orphans = none
  · have hempty : o.orphanList.isEmpty = true := by rw [Outline.orphanList, hnone]; rfl
    have hself : { o with orphans := none } = o := by rw [← hnone]
    rw [if_pos hempty, List.append_nil]
    rw [hself] at hmain
    exact hmain.structured (Nat.lt_of_sub_eq_succ rfl) rest
  · obtain ⟨l, hl⟩ := Option.ne_none_iff_exists'.mp hnone
    have hlist : o.orphanList = l := by rw [Outline.orphanList, hl]; rfl
    have hne : o.orphanList.isEmpty = false := by
      rw [hlist, List.isEmpty_eq_false_iff]
      rintro rfl
      exact hlisted hl
    have hread : ∀ rest, Unpack.wordList (Pack.list Pack.word32 o.orphanList ++ rest) =
        some (some l, rest) := by
      rw [hlist] at horphans ⊢
      have hfits : ∀ m ∈ some l, m.length < 0x100000000 := length_lt_of_getD horphans
      exact wordList_append hfits
    have hself : { o with orphans := some l } = o := by rw [← hl]
    rw [if_neg (by rw [hne]; exact Bool.false_ne_true)]
    refine (hmain.append (.set (by decide) rfl hread ?_)).structured (Nat.lt_of_sub_eq_succ rfl) rest
    rw [← hself]
    exact .nil _

theorem Unpack.outline?_cons (before : Option Unpack.OutlineDraft) {c : UInt8} (hne : c ≠ 0xC0) (s : Bytes) :
    Unpack.outline? before (c :: s) =
      (Unpack.structured {} Unpack.outlineFields (before.getD {}) (c :: s)).map fun p => (some p.1, p.2) := by
  unfold Unpack.outline?
  split
  · next hc => exact absurd (List.cons.inj hc).1 hne
  · rfl

theorem outline?_append {o : Outline} (h : o.Fits) (hlisted : o.orphans ≠ some []) (rest : Bytes) :
    Unpack.outline? none (Pack.outline o ++ rest) = some (some o.draft, rest) := by
  have hread := outline_append h hlisted rest
  have hcode : ∃ c tail, Pack.outline o ++ rest = c :: tail ∧ c ≠ 0xC0 := by
    unfold Pack.outline
    split
    · exact ⟨0x85, _, rfl, by decide⟩
    · exact ⟨0x86, _, rfl, by decide⟩
  obtain ⟨c, tail, heq, hne⟩ := hcode
  rw [heq] at hread ⊢
  rw [Unpack.outline?_cons none hne, Option.getD_none, hread]
  rfl

/-- What is kept of a body, as reading leaves it. -/
def BodyRecord.draft (b : BodyRecord) : Unpack.BodyDraft := ⟨b.name, b.outline.map Outline.draft, b.error⟩

theorem BodyRecord.finish_draft (b : BodyRecord) : b.draft.finish = b := by
  obtain ⟨name, outline, error⟩ := b
  cases outline with
  | none => rfl
  | some o =>
      change (⟨name, some o.draft.finish, error⟩ : BodyRecord) = _
      rw [o.finish_draft]

theorem bodyRecord_append {b : BodyRecord} (h : b.Fits) (hlisted : b.Listed) (rest : Bytes) :
    Unpack.structured {} Unpack.bodyFields {} (Pack.bodyRecord b ++ rest) = some (b.draft, rest) := by
  obtain ⟨hname, houtline, herror⟩ := h
  have herr : ∀ d : Unpack.BodyDraft, d.error = [] → Fill Unpack.bodyFields
      (if b.error.isEmpty then [] else [("err", Pack.text b.error)]) d { d with error := b.error } := by
    intro d hd
    split
    · next he =>
        rw [List.isEmpty_iff.mp he, ← hd]
        exact .nil d
    · exact .set (by decide) rfl (text_append herror) (.nil _)
  unfold Pack.bodyRecord
  refine Fill.structured (Fill.append (b := ⟨b.name, b.outline.map Outline.draft, []⟩) ?_ (herr _ rfl)) ?_ rest
  · refine .set (by decide) rfl (text_append hname) ?_
    cases ho : b.outline with
    | none => exact .nil _
    | some o => exact .set (by decide) rfl (outline?_append (houtline o ho) (hlisted o ho)) (.nil _)
  · cases b.outline <;> cases b.error.isEmpty <;> exact Nat.lt_of_sub_eq_succ rfl

/-- A record that fits is read back, whatever follows it. -/
theorem record_append {r : Record} (h : r.Fits) (hlisted : ∀ b ∈ r.bodies.getD [], b.Listed) (rest : Bytes) :
    Unpack.record (r.encode ++ rest) = some (r, rest) := by
  obtain ⟨hfile, hgraph, hpolicy, hbodies, hfit⟩ := h
  have hschema : ((r.schema.toNat : Int) % 0x10000).toNat.toUInt16 = r.schema := by
    have hlt : r.schema.toNat < 0x10000 := r.schema.toNat_lt
    rw [Int.emod_eq_of_lt (by omega) (by omega), Int.toNat_natCast]
    exact UInt16.ofNat_toNat
  have hread : Unpack.structured {} Unpack.recordFields {} (Pack.record r ++ rest) =
      some (⟨{ r with bodies := none }, r.bodies.map fun l => ⟨l.map BodyRecord.draft, []⟩⟩, rest) := by
    refine Fill.structured ?_ (Nat.lt_of_sub_eq_succ rfl) rest
    refine .set (by decide) rfl (integer_word16 r.schema) ?_
    refine .set (by decide) rfl (text_append hfile) ?_
    refine .set (by decide) rfl (text_append hgraph) ?_
    refine .set (by decide) rfl (text_append hpolicy) ?_
    refine .set (by decide) rfl (shelf?_append (f := BodyRecord.draft) (length_lt_of_getD hbodies) ?_) ?_
    · rintro l hl b hb
      rw [hl] at hfit hlisted
      exact bodyRecord_append (hfit b hb) (hlisted b hb)
    refine .set (by decide) rfl (integer_int64 r.written) ?_
    simp only [hschema, Int64.ofInt_toInt]
    exact .nil _
  change (Unpack.structured {} Unpack.recordFields {} (Pack.record r ++ rest)).map _ = _
  rw [hread]
  obtain ⟨schema, file, graph, policy, bodies, written⟩ := r
  cases bodies with
  | none => rfl
  | some l =>
      simp [Unpack.Draft.finish, Function.comp_def, BodyRecord.finish_draft]

end Structures

end FlowBlocks
