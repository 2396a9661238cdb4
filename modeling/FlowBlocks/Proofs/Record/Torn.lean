import Mathlib.Tactic.IntervalCases
import FlowBlocks.Proofs.Record.Canonical
/-!
Records that are cut short or followed by other bytes. A reader that succeeds has looked only at the bytes it
took off the front: with more bytes behind them it gives the same value and leaves these bytes as well. So a
stored record is read the same whatever follows it, and no part of it short of the whole is a record.
-/
namespace FlowBlocks.Unpack

/-- What is read stays read, whatever follows. -/
def Steady {α : Type} (read : Reader α) : Prop :=
  ∀ ⦃s : Bytes⦄ ⦃a : α⦄ ⦃rest : Bytes⦄, read s = some (a, rest) → ∀ t, read (s ++ t) = some (a, rest ++ t)

section Readers

variable {α β σ : Type}

theorem steady_pure (a : α) : Steady fun s => some (a, s) := by
  rintro s a rest ⟨⟩ t
  rfl

theorem steady_none : Steady (fun _ => none : Reader α) := nofun

theorem Steady.bind {read : Reader α} {next : α → Reader β} (h : Steady read)
    (hnext : ∀ a, Steady (next a)) : Steady fun s => (read s).bind fun p => next p.1 p.2 := by
  intro s b rest hread t
  obtain ⟨⟨a, mid⟩, ha, hb⟩ := Option.bind_eq_some_iff.mp hread
  dsimp only
  rw [h ha t]
  exact hnext a hb t

theorem Steady.map {read : Reader α} (h : Steady read) (f : α → β) :
    Steady fun s => (read s).map fun p => (f p.1, p.2) := by
  intro s b rest hread t
  obtain ⟨⟨a, mid⟩, ha, ⟨⟩⟩ := Option.map_eq_some_iff.mp hread
  dsimp only
  rw [h ha t]
  rfl

theorem Steady.ite {p : Prop} [Decidable p] {read other : Reader α} (h : Steady read) (h' : Steady other) :
    Steady fun s => if p then read s else other s := by
  by_cases hp : p
  · simpa only [if_pos hp] using h
  · simpa only [if_neg hp] using h'

/-- A reader that takes a code first, by what it does behind each code. -/
theorem Steady.of_code {read : Reader α} (hnil : read [] = none)
    (h : ∀ c, Steady fun rest => read (c :: rest)) : Steady read := by
  intro s a rest hread t
  cases s with
  | nil => rw [hnil] at hread; cases hread
  | cons c s => exact h c hread t

theorem steady_take (n : Nat) : Steady (take n) := by
  intro s front rest h t
  unfold take at h ⊢
  dsimp only at h ⊢
  split at h
  · cases h
  · next hlen =>
      cases h
      rw [List.length_take] at hlen
      have hle : n ≤ s.length := by omega
      rw [List.take_append_of_le_length hle, List.drop_append_of_le_length hle, List.length_take,
        if_neg (by omega)]

theorem steady_unsigned (n : Nat) : Steady (unsigned n) := (steady_take n).map value

theorem steady_signed (n : Nat) : Steady (signed n) :=
  (steady_unsigned n).map fun v =>
    if v < Nat.pow 2 (8 * n - 1) then (v : Int) else (v : Int) - Nat.pow 2 (8 * n)

theorem steady_integer : Steady integer := by
  refine Steady.of_code rfl fun c => ?_
  change Steady fun rest => if c = 0xC0 then _ else _
  refine (steady_pure _).ite (.ite (steady_pure _) (.ite (steady_pure _) (.ite ?_ (.ite ?_ steady_none))))
  · exact (steady_unsigned _).map _
  · exact steady_signed _

theorem steady_sized (n : Nat) : Steady fun s => (unsigned n s).map fun p => (some p.1, p.2) :=
  (steady_unsigned n).map some

theorem steady_textLength (c : UInt8) : Steady (textLength c) :=
  (steady_pure _).ite ((steady_pure _).ite
    ((steady_sized 1).ite ((steady_sized 2).ite ((steady_sized 4).ite steady_none))))

theorem steady_listLength (c : UInt8) : Steady (listLength c) :=
  (steady_pure _).ite ((steady_pure _).ite ((steady_sized 2).ite ((steady_sized 4).ite steady_none)))

theorem steady_mapLength (c : UInt8) : Steady (mapLength c) :=
  (steady_pure _).ite ((steady_pure _).ite ((steady_sized 2).ite ((steady_sized 4).ite steady_none)))

/-- A reader that takes a length first; nil has none. -/
theorem Steady.behind_length {length : Reader (Option Nat)} {absent : Reader α} {next : Nat → Reader α}
    (h : Steady length) (habsent : Steady absent) (hnext : ∀ n, Steady (next n)) :
    Steady fun s => match length s with
      | none => none
      | some (none, rest) => absent rest
      | some (some n, rest) => next n rest := by
  intro s a rest hread t
  dsimp only at hread ⊢
  split at hread
  · cases hread
  · next hlen =>
      rw [h hlen t]
      exact habsent hread t
  · next n _ hlen =>
      rw [h hlen t]
      exact hnext n hread t

theorem steady_text : Steady text :=
  Steady.of_code rfl fun c => (steady_textLength c).behind_length (steady_pure _) steady_take

end Readers

/-! ### Codes

No code is of two kinds: where one length is given, the others are refused whatever follows. -/

theorem code_of_length {c low high wide wider : UInt8} {short n : Nat} {s rest : Bytes}
    {sized sized' : Option (Option Nat × Bytes)}
    (h : (if c = 0xC0 then some (none, s) else if low ≤ c && c ≤ high then some (some short, s)
      else if c = wide then sized else if c = wider then sized' else none) = some (some n, rest)) :
    (low.toNat ≤ c.toNat ∧ c.toNat ≤ high.toNat) ∨ c = wide ∨ c = wider := by
  simp only [Bool.and_eq_true, decide_eq_true_eq, UInt8.le_iff_toNat_le] at h
  split at h
  · cases h
  split at h
  · next hc => exact .inl hc
  split at h
  · next hc => exact .inr (.inl hc)
  split at h
  · next hc => exact .inr (.inr hc)
  · cases h

/-- Checks a fact about codes of a range one by one. -/
theorem forall_code {P : UInt8 → Prop} {low high : Nat} (h : ∀ k, low ≤ k → k ≤ high → P (UInt8.ofNat k))
    {c : UInt8} (hc : low ≤ c.toNat ∧ c.toNat ≤ high) : P c := by
  simpa using h c.toNat hc.1 hc.2

theorem listLength_apart {c : UInt8} {s rest : Bytes} {n : Nat} (h : listLength c s = some (some n, rest))
    (t : Bytes) : plainLength c t = none ∧ mapLength c t = none := by
  unfold listLength at h
  obtain hc | rfl | rfl := code_of_length h
  · refine forall_code (P := fun c => plainLength c t = none ∧ mapLength c t = none) ?_ hc
    intro k hlow hhigh
    change 0x90 ≤ k at hlow
    change k ≤ 0x9F at hhigh
    interval_cases k <;> exact ⟨rfl, rfl⟩
  · exact ⟨rfl, rfl⟩
  · exact ⟨rfl, rfl⟩

theorem mapLength_apart {c : UInt8} {s rest : Bytes} {n : Nat} (h : mapLength c s = some (some n, rest))
    (t : Bytes) : plainLength c t = none ∧ listLength c t = none := by
  unfold mapLength at h
  obtain hc | rfl | rfl := code_of_length h
  · refine forall_code (P := fun c => plainLength c t = none ∧ listLength c t = none) ?_ hc
    intro k hlow hhigh
    change 0x80 ≤ k at hlow
    change k ≤ 0x8F at hhigh
    interval_cases k <;> exact ⟨rfl, rfl⟩
  · exact ⟨rfl, rfl⟩
  · exact ⟨rfl, rfl⟩

theorem steady_plainLength (c : UInt8) : Steady (plainLength c) := by
  refine (steady_pure _).ite (.ite (steady_pure _) (.ite (steady_pure _) (.ite (steady_pure _)
    (.ite (steady_pure _) (.ite (steady_pure _) (.ite ?_ ?_))))))
  · exact (steady_unsigned _).map (· + 1)
  · intro s n rest h t
    dsimp only at h ⊢
    split at h
    · next hlen =>
        cases h
        rw [steady_textLength c hlen t]
    · cases h

theorem steady_code : Steady code := Steady.of_code rfl fun c => steady_pure c

/-- More codes may be read than are needed. -/
theorem skipValues_append {fuel todo : Nat} {s rest : Bytes} (h : skipValues fuel todo s = some rest)
    (t : Bytes) {more : Nat} (hle : fuel ≤ more) : skipValues more todo (s ++ t) = some (rest ++ t) := by
  fun_induction skipValues fuel todo s generalizing more with
  | case1 =>
      cases h
      rw [skipValues]
  | case2 | case3 | case7 => cases h
  | case4 fuel todo s c behind hcode n left hplain ih =>
      obtain ⟨more, rfl⟩ := Nat.exists_eq_add_of_lt hle
      obtain ⟨⟨front, left'⟩, htake, hskip⟩ := Option.bind_eq_some_iff.mp h
      simp only [skipValues, steady_code hcode t, steady_plainLength c hplain t, steady_take n htake t,
        Option.bind_some]
      exact ih _ hskip (by omega)
  | case5 fuel todo s c behind hcode hplain n left hlist ih =>
      obtain ⟨more, rfl⟩ := Nat.exists_eq_add_of_lt hle
      simp only [skipValues, steady_code hcode t, (listLength_apart hlist _).1, steady_listLength c hlist t]
      exact ih h (by omega)
  | case6 fuel todo s c behind hcode hplain n left hmap hlist ih =>
      obtain ⟨more, rfl⟩ := Nat.exists_eq_add_of_lt hle
      simp only [skipValues, steady_code hcode t, (mapLength_apart hmap _).1, (mapLength_apart hmap _).2,
        steady_mapLength c hmap t]
      exact ih h (by omega)

theorem skip_append {s rest : Bytes} (h : skip s = some rest) (t : Bytes) : skip (s ++ t) = some (rest ++ t) :=
  skipValues_append h t (by simp)

/-! ### Structures and lists -/

section Structures

variable {α σ : Type}

/-- The field is read the same whatever follows it, over every state. -/
def Field.Steady (f : Field σ) : Prop := ∀ state, Unpack.Steady (f.read state)

theorem steady_field {name : String} {read : σ → Reader α} {set : σ → α → σ} (h : ∀ state, Steady (read state)) :
    (field name read set).Steady :=
  fun state => (h state).map (set state)

theorem steady_readNamed {fs : List (Field σ)} (hfs : ∀ f ∈ fs, f.Steady) (n : Nat) (state : σ) :
    Steady (readNamed fs n state) := by
  induction n generalizing state with
  | zero => exact steady_pure state
  | succ n ih =>
      intro s last rest h t
      rw [readNamed] at h ⊢
      split at h
      · cases h
      · next name behind htext =>
          rw [steady_text htext t]
          dsimp only at h ⊢
          split at h
          · next f hf => exact (hfs f (List.mem_of_find?_eq_some hf) state).bind ih h t
          · obtain ⟨left, hskip, hnext⟩ := Option.bind_eq_some_iff.mp h
            rw [skip_append hskip t]
            exact ih state hnext t

theorem steady_readOrdered {fs : List (Field σ)} (hfs : ∀ f ∈ fs, f.Steady) (state : σ) :
    Steady (readOrdered fs state) := by
  induction fs generalizing state with
  | nil => exact steady_pure state
  | cons f fs ih =>
      obtain ⟨hf, hfs⟩ := List.forall_mem_cons.mp hfs
      exact (hf state).bind (ih hfs)

theorem steady_structured {fs : List (Field σ)} (hfs : ∀ f ∈ fs, f.Steady) (zero state : σ) :
    Steady (structured zero fs state) := by
  refine Steady.of_code rfl fun c => ?_
  intro s last rest h t
  dsimp only [structured, code] at h ⊢
  split at h
  · next hmap =>
      rw [steady_mapLength c hmap t]
      exact steady_pure zero h t
  · next n left hmap =>
      rw [steady_mapLength c hmap t]
      exact steady_readNamed hfs n state h t
  -- a map whose length is cut off is no list either, so this is a list whatever follows
  · split at h
    · next hlist =>
        rw [(listLength_apart hlist _).2, steady_listLength c hlist t]
        exact steady_pure zero h t
    · next n left hne hlist =>
        rw [(listLength_apart hlist _).2, steady_listLength c hlist t]
        cases n with
        | zero => exact (hne rfl).elim
        | succ n => exact (steady_readOrdered hfs state).ite steady_none h t
    · cases h

theorem steady_readItems {zero : α} {item : α → Reader α} (h : ∀ before, Steady (item before)) (n : Nat)
    (before : List α) : Steady (readItems zero item n before) := by
  induction n generalizing before with
  | zero => exact steady_pure []
  | succ n ih => exact (h _).bind fun x => (ih before.tail).map (x :: ·)

theorem Shelf.steady_read {zero : α} {item : α → Reader α} (h : ∀ before, Steady (item before))
    (before : Option (Shelf α)) : Steady (Shelf.read zero item before) := by
  refine Steady.of_code rfl fun c => (steady_listLength c).behind_length (steady_pure none) ?_
  intro n
  exact (steady_readItems h n (before.getD {}).all).map fun xs =>
    some (Shelf.mk xs ((before.getD {}).all.drop n))

theorem steady_list {zero : α} {item : Reader α} (h : Steady item) : Steady (list zero item) :=
  (Shelf.steady_read (fun _ => h) none).map (Option.map Shelf.shown)

end Structures

/-! ### Records -/

theorem steady_textList (before : Option (List Bytes)) : Steady (textList before) :=
  (steady_list steady_text).map (·.or before)

theorem steady_word32 : Steady word32 := steady_integer.map fun n => (n % 0x100000000).toNat.toUInt32

theorem steady_wordList : Steady wordList := steady_list steady_word32

theorem steady_blockFields : ∀ f ∈ blockFields, f.Steady := by
  simp only [blockFields, List.forall_mem_cons, List.not_mem_nil, false_implies, implies_true, and_true]
  exact ⟨steady_field fun _ => steady_word32, steady_field fun _ => steady_word32,
    steady_field fun _ => steady_wordList, steady_field fun _ => steady_wordList⟩

theorem steady_outlineFields : ∀ f ∈ outlineFields, f.Steady := by
  simp only [outlineFields, List.forall_mem_cons, List.not_mem_nil, false_implies, implies_true, and_true]
  exact ⟨steady_field fun _ => steady_text, steady_field fun d => steady_textList d.outline.units,
    steady_field fun d => Shelf.steady_read (steady_structured steady_blockFields {}) d.blocks,
    steady_field fun _ => steady_wordList, steady_field fun _ => steady_wordList,
    steady_field fun _ => steady_wordList⟩

theorem steady_outline? (before : Option OutlineDraft) : Steady (outline? before) := by
  refine Steady.of_code rfl fun c => ?_
  by_cases hc : c = 0xC0
  · subst hc
    exact steady_pure none
  · simp only [outline?_cons before hc]
    intro s d rest h t
    exact (steady_structured steady_outlineFields {} (before.getD {})).map some h t

theorem steady_bodyFields : ∀ f ∈ bodyFields, f.Steady := by
  simp only [bodyFields, List.forall_mem_cons, List.not_mem_nil, false_implies, implies_true, and_true]
  exact ⟨steady_field fun _ => steady_text, steady_field fun b => steady_outline? b.outline,
    steady_field fun _ => steady_text⟩

theorem steady_recordFields : ∀ f ∈ recordFields, f.Steady := by
  simp only [recordFields, List.forall_mem_cons, List.not_mem_nil, false_implies, implies_true, and_true]
  exact ⟨steady_field fun _ => steady_integer, steady_field fun _ => steady_text,
    steady_field fun _ => steady_text, steady_field fun _ => steady_text,
    steady_field fun d => Shelf.steady_read (steady_structured steady_bodyFields {}) d.bodies,
    steady_field fun _ => steady_integer⟩

theorem steady_record : Steady record := (steady_structured steady_recordFields {} {}).map Draft.finish

end FlowBlocks.Unpack

namespace FlowBlocks

namespace Record

theorem decode_append {r : Record} (h : r.Fits) (more : Bytes) : decode (r.encode ++ more) = decode r.encode := by
  have hwhole := record_encode h
  rw [decode, decode, Unpack.steady_record hwhole more, hwhole]

theorem record_cut {r : Record} (h : r.Fits) {front cut : Bytes} (hcut : front ++ cut = r.encode)
    (hne : cut ≠ []) : Unpack.record front = none := by
  refine Option.eq_none_iff_forall_ne_some.mpr ?_
  rintro ⟨r', rest⟩ hread
  have hwhole := Unpack.steady_record hread cut
  rw [hcut, record_encode h] at hwhole
  have hrest : rest ++ cut = [] := (Prod.mk.inj (Option.some.inj hwhole)).2.symm
  exact hne (List.append_eq_nil_iff.mp hrest).2

theorem checked_ne_malformed (r : Record) : r.checked ≠ .error .malformed := by
  unfold checked
  split
  · nofun
  · split
    · next e he =>
        obtain ⟨_, b, _, _, report, -, -, -, -, rfl⟩ := badOutline?_eq_some he
        nofun
    · nofun

end Record

/-- A stored record is read as a whole or not at all: of the texts it starts with, the empty one included, all
but itself are malformed. What follows it changes nothing. -/
theorem torn_record {r : Record} (hfit : r.Fits) (now : Int64) :
    (∀ front, front <+: (r.stamped now).encode →
      (Record.decode front = .error .malformed ↔ front ≠ (r.stamped now).encode)) ∧
    ∀ more, Record.decode ((r.stamped now).encode ++ more) = Record.decode (r.stamped now).encode := by
  have hstamped : (r.stamped now).Fits := hfit
  refine ⟨?_, Record.decode_append hstamped⟩
  rintro front ⟨cut, hcut⟩
  constructor
  · rintro hmalformed rfl
    rw [Record.decode_encode hstamped] at hmalformed
    exact Record.checked_ne_malformed _ hmalformed
  · intro hne
    have hlost : cut ≠ [] := by
      rintro rfl
      exact hne (by rw [← hcut, List.append_nil])
    rw [Record.decode, Record.record_cut hstamped hcut hlost]

theorem oneBlock_torn :
    Record.decode (((oneBlock 0).stamped 9).encode.take 40) = .error .malformed ∧
    Record.decode (((oneBlock 0).stamped 9).encode ++ bytes "more") =
      .ok { (oneBlock 0).trimmed with schema := 1 } := by
  obtain ⟨hcut, hmore⟩ := torn_record (r := oneBlock 0) (by decide +kernel) 9
  refine ⟨(hcut _ (List.take_prefix ..)).mpr (by decide +kernel), ?_⟩
  rw [hmore]
  decide +kernel

end FlowBlocks
