import FlowBlocks.Listing.Parse
import FlowBlocks.Proofs.Text.Blanks
import FlowBlocks.Proofs.Text.Composed
/-!
Names of labels in ASCII. Of the code points that decompose to ASCII only KELVIN SIGN may stand in a name, so a
canonical form in ASCII is the name itself with `K` for that sign, and is a name again.
-/
namespace FlowBlocks

namespace Line

open Canonical

theorem isNameCode_mono {at_ c : Nat} (h : isNameCode at_ c = true) : isNameCode 1 c = true := by
  unfold isNameCode at h ⊢
  cases hd : isDigit c <;> simp_all

theorem isName_codes {first : Bool} {rs : List Rune} (h : isName first rs = true) :
    ∀ r ∈ rs, isNameCode 1 r.code = true := by
  induction rs generalizing first with
  | nil => simp
  | cons r rs ih =>
      obtain ⟨hr, hrs⟩ := Bool.and_eq_true_iff.mp h
      intro t ht
      rcases List.mem_cons.mp ht with rfl | ht
      · exact isNameCode_mono hr
      · exact ih hrs t ht

/-- The byte that an ASCII form has for a code point of a name. -/
def plainByte (c : Nat) : UInt8 := if c = 0x212A then byte 'K' else c.toUInt8

/-- The only code points of a name that may end up in ASCII are those of ASCII and KELVIN SIGN. -/
theorem expand_name {c : Nat} (hc : isNameCode 1 c = true) (h : ∀ p ∈ expand c, p < 0x80) :
    (c < 0x80 ∨ c = 0x212A) ∧ (expand c).flatMap Utf8.encode = [plainByte c] := by
  rcases expand_plain h with hlow | hmem
  · refine ⟨Or.inl hlow, ?_⟩
    have hne : c ≠ 0x212A := by omega
    rw [expand_ascii hlow, List.flatMap_singleton, encode_ascii hlow, plainByte, if_neg hne]
  · have hkelvin : c = 0x212A := by
      simp only [plainable, List.mem_cons, List.not_mem_nil, or_false] at hmem
      rcases hmem with rfl | rfl | rfl
      · exact absurd hc (by decide +kernel)
      · exact absurd hc (by decide +kernel)
      · rfl
    refine ⟨Or.inr hkelvin, ?_⟩
    rw [hkelvin]
    decide +kernel

theorem canonical_name {n : Bytes} {first : Bool} (hname : isName first (Utf8.runes n) = true)
    (h : Ascii (canonical n)) :
    (∀ r ∈ Utf8.runes n, r.code < 0x80 ∨ r.code = 0x212A) ∧
      canonical n = (Utf8.runes n).map fun r => plainByte r.code := by
  have hform := canonical_expanded h
  have hexpand : ∀ r ∈ Utf8.runes n, ∀ p ∈ expand r.code, p < 0x80 := by
    intro r hr p hp
    refine encode_plain fun b hb => h b ?_
    rw [hform]
    exact List.mem_flatMap.mpr ⟨r, hr, List.mem_flatMap.mpr ⟨p, hp, hb⟩⟩
  have hcode := fun r hr => expand_name (isName_codes hname r hr) (hexpand r hr)
  refine ⟨fun r hr => (hcode r hr).1, ?_⟩
  rw [hform, List.map_eq_flatMap]
  exact List.flatMap_congr fun r hr => (hcode r hr).2

theorem plainByte_toNat {c : Nat} (h : c < 0x80) : (plainByte c).toNat = c := by
  have hne : c ≠ 0x212A := by omega
  rw [plainByte, if_neg hne, Nat.toUInt8_eq, UInt8.toNat_ofNat']
  omega

theorem plainByte_isNameCode {at_ c : Nat} (hc : c < 0x80 ∨ c = 0x212A) (h : isNameCode at_ c = true) :
    isNameCode at_ (plainByte c).toNat = true := by
  rcases hc with hc | rfl
  · rwa [plainByte_toNat hc]
  · have hletter : isLetter (plainByte 0x212A).toNat = true := by decide
    simp [isNameCode, hletter]

/-- An ASCII form of a name is a name. -/
theorem isName_canonical {n : Bytes} {first : Bool} (hname : isName first (Utf8.runes n) = true)
    (h : Ascii (canonical n)) : isName first (Utf8.runes (canonical n)) = true := by
  obtain ⟨hcodes, hform⟩ := canonical_name hname h
  rw [Utf8.runes_ascii h, hform, List.map_map]
  generalize Utf8.runes n = rs at hname hcodes
  clear hform h
  induction rs generalizing first with
  | nil => rfl
  | cons r rs ih =>
      obtain ⟨hr, hrs⟩ := Bool.and_eq_true_iff.mp hname
      refine Bool.and_eq_true_iff.mpr ⟨plainByte_isNameCode (hcodes r List.mem_cons_self) hr, ?_⟩
      exact ih hrs fun t ht => hcodes t (List.mem_cons_of_mem r ht)

theorem canonical_ne_nil {n : Bytes} (hn : n ≠ []) (hname : isName true (Utf8.runes n) = true)
    (h : Ascii (canonical n)) : canonical n ≠ [] := by
  rw [(canonical_name hname h).2]
  exact mt List.map_eq_nil_iff.mp (Utf8.runes_ne_nil hn)

/-- An ASCII form begins with a dot only where the name does. -/
theorem head?_canonical {n : Bytes} (hname : isName true (Utf8.runes n) = true)
    (h : Ascii (canonical n)) (hdot : (canonical n).head? = some (byte '.')) :
    n.head? = some (byte '.') := by
  obtain ⟨hcodes, hform⟩ := canonical_name hname h
  cases n with
  | nil => rw [hform] at hdot; cases hdot
  | cons a rest =>
      rw [hform, Utf8.runes_cons, List.map_cons, List.head?_cons] at hdot
      have hbyte := Option.some.inj hdot
      have hfirst := hcodes (Utf8.first a rest) (by rw [Utf8.runes_cons]; exact List.mem_cons_self)
      rcases hfirst with hlow | hkelvin
      · have hcode : (Utf8.first a rest).code = 0x2E := by
          rw [← plainByte_toNat hlow, hbyte]
          rfl
        have ha := Utf8.first_code_ascii hlow
        rw [hcode] at ha
        rw [List.head?_cons]
        congr 1
        exact UInt8.toNat_inj.mp ha
      · rw [hkelvin] at hbyte
        exact absurd hbyte (by decide)

end Line

/-- An ASCII name, as labels are where they are printed. -/
structure Name (l : Bytes) : Prop where
  ascii : Ascii l
  nonempty : l ≠ []
  isName : Line.isName true (Utf8.runes l) = true

theorem Name.code {l : Bytes} (h : Name l) {b : UInt8} (hb : b ∈ l) :
    b.toNat < 0x80 ∧ Line.isNameCode 1 b.toNat = true := by
  refine ⟨UInt8.lt_iff_toNat_lt.mp (h.ascii b hb), Line.isName_codes h.isName ⟨b.toNat, [b]⟩ ?_⟩
  rw [Utf8.runes_ascii h.ascii]
  exact List.mem_map.mpr ⟨b, hb, rfl⟩

theorem Name.not_mem {l : Bytes} (h : Name l) {b : UInt8} (hb : Line.isNameCode 1 b.toNat = false) : b ∉ l := by
  intro hmem
  rw [(h.code hmem).2] at hb
  cases hb

theorem Name.word {l : Bytes} (h : Name l) : Word l := by
  have hsolid : ∀ c < 0x80, Line.isNameCode 1 c = true → isBlank c = false := by decide +kernel
  refine ⟨h.nonempty, ?_⟩
  rw [Utf8.runes_ascii h.ascii]
  intro r hr
  obtain ⟨b, hb, rfl⟩ := List.mem_map.mp hr
  exact hsolid b.toNat (h.code hb).1 (h.code hb).2

/-- Text that fits one line and holds no comment. -/
structure Inline (s : Bytes) : Prop where
  noComment : byte '#' ∉ s
  noFeed : 10 ∉ s

theorem Inline.within {s t : Bytes} (h : Inline t) (hs : s <:+: t) : Inline s :=
  ⟨fun hc => h.noComment (hs.subset hc), fun hf => h.noFeed (hs.subset hf)⟩

theorem Name.inline {l : Bytes} (h : Name l) : Inline l :=
  ⟨h.not_mem (by decide), h.not_mem (by decide)⟩

theorem Name.canonical_eq {l : Bytes} (h : Name l) : canonical l = l := Canonical.canonical_of_ascii h.ascii

end FlowBlocks
