import Mathlib.Data.List.DropRight
import FlowBlocks.Proofs.Text.Runes
import FlowBlocks.Text.Blank
/-!
Trimmed texts and words. What `trim` leaves is trimmed, and a trimmed text is left as it is; every word of a
text is a stretch of it without blanks, and words with one blank between them are found again.
-/
namespace FlowBlocks

open Utf8

/-- No blank stands at either end. -/
structure Trimmed (s : Bytes) : Prop where
  front : ∀ r ∈ (runes s).head?, r.isBlank = false
  back : ∀ r ∈ (runes s).getLast?, r.isBlank = false

/-- One piece without blanks. -/
structure Word (w : Bytes) : Prop where
  nonempty : w ≠ []
  solid : ∀ r ∈ runes w, r.isBlank = false

theorem Word.trimmed {w : Bytes} (h : Word w) : Trimmed w :=
  ⟨fun r hr => h.solid r (List.mem_of_mem_head? hr), fun r hr => h.solid r (List.mem_of_mem_getLast? hr)⟩

theorem spell_stretch {s : Bytes} {rs : List Rune} (h : rs <:+: runes s) :
    runes (spell rs) = rs ∧ spell rs <:+: s := by
  obtain ⟨before, after, hs⟩ := h
  rw [List.append_assoc] at hs
  refine ⟨runes_stretch hs.symm, spell before, spell after, ?_⟩
  rw [← spell_append, ← spell_append, List.append_assoc, hs, spell_runes]

section Trim

theorem trim_eq (s : Bytes) :
    trim s = spell (((runes s).dropWhile Rune.isBlank).rdropWhile Rune.isBlank) := rfl

theorem trimmed_stretch (s : Bytes) :
    ((runes s).dropWhile Rune.isBlank).rdropWhile Rune.isBlank <:+: runes s :=
  (List.rdropWhile_prefix _ _).isInfix.trans (List.dropWhile_suffix _).isInfix

theorem trim_within (s : Bytes) : trim s <:+: s := (spell_stretch (trimmed_stretch s)).2

theorem runes_trim (s : Bytes) :
    runes (trim s) = ((runes s).dropWhile Rune.isBlank).rdropWhile Rune.isBlank :=
  (spell_stretch (trimmed_stretch s)).1

theorem trim_trimmed (s : Bytes) : Trimmed (trim s) := by
  constructor
  · intro r hr
    rw [runes_trim] at hr
    obtain ⟨rest, hrest⟩ := List.head?_eq_some_iff.mp hr
    obtain ⟨after, hafter⟩ := hrest ▸ List.rdropWhile_prefix Rune.isBlank ((runes s).dropWhile Rune.isBlank)
    have hne : (runes s).dropWhile Rune.isBlank ≠ [] := by
      rw [← hafter]
      exact List.cons_ne_nil _ _
    have hhead := List.head_dropWhile_not Rune.isBlank hne
    simpa only [← hafter, List.cons_append, List.head_cons] using hhead
  · intro r hr
    rw [runes_trim] at hr
    obtain ⟨front, hfront⟩ := List.getLast?_eq_some_iff.mp hr
    have hlast := List.rdropWhile_last_not Rune.isBlank ((runes s).dropWhile Rune.isBlank)
    simpa [hfront] using hlast

theorem Trimmed.trim_eq_self {s : Bytes} (h : Trimmed s) : trim s = s := by
  have hfront : (runes s).dropWhile Rune.isBlank = runes s := by
    cases hs : runes s with
    | nil => rfl
    | cons r rest =>
        have hr : r.isBlank = false := h.front r (by rw [hs]; rfl)
        rw [List.dropWhile_cons, hr]
        rfl
  have hback : (runes s).rdropWhile Rune.isBlank = runes s := by
    rw [List.rdropWhile_eq_self_iff]
    intro hne hlast
    have := h.back _ (List.getLast?_eq_some_getLast hne)
    rw [this] at hlast
    cases hlast
  rw [trim_eq, hfront, hback, spell_runes]

theorem trim_blank_cons {a : UInt8} (ha : a < 0x80) (hblank : isBlank a.toNat = true) (s : Bytes) :
    trim (a :: s) = trim s := by
  have hr : Rune.isBlank ⟨a.toNat, [a]⟩ = true := hblank
  rw [trim_eq, trim_eq, runes_ascii_cons ha, List.dropWhile_cons, hr]
  rfl

/-- A trimmed text ends in no blank byte. -/
theorem Trimmed.getLast?_ne {s : Bytes} (h : Trimmed s) {a : UInt8} (ha : a < 0x80)
    (hblank : isBlank a.toNat = true) : s.getLast? ≠ some a := by
  intro hlast
  obtain ⟨front, rfl⟩ := List.getLast?_eq_some_iff.mp hlast
  have hback := h.back ⟨a.toNat, [a]⟩ (by rw [runes_append_ascii ha]; simp [runes, readOnto])
  rw [Rune.isBlank, hblank] at hback
  cases hback

/-- A trimmed text stays so behind another and an ASCII byte. -/
theorem Trimmed.append {s t : Bytes} (hs : Trimmed s) (hs' : s ≠ []) (ht : Trimmed t) (ht' : t ≠ [])
    {a : UInt8} (ha : a < 0x80) : Trimmed (s ++ a :: t) := by
  constructor
  · rw [runes_append_ascii ha, List.head?_append_of_ne_nil _ (runes_ne_nil hs')]
    exact hs.front
  · rw [runes_append_ascii ha, List.getLast?_append_of_ne_nil _ (List.cons_ne_nil _ _)]
    rw [List.getLast?_cons_of_ne_nil (runes_ne_nil ht')]
    exact ht.back

end Trim

section Words

/-- One step of `words`, which goes from the back: the word begun so far and those behind it. -/
def gather (r : Rune) (found : Bytes × List Bytes) : Bytes × List Bytes :=
  if r.isBlank then ([], consWord found.1 found.2) else (r.spelling ++ found.1, found.2)

theorem words_eq (s : Bytes) :
    words s = consWord ((runes s).foldr gather ([], [])).1 ((runes s).foldr gather ([], [])).2 := rfl

theorem consWord_of_ne {w : Bytes} (h : w ≠ []) (later : List Bytes) : consWord w later = w :: later :=
  if_neg (by simpa using h)

theorem mem_consWord {w word : Bytes} {later : List Bytes} (h : w ∈ consWord word later) :
    (w = word ∧ word ≠ []) ∨ w ∈ later := by
  unfold consWord at h
  split at h
  · exact Or.inr h
  · next hne =>
      rcases List.mem_cons.mp h with rfl | h
      · exact Or.inl ⟨rfl, by simpa using hne⟩
      · exact Or.inr h

theorem foldr_gather_solid {rs : List Rune} (h : ∀ r ∈ rs, r.isBlank = false)
    (found : Bytes × List Bytes) : rs.foldr gather found = (spell rs ++ found.1, found.2) := by
  induction rs with
  | nil => rfl
  | cons r rs ih =>
      have hr : ¬r.isBlank = true := by simp [h r List.mem_cons_self]
      rw [List.foldr_cons, ih fun t ht => h t (List.mem_cons_of_mem r ht), gather, if_neg hr, spell_cons,
        List.append_assoc]

/-- A word in front of a blank is the first word. -/
theorem words_cons {w : Bytes} (h : Word w) {a : UInt8} (ha : a < 0x80) (hblank : isBlank a.toNat = true)
    (rest : Bytes) : words (w ++ a :: rest) = w :: words rest := by
  have hr : Rune.isBlank ⟨a.toNat, [a]⟩ = true := hblank
  rw [words_eq, runes_append_ascii ha, List.foldr_append, List.foldr_cons, foldr_gather_solid h.solid,
    spell_runes, gather, if_pos hr, List.append_nil, consWord_of_ne h.nonempty]
  rfl

theorem words_word {w : Bytes} (h : Word w) : words w = [w] := by
  rw [words_eq, foldr_gather_solid h.solid, spell_runes, List.append_nil, consWord_of_ne h.nonempty]

/-- A piece of text without blanks among the steps. -/
def Piece (rs : List Rune) (w : Bytes) : Prop :=
  ∃ p, p <:+: rs ∧ (∀ r ∈ p, r.isBlank = false) ∧ spell p = w

theorem Piece.cons {rs : List Rune} {w : Bytes} (h : Piece rs w) (r : Rune) : Piece (r :: rs) w := by
  obtain ⟨p, hp, hrest⟩ := h
  exact ⟨p, List.infix_cons hp, hrest⟩

/-- From the back, the word begun is spelled by the steps in front, and the words behind it are pieces. -/
theorem foldr_gather_pieces (rs : List Rune) :
    (∃ p, p <+: rs ∧ (∀ r ∈ p, r.isBlank = false) ∧ spell p = (rs.foldr gather ([], [])).1) ∧
      ∀ w ∈ (rs.foldr gather ([], [])).2, w ≠ [] ∧ Piece rs w := by
  induction rs with
  | nil => exact ⟨⟨[], List.nil_prefix, by simp, rfl⟩, by simp⟩
  | cons r rs ih =>
      obtain ⟨⟨p, hp, hsolid, hword⟩, hlater⟩ := ih
      rw [List.foldr_cons, gather]
      split
      · refine ⟨⟨[], List.nil_prefix, by simp, rfl⟩, ?_⟩
        intro w hw
        rcases mem_consWord hw with ⟨rfl, hne⟩ | hw
        · exact ⟨hne, p, List.infix_cons hp.isInfix, hsolid, hword⟩
        · exact ⟨(hlater w hw).1, (hlater w hw).2.cons r⟩
      · next hr =>
          refine ⟨⟨r :: p, List.cons_prefix_cons.mpr ⟨rfl, hp⟩, ?_, ?_⟩, ?_⟩
          · intro t ht
            rcases List.mem_cons.mp ht with rfl | ht
            · simpa using hr
            · exact hsolid t ht
          · rw [spell_cons, hword]
          · intro w hw
            exact ⟨(hlater w hw).1, (hlater w hw).2.cons r⟩

/-- Every word of a text is a stretch of it. -/
theorem word_of_mem {s w : Bytes} (h : w ∈ words s) : Word w ∧ w <:+: s := by
  obtain ⟨⟨p, hp, hsolid, hword⟩, hlater⟩ := foldr_gather_pieces (runes s)
  have hpiece : w ≠ [] ∧ Piece (runes s) w := by
    rcases mem_consWord h with ⟨rfl, hne⟩ | hw
    · exact ⟨hne, p, hp.isInfix, hsolid, hword⟩
    · exact hlater w hw
  obtain ⟨hne, p, hp, hsolid, rfl⟩ := hpiece
  obtain ⟨hrunes, hin⟩ := spell_stretch hp
  exact ⟨⟨hne, by rwa [hrunes]⟩, hin⟩

end Words

end FlowBlocks
