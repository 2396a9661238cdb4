import FlowBlocks.Proofs.Text.Blanks
/-!
Words and the blanks between them. A text is laid out as a gap, a word, a gap and so on; gaps are passed over by
`trim` and `words`, and `Reworded` relates two texts with the same gaps around the words of two lists.
-/
namespace FlowBlocks

open Utf8

section Cuts

theorem not_stray_of_blank {r : Rune} (h : r.isBlank = true) : r.isStray = false := by
  have hne : r.code ≠ Rune.replacement := by
    intro heq
    rw [Rune.isBlank, heq] at h
    exact absurd h (by decide)
  simp [Rune.isStray, hne]

/-- A complete sequence is read the same whatever follows. -/
theorem first_append_of_not_stray {a : UInt8} {p : Bytes} (h : (first a p).isStray = false) (q : Bytes) :
    first a (p ++ q) = first a p := by
  have hstray : (Rune.stray a).isStray = true := by simp [Rune.isStray, Rune.stray]
  unfold first at h ⊢
  rcases p with _ | ⟨b, _ | ⟨c, _ | ⟨d, p⟩⟩⟩
  · grind
  · grind
  · grind
  · rfl

theorem runes_append_of_not_stray {s : Bytes} (h : ∀ r ∈ runes s, r.isStray = false) (t : Bytes) :
    runes (s ++ t) = runes s ++ runes t := by
  induction hn : s.length using Nat.strongRecOn generalizing s with
  | ind n ih =>
      cases s with
      | nil => rfl
      | cons a rest =>
          obtain ⟨front, after, hrest, hspell, hrunes⟩ := runes_step a rest
          rw [hrunes] at h
          have hlen : after.length < n := by
            rw [← hn, hrest]
            simp only [List.length_cons, List.length_append]
            omega
          have hfirst := first_append_of_not_stray (h _ List.mem_cons_self) t
          have hdrop : (rest ++ t).drop front.length = after ++ t := by
            rw [hrest, List.append_assoc, List.drop_left]
          rw [hrunes, List.cons_append, runes_cons, hfirst, hspell, List.length_cons, Nat.add_sub_cancel,
            hdrop, ih after.length hlen (fun r hr => h r (List.mem_cons_of_mem _ hr)) rfl]
          rfl

theorem first_tail {a : UInt8} (h : isTail a = true) (rest : Bytes) : first a rest = .stray a := by
  have ha : 0x80 ≤ a.toNat ∧ a.toNat ≤ 0xBF := by
    simpa [isTail, UInt8.le_iff_toNat_le] using h
  have h0 : ¬a < 0x80 := by simp [UInt8.lt_iff_toNat_lt]; omega
  have h2 : ∀ b, leads2 a b = false := by intro b; simp [leads2, UInt8.le_iff_toNat_le]; omega
  have h3 : ∀ b, leads3 a b = false := by intro b; simp [leads3, UInt8.le_iff_toNat_le]; omega
  have h4 : ∀ b, leads4 a b = false := by intro b; simp [leads4, UInt8.le_iff_toNat_le]; omega
  unfold first
  rw [if_neg h0]
  rcases rest with _ | ⟨b, _ | ⟨c, _ | ⟨d, rest⟩⟩⟩
  · rfl
  · simp [h2]
  · simp [h2, h3]
  · simp [h2, h3, h4]

end Cuts

/-- Blanks and nothing else. -/
def Gap (g : Bytes) : Prop := ∀ r ∈ runes g, r.isBlank = true

/-- Text that keeps a word in front of it apart: it starts with a blank or is empty. -/
def Parted (s : Bytes) : Prop := ∀ r ∈ (runes s).head?, r.isBlank = true

/-- The text without blanks at its end. -/
def trimRight (s : Bytes) : Bytes := spell ((runes s).rdropWhile Rune.isBlank)

section Gaps

variable {g s w : Bytes}

theorem Gap.runes_append (h : Gap g) (t : Bytes) : runes (g ++ t) = runes g ++ runes t :=
  runes_append_of_not_stray (fun r hr => not_stray_of_blank (h r hr)) t

theorem Gap.parted_append (h : Gap g) (hne : g ≠ []) (t : Bytes) : Parted (g ++ t) := by
  rw [Parted, h.runes_append, List.head?_append_of_ne_nil _ (runes_ne_nil hne)]
  exact fun r hr => h r (List.mem_of_mem_head? hr)

theorem Gap.parted (h : Gap g) : Parted g := fun r hr => h r (List.mem_of_mem_head? hr)

/-- What is kept apart does not reach back into the word. -/
theorem Parted.runes_append (h : Parted s) (w : Bytes) : runes (w ++ s) = runes w ++ runes s := by
  refine Utf8.runes_append (fun b hb => ?_) w
  cases s with
  | nil => cases hb
  | cons a rest =>
      cases hb
      have hblank := h (first b rest) (by rw [runes_cons]; rfl)
      cases htail : isTail b with
      | false => rfl
      | true =>
          rw [first_tail htail] at hblank
          exact absurd hblank (show ¬isBlank Rune.replacement = true by decide)

theorem Gap.trim_append (h : Gap g) (t : Bytes) : trim (g ++ t) = trim t := by
  rw [trim_eq, trim_eq, h.runes_append, List.dropWhile_append_of_pos h]

theorem rdropWhile_append_of_pos {α : Type} {p : α → Bool} {xs ys : List α} (h : ∀ y ∈ ys, p y = true) :
    (xs ++ ys).rdropWhile p = xs.rdropWhile p := by
  rw [List.rdropWhile, List.reverse_append, List.dropWhile_append_of_pos (by simpa using h)]
  rfl

theorem Gap.trim_append_right (h : Gap g) (t : Bytes) : trim (t ++ g) = trim t := by
  have hrunes : runes (t ++ g) = runes t ++ runes g := h.parted.runes_append t
  rw [trim_eq, trim_eq, hrunes, List.dropWhile_append]
  split
  · next hnil =>
      rw [List.isEmpty_iff.mp hnil, List.dropWhile_eq_nil_iff.mpr h]
  · rw [rdropWhile_append_of_pos h]

end Gaps

section Trim

variable {s t w : Bytes}

theorem runes_trimRight (s : Bytes) : runes (trimRight s) = (runes s).rdropWhile Rune.isBlank :=
  (spell_stretch (List.rdropWhile_prefix _ _).isInfix).1

/-- What is cut off at the end is a gap. -/
theorem trimRight_gap (s : Bytes) : ∃ g, Gap g ∧ s = trimRight s ++ g := by
  refine ⟨spell ((runes s).rtakeWhile Rune.isBlank), ?_, ?_⟩
  · intro r hr
    rw [(spell_stretch (List.rtakeWhile_suffix _ _).isInfix).1] at hr
    exact List.mem_rtakeWhile_imp hr
  · have hsplit : (runes s).rdropWhile Rune.isBlank ++ (runes s).rtakeWhile Rune.isBlank = runes s := by
      rw [List.rdropWhile, List.rtakeWhile, ← List.reverse_append, List.takeWhile_append_dropWhile,
        List.reverse_reverse]
    rw [trimRight, ← spell_append, hsplit, spell_runes]

theorem trim_trimRight (s : Bytes) : trim (trimRight s) = trim s := by
  obtain ⟨g, hg, hs⟩ := trimRight_gap s
  conv => rhs; rw [hs]
  exact (hg.trim_append_right _).symm

/-- So is what is cut off at both ends. -/
theorem trim_gaps (s : Bytes) : ∃ g h, Gap g ∧ Gap h ∧ s = g ++ (trim s ++ h) := by
  have hfront : (runes s).takeWhile Rune.isBlank <:+: runes s := (List.takeWhile_prefix _).isInfix
  have hback : (runes s).dropWhile Rune.isBlank <:+: runes s := (List.dropWhile_suffix _).isInfix
  obtain ⟨h, hh, heq⟩ := trimRight_gap (spell ((runes s).dropWhile Rune.isBlank))
  refine ⟨spell ((runes s).takeWhile Rune.isBlank), h, ?_, hh, ?_⟩
  · intro r hr
    rw [(spell_stretch hfront).1] at hr
    exact List.mem_takeWhile_imp hr
  · have htrim : trimRight (spell ((runes s).dropWhile Rune.isBlank)) = trim s := by
      rw [trimRight, (spell_stretch hback).1, trim_eq]
    rw [← htrim, ← heq, ← spell_append, List.takeWhile_append_dropWhile, spell_runes]

theorem rdropWhile_append_of_last {α : Type} {p : α → Bool} {xs ys : List α}
    (h : ∀ x ∈ xs.getLast?, p x = false) : (xs ++ ys).rdropWhile p = xs ++ ys.rdropWhile p := by
  induction ys using List.reverseRecOn with
  | nil =>
      rw [List.append_nil, List.rdropWhile_nil, List.append_nil, List.rdropWhile_eq_self_iff]
      intro hne
      simp [h _ (List.getLast?_eq_some_getLast hne)]
  | append_singleton ys y ih =>
      rw [← List.append_assoc]
      by_cases hy : p y = true
      · rw [List.rdropWhile_concat_pos _ _ _ hy, List.rdropWhile_concat_pos _ _ _ hy, ih]
      · rw [List.rdropWhile_concat_neg _ _ _ hy, List.rdropWhile_concat_neg _ _ _ hy, List.append_assoc]

/-- A word in front is left alone. -/
theorem Word.trim_append (hw : Word w) (hrunes : runes (w ++ t) = runes w ++ runes t) :
    trim (w ++ t) = w ++ trimRight t := by
  have hfront : (runes w ++ runes t).dropWhile Rune.isBlank = runes w ++ runes t := by
    cases hw' : runes w with
    | nil => exact absurd hw' (runes_ne_nil hw.nonempty)
    | cons r rest =>
        have hr : r.isBlank = false := hw.solid r (by rw [hw']; exact List.mem_cons_self)
        rw [List.cons_append, List.dropWhile_cons, hr]
        rfl
  rw [trim_eq, hrunes, hfront, rdropWhile_append_of_last hw.trimmed.back, spell_append, spell_runes]
  rfl

end Trim

section Words

variable {g s w : Bytes}

theorem foldr_gather_gap {rs : List Rune} (h : ∀ r ∈ rs, r.isBlank = true) (found : Bytes × List Bytes) :
    consWord (rs.foldr gather found).1 (rs.foldr gather found).2 = consWord found.1 found.2 := by
  induction rs with
  | nil => rfl
  | cons r rs ih =>
      rw [List.foldr_cons, gather, if_pos (h r List.mem_cons_self)]
      exact ih fun t ht => h t (List.mem_cons_of_mem r ht)

theorem Gap.words_append (h : Gap g) (t : Bytes) : words (g ++ t) = words t := by
  rw [words_eq, h.runes_append, List.foldr_append, foldr_gather_gap h]
  rfl

theorem Gap.words_eq_nil (h : Gap g) : words g = [] := by
  rw [words_eq, foldr_gather_gap h]
  rfl

theorem foldr_gather_end {rs : List Rune} (h : ∀ r ∈ rs, r.isBlank = true) :
    rs.foldr gather ([], []) = ([], []) := by
  induction rs with
  | nil => rfl
  | cons r rs ih =>
      rw [List.foldr_cons, ih fun t ht => h t (List.mem_cons_of_mem r ht), gather,
        if_pos (h r List.mem_cons_self)]
      rfl

theorem Gap.words_append_right (h : Gap g) (t : Bytes) : words (t ++ g) = words t := by
  rw [words_eq, h.parted.runes_append, List.foldr_append, foldr_gather_end h]
  rfl

theorem words_trim (s : Bytes) : words (trim s) = words s := by
  obtain ⟨g, h, hg, hh, hs⟩ := trim_gaps s
  conv => rhs; rw [hs]
  rw [hg.words_append, hh.words_append_right]

theorem Word.words_append (hw : Word w) (hs : Parted s) : words (w ++ s) = w :: words s := by
  rw [words_eq, hs.runes_append, List.foldr_append, foldr_gather_solid hw.solid, spell_runes]
  rw [Parted] at hs
  cases hrunes : runes s with
  | nil =>
      rw [words_eq, hrunes, List.foldr_nil, List.append_nil, consWord_of_ne hw.nonempty]
      rfl
  | cons r rest =>
      have hr : r.isBlank = true := hs r (by rw [hrunes]; rfl)
      rw [words_eq, hrunes, List.foldr_cons, gather, if_pos hr, List.append_nil,
        consWord_of_ne hw.nonempty]
      rfl

/-- Two texts that differ in words alone: the words of each, in order, with the same gaps around them. -/
inductive Reworded : List Bytes → List Bytes → Bytes → Bytes → Prop
  | done {gap : Bytes} (hgap : Gap gap) : Reworded [] [] gap gap
  | word {gap w w' s s' : Bytes} {ws ws' : List Bytes} (hgap : Gap gap) (hne : gap ≠ []) (hw : Word w)
      (hw' : Word w') (more : Reworded ws ws' s s') :
      Reworded (w :: ws) (w' :: ws') (gap ++ (w ++ s)) (gap ++ (w' ++ s'))

namespace Reworded

variable {t t' : Bytes} {ws ws' : List Bytes}

theorem symm (h : Reworded ws ws' t t') : Reworded ws' ws t' t := by
  induction h with
  | done hgap => exact .done hgap
  | word hgap hne hw hw' _ ih => exact .word hgap hne hw' hw ih

theorem parted (h : Reworded ws ws' t t') : Parted t := by
  cases h with
  | done hgap => exact hgap.parted
  | word hgap hne _ _ _ => exact hgap.parted_append hne _

theorem words_eq (h : Reworded ws ws' t t') : words t = ws := by
  induction h with
  | done hgap => exact hgap.words_eq_nil
  | word hgap _ hw _ more ih => rw [hgap.words_append, hw.words_append more.parted, ih]

end Reworded

end Words

end FlowBlocks
