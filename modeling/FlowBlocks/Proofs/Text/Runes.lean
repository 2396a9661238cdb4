import FlowBlocks.Text.Rune
/-!
Where a text may be cut without being read otherwise. The steps of reading a text spell it out; a stretch of
them, spelled out, is read as these steps; and a text is read up to a byte that continues no sequence as it
is read alone.
-/
namespace FlowBlocks

/-- Text of ASCII alone. -/
def Ascii (s : Bytes) : Prop := ∀ b ∈ s, b < 0x80

namespace Utf8

theorem first_ascii {a : UInt8} (h : a < 0x80) (rest : Bytes) : first a rest = ⟨a.toNat, [a]⟩ := if_pos h

section Ascii

variable {a b : UInt8}

theorem le_code2 (h : leads2 a b = true) : 0x80 ≤ code2 a b := by
  simp only [leads2, UInt8.le_iff_toNat_le, UInt8.reduceToNat, Bool.and_eq_true, decide_eq_true_eq] at h
  unfold code2
  omega

/-- A sequence that could be shorter is refused, so its second byte is high where its first is lowest. -/
theorem le_code3 (h : leads3 a b = true) (c : UInt8) : 0x80 ≤ code3 a b c := by
  simp only [leads3, UInt8.le_iff_toNat_le, UInt8.reduceToNat, isTail, Bool.and_eq_true, decide_eq_true_eq,
    Bool.or_eq_true, bne_iff_ne, ne_eq, ← UInt8.toNat_inj] at h
  simp only [code3, tailBits]
  omega

theorem le_code4 (h : leads4 a b = true) (c d : UInt8) : 0x80 ≤ code4 a b c d := by
  simp only [leads4, UInt8.le_iff_toNat_le, UInt8.reduceToNat, isTail, Bool.and_eq_true, decide_eq_true_eq,
    Bool.or_eq_true, bne_iff_ne, ne_eq, ← UInt8.toNat_inj] at h
  simp only [code4, tailBits]
  omega

/-- No longer sequence spells a code point of ASCII. -/
theorem first_code_ascii {rest : Bytes} (h : (first a rest).code < 0x80) :
    a.toNat = (first a rest).code := by
  have hstray : ¬(Rune.stray a).code < 0x80 := Nat.not_lt.mpr (by simp [Rune.stray, Rune.replacement])
  rcases UInt8.lt_or_le a 0x80 with ha | ha
  · rw [first_ascii ha]
  · exfalso
    unfold first at h
    rw [if_neg (UInt8.not_lt.mpr ha)] at h
    split at h
    · exact hstray h
    · next b rest =>
        split at h
        · next hlead => exact absurd h (Nat.not_lt.mpr (le_code2 hlead))
        · split at h
          · exact hstray h
          · next c rest =>
              split at h
              · next hlead =>
                  have hlead := (Bool.and_eq_true_iff.mp hlead).1
                  exact absurd h (Nat.not_lt.mpr (le_code3 hlead c))
              · split at h
                · exact hstray h
                · next d rest =>
                    split at h
                    · next hlead =>
                        have hlead := (Bool.and_eq_true_iff.mp (Bool.and_eq_true_iff.mp hlead).1).1
                        exact absurd h (Nat.not_lt.mpr (le_code4 hlead c d))
                    · exact hstray h

end Ascii

/-- A step spells the front of what is read. -/
theorem first_spelling (a : UInt8) (rest : Bytes) :
    ∃ front, (first a rest).spelling = a :: front ∧ front ++ rest.drop front.length = rest := by
  unfold first
  split
  · exact ⟨[], rfl, rfl⟩
  · split
    · exact ⟨[], rfl, rfl⟩
    · next b rest =>
        split
        · exact ⟨[b], rfl, rfl⟩
        · split
          · exact ⟨[], rfl, rfl⟩
          · next c rest =>
              split
              · exact ⟨[b, c], rfl, rfl⟩
              · split
                · exact ⟨[], rfl, rfl⟩
                · next d rest =>
                    split
                    · exact ⟨[b, c, d], rfl, rfl⟩
                    · exact ⟨[], rfl, rfl⟩

/-- What cannot continue a sequence does not change the step before it. -/
theorem first_append {a : UInt8} {rest t : Bytes} (ht : ∀ b ∈ t.head?, isTail b = false) :
    first a (rest ++ t) = first a rest := by
  have h2 : ∀ b, isTail b = false → leads2 a b = false := by intro b hb; simp [leads2, hb]
  have h3 : ∀ b, isTail b = false → leads3 a b = false := by intro b hb; simp [leads3, hb]
  have h4 : ∀ b, isTail b = false → leads4 a b = false := by intro b hb; simp [leads4, hb]
  unfold first
  -- three bytes behind the first are looked at, so the text is cut after none, one or two of them
  match rest, t, ht with
  | [], [], _ => rfl
  | [], [b], ht => simp [h2 b (ht b rfl)]
  | [], [b, c], ht => simp [h2 b (ht b rfl), h3 b (ht b rfl)]
  | [], b :: c :: d :: _, ht => simp [h2 b (ht b rfl), h3 b (ht b rfl), h4 b (ht b rfl)]
  | [b], [], _ => rfl
  | [b], [c], ht => simp [ht c rfl]
  | [b], c :: d :: _, ht => simp [ht c rfl]
  | [b, c], [], _ => rfl
  | [b, c], d :: _, ht => simp [ht d rfl]
  | b :: c :: d :: _, _, _ => rfl

/-- A step needs no more than the bytes that it spells. -/
theorem first_of_append {a : UInt8} {p q : Bytes} (h : (first a (p ++ q)).spelling.length ≤ p.length + 1) :
    first a p = first a (p ++ q) := by
  unfold first at h ⊢
  match p, q with
  | [], [] => rfl
  | [], [b] => grind
  | [], [b, c] => grind
  | [], b :: c :: d :: _ => grind
  | [b], [] => rfl
  | [b], [c] => grind
  | [b], c :: d :: _ => grind
  | [b, c], [] => rfl
  | [b, c], d :: _ =>
      simp only [List.cons_append, List.nil_append] at h ⊢
      grind
  | b :: c :: d :: _, _ => rfl

theorem readOnto_eq (done : List Rune) (skip : Nat) (s : Bytes) :
    readOnto done skip s = (runes (s.drop skip)).reverse ++ done := by
  have hlast : ∀ s done skip, readOnto done skip s = readOnto [] skip s ++ done := by
    intro s
    induction s with
    | nil =>
        intro done skip
        cases skip <;> rfl
    | cons a s ih =>
        intro done skip
        cases skip with
        | zero =>
            rw [readOnto, readOnto, ih, ih [first a s], List.append_assoc]
            rfl
        | succ skip => exact ih done skip
  have hskip : ∀ s skip, readOnto [] skip s = readOnto [] 0 (s.drop skip) := by
    intro s
    induction s with
    | nil =>
        intro skip
        cases skip <;> rfl
    | cons a s ih =>
        intro skip
        cases skip with
        | zero => rfl
        | succ skip => exact ih skip
  rw [hlast, hskip, runes, List.reverse_reverse]

theorem runes_cons (a : UInt8) (rest : Bytes) :
    runes (a :: rest) = first a rest :: runes (rest.drop ((first a rest).spelling.length - 1)) := by
  rw [runes, readOnto, readOnto_eq, List.reverse_append, List.reverse_reverse]
  rfl

theorem spell_cons (r : Rune) (rs : List Rune) : spell (r :: rs) = r.spelling ++ spell rs := rfl

theorem spell_append (rs ts : List Rune) : spell (rs ++ ts) = spell rs ++ spell ts := List.flatMap_append

/-- Reading step by step: the first step and what is left after it. -/
theorem runes_step (a : UInt8) (rest : Bytes) : ∃ front after, rest = front ++ after ∧
    (first a rest).spelling = a :: front ∧ runes (a :: rest) = first a rest :: runes after := by
  obtain ⟨front, hspell, hrest⟩ := first_spelling a rest
  refine ⟨front, rest.drop front.length, hrest.symm, hspell, ?_⟩
  rw [runes_cons, hspell]
  rfl

theorem spell_runes (s : Bytes) : spell (runes s) = s := by
  -- a step takes up to four bytes at once, so the length carries the induction
  induction hn : s.length using Nat.strongRecOn generalizing s with
  | ind n ih =>
      cases s with
      | nil => rfl
      | cons a rest =>
          obtain ⟨front, after, hrest, hspell, hrunes⟩ := runes_step a rest
          have hlen : after.length < n := by
            rw [← hn, hrest]
            simp only [List.length_cons, List.length_append]
            omega
          rw [hrunes, spell_cons, hspell, ih after.length hlen after rfl, hrest]
          rfl

theorem runes_ne_nil {s : Bytes} (h : s ≠ []) : runes s ≠ [] := by
  intro hs
  rw [← spell_runes s, hs] at h
  exact h rfl

/-- A text that no byte continues is read alone as in front of more text. -/
theorem runes_append {t : Bytes} (ht : ∀ b ∈ t.head?, isTail b = false) (s : Bytes) :
    runes (s ++ t) = runes s ++ runes t := by
  induction hn : s.length using Nat.strongRecOn generalizing s with
  | ind n ih =>
      cases s with
      | nil => rfl
      | cons a rest =>
          obtain ⟨front, after, hrest, hspell, hrunes⟩ := runes_step a rest
          have hlen : after.length < n := by
            rw [← hn, hrest]
            simp only [List.length_cons, List.length_append]
            omega
          have hdrop : (rest ++ t).drop front.length = after ++ t := by
            rw [hrest, List.append_assoc, List.drop_left]
          rw [hrunes, List.cons_append, runes_cons, first_append ht, hspell, List.length_cons,
            Nat.add_sub_cancel, hdrop, ih after.length hlen after rfl]
          rfl

theorem runes_ascii_cons {a : UInt8} (h : a < 0x80) (t : Bytes) :
    runes (a :: t) = ⟨a.toNat, [a]⟩ :: runes t := by
  rw [runes_cons, first_ascii h]
  rfl

theorem isTail_ascii {a : UInt8} (h : a < 0x80) : isTail a = false := by
  unfold isTail
  have : ¬(0x80 : UInt8) ≤ a := UInt8.not_le.mpr h
  simp [this]

/-- An ASCII byte is a step of its own wherever it stands. -/
theorem runes_append_ascii {a : UInt8} (h : a < 0x80) (s t : Bytes) :
    runes (s ++ a :: t) = runes s ++ ⟨a.toNat, [a]⟩ :: runes t := by
  rw [runes_append, runes_ascii_cons h]
  intro b hb
  cases hb
  exact isTail_ascii h

theorem runes_ascii {s : Bytes} (h : Ascii s) :
    runes s = s.map fun a => ⟨a.toNat, [a]⟩ := by
  induction s with
  | nil => rfl
  | cons a s ih =>
      rw [runes_ascii_cons (h a List.mem_cons_self), ih fun b hb => h b (List.mem_cons_of_mem a hb)]
      rfl

/-- A byte that is read as a stray one is none of ASCII. -/
theorem not_ascii_of_stray {s : Bytes} {r : Rune} (hr : r ∈ runes s) (hstray : r.isStray = true) :
    ¬Ascii r.spelling := by
  induction hn : s.length using Nat.strongRecOn generalizing s with
  | ind n ih =>
      cases s with
      | nil => cases hr
      | cons a rest =>
          obtain ⟨front, after, hrest, hspell, hrunes⟩ := runes_step a rest
          rw [hrunes] at hr
          rcases List.mem_cons.mp hr with rfl | hr
          · intro hascii
            have ha : a < 0x80 := hascii a (by rw [hspell]; exact List.mem_cons_self)
            rw [first_ascii ha] at hstray
            have hcode : a.toNat = Rune.replacement := by
              simpa [Rune.isStray] using hstray
            have hlt : a.toNat < 0x80 := UInt8.lt_iff_toNat_lt.mp ha
            exact absurd hlt (by rw [hcode]; decide)
          · refine ih after.length ?_ hr rfl
            rw [← hn, hrest]
            simp only [List.length_cons, List.length_append]
            omega

theorem runes_drop {s : Bytes} {before rs : List Rune} (h : runes s = before ++ rs) :
    runes (spell rs) = rs := by
  induction before generalizing s with
  | nil =>
      have hs := spell_runes s
      rw [h] at hs
      rw [List.nil_append] at h hs
      rw [hs, h]
  | cons r before ih =>
      cases s with
      | nil => cases h
      | cons a rest =>
          obtain ⟨front, after, -, -, hrunes⟩ := runes_step a rest
          rw [hrunes] at h
          exact ih (List.cons.inj h).2

theorem runes_take {s : Bytes} {rs after : List Rune} (h : runes s = rs ++ after) :
    runes (spell rs) = rs := by
  induction rs generalizing s with
  | nil => rfl
  | cons r rs ih =>
      cases s with
      | nil => cases h
      | cons a rest =>
          obtain ⟨front, left, hrest, hspell, hrunes⟩ := runes_step a rest
          rw [hrunes] at h
          obtain ⟨hr, hrest'⟩ := List.cons.inj h
          have hleft : runes left = rs ++ after := hrest'
          have hsplit : rest = (front ++ spell rs) ++ spell after := by
            rw [hrest, ← spell_runes left, hleft, spell_append, List.append_assoc]
          have hfirst : first a (front ++ spell rs) = r := by
            rw [first_of_append (q := spell after), ← hsplit, hr]
            rw [← hsplit, hspell, List.length_cons, List.length_append]
            omega
          have hr' : r.spelling = a :: front := by rw [← hr, hspell]
          rw [spell_cons, hr', List.cons_append, runes_cons, hfirst, hr', List.length_cons,
            Nat.add_sub_cancel, List.drop_left, ih hleft]

/-- A stretch of the steps of a text, spelled out, is read as these steps. -/
theorem runes_stretch {s : Bytes} {before rs after : List Rune} (h : runes s = before ++ (rs ++ after)) :
    runes (spell rs) = rs :=
  runes_take (runes_drop h)

end Utf8

end FlowBlocks
