import Mathlib.Data.List.Basic
import FlowBlocks.Proofs.Text.Runes
import FlowBlocks.Text.Canonical
/-!
Texts whose canonical form is ASCII. Composition and the joiner only ever bring in code points beyond ASCII, and
a mark is none of ASCII, so the form of such a text is its code points decomposed one by one. Decomposition leads
to ASCII alone from three code points beyond it.
-/
namespace FlowBlocks

namespace Canonical

/-- A sign that is spelled in ASCII. -/
def Sign.Plain : Sign → Prop
  | .code c _ => c < 0x80
  | .raw b => b < 0x80

theorem encode_plain {c : Nat} (h : Ascii (Utf8.encode c)) : c < 0x80 := by
  refine Nat.lt_of_not_le fun hc => ?_
  unfold Utf8.encode at h
  rw [if_neg (Nat.not_lt.mpr hc)] at h
  -- whatever its length, a longer sequence ends in a tail byte
  have hb : (0x80 + c % 0x40).toUInt8 < 0x80 := by
    split at h
    · exact h _ (by simp)
    · split at h
      · exact h _ (by simp)
      · exact h _ (by simp)
  rw [UInt8.lt_iff_toNat_lt] at hb
  simp only [Nat.toUInt8_eq, UInt8.ofNat_add, UInt8.reduceOfNat, UInt8.toNat_add, UInt8.reduceToNat,
    UInt8.toNat_ofNat', Nat.reducePow, Nat.add_mod_mod] at hb
  omega

theorem Sign.plain_of_spelling {s : Sign} (h : Ascii s.spelling) : s.Plain := by
  cases s with
  | code c k => exact encode_plain h
  | raw b => exact h b List.mem_cons_self

section Tables

theorem le_of_composite? {a b c : Nat} (h : composite? a b = some c) : 0x80 ≤ c := by
  have htable : (mappings.all fun e => decide (0x80 ≤ e.1)) = true := by decide +kernel
  obtain ⟨e, he, rfl⟩ := Option.map_eq_some_iff.mp h
  exact of_decide_eq_true (List.all_eq_true.mp htable e (List.mem_of_find?_eq_some he))

theorem le_of_syllable? {a b c : Nat} (h : syllable? a b = some c) : 0x80 ≤ c := by
  unfold syllable? at h
  split at h
  · have := Option.some.inj h
    omega
  · split at h
    · next hs =>
        have := Option.some.inj h
        simp only [isSyllable, Bool.and_eq_true, decide_eq_true_eq] at hs
        omega
    · cases h

/-- The code points beyond ASCII that decompose to ASCII: GREEK QUESTION MARK, GREEK VARIA, KELVIN SIGN. -/
def plainable : List Nat := [0x37E, 0x1FEF, 0x212A]

theorem mapping?_plainable {c : Nat} {parts : List Nat} (h : mapping? c = some parts)
    (hparts : ∀ p ∈ parts, p < 0x80 ∨ p ∈ plainable) : c ∈ plainable := by
  have htable : (mappings.all fun row => plainable.contains row.1 ||
      !((row.2.1 < 0x80 || plainable.contains row.2.1) &&
        (row.2.2 < 0x80 || plainable.contains row.2.2))) = true := by
    decide +kernel
  unfold mapping? at h
  split at h
  · cases h
  · obtain ⟨⟨code, a, b⟩, hfind, heq⟩ := Option.map_eq_some_iff.mp h
    have hcode : code = c := by simpa using List.find?_some hfind
    change (if b == 0 then [a] else [a, b]) = parts at heq
    have hrow := List.all_eq_true.mp htable _ (List.mem_of_find?_eq_some hfind)
    have ha : a < 0x80 ∨ a ∈ plainable := by
      apply hparts
      rw [← heq]
      split <;> exact List.mem_cons_self
    have hb : b < 0x80 ∨ b ∈ plainable := by
      by_cases hzero : b = 0
      · exact Or.inl (by omega)
      · apply hparts
        rw [← heq]
        simp [hzero]
    rw [← hcode]
    simp only [List.contains_eq_mem, Bool.or_eq_true, decide_eq_true_eq, Bool.not_eq_true',
      Bool.and_eq_false_iff, Bool.or_eq_false_iff, decide_eq_false_iff_not] at hrow
    rcases hrow with hmem | ⟨hlow, hmem⟩ | ⟨hlow, hmem⟩
    · exact hmem
    · exact absurd ha (not_or.mpr ⟨hlow, hmem⟩)
    · exact absurd hb (not_or.mpr ⟨hlow, hmem⟩)

theorem syllableParts_ge {c : Nat} : ∃ p ∈ syllableParts c, 0x80 ≤ p :=
  ⟨0x1100 + (c - 0xAC00) / 588, by simp [syllableParts], by omega⟩

theorem expandWithin_plainable {depth c : Nat} (hc : 0x80 ≤ c)
    (h : ∀ p ∈ expandWithin depth c, p < 0x80) : c ∈ plainable := by
  induction depth generalizing c with
  | zero => exact absurd (h c List.mem_cons_self) (Nat.not_lt.mpr hc)
  | succ depth ih =>
      unfold expandWithin at h
      split at h
      · obtain ⟨p, hp, hle⟩ := @syllableParts_ge c
        exact absurd (h p hp) (Nat.not_lt.mpr hle)
      · split at h
        · next parts hparts =>
            refine mapping?_plainable hparts fun p hp => ?_
            rcases Nat.lt_or_ge p 0x80 with hlow | hhigh
            · exact Or.inl hlow
            · exact Or.inr (ih hhigh fun q hq => h q (List.mem_flatMap.mpr ⟨p, hp, hq⟩))
        · exact absurd (h c List.mem_cons_self) (Nat.not_lt.mpr hc)

theorem expand_plain {c : Nat} (h : ∀ p ∈ expand c, p < 0x80) : c < 0x80 ∨ c ∈ plainable := by
  rcases Nat.lt_or_ge c 0x80 with hc | hc
  · exact Or.inl hc
  · unfold expand at h
    split at h
    · exact absurd (h c List.mem_cons_self) (Nat.not_lt.mpr hc)
    · exact Or.inr (expandWithin_plainable hc h)

end Tables

section Composition

namespace Window

theorem toList_hold (w : Window) (s : Sign) : (w.hold s).toList = w.toList ++ [s] := by
  simp [toList, hold]

theorem toList_settle (w : Window) : w.settle.toList = w.toList := by
  obtain ⟨before, base, held, hangul⟩ := w
  cases held with
  | nil => rfl
  | cons last held =>
      unfold settle
      dsimp only
      split
      · simp [toList]
      · rfl

/-- A sign that is drawn into the base leaves a code point beyond ASCII there. -/
theorem toList_draw {join? : Nat → Nat → Option Nat} (hjoin : ∀ a b c, join? a b = some c → 0x80 ≤ c)
    (w : Window) (s : Sign) (h : ∀ t ∈ (w.draw join? s).toList, t.Plain) :
    (w.draw join? s).toList = w.toList ++ [s] := by
  rw [← toList_settle w, ← toList_hold]
  unfold draw at h ⊢
  dsimp only at h ⊢
  split at h
  · split at h
    · -- a sign that was drawn in is no longer plain
      next a _ b k _ _ c hc =>
        have hplain : Sign.Plain (.code c 0) := h _ (by simp [toList])
        have hle : 0x80 ≤ c := by
          split at hc
          · cases hc
          · exact hjoin a b c hc
        exact absurd hplain (Nat.not_lt.mpr hle)
    · rfl
  · rfl

theorem toList_push (w : Window) (s : Sign) (h : ∀ t ∈ (w.push s).toList, t.Plain) :
    (w.push s).toList = w.toList ++ [s] := by
  cases s with
  | raw b => exact toList_hold w (.raw b)
  | code c k =>
      unfold push at h ⊢
      dsimp only at h ⊢
      split at h
      · next hangul =>
          rw [if_pos hangul]
          exact toList_draw (fun _ _ _ => le_of_syllable?) _ _ h
      · next hangul =>
          rw [if_neg hangul]
          split at h
          · next hback =>
              rw [if_pos hback]
              exact toList_draw (fun _ _ _ => le_of_composite?) _ _ h
          · next hback =>
              rw [if_neg hback]
              exact toList_hold _ _

theorem toList_foldl_push (w : Window) (ss : List Sign) (h : ∀ t ∈ (ss.foldl push w).toList, t.Plain) :
    (ss.foldl push w).toList = w.toList ++ ss := by
  induction ss generalizing w with
  | nil => exact (List.append_nil _).symm
  | cons s ss ih =>
      rw [List.foldl_cons] at h ⊢
      have hrest := ih (w.push s) h
      rw [hrest] at h
      rw [hrest, toList_push w s fun t ht => h t (List.mem_append_left _ ht), List.append_assoc]
      rfl

end Window

theorem compose_plain {ss : List Sign} (h : ∀ s ∈ compose ss, s.Plain) : compose ss = ss := by
  cases ss with
  | nil => rfl
  | cons s rest => exact Window.toList_foldl_push _ rest h

theorem place_perm (s : Sign) (ss : List Sign) : (place s ss).Perm (s :: ss) := by
  induction ss with
  | nil => exact List.Perm.refl _
  | cons t ss ih =>
      unfold place
      split
      · exact (ih.cons t).trans (List.Perm.swap s t ss)
      · exact List.Perm.refl _

theorem reorder_perm (ss : List Sign) : (reorder ss).Perm ss := by
  induction ss with
  | nil => exact List.Perm.refl _
  | cons s ss ih => exact (place_perm s (reorder ss)).trans (ih.cons s)

theorem reorder_starters {ss : List Sign} (h : ∀ s ∈ ss, s.cls = 0) : reorder ss = ss := by
  induction ss with
  | nil => rfl
  | cons s ss ih =>
      have hss : reorder ss = ss := ih fun t ht => h t (List.mem_cons_of_mem s ht)
      change place s (reorder ss) = s :: ss
      rw [hss]
      cases ss with
      | nil => rfl
      | cons t ss => simp [place, h t (by simp)]

/-- Signs as they come from a text: what is plain leans on nothing. -/
def Sign.Fresh (s : Sign) : Prop := s.Plain → s.cls = 0

theorem Sign.ofCode_fresh (c : Nat) : (Sign.ofCode c).Fresh := by
  intro h
  have hlt : c < 0x300 := Nat.lt_trans h (by decide)
  exact if_pos hlt

theorem segment_plain {ss : List Sign} (hfresh : ∀ s ∈ ss, s.Fresh)
    (h : ∀ s ∈ compose (reorder ss), s.Plain) : compose (reorder ss) = ss := by
  have hcompose := compose_plain h
  rw [hcompose] at h ⊢
  exact reorder_starters fun s hs => hfresh s hs (h s ((reorder_perm ss).mem_iff.mpr hs))

end Composition

section Segments

theorem signs_fresh (r : Rune) : ∀ s ∈ signs r, s.Fresh := by
  intro s hs
  unfold signs at hs
  split at hs
  · obtain ⟨b, -, rfl⟩ := List.mem_map.mp hs
    exact fun _ => rfl
  · obtain ⟨c, -, rfl⟩ := List.mem_map.mp hs
    exact Sign.ofCode_fresh c

/-- The signs of all segments, in order. -/
def segmented (count : Nat) (rs : List Rune) : List Sign :=
  (segments count rs).1 ++ (segments count rs).2.flatten

/-- In a well-formed text a step adds its signs, with a joiner before them where a run is too long. -/
theorem segmented_cons {r : Rune} (hr : r.isStray = false) (count : Nat) (rs : List Rune) :
    ∃ next joiners, (joiners = [] ∨ joiners = [Sign.joiner]) ∧
      segmented count (r :: rs) = joiners ++ (signs r ++ segmented next rs) := by
  have hcut : cutShort r rs = false := by simp [cutShort, hr]
  unfold segmented
  rw [segments, hcut, hr]
  simp only [Bool.false_eq_true, if_false]
  split
  · exact ⟨(marks r.code).2, [], Or.inl rfl, by simp⟩
  · split
    · exact ⟨(marks r.code).1, [Sign.joiner], Or.inr rfl, by simp⟩
    · exact ⟨count + (marks r.code).1, [], Or.inl rfl, by simp⟩

/-- A stray byte is kept as it is, and so is all that follows where the text ends too soon. -/
theorem segmented_stray {r : Rune} (hr : r.isStray = true) (count : Nat) (rs : List Rune) :
    segmented count (r :: rs) = (Utf8.spell (r :: rs)).map Sign.raw ∨
      ∃ next, segmented count (r :: rs) = signs r ++ segmented next rs := by
  unfold segmented
  cases hcut : cutShort r rs with
  | true =>
      rw [segments, if_pos hcut]
      exact Or.inl (by simp)
  | false =>
      rw [segments, hcut, hr]
      exact Or.inr ⟨0, by simp⟩

theorem segmented_fresh (rs : List Rune) (count : Nat) : ∀ s ∈ segmented count rs, s.Fresh := by
  induction rs generalizing count with
  | nil => simp [segmented, segments]
  | cons r rs ih =>
      intro s hs
      cases hr : r.isStray with
      | true =>
          rcases segmented_stray hr count rs with heq | ⟨next, heq⟩
          · rw [heq] at hs
            obtain ⟨b, -, rfl⟩ := List.mem_map.mp hs
            exact fun _ => rfl
          · rw [heq] at hs
            rcases List.mem_append.mp hs with hs | hs
            · exact signs_fresh r s hs
            · exact ih next s hs
      | false =>
          obtain ⟨next, joiners, hjoiners, heq⟩ := segmented_cons hr count rs
          rw [heq] at hs
          rcases List.mem_append.mp hs with hs | hs
          · rcases hjoiners with rfl | rfl
            · cases hs
            · rw [List.mem_singleton.mp hs]
              exact fun _ => rfl
          · rcases List.mem_append.mp hs with hs | hs
            · exact signs_fresh r s hs
            · exact ih next s hs

/-- A stray byte is none of ASCII and stays in its segment, so plain segments come from no such text. -/
theorem not_stray_of_segmented {rs : List Rune} (hrs : ∀ r ∈ rs, r.isStray = true → ¬Ascii r.spelling)
    (count : Nat) (h : ∀ s ∈ segmented count rs, s.Plain) : ∀ r ∈ rs, r.isStray = false := by
  induction rs generalizing count with
  | nil => simp
  | cons r rs ih =>
      have hrest : ∀ r ∈ rs, r.isStray = true → ¬Ascii r.spelling :=
        fun t ht => hrs t (List.mem_cons_of_mem r ht)
      cases hr : r.isStray with
      | true =>
          exfalso
          refine hrs r List.mem_cons_self hr fun b hb => ?_
          have hraw : Sign.raw b ∈ segmented count (r :: rs) := by
            rcases segmented_stray hr count rs with heq | ⟨next, heq⟩
            · rw [heq]
              exact List.mem_map_of_mem (List.mem_append_left _ hb)
            · rw [heq, signs, if_pos hr]
              exact List.mem_append_left _ (List.mem_map_of_mem hb)
          exact h _ hraw
      | false =>
          obtain ⟨next, joiners, -, heq⟩ := segmented_cons hr count rs
          rw [heq] at h
          intro t ht
          rcases List.mem_cons.mp ht with rfl | ht
          · exact hr
          · refine ih hrest next (fun s hs => h s ?_) t ht
            exact List.mem_append_right _ (List.mem_append_right _ hs)

/-- No joiner is plain, so plain segments hold the signs of the text and nothing else. -/
theorem segmented_plain {rs : List Rune} (hrs : ∀ r ∈ rs, r.isStray = false) (count : Nat)
    (h : ∀ s ∈ segmented count rs, s.Plain) : segmented count rs = rs.flatMap signs := by
  induction rs generalizing count with
  | nil => rfl
  | cons r rs ih =>
      obtain ⟨next, joiners, hjoiners, heq⟩ := segmented_cons (hrs r List.mem_cons_self) count rs
      rw [heq] at h ⊢
      have hnone : joiners = [] := by
        rcases hjoiners with rfl | rfl
        · rfl
        · have hplain : Sign.joiner.Plain := h _ List.mem_cons_self
          exact absurd hplain (Nat.not_lt.mpr (by decide))
      rw [hnone, List.nil_append, List.flatMap_cons]
      congr 1
      refine ih (fun t ht => hrs t (List.mem_cons_of_mem r ht)) next fun s hs => h s ?_
      exact List.mem_append_right _ (List.mem_append_right _ hs)

end Segments

section Form

theorem canonical_of_ascii {s : Bytes} (h : Ascii s) : canonical s = s :=
  if_pos (List.all_eq_true.mpr fun b hb => decide_eq_true (h b hb))

theorem expand_ascii {c : Nat} (h : c < 0x80) : expand c = [c] := if_pos (by omega)

theorem encode_ascii {c : Nat} (h : c < 0x80) : Utf8.encode c = [c.toUInt8] := if_pos h

theorem canonical_segmented {s : Bytes} (h : Ascii (canonical s)) (hs : ¬s.all (· < 0x80) = true) :
    canonical s = (segmented 0 (Utf8.runes s)).flatMap Sign.spelling := by
  have hform : canonical s = ((segments 0 (Utf8.runes s)).1 :: (segments 0 (Utf8.runes s)).2).flatMap
      fun segment => (compose (reorder segment)).flatMap Sign.spelling := if_neg hs
  have hflat : ((segments 0 (Utf8.runes s)).1 :: (segments 0 (Utf8.runes s)).2).flatten =
      segmented 0 (Utf8.runes s) := rfl
  generalize (segments 0 (Utf8.runes s)).1 :: (segments 0 (Utf8.runes s)).2 = segs at hform hflat
  have hsegs : ∀ seg ∈ segs, compose (reorder seg) = seg := by
    intro seg hseg
    refine segment_plain ?_ fun t ht => Sign.plain_of_spelling fun b hb => ?_
    · intro t ht
      apply segmented_fresh (Utf8.runes s) 0
      rw [← hflat]
      exact List.mem_flatten_of_mem hseg ht
    · apply h
      rw [hform]
      exact List.mem_flatMap.mpr ⟨seg, hseg, List.mem_flatMap.mpr ⟨t, ht, hb⟩⟩
  rw [hform, ← hflat, List.flatten_eq_flatMap, List.flatMap_assoc]
  exact List.flatMap_congr fun seg hseg => by rw [hsegs seg hseg]; rfl

theorem segmented_ascii {s : Bytes} (h : Ascii (canonical s)) (hs : ¬s.all (· < 0x80) = true) :
    ∀ t ∈ segmented 0 (Utf8.runes s), t.Plain := by
  intro t ht
  refine Sign.plain_of_spelling fun b hb => h b ?_
  rw [canonical_segmented h hs]
  exact List.mem_flatMap.mpr ⟨t, ht, hb⟩

/-- A text whose form is ASCII is well-formed. -/
theorem not_stray_of_canonical {s : Bytes} (h : Ascii (canonical s)) :
    ∀ r ∈ Utf8.runes s, r.isStray = false := by
  by_cases hs : s.all (· < 0x80) = true
  · have hascii : Ascii s := fun b hb => of_decide_eq_true (List.all_eq_true.mp hs b hb)
    intro r hr
    rw [Utf8.runes_ascii hascii] at hr
    obtain ⟨b, hb, rfl⟩ := List.mem_map.mp hr
    have hlt : b.toNat < 0x80 := UInt8.lt_iff_toNat_lt.mp (hascii b hb)
    have hne : b.toNat ≠ Rune.replacement := Nat.ne_of_lt (Nat.lt_trans hlt (by decide))
    simp [Rune.isStray, hne]
  · exact not_stray_of_segmented (fun r hr => Utf8.not_ascii_of_stray hr) 0 (segmented_ascii h hs)

/-- A text whose form is ASCII has its code points, decomposed one by one, for its form. -/
theorem canonical_expanded {s : Bytes} (h : Ascii (canonical s)) :
    canonical s = (Utf8.runes s).flatMap (fun r => (expand r.code).flatMap Utf8.encode) := by
  by_cases hs : s.all (· < 0x80) = true
  · have hascii : Ascii s := fun b hb => of_decide_eq_true (List.all_eq_true.mp hs b hb)
    rw [canonical_of_ascii hascii, Utf8.runes_ascii hascii, List.flatMap_map]
    refine (List.flatMap_singleton' s).symm.trans (List.flatMap_congr fun b hb => ?_)
    have hlt : b.toNat < 0x80 := UInt8.lt_iff_toNat_lt.mp (hascii b hb)
    rw [expand_ascii hlt, List.flatMap_singleton, encode_ascii hlt]
    simp
  · have hrs := not_stray_of_canonical h
    rw [canonical_segmented h hs, segmented_plain hrs 0 (segmented_ascii h hs), List.flatMap_assoc]
    refine List.flatMap_congr fun r hr => ?_
    rw [signs, hrs r hr, if_neg Bool.false_ne_true, List.flatMap_map]
    rfl

theorem expanded_ne_nil (c : Nat) (h : ∀ p ∈ expand c, p < 0x80) :
    (expand c).flatMap Utf8.encode ≠ [] := by
  rcases expand_plain h with hlow | hmem
  · rw [expand_ascii hlow, List.flatMap_singleton, encode_ascii hlow]
    exact List.cons_ne_nil _ _
  · have hall : ∀ c ∈ plainable, (expand c).flatMap Utf8.encode ≠ [] := by decide +kernel
    exact hall c hmem

/-- A byte of ASCII that nothing else decomposes to is the form of itself alone. -/
theorem eq_of_canonical_eq {w : Bytes} {a : UInt8} (ha : a < 0x80)
    (halone : ∀ c ∈ plainable, (expand c).flatMap Utf8.encode ≠ [a]) (h : canonical w = [a]) : w = [a] := by
  have hascii : Ascii (canonical w) := by
    rw [h]
    intro b hb
    rwa [List.mem_singleton.mp hb]
  have hform := canonical_expanded hascii
  have hplain : ∀ r ∈ Utf8.runes w, ∀ p ∈ expand r.code, p < 0x80 := by
    intro r hr p hp
    refine encode_plain fun b hb => hascii b ?_
    rw [hform]
    exact List.mem_flatMap.mpr ⟨r, hr, List.mem_flatMap.mpr ⟨p, hp, hb⟩⟩
  rw [h] at hform
  cases w with
  | nil => cases hform
  | cons b rest =>
      obtain ⟨front, after, hrest, hspell, hrunes⟩ := Utf8.runes_step b rest
      rw [hrunes] at hform hplain
      have hfront := expanded_ne_nil _ (hplain _ List.mem_cons_self)
      rw [List.flatMap_cons, eq_comm, List.append_eq_singleton_iff] at hform
      obtain ⟨hnil, -⟩ | ⟨hcode, hafter⟩ := hform
      · exact absurd hnil hfront
      rcases expand_plain (hplain _ List.mem_cons_self) with hlow | hmem
      · rw [expand_ascii hlow, List.flatMap_singleton, encode_ascii hlow] at hcode
        have hcode' := List.cons.inj hcode
        have hb := Utf8.first_code_ascii hlow
        rw [← hb] at hcode'
        have hba : b = a := by simpa using hcode'.1
        have hnone : Utf8.runes after = [] := by
          cases hrs : Utf8.runes after with
          | nil => rfl
          | cons t ts =>
              rw [hrs] at hafter hplain
              have ht := expanded_ne_nil _ (hplain t (by simp))
              exact absurd (List.flatMap_eq_nil_iff.mp hafter t List.mem_cons_self) ht
        have hshort : front = [] := by
          rw [hba, Utf8.first_ascii ha] at hspell
          exact (List.cons.inj hspell).2.symm
        have hend : after = [] := by
          rw [← Utf8.spell_runes after, hnone]
          rfl
        rw [hba, hrest, hshort, hend]
        rfl
      · exact absurd hcode (halone _ hmem)

end Form

end Canonical

end FlowBlocks
