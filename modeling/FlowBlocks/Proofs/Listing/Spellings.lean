import FlowBlocks.Proofs.Listing.Legible
import FlowBlocks.Proofs.Listing.Origins
import FlowBlocks.Proofs.Text.Layout
/-!
Lines with labels spelled in other ways. `Respelled` relates two lines that differ in the spelling of labels
alone, each replaced by a word of the same canonical form: before a colon, as a target and in a trap. Where
every spelling before a colon is one that a label may have, both lines are read alike up to the text of the
instruction; otherwise the second line has fewer labels.
-/
namespace FlowBlocks

namespace Line

/-- Before a colon a label is a name, and at the start of a line none that begins a directive. -/
def IsLabel (atStart : Bool) (l : Bytes) : Prop :=
  isName true (Utf8.runes l) = true ∧ (atStart = true → l.head? ≠ some (byte '.'))

/-- The operands behind a keyword, with the labels among them spelled in two ways. -/
inductive Operands : Bytes → List Bytes → List Bytes → Prop
  | jump {l l' : Bytes} (same : canonical l = canonical l') : Operands (bytes "goto") [l] [l']
  | cond {l l' : Bytes} (test : List Bytes) (same : canonical l = canonical l') :
      Operands (bytes "if") (test ++ [bytes "goto", l]) (test ++ [bytes "goto", l'])
  | switch {l l' : Bytes} {ls ls' : List Bytes} (value : Bytes)
      (cases : List.Forall₂ (fun a b => canonical a = canonical b) ls ls')
      (same : canonical l = canonical l') :
      Operands (bytes "switch") (value :: (ls ++ [bytes "default", l]))
        (value :: (ls' ++ [bytes "default", l']))
  | trap {a a' b b' h h' : Bytes} (first : canonical a = canonical a')
      (past : canonical b = canonical b') (handler : canonical h = canonical h') :
      Operands (bytes ".trap") [a, b, h] [a', b', h']

/-- Two texts that differ in the spelling of labels alone, with words for words of the same canonical form.
What stands before a colon is a label in the first, and in the second as `P` says. -/
inductive CodeRespelled (P : Bool → Bytes → Prop) : Bool → Bytes → Bytes → Prop
  | same {atStart : Bool} (s : Bytes) : CodeRespelled P atStart s s
  | operands {atStart : Bool} {gap key s s' : Bytes} {ws ws' : List Bytes} (hgap : Gap gap)
      (hwords : Reworded ws ws' s s') (hkey : Operands key ws ws') :
      CodeRespelled P atStart (gap ++ (key ++ s)) (gap ++ (key ++ s'))
  | label {atStart : Bool} {gap l l' s s' : Bytes} (hgap : Gap gap) (hword : Word l) (hword' : Word l')
      (same : canonical l = canonical l') (hlabel : IsLabel atStart l) (hlabel' : P atStart l')
      (hcolon' : byte ':' ∉ l') (hafter : s.head? ≠ some (byte '=')) (behind : CodeRespelled P false s s') :
      CodeRespelled P atStart (gap ++ (l ++ byte ':' :: s)) (gap ++ (l' ++ byte ':' :: s'))

/-- Two lines with labels spelled in other ways; what is behind a comment sign stays as it is. -/
def Respelled (P : Bool → Bytes → Prop) (raw raw' : Bytes) : Prop :=
  ∃ code code' comment, raw = code ++ comment ∧ raw' = code' ++ comment ∧ byte '#' ∉ code ∧
    byte '#' ∉ code' ∧ (∀ b ∈ comment.head?, b = byte '#') ∧ CodeRespelled P true code code'

theorem Respelled.refl (P : Bool → Bytes → Prop) (raw : Bytes) : Respelled P raw raw := by
  have hcode : byte '#' ∉ raw.takeWhile (· != byte '#') := by
    intro h
    simpa using List.mem_takeWhile_imp h
  refine ⟨_, _, raw.dropWhile (· != byte '#'), List.takeWhile_append_dropWhile.symm,
    List.takeWhile_append_dropWhile.symm, hcode, hcode, ?_, .same _⟩
  intro b hb
  have hhead := List.head?_dropWhile_not (· != byte '#') raw
  rw [hb] at hhead
  simpa using hhead

section Said

theorem gap_return : Gap [13] := by
  unfold Gap
  decide

/-- A return at the end of a line is a blank like others. -/
theorem said_eq (raw : Bytes) : said raw = trim (raw.takeWhile (· != byte '#')) := by
  unfold said Listing.dropReturn
  split
  · next hreturn =>
      obtain ⟨front, rfl⟩ := List.getLast?_eq_some_iff.mp (beq_iff_eq.mp hreturn)
      rw [List.dropLast_concat, List.takeWhile_append]
      split
      · next hall =>
          have hfront : front.takeWhile (· != byte '#') = front :=
            (List.takeWhile_prefix _).eq_of_length hall
          rw [hfront]
          exact (gap_return.trim_append_right front).symm
      · rfl
  · rfl

theorem said_append {code comment : Bytes} (hcode : byte '#' ∉ code)
    (hcomment : ∀ b ∈ comment.head?, b = byte '#') : said (code ++ comment) = trim code := by
  have hnone : ∀ b ∈ code, (b != byte '#') = true := by
    intro b hb
    simpa using ne_of_mem_of_not_mem hb hcode
  have hstop : comment.takeWhile (· != byte '#') = [] := by
    cases comment with
    | nil => rfl
    | cons b rest => simp [hcomment b rfl]
  rw [said_eq, List.takeWhile_append_of_pos hnone, hstop, List.append_nil]

end Said

section Keywords

variable {key : Bytes} {ws ws' : List Bytes}

theorem Operands.keyword (h : Operands key ws ws') : Word key ∧ byte ':' ∉ key := by
  cases h with
  | jump same => exact ⟨⟨by decide +kernel, by decide +kernel⟩, by decide +kernel⟩
  | cond test same => exact ⟨⟨by decide +kernel, by decide +kernel⟩, by decide +kernel⟩
  | switch value cases same => exact ⟨⟨by decide +kernel, by decide +kernel⟩, by decide +kernel⟩
  | trap first past handler => exact ⟨⟨by decide +kernel, by decide +kernel⟩, by decide +kernel⟩

theorem map_canonical_eq {ls ls' : List Bytes}
    (h : List.Forall₂ (fun a b => canonical a = canonical b) ls ls') :
    ls.map canonical = ls'.map canonical := by
  induction h with
  | nil => rfl
  | cons same _ ih => rw [List.map_cons, List.map_cons, same, ih]

/-- An instruction jumps to the same labels however they are spelled. -/
theorem Operands.readOp_eq (h : Operands key ws ws') {text text' : Bytes} (hwords : words text = key :: ws)
    (hwords' : words text' = key :: ws') : readOp text = readOp text' := by
  unfold readOp
  rw [hwords, hwords']
  cases h with
  | jump same => simp [same]
  | @cond l l' test same =>
      have hgoto : bytes "if" ≠ bytes "goto" := by decide +kernel
      have hlast : ∀ l, (bytes "if" :: (test ++ [bytes "goto", l])).reverse =
          l :: bytes "goto" :: (test.reverse ++ [bytes "if"]) := by simp
      dsimp only
      rw [if_neg hgoto, if_pos rfl, if_neg hgoto, if_pos rfl, hlast, hlast]
      cases test.reverse with
      | nil => rfl
      | cons t ts => cases ts <;> simp [same]
  | @switch l l' ls ls' value cases same =>
      have hgoto : bytes "switch" ≠ bytes "goto" := by decide +kernel
      have hif : bytes "switch" ≠ bytes "if" := by decide +kernel
      have hlast : ∀ l ls, ∃ a b rest, (bytes "switch" :: value :: (ls ++ [bytes "default", l])).reverse =
          l :: bytes "default" :: a :: b :: rest := by
        intro l ls
        cases hls : ls.reverse with
        | nil => exact ⟨value, bytes "switch", [], by simp [hls]⟩
        | cons t ts => cases ts <;> simp [hls]
      obtain ⟨a, b, rest, hrest⟩ := hlast l ls
      obtain ⟨a', b', rest', hrest'⟩ := hlast l' ls'
      dsimp only
      rw [if_neg hgoto, if_neg hif, if_pos rfl, if_neg hgoto, if_neg hif, if_pos rfl, hrest, hrest']
      simp [same, map_canonical_eq cases]
  | trap first past handler =>
      have hkeys : bytes ".trap" ≠ bytes "goto" ∧ bytes ".trap" ≠ bytes "if" ∧
          bytes ".trap" ≠ bytes "switch" ∧ bytes ".trap" ≠ bytes "return" ∧
          bytes ".trap" ≠ bytes "throw" ∧ bytes ".trap" ≠ bytes "nop" := by decide +kernel
      simp [hkeys]

theorem canonical_eq_dash {w : Bytes} : canonical w = bytes "-" ↔ w = bytes "-" := by
  constructor
  · exact Canonical.eq_of_canonical_eq (by decide) (by decide +kernel)
  · rintro rfl
    exact Canonical.canonical_of_ascii (by unfold Ascii; decide +kernel)

theorem Operands.readDirective_eq (h : Operands key ws ws') :
    readDirective (key :: ws) = readDirective (key :: ws') := by
  cases h with
  | jump same => rfl
  | cond test same => rfl
  | switch value cases same => rfl
  | @trap a a' b b' h h' first past handler =>
      have hbody : bytes ".trap" ≠ bytes ".body" := by decide +kernel
      have hdash : b = bytes "-" ↔ b' = bytes "-" := by
        rw [← canonical_eq_dash, past, canonical_eq_dash]
      simp only [readDirective, if_neg hbody, if_true, hdash, first, past, handler]

end Keywords

section Cuts

variable {gap l key s : Bytes}

theorem byte_mem_runes {b : UInt8} (hb : b < 0x80) (h : b ∈ l) : ⟨b.toNat, [b]⟩ ∈ Utf8.runes l := by
  obtain ⟨front, after, rfl⟩ := List.append_of_mem h
  rw [Utf8.runes_append_ascii hb]
  exact List.mem_append_right _ List.mem_cons_self

theorem not_mem_of_isName {b : UInt8} (hb : b < 0x80) (hcode : isNameCode 1 b.toNat = false)
    (hname : isName true (Utf8.runes l) = true) : b ∉ l := by
  intro h
  have := isName_codes hname _ (byte_mem_runes hb h)
  rw [hcode] at this
  cases this

theorem not_isNameCode_of_blank {c : Nat} (h : isBlank c = true) : isNameCode 1 c = false := by
  have hall : ∀ c ∈ List.range' 9 5 ++ List.range' 0x2000 11 ++
      [0x20, 0x85, 0xA0, 0x1680, 0x2028, 0x2029, 0x202F, 0x205F, 0x3000], isNameCode 1 c = false := by
    decide +kernel
  refine hall c ?_
  simp only [isBlank, Bool.or_eq_true, Bool.and_eq_true, decide_eq_true_eq, beq_iff_eq] at h
  simp only [List.mem_append, List.mem_range'_1, List.mem_cons, List.not_mem_nil, or_false]
  omega

/-- No front of a text is a label that holds a blank. -/
theorem splitLabel?_spaced (hgap : Gap gap) (hkey : Word key) (hcolon : byte ':' ∉ key) (hs : Parted s) :
    splitLabel? (trim (gap ++ (key ++ s))) = none := by
  have hblank : ∀ r ∈ (Utf8.runes (trimRight s)).head?, r.isBlank = true := by
    rw [runes_trimRight]
    intro r hr
    obtain ⟨after, hafter⟩ := List.rdropWhile_prefix Rune.isBlank (Utf8.runes s)
    refine hs r ?_
    rw [← hafter, List.head?_append, hr]
    rfl
  rw [hgap.trim_append, hkey.trim_append (hs.runes_append key)]
  cases hsplit : splitLabel? (key ++ trimRight s) with
  | none => rfl
  | some cut =>
      obtain ⟨name, after, htext, -, hname, -, -⟩ := splitLabel?_eq_some hsplit
      have hrunes := congrArg Utf8.runes htext
      rw [Parted.runes_append hblank, Utf8.runes_append_ascii (by decide)] at hrunes
      rcases List.append_eq_append_iff.mp hrunes with ⟨more, hmore, heq⟩ | ⟨more, hmore, heq⟩
      · -- the name reaches into the blanks
        cases more with
        | nil => exact absurd (hblank _ (by rw [heq]; rfl)) (by decide)
        | cons r more =>
            have hr := hblank r (by rw [heq]; rfl)
            have hcode := isName_codes hname r (by rw [hmore]; simp)
            rw [not_isNameCode_of_blank hr] at hcode
            cases hcode
      · -- the colon stands in the keyword
        cases more with
        | nil =>
            rw [List.nil_append] at heq
            exact absurd (hblank _ (by rw [← heq]; rfl)) (by decide)
        | cons r more =>
            obtain ⟨rfl, -⟩ := List.cons.inj heq
            refine absurd ?_ hcolon
            rw [← Utf8.spell_runes key, hmore]
            simp [Utf8.spell]

theorem trim_label (hgap : Gap gap) (hword : Word l) (s : Bytes) :
    trim (gap ++ (l ++ byte ':' :: s)) = l ++ byte ':' :: trimRight s := by
  have hrunes : ∀ t, Utf8.runes (l ++ byte ':' :: t) = Utf8.runes l ++ ⟨58, [byte ':']⟩ :: Utf8.runes t :=
    fun t => Utf8.runes_append_ascii (by decide) l t
  have hcolon : Word (l ++ [byte ':']) := by
    refine ⟨by simp, fun r hr => ?_⟩
    rw [hrunes] at hr
    rcases List.mem_append.mp hr with hr | hr
    · exact hword.solid r hr
    · rw [List.mem_singleton.mp hr]
      decide
  have hsplit : l ++ byte ':' :: s = (l ++ [byte ':']) ++ s := by simp
  rw [hgap.trim_append, hsplit, hcolon.trim_append, List.append_assoc]
  · rfl
  · rw [← hsplit, hrunes, hrunes, List.append_assoc]
    rfl

theorem head?_trimRight {b : UInt8} (h : (trimRight s).head? = some b) : s.head? = some b := by
  obtain ⟨g, -, hs⟩ := trimRight_gap s
  rw [hs]
  exact List.head?_append_of_ne_nil _ (by rintro hnil; rw [hnil] at h; cases h) |>.trans h

theorem splitLabel?_label (hgap : Gap gap) (hword : Word l) (hname : isName true (Utf8.runes l) = true)
    (hafter : s.head? ≠ some (byte '=')) :
    splitLabel? (trim (gap ++ (l ++ byte ':' :: s))) = some (canonical l, trim s) := by
  have hcolon : byte ':' ∉ l := not_mem_of_isName (by decide) (by decide) hname
  rw [trim_label hgap hword, splitLabel?_name hcolon hword.nonempty hname (mt head?_trimRight hafter),
    trim_trimRight]

/-- What stands before the first colon is cut off as a whole or not at all. -/
theorem splitLabel?_cut (hgap : Gap gap) (hword : Word l) (hcolon : byte ':' ∉ l) (s : Bytes) :
    splitLabel? (trim (gap ++ (l ++ byte ':' :: s))) = none ∨
      isName true (Utf8.runes l) = true ∧
        splitLabel? (trim (gap ++ (l ++ byte ':' :: s))) = some (canonical l, trim s) := by
  rw [trim_label hgap hword, splitLabel?, cut?_append hcolon]
  dsimp only
  split
  · exact Or.inl rfl
  · next hcond =>
      simp only [Bool.or_eq_true, not_or, Bool.not_eq_true', Bool.not_eq_false] at hcond
      exact Or.inr ⟨hcond.2, by rw [trim_trimRight]⟩

end Cuts

section Alike

variable {atStart : Bool} {s s' : Bytes}

theorem words_operands {gap key t t' : Bytes} {ws ws' : List Bytes} (hgap : Gap gap) (hkey : Word key)
    (h : Reworded ws ws' t t') : words (trim (gap ++ (key ++ t))) = key :: ws := by
  rw [words_trim, hgap.words_append, hkey.words_append h.parted, h.words_eq]

theorem head?_operands {gap key t t' : Bytes} {ws ws' : List Bytes} (hgap : Gap gap) (hkey : Word key)
    (h : Reworded ws ws' t t') : (trim (gap ++ (key ++ t))).head? = key.head? := by
  rw [hgap.trim_append, hkey.trim_append (h.parted.runes_append key),
    List.head?_append_of_ne_nil _ hkey.nonempty]

theorem head?_label {gap l : Bytes} (hgap : Gap gap) (hword : Word l) (t : Bytes) :
    (trim (gap ++ (l ++ byte ':' :: t))).head? = l.head? := by
  rw [trim_label hgap hword, List.head?_append_of_ne_nil _ hword.nonempty]

theorem CodeRespelled.head?_ne (h : CodeRespelled IsLabel atStart s s') (hs : s.head? ≠ some (byte '=')) :
    s'.head? ≠ some (byte '=') := by
  have hgaps : ∀ {gap t t' : Bytes}, (gap ++ t).head? ≠ some (byte '=') →
      (t.head? ≠ some (byte '=') → t'.head? ≠ some (byte '=')) → (gap ++ t').head? ≠ some (byte '=') := by
    intro gap t t' hne hback
    cases gap with
    | nil => exact hback hne
    | cons b gap => exact hne
  cases h with
  | same s => exact hs
  | @operands _ _ key t t' _ _ hgap hwords hkey =>
      have hne := hkey.keyword.1.nonempty
      refine hgaps hs fun hne' => ?_
      rwa [List.head?_append_of_ne_nil _ hne] at hne' ⊢
  | @label _ _ l l' t t' hgap hword hword' same hlabel hlabel' hcolon' hafter behind =>
      refine hgaps hs fun _ => ?_
      rw [List.head?_append_of_ne_nil _ hword'.nonempty]
      intro hhead
      exact not_mem_of_isName (by decide) (by decide) hlabel'.1 (List.mem_of_mem_head? hhead)

theorem CodeRespelled.dotted (h : CodeRespelled IsLabel true s s') :
    (trim s).head? = some (byte '.') ↔ (trim s').head? = some (byte '.') := by
  cases h with
  | same s => exact Iff.rfl
  | operands hgap hwords hkey =>
      have hword := hkey.keyword.1
      rw [head?_operands hgap hword hwords, head?_operands hgap hword hwords.symm]
  | label hgap hword hword' same hlabel hlabel' hcolon' hafter behind =>
      rw [head?_label hgap hword, head?_label hgap hword']
      exact ⟨fun h => absurd h (hlabel.2 rfl), fun h => absurd h (hlabel'.2 rfl)⟩

theorem CodeRespelled.readDirective_eq (h : CodeRespelled IsLabel true s s')
    (hdot : (trim s).head? = some (byte '.')) :
    readDirective (words (trim s)) = readDirective (words (trim s')) := by
  cases h with
  | same s => rfl
  | operands hgap hwords hkey =>
      have hword := hkey.keyword.1
      rw [words_operands hgap hword hwords, words_operands hgap hword hwords.symm, hkey.readDirective_eq]
  | label hgap hword hword' same hlabel hlabel' hcolon' hafter behind =>
      rw [head?_label hgap hword] at hdot
      exact absurd hdot (hlabel.2 rfl)

/-- Both texts have the same labels, and what is left behind them is of one kind. -/
theorem CodeRespelled.labelled (h : CodeRespelled IsLabel atStart s s') :
    ∃ labels last last', Labelled (trim s) labels last ∧ Labelled (trim s') labels last' ∧
      last.isEmpty = last'.isEmpty ∧ readOp last = readOp last' := by
  induction h with
  | same s =>
      have hlabelled := splitLabels_labelled (Nat.le_refl (trim s).length)
      exact ⟨_, _, _, hlabelled, hlabelled, rfl, rfl⟩
  | @operands _ gap key t t' ws ws' hgap hwords hkey =>
      obtain ⟨hword, hcolon⟩ := hkey.keyword
      have hne : ∀ {t t' : Bytes} {ws ws' : List Bytes}, Reworded ws ws' t t' →
          (trim (gap ++ (key ++ t))).isEmpty = false := by
        intro t t' ws ws' h
        have hhead := head?_operands hgap hword h
        cases htrim : trim (gap ++ (key ++ t)) with
        | nil =>
            rw [htrim] at hhead
            exact absurd (List.head?_eq_none_iff.mp hhead.symm) hword.nonempty
        | cons b rest => rfl
      refine ⟨[], _, _, .done (splitLabel?_spaced hgap hword hcolon hwords.parted),
        .done (splitLabel?_spaced hgap hword hcolon hwords.symm.parted), ?_, ?_⟩
      · rw [hne hwords, hne hwords.symm]
      · exact hkey.readOp_eq (words_operands hgap hword hwords) (words_operands hgap hword hwords.symm)
  | label hgap hword hword' same hlabel hlabel' hcolon' hafter behind ih =>
      obtain ⟨labels, last, last', hlast, hlast', hempty, hop⟩ := ih
      refine ⟨_, last, last', .more (splitLabel?_label hgap hword hlabel.1 hafter) hlast, ?_, hempty, hop⟩
      rw [same]
      exact .more (splitLabel?_label hgap hword' hlabel'.1 (behind.head?_ne hafter)) hlast'

end Alike

section Fewer

variable {atStart : Bool} {gap l s s' : Bytes}

/-- The number of labels in front of a text. -/
def labelCount (atStart : Bool) (s : Bytes) : Nat :=
  if atStart && (trim s).head? == some (byte '.') then 0
  else (splitLabels (trim s).length (trim s)).1.length

theorem labelCount_of_labelled {labels : List Bytes} {last : Bytes} (h : Labelled (trim s) labels last)
    (hdot : atStart = true → (trim s).head? ≠ some (byte '.')) : labelCount atStart s = labels.length := by
  have hcond : (atStart && (trim s).head? == some (byte '.')) = false := by
    cases atStart with
    | false => rfl
    | true => simpa using hdot rfl
  rw [labelCount, hcond, h.splitLabels_eq (Nat.le_refl _)]
  rfl

theorem labelCount_le_of_labelled {labels : List Bytes} {last : Bytes} (h : Labelled (trim s) labels last) :
    labelCount atStart s ≤ labels.length := by
  rw [labelCount, h.splitLabels_eq (Nat.le_refl _)]
  split
  · exact Nat.zero_le _
  · exact Nat.le_refl _

theorem labelled_count (s : Bytes) : ∃ labels last, Labelled (trim s) labels last ∧
    labels.length = labelCount false s :=
  have h := splitLabels_labelled (Nat.le_refl (trim s).length)
  ⟨_, _, h, (labelCount_of_labelled h (by simp)).symm⟩

theorem labelCount_label (hgap : Gap gap) (hword : Word l) (hlabel : IsLabel atStart l)
    (hafter : s.head? ≠ some (byte '=')) :
    labelCount atStart (gap ++ (l ++ byte ':' :: s)) = labelCount false s + 1 := by
  obtain ⟨labels, last, hlast, hcount⟩ := labelled_count s
  have hmore := Labelled.more (splitLabel?_label hgap hword hlabel.1 hafter) hlast
  rw [labelCount_of_labelled hmore (by rw [head?_label hgap hword]; exact hlabel.2), List.length_cons, hcount]

theorem labelCount_le (hgap : Gap gap) (hword : Word l) (hcolon : byte ':' ∉ l) (s : Bytes) :
    labelCount atStart (gap ++ (l ++ byte ':' :: s)) ≤ labelCount false s + 1 := by
  obtain ⟨labels, last, hlast, hcount⟩ := labelled_count s
  rcases splitLabel?_cut hgap hword hcolon s with hnone | ⟨-, hsome⟩
  · exact (labelCount_le_of_labelled (.done hnone)).trans (Nat.zero_le _)
  · rw [← hcount]
    exact labelCount_le_of_labelled (.more hsome hlast)

theorem labelCount_eq_zero (hgap : Gap gap) (hword : Word l) (hcolon : byte ':' ∉ l)
    (hlabel : ¬IsLabel atStart l) (s : Bytes) : labelCount atStart (gap ++ (l ++ byte ':' :: s)) = 0 := by
  rcases splitLabel?_cut hgap hword hcolon s with hnone | ⟨hname, -⟩
  · exact Nat.le_zero.mp (labelCount_le_of_labelled (.done hnone))
  · have hdot : atStart = true ∧ l.head? = some (byte '.') := by
      simpa [IsLabel, hname] using hlabel
    rw [labelCount, head?_label hgap hword, hdot.1, hdot.2]
    rfl

/-- A spelling that is no label takes its label and those behind it away. -/
theorem CodeRespelled.fewer {P : Bool → Bytes → Prop} (h : CodeRespelled P atStart s s') :
    CodeRespelled IsLabel atStart s s' ∨ labelCount atStart s' < labelCount atStart s := by
  induction h with
  | same s => exact Or.inl (.same s)
  | operands hgap hwords hkey => exact Or.inl (.operands hgap hwords hkey)
  | @label atStart gap l l' t t' hgap hword hword' same hlabel _ hcolon' hafter _ ih =>
      rw [labelCount_label hgap hword hlabel hafter]
      by_cases hlabel' : IsLabel atStart l'
      · rcases ih with hbehind | hfewer
        · exact Or.inl (.label hgap hword hword' same hlabel hlabel' hcolon' hafter hbehind)
        · have hle : labelCount atStart (gap ++ (l' ++ byte ':' :: t')) ≤ _ :=
            labelCount_le hgap hword' hcolon' t'
          exact Or.inr (by omega)
      · rw [labelCount_eq_zero hgap hword' hcolon' hlabel']
        exact Or.inr (Nat.succ_pos _)

theorem CodeRespelled.labelCount_eq (h : CodeRespelled IsLabel true s s') :
    labelCount true s' = labelCount true s := by
  obtain ⟨labels, last, last', hlast, hlast', -, -⟩ := h.labelled
  by_cases hdot : (trim s).head? = some (byte '.')
  · simp [labelCount, hdot, h.dotted.mp hdot]
  · rw [labelCount_of_labelled hlast fun _ => hdot,
      labelCount_of_labelled hlast' fun _ => mt h.dotted.mpr hdot]

end Fewer

end Line

end FlowBlocks
