import FlowBlocks.Listing.Print
import FlowBlocks.Proofs.Listing.Legible
/-!
Printed lines, one by one. What is printed of a name, a legible instruction or a trap between names is clean text,
which reading takes as it is, and it is read as what it was printed of.
-/
namespace FlowBlocks

/-- A line without comment and without blanks at its ends: reading changes nothing about it at first. -/
structure Clean (s : Bytes) : Prop where
  inline : Inline s
  trimmed : Trimmed s

theorem Clean.text_eq {s : Bytes} (h : Clean s) : trim (s.takeWhile (· != byte '#')) = s := by
  have hall : ∀ b ∈ s, (b != byte '#') = true := by
    intro b hb
    simpa using fun heq : b = byte '#' => h.inline.noComment (heq ▸ hb)
  rw [List.takeWhile_eq_self_iff.mpr hall, h.trimmed.trim_eq_self]

theorem Clean.dropReturn_eq {s : Bytes} (h : Clean s) : Listing.dropReturn s = s :=
  if_neg (by simpa using h.trimmed.getLast?_ne (a := 13) (by decide) (by decide))

theorem Word.clean {w : Bytes} (h : Word w) (hi : Inline w) : Clean w := ⟨hi, h.trimmed⟩

/-- Two clean pieces with a space between them are a clean line. -/
theorem Clean.append {s t : Bytes} (hs : Clean s) (hs' : s ≠ []) (ht : Clean t) (ht' : t ≠ []) :
    Clean (s ++ byte ' ' :: t) := by
  refine ⟨⟨?_, ?_⟩, hs.trimmed.append hs' ht.trimmed ht' (by decide)⟩
  · simp [hs.inline.noComment, ht.inline.noComment, show byte '#' ≠ byte ' ' by decide]
  · simp [hs.inline.noFeed, ht.inline.noFeed, show (10 : UInt8) ≠ byte ' ' by decide]

namespace Line

theorem read_directive {s : Bytes} (h : Clean s) (hdot : s.head? = some (byte '.')) (number : Nat) :
    read number s = readDirective (words s) := by
  unfold read
  rw [h.text_eq]
  dsimp only
  rw [hdot]
  exact if_pos (by decide)

/-- A code line is read by its labels and its text. -/
theorem read_code {s text : Bytes} {labels : List Bytes} {op : Op} {targets : List Bytes} (h : Clean s)
    (hdot : s.head? ≠ some (byte '.')) (hlabels : Labelled s labels text) (htext : text ≠ [])
    (hop : readOp text = .ok (op, targets)) {number : Nat} (hnumber : number ≤ maxNumber) :
    read number s = .ok (.code labels (some { line := number, op, text, targets })) := by
  have hdot' : ¬(s.head? == some (byte '.')) = true := by simpa using hdot
  have htext' : ¬text.isEmpty = true := by simpa using htext
  unfold read
  rw [h.text_eq]
  dsimp only
  rw [if_neg hdot', hlabels.splitLabels_eq (Nat.le_refl _)]
  dsimp only
  rw [if_neg htext', if_neg (Nat.not_lt.mpr hnumber), hop]
  rfl

end Line

theorem Name.withColon {l : Bytes} (h : Name l) : Clean (l ++ [byte ':']) := by
  have hcolon : Utf8.runes (l ++ [byte ':']) = Utf8.runes l ++ [⟨0x3A, [byte ':']⟩] :=
    Utf8.runes_append_ascii (by decide) l []
  have hword : Word (l ++ [byte ':']) := by
    refine ⟨by simp, ?_⟩
    rw [hcolon]
    intro r hr
    rcases List.mem_append.mp hr with hr | hr
    · exact h.word.solid r hr
    · rw [List.mem_singleton.mp hr]
      decide
  refine hword.clean ⟨?_, ?_⟩
  · simp [h.inline.noComment, show byte '#' ≠ byte ':' by decide]
  · simp [h.inline.noFeed, show (10 : UInt8) ≠ byte ':' by decide]

/-- A text behind its labels, as an instruction is shown. -/
def labelled (labels : List Bytes) (text : Bytes) : Bytes := labels.flatMap (fun l => l ++ bytes ": ") ++ text

theorem labelled_cons (l : Bytes) (ls : List Bytes) (text : Bytes) :
    labelled (l :: ls) text = l ++ byte ':' :: byte ' ' :: labelled ls text := by
  have hsep : bytes ": " = [byte ':', byte ' '] := by decide +kernel
  simp [labelled, hsep]

theorem labelled_ne_nil {labels : List Bytes} {text : Bytes} (h : text ≠ []) : labelled labels text ≠ [] := by
  simp [labelled, h]

theorem labelled_clean {labels : List Bytes} {text : Bytes} (hlabels : ∀ l ∈ labels, Name l)
    (htext : Clean text) (hne : text ≠ []) : Clean (labelled labels text) := by
  induction labels with
  | nil => exact htext
  | cons l ls ih =>
      have hrest := ih fun m hm => hlabels m (List.mem_cons_of_mem l hm)
      have hline := (hlabels l List.mem_cons_self).withColon.append (by simp) hrest (labelled_ne_nil hne)
      rwa [List.append_assoc, List.singleton_append, ← labelled_cons] at hline

/-- The labels that are shown before a text are cut off again, and nothing else is. -/
theorem labelled_labelled {labels : List Bytes} {text : Bytes} (hlabels : ∀ l ∈ labels, Name l)
    (htext : Clean text) (hne : text ≠ []) (hbare : Line.splitLabel? text = none) :
    Line.Labelled (labelled labels text) labels text := by
  induction labels with
  | nil => exact .done hbare
  | cons l ls ih =>
      have hl := hlabels l List.mem_cons_self
      have hls : ∀ m ∈ ls, Name m := fun m hm => hlabels m (List.mem_cons_of_mem l hm)
      refine .more ?_ (ih hls)
      -- the blank behind the colon keeps `=` away from it, and is trimmed off with what follows
      have hafter : (byte ' ' :: labelled ls text).head? ≠ some (byte '=') := by
        rw [List.head?_cons]
        decide
      rw [labelled_cons, Line.splitLabel?_name (hl.not_mem (by decide)) hl.nonempty hl.isName hafter,
        hl.canonical_eq, trim_blank_cons (by decide) (by decide),
        (labelled_clean hls htext hne).trimmed.trim_eq_self]

theorem Instr.Legible.clean {x : Instr} (h : x.Legible) (hnames : ∀ l ∈ x.labels, Name l) : Clean x.render :=
  labelled_clean hnames ⟨h.inline, h.trimmed⟩ h.nonempty

theorem Instr.Legible.read_render {x : Instr} (h : x.Legible) (hnames : ∀ l ∈ x.labels, Name l)
    {number : Nat} (hnumber : number ≤ Line.maxNumber) : Line.read number x.render =
      .ok (.code x.labels (some { line := number, op := x.op, text := x.text, targets := x.targets })) := by
  refine Line.read_code (h.clean hnames) ?_ (labelled_labelled hnames ⟨h.inline, h.trimmed⟩ h.nonempty
    h.unlabelled) h.nonempty h.kind hnumber
  change (labelled x.labels x.text).head? ≠ _
  cases hls : x.labels with
  | nil => exact h.undotted hls
  | cons l ls =>
      have hl := hnames l (by rw [hls]; exact List.mem_cons_self)
      rw [labelled_cons, List.head?_append_of_ne_nil _ hl.nonempty]
      exact h.labels.undotted l (by rw [hls]; rfl) hl.ascii

/-- A keyword and operands, as directives are printed. -/
def spaced (ws : List Bytes) (last : Bytes) : Bytes := ws.foldr (fun w s => w ++ byte ' ' :: s) last

theorem spaced_ne_nil {ws : List Bytes} {last : Bytes} (h : last ≠ []) : spaced ws last ≠ [] := by
  cases ws with
  | nil => exact h
  | cons w ws => simp [spaced]

theorem spaced_clean {ws : List Bytes} {last : Bytes} (hws : ∀ w ∈ ws, Word w ∧ Inline w)
    (hlast : Word last ∧ Inline last) : Clean (spaced ws last) ∧ words (spaced ws last) = ws ++ [last] := by
  induction ws with
  | nil => exact ⟨hlast.1.clean hlast.2, words_word hlast.1⟩
  | cons w ws ih =>
      obtain ⟨hclean, hwords⟩ := ih fun v hv => hws v (List.mem_cons_of_mem w hv)
      obtain ⟨hword, hinline⟩ := hws w List.mem_cons_self
      refine ⟨(hword.clean hinline).append hword.nonempty hclean (spaced_ne_nil hlast.1.nonempty), ?_⟩
      change words (w ++ byte ' ' :: spaced ws last) = _
      rw [words_cons hword (by decide) (by decide), hwords]
      rfl

/-- A directive is read by its words. -/
theorem read_spaced {key : Bytes} {ws : List Bytes} {last : Bytes} (hdot : key.head? = some (byte '.'))
    (hws : ∀ w ∈ key :: ws, Word w ∧ Inline w) (hlast : Word last ∧ Inline last) (number : Nat) :
    Line.read number (spaced (key :: ws) last) = Line.readDirective (key :: (ws ++ [last])) := by
  obtain ⟨hclean, hwords⟩ := spaced_clean hws hlast
  have hhead : (spaced (key :: ws) last).head? = some (byte '.') := by
    change (key ++ byte ' ' :: spaced ws last).head? = _
    rw [List.head?_append_of_ne_nil _ (hws key List.mem_cons_self).1.nonempty, hdot]
  rw [Line.read_directive hclean hhead, hwords]
  rfl

theorem keyword_body : Word (bytes ".body") ∧ Inline (bytes ".body") :=
  ⟨⟨by decide +kernel, by decide +kernel⟩, by decide +kernel, by decide +kernel⟩

theorem keyword_trap : Word (bytes ".trap") ∧ Inline (bytes ".trap") :=
  ⟨⟨by decide +kernel, by decide +kernel⟩, by decide +kernel, by decide +kernel⟩

theorem bodyLine_eq (name : Bytes) : bytes ".body " ++ name = spaced [bytes ".body"] name := by
  have hkey : bytes ".body " = bytes ".body" ++ [byte ' '] := by decide +kernel
  rw [hkey, List.append_assoc]
  rfl

theorem read_bodyLine {name : Bytes} (h : Word name ∧ Inline name) (number : Nat) :
    Line.read number (bytes ".body " ++ name) = .ok (.body name) := by
  have hkey : ∀ w ∈ [bytes ".body"], Word w ∧ Inline w := by
    intro w hw
    rw [List.mem_singleton.mp hw]
    exact keyword_body
  rw [bodyLine_eq, read_spaced (by decide +kernel) hkey h]
  simp only [Line.readDirective, List.nil_append, if_true]

/-- A trap between names, or up to the end of the body. -/
structure Trap.Named (t : Trap) : Prop where
  first : Name t.first
  past : t.past = [] ∨ Name t.past
  handler : Name t.handler

/-- What stands for the end of the range in a printed trap. -/
def Trap.pastWord (t : Trap) : Bytes := if t.past.isEmpty then bytes "-" else t.past

theorem Trap.print_eq (t : Trap) : t.print = spaced [bytes ".trap", t.first, t.pastWord] t.handler := by
  have hkey : bytes ".trap " = bytes ".trap" ++ [byte ' '] := by decide +kernel
  have hspace : bytes " " = [byte ' '] := by decide +kernel
  simp [Trap.print, Trap.pastWord, spaced, hkey, hspace]

theorem Trap.Named.pastWord {t : Trap} (h : t.Named) : (Word t.pastWord ∧ Inline t.pastWord) ∧
    (if t.pastWord = bytes "-" then [] else canonical t.pastWord) = t.past := by
  unfold Trap.pastWord
  rcases h.past with hnone | hname
  · rw [hnone]
    exact ⟨⟨⟨by decide +kernel, by decide +kernel⟩, by decide +kernel, by decide +kernel⟩, if_pos rfl⟩
  · have hne : ¬t.past.isEmpty = true := by simpa using hname.nonempty
    have hdash : t.past ≠ bytes "-" := by
      intro heq
      have hmem : byte '-' ∈ t.past := by rw [heq]; decide +kernel
      exact hname.not_mem (by decide) hmem
    rw [if_neg hne, if_neg hdash]
    exact ⟨⟨hname.word, hname.inline⟩, hname.canonical_eq⟩

theorem Trap.Named.words {t : Trap} (h : t.Named) :
    ∀ w ∈ [bytes ".trap", t.first, t.pastWord], Word w ∧ Inline w := by
  intro w hw
  simp only [List.mem_cons, List.not_mem_nil, or_false] at hw
  rcases hw with rfl | rfl | rfl
  · exact keyword_trap
  · exact ⟨h.first.word, h.first.inline⟩
  · exact h.pastWord.1

theorem Trap.Named.clean {t : Trap} (h : t.Named) : Clean t.print := by
  rw [Trap.print_eq]
  exact (spaced_clean h.words ⟨h.handler.word, h.handler.inline⟩).1

theorem Trap.Named.read_print {t : Trap} (h : t.Named) (number : Nat) :
    Line.read number t.print = .ok (.trap t) := by
  have hkey : bytes ".trap" ≠ bytes ".body" := by decide +kernel
  rw [Trap.print_eq, read_spaced (by decide +kernel) h.words ⟨h.handler.word, h.handler.inline⟩]
  simp only [Line.readDirective, List.cons_append, List.nil_append, if_neg hkey, if_true, h.pastWord.2,
    h.first.canonical_eq, h.handler.canonical_eq]

end FlowBlocks
