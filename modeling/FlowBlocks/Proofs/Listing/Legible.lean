import FlowBlocks.Proofs.Bytes
import FlowBlocks.Proofs.Listing.Drafts
import FlowBlocks.Proofs.Listing.Names
/-!
What reading a listing leaves in its drafts: names that are single words, labels that are names, and texts
that hold neither a comment nor a further label. A label is known to be a name only where its canonical form
is ASCII; beyond that a form may hold marks, which no name does.
-/
namespace FlowBlocks

namespace Line

section Labelled

theorem splitLabel?_eq_some {text label rest : Bytes} (h : splitLabel? text = some (label, rest)) :
    ∃ name after, text = name ++ byte ':' :: after ∧ name ≠ [] ∧ isName true (Utf8.runes name) = true ∧
      label = canonical name ∧ rest = trim after := by
  unfold splitLabel? at h
  split at h
  · cases h
  · next name after hcut =>
      split at h
      · cases h
      · next hcond =>
          cases h
          simp only [Bool.or_eq_true, not_or, Bool.not_eq_true', Bool.not_eq_false] at hcond
          refine ⟨name, after, cut?_eq_some hcut, ?_, hcond.2, rfl, rfl⟩
          simpa using hcond.1.1

theorem splitLabel?_name {name : Bytes} (hcolon : byte ':' ∉ name) (hne : name ≠ [])
    (hname : isName true (Utf8.runes name) = true) {after : Bytes} (hafter : after.head? ≠ some (byte '=')) :
    splitLabel? (name ++ byte ':' :: after) = some (canonical name, trim after) := by
  unfold splitLabel?
  rw [cut?_append hcolon]
  simp [hne, hname, hafter]

/-- The labels in front of a text, one after the other, and what is left where no more is cut off. -/
inductive Labelled : Bytes → List Bytes → Bytes → Prop
  | done {text : Bytes} (h : splitLabel? text = none) : Labelled text [] text
  | more {text label rest last : Bytes} {labels : List Bytes}
      (h : splitLabel? text = some (label, rest)) (behind : Labelled rest labels last) :
      Labelled text (label :: labels) last

theorem splitLabel?_length_lt {text label rest : Bytes} (h : splitLabel? text = some (label, rest)) :
    rest.length < text.length := by
  obtain ⟨name, after, rfl, -, -, -, rfl⟩ := splitLabel?_eq_some h
  have hle := (trim_within after).length_le
  simp only [List.length_append, List.length_cons]
  omega

/-- As many labels as the text has bytes are more than enough. -/
theorem splitLabels_labelled {n : Nat} {text : Bytes} (h : text.length ≤ n) :
    Labelled text (splitLabels n text).1 (splitLabels n text).2 := by
  induction n generalizing text with
  | zero =>
      rw [List.length_eq_zero_iff.mp (Nat.le_zero.mp h)]
      exact .done rfl
  | succ n ih =>
      unfold splitLabels
      split
      · next hnone => exact .done hnone
      · next label rest hsome =>
          have hlt := splitLabel?_length_lt hsome
          exact .more hsome (ih (by omega))

theorem Labelled.splitLabels_eq {text last : Bytes} {labels : List Bytes} (h : Labelled text labels last)
    {n : Nat} (hn : text.length ≤ n) : splitLabels n text = (labels, last) := by
  induction h generalizing n with
  | @done text hnone =>
      cases n with
      | zero => rfl
      | succ n => rw [splitLabels, hnone]
  | @more text label rest last labels hsome behind ih =>
      have hlt := splitLabel?_length_lt hsome
      cases n with
      | zero => omega
      | succ n =>
          have hbehind : splitLabels n rest = (labels, last) := ih (by omega)
          rw [splitLabels, hsome]
          dsimp only
          rw [hbehind]

theorem Labelled.unlabelled {text last : Bytes} {labels : List Bytes} (h : Labelled text labels last) :
    splitLabel? last = none := by
  induction h with
  | done hnone => exact hnone
  | more _ _ ih => exact ih

theorem Labelled.trimmed {text last : Bytes} {labels : List Bytes} (h : Labelled text labels last)
    (ht : Trimmed text) : Trimmed last := by
  induction h with
  | done _ => exact ht
  | more hsome _ ih =>
      obtain ⟨-, after, -, -, -, -, rfl⟩ := splitLabel?_eq_some hsome
      exact ih (trim_trimmed after)

theorem Labelled.within {text last : Bytes} {labels : List Bytes} (h : Labelled text labels last) :
    last <:+: text := by
  induction h with
  | done _ => exact List.infix_refl _
  | more hsome _ ih =>
      obtain ⟨name, after, rfl, -, -, -, rfl⟩ := splitLabel?_eq_some hsome
      exact ih.trans ((trim_within after).trans ⟨name ++ [byte ':'], [], by simp⟩)

end Labelled

/-- Labels that stand before an instruction: names, the first of which begins no directive. -/
structure Labels (ls : List Bytes) : Prop where
  names : ∀ l ∈ ls, Ascii l → Name l
  undotted : ∀ l ∈ ls.head?, Ascii l → l.head? ≠ some (byte '.')

theorem Labels.nil : Labels [] := ⟨by simp, by simp⟩

theorem Labels.append {ls ms : List Bytes} (hl : Labels ls) (hm : Labels ms) : Labels (ls ++ ms) := by
  refine ⟨?_, ?_⟩
  · intro l h
    rcases List.mem_append.mp h with h | h
    · exact hl.names l h
    · exact hm.names l h
  · cases ls with
    | nil => exact hm.undotted
    | cons l ls => exact hl.undotted

theorem Labelled.labels {text last : Bytes} {labels : List Bytes} (h : Labelled text labels last)
    (hdot : text.head? ≠ some (byte '.')) : Labels labels := by
  -- every label was cut off as a name, but only the first stands where a directive would
  refine ⟨?_, ?_⟩
  · clear hdot
    induction h with
    | done _ => simp
    | more hsome _ ih =>
        obtain ⟨name, after, -, hne, hname, rfl, -⟩ := splitLabel?_eq_some hsome
        intro l hl
        rcases List.mem_cons.mp hl with rfl | hl
        · exact fun hascii => ⟨hascii, canonical_ne_nil hne hname hascii, isName_canonical hname hascii⟩
        · exact ih l hl
  · cases h with
    | done _ => simp
    | more hsome _ =>
        obtain ⟨name, after, rfl, hne, hname, rfl, -⟩ := splitLabel?_eq_some hsome
        intro l hl hascii
        cases hl
        intro hhead
        apply hdot
        rw [List.head?_append_of_ne_nil _ hne]
        exact head?_canonical hname hascii hhead

end Line

/-- An instruction that is read back from how it is shown, as far as its labels are ASCII. -/
structure Instr.Legible (x : Instr) : Prop where
  labels : Line.Labels x.labels
  undotted : x.labels = [] → x.text.head? ≠ some (byte '.')
  nonempty : x.text ≠ []
  trimmed : Trimmed x.text
  inline : Inline x.text
  unlabelled : Line.splitLabel? x.text = none
  kind : Line.readOp x.text = .ok (x.op, x.targets)

namespace Line

def Legible : Line → Prop
  | .body name => Word name ∧ Inline name
  | .trap _ => True
  | .code labels none => Labels labels
  | .code labels (some x) => Instr.Legible { x with labels }

theorem readDirective_legible {text : Bytes} {line : Line} (htext : Inline text)
    (h : readDirective (words text) = .ok line) : line.Legible := by
  have hwords : ∀ w ∈ words text, Word w ∧ Inline w := fun w hw =>
    ⟨(word_of_mem hw).1, htext.within (word_of_mem hw).2⟩
  generalize words text = ws at hwords h
  unfold readDirective at h
  split at h
  · next key args =>
      split at h
      · split at h
        · next name =>
            cases h
            exact hwords name (by simp)
        · cases h
      · split at h
        · split at h
          · cases h
            trivial
          · cases h
        · cases h
  · cases h
    exact Labels.nil

theorem read_legible {number : Nat} {raw : Bytes} {line : Line} (hraw : 10 ∉ raw)
    (h : read number raw = .ok line) : line.Legible := by
  have hinline : Inline (trim (raw.takeWhile (· != byte '#'))) := by
    have hcut : Inline (raw.takeWhile (· != byte '#')) := by
      refine ⟨fun hc => ?_, fun hf => hraw ((List.takeWhile_prefix _).subset hf)⟩
      simpa using List.mem_takeWhile_imp hc
    exact hcut.within (trim_within _)
  have htrimmed := trim_trimmed (raw.takeWhile (· != byte '#'))
  unfold read at h
  dsimp only at h
  generalize trim (raw.takeWhile (· != byte '#')) = text at hinline htrimmed h
  split at h
  · exact readDirective_legible hinline h
  · next hdot =>
      have hdot : text.head? ≠ some (byte '.') := by simpa using hdot
      have hcut := splitLabels_labelled (Nat.le_refl text.length)
      generalize splitLabels text.length text = cut at hcut h
      obtain ⟨labels, last⟩ := cut
      dsimp only at hcut h
      split at h
      · cases h
        exact hcut.labels hdot
      · next hne =>
          split at h
          · cases h
          · obtain ⟨⟨op, targets⟩, hop, hx⟩ := bind_eq_ok.mp h
            cases hx
            refine ⟨hcut.labels hdot, ?_, by simpa using hne, hcut.trimmed htrimmed,
              hinline.within hcut.within, hcut.unlabelled, hop⟩
            rintro rfl
            cases hcut
            exact hdot

end Line

/-- A draft made of legible lines. -/
structure Draft.Legible (d : Draft) : Prop where
  named : d.opened = true → Word d.name ∧ Inline d.name
  instrs : ∀ x ∈ d.instrs, x.Legible
  pending : Line.Labels d.pending

theorem Draft.void_legible : Draft.Legible {} := ⟨by simp, by simp, Line.Labels.nil⟩

namespace Listing

structure Sketch.Legible (q : Sketch) : Prop where
  closed : ∀ d ∈ q.closed, d.Legible
  draft : q.draft.Legible

theorem Sketch.Legible.all {q : Sketch} (h : q.Legible) : ∀ d ∈ q.closed ++ q.draft.kept, d.Legible := by
  intro d hd
  rcases List.mem_append.mp hd with hd | hd
  · exact h.closed d hd
  · unfold Draft.kept at hd
    split at hd
    · cases hd
    · rw [List.mem_singleton.mp hd]
      exact h.draft

theorem Sketch.add_legible {q : Sketch} {line : Line} (hq : q.Legible) (hline : line.Legible) :
    (q.add line).Legible := by
  cases line with
  | body name => exact ⟨hq.all, fun _ => hline, fun _ hx => absurd hx List.not_mem_nil, Line.Labels.nil⟩
  | trap t => exact ⟨hq.closed, hq.draft.named, hq.draft.instrs, hq.draft.pending⟩
  | code labels instr =>
      cases instr with
      | none => exact ⟨hq.closed, hq.draft.named, hq.draft.instrs, hq.draft.pending.append hline⟩
      | some x =>
          refine ⟨hq.closed, hq.draft.named, ?_, Line.Labels.nil⟩
          intro y hy
          rcases List.mem_append.mp hy with hy | hy
          · exact hq.draft.instrs y hy
          · rw [List.mem_singleton.mp hy]
            have hx : Instr.Legible { x with labels } := hline
            refine ⟨hq.draft.pending.append hx.labels, ?_, hx.nonempty, hx.trimmed, hx.inline,
              hx.unlabelled, hx.kind⟩
            intro hnone
            exact hx.undotted (List.append_eq_nil_iff.mp hnone).2

theorem dropReturn_subset (line : Bytes) : dropReturn line ⊆ line := by
  unfold dropReturn
  split
  · exact (List.dropLast_prefix line).subset
  · exact List.Subset.refl line

theorem Sketch.foldlM_legible {lines : List (Bytes × Nat)} {q q' : Sketch} (hq : q.Legible)
    (hlines : ∀ line ∈ lines, 10 ∉ line.1) (h : lines.foldlM step q = some q') : q'.Legible := by
  induction lines generalizing q with
  | nil =>
      cases h
      exact hq
  | cons line lines ih =>
      rw [List.foldlM_cons] at h
      obtain ⟨q₁, hstep, hrest⟩ := Option.bind_eq_some_iff.mp h
      obtain ⟨l, hread, rfl⟩ := Option.map_eq_some_iff.mp hstep
      refine ih (add_legible hq ?_) (fun other ho => hlines other (List.mem_cons_of_mem line ho)) hrest
      have hread : Line.read line.2 (dropReturn line.1) = .ok l := toOption_eq_some.mp hread
      refine Line.read_legible (fun hf => ?_) hread
      exact hlines line List.mem_cons_self (dropReturn_subset line.1 hf)

theorem noFeed_of_mem_rawLines {src line : Bytes} (h : line ∈ rawLines src) : 10 ∉ line := by
  apply not_mem_of_mem_splitOn (s := src)
  unfold rawLines at h
  dsimp only at h
  split at h
  · exact (List.dropLast_prefix _).subset h
  · exact h

/-- Every draft of a listing is legible. -/
theorem drafts_legible {src : Bytes} {ds : List Draft} (h : drafts src = some ds) : ∀ d ∈ ds, d.Legible := by
  obtain ⟨q, hrun, rfl⟩ := Option.map_eq_some_iff.mp h
  have hstart : Sketch.Legible {} := ⟨by simp, Draft.void_legible⟩
  refine (Sketch.foldlM_legible hstart (fun line hline => ?_) hrun).all
  exact noFeed_of_mem_rawLines (List.fst_mem_of_mem_zipIdx hline)

end Listing

end FlowBlocks
