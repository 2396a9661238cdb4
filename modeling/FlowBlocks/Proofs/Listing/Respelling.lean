import FlowBlocks.Proofs.Listing.Compose
import FlowBlocks.Proofs.Listing.Recast
import FlowBlocks.Proofs.Listing.Spellings
/-!
Listings with labels spelled in other ways. Two such listings are followed line by line: as long as every
spelling before a colon is one that a label may have, they are read alike up to the texts of instructions.
A spelling that is not loses its label, and as no label of a listing that is read goes astray, the two
readings then differ.
-/
namespace FlowBlocks

/-- The instruction without its text, which is where spellings show. -/
def Instr.textless (x : Instr) : Instr := { x with text := [] }

theorem Instr.recast_textless : Instr.Recast Instr.textless :=
  ⟨fun _ => rfl, fun _ => rfl, fun _ => rfl, fun _ _ => rfl, fun _ _ => rfl⟩

/-- The body with its name, labels, kinds, targets and traps, without the texts. -/
def Body.textless (b : Body) : Body := b.recast Instr.textless

namespace Line

variable {raw raw' : Bytes}

theorem isCode_eq {s : Bytes} (h : said raw = trim s) :
    isCode raw = false ↔ (trim s).head? = some (byte '.') := by
  simp [isCode, h]

theorem length_labelsOn {s : Bytes} (h : said raw = trim s) : (labelsOn raw).length = labelCount true s := by
  rw [labelsOn, labelCount, h]
  cases hcode : isCode raw with
  | false => simp [(isCode_eq h).mp hcode]
  | true =>
      have hdot : (trim s).head? ≠ some (byte '.') := mt (isCode_eq h).mpr (by simp [hcode])
      simp [hdot]

theorem read_of_labelled {s : Bytes} (h : said raw = trim s) (hcode : (trim s).head? ≠ some (byte '.'))
    {labels : List Bytes} {last : Bytes} (hlast : Labelled (trim s) labels last) (number : Nat) :
    (read number (Listing.dropReturn raw)).map (Line.recast Instr.textless) =
      if last.isEmpty then .ok (.code labels none)
      else if number > maxNumber then .error .lineOverflow
      else (readOp last).map fun op =>
        .code labels (some { line := number, op := op.1, targets := op.2 }) := by
  have hdot : ¬((trim s).head? == some (byte '.')) = true := by simpa using hcode
  rw [read_eq, h, if_neg hdot, hlast.splitLabels_eq (Nat.le_refl _)]
  split
  · rfl
  · split
    · rfl
    · cases readOp last <;> rfl

/-- Both lines say the same, or fail alike. -/
theorem Respelled.read_eq (h : Respelled IsLabel raw raw') (number : Nat) :
    (read number (Listing.dropReturn raw)).map (Line.recast Instr.textless) =
      (read number (Listing.dropReturn raw')).map (Line.recast Instr.textless) := by
  obtain ⟨code, code', comment, rfl, rfl, hcode, hcode', hcomment, hrespelled⟩ := h
  have hsaid := said_append hcode hcomment
  have hsaid' := said_append hcode' hcomment
  by_cases hdot : (trim code).head? = some (byte '.')
  · rw [read_eq_directive ((isCode_eq hsaid).mpr hdot),
      read_eq_directive ((isCode_eq hsaid').mpr (hrespelled.dotted.mp hdot)), hsaid, hsaid',
      hrespelled.readDirective_eq hdot]
  · obtain ⟨labels, last, last', hlast, hlast', hempty, hop⟩ := hrespelled.labelled
    rw [read_of_labelled hsaid hdot hlast, read_of_labelled hsaid' (mt hrespelled.dotted.mpr hdot) hlast',
      hempty, hop]

theorem Respelled.fewer {P : Bool → Bytes → Prop} (h : Respelled P raw raw') :
    Respelled IsLabel raw raw' ∧ (labelsOn raw').length = (labelsOn raw).length ∨
      (labelsOn raw').length < (labelsOn raw).length := by
  obtain ⟨code, code', comment, rfl, rfl, hcode, hcode', hcomment, hrespelled⟩ := h
  rw [length_labelsOn (said_append hcode hcomment), length_labelsOn (said_append hcode' hcomment)]
  rcases hrespelled.fewer with hall | hfewer
  · exact Or.inl ⟨⟨code, code', comment, rfl, rfl, hcode, hcode', hcomment, hall⟩, hall.labelCount_eq⟩
  · exact Or.inr hfewer

end Line

namespace Listing

/-- Two listings with labels spelled in other ways, line by line. -/
def Respelled (P : Bool → Bytes → Prop) (src src' : Bytes) : Prop :=
  List.Forall₂ (Line.Respelled P) (rawLines src) (rawLines src')

/-- Every line fits the reading buffer. -/
def Fits (src : Bytes) : Prop := ∀ raw ∈ rawLines src, raw.length < bufferSize

section Run

variable (file : Bytes) {raw raw' : Bytes} {p p' : Progress}

theorem step_textless (hp : p.recast Instr.textless = p'.recast Instr.textless)
    (h : Line.Respelled Line.IsLabel raw raw') (hlen : raw.length < bufferSize)
    (hlen' : raw'.length < bufferSize) (number : Nat) :
    (step file p (raw, number)).map (Progress.recast Instr.textless) =
      (step file p' (raw', number)).map (Progress.recast Instr.textless) := by
  rcases map_eq_map.mp (h.read_eq number) with ⟨e, hread, hread'⟩ | ⟨l, l', hread, hread', hl⟩
  · rw [step_of_error p hlen hread, step_of_error p' hlen' hread']
  · rw [step_of_read p hlen hread, step_of_read p' hlen' hread']
    have hadd : (p.add file l).map (Progress.recast Instr.textless) =
        (p'.add file l').map (Progress.recast Instr.textless) := by
      rw [← Instr.recast_textless.add_recast, ← Instr.recast_textless.add_recast, hp, hl]
    rcases map_eq_map.mp hadd with ⟨e, hq, hq'⟩ | ⟨q, q', hq, hq', heq⟩
    · rw [hq, hq']
    · rw [hq, hq']
      exact congrArg Except.ok heq

theorem foldlM_textless {lines lines' : List Bytes}
    (h : List.Forall₂ (Line.Respelled Line.IsLabel) lines lines')
    (hfit : ∀ raw ∈ lines, raw.length < bufferSize) (hfit' : ∀ raw ∈ lines', raw.length < bufferSize)
    (hp : p.recast Instr.textless = p'.recast Instr.textless) (number : Nat) :
    ((lines.zipIdx number).foldlM (step file) p).map (Progress.recast Instr.textless) =
      ((lines'.zipIdx number).foldlM (step file) p').map (Progress.recast Instr.textless) := by
  induction h generalizing p p' number with
  | nil => exact congrArg Except.ok hp
  | @cons raw raw' lines lines' hline _ ih =>
      have hstep := step_textless file hp hline (hfit raw List.mem_cons_self)
        (hfit' raw' List.mem_cons_self) number
      rw [List.zipIdx_cons, List.zipIdx_cons, List.foldlM_cons, List.foldlM_cons]
      rcases map_eq_map.mp hstep with ⟨e, hq, hq'⟩ | ⟨q, q', hq, hq', heq⟩
      · rw [hq, hq']
        rfl
      · rw [hq, hq']
        exact ih (fun r hr => hfit r (List.mem_cons_of_mem raw hr))
          (fun r hr => hfit' r (List.mem_cons_of_mem raw' hr)) heq (number + 1)

theorem finish_textless (hp : p.recast Instr.textless = p'.recast Instr.textless) (count : Nat) :
    (finish file count p).map (List.map Body.textless) =
      (finish file count p').map (List.map Body.textless) := by
  have hbodies : p.bodies.map Body.textless = p'.bodies.map Body.textless := congrArg Progress.bodies hp
  have hdraft : p.draft.recast Instr.textless = p'.draft.recast Instr.textless := congrArg Progress.draft hp
  have hclose : (p.draft.close file).map (List.map Body.textless) =
      (p'.draft.close file).map (List.map Body.textless) := by
    have hrecast := Instr.recast_textless.close_recast file p.draft
    rw [hdraft, Instr.recast_textless.close_recast] at hrecast
    exact hrecast.symm
  unfold finish
  rcases map_eq_map.mp hclose with ⟨e, hq, hq'⟩ | ⟨closed, closed', hq, hq', heq⟩
  · rw [hq, hq']
  · rw [hq, hq']
    change Except.ok _ = Except.ok _
    rw [List.map_append, List.map_append, hbodies, heq]

/-- Where every spelling before a colon is that of a label, the listings are read alike or fail alike. -/
theorem parse_textless {src src' : Bytes} (h : Respelled Line.IsLabel src src') (hfit : Fits src)
    (hfit' : Fits src') :
    (parse file src).map (List.map Body.textless) = (parse file src').map (List.map Body.textless) := by
  rw [parse_eq, parse_eq, ← h.length_eq]
  rcases map_eq_map.mp (foldlM_textless file h hfit hfit' rfl 1) with
    ⟨e, hq, hq'⟩ | ⟨q, q', hq, hq', heq⟩
  · rw [hq, hq']
  · rw [hq, hq']
    exact finish_textless file heq _

end Run

section Labels

theorem foldlM_fits {file : Bytes} {lines : List Bytes} {number : Nat} {p q : Progress}
    (h : (lines.zipIdx number).foldlM (step file) p = .ok q) :
    ∀ raw ∈ lines, raw.length < bufferSize := by
  induction lines generalizing number p with
  | nil => simp
  | cons line lines ih =>
      rw [List.zipIdx_cons, List.foldlM_cons] at h
      obtain ⟨p₁, hstep, hrest⟩ := bind_eq_ok.mp h
      intro raw hraw
      rcases List.mem_cons.mp hraw with rfl | hraw
      · exact (step_eq_ok hstep).1
      · exact ih hrest raw hraw

theorem fits_of_parse {file src : Bytes} {bodies : List Body} (h : parse file src = .ok bodies) :
    Fits src := by
  obtain ⟨p, closed, hrun, -, -⟩ := parse_eq_ok h
  exact foldlM_fits hrun

theorem labels_textless {bodies bodies' : List Body}
    (h : bodies'.map Body.textless = bodies.map Body.textless) :
    (bodies'.flatMap Body.instrs).flatMap Instr.labels =
      (bodies.flatMap Body.instrs).flatMap Instr.labels := by
  have hview : ∀ bs : List Body, (bs.flatMap Body.instrs).flatMap Instr.labels =
      ((bs.map Body.textless).flatMap Body.instrs).flatMap Instr.labels := by
    intro bs
    rw [List.flatMap_map, List.flatMap_assoc, List.flatMap_assoc]
    exact List.flatMap_congr fun b _ => by rw [Body.textless, Body.recast, List.flatMap_map]; rfl
  rw [hview, h, ← hview]

/-- No line gains a label, so the numbers agree only where no spelling loses one. -/
theorem respelled_of_labels {P : Bool → Bytes → Prop} {lines lines' : List Bytes}
    (h : List.Forall₂ (Line.Respelled P) lines lines') :
    (lines'.flatMap Line.labelsOn).length ≤ (lines.flatMap Line.labelsOn).length ∧
      ((lines'.flatMap Line.labelsOn).length = (lines.flatMap Line.labelsOn).length →
        List.Forall₂ (Line.Respelled Line.IsLabel) lines lines') := by
  induction h with
  | nil => exact ⟨Nat.le_refl _, fun _ => .nil⟩
  | cons hline _ ih =>
      obtain ⟨hle, heq⟩ := ih
      simp only [List.flatMap_cons, List.length_append]
      rcases hline.fewer with ⟨hall, hsame⟩ | hfewer
      · exact ⟨by omega, fun h => .cons hall (heq (by omega))⟩
      · exact ⟨by omega, fun h => by omega⟩

end Labels

/-- A listing and one with its labels spelled in other ways, each by a word of the same canonical form. If
every line fits the buffer and before a colon there is nowhere a spelling that a label may not have, both are
read alike up to the texts of instructions, or fail with the same complaint. Of a listing that is read the
other is read alike only then. -/
theorem respelled_listings_alike_iff {src src' : Bytes} (h : Respelled (fun _ _ => True) src src')
    (file : Bytes) :
    (Respelled Line.IsLabel src src' → Fits src → Fits src' →
      (parse file src).map (List.map Body.textless) = (parse file src').map (List.map Body.textless)) ∧
    ∀ bodies, parse file src = .ok bodies →
      ((∃ bodies', parse file src' = .ok bodies' ∧
          bodies'.map Body.textless = bodies.map Body.textless) ↔
        Respelled Line.IsLabel src src' ∧ Fits src') := by
  refine ⟨parse_textless file, fun bodies hparse => ⟨?_, ?_⟩⟩
  · rintro ⟨bodies', hparse', halike⟩
    refine ⟨(respelled_of_labels h).2 ?_, fits_of_parse hparse'⟩
    rw [← parse_labels hparse, ← parse_labels hparse', labels_textless halike]
  · rintro ⟨hlabels, hfit'⟩
    have hview := parse_textless file hlabels (fits_of_parse hparse) hfit'
    rcases map_eq_map.mp hview with ⟨e, hq, -⟩ | ⟨bs, bs', hq, hq', heq⟩
    · rw [hparse] at hq
      cases hq
    · cases hparse.symm.trans hq
      exact ⟨bs', hq', heq.symm⟩

/-- A listing with a label outside ASCII. -/
def accented : Bytes := bytes "K: goto \u00e9\n\u00e9: return # \u00e9\n"

/-- KELVIN SIGN before the first colon, and the target decomposed. -/
def kelvin : Bytes := bytes "\u212a: goto e\u0301\n\u00e9: return # \u00e9\n"

/-- The label behind the jump decomposed. -/
def decomposed : Bytes := bytes "K: goto \u00e9\ne\u0301: return # \u00e9\n"

theorem gap_space : Gap [byte ' '] := by
  unfold Gap
  decide

theorem gap_nil : Gap [] := by
  unfold Gap
  decide

theorem accented_kelvin {P : Bool → Bytes → Prop} (h : P true (bytes "\u212a")) :
    Respelled P accented kelvin := by
  have hlines : rawLines accented = [bytes "K: goto \u00e9", bytes "\u00e9: return # \u00e9"] := by
    decide +kernel
  have hlines' : rawLines kelvin = [bytes "\u212a: goto e\u0301", bytes "\u00e9: return # \u00e9"] := by
    decide +kernel
  have hjump : Line.CodeRespelled P false
      ([byte ' '] ++ (bytes "goto" ++ ([byte ' '] ++ (bytes "\u00e9" ++ []))))
      ([byte ' '] ++ (bytes "goto" ++ ([byte ' '] ++ (bytes "e\u0301" ++ [])))) :=
    .operands gap_space (.word gap_space (by decide) ⟨by decide +kernel, by decide +kernel⟩
      ⟨by decide +kernel, by decide +kernel⟩ (.done gap_nil)) (.jump (by decide +kernel))
  have hlabel : Line.CodeRespelled P true ([] ++ (bytes "K" ++ byte ':' :: _))
      ([] ++ (bytes "\u212a" ++ byte ':' :: _)) :=
    .label gap_nil ⟨by decide +kernel, by decide +kernel⟩ ⟨by decide +kernel, by decide +kernel⟩
      (by decide +kernel) ⟨by decide +kernel, by decide +kernel⟩ h (by decide +kernel) (by decide) hjump
  rw [Respelled, hlines, hlines']
  exact .cons ⟨_, _, [], by decide +kernel, by decide +kernel, by decide +kernel, by decide +kernel,
    by simp, hlabel⟩ (.cons (.refl P _) .nil)

/-- Two labels spelled otherwise, and the listing is read alike. -/
theorem accented_listings_alike :
    ∃ bodies bodies', Respelled (fun _ _ => True) accented kelvin ∧
      parse (bytes "m.bbl") accented = .ok bodies ∧ parse (bytes "m.bbl") kelvin = .ok bodies' ∧
      bodies'.map Body.textless = bodies.map Body.textless := by
  obtain ⟨bodies, hparse, -⟩ := map_eq_ok.mp (by decide +kernel :
    (parse (bytes "m.bbl") accented).map List.length = .ok 1)
  have hlabels : Respelled Line.IsLabel accented kelvin :=
    accented_kelvin ⟨by decide +kernel, by decide +kernel⟩
  obtain ⟨bodies', hparse', halike⟩ := ((respelled_listings_alike_iff (accented_kelvin trivial)
    (bytes "m.bbl")).2 bodies hparse).mpr ⟨hlabels, by unfold Fits; decide +kernel⟩
  exact ⟨bodies, bodies', accented_kelvin trivial, hparse, hparse', halike⟩

/-- Before the colon the decomposed label is none, and the jump leads nowhere. -/
theorem decomposed_label_lost :
    Respelled (fun _ _ => True) accented decomposed ∧
      (∃ bodies, parse (bytes "m.bbl") accented = .ok bodies) ∧
      parse (bytes "m.bbl") decomposed =
        .error (.malformed 2 (.badBody (bytes "m") (.undefinedTarget 0 (bytes "\u00e9")))) := by
  refine ⟨?_, ?_, by decide +kernel⟩
  · have hlines : rawLines accented = [bytes "K: goto \u00e9", bytes "\u00e9: return # \u00e9"] := by
      decide +kernel
    have hlines' : rawLines decomposed =
        [bytes "K: goto \u00e9", bytes "e\u0301: return # \u00e9"] := by decide +kernel
    have hlabel : Line.CodeRespelled (fun _ _ => True) true
        ([] ++ (bytes "\u00e9" ++ byte ':' :: bytes " return ")) ([] ++ (bytes "e\u0301" ++ byte ':' :: _)) :=
      .label gap_nil ⟨by decide +kernel, by decide +kernel⟩ ⟨by decide +kernel, by decide +kernel⟩
        (by decide +kernel) ⟨by decide +kernel, by decide +kernel⟩ trivial (by decide +kernel)
        (by decide +kernel) (.same _)
    rw [Respelled, hlines, hlines']
    exact .cons (.refl _ _) (.cons ⟨_, _, bytes "# \u00e9", by decide +kernel, by decide +kernel,
      by decide +kernel, by decide +kernel, by decide +kernel, hlabel⟩ .nil)
  · obtain ⟨bodies, hparse, -⟩ := map_eq_ok.mp (by decide +kernel :
      (parse (bytes "m.bbl") accented).map List.length = .ok 1)
    exact ⟨bodies, hparse⟩

end Listing

end FlowBlocks
