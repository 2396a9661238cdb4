import FlowBlocks.Proofs.Outline.Cover
import FlowBlocks.Proofs.Record.Canonical
import FlowBlocks.Proofs.Text.Columns
import FlowBlocks.Report.Dump
/-!
Outlines printed line by line. An outline that passes the range check is printed whole: a line for each block
and, on request, for each position of its range, with the text that stands there. A writer that fails has what was
written before.
-/
namespace FlowBlocks

namespace Writer

/-- A writer with room for everything takes everything. -/
theorem writeAll_roomy {w : Writer} (h : w.room = none) (pieces : List Bytes) :
    w.writeAll pieces = (none, { w with text := w.text ++ pieces.flatten }) := by
  induction pieces generalizing w with
  | nil => simp [writeAll]
  | cons piece rest ih =>
      have hwrite : w.write piece = (none, { w with text := w.text ++ piece }) := by
        rw [write, h]
      rw [writeAll, hwrite]
      dsimp only
      rw [ih (by exact h), List.flatten_cons, List.append_assoc]

/-- A writer with room for `n` writes takes the first `n` pieces, and fails if there are more. -/
theorem writeAll_limited {w : Writer} {n : Nat} (h : w.room = some n) (pieces : List Bytes) :
    w.writeAll pieces = (if n < pieces.length then some w.error else none,
      { w with text := w.text ++ (pieces.take n).flatten, room := some (n - pieces.length) }) := by
  induction pieces generalizing w n with
  | nil => simp [writeAll, ← h]
  | cons piece rest ih =>
      cases n with
      | zero =>
          have hwrite : w.write piece = (some w.error, w) := by rw [write, h]
          rw [writeAll, hwrite]
          simp [← h]
      | succ n =>
          have hwrite : w.write piece = (none, { w with text := w.text ++ piece, room := some n }) := by
            rw [write, h]
          rw [writeAll, hwrite]
          dsimp only
          rw [ih rfl]
          simp

end Writer

namespace Outline

/-- The digits of a position, behind blanks that fill them up to the width of the last one. -/
def filledPosition (o : Outline) (i : Nat) : Bytes :=
  List.replicate ((decimal (o.unitList.length - 1)).length - (decimal i).length) (byte ' ') ++ decimal i

/-- A line that carries a position, faint where there are colours, and what is shown of the text there. -/
def ShowsUnit (style : DumpStyle) (o : Outline) (i : Nat) (line : Bytes) : Prop :=
  ∃ text shown, o.unitList[i]? = some text ∧ Column.Cut style.width text shown ∧
    line = bytes "      " ++
      (if style.color then bytes "\x1b[2m" ++ o.filledPosition i ++ bytes "\x1b[22m" else o.filledPosition i) ++
      bytes "  " ++ shown ++ [10]

/-- The line of a block and, on request, one for every position of its range. -/
def ShowsBlock (style : DumpStyle) (o : Outline) (p : OutlineBlock × Nat) (lines : List Bytes) : Prop :=
  ∃ unitLines, lines = o.blockLine style p.2 p.1 :: unitLines ∧
    if style.units then
      List.Forall₂ (o.ShowsUnit style) (List.range' p.1.start.toNat p.1.len.toNat) unitLines
    else unitLines = []

variable {o : Outline}

theorem unitLine_shows {i : Nat} {text : Bytes} (style : DumpStyle) (h : o.unitList[i]? = some text) :
    o.ShowsUnit style i (o.unitLine style i text) := by
  refine ⟨text, if style.width > 0 then Column.truncate style.width text else text, h, ?_, rfl⟩
  split
  · next hwidth => exact Column.truncate_cut hwidth text
  · next hwidth => exact Column.cut_unlimited hwidth text

/-- The units of a stretch, each with its position. -/
theorem stretch_shows {start len : Nat} (style : DumpStyle) (h : start + len ≤ o.unitList.length) :
    List.Forall₂ (o.ShowsUnit style) (List.range' start len)
      (((o.unitList.drop start).take len).zipIdx.map fun p => o.unitLine style (start + p.2) p.1) := by
  rw [List.forall₂_iff_get]
  refine ⟨by simp; omega, fun j hj hj' => ?_⟩
  rw [List.length_range'] at hj
  have hin : start + j < o.unitList.length := by omega
  simpa [hin] using unitLine_shows style (List.getElem?_eq_getElem hin)

theorem blockLines_show {i : Nat} {b : OutlineBlock} (style : DumpStyle) (hb : o.blockList[i]? = some b)
    (hstop : b.stop ≤ o.unitList.length) : o.ShowsBlock style (b, i) (o.blockLines style i b) := by
  have hunits : o.blockUnits? i = _ := blockUnits?_eq hb hstop
  refine ⟨_, rfl, ?_⟩
  rw [hunits, Option.getD_some]
  by_cases h : style.units
  · rw [if_pos h, if_pos h]
    exact stretch_shows style hstop
  · rw [if_neg h, if_neg h]

/-- The lines of an outline whose ranges lie within its units, block by block. -/
theorem dumpLines_show (style : DumpStyle) (h : ∀ b ∈ o.blockList, b.stop ≤ o.unitList.length) :
    ∃ groups, o.dumpLines style = o.headline :: groups.flatten ∧
      List.Forall₂ (o.ShowsBlock style) o.blockList.zipIdx groups := by
  refine ⟨o.blockList.zipIdx.map fun p => o.blockLines style p.2 p.1,
    by rw [dumpLines, List.flatMap_def], ?_⟩
  rw [List.forall₂_map_right_iff, List.forall₂_same]
  rintro ⟨b, i⟩ hp
  have hb : o.blockList[i]? = some b := List.mem_zipIdx_iff_getElem?.mp hp
  exact blockLines_show style hb (h b (List.mem_of_getElem? hb))

theorem ShowsBlock.length_eq {style : DumpStyle} {p : OutlineBlock × Nat} {lines : List Bytes}
    (h : o.ShowsBlock style p lines) :
    lines.length = 1 + if style.units then p.1.len.toNat else 0 := by
  obtain ⟨unitLines, rfl, hunits⟩ := h
  rw [List.length_cons, Nat.add_comm]
  split at hunits
  · rw [← hunits.length_eq, List.length_range', if_pos ‹_›]
  · rw [hunits, if_neg ‹_›, List.length_nil]

theorem length_groups {style : DumpStyle} {ps : List (OutlineBlock × Nat)} {groups : List (List Bytes)}
    (h : List.Forall₂ (o.ShowsBlock style) ps groups) :
    groups.flatten.length = ps.length + if style.units then total (ps.map (·.1)) else 0 := by
  induction h with
  | nil => simp [total]
  | cons hp _ ih =>
      rw [List.flatten_cons, List.length_append, ih, hp.length_eq, List.map_cons, total_cons, List.length_cons]
      split <;> omega

theorem length_dumpLines (style : DumpStyle) (h : ∀ b ∈ o.blockList, b.stop ≤ o.unitList.length) :
    (o.dumpLines style).length =
      1 + o.blockList.length + if style.units then total o.blockList else 0 := by
  obtain ⟨groups, hlines, hgroups⟩ := dumpLines_show style h
  rw [hlines, List.length_cons, length_groups hgroups, List.length_zipIdx, List.zipIdx_map_fst]
  omega

theorem dump_refused {e : Bytes} (h : rangeReport (some o) = some e) (style : DumpStyle) (w : Writer) :
    o.dump style w = (some e, w) := by
  rw [dump, h]

theorem dump_printed (h : rangeReport (some o) = none) (style : DumpStyle) (w : Writer) :
    o.dump style w = w.writeAll (o.dumpLines style) := by
  rw [dump, h]

end Outline

/-- What is printed of an outline. One that was read as part of a record passes the range check, every range
lies within its units, and behind the headline there is a line for each block, followed on request by one for each
position of its range, which shows the text there. One that fails the check is refused and nothing is written. A
writer that takes only so many writes has that many lines, and its error is given exactly if there are more. -/
theorem dump_whole_or_cut (style : DumpStyle) (o : Outline) :
    (∀ s r b, Record.decode s = .ok r → b ∈ r.bodies.getD [] → b.outline = some o →
      Outline.rangeReport (some o) = none ∧ (∀ b ∈ o.blockList, b.stop ≤ o.unitList.length) ∧
      (∃ groups, o.dumpLines style = o.headline :: groups.flatten ∧
        List.Forall₂ (o.ShowsBlock style) o.blockList.zipIdx groups) ∧
      (o.dumpLines style).length =
        1 + o.blockList.length + if style.units then Outline.total o.blockList else 0) ∧
    (∀ e w, Outline.rangeReport (some o) = some e → o.dump style w = (some e, w)) ∧
    ∀ w, Outline.rangeReport (some o) = none →
      (w.room = none →
        o.dump style w = (none, { w with text := w.text ++ (o.dumpLines style).flatten })) ∧
      ∀ n, w.room = some n →
        o.dump style w = (if n < (o.dumpLines style).length then some w.error else none,
          { w with text := w.text ++ ((o.dumpLines style).take n).flatten
                   room := some (n - (o.dumpLines style).length) }) := by
  refine ⟨?_, fun e w h => Outline.dump_refused h style w, ?_⟩
  · intro s r b hread hb ho
    have hrange := Record.decode_outlines hread b hb o ho
    have hstop := (Outline.rangeErrors_eq_nil_iff.mp (Outline.rangeReport_eq_none.mp hrange)).2
    exact ⟨hrange, hstop, Outline.dumpLines_show style hstop, Outline.length_dumpLines style hstop⟩
  · intro w hrange
    rw [Outline.dump_printed hrange]
    exact ⟨fun h => w.writeAll_roomy h _, fun n h => w.writeAll_limited h _⟩

/-- The outline of the first body of `oneBlock`, as it is read. -/
def returnOutline : Outline where
  name := bytes "f"
  units := some [bytes "return"]
  blocks := some [⟨0, 1, some [], none⟩]
  heads := some [0]
  tails := some []

/-- Three lines, of which a writer takes two; all three of them, with a text cut to five columns; and an outline that
is refused. -/
theorem returnOutline_dumped :
    (∃ r, Record.decode ((oneBlock 0).stamped 9).encode = .ok r ∧
      ⟨bytes "f", some returnOutline, []⟩ ∈ r.bodies.getD [] ∧
      (returnOutline.dumpLines { units := true }).length = 3 ∧
      returnOutline.dump { units := true } { room := some 2, error := bytes "full" } =
        (some (bytes "full"),
          { text := bytes "body f: 1 blocks, heads [B0], tails []\n  B0  preds []  succs []  head\n"
            room := some 0, error := bytes "full" }) ∧
      returnOutline.dump { units := true } {} =
        (none, { text := bytes ("body f: 1 blocks, heads [B0], tails []\n" ++
          "  B0  preds []  succs []  head\n      0  return\n") }) ∧
      returnOutline.dump { units := true, width := 5 } {} =
        (none, { text := bytes ("body f: 1 blocks, heads [B0], tails []\n" ++
          "  B0  preds []  succs []  head\n      0  re...\n") })) ∧
    ∃ e, (pairOutline [bytes "return"] 0xFFFFFFFF 2).dump {} {} = (some e, {}) := by
  have hread : Record.decode ((oneBlock 0).stamped 9).encode =
      .ok { (oneBlock 0).trimmed with schema := 1 } := by decide +kernel
  have hbody : (⟨bytes "f", some returnOutline, []⟩ : BodyRecord) ∈ (oneBlock 0).trimmed.bodies.getD [] := by
    decide +kernel
  obtain ⟨hwhole, -, hcut⟩ := dump_whole_or_cut { units := true } returnOutline
  obtain ⟨hrange, -, -, hlength⟩ := hwhole _ _ _ hread hbody rfl
  obtain ⟨-, -, hnarrow⟩ := dump_whole_or_cut { units := true, width := 5 } returnOutline
  refine ⟨⟨_, hread, hbody, hlength, ?_, ?_, ?_⟩, ?_⟩
  · rw [(hcut _ hrange).2 2 rfl, hlength]
    decide +kernel
  · rw [(hcut _ hrange).1 rfl]
    decide +kernel
  · rw [(hnarrow _ hrange).1 rfl]
    decide +kernel
  · obtain ⟨-, hrefused, -⟩ := dump_whole_or_cut {} (pairOutline [bytes "return"] 0xFFFFFFFF 2)
    obtain ⟨e, he⟩ := Option.isSome_iff_exists.mp (by decide +kernel :
      (Outline.rangeReport (some (pairOutline [bytes "return"] 0xFFFFFFFF 2))).isSome = true)
    exact ⟨e, hrefused e {} he⟩

end FlowBlocks
