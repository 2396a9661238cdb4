import Mathlib.Algebra.GroupWithZero.Nat
import FlowBlocks.Proofs.Listing.Origins
/-!
How far down the instructions of a listing stand. The line that opens a body, its instructions and its traps
each take a line of their own, so an instruction stands below as many lines as all that comes before it. As
line numbers end, so does the size of a body.
-/
namespace FlowBlocks

namespace Draft

/-- The line that opens a draft, if there is one. -/
def opening (d : Draft) : Nat := if d.opened then 1 else 0

def lineCount (d : Draft) : Nat := d.opening + d.instrs.length + d.traps.length

/-- Behind `above` lines, every instruction stands below the opening line and the instructions before it. -/
def Below (above : Nat) (d : Draft) : Prop :=
  ∀ i x, d.instrs[i]? = some x → above + d.opening + i < x.line

theorem below_of_nil {above : Nat} {d : Draft} (h : d.instrs = []) : d.Below above := by
  intro i x hx
  simp [h] at hx

end Draft

namespace Listing

def lineTotal (ds : List Draft) : Nat := (ds.map Draft.lineCount).sum

/-- Drafts one behind the other, each with room for those before it. -/
def Spaced : Nat → List Draft → Prop
  | _, [] => True
  | above, d :: ds => d.Below above ∧ Spaced (above + d.lineCount) ds

section Drafts

variable {above : Nat} {d : Draft} {ds es : List Draft}

theorem spaced_append : Spaced above (ds ++ es) ↔ Spaced above ds ∧ Spaced (above + lineTotal ds) es := by
  induction ds generalizing above with
  | nil => simp [Spaced, lineTotal]
  | cons d ds ih => simp [Spaced, lineTotal, ih, and_assoc, Nat.add_assoc]

theorem lineTotal_append : lineTotal (ds ++ es) = lineTotal ds + lineTotal es := by
  simp [lineTotal]

/-- A draft that is not kept has no instruction and takes no line. -/
theorem spaced_kept (h : d.Below above) : Spaced above d.kept ∧ lineTotal d.kept = d.lineCount := by
  unfold Draft.kept
  split
  · next hvoid =>
      simp only [Draft.isVoid, Bool.and_eq_true, Bool.not_eq_true', List.isEmpty_iff] at hvoid
      obtain ⟨⟨⟨hopened, hinstrs⟩, htraps⟩, -⟩ := hvoid
      exact ⟨trivial, by simp [lineTotal, Draft.lineCount, Draft.opening, hopened, hinstrs, htraps]⟩
  · exact ⟨⟨h, trivial⟩, Nat.add_zero _⟩

theorem Spaced.index_lt (h : Spaced above ds) (hd : d ∈ ds) {i : Nat} {x : Instr}
    (hx : d.instrs[i]? = some x) : i < x.line := by
  induction ds generalizing above with
  | nil => cases hd
  | cons e es ih =>
      rcases List.mem_cons.mp hd with rfl | hd
      · have hbelow := h.1 i x hx
        omega
      · exact ih h.2 hd

end Drafts

namespace Sketch

/-- The drafts of a reading leave room for each other in the lines read so far. -/
structure Spaced (done : Nat) (q : Sketch) : Prop where
  closed : Listing.Spaced 0 q.closed
  draft : q.draft.Below (lineTotal q.closed)
  total : lineTotal q.closed + q.draft.lineCount ≤ done

variable {done : Nat} {q : Sketch}

theorem Spaced.all (h : q.Spaced done) : Listing.Spaced 0 (q.closed ++ q.draft.kept) := by
  refine spaced_append.mpr ⟨h.closed, ?_⟩
  rw [Nat.zero_add]
  exact (spaced_kept h.draft).1

theorem Spaced.add {raw : Bytes} {line : Line} (h : q.Spaced done)
    (hread : Line.read (done + 1) (dropReturn raw) = .ok line) : (q.add line).Spaced (done + 1) := by
  have htotal := h.total
  rw [Draft.lineCount] at htotal
  cases line with
  | body name =>
      refine ⟨h.all, Draft.below_of_nil rfl, ?_⟩
      change lineTotal (q.closed ++ q.draft.kept) + 1 ≤ done + 1
      rw [lineTotal_append, (spaced_kept h.draft).2]
      exact Nat.succ_le_succ h.total
  | trap t =>
      refine ⟨h.closed, h.draft, ?_⟩
      change lineTotal q.closed + (q.draft.opening + q.draft.instrs.length + (q.draft.traps ++ [t]).length) ≤ _
      rw [List.length_append, List.length_singleton]
      omega
  | code labels instr =>
      cases instr with
      | none => exact ⟨h.closed, h.draft, Nat.le_succ_of_le h.total⟩
      | some x =>
          obtain ⟨-, ⟨-, hnone⟩ | ⟨-, -, y, hy, hline, -⟩⟩ := Line.read_origin hread
          · cases hnone
          cases hy
          refine ⟨h.closed, ?_, ?_⟩
          · -- the new instruction stands on the line that was just read
            intro i z hz
            change lineTotal q.closed + q.draft.opening + i < z.line
            change (q.draft.instrs ++ [{ x with labels := q.draft.pending ++ labels }])[i]? = some z at hz
            rw [List.getElem?_append] at hz
            split at hz
            · exact h.draft i z hz
            · obtain ⟨hi, rfl⟩ := List.getElem?_eq_some_iff.mp hz
              rw [List.length_singleton] at hi
              rw [List.getElem_singleton]
              dsimp only
              omega
          · change lineTotal q.closed + (q.draft.opening + (q.draft.instrs ++ [_]).length + q.draft.traps.length) ≤ _
            rw [List.length_append, List.length_singleton]
            omega

theorem Spaced.run {rest : List Bytes} {q' : Sketch} (h : q.Spaced done)
    (hrun : (rest.zipIdx (done + 1)).foldlM step q = some q') : q'.Spaced (done + rest.length) := by
  induction rest generalizing done q with
  | nil =>
      cases hrun
      exact h
  | cons raw rest ih =>
      rw [List.zipIdx_cons, List.foldlM_cons] at hrun
      obtain ⟨q₁, hstep, hrest⟩ := Option.bind_eq_some_iff.mp hrun
      obtain ⟨l, hread, rfl⟩ := Option.map_eq_some_iff.mp hstep
      rw [List.length_cons, ← Nat.add_assoc, Nat.add_right_comm]
      exact ih (h.add (toOption_eq_some.mp hread)) hrest

end Sketch

theorem drafts_spaced {src : Bytes} {ds : List Draft} (h : drafts src = some ds) : Spaced 0 ds := by
  obtain ⟨q, hrun, rfl⟩ := Option.map_eq_some_iff.mp h
  have hstart : Sketch.Spaced 0 {} := ⟨trivial, Draft.below_of_nil rfl, Nat.le_refl 0⟩
  exact (hstart.run hrun).all

section Parsed

variable {file src : Bytes} {bodies : List Body}

theorem mem_numbered_of_getElem? {xs : List Instr} {i : Nat} {x : Instr} (h : xs[i]? = some x) :
    { x with index := i } ∈ numbered xs :=
  List.mem_of_getElem? (by rw [getElem?_numbered, h]; rfl)

theorem drafts_numbered {ds : List Draft} (h : parse file src = .ok (ds.map (Draft.body file))) :
    ∀ d ∈ ds, ∀ x ∈ d.instrs, x.line ≤ Line.maxNumber := by
  intro d hd x hx
  obtain ⟨i, hi⟩ := List.getElem?_of_mem hx
  have hall := (forall_instrLines h).mp (parse_numbered h) _ (List.mem_map_of_mem hd)
  have hle : x.line ≤ Line.maxNumber := hall { x with index := i } (mem_numbered_of_getElem? hi)
  exact hle

/-- No body of a listing that is read has more instructions than there are line numbers. -/
theorem parse_size_le (h : parse file src = .ok bodies) : ∀ b ∈ bodies, b.size ≤ Line.maxNumber := by
  obtain ⟨ds, hdrafts, hall⟩ := parse_drafts h
  obtain rfl := Except.ok.inj (h.symm.trans (hall file))
  intro b hb
  obtain ⟨d, hd, rfl⟩ := List.mem_map.mp hb
  by_contra hlarge
  have hx : d.instrs[Line.maxNumber]? = some _ :=
    List.getElem?_eq_getElem (by simpa [Body.size, Draft.body] using hlarge)
  have hlt := (drafts_spaced hdrafts).index_lt hd hx
  have hle := drafts_numbered h d hd _ (List.mem_of_getElem? hx)
  omega

end Parsed

end Listing

end FlowBlocks
