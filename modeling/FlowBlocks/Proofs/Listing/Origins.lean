import FlowBlocks.Proofs.Listing.Drafts
/-!
Where the instructions of a listing come from. Lines are looked at one by one (`Line.labelsOn`,
`Line.remainder`), apart from the reader; `Traced` says of a reading how its instructions and the labels that
wait correspond to the lines read so far. Every line keeps it, so in a listing that is read every instruction
line has given one instruction, with the labels that stand between the instruction line before and it.
-/
namespace FlowBlocks

namespace Line

/-- The text of a line: cut off at a comment, without blanks at its ends. -/
def said (raw : Bytes) : Bytes := trim ((Listing.dropReturn raw).takeWhile (· != byte '#'))

/-- A line of labels and code, as opposed to one that starts with a dot. -/
def isCode (raw : Bytes) : Bool := (said raw).head? != some (byte '.')

def labelsOn (raw : Bytes) : List Bytes :=
  if isCode raw then (splitLabels (said raw).length (said raw)).1 else []

/-- What is left of a line behind its labels. -/
def remainder (raw : Bytes) : Bytes :=
  if isCode raw then (splitLabels (said raw).length (said raw)).2 else []

def isInstr (raw : Bytes) : Bool := !(remainder raw).isEmpty

theorem read_eq (number : Nat) (raw : Bytes) :
    read number (Listing.dropReturn raw) =
      if (said raw).head? == some (byte '.') then readDirective (words (said raw))
      else if (splitLabels (said raw).length (said raw)).2.isEmpty then
        .ok (.code (splitLabels (said raw).length (said raw)).1 none)
      else if number > maxNumber then .error .lineOverflow
      else (readOp (splitLabels (said raw).length (said raw)).2).map fun op =>
        .code (splitLabels (said raw).length (said raw)).1
          (some { line := number, op := op.1, text := (splitLabels (said raw).length (said raw)).2
                  targets := op.2 }) := by
  have hsaid : trim ((Listing.dropReturn raw).takeWhile (· != byte '#')) = said raw := rfl
  unfold read
  dsimp only
  rw [hsaid]
  generalize splitLabels (said raw).length (said raw) = parts
  split
  · rfl
  · split
    · rfl
    · split
      · rfl
      · cases readOp parts.2 <;> rfl

theorem read_eq_directive {raw : Bytes} (h : isCode raw = false) (number : Nat) :
    read number (Listing.dropReturn raw) = readDirective (words (said raw)) := by
  have hdot : ((said raw).head? == some (byte '.')) = true := by simpa [isCode] using h
  rw [read_eq, if_pos hdot]

theorem read_eq_code {raw : Bytes} (h : isCode raw = true) (number : Nat) :
    read number (Listing.dropReturn raw) =
      if isInstr raw then
        if number > maxNumber then .error .lineOverflow
        else (readOp (remainder raw)).map fun op =>
          .code (labelsOn raw) (some { line := number, op := op.1, text := remainder raw, targets := op.2 })
      else .ok (.code (labelsOn raw) none) := by
  have hdot : ¬((said raw).head? == some (byte '.')) = true := by simpa [isCode] using h
  rw [read_eq, if_neg hdot]
  simp only [isInstr, remainder, labelsOn, h, if_true]
  cases (splitLabels (said raw).length (said raw)).2.isEmpty <;> rfl

def labels : Line → List Bytes
  | .code labels _ => labels
  | _ => []

def instr? : Line → Option Instr
  | .code _ x => x
  | _ => none

theorem labels_code (ls : List Bytes) (x : Option Instr) : (Line.code ls x).labels = ls := rfl

theorem readDirective_bare {ws : List Bytes} {line : Line} (h : readDirective ws = .ok line) :
    line.labels = [] ∧ line.instr? = none := by
  unfold readDirective at h
  split at h
  · split_ifs at h
    · split at h <;> cases h
      exact ⟨rfl, rfl⟩
    · split at h <;> cases h
      exact ⟨rfl, rfl⟩
  · cases h
    exact ⟨rfl, rfl⟩

/-- An instruction cannot be read past the last line that it may stand on. -/
theorem read_overflow {number : Nat} {raw : Bytes} (h : isInstr raw = true) (hnumber : maxNumber < number) :
    read number (Listing.dropReturn raw) = .error .lineOverflow := by
  have hcode : isCode raw = true := by
    cases hcode : isCode raw with
    | false => simp [isInstr, remainder, hcode] at h
    | true => rfl
  rw [read_eq_code hcode, if_pos h, if_pos hnumber]

/-- A line is read with its labels, and with an instruction exactly if something is left behind them. -/
theorem read_origin {number : Nat} {raw : Bytes} {line : Line}
    (h : read number (Listing.dropReturn raw) = .ok line) :
    line.labels = labelsOn raw ∧
      (isInstr raw = false ∧ line.instr? = none ∨
        isInstr raw = true ∧ number ≤ maxNumber ∧
          ∃ x, line.instr? = some x ∧ x.line = number ∧ x.text = remainder raw) := by
  cases hcode : isCode raw with
  | false =>
      rw [read_eq_directive hcode] at h
      obtain ⟨hlabels, hinstr⟩ := readDirective_bare h
      simp [labelsOn, isInstr, remainder, hcode, hlabels, hinstr]
  | true =>
      rw [read_eq_code hcode] at h
      split at h
      · next hleft =>
          split at h
          · cases h
          · next hnumber =>
              obtain ⟨op, -, rfl⟩ := map_eq_ok.mp h
              exact ⟨labels_code _ _, Or.inr ⟨hleft, Nat.le_of_not_lt hnumber,
                { line := number, op := op.1, text := remainder raw, targets := op.2 }, rfl, rfl, rfl⟩⟩
      · next hnone =>
          cases h
          exact ⟨labels_code _ _, Or.inl ⟨by simpa using hnone, rfl⟩⟩

end Line

namespace Listing

/-- The numbers of the instruction lines, in order. -/
def instrLines (lines : List Bytes) : List Nat :=
  ((lines.zipIdx 1).filter fun line => Line.isInstr line.1).map Prod.snd

theorem instrLines_append (front back : List Bytes) :
    ∃ later, instrLines (front ++ back) = instrLines front ++ later := by
  rw [instrLines, List.zipIdx_append, List.filter_append, List.map_append]
  exact ⟨_, rfl⟩

theorem instrLines_concat (done : List Bytes) (raw : Bytes) :
    instrLines (done ++ [raw]) =
      instrLines done ++ if Line.isInstr raw then [done.length + 1] else [] := by
  rw [instrLines, instrLines, List.zipIdx_append, List.filter_append, List.map_append]
  cases h : Line.isInstr raw <;> simp [h, Nat.add_comm]

/-- The number of the last instruction line, 0 where there is none. -/
def lastInstr (lines : List Bytes) : Nat := (instrLines lines).getLast?.getD 0

theorem lastInstr_le (lines : List Bytes) : lastInstr lines ≤ lines.length := by
  unfold lastInstr
  cases h : (instrLines lines).getLast? with
  | none => exact Nat.zero_le _
  | some n =>
      obtain ⟨⟨raw, m⟩, hmem, rfl⟩ := List.mem_map.mp (List.mem_of_getLast? h)
      have hlt := List.snd_lt_of_mem_zipIdx (List.mem_filter.mp hmem).1
      dsimp only [Option.getD_some] at hlt ⊢
      omega

theorem getElem?_lastInstr (lines : List Bytes) :
    (0 :: instrLines lines)[(instrLines lines).length]? = some (lastInstr lines) := by
  unfold lastInstr
  cases h : instrLines lines with
  | nil => rfl
  | cons n ns => simp [List.getLast?_eq_getElem?]

/-- The labels met since the last instruction line. -/
def waiting (lines : List Bytes) : List Bytes := (lines.drop (lastInstr lines)).flatMap Line.labelsOn

theorem flatMap_labelsOn_concat (done : List Bytes) (raw : Bytes) :
    ((done ++ [raw]).drop (lastInstr done)).flatMap Line.labelsOn = waiting done ++ Line.labelsOn raw := by
  rw [List.drop_append_of_le_length (lastInstr_le done), List.flatMap_append, List.flatMap_singleton]
  rfl

theorem waiting_bare (done : List Bytes) {raw : Bytes} (h : Line.isInstr raw = false) :
    waiting (done ++ [raw]) = waiting done ++ Line.labelsOn raw := by
  have hlast : lastInstr (done ++ [raw]) = lastInstr done := by simp [lastInstr, instrLines_concat, h]
  rw [← flatMap_labelsOn_concat, waiting, hlast]

theorem waiting_instr (done : List Bytes) {raw : Bytes} (h : Line.isInstr raw = true) :
    waiting (done ++ [raw]) = [] := by
  have hlast : lastInstr (done ++ [raw]) = done.length + 1 := by simp [lastInstr, instrLines_concat, h]
  rw [waiting, hlast, List.drop_eq_nil_of_le (by simp)]
  rfl

end Listing

namespace Instr

open Listing

/-- The instruction is the one that instruction line number `k` gives, counted from 0: it has the number and
what is left of that line, and the labels met since the instruction line before. -/
def From (lines : List Bytes) (k : Nat) (x : Instr) : Prop :=
  ∃ raw before, (raw, x.line) ∈ lines.zipIdx 1 ∧ x.text = Line.remainder raw ∧
    (0 :: instrLines lines)[k]? = some before ∧
    x.labels = ((lines.take x.line).drop before).flatMap Line.labelsOn

theorem From.append {lines : List Bytes} {k : Nat} {x : Instr} (h : x.From lines k)
    (more : List Bytes) : x.From (lines ++ more) k := by
  obtain ⟨raw, before, hraw, htext, hbefore, hlabels⟩ := h
  have hle : x.line ≤ lines.length := by
    have := List.snd_lt_of_mem_zipIdx hraw
    dsimp only at this
    omega
  refine ⟨raw, before, ?_, htext, ?_, ?_⟩
  · rw [List.zipIdx_append]
    exact List.mem_append_left _ hraw
  · obtain ⟨later, hlater⟩ := instrLines_append lines more
    rw [hlater, ← List.cons_append]
    exact List.getElem?_append_left (List.getElem?_eq_some_iff.mp hbefore).1 |>.trans hbefore
  · rw [List.take_append_of_le_length hle, hlabels]

def unnumbered (x : Instr) : Instr := { x with index := 0 }

end Instr

theorem map_unnumbered_numbered (xs : List Instr) :
    (numbered xs).map Instr.unnumbered = xs.map Instr.unnumbered := by
  apply List.ext_getElem?
  intro i
  rw [List.getElem?_map, getElem?_numbered, List.getElem?_map, Option.map_map]
  rfl

theorem map_index_numbered (xs : List Instr) :
    (numbered xs).map Instr.index = List.range xs.length := by
  rw [numbered, List.map_map, List.range_eq_range']
  exact List.zipIdx_map_snd 0 xs

/-- A draft that closes leaves no label waiting, and its instructions are those of the body. -/
theorem Draft.close_instrs {file : Bytes} {d : Draft} {closed : List Body} (h : d.close file = .ok closed) :
    d.pending = [] ∧
      (closed.flatMap Body.instrs).map Instr.unnumbered = d.instrs.map Instr.unnumbered := by
  unfold Draft.close at h
  split at h
  · next hvoid =>
      cases h
      simp only [Draft.isVoid, Bool.and_eq_true, List.isEmpty_iff] at hvoid
      rw [hvoid.2, hvoid.1.1.2]
      exact ⟨rfl, rfl⟩
  · split at h
    · cases h
    · next hpending =>
        split at h
        · next b hmake =>
            cases h
            obtain ⟨rfl, -⟩ := Body.make_eq_ok hmake
            rw [List.flatMap_singleton]
            exact ⟨hpending, map_unnumbered_numbered d.instrs⟩
        · cases h

namespace Listing

/-- All instructions read so far, without their positions. -/
def Progress.instrs (p : Progress) : List Instr :=
  (p.bodies.flatMap Body.instrs ++ p.draft.instrs).map Instr.unnumbered

/-- The instructions come from the lines read so far, one from each instruction line, none of which is too
far down, and the labels met since the last of these lines wait. -/
structure Progress.Traced (done : List Bytes) (p : Progress) : Prop where
  lines : p.instrs.map Instr.line = instrLines done
  numbered : ∀ k ∈ instrLines done, k ≤ Line.maxNumber
  origin : ∀ (k : Nat) (x : Instr), p.instrs[k]? = some x → x.From done k
  pending : p.draft.pending = waiting done
  labels : p.instrs.flatMap Instr.labels ++ p.draft.pending = done.flatMap Line.labelsOn

namespace Progress

variable {done : List Bytes} {raw : Bytes} {p q : Progress}

theorem traced_start : Traced [] {} :=
  ⟨rfl, by simp [instrLines], by simp [Progress.instrs], rfl, rfl⟩

theorem Traced.bare (h : p.Traced done) (hraw : Line.isInstr raw = false) (hinstrs : q.instrs = p.instrs)
    (hpending : q.draft.pending = p.draft.pending ++ Line.labelsOn raw) : q.Traced (done ++ [raw]) where
  lines := by simp [hinstrs, h.lines, instrLines_concat, hraw]
  numbered := by simpa [instrLines_concat, hraw] using h.numbered
  origin k x hx := (h.origin k x (hinstrs ▸ hx)).append [raw]
  pending := by rw [hpending, h.pending, waiting_bare done hraw]
  labels := by simp [hinstrs, hpending, ← h.labels]

theorem Traced.instr {x : Instr} (h : p.Traced done) (hraw : Line.isInstr raw = true)
    (hnumber : done.length + 1 ≤ Line.maxNumber) (hline : x.line = done.length + 1) (htext : x.text = Line.remainder raw)
    (hlabels : x.labels = p.draft.pending ++ Line.labelsOn raw) (hinstrs : q.instrs = p.instrs ++ [x])
    (hpending : q.draft.pending = []) : q.Traced (done ++ [raw]) where
  lines := by simp [hinstrs, h.lines, instrLines_concat, hraw, hline]
  numbered k hk := by
    simp only [instrLines_concat, hraw, if_true, List.mem_append, List.mem_singleton] at hk
    rcases hk with hk | rfl
    · exact h.numbered k hk
    · exact hnumber
  origin k y hy := by
    rw [hinstrs, List.getElem?_append] at hy
    split at hy
    · exact (h.origin k y hy).append [raw]
    · next hk =>
        obtain ⟨hk', rfl⟩ := List.getElem?_eq_some_iff.mp hy
        have hk₀ : k = (instrLines done).length := by
          rw [← h.lines, List.length_map]
          simp only [List.length_singleton] at hk'
          omega
        have hlast : (0 :: instrLines (done ++ [raw]))[k]? = some (lastInstr done) := by
          rw [hk₀, instrLines_concat, ← List.cons_append, List.getElem?_append_left (by simp)]
          exact getElem?_lastInstr done
        refine ⟨raw, lastInstr done, ?_, ?_, hlast, ?_⟩
        · simp [hline, List.zipIdx_append, Nat.add_comm]
        · simpa using htext
        · have htake : (done ++ [raw]).take x.line = done ++ [raw] :=
            List.take_of_length_le (by simp [hline])
          simp [hlabels, h.pending, ← flatMap_labelsOn_concat, htake]
  pending := by rw [hpending, waiting_instr done hraw]
  labels := by simp [hinstrs, hpending, hlabels, ← h.labels]

theorem Traced.add {file : Bytes} {line : Line} (h : p.Traced done)
    (hread : Line.read (done.length + 1) (dropReturn raw) = .ok line) (hadd : p.add file line = .ok q) :
    q.Traced (done ++ [raw]) := by
  obtain ⟨hlabels, ⟨hbare, hnone⟩ | ⟨hinstr, hnumber, x, hx, hline, htext⟩⟩ := Line.read_origin hread
  · cases line with
    | body name =>
        obtain ⟨closed, hclose, hq⟩ := bind_eq_ok.mp hadd
        cases hq
        obtain ⟨hpending, hinstrs⟩ := Draft.close_instrs hclose
        refine h.bare hbare ?_ ?_
        · simp [Progress.instrs, hinstrs]
        · rw [hpending, ← hlabels]
          rfl
    | trap t =>
        cases hadd
        refine h.bare hbare rfl ?_
        rw [← hlabels]
        exact (List.append_nil _).symm
    | code labels instr =>
        cases hnone
        cases hadd
        exact h.bare hbare rfl (congrArg (p.draft.pending ++ ·) hlabels)
  · cases line with
    | body name => cases hx
    | trap t => cases hx
    | code labels instr =>
        cases hx
        cases hadd
        refine h.instr (x := ({ x with labels := p.draft.pending ++ labels } : Instr).unnumbered) hinstr
          hnumber hline htext (congrArg (p.draft.pending ++ ·) hlabels) ?_ rfl
        simp [Progress.instrs]

theorem Traced.step {file : Bytes} (h : p.Traced done)
    (hstep : step file p (raw, done.length + 1) = .ok q) : q.Traced (done ++ [raw]) := by
  obtain ⟨-, line, hread, hadd⟩ := step_eq_ok hstep
  exact h.add hread hadd

theorem Traced.run {file : Bytes} {rest : List Bytes} (h : p.Traced done)
    (hrun : (rest.zipIdx (done.length + 1)).foldlM (Listing.step file) p = .ok q) :
    q.Traced (done ++ rest) := by
  induction rest generalizing done p with
  | nil =>
      cases hrun
      rwa [List.append_nil]
  | cons raw rest ih =>
      rw [List.zipIdx_cons, List.foldlM_cons] at hrun
      obtain ⟨p₁, hstep, hrest⟩ := bind_eq_ok.mp hrun
      have h₁ : p₁.Traced (done ++ [raw]) := h.step hstep
      rw [List.append_cons]
      exact ih h₁ (by simpa using hrest)

end Progress

/-- The instructions of a listing that is read are those of its last reading, and no label is left over. -/
theorem parse_traced {file src : Bytes} {bodies : List Body} (h : parse file src = .ok bodies) :
    ∃ p : Progress, p.Traced (rawLines src) ∧ p.draft.pending = [] ∧
      (bodies.flatMap Body.instrs).map Instr.unnumbered = p.instrs := by
  obtain ⟨p, closed, hrun, hclose, rfl⟩ := parse_eq_ok h
  obtain ⟨hpending, hinstrs⟩ := Draft.close_instrs hclose
  refine ⟨p, Progress.traced_start.run hrun, hpending, ?_⟩
  rw [List.flatMap_append, List.map_append, hinstrs, ← List.map_append]
  rfl

theorem parse_lines {file src : Bytes} {bodies : List Body} (h : parse file src = .ok bodies) :
    (bodies.flatMap Body.instrs).map Instr.line = instrLines (rawLines src) := by
  obtain ⟨p, ht, -, hall⟩ := parse_traced h
  rw [← ht.lines, ← hall, List.map_map]
  rfl

theorem forall_instrLines {file src : Bytes} {bodies : List Body} (h : parse file src = .ok bodies)
    {P : Nat → Prop} : (∀ k ∈ instrLines (rawLines src), P k) ↔ ∀ b ∈ bodies, ∀ x ∈ b.instrs, P x.line := by
  rw [← parse_lines h, List.forall_mem_map]
  simp only [List.mem_flatMap]
  exact ⟨fun hall b hb x hx => hall x ⟨b, hb, hx⟩, fun hall x ⟨b, hb, hx⟩ => hall b hb x hx⟩

/-- No instruction of a listing that is read stands too far down. -/
theorem parse_numbered {file src : Bytes} {bodies : List Body} (h : parse file src = .ok bodies) :
    ∀ k ∈ instrLines (rawLines src), k ≤ Line.maxNumber := by
  obtain ⟨p, ht, -, -⟩ := parse_traced h
  exact ht.numbered

/-- Every label of a listing that is read stands before one instruction. -/
theorem parse_labels {file src : Bytes} {bodies : List Body} (h : parse file src = .ok bodies) :
    (bodies.flatMap Body.instrs).flatMap Instr.labels = (rawLines src).flatMap Line.labelsOn := by
  obtain ⟨p, ht, hpending, hall⟩ := parse_traced h
  rw [← ht.labels, hpending, List.append_nil, ← hall, List.flatMap_map]
  rfl

/-- In a listing that is read the instructions of all bodies stand one to one, in order, for its instruction
lines: each has the number of its line, what is left of it behind the labels, and all labels met since the
instruction line before; each body counts its own from 0. -/
theorem instrs_follow_lines {file src : Bytes} {bodies : List Body} (h : parse file src = .ok bodies) :
    (bodies.flatMap Body.instrs).map Instr.line = instrLines (rawLines src) ∧
      (∀ (k : Nat) (x : Instr), (bodies.flatMap Body.instrs)[k]? = some x → x.From (rawLines src) k) ∧
      ∀ b ∈ bodies, b.instrs.map Instr.index = List.range b.instrs.length := by
  obtain ⟨p, ht, -, hall⟩ := parse_traced h
  refine ⟨parse_lines h, ?_, ?_⟩
  · intro k x hx
    have hk : p.instrs[k]? = some x.unnumbered := by
      rw [← hall, List.getElem?_map, hx]
      rfl
    exact ht.origin k x.unnumbered hk
  · obtain ⟨ds, -, hds⟩ := parse_drafts h
    rw [Except.ok.inj (h.symm.trans (hds file))]
    intro b hb
    obtain ⟨d, -, rfl⟩ := List.mem_map.mp hb
    exact (map_index_numbered d.instrs).trans (by rw [Draft.body, length_numbered])

/-- Labels over several lines, with a blank line, a comment and a trap between them, in two bodies. -/
def spread : Bytes :=
  bytes "a: b:\n\nc: # still waiting\n.trap a - c\nd: x = 1\nreturn\n.body n\ne:goto e\n"

theorem spread_follows_lines :
    ∃ bodies, parse (bytes "m.bbl") spread = .ok bodies ∧
      (bodies.flatMap Body.instrs).map Instr.labels =
        [[bytes "a", bytes "b", bytes "c", bytes "d"], [], [bytes "e"]] ∧
      (bodies.flatMap Body.instrs).map Instr.line = [5, 6, 8] ∧
      (∀ (k : Nat) (x : Instr), (bodies.flatMap Body.instrs)[k]? = some x → x.From (rawLines spread) k) ∧
      ∀ b ∈ bodies, b.instrs.map Instr.index = List.range b.instrs.length := by
  obtain ⟨bodies, hparse, hlabels⟩ := map_eq_ok.mp (by decide +kernel :
    (parse (bytes "m.bbl") spread).map (fun bs => (bs.flatMap Body.instrs).map Instr.labels) =
      .ok [[bytes "a", bytes "b", bytes "c", bytes "d"], [], [bytes "e"]])
  obtain ⟨hlines, hfollow⟩ := instrs_follow_lines hparse
  exact ⟨bodies, hparse, hlabels, hlines.trans (by decide +kernel), hfollow⟩

end Listing

end FlowBlocks
