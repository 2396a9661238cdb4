import FlowBlocks.Listing.Parse
import FlowBlocks.Proofs.Collect
/-!
Sound bodies: instructions that jump have somewhere to jump to, every label resolves, and control never
runs past the end. Every body of a listing that is read is sound; the reader keeps the shape of
instructions line by line, and closing a body checks the rest.
-/
namespace FlowBlocks

/-- An instruction branches exactly when it names targets. -/
def Instr.Shaped (x : Instr) : Prop := x.branches = true ↔ x.targets ≠ []

/-- What the flow graph of a body relies on. -/
structure Body.Sound (b : Body) : Prop where
  shaped : ∀ x ∈ b.instrs, x.Shaped
  resolved : ∀ x ∈ b.instrs, ∀ l ∈ x.targets, ∃ i, b.find? l = some i
  ranged : ∀ t ∈ b.traps, ∃ r, t.range (labelSites b.instrs) b.size = .ok r
  closed : ∀ x, b.instrs.getLast? = some x → x.fallsThrough = false

section Numbering

theorem getElem?_numbered (xs : List Instr) (i : Nat) :
    (numbered xs)[i]? = xs[i]?.map fun x => { x with index := i } := by
  simp [numbered, List.getElem?_zipIdx, Function.comp_def]

@[simp] theorem length_numbered (xs : List Instr) : (numbered xs).length = xs.length := by
  simp [numbered]

theorem mem_numbered {xs : List Instr} {y : Instr} (h : y ∈ numbered xs) :
    ∃ x ∈ xs, ∃ i, y = { x with index := i } := by
  obtain ⟨⟨x, i⟩, hx, rfl⟩ := List.mem_map.mp h
  exact ⟨x, List.fst_mem_of_mem_zipIdx hx, i, rfl⟩

theorem getLast?_numbered {xs : List Instr} {y : Instr} (h : (numbered xs).getLast? = some y) :
    ∃ x i, xs.getLast? = some x ∧ y = { x with index := i } := by
  rw [List.getLast?_eq_getElem?, getElem?_numbered, length_numbered] at h
  obtain ⟨x, hx, rfl⟩ := Option.map_eq_some_iff.mp h
  exact ⟨x, _, by rw [List.getLast?_eq_getElem?, hx], rfl⟩

/-- Numbering moves no label. -/
@[simp] theorem labelSites_numbered (xs : List Instr) : labelSites (numbered xs) = labelSites xs := by
  have hzip : (numbered xs).zipIdx = xs.zipIdx.map fun e => ({ e.1 with index := e.2 }, e.2) := by
    apply List.ext_getElem?
    intro k
    simp only [List.getElem?_zipIdx, getElem?_numbered, List.getElem?_map, Option.map_map, Nat.zero_add]
    rfl
  rw [labelSites, hzip, List.flatMap_map]
  rfl

theorem siteOf?_labelSites {xs : List Instr} {l : Bytes} {i : Nat}
    (h : siteOf? (labelSites xs) l = some i) : ∃ x, xs[i]? = some x ∧ l ∈ x.labels := by
  obtain ⟨⟨l', i'⟩, hfind, rfl⟩ := Option.map_eq_some_iff.mp h
  have hl : l' = l := by simpa using List.find?_some hfind
  obtain ⟨⟨x, j⟩, hx, hmem⟩ := List.mem_flatMap.mp (List.mem_of_find?_eq_some hfind)
  obtain ⟨l'', hl'', heq⟩ := List.mem_map.mp hmem
  obtain ⟨rfl, rfl⟩ := Prod.mk.inj heq
  exact ⟨x, List.mem_zipIdx_iff_getElem?.mp hx, hl ▸ hl''⟩

theorem siteOf?_lt {xs : List Instr} {l : Bytes} {i : Nat}
    (h : siteOf? (labelSites xs) l = some i) : i < xs.length := by
  obtain ⟨x, hx, -⟩ := siteOf?_labelSites h
  exact (List.getElem?_eq_some_iff.mp hx).1

end Numbering

section Checks

variable {f : Instr → Instr}

theorem labelSites_map (hf : ∀ x, (f x).labels = x.labels) (xs : List Instr) :
    labelSites (xs.map f) = labelSites xs := by
  rw [labelSites, List.zipIdx_map, List.flatMap_map]
  simp only [Prod.map, hf]
  rfl

theorem unresolved?_map (hf : ∀ x, (f x).targets = x.targets) (sites : List (Bytes × Nat))
    (xs : List Instr) : unresolved? sites (xs.map f) = unresolved? sites xs := by
  rw [unresolved?, List.zipIdx_map, List.findSome?_map]
  simp only [Function.comp_def, Prod.map, hf]
  rfl

theorem fallingEnd?_map (hf : ∀ x, (f x).op = x.op) (xs : List Instr) :
    fallingEnd? (xs.map f) = fallingEnd? xs := by
  unfold fallingEnd?
  rw [List.getLast?_map, List.length_map]
  cases xs.getLast? with
  | none => rfl
  | some x =>
      simp only [Option.map_some, Instr.fallsThrough, hf]
      rfl

end Checks

section Make

variable {name file : Bytes} {instrs : List Instr} {traps : List Trap} {b : Body}

/-- A body that is made has passed the four checks, and is the instructions numbered. -/
theorem Body.make_eq_ok (h : Body.make name file instrs traps = .ok b) :
    b = ⟨name, file, numbered instrs, traps⟩ ∧ repeated? [] (labelSites instrs) = none ∧
      unresolved? (labelSites instrs) instrs = none ∧
      badTrap? (labelSites instrs) instrs.length traps = none ∧ fallingEnd? instrs = none := by
  unfold Body.make at h
  dsimp only at h
  split at h
  · cases h
  · next hrep =>
      split at h
      · cases h
      · next hun =>
          split at h
          · cases h
          · next hbad =>
              split at h
              · cases h
              · next hfall =>
                  cases h
                  exact ⟨rfl, hrep, hun, hbad, hfall⟩

theorem resolved_of_unresolved? {sites : List (Bytes × Nat)} (h : unresolved? sites instrs = none)
    {x : Instr} (hx : x ∈ instrs) {l : Bytes} (hl : l ∈ x.targets) : ∃ i, siteOf? sites l = some i := by
  obtain ⟨i, hi⟩ := List.getElem?_of_mem hx
  have hnone := List.findSome?_eq_none_iff.mp h (x, i) (List.mem_zipIdx_iff_getElem?.mpr hi)
  have hfind := List.find?_eq_none.mp (Option.map_eq_none_iff.mp hnone) l hl
  cases hs : siteOf? sites l with
  | none => simp [hs] at hfind
  | some j => exact ⟨j, rfl⟩

theorem ranged_of_badTrap? {sites : List (Bytes × Nat)} {size : Nat} (h : badTrap? sites size traps = none)
    {t : Trap} (ht : t ∈ traps) : ∃ r, t.range sites size = .ok r := by
  obtain ⟨i, hi⟩ := List.getElem?_of_mem ht
  have hnone := List.findSome?_eq_none_iff.mp h (t, i) (List.mem_zipIdx_iff_getElem?.mpr hi)
  cases hr : t.range sites size with
  | error e => simp [hr] at hnone
  | ok r => exact ⟨r, rfl⟩

/-- A trap that resolves has all its labels in the body, and they are in order. -/
theorem Trap.range_eq_ok {sites : List (Bytes × Nat)} {size : Nat} {t : Trap} {r : TrapRange}
    (h : t.range sites size = .ok r) :
    siteOf? sites t.first = some r.first ∧
      (if t.past.isEmpty then some size else siteOf? sites t.past) = some r.past ∧
      siteOf? sites t.handler = some r.handler ∧ r.first ≤ r.past := by
  unfold Trap.range at h
  split at h
  · cases h
  · next first hfirst =>
      split at h
      · cases h
      · next past hpast =>
          split at h
          · cases h
          · next handler hhandler =>
              split at h
              · cases h
              · next hle =>
                  cases h
                  exact ⟨hfirst, hpast, hhandler, Nat.le_of_not_lt hle⟩

theorem closed_of_fallingEnd? (h : fallingEnd? instrs = none) {x : Instr}
    (hx : instrs.getLast? = some x) : x.fallsThrough = false := by
  unfold fallingEnd? at h
  rw [hx] at h
  cases hf : x.fallsThrough with
  | false => rfl
  | true => simp [hf] at h

theorem Body.make_sound (h : Body.make name file instrs traps = .ok b)
    (hs : ∀ x ∈ instrs, x.Shaped) : b.Sound := by
  obtain ⟨rfl, -, hun, hbad, hfall⟩ := Body.make_eq_ok h
  refine ⟨?_, ?_, ?_, ?_⟩
  · intro y hy
    obtain ⟨x, hx, i, rfl⟩ := mem_numbered hy
    exact hs x hx
  · intro y hy l hl
    obtain ⟨x, hx, i, rfl⟩ := mem_numbered hy
    simpa only [Body.find?, labelSites_numbered] using resolved_of_unresolved? hun hx hl
  · intro t ht
    simpa only [Body.size, labelSites_numbered, length_numbered] using ranged_of_badTrap? hbad ht
  · intro y hy
    obtain ⟨x, i, hx, rfl⟩ := getLast?_numbered hy
    have hclosed : x.fallsThrough = false := closed_of_fallingEnd? hfall hx
    exact hclosed

end Make

section Read

/-- Whatever kind of instruction a text is read as, it has targets exactly when it branches. -/
theorem Line.readOp_shaped {text : Bytes} {op : Op} {targets : List Bytes}
    (h : Line.readOp text = .ok (op, targets)) : op.branches = true ↔ targets ≠ [] := by
  unfold Line.readOp at h
  dsimp only at h
  split at h
  · cases h
    decide
  · next key rest _ =>
      split_ifs at h
      · split at h <;> cases h
        simp [Op.branches]
      · split at h
        · split at h <;> cases h
          simp [Op.branches]
        · cases h
      · split at h
        · split at h <;> cases h
          simp [Op.branches]
        · cases h
      · cases h
        decide
      · split at h <;> cases h
        decide
      · cases h
        decide
      · cases h
        decide

theorem Line.readDirective_not_code {ws : List Bytes} {labels : List Bytes} {x : Instr} :
    Line.readDirective ws ≠ .ok (.code labels (some x)) := by
  unfold Line.readDirective
  intro h
  split at h
  · split_ifs at h
    · split at h <;> cases h
    · split at h <;> cases h
  · cases h

theorem Line.read_shaped {number : Nat} {raw : Bytes} {labels : List Bytes} {x : Instr}
    (h : Line.read number raw = .ok (.code labels (some x))) : x.Shaped := by
  unfold Line.read at h
  dsimp only at h
  split at h
  · exact absurd h Line.readDirective_not_code
  · split at h
    · cases h
    · split at h
      · cases h
      · obtain ⟨⟨op, targets⟩, hop, hx⟩ := bind_eq_ok.mp h
        cases hx
        exact Line.readOp_shaped hop

end Read

namespace Listing

/-- What reading keeps: the bodies closed so far are sound, the one in the making is shaped. -/
structure Progress.Sound (p : Progress) : Prop where
  bodies : ∀ b ∈ p.bodies, b.Sound
  draft : ∀ x ∈ p.draft.instrs, x.Shaped

theorem close_sound {file : Bytes} {d : Draft} {closed : List Body} (hd : ∀ x ∈ d.instrs, x.Shaped)
    (h : d.close file = .ok closed) : ∀ b ∈ closed, b.Sound := by
  unfold Draft.close at h
  split at h
  · cases h
    simp
  · split at h
    · cases h
    · split at h
      · next b hmake =>
          cases h
          simpa using Body.make_sound hmake hd
      · cases h

theorem Progress.add_sound {file : Bytes} {p q : Progress} {line : Line} (hp : p.Sound)
    (hline : ∀ labels x, line = .code labels (some x) → x.Shaped) (h : p.add file line = .ok q) :
    q.Sound := by
  cases line with
  | body name =>
      obtain ⟨closed, hclose, hq⟩ := bind_eq_ok.mp h
      cases hq
      refine ⟨?_, by simp⟩
      intro b hb
      rcases List.mem_append.mp hb with hb | hb
      · exact hp.bodies b hb
      · exact close_sound hp.draft hclose b hb
  | trap t =>
      cases h
      exact ⟨hp.bodies, hp.draft⟩
  | code labels instr =>
      cases instr with
      | none =>
          cases h
          exact ⟨hp.bodies, hp.draft⟩
      | some x =>
          cases h
          refine ⟨hp.bodies, ?_⟩
          intro y hy
          rcases List.mem_append.mp hy with hy | hy
          · exact hp.draft y hy
          · rw [List.mem_singleton.mp hy]
            exact hline labels x rfl

/-- A line that is taken in fits the buffer, can be read, and is added. -/
theorem step_eq_ok {file : Bytes} {p q : Progress} {line : Bytes × Nat} (h : step file p line = .ok q) :
    line.1.length < bufferSize ∧
      ∃ l, Line.read line.2 (dropReturn line.1) = .ok l ∧ p.add file l = .ok q := by
  unfold step at h
  split at h
  · cases h
  · next hlen =>
      split at h
      · next r hr =>
          cases h
          exact ⟨Nat.lt_of_not_le hlen, bind_eq_ok.mp hr⟩
      · cases h

theorem parse_eq_ok {file src : Bytes} {bodies : List Body} (h : parse file src = .ok bodies) :
    ∃ p closed, ((rawLines src).zipIdx 1).foldlM (step file) {} = .ok p ∧
      p.draft.close file = .ok closed ∧ bodies = p.bodies ++ closed := by
  obtain ⟨p, hrun, hp⟩ := bind_eq_ok.mp h
  split at hp
  · next closed hclose =>
      cases hp
      exact ⟨p, closed, hrun, hclose, rfl⟩
  · cases hp

theorem step_sound {file : Bytes} {p q : Progress} {line : Bytes × Nat} (hp : p.Sound)
    (h : step file p line = .ok q) : q.Sound := by
  obtain ⟨-, l, hread, hadd⟩ := step_eq_ok h
  refine Progress.add_sound hp ?_ hadd
  rintro labels x rfl
  exact Line.read_shaped hread

/-- Every body of a listing that is read is sound. -/
theorem parse_sound {file src : Bytes} {bodies : List Body} (h : parse file src = .ok bodies) :
    ∀ b ∈ bodies, b.Sound := by
  obtain ⟨p, closed, hrun, hclose, rfl⟩ := parse_eq_ok h
  have hp : p.Sound :=
    foldlM_invariant (fun _ _ _ _ hs hstep => step_sound hs hstep) ⟨by simp, by simp⟩ hrun
  intro b hb
  rcases List.mem_append.mp hb with hb | hb
  · exact hp.bodies b hb
  · exact close_sound hp.draft hclose b hb

end Listing

end FlowBlocks
