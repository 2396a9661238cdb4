import FlowBlocks.Proofs.Listing.Sound
import Mathlib.Data.List.Nodup
/-!
Which bodies are made. What a body owes its labels is said of the instructions and traps alone, without the
table of labels that the checks build; each check passes exactly if its part of that holds, and in a body
that passed all of them the table finds for every label the one instruction that bears it.
-/
namespace FlowBlocks

/-- The instruction at a position bears a label. -/
def Bears (instrs : List Instr) (l : Bytes) (i : Nat) : Prop := ∃ x, instrs[i]? = some x ∧ l ∈ x.labels

/-- The labels of all instructions, in order. -/
def labelsOf (instrs : List Instr) : List Bytes := instrs.flatMap (·.labels)

/-- The labels of a trap stand in the body, the first not behind the one that ends the range. -/
structure Trap.Placed (instrs : List Instr) (t : Trap) : Prop where
  handler : t.handler ∈ labelsOf instrs
  range : ∃ i, Bears instrs t.first i ∧ (t.past ≠ [] → ∃ j, Bears instrs t.past j ∧ i ≤ j)

/-- No label stands twice, every label that is named stands somewhere, and control does not run past the
end. -/
structure Body.WellFormed (instrs : List Instr) (traps : List Trap) : Prop where
  distinct : (labelsOf instrs).Nodup
  targets : ∀ x ∈ instrs, ∀ l ∈ x.targets, l ∈ labelsOf instrs
  traps : ∀ t ∈ traps, t.Placed instrs
  closed : ∀ x, instrs.getLast? = some x → x.fallsThrough = false

section Sites

variable {instrs : List Instr} {l : Bytes} {i : Nat}

theorem map_fst_labelSites (instrs : List Instr) : (labelSites instrs).map Prod.fst = labelsOf instrs := by
  have hlabels : ∀ e : Instr × Nat, (e.1.labels.map (·, e.2)).map Prod.fst = e.1.labels := by
    intro e
    rw [List.map_map]
    exact List.map_id _
  calc (labelSites instrs).map Prod.fst
      = instrs.zipIdx.flatMap (fun e => (e.1.labels.map (·, e.2)).map Prod.fst) := List.map_flatMap
    _ = instrs.zipIdx.flatMap (fun e => e.1.labels) := by simp only [hlabels]
    _ = (instrs.zipIdx.map Prod.fst).flatMap (·.labels) := by rw [List.flatMap_map]
    _ = labelsOf instrs := by rw [List.zipIdx_map_fst, labelsOf]

theorem mem_labelSites : (l, i) ∈ labelSites instrs ↔ Bears instrs l i := by
  unfold labelSites Bears
  simp only [List.mem_flatMap, List.mem_map, Prod.mk.injEq, Prod.exists, List.mem_zipIdx_iff_getElem?]
  constructor
  · rintro ⟨x, j, hx, l', hl, rfl, rfl⟩
    exact ⟨x, hx, hl⟩
  · rintro ⟨x, hx, hl⟩
    exact ⟨x, i, hx, l, hl, rfl, rfl⟩

theorem siteOf?_eq_none {sites : List (Bytes × Nat)} : siteOf? sites l = none ↔ l ∉ sites.map Prod.fst := by
  simp only [siteOf?, Option.map_eq_none_iff, List.find?_eq_none, beq_iff_eq, List.mem_map, not_exists,
    not_and]

theorem exists_siteOf? : (∃ i, siteOf? (labelSites instrs) l = some i) ↔ l ∈ labelsOf instrs := by
  rw [← Option.ne_none_iff_exists', Ne, siteOf?_eq_none, map_fst_labelSites, not_not]

theorem mem_labelsOf : l ∈ labelsOf instrs ↔ ∃ i, Bears instrs l i := by
  rw [← map_fst_labelSites, List.mem_map]
  constructor
  · rintro ⟨⟨l', i⟩, hmem, rfl⟩
    exact ⟨i, mem_labelSites.mp hmem⟩
  · rintro ⟨i, hi⟩
    exact ⟨(l, i), mem_labelSites.mpr hi, rfl⟩

/-- Where no label stands twice, a label is found where it stands. -/
theorem siteOf?_eq_some (hdistinct : (labelsOf instrs).Nodup) :
    siteOf? (labelSites instrs) l = some i ↔ Bears instrs l i := by
  constructor
  · exact siteOf?_labelSites
  · intro hi
    obtain ⟨j, hj⟩ := exists_siteOf?.mpr (mem_labelsOf.mpr ⟨i, hi⟩)
    rw [← map_fst_labelSites] at hdistinct
    have hsame : (l, j) = (l, i) :=
      List.inj_on_of_nodup_map hdistinct (mem_labelSites.mpr (siteOf?_labelSites hj)) (mem_labelSites.mpr hi) rfl
    rw [hj, (Prod.mk.inj hsame).2]

end Sites

section Checks

variable {instrs : List Instr} {traps : List Trap}

/-- The labels read so far are distinct all along, and a label is let in only if it is not among them. -/
theorem repeated?_eq_none {seen sites : List (Bytes × Nat)} (hseen : (seen.map Prod.fst).Nodup) :
    repeated? seen sites = none ↔ ((seen ++ sites).map Prod.fst).Nodup := by
  induction sites generalizing seen with
  | nil => simp [repeated?, hseen]
  | cons s rest ih =>
      obtain ⟨l, j⟩ := s
      cases hsite : siteOf? seen l with
      | some i =>
          have hmem : l ∈ seen.map Prod.fst := by
            by_contra hnew
            rw [siteOf?_eq_none.mpr hnew] at hsite
            cases hsite
          simp only [repeated?, hsite, reduceCtorEq, false_iff]
          intro hnodup
          rw [List.map_append, List.map_cons] at hnodup
          exact List.disjoint_of_nodup_append hnodup hmem List.mem_cons_self
      | none =>
          have hnew : l ∉ seen.map Prod.fst := siteOf?_eq_none.mp hsite
          have hnodup : ((seen ++ [(l, j)]).map Prod.fst).Nodup := by
            rw [List.map_append, List.map_singleton, ← List.concat_eq_append]
            exact hseen.concat hnew
          simp only [repeated?, hsite]
          rw [ih hnodup, List.append_assoc]
          rfl

theorem repeated?_labelSites : repeated? [] (labelSites instrs) = none ↔ (labelsOf instrs).Nodup := by
  have hnone : (([] : List (Bytes × Nat)).map Prod.fst).Nodup := List.nodup_nil
  rw [repeated?_eq_none hnone, List.nil_append, map_fst_labelSites]

theorem unresolved?_eq_none : unresolved? (labelSites instrs) instrs = none ↔
    ∀ x ∈ instrs, ∀ l ∈ x.targets, l ∈ labelsOf instrs := by
  constructor
  · intro h x hx l hl
    exact exists_siteOf?.mp (resolved_of_unresolved? h hx hl)
  · intro h
    refine List.findSome?_eq_none_iff.mpr ?_
    rintro ⟨x, i⟩ hx
    refine Option.map_eq_none_iff.mpr (List.find?_eq_none.mpr ?_)
    intro l hl hnone
    obtain ⟨j, hj⟩ := exists_siteOf?.mpr (h x (List.fst_mem_of_mem_zipIdx hx) l hl)
    rw [hj] at hnone
    cases hnone

theorem Trap.exists_range (hdistinct : (labelsOf instrs).Nodup) {t : Trap} :
    (∃ r, t.range (labelSites instrs) instrs.length = .ok r) ↔ t.Placed instrs := by
  constructor
  · rintro ⟨r, hr⟩
    obtain ⟨hfirst, hpast, hhandler, hle⟩ := Trap.range_eq_ok hr
    refine ⟨exists_siteOf?.mp ⟨_, hhandler⟩, r.first, siteOf?_labelSites hfirst, ?_⟩
    intro hne
    rw [if_neg (by simpa using hne)] at hpast
    exact ⟨r.past, siteOf?_labelSites hpast, hle⟩
  · rintro ⟨hhandler, i, hfirst, hpast⟩
    obtain ⟨k, hk⟩ := exists_siteOf?.mpr hhandler
    have hi := (siteOf?_eq_some hdistinct).mpr hfirst
    obtain ⟨past, hsite, hle⟩ : ∃ past, (if t.past.isEmpty then some instrs.length
        else siteOf? (labelSites instrs) t.past) = some past ∧ i ≤ past := by
      by_cases hempty : t.past = []
      · rw [hempty]
        exact ⟨instrs.length, rfl, Nat.le_of_lt (siteOf?_lt hi)⟩
      · obtain ⟨j, hj, hle⟩ := hpast hempty
        rw [if_neg (by simpa using hempty)]
        exact ⟨j, (siteOf?_eq_some hdistinct).mpr hj, hle⟩
    refine ⟨⟨i, past, k⟩, ?_⟩
    simp only [Trap.range, hi, hsite, hk, if_neg (Nat.not_lt_of_ge hle)]

theorem badTrap?_eq_none (hdistinct : (labelsOf instrs).Nodup) :
    badTrap? (labelSites instrs) instrs.length traps = none ↔ ∀ t ∈ traps, t.Placed instrs := by
  constructor
  · intro h t ht
    exact (Trap.exists_range hdistinct).mp (ranged_of_badTrap? h ht)
  · intro h
    refine List.findSome?_eq_none_iff.mpr ?_
    rintro ⟨t, n⟩ ht
    obtain ⟨r, hr⟩ := (Trap.exists_range hdistinct).mpr (h t (List.fst_mem_of_mem_zipIdx ht))
    simp only [hr]

theorem fallingEnd?_eq_none :
    fallingEnd? instrs = none ↔ ∀ x, instrs.getLast? = some x → x.fallsThrough = false := by
  constructor
  · intro h x hx
    exact closed_of_fallingEnd? h hx
  · intro h
    unfold fallingEnd?
    cases hlast : instrs.getLast? with
    | none => rfl
    | some x => simp [h x hlast]

end Checks

section Make

variable {name file : Bytes} {instrs : List Instr} {traps : List Trap} {b : Body}

theorem Body.make_of_wellFormed (h : Body.WellFormed instrs traps) (name file : Bytes) :
    Body.make name file instrs traps = .ok ⟨name, file, numbered instrs, traps⟩ := by
  have hrepeated := repeated?_labelSites.mpr h.distinct
  have hjumps := unresolved?_eq_none.mpr h.targets
  have htraps := (badTrap?_eq_none h.distinct).mpr h.traps
  have hend := fallingEnd?_eq_none.mpr h.closed
  simp only [Body.make, hrepeated, hjumps, htraps, hend]

theorem Body.wellFormed_of_make (h : Body.make name file instrs traps = .ok b) :
    Body.WellFormed instrs traps := by
  obtain ⟨-, hrepeated, hjumps, htraps, hend⟩ := Body.make_eq_ok h
  have hdistinct := repeated?_labelSites.mp hrepeated
  exact ⟨hdistinct, unresolved?_eq_none.mp hjumps, (badTrap?_eq_none hdistinct).mp htraps,
    fallingEnd?_eq_none.mp hend⟩

theorem labelsOf_numbered (instrs : List Instr) : labelsOf (numbered instrs) = labelsOf instrs := by
  rw [← map_fst_labelSites, labelSites_numbered, map_fst_labelSites]

/-- Labels are found where they stand. -/
theorem Body.find?_of_make (h : Body.make name file instrs traps = .ok b) (l : Bytes) (i : Nat) :
    b.find? l = some i ↔ Bears b.instrs l i := by
  have hdistinct := (Body.wellFormed_of_make h).distinct
  obtain ⟨rfl, -⟩ := Body.make_eq_ok h
  rw [← labelsOf_numbered] at hdistinct
  exact siteOf?_eq_some hdistinct

/-- Every trap has its handler in the list of handlers, none is passed over. -/
theorem Body.handlers_of_make (h : Body.make name file instrs traps = .ok b) :
    List.Forall₂ (fun t i => Bears b.instrs t.handler i) b.traps b.handlers := by
  have hfind := Body.find?_of_make h
  have hplaced : ∀ t ∈ b.traps, ∃ i, b.find? t.handler = some i := by
    intro t ht
    obtain ⟨rfl, -⟩ := Body.make_eq_ok h
    have hmem := ((Body.wellFormed_of_make h).traps t ht).handler
    rw [← labelsOf_numbered] at hmem
    exact exists_siteOf?.mpr hmem
  unfold Body.handlers
  generalize b.traps = ts at hplaced
  induction ts with
  | nil => exact .nil
  | cons t ts ih =>
      obtain ⟨i, hi⟩ := hplaced t List.mem_cons_self
      rw [List.filterMap_cons_some (f := fun t : Trap => b.find? t.handler) hi]
      refine .cons ((hfind t.handler i).mp hi) (ih ?_)
      intro t' ht'
      exact hplaced t' (List.mem_cons_of_mem t ht')

end Make

/-- Exactly the well-formed bodies are made. In a body that is made the instructions are those given, each
with its position for index; a label is found at the position of the instruction that bears it, and not
at all if none does; and the handlers are those of the traps, in the order of the table. -/
theorem made_iff_wellFormed (name file : Bytes) (instrs : List Instr) (traps : List Trap) :
    ((∃ b, Body.make name file instrs traps = .ok b) ↔ Body.WellFormed instrs traps) ∧
      ∀ b, Body.make name file instrs traps = .ok b →
        (b.name = name ∧ b.file = file ∧ b.traps = traps) ∧
        (∀ i : Nat, b.instrs[i]? = instrs[i]?.map fun x => { x with index := i }) ∧
        (∀ l i, b.find? l = some i ↔ Bears b.instrs l i) ∧
        List.Forall₂ (fun t i => Bears b.instrs t.handler i) traps b.handlers := by
  refine ⟨⟨?_, ?_⟩, ?_⟩
  · rintro ⟨b, hb⟩
    exact Body.wellFormed_of_make hb
  · intro h
    exact ⟨_, Body.make_of_wellFormed h name file⟩
  · intro b hb
    have hhandlers := Body.handlers_of_make hb
    have hfind := Body.find?_of_make hb
    obtain ⟨rfl, -⟩ := Body.make_eq_ok hb
    exact ⟨⟨rfl, rfl, rfl⟩, getElem?_numbered instrs, hfind, hhandlers⟩

/-- Two labels on one instruction, a trap to the end of the body and one around nothing. -/
theorem pair_of_traps_made :
    ∃ b, Body.make (bytes "m") (bytes "m.bbl")
        [{ labels := [bytes "a"], op := .cond, text := bytes "if p goto b", targets := [bytes "b"] },
          { labels := [bytes "h", bytes "b"], op := .ret, text := bytes "return" }]
        [⟨bytes "a", [], bytes "h"⟩, ⟨bytes "b", bytes "h", bytes "a"⟩] = .ok b ∧
      (∀ l i, b.find? l = some i ↔ Bears b.instrs l i) ∧
      List.Forall₂ (fun (t : Trap) i => Bears b.instrs t.handler i)
        [⟨bytes "a", [], bytes "h"⟩, ⟨bytes "b", bytes "h", bytes "a"⟩] b.handlers ∧
      b.handlers = [1, 0] := by
  obtain ⟨b, hmake, hhandlers⟩ := map_eq_ok.mp (by decide +kernel :
    (Body.make (bytes "m") (bytes "m.bbl")
        [{ labels := [bytes "a"], op := .cond, text := bytes "if p goto b", targets := [bytes "b"] },
          { labels := [bytes "h", bytes "b"], op := .ret, text := bytes "return" }]
        [⟨bytes "a", [], bytes "h"⟩, ⟨bytes "b", bytes "h", bytes "a"⟩]).map Body.handlers = .ok [1, 0])
  obtain ⟨-, -, hfind, hlisted⟩ := (made_iff_wellFormed _ _ _ _).2 b hmake
  exact ⟨b, hmake, hfind, hlisted, hhandlers⟩

end FlowBlocks
