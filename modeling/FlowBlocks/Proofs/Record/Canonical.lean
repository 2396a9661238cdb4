import FlowBlocks.Proofs.Record.RoundTrip
/-!
Records stored and read again. The stored form forgets one distinction, that between an empty and a missing
list of orphans, so reading gives the trimmed record back; it is refused exactly if some outline points
outside itself, and then the first such body is named.
-/
namespace FlowBlocks

/-- The outline with a missing list of orphans for an empty one. -/
def Outline.trimmed (o : Outline) : Outline :=
  { o with orphans := if o.orphans = some [] then none else o.orphans }

def BodyRecord.trimmed (b : BodyRecord) : BodyRecord := { b with outline := b.outline.map Outline.trimmed }

def Record.trimmed (r : Record) : Record := { r with bodies := r.bodies.map (·.map BodyRecord.trimmed) }

@[simp] theorem Outline.trimmed_orphanList (o : Outline) : o.trimmed.orphanList = o.orphanList := by
  unfold Outline.trimmed Outline.orphanList
  split
  · next h => rw [h]; rfl
  · rfl

theorem Outline.trimmed_orphans (o : Outline) : o.trimmed.orphans ≠ some [] := by
  unfold Outline.trimmed
  split
  · nofun
  · next h => exact h

/-- Apart from the list of orphans nothing is trimmed, and of that list only its absence. -/
theorem Outline.trimmed_fits {o : Outline} : o.trimmed.Fits ↔ o.Fits := by
  rw [Outline.Fits, Outline.Fits, o.trimmed_orphanList]
  rfl

theorem Outline.rangeReport_trimmed (o : Outline) :
    rangeReport (some o.trimmed) = rangeReport (some o) := by
  have herrors : o.trimmed.rangeErrors = o.rangeErrors := by
    rw [rangeErrors, rangeErrors, o.trimmed_orphanList]
    rfl
  rw [rangeReport, rangeReport, herrors]
  rfl

theorem Pack.outline_trimmed (o : Outline) : Pack.outline o.trimmed = Pack.outline o := by
  rw [Pack.outline, Pack.outline, o.trimmed_orphanList]
  rfl

theorem Pack.bodyRecord_trimmed (b : BodyRecord) : Pack.bodyRecord b.trimmed = Pack.bodyRecord b := by
  obtain ⟨name, outline, error⟩ := b
  cases outline with
  | none => rfl
  | some o =>
      change Pack.fields ([("name", Pack.text name)] ++ [("snapshot", Pack.outline o.trimmed)] ++ _) = _
      rw [Pack.outline_trimmed]
      rfl

theorem BodyRecord.trimmed_fits {b : BodyRecord} (h : b.Fits) : b.trimmed.Fits := by
  obtain ⟨hname, houtline, herror⟩ := h
  refine ⟨hname, ?_, herror⟩
  intro o ho
  obtain ⟨o', ho', rfl⟩ := Option.mem_map.mp ho
  exact Outline.trimmed_fits.mpr (houtline o' ho')

theorem BodyRecord.trimmed_listed (b : BodyRecord) : b.trimmed.Listed := by
  intro o ho
  obtain ⟨o', -, rfl⟩ := Option.mem_map.mp ho
  exact o'.trimmed_orphans

namespace Record

theorem trimmed_bodies (r : Record) :
    r.trimmed.bodies.getD [] = (r.bodies.getD []).map BodyRecord.trimmed := by
  cases h : r.bodies <;> simp [trimmed, h]

theorem trimmed_fits {r : Record} (h : r.Fits) : r.trimmed.Fits := by
  obtain ⟨hfile, hgraph, hpolicy, hbodies, hfit⟩ := h
  refine ⟨hfile, hgraph, hpolicy, ?_, ?_⟩
  · rw [trimmed_bodies, List.length_map]
    exact hbodies
  · rw [trimmed_bodies]
    intro b hb
    obtain ⟨c, hc, rfl⟩ := List.mem_map.mp hb
    exact BodyRecord.trimmed_fits (hfit c hc)

/-- The stored form does not show what is trimmed. -/
theorem encode_trimmed (r : Record) : r.trimmed.encode = r.encode := by
  have hlist : Pack.list? Pack.bodyRecord (r.bodies.map (·.map BodyRecord.trimmed)) =
      Pack.list? Pack.bodyRecord r.bodies := by
    cases r.bodies with
    | none => rfl
    | some bs =>
        change Pack.list Pack.bodyRecord (bs.map BodyRecord.trimmed) = Pack.list Pack.bodyRecord bs
        simp only [Pack.list, List.length_map, List.flatMap_map, Pack.bodyRecord_trimmed]
  change Pack.fields [_, _, _, _, ("bodies", Pack.list? Pack.bodyRecord
    (r.bodies.map (·.map BodyRecord.trimmed))), _] = _
  rw [hlist]
  rfl

/-- A record that fits reads back trimmed, and all its bytes are read. -/
theorem record_encode {r : Record} (h : r.Fits) : Unpack.record r.encode = some (r.trimmed, []) := by
  have hlisted : ∀ b ∈ r.trimmed.bodies.getD [], b.Listed := by
    rw [trimmed_bodies]
    intro b hb
    obtain ⟨c, -, rfl⟩ := List.mem_map.mp hb
    exact c.trimmed_listed
  have hread := record_append (trimmed_fits h) hlisted []
  rwa [encode_trimmed, List.append_nil] at hread

theorem decode_encode {r : Record} (h : r.Fits) : decode r.encode = r.trimmed.checked := by
  rw [decode, record_encode h]

theorem badOutline?_eq_none {bodies : List BodyRecord} :
    badOutline? bodies = none ↔ ∀ b ∈ bodies, ∀ o ∈ b.outline, Outline.rangeReport (some o) = none := by
  rw [badOutline?, List.findSome?_eq_none_iff]
  refine forall₂_congr fun b _ => ?_
  cases b.outline <;> simp

/-- A record that passes is left as it is, and its outlines pass the range check. -/
theorem checked_eq_ok {r r' : Record} (h : r.checked = .ok r') :
    r' = r ∧ ∀ b ∈ r.bodies.getD [], ∀ o ∈ b.outline, Outline.rangeReport (some o) = none := by
  unfold checked at h
  split at h
  · cases h
  · split at h
    · cases h
    · next hgood =>
        cases h
        exact ⟨rfl, badOutline?_eq_none.mp hgood⟩

theorem decode_outlines {s : Bytes} {r : Record} (h : decode s = .ok r) :
    ∀ b ∈ r.bodies.getD [], ∀ o ∈ b.outline, Outline.rangeReport (some o) = none := by
  rw [decode] at h
  split at h
  · cases h
  · obtain ⟨rfl, hgood⟩ := checked_eq_ok h
    exact hgood

theorem badOutline?_eq_some {bodies : List BodyRecord} {e : ReadError} (h : badOutline? bodies = some e) :
    ∃ before b after o report, bodies = before ++ b :: after ∧
      (∀ c ∈ before, ∀ o ∈ c.outline, Outline.rangeReport (some o) = none) ∧ b.outline = some o ∧
      Outline.rangeReport (some o) = some report ∧ e = .badOutline b.name report := by
  obtain ⟨before, b, after, heq, hb, hbefore⟩ := List.findSome?_eq_some_iff.mp h
  have hgood : badOutline? before = none := List.findSome?_eq_none_iff.mpr hbefore
  cases ho : b.outline with
  | none =>
      rw [ho] at hb
      cases hb
  | some o =>
      rw [ho] at hb
      obtain ⟨report, hreport, rfl⟩ := Option.map_eq_some_iff.mp hb
      exact ⟨before, b, after, o, report, heq, badOutline?_eq_none.mp hgood, ho, hreport, rfl⟩

theorem badOutline?_trimmed (bodies : List BodyRecord) :
    badOutline? (bodies.map BodyRecord.trimmed) = badOutline? bodies := by
  rw [badOutline?, List.findSome?_map]
  refine congrArg (List.findSome? · bodies) (funext ?_)
  rintro ⟨name, outline, error⟩
  cases outline with
  | none => rfl
  | some o => exact congrArg (Option.map _) o.rangeReport_trimmed

/-- What becomes of a record that is stamped, stored and read. -/
theorem decode_stamped {r : Record} (h : r.Fits) (now : Int64) :
    decode (r.stamped now).encode =
      match badOutline? (r.bodies.getD []) with
      | some e => .error e
      | none => .ok (r.stamped now).trimmed := by
  rw [decode_encode (r := r.stamped now) h, checked, if_neg (fun hne => hne rfl), trimmed_bodies,
    badOutline?_trimmed]
  rfl

end Record

/-- A record with a time is read back exactly if all its outlines pass the range check. It comes back with
the current version and trimmed, and storing it again changes no byte; otherwise the error names the first
body whose outline does not pass. -/
theorem record_round_trip {r : Record} (hwritten : r.written ≠ 0) (hfit : r.Fits) (now : Int64) :
    ((∃ r', Record.decode (r.stamped now).encode = .ok r') ↔
      ∀ b ∈ r.bodies.getD [], ∀ o ∈ b.outline, Outline.rangeReport (some o) = none) ∧
    (∀ r', Record.decode (r.stamped now).encode = .ok r' →
      r' = { r.trimmed with schema := 1 } ∧
        ∀ later, (r'.stamped later).encode = (r.stamped now).encode) ∧
    ∀ e, Record.decode (r.stamped now).encode = .error e →
      ∃ before b after o report, r.bodies.getD [] = before ++ b :: after ∧
        (∀ c ∈ before, ∀ o ∈ c.outline, Outline.rangeReport (some o) = none) ∧ b.outline = some o ∧
        Outline.rangeReport (some o) = some report ∧
        e.message = bytes "body " ++ b.name ++ bytes ": " ++ report := by
  have hstamped : ∀ t, (r.stamped t).trimmed = { r.trimmed with schema := 1 } := by
    intro t
    rw [Record.stamped, if_neg hwritten]
    rfl
  rw [Record.decode_stamped hfit now, ← Record.badOutline?_eq_none]
  cases hbad : Record.badOutline? (r.bodies.getD []) with
  | none =>
      refine ⟨⟨fun _ => rfl, fun _ => ⟨_, rfl⟩⟩, ?_, nofun⟩
      rintro r' ⟨⟩
      refine ⟨hstamped now, ?_⟩
      intro later
      have hsame : (r.stamped now).trimmed.stamped later = (r.stamped now).trimmed := by
        rw [hstamped, Record.stamped]
        exact congrArg (Record.mk _ _ _ _ _) (if_neg hwritten)
      rw [hsame, Record.encode_trimmed]
  | some e =>
      refine ⟨⟨nofun, nofun⟩, nofun, ?_⟩
      rintro e' ⟨⟩
      obtain ⟨before, b, after, o, report, hbodies, hbefore, ho, hreport, rfl⟩ :=
        Record.badOutline?_eq_some hbad
      exact ⟨before, b, after, o, report, hbodies, hbefore, ho, hreport, rfl⟩

/-- Two bodies: a block whose entry may be given wrongly, with an empty list of orphans and missing lists, and
one that was not built. -/
def oneBlock (head : UInt32) : Record where
  file := bytes "m.bbl"
  graph := bytes "brief"
  policy := bytes "bigblock"
  written := 5
  bodies := some
    [{ name := bytes "f",
       outline := some
        { name := bytes "f", units := some [bytes "return"], blocks := some [⟨0, 1, some [], none⟩],
          heads := some [head], tails := some [], orphans := some [] } },
     { name := bytes "g", error := bytes "body has no units" }]

theorem oneBlock_round_trip :
    (∃ r', Record.decode ((oneBlock 0).stamped 9).encode = .ok r' ∧
      r' = { (oneBlock 0).trimmed with schema := 1 } ∧ r' ≠ { oneBlock 0 with schema := 1 } ∧
      (r'.stamped 10).encode = ((oneBlock 0).stamped 9).encode) ∧
    ∃ e, Record.decode ((oneBlock 1).stamped 9).encode = .error e ∧
      ∃ report, e.message = bytes "body " ++ bytes "f" ++ bytes ": " ++ report := by
  obtain ⟨hiff, hok, -⟩ :=
    record_round_trip (r := oneBlock 0) (by decide) (by decide +kernel) 9
  obtain ⟨r', hr'⟩ := hiff.mpr (by decide +kernel)
  obtain ⟨heq, hagain⟩ := hok r' hr'
  refine ⟨⟨r', hr', heq, by rw [heq]; decide +kernel, hagain 10⟩, ?_⟩
  obtain ⟨hiff', -, herr⟩ :=
    record_round_trip (r := oneBlock 1) (by decide) (by decide +kernel) 9
  cases hdecode : Record.decode ((oneBlock 1).stamped 9).encode with
  | ok r' => exact absurd (hiff'.mp ⟨r', hdecode⟩) (by decide +kernel)
  | error e =>
      obtain ⟨before, b, after, o, report, hbodies, -, ho, -, hmessage⟩ := herr e hdecode
      have hname : ∀ b ∈ (oneBlock 1).bodies.getD [], b.outline ≠ none → b.name = bytes "f" := by
        decide +kernel
      rw [hname b (by simp [hbodies]) (by simp [ho])] at hmessage
      exact ⟨e, rfl, report, hmessage⟩

end FlowBlocks
