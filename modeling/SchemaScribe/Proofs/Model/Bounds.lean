import SchemaScribe.Proofs.Model.Untyped

/-!
# Properties never run out

The properties of an entity are named in two passes, each of which gives up when its bound is reached: the
columns of a table with the number of its columns as the bound, then the ends of links at its draft with the
number of both. At every point of either pass, fewer properties are taken than the bound says, for there are
no others than those of the columns and ends before. So a free name is found whatever the candidates are and
whatever they collide with (`exists_nameColumns`, `exists_nameEnds`).

Both bounds are safety nets then: building has failures for them, and never fails so
(`buildModel_namesProperties`). What is left to fail is listed by `buildModel_failsWith`.
-/

namespace SchemaScribe

open SchemaScribe.Catalog

/-! ## Columns -/

/-- The columns of a table are named, each unlike the others. -/
theorem exists_nameTableColumns (o : Options) (schema : Option String) (named : List NamedTable) (t : Table) :
    ∃ columns, nameColumns o schema named t [] t.columns = .ok columns ∧
      (columns.map (·.property)).Nodup := by
  have hroom : ([] : List String).length + t.columns.length ≤ t.columns.length := by simp
  obtain ⟨columns, hcolumns⟩ := exists_nameColumns o schema named t t.columns [] hroom
  exact ⟨columns, hcolumns, (nameColumns_givenInTurn .nil hcolumns).nodup⟩

/-! ## Ends of links -/

/-- What the ends at a draft are given, when some names are taken before the first of them: a name for each
end, unlike the others and unlike those taken. -/
structure NamedApart (taken : List String) (ends : List Endpoint) (names : EndNames) : Prop where
  keys : names.map (·.1) = ends.map Endpoint.key
  nodup : (names.map (·.2)).Nodup
  free : ∀ name ∈ names.map (·.2), name ∉ taken

theorem NamedApart.nil (taken : List String) : NamedApart taken [] [] :=
  ⟨rfl, .nil, List.forall_mem_nil _⟩

theorem NamedApart.cons {taken : List String} {ends : List Endpoint} {names : EndNames} {name : String}
    (h : NamedApart (taken ++ [name]) ends names) (hname : name ∉ taken) (e : Endpoint) :
    NamedApart taken (e :: ends) ((e.key, name) :: names) := by
  have hlater : ∀ x ∈ names.map (·.2), x ∉ taken ∧ x ≠ name := by
    intro x hx
    simpa only [List.mem_append, List.mem_singleton, not_or] using h.free x hx
  refine ⟨congrArg (e.key :: ·) h.keys, List.nodup_cons.mpr ⟨?_, h.nodup⟩, ?_⟩
  · intro hmem
    exact (hlater name hmem).2 rfl
  · exact List.forall_mem_cons.mpr ⟨hname, fun x hx => (hlater x hx).1⟩

/-- **The ends at a draft are named** as long as no more properties are taken than the bound leaves room for. -/
theorem exists_nameEnds (o : Options) (entity : String) {limit : Nat} (ends : List Endpoint)
    (taken : List String) (hroom : taken.length + ends.length ≤ limit) :
    ∃ names, nameEnds o entity limit taken ends = .ok names ∧ NamedApart taken ends names := by
  induction ends generalizing taken with
  | nil => exact ⟨[], rfl, .nil taken⟩
  | cons e rest ih =>
    rw [List.length_cons] at hroom
    have hfree : taken.length ≤ limit := by omega
    obtain ⟨name, hname⟩ := Option.isSome_iff_exists.mp (uniqueName_isSome (e.candidate o) hfree)
    have hmore : (taken ++ [name]).length + rest.length ≤ limit := by
      rw [List.length_append, List.length_singleton]
      omega
    obtain ⟨names, hnames, happart⟩ := ih (taken ++ [name]) hmore
    refine ⟨(e.key, name) :: names, ?_, happart.cons (uniqueName_eq_some hname) e⟩
    rw [nameEnds, hname]
    show nameEnds o entity limit (taken ++ [name]) rest >>= _ = _
    rw [hnames]
    rfl

/-- The ends at a draft are named within its bound, which counts its columns and them. -/
theorem exists_endNames (o : Options) (links : List Link) (d : Draft) :
    ∃ names, d.endNames o links = .ok names ∧
      NamedApart (d.columns.map (·.property)) (endpoints links d.table.name) names := by
  refine exists_nameEnds o d.entity (endpoints links d.table.name) _ ?_
  rw [List.length_map]

theorem exists_allEndNames (o : Options) (links : List Link) (drafts : List Draft) :
    ∃ names, allEndNames o links drafts = .ok names := by
  induction drafts with
  | nil => exact ⟨[], rfl⟩
  | cons d rest ih =>
    obtain ⟨own, hown, _⟩ := exists_endNames o links d
    obtain ⟨more, hmore⟩ := ih
    refine ⟨own ++ more, ?_⟩
    rw [allEndNames, hown, hmore]
    rfl

/-! ## What is left to fail -/

/-- A stage with a result fails with nothing. -/
theorem FailsWith.of_exists {α : Type} {p : BuildError → Prop} {x : Except BuildError α}
    (h : ∃ a, x = .ok a) : FailsWith p x := by
  obtain ⟨a, rfl⟩ := h
  exact .ok a

/-- **What building can fail with**: whatever the naming of tables does, columns without a type, a key that
strict relations do not let it drop, or a junction that leads to no entity. -/
theorem buildModel_failsWith {p : BuildError → Prop} {o : Options} {s : Snapshot}
    (hnames : FailsWith p (nameTables o s.tables.length [] [] (entityTables s)).outcome)
    (htypes : ∀ columns, p (.unsupportedTypes columns)) (hdropped : ∀ key, p (.droppedKey key))
    (hentity : ∀ table, p (.noEntity table)) : FailsWith p (buildModel o s) := by
  refine .bind ?_ fun _ => .ok _
  unfold buildEntities
  simp only [Noted.outcome_bind, Noted.outcome_ofExcept]
  refine .bind hnames fun named => ?_
  refine .bind ?_ fun drafts => ?_
  · intro e he
    rw [(typedDrafts_eq_error_iff.mp he).2]
    exact htypes _
  · refine .bind (keyLinks_failsWith hdropped o.strictRelations s.schema drafts) fun fromKeys => ?_
    refine .bind (joinLinks_failsWith hentity drafts (junctions s)) fun fromJunctions => ?_
    exact .bind (.of_exists (exists_allEndNames o _ drafts)) fun _ => .ok _

/-! ## The law -/

/-- **Properties never run out**: every column of every table and every end of a link at every draft gets a
name within its bound, unlike the properties that the entity has already, and no model fails to be built for
want of one. -/
theorem buildModel_namesProperties (o : Options) (s : Snapshot) :
    (∀ named t, ∃ columns, nameColumns o s.schema named t [] t.columns = .ok columns ∧
      (columns.map (·.property)).Nodup) ∧
    (∀ links (d : Draft), ∃ names, d.endNames o links = .ok names ∧
      NamedApart (d.columns.map (·.property)) (endpoints links d.table.name) names) ∧
    (∀ table column, buildModel o s ≠ .error (.noPropertyName table column)) ∧
    ∀ entity candidate attempts, buildModel o s ≠ .error (.noRelationName entity candidate attempts) := by
  refine ⟨exists_nameTableColumns o s.schema, exists_endNames o, ?_, ?_⟩
  · intro table column h
    have hnames := nameTables_failsWith (p := (· ≠ .noPropertyName table column)) (fun _ => nofun) o
      s.tables.length (entityTables s) [] []
    exact buildModel_failsWith hnames (fun _ => nofun) (fun _ => nofun) (fun _ => nofun) _ h rfl
  · intro entity candidate attempts h
    have hnames := nameTables_failsWith (p := (· ≠ .noRelationName entity candidate attempts))
      (fun _ => nofun) o s.tables.length (entityTables s) [] []
    exact buildModel_failsWith hnames (fun _ => nofun) (fun _ => nofun) (fun _ => nofun) _ h rfl

end SchemaScribe
