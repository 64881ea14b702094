import SchemaScribe.Proofs.Catalog.WellFormed
import SchemaScribe.Proofs.Model.Failures
import SchemaScribe.Proofs.Naming.Bounds

/-!
# Columns without a type

Some types of databases have no counterpart in generated code. A column of such a type does not end the
drafting of its table, nor that of the tables behind it: the column is passed over, and all such columns are
reported together when every table is drafted. Nothing else can end the drafting before, since each column
gets a property within its bound (`exists_draftTables`), and what follows only sees drafts all of whose
columns have types.

So building fails for types exactly where a column of a table that becomes an entity has none, and reports
all of these columns, each once and in the order of the catalog (`buildModel_reportsTypes`). Columns of
junctions need no type. Keys that lead nowhere make no difference, and neither does what the options say
about them: the report depends on the catalog and on the overrides of types.
-/

namespace SchemaScribe

open SchemaScribe.Catalog

/-! ## Types -/

/-- **A column whose type has no counterpart in generated code**, whether or not it may be null. -/
def Catalog.Column.Untyped (overrides : List (String × ScalarKind)) (c : Column) : Prop :=
  ∀ nullable, resolveType c.dataType nullable overrides c.enumValues = none

instance (overrides : List (String × ScalarKind)) (c : Column) : Decidable (c.Untyped overrides) :=
  inferInstanceAs (Decidable (∀ _, _))

/-- What is reported of a column without a type. -/
def Catalog.Column.untyped (t : Table) (c : Column) : UnsupportedType :=
  ⟨c.dataType, some t.name, some c.name⟩

/-- The report of the columns without a type, of all tables that become entities and in their order. -/
def Catalog.Snapshot.untypedColumns (s : Snapshot) (overrides : List (String × ScalarKind)) :
    List UnsupportedType :=
  (s.tables.filter fun t => (junction? s t).isNone).flatMap fun t =>
    (t.columns.filter fun c => c.Untyped overrides).map fun c => c.untyped t

theorem resolveType_eq_none_iff {dataType : String} {nullable : Bool}
    {overrides : List (String × ScalarKind)} {enumValues : List String} :
    resolveType dataType nullable overrides enumValues = none ↔
      override? overrides dataType = none ∧ enumValues = [] ∧ typeUnder? (typeKey dataType) = none := by
  unfold resolveType
  cases override? overrides dataType with
  | some kind => simp
  | none =>
    cases enumValues with
    | nil => simp
    | cons value rest => simp

/-- Whether a column may be null makes no difference to whether it has a type. -/
theorem untyped_iff {overrides : List (String × ScalarKind)} {c : Column} (nullable : Bool) :
    c.Untyped overrides ↔ resolveType c.dataType nullable overrides c.enumValues = none := by
  constructor
  · intro h
    exact h nullable
  · intro h other
    rw [resolveType_eq_none_iff] at h ⊢
    exact h

theorem unsupportedColumns_eq (o : Options) (t : Table) :
    unsupportedColumns o t =
      (t.columns.filter fun c => c.Untyped o.typeOverrides).map fun c => c.untyped t := by
  have htype : ∀ c : Column, (columnType? o t c).isNone = decide (c.Untyped o.typeOverrides) := by
    intro c
    rw [Bool.eq_iff_iff, Option.isNone_iff_eq_none, decide_eq_true_eq]
    exact (untyped_iff _).symm
  unfold unsupportedColumns
  rw [← List.filterMap_eq_map, List.filterMap_filter]
  refine List.filterMap_congr fun c _ => ?_
  rw [htype]
  rfl

/-! ## The report -/

theorem mem_untypedColumns {s : Snapshot} {overrides : List (String × ScalarKind)}
    {x : UnsupportedType} :
    x ∈ s.untypedColumns overrides ↔ ∃ t ∈ s.tables, junction? s t = none ∧
      ∃ c ∈ t.columns, c.Untyped overrides ∧ c.untyped t = x := by
  unfold Snapshot.untypedColumns
  simp only [List.mem_flatMap, List.mem_filter, List.mem_map, Option.isNone_iff_eq_none,
    decide_eq_true_eq, and_assoc]

/-- The report names no column twice, where names are those of one thing each. -/
theorem untypedColumns_nodup {s : Snapshot} (overrides : List (String × ScalarKind))
    (htables : s.tableNames.Nodup) (hcolumns : ∀ t ∈ s.tables, t.columnNames.Nodup) :
    (s.untypedColumns overrides).Nodup := by
  unfold Snapshot.untypedColumns
  refine List.nodup_flatMap.mpr ⟨?_, ?_⟩
  · intro t ht
    have hnames := hcolumns t (List.mem_filter.mp ht).1
    have hreported : ((t.columns.filter fun c => c.Untyped overrides).map (·.name)).Nodup :=
      (List.filter_sublist.map _).nodup hnames
    refine List.Nodup.of_map (fun x => x.column.getD "") ?_
    rw [List.map_map]
    exact hreported
  · have hnames : (s.tables.filter fun t => (junction? s t).isNone).Pairwise fun t t' => t.name ≠ t'.name :=
      (List.pairwise_map.mp htables).sublist List.filter_sublist
    refine hnames.imp fun {t t'} hne x hx hx' => ?_
    obtain ⟨c, _, rfl⟩ := List.mem_map.mp hx
    obtain ⟨c', _, hsame⟩ := List.mem_map.mp hx'
    have htable : some t'.name = some t.name := congrArg UnsupportedType.table hsame
    exact hne (Option.some.inj htable).symm

/-! ## Drafting -/

/-- Nothing ends the drafting of named tables. -/
theorem exists_draftTables (o : Options) (schema : Option String) (named tables : List NamedTable) :
    ∃ drafts, (draftTables o schema named tables).outcome = .ok drafts := by
  induction tables with
  | nil => exact ⟨[], rfl⟩
  | cons t rest ih =>
    obtain ⟨more, hmore⟩ := ih
    have hroom : ([] : List String).length + t.table.columns.length ≤ t.table.columns.length := by simp
    obtain ⟨columns, hcolumns⟩ := exists_nameColumns o schema named t.table t.table.columns [] hroom
    rw [draftTables]
    simp only [Noted.outcome_bind, Noted.outcome_note, Noted.outcome_ofExcept, hcolumns, hmore]
    exact ⟨_, rfl⟩

/-- Drafting fails with all columns without a type, if there are any. -/
theorem typedDrafts_eq_error_iff {o : Options} {schema : Option String} {named : List NamedTable}
    {e : BuildError} :
    (typedDrafts o schema named).outcome = .error e ↔
      (named.flatMap fun t => unsupportedColumns o t.table) ≠ [] ∧
        e = .unsupportedTypes (named.flatMap fun t => unsupportedColumns o t.table) := by
  obtain ⟨drafts, hdrafts⟩ := exists_draftTables o schema named named
  rw [typedDrafts, Noted.outcome_bind, hdrafts]
  cases hfound : named.flatMap fun t => unsupportedColumns o t.table with
  | nil => simp [Bind.bind, Except.bind]
  | cons first rest => simp [Bind.bind, Except.bind, eq_comm]

/-- Once tables are named, building fails for types where drafting does. -/
theorem buildModel_unsupportedTypes_iff {o : Options} {s : Snapshot} {named : List NamedTable}
    (hnamed : (nameTables o s.tables.length [] [] (entityTables s)).outcome = .ok named)
    {failures : List UnsupportedType} :
    buildModel o s = .error (.unsupportedTypes failures) ↔
      (typedDrafts o s.schema named).outcome = .error (.unsupportedTypes failures) := by
  rw [buildModel_eq_error_iff]
  unfold buildEntities
  simp only [Noted.outcome_bind, Noted.outcome_ofExcept, hnamed]
  show (typedDrafts o s.schema named).outcome >>= _ = _ ↔ _
  rw [bind_eq_error]
  refine or_iff_left ?_
  rintro ⟨drafts, _, hlater⟩
  -- the stages behind drafting fail with something else
  refine (?_ : FailsWith (· ≠ .unsupportedTypes failures) _) _ hlater rfl
  refine .bind (keyLinks_failsWith (fun _ => nofun) o.strictRelations s.schema drafts) fun fromKeys => ?_
  refine .bind (joinLinks_failsWith (fun _ => nofun) drafts (junctions s)) fun fromJunctions => ?_
  exact finish_failsWith (fun _ _ _ => nofun) o s drafts (fromKeys ++ fromJunctions)

/-! ## The law -/

/-- The columns reported are those of the tables that were named. -/
theorem unsupportedColumns_named {o : Options} {s : Snapshot} (hs : s.tableNames.Nodup)
    {named : List NamedTable}
    (hnamed : (nameTables o s.tables.length [] [] (entityTables s)).outcome = .ok named) :
    (named.flatMap fun t => unsupportedColumns o t.table) = s.untypedColumns o.typeOverrides := by
  have htables := entityTables_eq hs
  have hnodup : (([] : List NamedTable).map (·.table.name) ++ (entityTables s).map (·.name)).Nodup := by
    rw [List.map_nil, List.nil_append, htables]
    exact (List.filter_sublist.map _).nodup hs
  have horder : named.map (·.table) = entityTables s := nameTables_tables hnodup hnamed
  unfold Snapshot.untypedColumns
  rw [← htables, ← horder, List.flatMap_map]
  exact List.flatMap_congr fun t _ => unsupportedColumns_eq o t.table

/-- **Building reports the columns without a type**, once the tables of a prepared catalog are named: it fails
for types if and only if a column of a table that becomes an entity has none, and then with all of these
columns in the order of the catalog, each once. -/
theorem buildModel_reportsTypes {p : Option Options} {o : Options} {s s' : Snapshot}
    (hprepared : (s.prepare p).outcome = .ok s') {named : List NamedTable}
    (hnamed : (nameTables o s'.tables.length [] [] (entityTables s')).outcome = .ok named) :
    ((∃ failures, buildModel o s' = .error (.unsupportedTypes failures)) ↔
      ∃ t ∈ s'.tables, junction? s' t = none ∧ ∃ c ∈ t.columns, c.Untyped o.typeOverrides) ∧
    (∀ failures, buildModel o s' = .error (.unsupportedTypes failures) →
      failures = s'.untypedColumns o.typeOverrides) ∧
    (s'.untypedColumns o.typeOverrides).Nodup := by
  have hs := referring_of_prepare hprepared
  have hfails : ∀ failures, buildModel o s' = .error (.unsupportedTypes failures) ↔
      s'.untypedColumns o.typeOverrides ≠ [] ∧ failures = s'.untypedColumns o.typeOverrides := by
    intro failures
    rw [buildModel_unsupportedTypes_iff hnamed, typedDrafts_eq_error_iff,
      unsupportedColumns_named hs.names hnamed, BuildError.unsupportedTypes.injEq]
  refine ⟨?_, fun failures hbuilt => ((hfails failures).mp hbuilt).2, ?_⟩
  · constructor
    · rintro ⟨failures, hbuilt⟩
      obtain ⟨x, hx⟩ := List.exists_mem_of_ne_nil _ ((hfails failures).mp hbuilt).1
      obtain ⟨t, ht, hentity, c, hc, huntyped, _⟩ := mem_untypedColumns.mp hx
      exact ⟨t, ht, hentity, c, hc, huntyped⟩
    · rintro ⟨t, ht, hentity, c, hc, huntyped⟩
      have hmem := mem_untypedColumns.mpr ⟨t, ht, hentity, c, hc, huntyped, rfl⟩
      exact ⟨_, (hfails _).mpr ⟨List.ne_nil_of_mem hmem, rfl⟩⟩
  · exact untypedColumns_nodup o.typeOverrides hs.names fun t ht => (columns_of_prepare hprepared t ht).1

/-- Options under which points have a type and keys must lead to entities. -/
def surveyOptions : Options where
  typeOverrides := [("point", .string)]
  strictRelations := true

/-- What is reported of the survey: an outline and an extent. -/
def surveyReport : List UnsupportedType := [
  ⟨"geometry", some "plot", some "outline"⟩, ⟨"geometry", some "mark", some "extent"⟩]

/-- So it does for the survey, although a key leads nowhere and must not. -/
theorem buildModel_reportsTypes_survey :
    (survey.prepare (some {})).outcome.toOption = some survey ∧
      (junctions survey).map (·.table.name) = ["plot_mark"] ∧
      buildModel surveyOptions survey = .error (.unsupportedTypes surveyReport) := by
  have hprepared : (survey.prepare (some {})).outcome.toOption = some survey := by decide +kernel
  have hnames : ((nameTables surveyOptions survey.tables.length [] [] (entityTables survey)).outcome.toOption.any
      fun named => named.map (·.entity) = ["Plot", "Mark"]) = true := by decide +kernel
  obtain ⟨named, hnamed, _⟩ := exists_ok_of_any hnames
  obtain ⟨hfails, hreport, _⟩ := buildModel_reportsTypes (toOption_eq_some.mp hprepared) hnamed
  have hexpected : survey.untypedColumns surveyOptions.typeOverrides = surveyReport := by decide +kernel
  have huntyped : ∃ t ∈ survey.tables, junction? survey t = none ∧
      ∃ c ∈ t.columns, c.Untyped surveyOptions.typeOverrides := by decide +kernel
  obtain ⟨failures, hbuilt⟩ := hfails.mpr huntyped
  refine ⟨hprepared, by decide +kernel, ?_⟩
  rw [hbuilt, hreport failures hbuilt, hexpected]

end SchemaScribe
