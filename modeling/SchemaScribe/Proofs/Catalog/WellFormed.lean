import SchemaScribe.Proofs.Catalog.Check

/-!
# The catalogs that pass their checks

A catalog is well formed if no two tables and no two columns of a table have one name, and if every table
and column that a key, an index or a constraint names is there (`Snapshot.WellFormed`). Keys that leave the
schema may refer to anything, but their own columns must be there too.

The checks find no error in a catalog exactly if it is well formed (`sound_iff_wellFormed`), whatever options
are checked with it. Each check is read as the condition that it decides. Where names are not distinct a
lookup by name has several answers, so the condition on the targets of keys can be read off the check only
together with the one on names.
-/

namespace SchemaScribe.Catalog

/-- **A catalog in which every name is that of one thing**, and which has what its keys, indexes and
constraints name. -/
structure Snapshot.WellFormed (s : Snapshot) : Prop where
  tables : s.tableNames.Nodup
  columns : ∀ t ∈ s.tables, t.columnNames.Nodup
  primaryKeys : ∀ t ∈ s.tables, t.primaryKey ⊆ t.columnNames
  foreignKeys : ∀ t ∈ s.tables, ∀ k ∈ t.foreignKeys, k.columns ⊆ t.columnNames
  targets : ∀ t ∈ s.tables, ∀ k ∈ t.foreignKeys,
    k.referredSchema = none ∨ k.referredSchema = s.schema →
    ∃ target ∈ s.tables, target.name = k.referredTable ∧ k.referredColumns ⊆ target.columnNames
  indexes : ∀ t ∈ s.tables, ∀ i ∈ t.indexes, i.columns ⊆ t.columnNames
  uniqueConstraints : ∀ t ∈ s.tables, ∀ i ∈ t.uniqueConstraints, i.columns ⊆ t.columnNames

/-! ## Columns, primary keys and indexes -/

theorem checkColumns_harmless_iff {s : Snapshot} :
    Harmless s.checkColumns ↔ ∀ t ∈ s.tables, t.columnNames.Nodup := by
  unfold Snapshot.checkColumns
  rw [harmless_flatMap]
  exact forall₂_congr fun t _ => harmless_repeated fun _ => rfl

/-- A missing primary key is no error, and has no column that could be missing. -/
theorem checkPrimaryKeys_harmless_iff {s : Snapshot} :
    Harmless s.checkPrimaryKeys ↔ ∀ t ∈ s.tables, t.primaryKey ⊆ t.columnNames := by
  unfold Snapshot.checkPrimaryKeys
  rw [harmless_flatMap]
  refine forall₂_congr fun t _ => ?_
  split
  · next hempty =>
    rw [List.isEmpty_iff.mp hempty]
    refine iff_of_true ?_ (List.nil_subset _)
    intro d hd hlevel
    cases List.mem_singleton.mp hd
    cases hlevel
  · exact harmless_missing fun _ => rfl

/-- A defect about unknown columns of indexes is found if and only if one of them has such a column. -/
theorem harmless_unknown {t : Table} {indexes : List Index} {f : Index → List String → Defect}
    (hf : ∀ i unknown, (f i unknown).level = .error) :
    Harmless (indexes.flatMap fun i => ifAny (i.columns.filter fun c => !t.columnNames.contains c) (f i)) ↔
      ∀ i ∈ indexes, i.columns ⊆ t.columnNames := by
  rw [harmless_flatMap]
  refine forall₂_congr fun i _ => ?_
  rw [harmless_ifAny (hf i), List.filter_eq_nil_iff]
  simp only [Bool.not_eq_true', Bool.not_eq_false, List.contains_iff_mem]
  rfl

theorem checkIndexes_harmless_iff {s : Snapshot} :
    Harmless s.checkIndexes ↔ ∀ t ∈ s.tables,
      (∀ i ∈ t.indexes, i.columns ⊆ t.columnNames) ∧
        ∀ i ∈ t.uniqueConstraints, i.columns ⊆ t.columnNames := by
  unfold Snapshot.checkIndexes
  rw [harmless_flatMap]
  refine forall₂_congr fun t _ => ?_
  rw [harmless_append, harmless_unknown fun _ _ => rfl, harmless_unknown fun _ _ => rfl]

/-- No pattern of the options is an error. -/
theorem checkOptions_harmless (s : Snapshot) (o : Options) : Harmless (s.checkOptions o) := by
  intro d hd hlevel
  rcases List.mem_append.mp hd with hd | hd
  · obtain ⟨_, _, rfl⟩ := List.mem_map.mp hd
    cases hlevel
  · obtain ⟨_, _, rfl⟩ := List.mem_map.mp hd
    cases hlevel

/-! ## Prepared catalogs -/

theorem tables_of_prepare {s s' : Snapshot} {p : Option Options} (h : (s.prepare p).outcome = .ok s') :
    s'.tables ⊆ s.tables := by
  obtain ⟨_, rfl⟩ := prepare_eq_ok h
  cases p with
  | none => exact List.Subset.refl _
  | some o => exact List.filter_subset_self _

/-- The tables of a prepared catalog have distinct columns, those of their primary key among them. -/
theorem columns_of_prepare {s s' : Snapshot} {p : Option Options} (h : (s.prepare p).outcome = .ok s') :
    ∀ t ∈ s'.tables, t.columnNames.Nodup ∧ t.primaryKey ⊆ t.columnNames := by
  have hdefects := sound_validate_iff.mp (prepare_eq_ok h).1
  unfold Snapshot.defects at hdefects
  simp only [harmless_append, checkColumns_harmless_iff, checkPrimaryKeys_harmless_iff] at hdefects
  obtain ⟨⟨⟨⟨⟨_, hcolumns⟩, hprimary⟩, _⟩, _⟩, _⟩ := hdefects
  intro t ht
  have ht := tables_of_prepare h ht
  exact ⟨hcolumns t ht, hprimary t ht⟩

/-! ## Targets of keys -/

theorem ForeignKey.leaves_eq_false_iff {k : ForeignKey} {schema : Option String} :
    k.leaves schema = false ↔ k.referredSchema = none ∨ k.referredSchema = schema := by
  unfold ForeignKey.leaves
  cases k.referredSchema with
  | none => simp
  | some referred => simp

/-- Where names are distinct, a key refers to something if and only if the target can be found among the
tables. -/
theorem ForeignKey.refers_iff {s : Snapshot} (hnames : s.tableNames.Nodup) {t : Table} {k : ForeignKey} :
    k.Refers s t ↔ k.columns ⊆ t.columnNames ∧
      (k.referredSchema = none ∨ k.referredSchema = s.schema →
        ∃ target ∈ s.tables, target.name = k.referredTable ∧
          k.referredColumns ⊆ target.columnNames) := by
  constructor
  · rintro ⟨hown, htarget⟩
    refine ⟨hown, fun hstays => ?_⟩
    obtain ⟨target, hfound, hcolumns⟩ := htarget (ForeignKey.leaves_eq_false_iff.mpr hstays)
    obtain ⟨hmem, hname⟩ := (table?_eq_some_iff hnames).mp hfound
    exact ⟨target, hmem, hname, hcolumns⟩
  · rintro ⟨hown, htarget⟩
    refine ⟨hown, fun hleaves => ?_⟩
    obtain ⟨target, hmem, hname, hcolumns⟩ := htarget (ForeignKey.leaves_eq_false_iff.mp hleaves)
    exact ⟨target, (table?_eq_some_iff hnames).mpr ⟨hmem, hname⟩, hcolumns⟩

/-! ## The law -/

/-- **The checks accept exactly the well formed catalogs**, with and without options, so that what the checks of
options find are remarks only. How a catalog is complained about is left open. -/
theorem sound_iff_wellFormed (s : Snapshot) (o : Option Options) :
    (s.validate o).sound = true ↔ s.WellFormed := by
  have hoptions : Harmless ((o.map s.checkOptions).getD []) := by
    cases o with
    | none => exact List.forall_mem_nil _
    | some options => exact checkOptions_harmless s options
  rw [sound_validate_iff]
  unfold Snapshot.defects
  simp only [harmless_append, checkTableNames_harmless_iff, checkColumns_harmless_iff,
    checkPrimaryKeys_harmless_iff, checkForeignKeys_harmless_iff, checkIndexes_harmless_iff]
  constructor
  · rintro ⟨⟨⟨⟨⟨htables, hcolumns⟩, hprimary⟩, hkeys⟩, hindexes⟩, _⟩
    have hrefers := fun t ht k hk => (ForeignKey.refers_iff htables).mp (hkeys t ht k hk)
    exact ⟨htables, hcolumns, hprimary, fun t ht k hk => (hrefers t ht k hk).1,
      fun t ht k hk => (hrefers t ht k hk).2, fun t ht => (hindexes t ht).1,
      fun t ht => (hindexes t ht).2⟩
  · intro h
    refine ⟨⟨⟨⟨⟨h.tables, h.columns⟩, h.primaryKeys⟩, fun t ht k hk => ?_⟩, fun t ht => ?_⟩, hoptions⟩
    · exact (ForeignKey.refers_iff h.tables).mpr ⟨h.foreignKeys t ht k hk, h.targets t ht k hk⟩
    · exact ⟨h.indexes t ht, h.uniqueConstraints t ht⟩

end SchemaScribe.Catalog
