import SchemaScribe.Catalog.Selection
import SchemaScribe.Proofs.Keys

/-!
# What the checks of a catalog establish

A catalog is sound if no check finds an error in it. Each check is read here as the fact that it decides:
table names differ (`checkTableNames_harmless_iff`), and every foreign key is over columns of its table
and leads, unless it leaves the schema, to a table of the catalog and columns of that table
(`checkForeignKeys_harmless_iff`).

Selecting tables takes the targets of keys away, so a selected catalog need not be sound. What is left is
that a key whose target is still there refers to columns of it (`Snapshot.Referring`): this is what models
are built from.
-/

namespace SchemaScribe.Catalog

/-! ## Errors among defects -/

/-- Defects without an error among them. -/
def Harmless (defects : List Defect) : Prop := ∀ d ∈ defects, d.level ≠ .error

theorem harmless_append {ds ds' : List Defect} :
    Harmless (ds ++ ds') ↔ Harmless ds ∧ Harmless ds' :=
  List.forall_mem_append

theorem harmless_flatMap {α : Type} {xs : List α} {f : α → List Defect} :
    Harmless (xs.flatMap f) ↔ ∀ x ∈ xs, Harmless (f x) := by
  unfold Harmless
  simp only [List.mem_flatMap]
  constructor
  · intro h x hx d hd
    exact h d ⟨x, hx, hd⟩
  · rintro h d ⟨x, hx, hd⟩
    exact h x hx d hd

/-- Where every defect of a kind is an error, there must be none. -/
theorem harmless_map {α : Type} {xs : List α} {f : α → Defect} (hf : ∀ x, (f x).level = .error) :
    Harmless (xs.map f) ↔ xs = [] := by
  constructor
  · intro h
    cases xs with
    | nil => rfl
    | cons x rest => exact absurd (hf x) (h (f x) List.mem_cons_self)
  · rintro rfl d hd
    cases hd

theorem harmless_ifAny {missing : List String} {f : List String → Defect}
    (hf : ∀ names, (f names).level = .error) : Harmless (ifAny missing f) ↔ missing = [] := by
  unfold ifAny
  cases missing with
  | nil => exact ⟨fun _ => rfl, fun _ _ hd => nomatch hd⟩
  | cons x rest =>
    refine ⟨fun h => absurd (hf _) (h _ List.mem_cons_self), fun h => ?_⟩
    cases h

/-- A catalog is sound if and only if none of its defects is an error. -/
theorem sound_validate_iff {s : Snapshot} {o : Option Options} :
    (s.validate o).sound = true ↔ Harmless (s.defects o) := by
  unfold Snapshot.validate Findings.sound Findings.errors Harmless
  rw [List.isEmpty_iff, List.filter_eq_nil_iff]
  simp only [List.mem_map, forall_exists_index, and_imp, forall_apply_eq_imp_iff₂, decide_eq_true_eq]
  rfl

/-! ## Names -/

theorem repeated_eq_nil_iff {seen names : List String} :
    repeated seen names = [] ↔ names.Nodup ∧ ∀ x ∈ names, x ∉ seen := by
  induction names generalizing seen with
  | nil =>
    refine ⟨fun _ => ⟨.nil, fun x hx => ?_⟩, fun _ => rfl⟩
    cases hx
  | cons x rest ih =>
    unfold repeated
    split
    · next hseen =>
      refine ⟨fun h => ?_, fun h => ?_⟩
      · cases h
      · exact absurd (List.contains_iff_mem.mp hseen) (h.2 x List.mem_cons_self)
    · next hseen =>
      rw [ih]
      have hx : x ∉ seen := fun hx => hseen (List.contains_iff_mem.mpr hx)
      constructor
      · rintro ⟨hnodup, hfresh⟩
        refine ⟨List.nodup_cons.mpr ⟨fun hmem => ?_, hnodup⟩, fun y hy => ?_⟩
        · exact hfresh x hmem List.mem_cons_self
        · rcases List.mem_cons.mp hy with rfl | hy
          · exact hx
          · exact fun hys => hfresh y hy (List.mem_cons_of_mem x hys)
      · rintro ⟨hnodup, hfresh⟩
        obtain ⟨hxrest, hnodup⟩ := List.nodup_cons.mp hnodup
        refine ⟨hnodup, fun y hy hys => ?_⟩
        rcases List.mem_cons.mp hys with rfl | hys
        · exact hxrest hy
        · exact hfresh y (List.mem_cons_of_mem x hy) hys

/-- A defect about repeated names is found if and only if a name is repeated. -/
theorem harmless_repeated {names : List String} {f : String → Defect}
    (hf : ∀ name, (f name).level = .error) :
    Harmless ((repeated [] names).map f) ↔ names.Nodup := by
  rw [harmless_map hf, repeated_eq_nil_iff]
  refine ⟨And.left, fun h => ⟨h, fun _ _ hx => ?_⟩⟩
  cases hx

theorem checkTableNames_harmless_iff {s : Snapshot} :
    Harmless s.checkTableNames ↔ s.tableNames.Nodup :=
  harmless_repeated fun _ => rfl

/-! ## Keys -/

theorem column?_isSome_iff {t : Table} {name : String} :
    (t.column? name).isSome ↔ name ∈ t.columnNames := by
  unfold Table.column? findLast? Table.columnNames
  simp only [List.find?_isSome, List.mem_reverse, decide_eq_true_eq, List.mem_map]

theorem missing_eq_nil_iff {t : Table} {names : List String} :
    t.missing names = [] ↔ names ⊆ t.columnNames := by
  unfold Table.missing
  simp only [List.filter_eq_nil_iff, Bool.not_eq_true, Option.isNone_eq_false_iff,
    column?_isSome_iff]
  rfl

theorem table?_eq_some_iff {s : Snapshot} (h : s.tableNames.Nodup) {name : String} {t : Table} :
    s.table? name = some t ↔ t ∈ s.tables ∧ t.name = name := by
  unfold Snapshot.table?
  constructor
  · intro ht
    unfold findLast? at ht
    exact ⟨List.mem_reverse.mp (List.mem_of_find?_eq_some ht), by
      simpa only [decide_eq_true_eq] using List.find?_some ht⟩
  · rintro ⟨ht, rfl⟩
    exact findLast?_key_eq_some h ht

/-- **A foreign key that refers to something**: its columns are columns of its table, and unless it leaves
the schema its target is in the catalog and has the columns referred to. -/
structure ForeignKey.Refers (s : Snapshot) (t : Table) (k : ForeignKey) : Prop where
  own : k.columns ⊆ t.columnNames
  target : k.leaves s.schema = false →
    ∃ target, s.table? k.referredTable = some target ∧ k.referredColumns ⊆ target.columnNames

/-- A defect about missing columns is found if and only if a column is missing. -/
theorem harmless_missing {t : Table} {names : List String} {f : List String → Defect}
    (hf : ∀ missing, (f missing).level = .error) :
    Harmless (ifAny (t.missing names) f) ↔ names ⊆ t.columnNames :=
  (harmless_ifAny hf).trans missing_eq_nil_iff

theorem checkForeignKeys_harmless_iff {s : Snapshot} :
    Harmless s.checkForeignKeys ↔ ∀ t ∈ s.tables, ∀ k ∈ t.foreignKeys, k.Refers s t := by
  unfold Snapshot.checkForeignKeys
  simp only [harmless_flatMap, harmless_append]
  refine forall₄_congr fun t _ k _ => ?_
  rw [harmless_missing fun _ => rfl]
  constructor
  · rintro ⟨hown, htarget⟩
    refine ⟨hown, fun hleaves => ?_⟩
    rw [if_neg (by rw [hleaves]; exact Bool.false_ne_true)] at htarget
    split at htarget
    · exact absurd rfl (htarget _ List.mem_cons_self)
    · next target hfound =>
      exact ⟨target, hfound, (harmless_missing fun _ => rfl).mp htarget⟩
  · rintro ⟨hown, htarget⟩
    refine ⟨hown, ?_⟩
    split
    · intro d hd hlevel
      cases List.mem_singleton.mp hd
      cases hlevel
    · next hleaves =>
      obtain ⟨target, hfound, hcolumns⟩ := htarget (Bool.eq_false_iff.mpr hleaves)
      rw [hfound]
      exact (harmless_missing fun _ => rfl).mpr hcolumns

/-! ## Selected catalogs -/

/-- **A catalog whose keys refer to what is there**: table names differ, the keys of a table are over its
columns, and they refer to columns of their target wherever it is in the catalog. -/
structure Snapshot.Referring (s : Snapshot) : Prop where
  names : s.tableNames.Nodup
  own : ∀ t ∈ s.tables, ∀ k ∈ t.foreignKeys, k.columns ⊆ t.columnNames
  target : ∀ t ∈ s.tables, ∀ k ∈ t.foreignKeys, k.leaves s.schema = false →
    ∀ target ∈ s.tables, target.name = k.referredTable → k.referredColumns ⊆ target.columnNames

theorem refers_of_sound {s : Snapshot} {o : Option Options} (h : (s.validate o).sound = true) :
    ∀ t ∈ s.tables, ∀ k ∈ t.foreignKeys, k.Refers s t := by
  have hdefects := sound_validate_iff.mp h
  unfold Snapshot.defects at hdefects
  simp only [harmless_append, checkForeignKeys_harmless_iff] at hdefects
  exact hdefects.1.1.2

theorem tableNames_of_sound {s : Snapshot} {o : Option Options} (h : (s.validate o).sound = true) :
    s.tableNames.Nodup := by
  have hdefects := sound_validate_iff.mp h
  unfold Snapshot.defects at hdefects
  simp only [harmless_append, checkTableNames_harmless_iff] at hdefects
  exact hdefects.1.1.1.1.1

theorem referring_of_sound {s : Snapshot} {o : Option Options} (h : (s.validate o).sound = true) :
    s.Referring := by
  have hnames := tableNames_of_sound h
  have hkeys := refers_of_sound h
  refine ⟨hnames, fun t ht k hk => (hkeys t ht k hk).own, fun t ht k hk hleaves target htarget hname => ?_⟩
  obtain ⟨found, hfound, hcolumns⟩ := (hkeys t ht k hk).target hleaves
  rw [(table?_eq_some_iff hnames).mpr ⟨htarget, hname⟩] at hfound
  cases hfound
  exact hcolumns

/-- Fewer tables have fewer targets, so selecting leaves no key without its columns. -/
theorem Snapshot.Referring.select {s : Snapshot} (h : s.Referring) (o : Options) :
    (s.select o).Referring where
  names := (List.filter_sublist.map _).nodup h.names
  own := fun t ht => h.own t (List.mem_filter.mp ht).1
  target := fun t ht k hk hleaves target htarget =>
    h.target t (List.mem_filter.mp ht).1 k hk hleaves target (List.mem_filter.mp htarget).1

theorem prepare_eq_ok {s s' : Snapshot} {p : Option Options} (h : (s.prepare p).outcome = .ok s') :
    (s.validate p).sound = true ∧ s' = (p.map s.select).getD s := by
  unfold Snapshot.prepare at h
  dsimp only at h
  split at h
  · next hsound =>
    cases h
    exact ⟨hsound, rfl⟩
  · cases h

/-- **What is prepared refers to what is there**: names of tables are distinct, and keys are over columns of
their tables and of those that they lead to. Selecting tables may take the target of a key away, but never a
column of it. -/
theorem referring_of_prepare {s s' : Snapshot} {p : Option Options}
    (h : (s.prepare p).outcome = .ok s') : s'.Referring := by
  obtain ⟨hsound, rfl⟩ := prepare_eq_ok h
  have hreferring := referring_of_sound hsound
  cases p with
  | none => exact hreferring
  | some o => exact hreferring.select o

end SchemaScribe.Catalog
