import SchemaScribe.Proofs.Render.Constraints
import SchemaScribe.Proofs.Render.Texts

/-!
# Which columns may be null

Whether a column may be null is written down three times: in the annotation of its attribute, in its entry in the
descriptions of the fields, and in the annotation and the default of its field in the input model. Each is read off
the text (`Fragment.MapsOptional`, `SaysNullable`, `Fragment.StartsNone`).

The attribute follows the type of the column, and types leave out the columns of the identity. The entry and the
field follow the catalog. So the three agree on every column but those of the identity that the catalog lets be
null (`Model.TellsNullable`), as it may every column of a table without a primary key.
-/

namespace SchemaScribe

open SchemaScribe.Catalog SchemaScribe.Render

namespace Render

/-! ## What is written down -/

/-- **An attribute of an entity that may be nothing.** -/
def Fragment.MapsOptional (f : Fragment) : Prop := "Mapped[Optional[".toList <+: f.hint.shown.toList

/-- **An entry of a description that says that the column may be null.** -/
def SaysNullable (entry : Code) : Prop := ", True)".toList <:+ entry.shown.toList

/-- **A field of an input model that may be nothing and starts as nothing.** -/
structure Fragment.StartsNone (f : Fragment) : Prop where
  hint : "Optional[".toList <+: f.hint.shown.toList
  value : ∃ value ∈ f.value, value.shown = "None" ∨ "Field(default=None, ".toList <+: value.shown.toList

/-- The entry of a column in the descriptions of the fields. -/
def columnEntry (c : EntityColumn) : Code := fieldSpec c.property c.type.kind.name c.nullable none

/-! ## Reading it off -/

/-- The entry of a column says in the end whether it may be null. -/
theorem columnEntry_shown (c : EntityColumn) :
    (columnEntry c).shown = "FieldSpec(" ++ Text.literal c.property ++ ", " ++ Text.literal c.type.kind.name ++
      (", " ++ (if c.nullable then "True" else "False") ++ ")") := by
  simp only [columnEntry, fieldSpec, Code.shown, shownAll, Code.truth, List.append_nil,
    String.intercalate_cons_cons, String.intercalate_singleton, String.append_assoc]
  rfl

theorem saysNullable_columnEntry {c : EntityColumn} : SaysNullable (columnEntry c) ↔ c.nullable = true := by
  unfold SaysNullable
  rw [columnEntry_shown, String.toList_append]
  cases c.nullable with
  | true => exact iff_of_true (List.suffix_append _ _) rfl
  | false =>
    refine iff_of_false (fun hsuffix => ?_) Bool.false_ne_true
    have hends := List.suffix_of_suffix_length_le hsuffix (List.suffix_append _ _) (by decide)
    revert hends
    decide

/-- Hints of known types do not begin like the word for what may be nothing. -/
theorem knownTypes_first {type : ColumnType} (htype : (type.hint, type.mapped) ∈ knownTypes) :
    type.hint.toList.head?.any (· ≠ 'O') = true := by
  have hknown : ∀ known ∈ knownTypes, known.1.toList.head?.any (· ≠ 'O') = true := by decide
  exact hknown _ htype

/-- So a hint of generated code that begins like this word may be nothing. -/
theorem optionalCode_begins {nullable : Bool} {hint : Code} (rest : List Char)
    (hfirst : hint.shown.toList.head?.any (· ≠ 'O') = true) :
    "Optional[".toList <+: (optionalCode nullable hint).shown.toList ++ rest ↔ nullable = true := by
  cases nullable with
  | true =>
    have hshown : (optionalCode true hint).shown = "Optional[" ++ (hint.shown ++ "]") := by
      simp only [optionalCode, if_true, Code.shown, shownAll, String.intercalate_singleton, String.append_assoc]
      rfl
    rw [hshown, String.toList_append, List.append_assoc]
    exact iff_of_true (List.prefix_append _ _) rfl
  | false =>
    refine iff_of_false (fun hfront => ?_) Bool.false_ne_true
    have hshown : optionalCode false hint = hint := rfl
    rw [hshown] at hfront
    cases htext : hint.shown.toList with
    | nil =>
      rw [htext] at hfirst
      cases hfirst
    | cons first _ =>
      rw [htext] at hfirst hfront
      have hsame : 'O' = first := (List.cons_prefix_cons.mp hfront).1
      rw [← hsame] at hfirst
      cases hfirst

/-- So an attribute that is mapped to such a hint may be nothing. -/
theorem mapsOptional_iff {f : Fragment} {nullable : Bool} {hint : Code}
    (hhint : f.hint = .subscript "Mapped" [optionalCode nullable hint])
    (hfirst : hint.shown.toList.head?.any (· ≠ 'O') = true) : f.MapsOptional ↔ nullable = true := by
  have hshown : f.hint.shown = "Mapped[" ++ ((optionalCode nullable hint).shown ++ "]") := by
    rw [hhint]
    simp only [Code.shown, shownAll, String.intercalate_singleton, String.append_assoc]
    rfl
  have hword : "Mapped[Optional[".toList = "Mapped[".toList ++ "Optional[".toList := by decide
  unfold Fragment.MapsOptional
  rw [hshown, hword, String.toList_append, String.toList_append, List.prefix_append_right_inj]
  exact optionalCode_begins _ hfirst

/-- The attribute of a column may be nothing if its type may. -/
theorem mapsOptional_columnFragment {e : Entity} {c : EntityColumn}
    (htype : (c.type.hint, c.type.mapped) ∈ knownTypes) :
    (columnFragment e c).MapsOptional ↔ c.type.nullable = true :=
  mapsOptional_iff rfl (knownTypes_first htype)

/-- The field of a nullable column starts as nothing, also under another name. -/
theorem fieldValue_of_nullable {c : EntityColumn} (hnullable : c.nullable = true) :
    ∃ value ∈ fieldValue c, value.shown = "None" ∨ "Field(default=None, ".toList <+: value.shown.toList := by
  have hdefault : fieldDefault c = .value "None" := if_pos hnullable
  unfold fieldValue fieldArguments
  rw [hdefault]
  cases isPrivate c.property with
  | true =>
    refine ⟨_, rfl, .inr ?_⟩
    simp only [if_true, List.isEmpty_cons, Bool.false_eq_true, if_false, Code.shown, shownAll,
      String.intercalate_cons_cons, String.intercalate_singleton, String.toList_append, List.append_assoc]
    exact List.prefix_append "Field(default=None, ".toList _
  | false => exact ⟨_, rfl, .inl rfl⟩

/-- The field of a column may be nothing, and starts so, if the column may be null. -/
theorem startsNone_inputFragment {c : EntityColumn} (htype : (c.type.hint, c.type.mapped) ∈ knownTypes) :
    (inputFragment c).StartsNone ↔ c.nullable = true := by
  have hfirst : (fieldHint c).shown.toList.head?.any (· ≠ 'O') = true := by
    unfold fieldHint
    split
    · simp only [Code.shown, String.toList_append, List.append_assoc]
      rfl
    · exact knownTypes_first htype
  have hhint : "Optional[".toList <+: (inputFragment c).hint.shown.toList ↔ c.nullable = true := by
    rw [← List.append_nil (inputFragment c).hint.shown.toList]
    exact optionalCode_begins [] hfirst
  exact ⟨fun h => hhint.mp h.hint, fun h => ⟨hhint.mpr h, fieldValue_of_nullable h⟩⟩

end Render

/-! ## Columns of a model -/

theorem resolveType_nullable {dataType : String} {nullable : Bool} {overrides : List (String × ScalarKind)}
    {enumValues : List String} {type : ColumnType}
    (h : resolveType dataType nullable overrides enumValues = some type) : type.nullable = nullable := by
  unfold resolveType at h
  split at h
  · cases h
    rfl
  · split at h
    · cases h
      rfl
    · obtain ⟨_, _, rfl⟩ := Option.map_eq_some_iff.mp h
      rfl

/-- **A column on which the three agree.** -/
structure Entity.AgreesOn (e : Entity) (c : EntityColumn) : Prop where
  entry : (columnFragment e c).MapsOptional ↔ SaysNullable (columnEntry c)
  field : SaysNullable (columnEntry c) ↔ (inputFragment c).StartsNone

/-- **What the modules of an entity say of a column** that both of them have an attribute for, and of the column of
the table that it maps: the attribute may be nothing if the column may be null and is none of the identity, the
entry and the field say only whether it may be null. -/
structure Entity.Tells (e : Entity) (t : Table) (u v : SourceUnit) (c : EntityColumn) : Prop where
  attributes : columnFragment e c ∈ u.fields ∧ inputFragment c ∈ v.fields
  entries : columnEntry c ∈ u.fieldSpecs ∧ columnEntry c ∈ v.fieldSpecs
  column : ∃ column ∈ t.columns, column.name = c.name ∧
    ((columnFragment e c).MapsOptional ↔ column.nullable = true ∧ column.name ∉ identity t) ∧
    (SaysNullable (columnEntry c) ↔ column.nullable = true) ∧
    ((inputFragment c).StartsNone ↔ column.nullable = true) ∧
    (e.AgreesOn c ↔ ¬ (column.nullable = true ∧ column.name ∈ identity t))

/-- **What the modules of a model say of the columns** that they have attributes for. -/
def Model.TellsNullable (s : Snapshot) (m : Model) (o : Options) : Prop :=
  ∀ e ∈ m.entities, ∃ t ∈ s.tables, e.table = t.name ∧ ∃ u, entityUnit m o e = .ok u ∧
    ∀ c ∈ ownColumns e, c ∈ inputColumns o e → e.Tells t u (inputUnit o e) c

/-- What is said of a column of a table. -/
theorem Entity.tells_column {e : Entity} {o o' : Options} {m : Model} {targets : List (Relation × Entity)}
    {schema : Option String} {named : List NamedTable} {t : Table} {taken : List String}
    (hcolumns : nameColumns o schema named t taken t.columns = .ok e.columns) {c : EntityColumn}
    (hown : c ∈ ownColumns e) (hinput : c ∈ inputColumns o' e) :
    e.Tells t (entityUnitOf m o' e targets) (inputUnit o' e) c := by
  have hc : c ∈ e.columns := mem_of_mem_ownColumns hown
  refine ⟨⟨List.mem_map_of_mem hown, List.mem_map_of_mem hinput⟩,
    ⟨List.mem_append_left _ (List.mem_map_of_mem hc), List.mem_map_of_mem hinput⟩, ?_⟩
  obtain ⟨column, hcolumn, property, type, htype, heq⟩ := mem_nameColumns hcolumns hc
  have hknown : (c.type.hint, c.type.mapped) ∈ knownTypes := by
    rw [heq]
    exact resolveType_known htype
  have hnullable : c.nullable = column.nullable := by rw [heq]; rfl
  have hoptional : c.type.nullable = true ↔ column.nullable = true ∧ column.name ∉ identity t := by
    have htypes : c.type.nullable = (column.nullable && !(identity t).contains column.name) := by
      rw [heq]
      exact resolveType_nullable htype
    rw [htypes]
    simp
  have hattribute := (mapsOptional_columnFragment (e := e) hknown).trans hoptional
  have hentry : SaysNullable (columnEntry c) ↔ column.nullable = true := hnullable ▸ saysNullable_columnEntry
  have hfield : (inputFragment c).StartsNone ↔ column.nullable = true :=
    hnullable ▸ startsNone_inputFragment hknown
  refine ⟨column, hcolumn, by rw [heq]; rfl, hattribute, hentry, hfield, ?_⟩
  constructor
  · rintro ⟨hagree, -⟩ ⟨hnull, hkey⟩
    exact (hattribute.mp (hagree.mpr (hentry.mpr hnull))).2 hkey
  · intro hnone
    refine ⟨?_, hentry.trans hfield.symm⟩
    rw [hattribute, hentry]
    exact ⟨fun h => h.1, fun hnull => ⟨hnull, fun hkey => hnone ⟨hnull, hkey⟩⟩⟩

/-! ## The law -/

/-- **The modules of a built model agree on which columns may be null**, except for the columns of the identity
that the catalog lets be null: their attribute may not be nothing, but their entry and their field may. -/
theorem buildModel_tellsNullable {o o' : Options} {s : Snapshot} {m : Model} (h : buildModel o s = .ok m) :
    m.TellsNullable s o' := by
  intro e he
  obtain ⟨targets, htargets⟩ := exists_targets h he
  obtain ⟨b, hentities⟩ := exists_built h
  rw [hentities] at he
  obtain ⟨d, hd, rfl⟩ := List.mem_map.mp he
  refine ⟨d.table, b.table_mem hd, rfl, entityUnitOf m o' (b.entity d) targets, ?_, ?_⟩
  · unfold entityUnit
    rw [htargets]
    rfl
  · intro c hown hinput
    exact Entity.tells_column (b.drafts_named.2 d hd) hown hinput

/-- So do those of a logbook: of the three columns that both modules have attributes for they disagree on the time
of an entry. -/
theorem buildModel_tellsNullable_logbook :
    ∃ m, buildModel {} logbook = .ok m ∧
      m.entities.map (fun e => ((ownColumns e).filter (· ∈ inputColumns {} e)).map fun c =>
          (c.property, c.nullable && c.primaryKey)) =
        [[("nickname", false)], [("at", true), ("message", false)]] ∧ m.TellsNullable logbook {} := by
  obtain ⟨m, hm, htest⟩ := exists_ok_of_any (x := buildModel {} logbook)
    (p := fun m => m.entities.map (fun e => ((ownColumns e).filter (· ∈ inputColumns {} e)).map fun c =>
          (c.property, c.nullable && c.primaryKey)) =
        [[("nickname", false)], [("at", true), ("message", false)]])
    (by decide +kernel)
  exact ⟨m, hm, of_decide_eq_true htest, buildModel_tellsNullable hm⟩

end SchemaScribe
