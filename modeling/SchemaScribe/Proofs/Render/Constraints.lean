import SchemaScribe.Proofs.Model.Closure
import SchemaScribe.Proofs.Model.Pairing
import SchemaScribe.Render.Package

/-!
# The keys behind relations in generated code

A relation that owns a key is only of use if the class declares that key to the database library as well.
Keys over several columns all are, among the arguments of the table. A key over one column is declared at
the attribute of that column, and there is room for one: of several keys over a column the first that
leads to an entity is declared, and the others are not, although each of them has its relation. Where the
column is the `id` that the shared base class declares, no key over it is declared at all
(`Model.DeclaresKeys`).
-/

namespace SchemaScribe

open SchemaScribe.Catalog

/-! ## What keys refer to -/

/-- The columns that a key refers to, behind the qualified name of their table. -/
def Catalog.Snapshot.keyPaths (s : Snapshot) (k : ForeignKey) : List String :=
  match s.table? k.referredTable with
  | some t => k.referredColumns.map fun c => t.qualifiedName ++ "." ++ c
  | none => []

/-- The keys over a column alone that lead to an entity of a model, in the order of their table. -/
def Model.keysOver (s : Snapshot) (m : Model) (t : Table) (column : String) : List ForeignKey :=
  t.distinctKeys.filter fun k =>
    k.columns = [column] && !k.leaves s.schema && m.entities.any (·.table = k.referredTable)

/-- Whether the shared base class declares a column of an entity. -/
def Entity.Inherits (e : Entity) (column : String) : Prop := e.usesIdentity = true ∧ column = "id"

theorem Catalog.Snapshot.ne_empty_of_mem_keyPaths {s : Snapshot} {k : ForeignKey} {path : String}
    (h : path ∈ s.keyPaths k) : path ≠ "" := by
  unfold Snapshot.keyPaths at h
  split at h
  · obtain ⟨c, _, rfl⟩ := List.mem_map.mp h
    simp
  · cases h

/-- What is found first is made of the first item that anything is made of. -/
theorem findSome?_eq_find?_bind {α β : Type} (f : α → Option β) (items : List α) :
    items.findSome? f = (items.find? fun x => (f x).isSome).bind f := by
  induction items with
  | nil => rfl
  | cons x rest ih =>
    rw [List.findSome?_cons, List.find?_cons, ih]
    cases hx : f x with
    | none => rfl
    | some y =>
      rw [Option.isSome_some, Option.bind_some, hx]

namespace Built

variable {o : Options} {s : Snapshot} (b : Built o s)

/-- The columns referred to are spelled after the draft that a key leads to. -/
theorem keyPaths_eq (hs : s.Referring) {k : ForeignKey} {d : Draft} (hd : d ∈ b.drafts)
    (hname : d.table.name = k.referredTable) :
    s.keyPaths k = k.referredColumns.map (columnPath d.table) := by
  unfold Snapshot.keyPaths
  rw [(table?_eq_some_iff hs.names).mpr ⟨b.table_mem hd, hname⟩]
  exact List.map_congr_left fun c _ => (columnPath_eq d.table c).symm

/-- A key leads to a named table if and only if it stays in the schema and its target is an entity. -/
theorem keyTarget?_isSome (k : ForeignKey) :
    (keyTarget? s.schema b.named k).isSome =
      (!k.leaves s.schema && (b.drafts.map b.entity).any (·.table = k.referredTable)) := by
  have htables : (b.drafts.map b.entity).any (·.table = k.referredTable) =
      b.named.any (·.table.name = k.referredTable) := by
    rw [← b.drafts_named.1, List.any_map, List.any_map]
    rfl
  rw [htables]
  unfold keyTarget?
  cases k.leaves s.schema with
  | true => rfl
  | false =>
    show (b.named.find? _).isSome = (true && b.named.any _)
    rw [Bool.true_and, Bool.eq_iff_iff, List.find?_isSome, List.any_eq_true]

/-- What a key says about a column is what it refers to, if it is kept among the keys over the column. -/
theorem targetOver?_eq_some_iff_of_isSome (hs : s.Referring) {k : ForeignKey} {column path : String}
    (h : (targetOver? s.schema b.named column k).isSome) :
    targetOver? s.schema b.named column k = some path ↔ s.keyPaths k = [path] := by
  obtain ⟨other, h⟩ := Option.isSome_iff_exists.mp h
  obtain ⟨hcolumns, target, htarget, _⟩ := targetOver?_eq_some_iff.mp h
  obtain ⟨_, hmem, hname⟩ := keyTarget?_eq_some htarget
  obtain ⟨d, hd, rfl⟩ := b.exists_draft hmem
  rw [b.keyPaths_eq hs hd hname, targetOver?_eq_some_iff]
  constructor
  · rintro ⟨_, found, hfound, hpath⟩
    cases htarget.symm.trans hfound
    exact hpath
  · exact fun hpath => ⟨hcolumns, d.toNamedTable, htarget, hpath⟩

theorem targetOver?_isSome {m : Model} (hentities : m.entities = b.drafts.map b.entity)
    (column : String) (k : ForeignKey) :
    (targetOver? s.schema b.named column k).isSome =
      (k.columns = [column] && !k.leaves s.schema && m.entities.any (·.table = k.referredTable)) := by
  rw [hentities, Bool.and_assoc, ← b.keyTarget?_isSome k, Bool.eq_iff_iff, Bool.and_eq_true_iff,
    decide_eq_true_eq, Option.isSome_iff_exists, Option.isSome_iff_exists]
  simp only [targetOver?_eq_some_iff]
  constructor
  · rintro ⟨_, hcolumns, target, htarget, _⟩
    exact ⟨hcolumns, target, htarget⟩
  · rintro ⟨hcolumns, target, htarget⟩
    have hlength := k.length_eq
    rw [hcolumns] at hlength
    obtain ⟨referred, hreferred⟩ := List.length_eq_one_iff.mp hlength.symm
    exact ⟨columnPath target.table referred, hcolumns, target, htarget, by rw [hreferred]; rfl⟩

/-- **A column is said to refer to what the first key over it refers to**, of the keys that lead to an
entity. -/
theorem columnTarget?_eq_some_iff (hs : s.Referring) {m : Model}
    (hentities : m.entities = b.drafts.map b.entity) {t : Table} {column path : String} :
    columnTarget? s.schema b.named t column = some path ↔
      ∃ first ∈ (m.keysOver s t column).head?, s.keyPaths first = [path] := by
  unfold Model.keysOver
  rw [columnTarget?_eq, findSome?_eq_find?_bind, List.head?_filter, Option.bind_eq_some_iff]
  simp only [← b.targetOver?_isSome hentities]
  refine exists_congr fun k => and_congr_right fun hfound => ?_
  have hkept := List.find?_some hfound
  exact b.targetOver?_eq_some_iff_of_isSome hs hkept

end Built

/-! ## What a class declares -/

namespace Render

/-- **A class that maps an attribute to a column under a foreign key** with the given path. -/
def SourceUnit.MapsUnder (u : SourceUnit) (property path : String) : Prop :=
  ∃ f ∈ u.fields, f.name = property ∧ ∃ arguments,
    f.value = some (.call "mapped_column" arguments) ∧
    Code.call "ForeignKey" [.literal path] ∈ arguments

/-- **A class whose table arguments hold a foreign key** from columns to the given paths. -/
def SourceUnit.Constrains (u : SourceUnit) (columns paths : List String) : Prop :=
  ∃ arguments, "__table_args__ = (" ++ ", ".intercalate (shownAll arguments) ++ ",)" ∈ u.classAttributes ∧
    ∃ options, Code.call "ForeignKeyConstraint" (.literals columns :: .literals paths :: options) ∈
      arguments

theorem filled?_eq_some {text : Option String} {s : String} :
    filled? text = some s ↔ text = some s ∧ s ≠ "" := by
  unfold filled?
  simp only [Option.filter_eq_some_iff, Bool.not_eq_true', String.isEmpty_eq_false_iff, ne_eq]

/-- The type of a column is a plain name, or a type with arguments. -/
theorem columnTypeCode_cases (e : Entity) (c : EntityColumn) :
    (∃ text, columnTypeCode e c = .plain text) ∨
      ∃ callee arguments, callee ≠ "ForeignKey" ∧ columnTypeCode e c = .call callee arguments := by
  unfold columnTypeCode
  split
  · exact .inr ⟨_, _, by decide, rfl⟩
  · split
    · split
      · exact .inl ⟨_, rfl⟩
      · exact .inr ⟨_, _, by decide, rfl⟩
    · exact .inr ⟨_, _, by decide, rfl⟩
    · exact .inr ⟨_, _, by decide, rfl⟩
    · exact .inl ⟨_, rfl⟩

/-- No type of a column is a foreign key. -/
theorem columnTypeCode_ne (e : Entity) (c : EntityColumn) (path : String) :
    Code.call "ForeignKey" [.literal path] ≠ columnTypeCode e c := by
  rcases columnTypeCode_cases e c with ⟨text, htype⟩ | ⟨callee, arguments, hcallee, htype⟩
  · rw [htype]
    exact Code.noConfusion
  · rw [htype]
    intro hsame
    injection hsame with hforeign
    exact hcallee hforeign.symm

/-- A foreign key is among the arguments of a column if and only if the column refers to something. -/
theorem foreignKey_mem_columnArguments {e : Entity} {c : EntityColumn} {path : String} :
    Code.call "ForeignKey" [.literal path] ∈ columnArguments e c ↔ columnKey? c = some path := by
  have htype := columnTypeCode_ne e c path
  have hname : Code.call "ForeignKey" [.literal path] ∉
      (if c.property = c.name then [] else [.literal c.name]) := by
    split <;> simp
  have hkey : Code.call "ForeignKey" [.literal path] ∉ keyArguments e c := by
    unfold keyArguments
    split
    · split
      · simp
      · split <;> simp
    · simp
  have hunique : Code.call "ForeignKey" [.literal path] ∉
      (if c.unique then [.named "unique" (.plain "True")] else []) := by
    split <;> simp
  unfold columnArguments namedText
  simp only [List.mem_append, List.mem_map, List.mem_singleton, hname, htype, hkey, hunique,
    Option.mem_toList, reduceCtorEq, and_false, exists_false, or_false, false_or]
  simp

/-- The class of an entity maps an attribute under a foreign key if and only if it declares the column
itself and the column refers to this path. -/
theorem mapsUnder_iff {m : Model} {o : Options} {e : Entity} {targets : List (Relation × Entity)}
    (hproperties : (e.columns.map (·.property)).Nodup) {c : EntityColumn} (hc : c ∈ e.columns)
    {path : String} :
    (entityUnitOf m o e targets).MapsUnder c.property path ↔
      ¬ e.Inherits c.name ∧ columnKey? c = some path := by
  have hown : ∀ x, x ∈ ownColumns e ↔ x ∈ e.columns ∧ ¬ e.Inherits x.name := by
    intro x
    unfold ownColumns Entity.Inherits
    split
    · next hmixin => simp [hmixin]
    · next hmixin => simp [hmixin]
  constructor
  · rintro ⟨f, hf, hname, arguments, hvalue, hmem⟩
    obtain ⟨x, hx, rfl⟩ := List.mem_map.mp hf
    obtain ⟨hx, hinherits⟩ := (hown x).mp hx
    have hsame : x = c := List.inj_on_of_nodup_map hproperties hx hc hname
    subst hsame
    cases hvalue
    exact ⟨hinherits, foreignKey_mem_columnArguments.mp hmem⟩
  · rintro ⟨hinherits, hkey⟩
    exact ⟨columnFragment e c, List.mem_map_of_mem ((hown c).mpr ⟨hc, hinherits⟩), rfl,
      columnArguments e c, rfl, foreignKey_mem_columnArguments.mpr hkey⟩

theorem shownAll_eq_map (items : List Code) : shownAll items = items.map Code.shown := by
  induction items with
  | nil => rfl
  | cons code rest ih => rw [shownAll, ih, List.map_cons]

/-- Every composite key of an entity is among the arguments of its table. -/
theorem constrains_of_mem {m : Model} {o : Options} {e : Entity} {targets : List (Relation × Entity)}
    {k : ForeignKey} (hk : k ∈ e.compositeKeys) {target : Entity}
    (htarget : m.entityOfTable? k.referredTable = some target) :
    (entityUnitOf m o e targets).Constrains k.columns
      (k.referredColumns.map fun c => schemaPart target.schema ++ k.referredTable ++ "." ++ c) := by
  have hmem : compositeKeyCode m k ∈ tableArguments m e :=
    List.mem_append_left _ (List.mem_append_left _ (List.mem_map_of_mem hk))
  refine ⟨tableArguments m e, List.mem_append_right _ ?_,
    namedText "name" k.name ++ namedText "ondelete" k.onDelete, ?_⟩
  · unfold tableArgumentLines
    rw [shownAll_eq_map]
    cases hshown : (tableArguments m e).map Code.shown with
    | nil =>
      rw [List.map_eq_nil_iff.mp hshown] at hmem
      cases hmem
    | cons first rest => exact List.mem_singleton.mpr rfl
  · unfold compositeKeyCode at hmem
    rw [htarget] at hmem
    exact hmem

/-- Where the targets of all relations are entities, the module of an entity can be rendered. -/
theorem withTargets_eq_ok {m : Model} {relations : List Relation}
    (h : ∀ r ∈ relations, ∃ target ∈ m.entities, target.name = r.target) :
    ∃ targets, withTargets m relations = .ok targets := by
  induction relations with
  | nil => exact ⟨[], rfl⟩
  | cons r rest ih =>
    obtain ⟨targets, htargets⟩ := ih fun r' hr' => h r' (List.mem_cons_of_mem r hr')
    obtain ⟨target, htarget, hname⟩ := h r List.mem_cons_self
    have hfound : (m.entity? r.target).isSome := by
      unfold Model.entity? findLast?
      exact List.find?_isSome.mpr ⟨target, List.mem_reverse.mpr htarget, decide_eq_true hname⟩
    obtain ⟨found, hfound⟩ := Option.isSome_iff_exists.mp hfound
    refine ⟨(r, found) :: targets, ?_⟩
    rw [withTargets, hfound, htargets]
    rfl

/-- The relations of every entity of a built model have their targets. -/
theorem exists_targets {o : Options} {s : Snapshot} {m : Model} (h : buildModel o s = .ok m) {e : Entity}
    (he : e ∈ m.entities) : ∃ targets, withTargets m e.relations = .ok targets := by
  obtain ⟨b, hentities⟩ := exists_built h
  apply withTargets_eq_ok
  intro r hr
  rw [hentities] at he
  obtain ⟨d, hd, rfl⟩ := List.mem_map.mp he
  obtain ⟨d', hd', hname⟩ := b.exists_target hr
  exact ⟨b.entity d', b.entity_mem hentities hd', hname⟩

/-! ## The keys of relations -/

/-- **What the class of an entity declares of a key.** A composite key is an argument of the table. For a
key over one column there is a place at the attribute of this column, unless a base class declares it; in
this place stands the first of the keys over the column that lead to an entity. -/
structure SourceUnit.Declares (u : SourceUnit) (s : Snapshot) (m : Model) (e : Entity) (t : Table)
    (k : ForeignKey) : Prop where
  composite : 1 < k.columns.length → u.Constrains k.columns (s.keyPaths k)
  single : ∀ column, k.columns = [column] → k ∈ m.keysOver s t column ∧
    ∃ property, e.Stores [column] [property] ∧ ∀ path, u.MapsUnder property path ↔
      ¬ e.Inherits column ∧ ∃ first ∈ (m.keysOver s t column).head?, s.keyPaths first = [path]

end Render

open Render

/-- **What a model declares of the keys behind its relations**: every owning relation that needs no join
table stands for a key of the table of its entity, which leads to the table of its target, and the module of
the entity declares this key as far as there is a place for it. -/
def Model.DeclaresKeys (s : Snapshot) (m : Model) (o : Options) : Prop :=
  ∀ e ∈ m.entities, ∃ u, entityUnit m o e = .ok u ∧
    ∀ r ∈ e.relations, r.owning = true → r.kind ≠ .manyToMany →
      ∃ t ∈ s.tables, e.Maps t ∧ ∃ k ∈ t.distinctKeys, r.Backed e k ∧
        (∃ target ∈ m.entities, target.name = r.target ∧ target.table = k.referredTable) ∧
        u.Declares s m e t k

namespace Built

variable {o : Options} {s : Snapshot} (b : Built o s)

theorem entityOfTable?_eq_some {m : Model} (hentities : m.entities = b.drafts.map b.entity) {d : Draft}
    (hd : d ∈ b.drafts) : m.entityOfTable? d.table.name = some (b.entity d) := by
  unfold Model.entityOfTable?
  rw [hentities]
  refine find?_key_eq_some (f := Entity.table) (a := b.entity d) ?_ (List.mem_map_of_mem hd)
  rw [List.map_map]
  exact b.tables_nodup

/-- A key over a column alone is kept among the keys over that column if it leads to a draft. -/
theorem mem_keysOver {m : Model} (hentities : m.entities = b.drafts.map b.entity) {t : Table}
    {k : ForeignKey} (hk : k ∈ t.distinctKeys) {column : String} (hcolumns : k.columns = [column])
    {target : Draft} (htarget : targetDraft? s.schema b.drafts k = some target) :
    k ∈ m.keysOver s t column := by
  obtain ⟨hleaves, hmem, hname⟩ := targetDraft?_eq_some htarget
  refine List.mem_filter.mpr ⟨hk, ?_⟩
  rw [Bool.and_eq_true_iff, Bool.and_eq_true_iff, List.any_eq_true]
  refine ⟨⟨decide_eq_true hcolumns, by rw [hleaves]; rfl⟩, b.entity target, ?_, decide_eq_true hname⟩
  exact b.entity_mem hentities hmem

/-- The attribute of a column of a draft is mapped under what the first key over the column refers to. -/
theorem mapsUnder_property_iff (hs : s.Referring) {m : Model} (o' : Options)
    (hentities : m.entities = b.drafts.map b.entity) {d : Draft} (hd : d ∈ b.drafts)
    (targets : List (Relation × Entity)) {column : String} (hcolumn : column ∈ d.table.columnNames)
    (path : String) :
    (entityUnitOf m o' (b.entity d) targets).MapsUnder (d.property column) path ↔
      ¬ (b.entity d).Inherits column ∧
        ∃ first ∈ (m.keysOver s d.table column).head?, s.keyPaths first = [path] := by
  have hfound := Draft.property_of_mem (b.columns_names hd ▸ hcolumn)
  obtain ⟨x, hx, hproperty⟩ := Option.map_eq_some_iff.mp hfound
  have hname : x.name = column := by simpa only [decide_eq_true_eq] using List.find?_some hx
  have hmem : x ∈ d.columns := List.mem_of_find?_eq_some hx
  obtain ⟨c, _, property, type, _, hcolumn⟩ := mem_nameColumns (b.drafts_named.2 d hd) hmem
  have hforeign : x.foreignKey = columnTarget? s.schema b.named d.table column := by
    rw [← hname, hcolumn]
    rfl
  rw [← hproperty, mapsUnder_iff (b.columns_nodup hd) hmem, hname]
  unfold columnKey?
  rw [filled?_eq_some, hforeign, b.columnTarget?_eq_some_iff hs hentities]
  refine and_congr_right fun _ => and_iff_left_of_imp ?_
  rintro ⟨first, _, hpath⟩
  exact Snapshot.ne_empty_of_mem_keyPaths (hpath ▸ List.mem_cons_self)

/-- The module of a draft declares the keys of its table that lead to drafts. -/
theorem declares_key (hs : s.Referring) {m : Model} (o' : Options)
    (hentities : m.entities = b.drafts.map b.entity) {d : Draft} (hd : d ∈ b.drafts)
    (targets : List (Relation × Entity)) {k : ForeignKey} (hk : k ∈ d.table.distinctKeys)
    {target : Draft} (htarget : targetDraft? s.schema b.drafts k = some target) :
    (entityUnitOf m o' (b.entity d) targets).Declares s m (b.entity d) d.table k where
  composite := by
    intro hcomposite
    obtain ⟨_, hmem, hname⟩ := targetDraft?_eq_some htarget
    have hkept : k ∈ (b.entity d).compositeKeys := by
      refine List.mem_filter.mpr ⟨hk, Bool.and_eq_true_iff.mpr ⟨decide_eq_true hcomposite, ?_⟩⟩
      rw [htarget]
      rfl
    have hfound : m.entityOfTable? k.referredTable = some (b.entity target) :=
      hname ▸ b.entityOfTable?_eq_some hentities hmem
    have hpaths : s.keyPaths k = k.referredColumns.map fun c =>
        schemaPart (b.entity target).schema ++ k.referredTable ++ "." ++ c := by
      rw [b.keyPaths_eq hs hmem hname, ← hname]
      rfl
    rw [hpaths]
    exact constrains_of_mem hkept hfound
  single := by
    intro column hcolumns
    have hcolumn : column ∈ d.table.columnNames :=
      hs.own d.table (b.table_mem hd) k (mem_of_mem_distinctKeys hk)
        (hcolumns ▸ List.mem_cons_self)
    exact ⟨b.mem_keysOver hentities hk hcolumns htarget, d.property column,
      b.entity_stores hd (List.cons_subset.mpr ⟨hcolumn, List.nil_subset _⟩),
      b.mapsUnder_property_iff hs o' hentities hd targets hcolumn⟩

end Built

/-- **The modules of a model declare the keys behind its relations**, as far as there is a place for them. A key
over several columns always has one. For a key over one column it is decided when it is declared: a base class
may have declared its column, and of several keys over one column only the first one counts. -/
theorem buildModel_declaresKeys {p : Option Options} {o o' : Options} {s s' : Snapshot} {m : Model}
    (hprepared : (s.prepare p).outcome = .ok s') (h : buildModel o s' = .ok m) :
    m.DeclaresKeys s' o' := by
  have hs := referring_of_prepare hprepared
  obtain ⟨b, hentities⟩ := exists_built h
  intro e he
  rw [hentities] at he
  obtain ⟨d, hd, rfl⟩ := List.mem_map.mp he
  obtain ⟨targets, htargets⟩ : ∃ targets, withTargets m (b.entity d).relations = .ok targets := by
    refine withTargets_eq_ok fun r hr => ?_
    obtain ⟨p, hp, rfl⟩ := List.mem_map.mp hr
    exact (b.relation_closed hs h hentities hd hp).target
  refine ⟨entityUnitOf m o' (b.entity d) targets, ?_, fun r hr howning hkind => ?_⟩
  · unfold entityUnit
    rw [htargets]
    rfl
  · obtain ⟨p, hp, rfl⟩ := List.mem_map.mp hr
    obtain ⟨k, hk, target, htarget, hlink⟩ := b.exists_key_of_owning hd hp howning hkind
    have hside : p.side = .owning := of_decide_eq_true howning
    obtain ⟨_, hmem, hname⟩ := targetDraft?_eq_some htarget
    refine ⟨d.table, b.table_mem hd, b.entity_maps hd, k, hk,
      b.backed_of_keyLink hs hd hk htarget hlink, ⟨b.entity target, ?_, ?_, hname⟩,
      b.declares_key hs o' hentities hd targets hk htarget⟩
    · exact b.entity_mem hentities hmem
    · show target.entity = (p.link.endAt p.side.opposite).entity
      rw [hlink, hside]
      rfl

/-- So do those of a model with four keys behind relations, two of which find no place: one is over the
inherited `id`, and one over a column that an earlier key has taken. -/
theorem buildModel_declaresKeys_lodging :
    ∃ m, (lodging.prepare (some {})).outcome.toOption = some lodging ∧ buildModel {} lodging = .ok m ∧
      m.relationCount = 8 ∧ m.entities.map (·.usesIdentity) = [false, false, false, true, false] ∧
      (lodging.tables.flatMap fun t => (m.keysOver lodging t "owner_id").map lodging.keyPaths) =
        [["guest.id"], ["host.id"]] ∧
      m.DeclaresKeys lodging {} := by
  obtain ⟨m, hm, htest⟩ := exists_ok_of_any (x := buildModel {} lodging)
    (p := fun m => m.relationCount = 8 ∧
      m.entities.map (·.usesIdentity) = [false, false, false, true, false] ∧
      (lodging.tables.flatMap fun t => (m.keysOver lodging t "owner_id").map lodging.keyPaths) =
        [["guest.id"], ["host.id"]])
    (by decide +kernel)
  obtain ⟨hcount, hidentity, hkeys⟩ := of_decide_eq_true htest
  have hprepared : (lodging.prepare (some {})).outcome.toOption = some lodging := by decide +kernel
  refine ⟨m, hprepared, hm, hcount, hidentity, hkeys,
    buildModel_declaresKeys (p := some {}) (s := lodging) ?_ hm⟩
  exact toOption_eq_some.mp hprepared

end SchemaScribe
