import SchemaScribe.Proofs.Catalog.Check
import SchemaScribe.Proofs.Model.Built

/-!
# A model refers to nothing outside it

Relations and columns name other entities, their properties and columns of join tables. Tables may have
gone since the catalog was checked: those that were not selected, and junctions, which become no entities.
Still every such name belongs to something that is there (`Model.Closed`), for a link is attached to drafts
only, a draft has all columns of its table, and the keys of a prepared catalog refer to columns of their
targets wherever these are left (`Snapshot.Referring`).
-/

namespace SchemaScribe

open SchemaScribe.Catalog

/-! ## What relations refer to -/

/-- **An entity that maps a table**, all columns of it in their order. -/
structure Entity.Maps (e : Entity) (t : Table) : Prop where
  table : e.table = t.name
  schema : e.schema = t.schema
  columns : e.columns.map (·.name) = t.columnNames

/-- Properties that are, one by one, those of the named columns of an entity. -/
def Entity.Stores (e : Entity) (columns properties : List String) : Prop :=
  columns.map (fun c => (e.column? c).map (·.property)) = properties.map some

/-- **A relation that a foreign key of an entity backs**: it names the holder of the key and the properties
of its columns; at the owning end of a key that leads back to the holder, also those referred to. -/
structure Relation.Backed (r : Relation) (holder : Entity) (k : ForeignKey) : Prop where
  constraintKey : r.constraintKey = keyText k
  fkEntity : r.fkEntity = some holder.name
  properties : holder.Stores k.columns r.fkProperties
  remote : holder.Stores (if r.owning && r.selfReferential then k.referredColumns else [])
    r.remoteProperties

/-- **Join columns between a table and an entity**: of each pair the first is a column of the table, the
second one of the entity. -/
def Joins (t : Table) (e : Entity) (pairs : List (String × String)) : Prop :=
  ∀ p ∈ pairs, p.1 ∈ t.columnNames ∧ p.2 ∈ e.columns.map (·.name)

/-- **What a relation of an entity refers to is there**: its target, and either the holder of its key or its
join table with columns of both ends. -/
structure Relation.Closed (s : Snapshot) (m : Model) (e : Entity) (r : Relation) : Prop where
  target : ∃ target ∈ m.entities, target.name = r.target
  key : r.kind ≠ .manyToMany → ∃ holder ∈ m.entities, ∃ t ∈ s.tables, holder.Maps t ∧
    ∃ k ∈ t.foreignKeys, r.Backed holder k
  join : r.kind = .manyToMany → ∃ j ∈ s.tables, r.joinTable = some j.name ∧
    j.name ∈ m.junctionTables ∧ Joins j e r.joinColumns ∧
    ∃ target ∈ m.entities, target.name = r.target ∧ Joins j target r.inverseJoinColumns

/-- A path that names a column of an entity behind the qualified name of the table it maps. -/
def Model.HasColumn (s : Snapshot) (m : Model) (path : String) : Prop :=
  ∃ e ∈ m.entities, ∃ t ∈ s.tables, e.Maps t ∧ ∃ c ∈ e.columns,
    path = t.qualifiedName ++ "." ++ c.name

/-- **A model refers to nothing outside it**: every entity maps a table, and what its relations and the keys
of its columns refer to is there. -/
structure Model.Closed (s : Snapshot) (m : Model) : Prop where
  tables : ∀ e ∈ m.entities, ∃ t ∈ s.tables, e.Maps t
  relations : ∀ e ∈ m.entities, ∀ r ∈ e.relations, r.Closed s m e
  columns : ∀ e ∈ m.entities, ∀ c ∈ e.columns, ∀ path, c.foreignKey = some path →
    m.HasColumn s path

/-! ## Targets of keys -/

theorem columnPath_eq (t : Table) (column : String) :
    columnPath t column = t.qualifiedName ++ "." ++ column := by
  unfold columnPath Table.qualifiedName filled?
  cases t.schema with
  | none => simp
  | some schema =>
    by_cases hs : schema.isEmpty <;> simp [Option.filter, hs]

/-- What a key says about a column, if it is over this column alone and its target is named. -/
def targetOver? (schema : Option String) (named : List NamedTable) (column : String)
    (k : ForeignKey) : Option String :=
  match k.columns, k.referredColumns, keyTarget? schema named k with
  | [own], referred :: _, some target =>
    if own = column then some (columnPath target.table referred) else none
  | _, _, _ => none

/-- The first key that says anything about a column counts. -/
theorem columnTarget?_eq (schema : Option String) (named : List NamedTable) (t : Table)
    (column : String) :
    columnTarget? schema named t column = t.distinctKeys.findSome? (targetOver? schema named column) :=
  rfl

theorem targetOver?_eq_some_iff {schema : Option String} {named : List NamedTable}
    {column path : String} {k : ForeignKey} :
    targetOver? schema named column k = some path ↔
      k.columns = [column] ∧ ∃ target, keyTarget? schema named k = some target ∧
        k.referredColumns.map (columnPath target.table) = [path] := by
  have hlength := k.length_eq
  unfold targetOver?
  constructor
  · intro h
    split at h
    · next own referred rest target hown hreferred htarget =>
      split at h
      · next heq =>
        cases h
        rw [hown, hreferred] at hlength
        rw [List.length_eq_zero_iff.mp (Nat.succ.inj hlength).symm] at hreferred
        exact ⟨heq ▸ hown, target, htarget, by rw [hreferred]; rfl⟩
      · cases h
    · cases h
  · rintro ⟨hcolumns, target, htarget, hpath⟩
    obtain ⟨referred, hreferred, rfl⟩ := List.map_eq_singleton_iff.mp hpath
    rw [hcolumns, hreferred, htarget]
    exact if_pos rfl

theorem keyTarget?_eq_some {schema : Option String} {named : List NamedTable} {k : ForeignKey}
    {target : NamedTable} (h : keyTarget? schema named k = some target) :
    k.leaves schema = false ∧ target ∈ named ∧ target.table.name = k.referredTable := by
  unfold keyTarget? at h
  split at h
  · cases h
  · next hleaves =>
    refine ⟨Bool.eq_false_iff.mpr hleaves, List.mem_of_find?_eq_some h, ?_⟩
    simpa only [decide_eq_true_eq] using List.find?_some h

theorem targetDraft?_eq_some {schema : Option String} {drafts : List Draft} {k : ForeignKey}
    {target : Draft} (h : targetDraft? schema drafts k = some target) :
    k.leaves schema = false ∧ target ∈ drafts ∧ target.table.name = k.referredTable := by
  have hfound := mem_of_draft? (draft?_of_targetDraft? h)
  unfold targetDraft? at h
  split at h
  · cases h
  · next hleaves => exact ⟨Bool.eq_false_iff.mpr hleaves, hfound⟩

/-- The properties that a draft has for columns of its own are those of its columns. -/
theorem Draft.property_of_mem {d : Draft} {column : String} (h : column ∈ d.columns.map (·.name)) :
    (d.columns.find? (·.name = column)).map (·.property) = some (d.property column) := by
  obtain ⟨c, hc, rfl⟩ := List.mem_map.mp h
  have hfound : (d.columns.find? (·.name = c.name)).isSome :=
    List.find?_isSome.mpr ⟨c, hc, decide_eq_true rfl⟩
  obtain ⟨found, hfound⟩ := Option.isSome_iff_exists.mp hfound
  unfold Draft.property
  rw [hfound]
  rfl

namespace Built

variable {o : Options} {s : Snapshot} (b : Built o s)

/-! ## Entities and their tables -/

theorem entity_maps {d : Draft} (hd : d ∈ b.drafts) : (b.entity d).Maps d.table :=
  ⟨rfl, rfl, b.columns_names hd⟩

theorem entity_stores {d : Draft} (hd : d ∈ b.drafts) {columns : List String}
    (h : columns ⊆ d.table.columnNames) :
    (b.entity d).Stores columns (columns.map d.property) := by
  unfold Entity.Stores Entity.column?
  rw [List.map_map]
  refine List.map_congr_left fun c hc => ?_
  exact Draft.property_of_mem (b.columns_names hd ▸ h hc)

/-- Paired columns are columns of both tables wherever their keys refer to what is there. -/
theorem joins_pairs (hs : s.Referring) {j : Table} (hj : j ∈ s.tables) {k : ForeignKey}
    (hk : k ∈ j.distinctKeys) (hleaves : k.leaves s.schema = false) {d : Draft} (hd : d ∈ b.drafts)
    (hname : d.table.name = k.referredTable) : Joins j (b.entity d) k.pairs := by
  have hkey := mem_of_mem_distinctKeys hk
  rintro ⟨column, referred⟩ hpair
  obtain ⟨hcolumn, hreferred⟩ := List.of_mem_zip hpair
  refine ⟨hs.own j hj k hkey hcolumn, ?_⟩
  rw [(b.entity_maps hd).columns]
  exact hs.target j hj k hkey hleaves d.table (b.table_mem hd) hname hreferred

/-! ## Relations -/

/-- The relation at either end of the link of a key is backed by the key. -/
theorem backed_of_keyLink (hs : s.Referring) {d target : Draft} (hd : d ∈ b.drafts) {k : ForeignKey}
    (hk : k ∈ d.table.distinctKeys) (htarget : targetDraft? s.schema b.drafts k = some target)
    {p : Endpoint} (hlink : p.link = keyLink d target k) :
    (p.relation b.names).Backed (b.entity d) k := by
  obtain ⟨hleaves, hmem, hname⟩ := targetDraft?_eq_some htarget
  have hkey := mem_of_mem_distinctKeys hk
  have hreferred := hs.target d.table (b.table_mem hd) k hkey hleaves target.table (b.table_mem hmem)
    hname
  unfold Endpoint.relation
  rw [hlink]
  refine ⟨rfl, rfl, b.entity_stores hd (hs.own d.table (b.table_mem hd) k hkey), ?_⟩
  show (b.entity d).Stores
    (if decide (p.side = .owning) && (keyLink d target k).isLoop then k.referredColumns else [])
    (if decide (p.side = .owning) && (keyLink d target k).isLoop then
      k.referredColumns.map target.property else [])
  split
  · next hloop =>
    -- a key that leads back refers to columns of its own holder
    have hsame : d = target := b.eq_of_table hd hmem
      (of_decide_eq_true (Bool.and_eq_true_iff.mp hloop).2)
    subst hsame
    exact b.entity_stores hd hreferred
  · rfl

/-- Each end of the link of a junction pairs columns of its table with columns of the draft there. -/
theorem joins_of_joinLink (hs : s.Referring) {j : Junction} (hj : j ∈ junctions s) {l : Link}
    (hl : joinLink b.drafts j = .ok l) {side : Side} {d : Draft} (hd : d ∈ b.drafts)
    (hat : (l.endAt side).table = d.table.name) :
    Joins j.table (b.entity d) (l.basis.joinColumns side) := by
  obtain ⟨owner, howner, other, hother, hfirst, hsecond, hatOwner, hatOther, hbasis⟩ :=
    joinLink_eq_ok hl
  have htested := tested_of_mem hj
  have hresolved : ∀ k ∈ [j.first, j.second], k.leaves s.schema = false := by
    intro k hk
    have h := htested.resolved k hk
    unfold isResolved at h
    simpa only [Bool.not_eq_true'] using (Bool.and_eq_true_iff.mp h).1
  have hjoins : ∀ k ∈ [j.first, j.second], d.table.name = k.referredTable →
      Joins j.table (b.entity d) k.pairs := fun k hk hname =>
    b.joins_pairs hs htested.table (htested.keys ▸ hk) (hresolved k hk) hd hname
  rw [hbasis]
  cases side with
  | owning =>
    refine hjoins j.first List.mem_cons_self ?_
    rw [← hfirst, ← hat]
    exact (Prod.mk.inj hatOwner).1
  | inverse =>
    refine hjoins j.second (List.mem_cons_of_mem _ List.mem_cons_self) ?_
    rw [← hsecond, ← hat]
    exact (Prod.mk.inj hatOther).1

theorem relation_closed (hs : s.Referring) {m : Model} (hm : buildModel o s = .ok m)
    (hentities : m.entities = b.drafts.map b.entity) {d : Draft} (hd : d ∈ b.drafts) {p : Endpoint}
    (hp : p ∈ endpoints b.links d.table.name) :
    (p.relation b.names).Closed s m (b.entity d) := by
  obtain ⟨hlink, hat⟩ := mem_endpoints.mp hp
  have hl : p.link ∈ b.links := List.mem_of_getElem? hlink
  obtain ⟨target, htarget, hatTarget, hname⟩ := b.links_attached p.link hl p.side.opposite
  rcases b.mem_links hl with ⟨holder, hholder, k, hk, target', htarget', hkey⟩ | ⟨j, hj, hjoin⟩
  · refine ⟨⟨b.entity target, b.entity_mem hentities htarget, hname.symm⟩, fun _ => ?_, fun hkind => ?_⟩
    · exact ⟨b.entity holder, b.entity_mem hentities hholder, holder.table, b.table_mem hholder,
        b.entity_maps hholder, k, mem_of_mem_distinctKeys hk,
        b.backed_of_keyLink hs hholder hk htarget' hkey⟩
    · have hjoined := (p.link.basis.joinTable_isSome_iff p.side).mpr hkind
      rw [hkey] at hjoined
      cases hjoined
  · obtain ⟨_, _, _, _, _, _, _, _, hbasis⟩ := joinLink_eq_ok hjoin
    have hkind : (p.relation b.names).kind = .manyToMany := by
      refine (p.link.basis.joinTable_isSome_iff p.side).mp ?_
      rw [hbasis]
      rfl
    have hmem := b.entity_mem hentities htarget
    refine ⟨⟨b.entity target, hmem, hname.symm⟩, fun hne => absurd hkind hne, fun _ => ?_⟩
    refine ⟨j.table, (tested_of_mem hj).table, ?_, ?_, b.joins_of_joinLink hs hj hjoin hd hat,
      b.entity target, hmem, hname.symm, b.joins_of_joinLink hs hj hjoin htarget hatTarget⟩
    · show p.link.basis.joinTable = some j.table.name
      rw [hbasis]
      rfl
    · rw [junctionTables_eq hm]
      unfold sortedNames
      exact List.mem_mergeSort.mpr (List.mem_eraseDups.mpr (List.mem_map.mpr ⟨j, hj, rfl⟩))

/-- An owning relation without a join table is at the end of a key of its draft. -/
theorem exists_key_of_owning {d : Draft} (hd : d ∈ b.drafts) {p : Endpoint}
    (hp : p ∈ endpoints b.links d.table.name) (howning : (p.relation b.names).owning = true)
    (hkind : (p.relation b.names).kind ≠ .manyToMany) :
    ∃ k ∈ d.table.distinctKeys, ∃ target,
      targetDraft? s.schema b.drafts k = some target ∧ p.link = keyLink d target k := by
  obtain ⟨hlink, hat⟩ := mem_endpoints.mp hp
  have hside : p.side = .owning := of_decide_eq_true howning
  rcases b.mem_links (List.mem_of_getElem? hlink) with
    ⟨holder, hholder, k, hk, target, htarget, hkey⟩ | ⟨j, _, hjoin⟩
  · have hsame : holder = d := by
      refine b.eq_of_table hholder hd ?_
      rw [← hat, hside, hkey]
      rfl
    subst hsame
    exact ⟨k, hk, target, htarget, hkey⟩
  · obtain ⟨_, _, _, _, _, _, _, _, hbasis⟩ := joinLink_eq_ok hjoin
    refine absurd ((p.link.basis.joinTable_isSome_iff p.side).mp ?_) hkind
    rw [hbasis]
    rfl

/-! ## Columns -/

/-- What a column of a draft refers to is a column of a draft. -/
theorem exists_of_foreignKey (hs : s.Referring) {d : Draft} (hd : d ∈ b.drafts) {x : EntityColumn}
    (hx : x ∈ d.columns) {path : String} (hpath : x.foreignKey = some path) :
    ∃ target ∈ b.drafts, ∃ c ∈ target.columns,
      path = target.table.qualifiedName ++ "." ++ c.name := by
  obtain ⟨c, _, property, type, _, rfl⟩ := mem_nameColumns (b.drafts_named.2 d hd) hx
  obtain ⟨k, hk, hpath⟩ := List.exists_of_findSome?_eq_some hpath
  obtain ⟨_, named, hnamed, hpath⟩ := targetOver?_eq_some_iff.mp hpath
  obtain ⟨hleaves, hmem, hname⟩ := keyTarget?_eq_some hnamed
  obtain ⟨target, htarget, rfl⟩ := b.exists_draft hmem
  obtain ⟨referred, hcolumns, rfl⟩ := List.map_eq_singleton_iff.mp hpath
  have hreferred : referred ∈ target.columns.map (·.name) := by
    rw [b.columns_names htarget]
    refine hs.target d.table (b.table_mem hd) k (mem_of_mem_distinctKeys hk) hleaves target.table
      (b.table_mem htarget) hname ?_
    rw [hcolumns]
    exact List.mem_cons_self
  obtain ⟨c', hc', rfl⟩ := List.mem_map.mp hreferred
  exact ⟨target, htarget, c', hc', columnPath_eq target.table c'.name⟩

end Built

/-- **A model built of a prepared catalog refers to nothing outside it.** Every entity maps a table of the
catalog, every relation leads to an entity and stores or joins columns that are there, and every path in a
column names one. Catalogs that were not checked are left open: their keys may be over columns that are nowhere.
-/
theorem buildModel_closed {p : Option Options} {o : Options} {s s' : Snapshot} {m : Model}
    (hprepared : (s.prepare p).outcome = .ok s') (h : buildModel o s' = .ok m) : m.Closed s' := by
  have hs := referring_of_prepare hprepared
  obtain ⟨b, hentities⟩ := exists_built h
  refine ⟨fun e he => ?_, fun e he r hr => ?_, fun e he c hc path hpath => ?_⟩
  · rw [hentities] at he
    obtain ⟨d, hd, rfl⟩ := List.mem_map.mp he
    exact ⟨d.table, b.table_mem hd, b.entity_maps hd⟩
  · rw [hentities] at he
    obtain ⟨d, hd, rfl⟩ := List.mem_map.mp he
    obtain ⟨end', hend, rfl⟩ := List.mem_map.mp hr
    exact b.relation_closed hs h hentities hd hend
  · rw [hentities] at he
    obtain ⟨d, hd, rfl⟩ := List.mem_map.mp he
    obtain ⟨target, htarget, c', hc', hpath⟩ := b.exists_of_foreignKey hs hd hc hpath
    exact ⟨b.entity target, b.entity_mem hentities htarget, target.table,
      b.table_mem htarget, b.entity_maps htarget, c', hc', hpath⟩

/-- So does that of the staff, whose keys are over one column each and one of whose tables is a junction. -/
theorem buildModel_closed_staff :
    ∃ m, (staff.prepare (some {})).outcome.toOption = some staff ∧ buildModel {} staff = .ok m ∧
      m.relationCount = 6 ∧ m.Closed staff := by
  obtain ⟨m, hm, _, _, hcount⟩ := exists_staffModel
  have hprepared : (staff.prepare (some {})).outcome.toOption = some staff := by decide +kernel
  refine ⟨m, hprepared, hm, hcount, buildModel_closed (p := some {}) (s := staff) ?_ hm⟩
  exact toOption_eq_some.mp hprepared

end SchemaScribe
