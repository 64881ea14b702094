import SchemaScribe.Proofs.Catalog.WellFormed
import SchemaScribe.Proofs.Render.Imports
import SchemaScribe.Proofs.Render.Nullability

/-!
# Which relations may lead to nothing

A foreign key refers to nothing as soon as one of its columns is null. The relation that owns the key therefore
leads somewhere in every row only if none of the columns may be null.

The attribute of the relation says that it may be nothing if all columns of the key may be null
(`Render.SourceUnit.TellsOptional`). This is the same where the key is over one column, or where all its columns
agree. Of a key that mixes both sorts of columns (`ForeignKey.Mixes`) the attribute says that it always leads
somewhere, and it need not.
-/

namespace SchemaScribe

open SchemaScribe.Catalog SchemaScribe.Render

/-! ## Columns of keys that may be null -/

namespace Catalog

/-- A column of a table that the catalog lets be null. -/
def Table.MayBeNull (t : Table) (column : String) : Prop := ∃ c ∈ t.columns, c.name = column ∧ c.nullable = true

/-- **A key with columns that may be null and others that may not.** -/
def ForeignKey.Mixes (k : ForeignKey) (t : Table) : Prop :=
  (∃ column ∈ k.columns, t.MayBeNull column) ∧ ∃ column ∈ k.columns, ¬ t.MayBeNull column

/-- Only keys over several columns mix. -/
theorem ForeignKey.Mixes.composite {k : ForeignKey} {t : Table} (h : k.Mixes t) : 1 < k.columns.length := by
  obtain ⟨⟨column, hcolumn, hnull⟩, column', hcolumn', hfilled⟩ := h
  cases hk : k.columns with
  | nil =>
    rw [hk] at hcolumn
    cases hcolumn
  | cons first rest =>
    cases rest with
    | cons => exact Nat.succ_lt_succ (Nat.succ_pos _)
    | nil =>
      rw [hk, List.mem_singleton] at hcolumn hcolumn'
      rw [hcolumn'] at hfilled
      rw [hcolumn] at hnull
      exact absurd hnull hfilled

/-- If some columns of a key that does not mix are not null, then none is. -/
theorem ForeignKey.not_mixes_iff {k : ForeignKey} {t : Table} :
    ¬ k.Mixes t ↔ ((¬ ∀ column ∈ k.columns, t.MayBeNull column) →
      ∀ column ∈ k.columns, ¬ t.MayBeNull column) := by
  unfold ForeignKey.Mixes
  push Not
  constructor
  · rintro h ⟨column', hcolumn', hfilled⟩ column hcolumn hnull
    exact hfilled (h ⟨column, hcolumn, hnull⟩ column' hcolumn')
  · rintro h ⟨column, hcolumn, hnull⟩ column' hcolumn'
    by_contra hfilled
    exact h ⟨column', hcolumn', hfilled⟩ column hcolumn hnull

/-- Where columns have distinct names, the column of a name tells whether it may be null. -/
theorem Table.column?_all_iff {t : Table} (hnames : t.columnNames.Nodup) {column : String}
    (hcolumn : column ∈ t.columnNames) :
    (t.column? column).all (·.nullable) = true ↔ t.MayBeNull column := by
  obtain ⟨c, hc, rfl⟩ := List.mem_map.mp hcolumn
  have hfound : t.column? c.name = some c := findLast?_key_eq_some (f := Column.name) hnames hc
  rw [hfound, Option.all_some]
  constructor
  · exact fun hnull => ⟨c, hc, rfl, hnull⟩
  · rintro ⟨c', hc', hname, hnull⟩
    rw [← List.inj_on_of_nodup_map hnames hc' hc hname]
    exact hnull

end Catalog

/-! ## Attributes of relations -/

namespace Render

/-- The attribute of an owning relation to one entity says whether the relation may be nothing. -/
theorem mapsOptional_relationFragment {o : Options} {e target : Entity} {r : Relation}
    (howning : r.owning = true) (hone : r.kind.toMany = false) :
    (relationFragment o e r target).MapsOptional ↔ r.nullable = true := by
  have hhint : (relationHint r target).1 = optionalCode r.nullable (.quoted target.name) := by
    unfold relationHint optionalCode
    rw [hone, howning]
    cases r.nullable <;> rfl
  have hfirst : (Code.quoted target.name).shown.toList.head?.any (· ≠ 'O') = true := by
    simp only [Code.shown, String.toList_append]
    rfl
  exact mapsOptional_iff (congrArg (fun hint => Code.subscript "Mapped" [hint]) hhint) hfirst

/-- The attributes of relations with distinct names are found by their names. -/
theorem exists_relationFragment {m : Model} {o : Options} {e : Entity} {targets : List (Relation × Entity)}
    (htargets : withTargets m e.relations = .ok targets) (hnames : (e.relations.map (·.name)).Nodup)
    {r : Relation} (hr : r ∈ e.relations) :
    ∃ target, (entityUnitOf m o e targets).relations.filter (·.name = r.name) = [relationFragment o e r target] := by
  rw [← (withTargets_relations htargets).1] at hr hnames
  obtain ⟨⟨r, target⟩, hmem, rfl⟩ := List.mem_map.mp hr
  refine ⟨target, ?_⟩
  have hfragments : ((entityUnitOf m o e targets).relations.map (·.name)).Nodup := by
    show ((targets.map fun p => relationFragment o e p.1 p.2).map (·.name)).Nodup
    rw [List.map_map] at hnames ⊢
    exact hnames
  exact filter_key_eq_singleton (f := Fragment.name) (a := relationFragment o e r target) hfragments
    (List.mem_map.mpr ⟨(r, target), hmem, rfl⟩)

/-! ## The law -/

/-- **What the class of an entity says of a relation that owns a key**: the one attribute of its name may be nothing
if all columns of the key may be null. What it says can be relied on unless the key mixes. -/
structure SourceUnit.TellsOptional (u : SourceUnit) (r : Relation) (t : Table) (k : ForeignKey) : Prop where
  annotation : ∃ f, u.relations.filter (·.name = r.name) = [f] ∧
    (f.MapsOptional ↔ ∀ column ∈ k.columns, t.MayBeNull column)
  relied : (∀ f ∈ u.relations, f.name = r.name → ¬ f.MapsOptional → ∀ column ∈ k.columns, ¬ t.MayBeNull column) ↔
    ¬ k.Mixes t

theorem SourceUnit.tellsOptional_of {u : SourceUnit} {r : Relation} {t : Table} {k : ForeignKey} {f : Fragment}
    (hfound : u.relations.filter (·.name = r.name) = [f])
    (htold : f.MapsOptional ↔ ∀ column ∈ k.columns, t.MayBeNull column) : u.TellsOptional r t k := by
  refine ⟨⟨f, hfound, htold⟩, ?_⟩
  have honly : ∀ g, g ∈ u.relations ∧ g.name = r.name ↔ g = f := fun g => by
    rw [← List.mem_singleton (b := f), ← hfound, List.mem_filter, decide_eq_true_eq]
  rw [ForeignKey.not_mixes_iff, ← htold]
  constructor
  · intro h
    obtain ⟨hf, hname⟩ := (honly f).mpr rfl
    exact h f hf hname
  · intro h g hg hname
    rw [(honly g).mp ⟨hg, hname⟩]
    exact h

end Render

/-- **What a model says of the relations that own keys**: each stands for a key of the table of its entity, and the
class of the entity says of it whether all columns of this key may be null. -/
def Model.TellsOptional (s : Snapshot) (m : Model) (o : Options) : Prop :=
  ∀ e ∈ m.entities, ∃ t ∈ s.tables, e.Maps t ∧ ∃ u, entityUnit m o e = .ok u ∧
    ∀ r ∈ e.relations, r.owning = true → r.kind ≠ .manyToMany →
      ∃ k ∈ t.distinctKeys, r.Backed e k ∧ u.TellsOptional r t k

/-- The relation at the owning end of the link of a key is nullable if all columns of the key may be null. -/
theorem nullable_of_keyLink {names : EndNames} {d target : Draft} {k : ForeignKey} {p : Endpoint}
    (hcolumns : d.table.columnNames.Nodup) (hown : k.columns ⊆ d.table.columnNames)
    (hlink : p.link = keyLink d target k) (hside : p.side = .owning) :
    (p.relation names).nullable = true ↔ ∀ column ∈ k.columns, d.table.MayBeNull column := by
  have hnullable : (p.relation names).nullable = k.columns.all fun c => (d.table.column? c).all (·.nullable) := by
    unfold Endpoint.relation
    rw [hlink, hside]
    rfl
  rw [hnullable, List.all_eq_true]
  exact forall₂_congr fun column hcolumn => Table.column?_all_iff hcolumns (hown hcolumn)

/-- **The classes of a model say of the relations that own keys whether all columns may be null**, which is
whether one of them may be null unless the key mixes. So it is decided for each of these relations what its
annotation says, and of which keys it can be relied on. The other end of a key and join tables are left open. -/
theorem buildModel_tellsOptional {p : Option Options} {o o' : Options} {s s' : Snapshot} {m : Model}
    (hprepared : (s.prepare p).outcome = .ok s') (h : buildModel o s' = .ok m) : m.TellsOptional s' o' := by
  have hs := referring_of_prepare hprepared
  intro e he
  obtain ⟨targets, htargets⟩ := exists_targets h he
  obtain ⟨b, hentities⟩ := exists_built h
  rw [hentities] at he
  obtain ⟨d, hd, rfl⟩ := List.mem_map.mp he
  have htable := b.table_mem hd
  refine ⟨d.table, htable, b.entity_maps hd, entityUnitOf m o' (b.entity d) targets, ?_, ?_⟩
  · unfold entityUnit
    rw [htargets]
    rfl
  · intro r hr howning hkind
    have hnames : ((b.entity d).relations.map (·.name)).Nodup := (List.nodup_append.mp (b.ends_named hd).2.nodup).2.1
    obtain ⟨target, hfound⟩ := exists_relationFragment (o := o') htargets hnames hr
    obtain ⟨p, hp, rfl⟩ := List.mem_map.mp hr
    obtain ⟨k, hk, end', htarget, hlink⟩ := b.exists_key_of_owning hd hp howning hkind
    have hside : p.side = .owning := of_decide_eq_true howning
    have hone : (p.relation b.names).kind.toMany = false := by
      show (p.link.basis.kind p.side).toMany = false
      rw [hlink, hside]
      show (Basis.kind (.key _ _ _ _) .owning).toMany = false
      cases k.columns.length = 1 && d.table.isUnique k.columns <;> rfl
    refine ⟨k, hk, b.backed_of_keyLink hs hd hk htarget hlink, SourceUnit.tellsOptional_of hfound ?_⟩
    rw [mapsOptional_relationFragment howning hone]
    exact nullable_of_keyLink (columns_of_prepare hprepared d.table htable).1
      (hs.own d.table htable k (mem_of_mem_distinctKeys hk)) hlink hside

/-- So do those of the houses: only the room of a visit may be nothing, although a stay need not have one. -/
theorem buildModel_tellsOptional_houses :
    ∃ m, (houses.prepare (some {})).outcome.toOption = some houses ∧ buildModel {} houses = .ok m ∧
      m.entities.map (fun e => (e.relations.filter (·.owning)).map fun r => (r.name, r.nullable)) =
        [[], [("room", false)], [("room", true)], [("room", false)]] ∧ m.TellsOptional houses {} := by
  obtain ⟨m, hm, htest⟩ := exists_ok_of_any (x := buildModel {} houses)
    (p := fun m => m.entities.map (fun e => (e.relations.filter (·.owning)).map fun r => (r.name, r.nullable)) =
      [[], [("room", false)], [("room", true)], [("room", false)]])
    (by decide +kernel)
  have hprepared : (houses.prepare (some {})).outcome.toOption = some houses := by decide +kernel
  refine ⟨m, hprepared, hm, of_decide_eq_true htest,
    buildModel_tellsOptional (p := some {}) (s := houses) ?_ hm⟩
  exact toOption_eq_some.mp hprepared

end SchemaScribe
