import SchemaScribe.Proofs.Model.Closure

/-!
# Which keys have a relation

A key that leads to an entity is stored in an owning relation to that entity. Repeated keys are left out
first, and keys that lead nowhere afterwards, and what repeats a key is told by its signature, in which the
schema referred to has no place. So a key into another schema can stand in for a later key that leads to
an entity, and the later one then has a relation only if another key over the same columns to the same
table has one (`Model.RepresentsKeys`).

Which columns a relation stores is known by its properties, since no two columns of an entity have the same
property (`Entity.Stores.columns_eq`).
-/

namespace SchemaScribe

open SchemaScribe.Catalog

/-! ## Columns behind properties -/

theorem Entity.stores_cons {e : Entity} {column property : String} {columns properties : List String} :
    e.Stores (column :: columns) (property :: properties) ↔
      (∃ x, e.column? column = some x ∧ x.property = property) ∧ e.Stores columns properties := by
  unfold Entity.Stores
  rw [List.map_cons, List.map_cons, List.cons.injEq, Option.map_eq_some_iff]

/-- A column that is found is a column of this name. -/
theorem Entity.mem_of_column? {e : Entity} {column : String} {x : EntityColumn}
    (h : e.column? column = some x) : x ∈ e.columns ∧ x.name = column := by
  unfold Entity.column? at h
  exact ⟨List.mem_of_find?_eq_some h, by simpa only [decide_eq_true_eq] using List.find?_some h⟩

/-- Properties are those of one list of columns only, where no two columns have the same. -/
theorem Entity.Stores.columns_eq {e : Entity} (he : (e.columns.map (·.property)).Nodup)
    {columns columns' properties : List String} (h : e.Stores columns properties)
    (h' : e.Stores columns' properties) : columns = columns' := by
  have hlength : ∀ {cs : List String}, e.Stores cs properties → cs.length = properties.length := by
    intro cs hcs
    simpa only [List.length_map] using congrArg List.length hcs
  induction properties generalizing columns columns' with
  | nil =>
    rw [List.length_eq_zero_iff.mp (hlength h), List.length_eq_zero_iff.mp (hlength h')]
  | cons property rest ih =>
    obtain ⟨c, cs, rfl⟩ := List.exists_cons_of_length_eq_add_one (hlength h)
    obtain ⟨c', cs', rfl⟩ := List.exists_cons_of_length_eq_add_one (hlength h')
    obtain ⟨⟨x, hx, hproperty⟩, hcs⟩ := Entity.stores_cons.mp h
    obtain ⟨⟨x', hx', hproperty'⟩, hcs'⟩ := Entity.stores_cons.mp h'
    obtain ⟨hmem, rfl⟩ := Entity.mem_of_column? hx
    obtain ⟨hmem', rfl⟩ := Entity.mem_of_column? hx'
    have hsame : x = x' := List.inj_on_of_nodup_map he hmem hmem' (hproperty.trans hproperty'.symm)
    rw [hsame, ih hcs hcs' fun h => by simpa only [List.length_map] using congrArg List.length h]

/-! ## Relations that stand for keys -/

/-- **A relation that stands for columns of its holder**: it owns their constraint, stores their properties
and leads to the target. -/
structure Relation.StandsFor (r : Relation) (holder target : Entity) (columns : List String) : Prop where
  owning : r.owning = true
  target : r.target = target.name
  columns : holder.Stores columns r.fkProperties

/-- **Which keys of a model's entities have a relation**: of those that lead to an entity, the keys over
whose columns some key that leads to it is the first of its signature. -/
def Model.RepresentsKeys (s : Snapshot) (m : Model) : Prop :=
  ∀ e ∈ m.entities, ∀ t ∈ s.tables, e.table = t.name → ∀ k ∈ t.foreignKeys,
    k.leaves s.schema = false → ∀ target ∈ m.entities, target.table = k.referredTable →
      ((∃ r ∈ e.relations, r.StandsFor e target k.columns) ↔
        ∃ k' ∈ t.foreignKeys, k'.columns = k.columns ∧ k'.referredTable = k.referredTable ∧
          k'.leaves s.schema = false ∧
          t.foreignKeys.find? (fun x => x.signature = k'.signature) = some k')

namespace Built

variable {o : Options} {s : Snapshot} (b : Built o s)

/-- A key stays with a draft if it does not leave the schema and refers to the table of the draft. -/
theorem targetDraft?_of_leaves {k : ForeignKey} (hleaves : k.leaves s.schema = false) {d : Draft}
    (hd : d ∈ b.drafts) (hname : d.table.name = k.referredTable) :
    targetDraft? s.schema b.drafts k = some d := by
  unfold targetDraft? draft?
  rw [hleaves, if_neg Bool.false_ne_true, ← hname]
  exact find?_key_eq_some (f := fun d : Draft => d.table.name) b.tables_nodup hd

/-- A distinct key that leads to a draft has a relation that stands for it. -/
theorem exists_standsFor (hs : s.Referring) {d target : Draft} (hd : d ∈ b.drafts) {k : ForeignKey}
    (hk : k ∈ d.table.distinctKeys) (htarget : targetDraft? s.schema b.drafts k = some target) :
    ∃ r ∈ (b.entity d).relations, r.StandsFor (b.entity d) (b.entity target) k.columns := by
  have hl : keyLink d target k ∈ b.links := by
    refine List.mem_append_left _ ?_
    rw [keyLinks_eq_ok b.fromKeys_eq]
    exact mem_linksOf_traceKeys.mpr ⟨d, hd, k, hk, target, htarget, rfl⟩
  obtain ⟨i, hi⟩ := List.mem_iff_getElem?.mp hl
  let p : Endpoint := ⟨i, .owning, keyLink d target k⟩
  have hp : p ∈ endpoints b.links d.table.name := mem_endpoints.mpr ⟨hi, rfl⟩
  refine ⟨p.relation b.names, List.mem_map_of_mem hp, rfl, rfl, ?_⟩
  exact b.entity_stores hd (hs.own d.table (b.table_mem hd) k (mem_of_mem_distinctKeys hk))

/-- A relation that stands for columns is that of a key over these columns. -/
theorem exists_key_of_standsFor (hs : s.Referring) {d target : Draft} (hd : d ∈ b.drafts)
    (htarget : target ∈ b.drafts) {columns : List String} (hcolumns : columns ≠ []) {r : Relation}
    (hr : r ∈ (b.entity d).relations) (h : r.StandsFor (b.entity d) (b.entity target) columns) :
    ∃ k ∈ d.table.distinctKeys, k.columns = columns ∧ targetDraft? s.schema b.drafts k = some target := by
  obtain ⟨p, hp, rfl⟩ := List.mem_map.mp hr
  -- a relation of a junction stores no properties, so it stands for no columns
  have hkind : (p.relation b.names).kind ≠ .manyToMany := by
    intro hkind
    have hjoined := (p.link.basis.joinTable_isSome_iff p.side).mpr hkind
    have hstored : (b.entity d).Stores columns p.link.basis.properties := h.columns
    cases hbasis : p.link.basis with
    | key exclusive nullable properties referred =>
      rw [hbasis] at hjoined
      cases hjoined
    | junction table schema toOwner toOther =>
      rw [hbasis] at hstored
      exact hcolumns (List.map_eq_nil_iff.mp hstored)
  obtain ⟨k, hk, target', htarget', hlink⟩ := b.exists_key_of_owning hd hp h.owning hkind
  have hside : p.side = .owning := of_decide_eq_true h.owning
  have hown := hs.own d.table (b.table_mem hd) k (mem_of_mem_distinctKeys hk)
  have hstored := h.columns
  have hleads := h.target
  unfold Endpoint.relation at hstored hleads
  rw [hlink] at hstored hleads
  rw [hside] at hleads
  refine ⟨k, hk, ?_, ?_⟩
  · exact Entity.Stores.columns_eq (b.columns_nodup hd) (b.entity_stores hd hown) hstored
  · have hmem := (targetDraft?_eq_some htarget').2.1
    rw [htarget', List.inj_on_of_nodup_map b.entities_nodup hmem htarget hleads]

end Built

/-! ## The law -/

/-- **A model built of a prepared catalog represents its keys**, except for those that another key with the same
signature stands in for. For every key that leads to an entity it is decided whether a relation stores its
columns and leads there. Keys that leave the schema have no relation, and nothing is said of them. -/
theorem buildModel_representsKeys {p : Option Options} {o : Options} {s s' : Snapshot} {m : Model}
    (hprepared : (s.prepare p).outcome = .ok s') (h : buildModel o s' = .ok m) :
    m.RepresentsKeys s' := by
  have hs := referring_of_prepare hprepared
  obtain ⟨b, hentities⟩ := exists_built h
  unfold Model.RepresentsKeys
  rw [hentities]
  intro e he t ht hname k hk hleaves target htarget htable
  obtain ⟨d, hd, rfl⟩ := List.mem_map.mp he
  obtain ⟨dt, hdt, rfl⟩ := List.mem_map.mp htarget
  have hsame : d.table = t := List.inj_on_of_nodup_map hs.names (b.table_mem hd) ht hname
  subst hsame
  constructor
  · rintro ⟨r, hr, hstands⟩
    obtain ⟨k', hk', hcolumns, hlead⟩ :=
      b.exists_key_of_standsFor hs hd hdt k.columns_ne hr hstands
    obtain ⟨hleaves', _, hname'⟩ := targetDraft?_eq_some hlead
    exact ⟨k', mem_of_mem_distinctKeys hk', hcolumns, hname'.symm.trans htable, hleaves',
      mem_distinctKeys_iff.mp hk'⟩
  · rintro ⟨k', _, hcolumns, hreferred, hleaves', hfirst⟩
    have hlead := b.targetDraft?_of_leaves hleaves' hdt (htable.trans hreferred.symm)
    obtain ⟨r, hr, hstands⟩ :=
      b.exists_standsFor hs hd (mem_distinctKeys_iff.mpr hfirst) hlead
    exact ⟨r, hr, hcolumns ▸ hstands⟩

/-- So does a model with two keys to an entity, the first of which has no relation, since a key into another
schema stands in front of it. -/
theorem buildModel_representsKeys_market :
    ∃ m, (market.prepare (some {})).outcome.toOption = some market ∧ buildModel {} market = .ok m ∧
      m.entities.map (fun e => e.relations.map (·.fkProperties)) =
        [[["buyer_id"]], [[]], [["buyer_id"], []]] ∧ m.RepresentsKeys market := by
  obtain ⟨m, hm, htest⟩ := exists_ok_of_any (x := buildModel {} market)
    (p := fun m => m.entities.map (fun e => e.relations.map (·.fkProperties)) =
      [[["buyer_id"]], [[]], [["buyer_id"], []]])
    (by decide +kernel)
  have hprepared : (market.prepare (some {})).outcome.toOption = some market := by decide +kernel
  refine ⟨m, hprepared, hm, of_decide_eq_true htest, ?_⟩
  exact buildModel_representsKeys (toOption_eq_some.mp hprepared) hm

end SchemaScribe
