import SchemaScribe.Proofs.Model.Built

/-!
# Relations come in pairs

Both ends of a link become relations, and each reads the name of the other off the same table of names.
So the relation at an end and the relation at its partner mirror each other (`Relation.Mirrors`), also
where both stand in one entity. Which entity holds the partner is known by the name of the target, since
entities have distinct names, and which of its relations it is by the inverse name, since the relations
of an entity have distinct names.
-/

namespace SchemaScribe

open SchemaScribe.Catalog

/-- **Two relations that mirror each other**: each names the other, exactly one of them owns their
constraint, and what one has toward its holder the other has toward its target. -/
structure Relation.Mirrors (r r' : Relation) : Prop where
  named : r.inverseName = some r'.name
  namedBack : r'.inverseName = some r.name
  constraintKey : r'.constraintKey = r.constraintKey
  owning : r'.owning = !r.owning
  kind : r'.kind = r.kind.inverse
  joinTable : r'.joinTable = r.joinTable
  joinColumns : r'.joinColumns = r.inverseJoinColumns
  inverseJoinColumns : r'.inverseJoinColumns = r.joinColumns

/-! ## Partners -/

/-- The end at the other side of the link. -/
def Endpoint.partner (p : Endpoint) : Endpoint := { p with side := p.side.opposite }

@[simp] theorem Side.opposite_opposite : ∀ side : Side, side.opposite.opposite = side
  | .owning => rfl
  | .inverse => rfl

theorem Basis.kind_opposite : ∀ (b : Basis) (side : Side), b.kind side.opposite = (b.kind side).inverse
  | .key true _ _ _, _ => rfl
  | .key false _ _ _, .owning => rfl
  | .key false _ _ _, .inverse => rfl
  | .junction _ _ _ _, _ => rfl

/-- The relations at the ends of one link mirror each other, once both ends are named. -/
theorem Endpoint.mirrors {names : EndNames} {p : Endpoint} {name name' : String}
    (h : Document.entryAt? p.key names = some name)
    (h' : Document.entryAt? p.partner.key names = some name') :
    (p.relation names).Mirrors (p.partner.relation names) where
  named := by
    rw [relation_name h']
    exact h'
  namedBack := by
    rw [relation_name h]
    show Document.entryAt? (p.index, p.side.opposite.opposite) names = some name
    rw [Side.opposite_opposite]
    exact h
  constraintKey := rfl
  owning := by
    show decide (p.side.opposite = .owning) = !decide (p.side = .owning)
    cases p.side <;> rfl
  kind := p.link.basis.kind_opposite p.side
  joinTable := rfl
  joinColumns := rfl
  inverseJoinColumns := by
    show p.link.basis.joinColumns p.side.opposite.opposite = p.link.basis.joinColumns p.side
    rw [Side.opposite_opposite]

/-- Relations that mirror each other differ, for one of them owns the constraint. -/
theorem Relation.Mirrors.ne {r r' : Relation} (h : r.Mirrors r') : r' ≠ r := by
  intro heq
  have howning := h.owning
  rw [heq] at howning
  exact (Bool.eq_not_self r.owning).mp howning

/-! ## Holders of ends -/

namespace Built

variable {o : Options} {s : Snapshot} (b : Built o s)

/-- The end of a link of the run is at one draft, whose entity it bears. -/
theorem endpoint_entity {d : Draft} (hd : d ∈ b.drafts) {p : Endpoint}
    (hp : p ∈ endpoints b.links d.table.name) : (p.link.endAt p.side).entity = d.entity := by
  obtain ⟨hlink, htable⟩ := mem_endpoints.mp hp
  obtain ⟨d', hd', htable', hentity⟩ := b.links_attached p.link (List.mem_of_getElem? hlink) p.side
  rw [b.eq_of_table hd hd' (htable.symm.trans htable')]
  exact hentity

/-- The partner of an end is at a draft too. -/
theorem exists_partner {table : String} {p : Endpoint} (hp : p ∈ endpoints b.links table) :
    ∃ d ∈ b.drafts, p.partner ∈ endpoints b.links d.table.name := by
  obtain ⟨hlink, _⟩ := mem_endpoints.mp hp
  obtain ⟨d, hd, htable, _⟩ :=
    b.links_attached p.link (List.mem_of_getElem? hlink) p.side.opposite
  exact ⟨d, hd, mem_endpoints.mpr ⟨hlink, htable⟩⟩

/-- The relation at an end of a draft mirrors that at its partner. -/
theorem mirrors_partner {d d' : Draft} (hd : d ∈ b.drafts) (hd' : d' ∈ b.drafts) {p : Endpoint}
    (hp : p ∈ endpoints b.links d.table.name) (hp' : p.partner ∈ endpoints b.links d'.table.name) :
    (p.relation b.names).Mirrors (p.partner.relation b.names) := by
  obtain ⟨_, hname⟩ := (b.ends_named hd).1 p hp
  obtain ⟨_, hname'⟩ := (b.ends_named hd').1 p.partner hp'
  exact p.mirrors hname hname'

theorem relations_nodup {d : Draft} (hd : d ∈ b.drafts) :
    ((b.entity d).relations.map (·.name)).Nodup :=
  (List.nodup_append.mp (b.ends_named hd).2.nodup).2.1

/-- The target of a relation is the entity of a draft. -/
theorem exists_target {d : Draft} {r : Relation} (hr : r ∈ (b.entity d).relations) :
    ∃ d' ∈ b.drafts, (b.entity d').name = r.target := by
  obtain ⟨p, hp, rfl⟩ := List.mem_map.mp hr
  obtain ⟨d', hd', hp'⟩ := b.exists_partner hp
  exact ⟨d', hd', (b.endpoint_entity hd' hp').symm⟩

end Built

/-! ## The law -/

/-- **The relations of a model come in pairs**: the target of each names one entity, its inverse name names
one relation of that entity, and this is another relation, which leads back and mirrors the first. -/
def Model.Paired (m : Model) : Prop :=
  ∀ e ∈ m.entities, ∀ r ∈ e.relations, ∃ e' r',
    m.entities.filter (·.name = r.target) = [e'] ∧
    e'.relations.filter (fun x => some x.name = r.inverseName) = [r'] ∧
    r' ≠ r ∧ r'.target = e.name ∧ r.Mirrors r'

/-- **The relations of a built model come in pairs.** Every relation leads to one entity, which has one relation
under its inverse name, another than itself, and that one leads back and mirrors it. The catalog need not have
been checked. Which relations there are is left open. -/
theorem relations_paired {o : Options} {s : Snapshot} {m : Model} (h : buildModel o s = .ok m) :
    m.Paired := by
  obtain ⟨b, hentities⟩ := exists_built h
  unfold Model.Paired
  rw [hentities]
  intro e he r hr
  obtain ⟨d, hd, rfl⟩ := List.mem_map.mp he
  obtain ⟨p, hp, rfl⟩ := List.mem_map.mp hr
  obtain ⟨d', hd', hp'⟩ := b.exists_partner hp
  have hmirrors := b.mirrors_partner hd hd' hp hp'
  refine ⟨b.entity d', p.partner.relation b.names, ?_, ?_, hmirrors.ne, ?_, hmirrors⟩
  · have htarget : (p.relation b.names).target = (b.entity d').name := b.endpoint_entity hd' hp'
    rw [htarget]
    refine filter_key_eq_singleton (f := Entity.name) ?_ (List.mem_map_of_mem hd')
    rw [List.map_map]
    exact b.entities_nodup
  · rw [hmirrors.named]
    simp only [Option.some.injEq]
    exact filter_key_eq_singleton (f := Relation.name) (b.relations_nodup hd')
      (List.mem_map_of_mem hp')
  · show (p.link.endAt p.side.opposite.opposite).entity = d.entity
    rw [Side.opposite_opposite]
    exact b.endpoint_entity hd hp

/-- So do the six relations of a small model, both ends of two links among them at one entity. -/
theorem relations_paired_staff :
    ∃ m, buildModel {} staff = .ok m ∧ m.relationCount = 6 ∧ m.Paired := by
  obtain ⟨m, hm, _, _, hcount⟩ := exists_staffModel
  exact ⟨m, hm, hcount, relations_paired hm⟩

end SchemaScribe
