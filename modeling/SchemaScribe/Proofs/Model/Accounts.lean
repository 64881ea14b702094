import Mathlib.Data.List.Forall2
import SchemaScribe.Proofs.Model.Closure
import SchemaScribe.Proofs.Model.Failures
import SchemaScribe.Proofs.Model.Pairing
import SchemaScribe.Proofs.Model.Warnings

/-!
# Building loses nothing and invents nothing

Every table of a catalog whose table names differ becomes an entity or a junction, in order. A model has no
relations but those that come in pairs from somewhere (`Origin`): a distinct key that leads to an entity, or
a junction. Each origin has one pair, each distinct key that leads nowhere one warning
(`Model.Accounts`), so relations can be counted from the catalog.

The ends of links are spread over the drafts by their tables. Since every end is at the table of one draft,
putting the ends at all drafts together again gives the ends of all links (`endpoints_perm`).
-/

namespace SchemaScribe

open SchemaScribe.Catalog

/-! ## Origins of relations -/

/-- What a pair of relations comes from: a key of a table that becomes an entity, or a junction. -/
inductive Origin where
  | key (table : Table) (key : ForeignKey)
  | junction (junction : Junction)

/-- The keys of the tables that become entities, without those that repeat an earlier one of their table. -/
def Catalog.Snapshot.entityKeys (s : Snapshot) : List (Table × ForeignKey) :=
  (s.tables.filter fun t => (junction? s t).isNone).flatMap fun t => t.distinctKeys.map (t, ·)

/-- Whether a key leads to an entity. -/
def Model.reaches (m : Model) (schema : Option String) (k : ForeignKey) : Bool :=
  !k.leaves schema && m.entities.any (·.table = k.referredTable)

/-- The keys that lead to an entity, and the junctions. -/
def Model.origins (m : Model) (s : Snapshot) : List Origin :=
  ((s.entityKeys.filter fun x => m.reaches s.schema x.2).map fun x => .key x.1 x.2) ++
    (junctions s).map .junction

/-- The keys that lead to no entity, as they are remarked on. -/
def Model.droppedKeys (m : Model) (s : Snapshot) : List DroppedKey :=
  (s.entityKeys.filter fun x => !m.reaches s.schema x.2).map fun x =>
    ⟨x.1.name, x.2, x.2.leaves s.schema⟩

/-- The relations of all entities. -/
def Model.relations (m : Model) : List Relation := m.entities.flatMap (·.relations)

/-- **A pair of relations between two entities**, of which the first owns their constraint. -/
structure Spans (e target : Entity) (r r' : Relation) : Prop where
  holder : r.entity = e.name
  toward : r.target = target.name
  holderBack : r'.entity = target.name
  towardBack : r'.target = e.name
  owning : r.owning = true
  mirrors : r.Mirrors r'

/-- **What a pair of relations has from where it comes**: a key is stored in its table's entity and leads to
the entity of the table it refers to; a junction joins the entities of the tables that its keys refer to. -/
def Model.Yields (m : Model) : Origin → Relation × Relation → Prop
  | .key t k, (r, r') => ∃ e ∈ m.entities, ∃ target ∈ m.entities, e.table = t.name ∧
      target.table = k.referredTable ∧ Spans e target r r' ∧ r.kind ≠ .manyToMany ∧ r.Backed e k
  | .junction j, (r, r') => ∃ e ∈ m.entities, ∃ target ∈ m.entities,
      e.table = j.first.referredTable ∧ target.table = j.second.referredTable ∧ Spans e target r r' ∧
      r.kind = .manyToMany ∧ r.joinTable = some j.table.name ∧ r.joinColumns = j.first.pairs ∧
      r.inverseJoinColumns = j.second.pairs

/-- **A model that accounts for its catalog**: its tables are entities or junctions, its relations are one
pair for each origin, and each key without a pair has a warning. -/
structure Model.Accounts (s : Snapshot) (m : Model) : Prop where
  entities : m.entities.map (·.table) =
    (s.tables.filter fun t => (junction? s t).isNone).map (·.name)
  junctions : m.junctionTables.Perm
    ((s.tables.filter fun t => (junction? s t).isSome).map (·.name))
  relations : ∃ pairs, List.Forall₂ m.Yields (m.origins s) pairs ∧
    m.relations.Perm (pairs.flatMap fun p => [p.1, p.2])
  holders : ∀ e ∈ m.entities, ∀ r ∈ e.relations, r.entity = e.name
  warnings : ∃ others : List Oddity, (∀ x ∈ others, ∀ d, x ≠ .dropped d) ∧
    m.warnings = (others ++ (m.droppedKeys s).map Oddity.dropped).map Oddity.message
  count : m.relationCount =
    2 * (s.entityKeys.filter fun x => m.reaches s.schema x.2).length + 2 * m.junctionTables.length

/-! ## Ends of all links -/

/-- Both ends of links, link by link and the owning end first. -/
def allEndpoints (links : List Link) : List Endpoint :=
  links.zipIdx.flatMap fun p => [.owning, .inverse].map fun side => ⟨p.2, side, p.1⟩

/-- Where an end is. -/
def Endpoint.table (e : Endpoint) : String := (e.link.endAt e.side).table

theorem endpoints_eq_filter (links : List Link) (table : String) :
    endpoints links table = (allEndpoints links).filter fun e => e.table = table := by
  unfold endpoints allEndpoints
  rw [List.filter_flatMap]
  refine List.flatMap_congr fun p _ => ?_
  rw [List.filter_map]
  rfl

theorem mem_allEndpoints {links : List Link} {e : Endpoint} (h : e ∈ allEndpoints links) :
    e.link ∈ links := by
  obtain ⟨p, hp, he⟩ := List.mem_flatMap.mp h
  obtain ⟨side, _, rfl⟩ := List.mem_map.mp he
  exact (List.mem_zipIdx' hp).2 ▸ List.getElem_mem _

/-! ## Traced keys -/

/-- A dropped key is one whose target has no draft. -/
theorem droppedOf_map_traceKey {schema : Option String} {drafts : List Draft}
    (keys : List (Draft × ForeignKey)) :
    droppedOf (keys.map fun x => traceKey schema drafts x.1 x.2) =
      (keys.filter fun x => (targetDraft? schema drafts x.2).isNone).map fun x =>
        ⟨x.1.table.name, x.2, x.2.leaves schema⟩ := by
  unfold droppedOf
  induction keys with
  | nil => rfl
  | cons x rest ih =>
    rw [List.map_cons, List.filterMap_cons, traceKey]
    cases htarget : targetDraft? schema drafts x.2 with
    | none => simp [htarget, ih]
    | some target => simp [htarget, ih]

/-- The links of keys are those of the keys whose target has a draft, in order. -/
theorem linksOf_map_traceKey (schema : Option String) (drafts : List Draft)
    (keys : List (Draft × ForeignKey)) :
    List.Forall₂ (fun x link => ∃ target, targetDraft? schema drafts x.2 = some target ∧
        link = keyLink x.1 target x.2)
      (keys.filter fun x => (targetDraft? schema drafts x.2).isSome)
      (linksOf (keys.map fun x => traceKey schema drafts x.1 x.2)) := by
  unfold linksOf
  induction keys with
  | nil => exact .nil
  | cons x rest ih =>
    rw [List.map_cons, List.filterMap_cons, traceKey]
    cases htarget : targetDraft? schema drafts x.2 with
    | none =>
      rw [List.filter_cons_of_neg (by simp [htarget])]
      exact ih
    | some target =>
      rw [List.filter_cons_of_pos (by simp [htarget])]
      exact .cons ⟨target, htarget, rfl⟩ ih

namespace Built

variable {o : Options} {s : Snapshot} (b : Built o s)

/-! ## Tables and keys of the drafts -/

/-- Where table names differ, the drafts are of the tables that are no junctions, in order. -/
theorem drafts_tables (hs : s.tableNames.Nodup) :
    b.drafts.map (·.table) = s.tables.filter fun t => (junction? s t).isNone := by
  have hentities := entityTables_eq hs
  have hnamed : b.named.map (·.table) = entityTables s := by
    refine nameTables_tables ?_ b.named_eq
    rw [List.map_nil, List.nil_append, hentities]
    exact (List.filter_sublist.map _).nodup hs
  rw [← hentities, ← hnamed, ← b.drafts_named.1, List.map_map]
  rfl

/-- The keys of all drafts, each beside its draft. -/
def keys : List (Draft × ForeignKey) := b.drafts.flatMap fun d => d.table.distinctKeys.map (d, ·)

theorem entityKeys_eq (hs : s.tableNames.Nodup) :
    s.entityKeys = b.keys.map fun x => (x.1.table, x.2) := by
  unfold Snapshot.entityKeys keys
  rw [← b.drafts_tables hs, List.flatMap_map, List.map_flatMap]
  simp only [List.map_map]
  rfl

theorem traceKeys_eq :
    traceKeys s.schema b.drafts = b.keys.map fun x => traceKey s.schema b.drafts x.1 x.2 := by
  unfold traceKeys keys
  rw [List.map_flatMap]
  simp only [List.map_map]
  rfl

/-- A key leads to an entity if and only if its target has a draft. -/
theorem reaches_eq {m : Model} (hentities : m.entities = b.drafts.map b.entity) (k : ForeignKey) :
    m.reaches s.schema k = (targetDraft? s.schema b.drafts k).isSome := by
  unfold Model.reaches targetDraft?
  cases k.leaves s.schema with
  | true => rfl
  | false =>
    rw [if_neg Bool.false_ne_true, Bool.not_false, Bool.true_and, Bool.eq_iff_iff, draft?_isSome_iff,
      hentities]
    simp only [List.any_map, List.any_eq_true, Function.comp_apply, decide_eq_true_eq, List.mem_map]
    rfl

theorem filter_reaches (hs : s.tableNames.Nodup) {m : Model}
    (hentities : m.entities = b.drafts.map b.entity) (p : Bool → Bool) :
    (s.entityKeys.filter fun x => p (m.reaches s.schema x.2)) =
      (b.keys.filter fun x => p (targetDraft? s.schema b.drafts x.2).isSome).map fun x =>
        (x.1.table, x.2) := by
  rw [b.entityKeys_eq hs, List.filter_map]
  simp only [Function.comp_def, b.reaches_eq hentities]

theorem droppedKeys_eq (hs : s.tableNames.Nodup) {m : Model}
    (hentities : m.entities = b.drafts.map b.entity) :
    m.droppedKeys s = droppedOf (traceKeys s.schema b.drafts) := by
  unfold Model.droppedKeys
  rw [b.filter_reaches hs hentities not, List.map_map, b.traceKeys_eq, droppedOf_map_traceKey]
  simp only [Option.not_isSome]
  rfl

/-! ## Where links come from -/

/-- What a link comes from. -/
def Comes : Origin → Link → Prop
  | .key t k, l => ∃ d ∈ b.drafts, d.table = t ∧ k ∈ t.distinctKeys ∧ ∃ target,
      targetDraft? s.schema b.drafts k = some target ∧ l = keyLink d target k
  | .junction j, l => joinLink b.drafts j = .ok l

theorem mem_keys {x : Draft × ForeignKey} :
    x ∈ b.keys ↔ x.1 ∈ b.drafts ∧ x.2 ∈ x.1.table.distinctKeys := by
  obtain ⟨d, k⟩ := x
  unfold keys
  simp only [List.mem_flatMap, List.mem_map, Prod.mk.injEq]
  constructor
  · rintro ⟨_, hd, _, hk, rfl, rfl⟩
    exact ⟨hd, hk⟩
  · rintro ⟨hd, hk⟩
    exact ⟨d, hd, k, hk, rfl, rfl⟩

/-- Every link comes from one origin, in the order of the origins. -/
theorem links_come (hs : s.tableNames.Nodup) {m : Model}
    (hentities : m.entities = b.drafts.map b.entity) :
    List.Forall₂ b.Comes (m.origins s) b.links := by
  have hfromKeys := linksOf_map_traceKey s.schema b.drafts b.keys
  rw [← b.traceKeys_eq, ← keyLinks_eq_ok b.fromKeys_eq] at hfromKeys
  refine List.rel_append ?_ ?_
  · have hkeys := b.filter_reaches hs hentities id
    simp only [id_eq] at hkeys
    rw [hkeys, List.map_map, List.forall₂_map_left_iff]
    have hmem : ∀ x ∈ b.keys.filter fun x => (targetDraft? s.schema b.drafts x.2).isSome,
        x ∈ b.keys := fun x hx => (List.mem_filter.mp hx).1
    refine ((List.forall₂_and_left _ _).mpr ⟨hmem, hfromKeys⟩).imp ?_
    rintro x link ⟨hx, target, htarget, rfl⟩
    obtain ⟨hd, hk⟩ := b.mem_keys.mp hx
    exact ⟨x.1, hd, rfl, hk, target, htarget, rfl⟩
  · rw [List.forall₂_map_left_iff]
    exact joinLinks_eq_ok b.fromJunctions_eq

/-! ## Pairs of relations -/

/-- The relations at both ends of a link, known by its place among all links. -/
def pairAt (p : Link × Nat) : Relation × Relation :=
  (Endpoint.relation b.names ⟨p.2, .owning, p.1⟩, Endpoint.relation b.names ⟨p.2, .inverse, p.1⟩)

/-- The pairs of relations of all links. -/
def pairs : List (Relation × Relation) := b.links.zipIdx.map b.pairAt

/-- The relations at the ends of a link span the entities there. -/
theorem spans {p : Link × Nat} (hp : p ∈ b.links.zipIdx) {d target : Draft} (hd : d ∈ b.drafts)
    (htarget : target ∈ b.drafts) (hat : p.1.owner.table = d.table.name)
    (hat' : p.1.other.table = target.table.name) :
    Spans (b.entity d) (b.entity target) (b.pairAt p).1 (b.pairAt p).2 := by
  have hlink : b.links[p.2]? = some p.1 := List.mk_mem_zipIdx_iff_getElem?.mp hp
  have howner : (⟨p.2, .owning, p.1⟩ : Endpoint) ∈ endpoints b.links d.table.name :=
    mem_endpoints.mpr ⟨hlink, hat⟩
  have hother : (⟨p.2, .inverse, p.1⟩ : Endpoint) ∈ endpoints b.links target.table.name :=
    mem_endpoints.mpr ⟨hlink, hat'⟩
  have hentity := b.endpoint_entity hd howner
  have hentity' := b.endpoint_entity htarget hother
  exact ⟨hentity, hentity', hentity', hentity, rfl, b.mirrors_partner hd htarget howner hother⟩

theorem yields_of_keyLink (hs : s.Referring) {m : Model} (hentities : m.entities = b.drafts.map b.entity)
    {p : Link × Nat} (hp : p ∈ b.links.zipIdx) {d target : Draft} (hd : d ∈ b.drafts) {k : ForeignKey}
    (hk : k ∈ d.table.distinctKeys) (htarget : targetDraft? s.schema b.drafts k = some target)
    (hlink : p.1 = keyLink d target k) : m.Yields (.key d.table k) (b.pairAt p) := by
  obtain ⟨_, hmem, hname⟩ := targetDraft?_eq_some htarget
  refine ⟨b.entity d, b.entity_mem hentities hd, b.entity target, b.entity_mem hentities hmem, rfl, hname,
    b.spans hp hd hmem (by rw [hlink]; rfl) (by rw [hlink]; rfl), fun hkind => ?_,
    b.backed_of_keyLink hs hd hk htarget hlink⟩
  have hjoined := (p.1.basis.joinTable_isSome_iff .owning).mpr hkind
  rw [hlink] at hjoined
  cases hjoined

theorem yields_of_joinLink {m : Model} (hentities : m.entities = b.drafts.map b.entity)
    {p : Link × Nat} (hp : p ∈ b.links.zipIdx) {j : Junction} (hlink : joinLink b.drafts j = .ok p.1) :
    m.Yields (.junction j) (b.pairAt p) := by
  obtain ⟨d, hd, target, htarget, hfirst, hsecond, hat, hat', hbasis⟩ := joinLink_eq_ok hlink
  refine ⟨b.entity d, b.entity_mem hentities hd, b.entity target, b.entity_mem hentities htarget,
    hfirst, hsecond, b.spans hp hd htarget (Prod.mk.inj hat).1 (Prod.mk.inj hat').1, ?_, ?_, ?_, ?_⟩
  · show p.1.basis.kind .owning = _
    rw [hbasis]
    rfl
  · show p.1.basis.joinTable = _
    rw [hbasis]
    rfl
  · show p.1.basis.joinColumns .owning = _
    rw [hbasis]
    rfl
  · show p.1.basis.joinColumns .inverse = _
    rw [hbasis]
    rfl

/-- Every origin yields the pair of its link. -/
theorem pairs_yielded (hs : s.Referring) {m : Model} (hentities : m.entities = b.drafts.map b.entity) :
    List.Forall₂ m.Yields (m.origins s) b.pairs := by
  have hcome := b.links_come hs.names hentities
  rw [← List.zipIdx_map_fst 0 b.links, List.forall₂_map_right_iff] at hcome
  unfold pairs
  rw [List.forall₂_map_right_iff]
  refine (((List.forall₂_and_left _ _).mpr ⟨fun _ hp => hp, hcome.flip⟩).flip).imp ?_
  rintro origin p ⟨hp, horigin⟩
  cases origin with
  | key t k =>
    obtain ⟨d, hd, rfl, hk, target, htarget, hlink⟩ := horigin
    exact b.yields_of_keyLink hs hentities hp hd hk htarget hlink
  | junction j => exact b.yields_of_joinLink hentities hp horigin

/-- The ends at all drafts are the ends of all links. -/
theorem endpoints_perm :
    (b.drafts.flatMap fun d => endpoints b.links d.table.name).Perm (allEndpoints b.links) := by
  have hat : ∀ e ∈ allEndpoints b.links, e.table ∈ b.drafts.map (·.table.name) := by
    intro e he
    obtain ⟨d, hd, htable, _⟩ := b.links_attached e.link (mem_allEndpoints he) e.side
    exact List.mem_map.mpr ⟨d, hd, htable.symm⟩
  have hgrouped := flatMap_filter_perm b.tables_nodup hat
  rw [List.flatMap_map] at hgrouped
  simpa only [endpoints_eq_filter] using hgrouped

/-- The relations of a model are those of the pairs. -/
theorem relations_perm {m : Model} (hentities : m.entities = b.drafts.map b.entity) :
    m.relations.Perm (b.pairs.flatMap fun p => [p.1, p.2]) := by
  have hends := b.endpoints_perm.map (Endpoint.relation b.names)
  have hleft : m.relations =
      (b.drafts.flatMap fun d => endpoints b.links d.table.name).map (Endpoint.relation b.names) := by
    unfold Model.relations
    rw [hentities, List.flatMap_map, List.map_flatMap]
    rfl
  have hright : (allEndpoints b.links).map (Endpoint.relation b.names) =
      b.pairs.flatMap fun p => [p.1, p.2] := by
    unfold allEndpoints pairs
    rw [List.map_flatMap, List.flatMap_map]
    rfl
  rw [hleft, ← hright]
  exact hends

end Built

/-! ## The law -/

theorem Model.relationCount_eq (m : Model) : m.relationCount = m.relations.length := by
  unfold Model.relationCount Model.relations
  rw [List.length_flatMap]
  rfl

theorem junctionTables_perm {o : Options} {s : Snapshot} {m : Model} (hs : s.tableNames.Nodup)
    (h : buildModel o s = .ok m) :
    m.junctionTables.Perm ((s.tables.filter fun t => (junction? s t).isSome).map (·.name)) := by
  rw [junctionTables_eq h, junctions_names]
  unfold sortedNames
  have hdistinct : ((s.tables.filter fun t => (junction? s t).isSome).map (·.name)).Nodup :=
    (List.filter_sublist.map _).nodup hs
  refine (List.mergeSort_perm _ _).trans ?_
  exact (List.perm_ext_iff_of_nodup (nodup_eraseDups _) hdistinct).mpr fun _ => List.mem_eraseDups

theorem flatMap_pair_length {α : Type u} (pairs : List (α × α)) :
    (pairs.flatMap fun p => [p.1, p.2]).length = 2 * pairs.length := by
  induction pairs with
  | nil => rfl
  | cons p rest ih =>
    simp only [List.flatMap_cons, List.length_append, List.length_cons, List.length_nil, ih]
    omega

/-- A model has two relations for each of its origins. -/
theorem Built.relationCount_eq {o : Options} {s : Snapshot} (b : Built o s) (hs : s.Referring)
    {m : Model} (hentities : m.entities = b.drafts.map b.entity) :
    m.relationCount = 2 * (m.origins s).length := by
  rw [m.relationCount_eq, (b.relations_perm hentities).length_eq, flatMap_pair_length,
    (b.pairs_yielded hs hentities).length_eq]

/-- **A model built of a prepared catalog accounts for it.** Every table is an entity or a junction, every key
that leads to an entity and every junction has one pair of relations, and there are no other relations. The keys
without a pair are warned of, in order, behind all other warnings; these others are left open. -/
theorem buildModel_accounts {p : Option Options} {o : Options} {s s' : Snapshot} {m : Model}
    (hprepared : (s.prepare p).outcome = .ok s') (h : buildModel o s' = .ok m) : m.Accounts s' := by
  have hs := referring_of_prepare hprepared
  obtain ⟨b, hentities⟩ := exists_built h
  have hjunctions := junctionTables_perm hs.names h
  refine ⟨?_, hjunctions, ⟨b.pairs, b.pairs_yielded hs hentities, b.relations_perm hentities⟩,
    ?_, ?_, ?_⟩
  · rw [hentities, ← b.drafts_tables hs.names, List.map_map, List.map_map]
    rfl
  · intro e he r hr
    rw [hentities] at he
    obtain ⟨d, hd, rfl⟩ := List.mem_map.mp he
    obtain ⟨p, hp, rfl⟩ := List.mem_map.mp hr
    exact b.endpoint_entity hd hp
  · obtain ⟨renamed, hrenamed, hnotes⟩ := b.exists_notes
    refine ⟨renamed ++ (b.named.filter (·.table.primaryKey.isEmpty)).map (.keyless ·.table.name),
      fun x hx d => ?_, ?_⟩
    · rcases List.mem_append.mp hx with hx | hx
      · obtain ⟨_, _, _, rfl⟩ := hrenamed x hx
        exact Oddity.noConfusion
      · obtain ⟨_, _, rfl⟩ := List.mem_map.mp hx
        exact Oddity.noConfusion
    · rw [warnings_eq h, hnotes, b.droppedKeys_eq hs.names hentities]
  · rw [b.relationCount_eq hs hentities, hjunctions.length_eq, List.length_map, ← junctions_tables]
    unfold Model.origins
    simp only [List.length_append, List.length_map]
    omega

/-- So does a model with one key that leads to an entity, one junction, and one key that leads out of the
schema; each of the two keys hides another one. -/
theorem buildModel_accounts_market :
    ∃ m, (market.prepare (some {})).outcome.toOption = some market ∧ buildModel {} market = .ok m ∧
      m.relationCount = 4 ∧ m.junctionTables = ["basket"] ∧ m.warnings.length = 1 ∧
      (m.droppedKeys market).map (·.key.columns) = [["auditor_id"]] ∧ m.Accounts market := by
  obtain ⟨m, hm, htest⟩ := exists_ok_of_any (x := buildModel {} market)
    (p := fun m => m.relationCount = 4 ∧ m.junctionTables = ["basket"] ∧ m.warnings.length = 1 ∧
      (m.droppedKeys market).map (·.key.columns) = [["auditor_id"]])
    (by decide +kernel)
  obtain ⟨hcount, hjunctions, hwarnings, hdropped⟩ := of_decide_eq_true htest
  have hprepared : (market.prepare (some {})).outcome.toOption = some market := by decide +kernel
  refine ⟨m, hprepared, hm, hcount, hjunctions, hwarnings, hdropped, ?_⟩
  exact buildModel_accounts (toOption_eq_some.mp hprepared) hm

end SchemaScribe
