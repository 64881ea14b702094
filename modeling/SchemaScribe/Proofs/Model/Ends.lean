import Mathlib.Data.List.Forall2
import SchemaScribe.Model.Build
import SchemaScribe.Proofs.Model.Drafts

/-!
# Ends of links and their names

An end of a link is known by its **key**: the place of the link among all links, and its side. At one
table no key occurs twice, and the ends at tables of different names have different keys. So when the
ends of all drafts have been named, draft by draft, every key has one name (`entryAt?_of_mem`), and the
names that the relations of an entity read off for their own ends are the names given in turn at its
draft (`relation_names`). What a relation reads off for the far end is the name of another key; that it
has one follows where the link is attached to drafts at both ends (`Link.Attached`).
-/

namespace SchemaScribe

open SchemaScribe.Catalog SchemaScribe.Document

/-! ## Links are attached to drafts -/

/-- Both ends of a link are at drafts. -/
def Link.Attached (drafts : List Draft) (l : Link) : Prop :=
  ∀ side, ∃ d ∈ drafts, (l.endAt side).table = d.table.name ∧ (l.endAt side).entity = d.entity

theorem mem_of_draft? {drafts : List Draft} {table : String} {d : Draft}
    (h : draft? drafts table = some d) : d ∈ drafts ∧ d.table.name = table := by
  unfold draft? at h
  exact ⟨List.mem_of_find?_eq_some h, by simpa only [decide_eq_true_eq] using List.find?_some h⟩

theorem draft?_of_targetDraft? {schema : Option String} {drafts : List Draft} {k : ForeignKey}
    {d : Draft} (h : targetDraft? schema drafts k = some d) :
    draft? drafts k.referredTable = some d := by
  unfold targetDraft? at h
  split at h
  · cases h
  · exact h

/-- A link among traced keys is that of a key of a draft to a draft. -/
theorem mem_linksOf_traceKeys {schema : Option String} {drafts : List Draft} {l : Link} :
    l ∈ linksOf (traceKeys schema drafts) ↔ ∃ d ∈ drafts, ∃ k ∈ d.table.distinctKeys, ∃ target,
      targetDraft? schema drafts k = some target ∧ l = keyLink d target k := by
  unfold linksOf traceKeys
  simp only [List.mem_filterMap, List.mem_flatMap, List.mem_map]
  constructor
  · rintro ⟨traced, ⟨d, hd, k, hk, rfl⟩, hl⟩
    refine ⟨d, hd, k, hk, ?_⟩
    unfold traceKey at hl
    split at hl
    · next link hok =>
      split at hok
      · next target ht =>
        cases hok
        cases hl
        exact ⟨target, ht, rfl⟩
      · cases hok
    · cases hl
  · rintro ⟨d, hd, k, hk, target, ht, rfl⟩
    exact ⟨.ok (keyLink d target k), ⟨d, hd, k, hk, by rw [traceKey, ht]⟩, rfl⟩

theorem keyLinks_eq_ok {strict : Bool} {schema : Option String} {drafts : List Draft}
    {links : List Link} (h : (keyLinks strict schema drafts).outcome = .ok links) :
    links = linksOf (traceKeys schema drafts) := by
  unfold keyLinks at h
  dsimp only at h
  split at h
  · cases h
    rfl
  · split at h
    · cases h
    · cases h
      rfl

theorem keyLinks_attached {strict : Bool} {schema : Option String} {drafts : List Draft}
    {links : List Link} (h : (keyLinks strict schema drafts).outcome = .ok links) :
    ∀ l ∈ links, l.Attached drafts := by
  intro l hl
  rw [keyLinks_eq_ok h] at hl
  obtain ⟨d, hd, k, _, target, ht, rfl⟩ := mem_linksOf_traceKeys.mp hl
  intro side
  cases side with
  | owning => exact ⟨d, hd, rfl, rfl⟩
  | inverse => exact ⟨target, (mem_of_draft? (draft?_of_targetDraft? ht)).1, rfl, rfl⟩

theorem joinedDraft_eq_ok {drafts : List Draft} {k : ForeignKey} {d : Draft} :
    joinedDraft drafts k = .ok d ↔ draft? drafts k.referredTable = some d := by
  unfold joinedDraft
  cases draft? drafts k.referredTable with
  | none => simp only [reduceCtorEq]
  | some d' => simp only [Except.ok.injEq, Option.some.injEq]

/-- A link of a junction joins the drafts that the keys of the junction refer to. -/
theorem joinLink_eq_ok {drafts : List Draft} {j : Junction} {l : Link} (h : joinLink drafts j = .ok l) :
    ∃ owner ∈ drafts, ∃ other ∈ drafts, owner.table.name = j.first.referredTable ∧
      other.table.name = j.second.referredTable ∧
      (l.owner.table, l.owner.entity) = (owner.table.name, owner.entity) ∧
      (l.other.table, l.other.entity) = (other.table.name, other.entity) ∧
      l.basis = .junction j.table.name j.table.schema j.first.pairs j.second.pairs := by
  obtain ⟨owner, howner, h⟩ := bind_eq_ok.mp h
  obtain ⟨other, hother, h⟩ := bind_eq_ok.mp h
  cases h
  obtain ⟨howner, hfirst⟩ := mem_of_draft? (joinedDraft_eq_ok.mp howner)
  obtain ⟨hother, hsecond⟩ := mem_of_draft? (joinedDraft_eq_ok.mp hother)
  exact ⟨owner, howner, other, hother, hfirst, hsecond, rfl, rfl, rfl⟩

theorem joinLink_attached {drafts : List Draft} {j : Junction} {l : Link}
    (h : joinLink drafts j = .ok l) : l.Attached drafts := by
  obtain ⟨owner, howner, other, hother, _, _, hatOwner, hatOther, _⟩ := joinLink_eq_ok h
  intro side
  cases side with
  | owning => exact ⟨owner, howner, Prod.mk.inj hatOwner⟩
  | inverse => exact ⟨other, hother, Prod.mk.inj hatOther⟩

/-- The links of junctions are the links of each of them, in order. -/
theorem joinLinks_eq_ok {drafts : List Draft} :
    ∀ {junctions : List Junction} {links : List Link}, joinLinks drafts junctions = .ok links →
      List.Forall₂ (fun j l => joinLink drafts j = .ok l) junctions links
  | [], _, h => by
    cases h
    exact .nil
  | j :: rest, _, h => by
    obtain ⟨link, hlink, h⟩ := bind_eq_ok.mp h
    obtain ⟨more, hmore, h⟩ := bind_eq_ok.mp h
    cases h
    exact .cons hlink (joinLinks_eq_ok hmore)

theorem mem_joinLinks {drafts : List Draft} {l : Link} {junctions : List Junction} {links : List Link}
    (h : joinLinks drafts junctions = .ok links) (hl : l ∈ links) :
    ∃ j ∈ junctions, joinLink drafts j = .ok l := by
  have hlinks := joinLinks_eq_ok h
  obtain ⟨i, hi, rfl⟩ := List.getElem_of_mem hl
  have hi' : i < junctions.length := hlinks.length_eq ▸ hi
  exact ⟨junctions[i], List.getElem_mem hi', hlinks.get hi' hi⟩

theorem joinLinks_attached {drafts : List Draft} {junctions : List Junction} {links : List Link}
    (h : joinLinks drafts junctions = .ok links) : ∀ l ∈ links, l.Attached drafts := by
  intro l hl
  obtain ⟨_, _, hj⟩ := mem_joinLinks h hl
  exact joinLink_attached hj

/-! ## Keys of ends -/

/-- What an end is known by. -/
def Endpoint.key (e : Endpoint) : Nat × Side := (e.index, e.side)

theorem mem_endpoints {links : List Link} {table : String} {e : Endpoint} :
    e ∈ endpoints links table ↔
      links[e.index]? = some e.link ∧ (e.link.endAt e.side).table = table := by
  unfold endpoints
  simp only [List.mem_flatMap, Prod.exists, List.mk_mem_zipIdx_iff_getElem?, List.mem_map,
    List.mem_filter, decide_eq_true_eq]
  constructor
  · rintro ⟨l, i, hl, side, ⟨_, ht⟩, rfl⟩
    exact ⟨hl, ht⟩
  · rintro ⟨hl, ht⟩
    refine ⟨e.link, e.index, hl, e.side, ⟨?_, ht⟩, rfl⟩
    cases e.side with
    | owning => exact List.mem_cons_self
    | inverse => exact List.mem_cons_of_mem _ List.mem_cons_self

theorem endpoints_keys_nodup (links : List Link) (table : String) :
    ((endpoints links table).map Endpoint.key).Nodup := by
  unfold endpoints
  rw [List.map_flatMap]
  refine List.nodup_flatMap.mpr ⟨fun p _ => ?_, ?_⟩
  · rw [List.map_map]
    refine List.Nodup.map (fun a b hab => (Prod.mk.inj hab).2) (List.Nodup.filter _ ?_)
    decide
  · have hindex : (links.zipIdx.map (·.2)).Nodup := by
      rw [List.zipIdx_map_snd]
      exact List.nodup_range' _
    -- keys of different links differ in the place of the link
    refine (List.pairwise_map.mp hindex).imp fun {p q} hpq => ?_
    rintro key hp hq
    simp only [List.map_map, List.mem_map] at hp hq
    obtain ⟨_, _, rfl⟩ := hp
    obtain ⟨_, _, hq⟩ := hq
    exact hpq (Prod.mk.inj hq).1.symm

/-- Ends with one key are ends of one link, so they are at one table. -/
theorem endpoints_keys_disjoint {links : List Link} {t u : String} (h : t ≠ u) :
    ((endpoints links t).map Endpoint.key).Disjoint ((endpoints links u).map Endpoint.key) := by
  intro key ht hu
  obtain ⟨a, ha, rfl⟩ := List.mem_map.mp ht
  obtain ⟨b, hb, hkey⟩ := List.mem_map.mp hu
  obtain ⟨hal, hat⟩ := mem_endpoints.mp ha
  obtain ⟨hbl, hbt⟩ := mem_endpoints.mp hb
  obtain ⟨hindex, hside⟩ := Prod.mk.inj hkey
  rw [hindex, hal] at hbl
  rw [← Option.some.inj hbl, hside, hat] at hbt
  exact h hbt

/-! ## Names of ends -/

/-- The ends at a draft keep their keys and are given their names in turn. -/
theorem nameEnds_givenInTurn {o : Options} {entity : String} {limit : Nat} :
    ∀ {ends : List Endpoint} {taken : List String} {names : EndNames},
      taken.Nodup → nameEnds o entity limit taken ends = .ok names →
      names.map (·.1) = ends.map Endpoint.key ∧ GivenInTurn taken (names.map (·.2))
  | [], _, _, hn, hrun => by
    cases hrun
    exact ⟨rfl, .nil hn⟩
  | e :: rest, taken, names, hn, hrun => by
    rw [nameEnds] at hrun
    split at hrun
    · cases hrun
    · next name hunique =>
      obtain ⟨more, hmore, hout⟩ := bind_eq_ok.mp hrun
      cases hout
      obtain ⟨hattr, hfresh⟩ := uniqueName_isAttribute
        (guardReserved_isAttribute (relationName_isName _ _ o)) hunique
      obtain ⟨hkeys, hgiven⟩ := nameEnds_givenInTurn (nodup_snoc hn hfresh) hmore
      exact ⟨congrArg (e.key :: ·) hkeys, .cons hattr hgiven⟩

theorem endNames_givenInTurn {o : Options} {links : List Link} {d : Draft} {own : EndNames}
    (hd : (d.columns.map (·.property)).Nodup) (h : d.endNames o links = .ok own) :
    own.map (·.1) = (endpoints links d.table.name).map Endpoint.key ∧
      GivenInTurn (d.columns.map (·.property)) (own.map (·.2)) :=
  nameEnds_givenInTurn hd h

/-- All names are those of the ends at each draft, draft by draft. -/
theorem allEndNames_eq_ok {o : Options} {links : List Link} :
    ∀ {drafts : List Draft} {names : EndNames}, allEndNames o links drafts = .ok names →
      ∀ d ∈ drafts, ∃ own, d.endNames o links = .ok own ∧ own ⊆ names
  | [], _, _ => fun _ h => absurd h List.not_mem_nil
  | d :: rest, names, hrun => by
    obtain ⟨own, hown, hrun⟩ := bind_eq_ok.mp hrun
    obtain ⟨more, hmore, hout⟩ := bind_eq_ok.mp hrun
    cases hout
    intro d' hd'
    rcases List.mem_cons.mp hd' with rfl | hd'
    · exact ⟨own, hown, List.subset_append_left own more⟩
    · obtain ⟨own', hown', hsub⟩ := allEndNames_eq_ok hmore d' hd'
      exact ⟨own', hown', List.subset_append_of_subset_right own hsub⟩

/-- The keys that have been named are those of the ends at all drafts. -/
theorem allEndNames_keys {o : Options} {links : List Link} :
    ∀ {drafts : List Draft} {names : EndNames},
      (∀ d ∈ drafts, (d.columns.map (·.property)).Nodup) → allEndNames o links drafts = .ok names →
      names.map (·.1) = drafts.flatMap fun d => (endpoints links d.table.name).map Endpoint.key
  | [], _, _, hrun => by
    cases hrun
    rfl
  | d :: rest, names, hd, hrun => by
    obtain ⟨own, hown, hrun⟩ := bind_eq_ok.mp hrun
    obtain ⟨more, hmore, hout⟩ := bind_eq_ok.mp hrun
    cases hout
    rw [List.map_append, List.flatMap_cons,
      (endNames_givenInTurn (hd d List.mem_cons_self) hown).1,
      allEndNames_keys (fun d' hd' => hd d' (List.mem_cons_of_mem d hd')) hmore]

theorem draftKeys_nodup {links : List Link} {drafts : List Draft}
    (h : (drafts.map (·.table.name)).Nodup) :
    (drafts.flatMap fun d => (endpoints links d.table.name).map Endpoint.key).Nodup :=
  List.nodup_flatMap.mpr ⟨fun d _ => endpoints_keys_nodup links d.table.name,
    (List.pairwise_map.mp h).imp fun {_ _} hne => endpoints_keys_disjoint hne⟩

/-! ## Relations at ends -/

/-- The name of the relation at an end, once the end is named. -/
theorem relation_name {names : EndNames} {e : Endpoint} {name : String}
    (h : entryAt? e.key names = some name) : (e.relation names).name = name := by
  show (entryAt? (e.index, e.side) names).getD "" = name
  rw [show entryAt? (e.index, e.side) names = some name from h]
  rfl

/-- The names of the relations at a draft are those that were given to its ends. -/
theorem relation_names {names own : EndNames} {ends : List Endpoint}
    (hnodup : (names.map (·.1)).Nodup) (hsub : own ⊆ names)
    (hkeys : own.map (·.1) = ends.map Endpoint.key) :
    ends.map (fun e => (e.relation names).name) = own.map (·.2) := by
  calc ends.map (fun e => (e.relation names).name)
      = (ends.map Endpoint.key).map fun key => (entryAt? key names).getD "" := by
        rw [List.map_map]
        rfl
    _ = own.map fun p => (entryAt? p.1 names).getD "" := by
        rw [← hkeys, List.map_map]
        rfl
    _ = own.map (·.2) := by
        refine List.map_congr_left fun p hp => ?_
        rw [entryAt?_of_mem hnodup (hsub hp)]
        rfl

end SchemaScribe
