import SchemaScribe.Proofs.Keys
import SchemaScribe.Proofs.Naming.Names
import SchemaScribe.Proofs.Outcome

/-!
# What drafting keeps

Tables are named one after another, and each new name must occupy nothing that an earlier one does. So
at every point of the run (`Housed`) the tables named so far have distinct names, their entities are
well named, and no two of them share a class name or a module, be it the entity's or the input model's.
A table that repeats an earlier name takes its place; what the replaced entity occupied stays taken.

The properties of the columns of a table are given in turn as well (`nameColumns_givenInTurn`). Drafts
hold all columns of their tables, since one without a type ends the run (`typedDrafts_typed`).
-/

namespace SchemaScribe

open SchemaScribe.Catalog

/-! ## Putting a named table among others -/

theorem mem_putNamed {t u : NamedTable} :
    ∀ {named : List NamedTable}, u ∈ putNamed t named → u = t ∨ u ∈ named
  | [], h => .inl (List.mem_singleton.mp h)
  | v :: rest, h => by
    unfold putNamed at h
    split at h
    · rcases List.mem_cons.mp h with rfl | h
      · exact .inl rfl
      · exact .inr (List.mem_cons_of_mem v h)
    · rcases List.mem_cons.mp h with rfl | h
      · exact .inr List.mem_cons_self
      · exact (mem_putNamed h).imp id (List.mem_cons_of_mem v)

/-- The table names after a table is put: those before, and the new one at the end if it is new. -/
theorem names_putNamed (t : NamedTable) : ∀ named : List NamedTable,
    (putNamed t named).map (·.table.name) =
      if t.table.name ∈ named.map (·.table.name) then named.map (·.table.name)
      else named.map (·.table.name) ++ [t.table.name]
  | [] => rfl
  | u :: rest => by
    unfold putNamed
    by_cases hu : u.table.name = t.table.name
    · rw [if_pos hu, List.map_cons, List.map_cons, hu, if_pos List.mem_cons_self]
    · rw [if_neg hu, List.map_cons, names_putNamed t rest, List.map_cons]
      by_cases hm : t.table.name ∈ rest.map (·.table.name)
      · rw [if_pos hm, if_pos (List.mem_cons_of_mem _ hm)]
      · rw [if_neg hm, if_neg (List.not_mem_cons_of_ne_of_not_mem (Ne.symm hu) hm), List.cons_append]

theorem putNamed_of_not_mem {t : NamedTable} {named : List NamedTable}
    (h : t.table.name ∉ named.map (·.table.name)) : putNamed t named = named ++ [t] := by
  induction named with
  | nil => rfl
  | cons u rest ih =>
    rw [List.map_cons, List.mem_cons, not_or] at h
    rw [putNamed, if_neg fun heq => h.1 heq.symm, ih h.2, List.cons_append]

theorem mem_names_putNamed {t : NamedTable} {named : List NamedTable} {x : String} :
    x ∈ (putNamed t named).map (·.table.name) ↔
      x ∈ named.map (·.table.name) ∨ x = t.table.name := by
  rw [names_putNamed]
  split
  · next hm => exact ⟨.inl, fun h => h.elim id fun h => h ▸ hm⟩
  · rw [List.mem_append, List.mem_singleton]

theorem pairwise_putNamed {R : NamedTable → NamedTable → Prop} (symm : ∀ t u, R t u → R u t)
    {t : NamedTable} : ∀ {named : List NamedTable}, named.Pairwise R → (∀ u ∈ named, R u t) →
      (putNamed t named).Pairwise R
  | [], _, _ => List.pairwise_singleton R t
  | u :: rest, h, ht => by
    obtain ⟨hu, hrest⟩ := List.pairwise_cons.mp h
    have htu := ht u List.mem_cons_self
    have htrest : ∀ v ∈ rest, R v t := fun v hv => ht v (List.mem_cons_of_mem u hv)
    unfold putNamed
    split
    · exact List.pairwise_cons.mpr ⟨fun v hv => symm v t (htrest v hv), hrest⟩
    · refine List.pairwise_cons.mpr ⟨fun v hv => ?_, pairwise_putNamed symm hrest htrest⟩
      rcases mem_putNamed hv with rfl | hv
      · exact htu
      · exact hu v hv

/-! ## Naming tables -/

/-- Two entity names that have no class name and no module in common. -/
def Disjoined (o : Options) (a b : String) : Prop := ∀ x ∈ occupied o a, x ∉ occupied o b

theorem Disjoined.symm {o : Options} {a b : String} (h : Disjoined o a b) : Disjoined o b a :=
  fun x hx hx' => h x hx' hx

/-- **What naming tables keeps**, of the tables named so far and what is taken. -/
structure Housed (o : Options) (taken : List String) (named : List NamedTable) : Prop where
  tables : (named.map (·.table.name)).Nodup
  names : ∀ t ∈ named, IsName t.entity
  taken : ∀ t ∈ named, ∀ x ∈ occupied o t.entity, x ∈ taken
  disjoined : named.Pairwise fun t u => Disjoined o t.entity u.entity

theorem Housed.nil (o : Options) (taken : List String) : Housed o taken [] :=
  ⟨.nil, fun _ h => absurd h List.not_mem_nil, fun _ h => absurd h List.not_mem_nil, .nil⟩

/-- One table more: its name occupies nothing that was taken. -/
theorem Housed.put {o : Options} {taken : List String} {named : List NamedTable}
    (h : Housed o taken named) {name : String} (hname : IsName name)
    (hfree : ∀ x ∈ occupied o name, x ∉ taken) (t : Table) :
    Housed o (taken ++ occupied o name) (putNamed ⟨t, name⟩ named) := by
  refine ⟨?_, fun u hu => ?_, fun u hu x hx => ?_, ?_⟩
  · rw [names_putNamed]
    split
    · exact h.tables
    · next hm => exact nodup_snoc h.tables hm
  · rcases mem_putNamed hu with rfl | hu
    · exact hname
    · exact h.names u hu
  · rcases mem_putNamed hu with rfl | hu
    · exact List.mem_append_right taken hx
    · exact List.mem_append_left _ (h.taken u hu x hx)
  · exact pairwise_putNamed (fun _ _ => Disjoined.symm) h.disjoined
      fun u hu x hx hx' => hfree x hx' (h.taken u hu x hx)

theorem nameTables_cons_eq_ok {o : Options} {limit : Nat} {taken : List String}
    {named named' : List NamedTable} {t : Table} {rest : List Table} :
    (nameTables o limit taken named (t :: rest)).outcome = .ok named' ↔
      ∃ name, freeEntityName o (entityName t.name o) taken limit = some name ∧
        (nameTables o limit (taken ++ occupied o name) (putNamed ⟨t, name⟩ named) rest).outcome =
          .ok named' := by
  rw [nameTables]
  split
  · next hnone => simp only [hnone, Noted.outcome_fail, reduceCtorEq, false_and, exists_false]
  · next name hsome =>
    simp only [hsome, Noted.outcome_bind, Noted.outcome_note, Option.some.injEq, exists_eq_left']
    rfl

/-- A whole run of naming keeps what each step does. -/
theorem nameTables_housed {o : Options} {limit : Nat} {named' : List NamedTable} :
    ∀ {tables : List Table} {taken : List String} {named : List NamedTable},
      Housed o taken named → (nameTables o limit taken named tables).outcome = .ok named' →
      ∃ taken', Housed o taken' named'
  | [], taken, _, h, hrun => by cases hrun; exact ⟨taken, h⟩
  | t :: rest, taken, named, h, hrun => by
    obtain ⟨name, hfree, hrest⟩ := nameTables_cons_eq_ok.mp hrun
    obtain ⟨hname, hfree⟩ := freeEntityName_eq_some (entityName_isName t.name o) hfree
    exact nameTables_housed (h.put hname hfree t) hrest

/-- The tables named in the end: those named before, and those that were to be named. -/
theorem mem_names_nameTables {o : Options} {limit : Nat} {named' : List NamedTable} {x : String} :
    ∀ {tables : List Table} {taken : List String} {named : List NamedTable},
      (nameTables o limit taken named tables).outcome = .ok named' →
      (x ∈ named'.map (·.table.name) ↔ x ∈ named.map (·.table.name) ∨ x ∈ tables.map (·.name))
  | [], _, _, hrun => by
    cases hrun
    simp only [List.map_nil, List.not_mem_nil, or_false]
  | t :: rest, _, _, hrun => by
    obtain ⟨name, _, hrest⟩ := nameTables_cons_eq_ok.mp hrun
    rw [mem_names_nameTables hrest, mem_names_putNamed, List.map_cons, List.mem_cons, or_assoc]

/-- Tables of different names are named in order. -/
theorem nameTables_tables {o : Options} {limit : Nat} {named' : List NamedTable} :
    ∀ {tables : List Table} {taken : List String} {named : List NamedTable},
      (named.map (·.table.name) ++ tables.map (·.name)).Nodup →
      (nameTables o limit taken named tables).outcome = .ok named' →
      named'.map (·.table) = named.map (·.table) ++ tables
  | [], _, _, _, hrun => by
    cases hrun
    rw [List.append_nil]
  | t :: rest, _, named, hnodup, hrun => by
    obtain ⟨name, _, hrest⟩ := nameTables_cons_eq_ok.mp hrun
    have hfresh : t.name ∉ named.map (·.table.name) := fun hmem =>
      (List.nodup_append.mp hnodup).2.2 _ hmem _ List.mem_cons_self rfl
    rw [putNamed_of_not_mem (t := ⟨t, name⟩) hfresh] at hrest
    rw [nameTables_tables ?_ hrest, List.map_append, List.append_assoc]
    · rfl
    · rw [List.map_append, List.append_assoc]
      exact hnodup

/-- The tables named in the end are among those named before and those that were to be named. -/
theorem mem_nameTables {o : Options} {limit : Nat} {named' : List NamedTable} {u : NamedTable}
    (hu : u ∈ named') : ∀ {tables : List Table} {taken : List String} {named : List NamedTable},
      (nameTables o limit taken named tables).outcome = .ok named' →
      u ∈ named ∨ u.table ∈ tables
  | [], _, _, hrun => by
    cases hrun
    exact .inl hu
  | t :: rest, _, _, hrun => by
    obtain ⟨name, _, hrest⟩ := nameTables_cons_eq_ok.mp hrun
    rcases mem_nameTables hu hrest with h | h
    · rcases mem_putNamed h with rfl | h
      · exact .inr List.mem_cons_self
      · exact .inl h
    · exact .inr (List.mem_cons_of_mem t h)

/-! ## Naming columns -/

/-- The properties of the columns of a table are given in turn. -/
theorem nameColumns_givenInTurn {o : Options} {schema : Option String} {named : List NamedTable}
    {t : Table} : ∀ {columns : List Column} {taken : List String} {out : List EntityColumn},
      taken.Nodup → nameColumns o schema named t taken columns = .ok out →
      GivenInTurn taken (out.map (·.property))
  | [], taken, _, hn, hrun => by
    cases hrun
    exact .nil hn
  | c :: rest, taken, out, hn, hrun => by
    rw [nameColumns] at hrun
    split at hrun
    · exact nameColumns_givenInTurn hn hrun
    · split at hrun
      · cases hrun
      · next property hunique =>
        obtain ⟨more, hmore, hout⟩ := bind_eq_ok.mp hrun
        cases hout
        obtain ⟨hattr, hfresh⟩ := uniqueName_isAttribute
          (guardReserved_isAttribute (propertyName_isName c.name o)) hunique
        exact .cons hattr (nameColumns_givenInTurn (nodup_snoc hn hfresh) hmore)

/-- What naming makes of the columns of a table. -/
theorem mem_nameColumns {o : Options} {schema : Option String} {named : List NamedTable} {t : Table}
    {x : EntityColumn} : ∀ {columns : List Column} {taken : List String} {out : List EntityColumn},
      nameColumns o schema named t taken columns = .ok out → x ∈ out →
      ∃ c ∈ columns, ∃ property type, columnType? o t c = some type ∧
        x = entityColumn t c property type (columnTarget? schema named t c.name)
  | [], _, _, hrun, hx => by
    cases hrun
    cases hx
  | c :: rest, taken, out, hrun, hx => by
    rw [nameColumns] at hrun
    split at hrun
    · obtain ⟨c', hc', h⟩ := mem_nameColumns hrun hx
      exact ⟨c', List.mem_cons_of_mem c hc', h⟩
    · next type htype =>
      split at hrun
      · cases hrun
      · next property _ =>
        obtain ⟨more, hmore, hout⟩ := bind_eq_ok.mp hrun
        cases hout
        rcases List.mem_cons.mp hx with rfl | hx
        · exact ⟨c, List.mem_cons_self, property, type, htype, rfl⟩
        · obtain ⟨c', hc', h⟩ := mem_nameColumns hmore hx
          exact ⟨c', List.mem_cons_of_mem c hc', h⟩

/-- Where every column has a type, none is passed over. -/
theorem nameColumns_names {o : Options} {schema : Option String} {named : List NamedTable}
    {t : Table} : ∀ {columns : List Column} {taken : List String} {out : List EntityColumn},
      (∀ c ∈ columns, (columnType? o t c).isSome) →
      nameColumns o schema named t taken columns = .ok out →
      out.map (·.name) = columns.map (·.name)
  | [], _, _, _, hrun => by
    cases hrun
    rfl
  | c :: rest, taken, out, htypes, hrun => by
    have hrest : ∀ c' ∈ rest, (columnType? o t c').isSome := fun c' hc' =>
      htypes c' (List.mem_cons_of_mem c hc')
    rw [nameColumns] at hrun
    split at hrun
    · next hnone =>
      have hsome := htypes c List.mem_cons_self
      rw [hnone] at hsome
      cases hsome
    · split at hrun
      · cases hrun
      · obtain ⟨more, hmore, hout⟩ := bind_eq_ok.mp hrun
        cases hout
        rw [List.map_cons, List.map_cons, nameColumns_names hrest hmore]
        rfl

/-! ## Drafts -/

/-- The drafts of named tables keep them in order, each with its own columns. -/
theorem draftTables_eq_ok {o : Options} {schema : Option String} {named : List NamedTable} :
    ∀ {tables : List NamedTable} {drafts : List Draft},
      (draftTables o schema named tables).outcome = .ok drafts →
      drafts.map (·.toNamedTable) = tables ∧
        ∀ d ∈ drafts, nameColumns o schema named d.table [] d.table.columns = .ok d.columns
  | [], _, hrun => by
    cases hrun
    exact ⟨rfl, fun _ h => absurd h List.not_mem_nil⟩
  | t :: rest, drafts, hrun => by
    rw [draftTables] at hrun
    simp only [Noted.outcome_bind, Noted.outcome_note, Noted.outcome_ofExcept] at hrun
    obtain ⟨_, _, hrun⟩ := bind_eq_ok.mp hrun
    obtain ⟨columns, hcolumns, hrun⟩ := bind_eq_ok.mp hrun
    obtain ⟨more, hmore, hrun⟩ := bind_eq_ok.mp hrun
    cases hrun
    obtain ⟨htables, hall⟩ := draftTables_eq_ok hmore
    refine ⟨congrArg (t :: ·) htables, fun d hd => ?_⟩
    rcases List.mem_cons.mp hd with rfl | hd
    · exact hcolumns
    · exact hall d hd

theorem typedDrafts_eq_ok {o : Options} {schema : Option String} {named : List NamedTable}
    {drafts : List Draft} (h : (typedDrafts o schema named).outcome = .ok drafts) :
    (draftTables o schema named named).outcome = .ok drafts := by
  rw [typedDrafts, Noted.outcome_bind] at h
  obtain ⟨found, hfound, h⟩ := bind_eq_ok.mp h
  split at h
  · cases h
    exact hfound
  · cases h

/-- Drafts are typed: every column of their tables has a type. -/
theorem typedDrafts_typed {o : Options} {schema : Option String} {named : List NamedTable}
    {drafts : List Draft} (h : (typedDrafts o schema named).outcome = .ok drafts) :
    ∀ t ∈ named, ∀ c ∈ t.table.columns, (columnType? o t.table c).isSome := by
  rw [typedDrafts, Noted.outcome_bind] at h
  obtain ⟨found, _, h⟩ := bind_eq_ok.mp h
  split at h
  · next hnone =>
    intro t ht c hc
    have hunsupported := List.flatMap_eq_nil_iff.mp hnone t ht
    by_contra htype
    have hmissing := List.filterMap_eq_nil_iff.mp hunsupported c hc
    rw [if_pos (Option.isNone_iff_eq_none.mpr (Option.not_isSome_iff_eq_none.mp htype))] at hmissing
    cases hmissing
  · cases h

end SchemaScribe
