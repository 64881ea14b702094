import SchemaScribe.Proofs.Model.Built

/-!
# What a run has noted when it succeeds

The warnings of a model are the oddities that its run noted, in the order of the stages: tables that had to
be renamed, tables without a primary key, and keys without an entity at their other end
(`Built.exists_notes`). Of the last two there is exactly one note for each such table and each such key.
What a run noted before it failed is not looked at here.
-/

namespace SchemaScribe

open SchemaScribe.Catalog

/-! ## Notes of sequences -/

theorem Noted.notes_bind {ν : Type w} {ε : Type u} {α β : Type v} {x : Noted ν ε α}
    {f : α → Noted ν ε β} {a : α} (h : x.outcome = .ok a) :
    (x >>= f).notes = x.notes ++ (f a).notes := by
  show (Noted.bind x f).notes = _
  unfold Noted.bind
  rw [h]

/-! ## The notes of each stage -/

/-- Naming tables notes renamed tables and nothing else. -/
theorem nameTables_notes {o : Options} {limit : Nat} :
    ∀ {tables : List Table} {taken : List String} {named : List NamedTable},
      ∀ x ∈ (nameTables o limit taken named tables).notes, ∃ table candidate name,
        x = .renamed table candidate name
  | [], _, _, x, hx => absurd hx List.not_mem_nil
  | t :: rest, taken, named, x, hx => by
    rw [nameTables] at hx
    split at hx
    · exact absurd hx List.not_mem_nil
    · next name _ =>
      rw [Noted.notes_bind (Noted.outcome_note _)] at hx
      rcases List.mem_append.mp hx with hx | hx
      · by_cases hname : name = entityName t.name o
        · rw [if_pos hname] at hx
          exact absurd hx List.not_mem_nil
        · rw [if_neg hname] at hx
          exact ⟨_, _, _, List.mem_singleton.mp hx⟩
      · exact nameTables_notes x hx

/-- Drafting notes the tables without a primary key. -/
theorem draftTables_notes {o : Options} {schema : Option String} {named : List NamedTable} :
    ∀ {tables : List NamedTable} {drafts : List Draft},
      (draftTables o schema named tables).outcome = .ok drafts →
      (draftTables o schema named tables).notes =
        (tables.filter (·.table.primaryKey.isEmpty)).map (.keyless ·.table.name)
  | [], _, _ => rfl
  | t :: rest, drafts, hrun => by
    rw [draftTables] at hrun ⊢
    simp only [Noted.outcome_bind, Noted.outcome_note, Noted.outcome_ofExcept] at hrun
    obtain ⟨_, _, hrun⟩ := bind_eq_ok.mp hrun
    obtain ⟨columns, hcolumns, hrun⟩ := bind_eq_ok.mp hrun
    obtain ⟨more, hmore, _⟩ := bind_eq_ok.mp hrun
    rw [Noted.notes_bind (Noted.outcome_note _), Noted.notes_bind hcolumns, Noted.notes_bind hmore,
      draftTables_notes hmore]
    show _ ++ ([] ++ (_ ++ [])) = _
    rw [List.nil_append, List.append_nil]
    by_cases hkey : t.table.primaryKey.isEmpty = true
    · simp only [List.filter_cons, hkey, if_true, List.map_cons]
      rfl
    · simp only [List.filter_cons, hkey]
      rfl

theorem typedDrafts_notes {o : Options} {schema : Option String} {named : List NamedTable}
    {drafts : List Draft} (h : (typedDrafts o schema named).outcome = .ok drafts) :
    (typedDrafts o schema named).notes =
      (named.filter (·.table.primaryKey.isEmpty)).map (.keyless ·.table.name) := by
  have hdrafts := typedDrafts_eq_ok h
  rw [typedDrafts, Noted.notes_bind hdrafts, draftTables_notes hdrafts]
  split
  · exact List.append_nil _
  · exact List.append_nil _

/-- Where dropped keys are no failure, each of them is noted. -/
theorem keyLinks_notes {strict : Bool} {schema : Option String} {drafts : List Draft}
    {links : List Link} (h : (keyLinks strict schema drafts).outcome = .ok links) :
    (keyLinks strict schema drafts).notes = (droppedOf (traceKeys schema drafts)).map .dropped := by
  unfold keyLinks at h ⊢
  dsimp only at h ⊢
  split
  · next hnone =>
    rw [hnone]
    rfl
  · next first rest hsome =>
    rw [hsome] at h ⊢
    cases strict with
    | true => cases h
    | false => exact List.append_nil _

/-! ## The notes of a run -/

/-- **The notes of a run that built a model**: renamed tables, then the tables without a primary key, then
the dropped keys. -/
theorem Built.exists_notes {o : Options} {s : Snapshot} (b : Built o s) :
    ∃ renamed : List Oddity,
      (∀ x ∈ renamed, ∃ table candidate name, x = .renamed table candidate name) ∧
      (buildEntities o s).notes =
        renamed ++ (b.named.filter (·.table.primaryKey.isEmpty)).map (.keyless ·.table.name) ++
          (droppedOf (traceKeys s.schema b.drafts)).map .dropped := by
  refine ⟨(nameTables o s.tables.length [] [] (entityTables s)).notes, nameTables_notes, ?_⟩
  unfold buildEntities
  rw [Noted.notes_bind b.named_eq, Noted.notes_bind b.drafts_eq, Noted.notes_bind b.fromKeys_eq,
    Noted.notes_bind (x := .ofExcept _) b.fromJunctions_eq,
    Noted.notes_bind (x := .ofExcept _) b.names_eq, typedDrafts_notes b.drafts_eq,
    keyLinks_notes b.fromKeys_eq]
  show _ ++ (_ ++ (_ ++ ([] ++ ([] ++ [])))) = _
  simp only [List.append_nil, List.append_assoc]

theorem warnings_eq {o : Options} {s : Snapshot} {m : Model} (h : buildModel o s = .ok m) :
    m.warnings = (buildEntities o s).notes.map Oddity.message := by
  obtain ⟨_, _, hm⟩ := bind_eq_ok.mp h
  cases hm
  rfl

end SchemaScribe
