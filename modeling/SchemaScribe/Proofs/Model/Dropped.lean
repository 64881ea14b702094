import SchemaScribe.Proofs.Catalog.WellFormed
import SchemaScribe.Proofs.Model.Failures
import SchemaScribe.Proofs.Model.Warnings

/-!
# Keys that lead nowhere

A key without an entity at its other end is dropped with a warning or, where relations are strict, makes
building fail. Two laws say what strictness amounts to, and where no key is dropped.

Strictness is a gate and nothing else (`buildModel_withStrict`). It is looked at only where the links of keys
are made (`buildEntities_withStrict`), and there all keys have been traced before the first that leads nowhere
is looked for. So a strict run repeats a lenient one up to this point and then either goes on like it or fails
with the text of the first warning about a key.

Tables that became junctions have no entity, but no key is dropped on their account: what an entity refers to
is no junction. So a whole catalog that passed its checks and has no key into another schema is built without
a dropped key (`buildModel_undropped`). Selecting tables from it can take targets away.
-/

namespace SchemaScribe

open SchemaScribe.Catalog

/-! ## Strictness -/

/-- The options with strict relations, or without. -/
def Options.withStrict (o : Options) (strict : Bool) : Options := { o with strictRelations := strict }

theorem nameTables_withStrict (o : Options) (strict : Bool) (limit : Nat) (tables : List Table)
    (taken : List String) (named : List NamedTable) :
    nameTables (o.withStrict strict) limit taken named tables = nameTables o limit taken named tables := by
  induction tables generalizing taken named with
  | nil => rfl
  | cons t rest ih =>
    have hname : entityName t.name (o.withStrict strict) = entityName t.name o := rfl
    have hfree : freeEntityName (o.withStrict strict) = freeEntityName o := rfl
    have hoccupied : occupied (o.withStrict strict) = occupied o := rfl
    simp only [nameTables, hname, hfree, hoccupied, ih]

theorem nameColumns_withStrict (o : Options) (strict : Bool) (schema : Option String)
    (named : List NamedTable) (t : Table) (columns : List Column) (taken : List String) :
    nameColumns (o.withStrict strict) schema named t taken columns =
      nameColumns o schema named t taken columns := by
  induction columns generalizing taken with
  | nil => rfl
  | cons c rest ih =>
    have htype : columnType? (o.withStrict strict) = columnType? o := rfl
    have hproperty : propertyName c.name (o.withStrict strict) = propertyName c.name o := rfl
    simp only [nameColumns, htype, hproperty, ih]

theorem draftTables_withStrict (o : Options) (strict : Bool) (schema : Option String)
    (named tables : List NamedTable) :
    draftTables (o.withStrict strict) schema named tables = draftTables o schema named tables := by
  induction tables with
  | nil => rfl
  | cons t rest ih => simp only [draftTables, nameColumns_withStrict, ih]

theorem typedDrafts_withStrict (o : Options) (strict : Bool) (schema : Option String)
    (named : List NamedTable) :
    typedDrafts (o.withStrict strict) schema named = typedDrafts o schema named := by
  unfold typedDrafts
  rw [draftTables_withStrict]
  rfl

theorem nameEnds_withStrict (o : Options) (strict : Bool) (entity : String) (limit : Nat)
    (ends : List Endpoint) (taken : List String) :
    nameEnds (o.withStrict strict) entity limit taken ends = nameEnds o entity limit taken ends := by
  induction ends generalizing taken with
  | nil => rfl
  | cons e rest ih =>
    have hcandidate : e.candidate (o.withStrict strict) = e.candidate o := rfl
    simp only [nameEnds, hcandidate, ih]

theorem allEndNames_withStrict (o : Options) (strict : Bool) (links : List Link) (drafts : List Draft) :
    allEndNames (o.withStrict strict) links drafts = allEndNames o links drafts := by
  induction drafts with
  | nil => rfl
  | cons d rest ih => simp only [allEndNames, Draft.endNames, nameEnds_withStrict, ih]

/-- **Strictness is looked at in one place**, where the links of keys are made. -/
theorem buildEntities_withStrict (o : Options) (strict : Bool) (s : Snapshot) :
    buildEntities (o.withStrict strict) s = do
      let named ← nameTables o s.tables.length [] [] (entityTables s)
      let drafts ← typedDrafts o s.schema named
      let fromKeys ← keyLinks strict s.schema drafts
      let fromJunctions ← .ofExcept (joinLinks drafts (junctions s))
      let links := fromKeys ++ fromJunctions
      let names ← .ofExcept (allEndNames o links drafts)
      return drafts.map (Draft.finish o s.schema drafts links names) := by
  unfold buildEntities
  simp only [nameTables_withStrict, typedDrafts_withStrict, allEndNames_withStrict]
  rfl

/-! ## Warnings about keys -/

/-- Whether a warning is about a dropped key, by its first word. -/
def saysDropped (warning : String) : Bool := "Relation ".toList.isPrefixOf warning.toList

theorem saysDropped_relation (rest : String) : saysDropped ("Relation " ++ rest) = true := by
  unfold saysDropped
  rw [String.toList_append]
  exact List.isPrefixOf_iff_prefix.mpr (List.prefix_append _ _)

theorem saysDropped_table (rest : String) : saysDropped ("Table '" ++ rest) = false := by
  unfold saysDropped
  rw [String.toList_append]
  rfl

theorem DroppedKey.exists_message (d : DroppedKey) : ∃ rest, d.message = "Relation " ++ rest := by
  -- by delta, for the equation of the definition is slow to make
  delta DroppedKey.message
  simp only [String.append_assoc]
  exact ⟨_, rfl⟩

/-- No other warning begins like one about a dropped key. -/
theorem saysDropped_message (x : Oddity) : saysDropped x.message = true ↔ ∃ d, x = .dropped d := by
  cases x with
  | renamed table candidate name =>
    simp only [Oddity.message, String.append_assoc, saysDropped_table, reduceCtorEq, exists_false]
  | keyless table =>
    simp only [Oddity.message, String.append_assoc, saysDropped_table, reduceCtorEq, exists_false]
  | dropped d =>
    obtain ⟨rest, hmessage⟩ := d.exists_message
    show saysDropped d.message = true ↔ _
    rw [hmessage, saysDropped_relation]
    exact iff_of_true rfl ⟨d, rfl⟩

/-- The first warning about a key is that about the first dropped key. -/
theorem Built.find?_saysDropped {o : Options} {s : Snapshot} (b : Built o s) {m : Model}
    (h : buildModel o s = .ok m) :
    m.warnings.find? saysDropped =
      (droppedOf (traceKeys s.schema b.drafts)).head?.map DroppedKey.message := by
  obtain ⟨renamed, hrenamed, hnotes⟩ := b.exists_notes
  have hfirst : renamed.find? (saysDropped ∘ Oddity.message) = none := by
    refine List.find?_eq_none.mpr fun x hx hsays => ?_
    obtain ⟨d, rfl⟩ := (saysDropped_message x).mp hsays
    obtain ⟨_, _, _, hother⟩ := hrenamed _ hx
    cases hother
  have hsecond : ((b.named.filter (·.table.primaryKey.isEmpty)).map (Oddity.keyless ·.table.name)).find?
      (saysDropped ∘ Oddity.message) = none := by
    refine List.find?_eq_none.mpr fun x hx hsays => ?_
    obtain ⟨d, rfl⟩ := (saysDropped_message x).mp hsays
    obtain ⟨_, _, hother⟩ := List.mem_map.mp hx
    cases hother
  rw [warnings_eq h, hnotes, List.find?_map, List.find?_append, List.find?_append, hfirst, hsecond]
  cases droppedOf (traceKeys s.schema b.drafts) with
  | nil => rfl
  | cons d rest =>
    have hsays : (saysDropped ∘ Oddity.message) (.dropped d) = true := by
      rw [Function.comp_apply, saysDropped_message]
      exact ⟨d, rfl⟩
    rw [List.map_cons, List.find?_cons_of_pos hsays]
    rfl

/-! ## The gate -/

theorem Noted.bind_congr {ν : Type w} {ε : Type u} {α β : Type v} {x : Noted ν ε α}
    {f g : α → Noted ν ε β} (h : ∀ a, x.outcome = .ok a → f a = g a) : x >>= f = x >>= g := by
  show Noted.bind x f = Noted.bind x g
  unfold Noted.bind
  cases hx : x.outcome with
  | error e => rfl
  | ok a =>
    show Noted.mk _ _ = Noted.mk _ _
    rw [h a hx]

/-- Where no key is dropped, strictness makes no difference. -/
theorem keyLinks_of_eq_nil {schema : Option String} {drafts : List Draft}
    (h : droppedOf (traceKeys schema drafts) = []) (strict : Bool) :
    keyLinks strict schema drafts = keyLinks false schema drafts := by
  unfold keyLinks
  dsimp only
  rw [h]

/-- Where one is, strict relations fail with the first of them. -/
theorem keyLinks_of_eq_cons {schema : Option String} {drafts : List Draft} {first : DroppedKey}
    {rest : List DroppedKey} (h : droppedOf (traceKeys schema drafts) = first :: rest) :
    (keyLinks true schema drafts).outcome = .error (.droppedKey first) := by
  unfold keyLinks
  dsimp only
  rw [h]
  rfl

/-- **Strict relations are a gate**: where a lenient run builds a model without a warning about a dropped key, a
strict one builds the same model; otherwise it fails with the text of the first such warning. Where a lenient
run builds no model it is left open how a strict one fails. -/
theorem buildModel_withStrict {o : Options} {s : Snapshot} {m : Model}
    (h : buildModel (o.withStrict false) s = .ok m) :
    match m.warnings.find? saysDropped with
    | none => buildModel (o.withStrict true) s = .ok m
    | some warning => ∃ d, buildModel (o.withStrict true) s = .error (.droppedKey d) ∧
        (BuildError.droppedKey d).message = warning := by
  obtain ⟨b, _⟩ := exists_built h
  have hnamed := b.named_eq
  have hdrafts := b.drafts_eq
  rw [nameTables_withStrict] at hnamed
  rw [typedDrafts_withStrict] at hdrafts
  rw [b.find?_saysDropped h]
  cases hdropped : droppedOf (traceKeys s.schema b.drafts) with
  | nil =>
    have hsame : buildEntities (o.withStrict true) s = buildEntities (o.withStrict false) s := by
      rw [buildEntities_withStrict, buildEntities_withStrict]
      refine Noted.bind_congr fun named hrun => Noted.bind_congr fun drafts hrun' => ?_
      cases hnamed.symm.trans hrun
      cases hdrafts.symm.trans hrun'
      rw [keyLinks_of_eq_nil hdropped]
    show buildModel (o.withStrict true) s = .ok m
    rw [← h]
    unfold buildModel
    rw [hsame]
  | cons first rest =>
    show ∃ d, _ ∧ BuildError.message (.droppedKey d) = first.message
    refine ⟨first, buildModel_eq_error_iff.mpr ?_, rfl⟩
    rw [buildEntities_withStrict]
    simp only [Noted.outcome_bind]
    refine bind_eq_error.mpr (.inr ⟨b.named, hnamed, ?_⟩)
    refine bind_eq_error.mpr (.inr ⟨b.drafts, hdrafts, ?_⟩)
    exact bind_eq_error.mpr (.inl (keyLinks_of_eq_cons hdropped))

/-- The market is built with a warning about a key into another schema, and not at all where relations are
strict. The logbook is built with a warning about a missing primary key, and then as well. -/
theorem buildModel_withStrict_market :
    (∃ m warning, buildModel (Options.withStrict {} false) market = .ok m ∧ m.warnings = [warning] ∧
      ∃ d, buildModel (Options.withStrict {} true) market = .error (.droppedKey d) ∧
        d.message = warning) ∧
      ∃ m, buildModel (Options.withStrict {} false) logbook = .ok m ∧ m.warnings.length = 1 ∧
        buildModel (Options.withStrict {} true) logbook = .ok m := by
  constructor
  · obtain ⟨m, hm, htest⟩ := exists_ok_of_any (x := buildModel (Options.withStrict {} false) market)
      (p := fun m => m.warnings.length = 1 ∧ (m.warnings.find? saysDropped).isSome) (by decide +kernel)
    obtain ⟨hlength, hsome⟩ := of_decide_eq_true htest
    obtain ⟨warning, hwarnings⟩ := List.length_eq_one_iff.mp hlength
    obtain ⟨first, hfirst⟩ := Option.isSome_iff_exists.mp hsome
    have hgate := buildModel_withStrict hm
    rw [hfirst] at hgate
    have hmem := List.mem_of_find?_eq_some hfirst
    rw [hwarnings, List.mem_singleton] at hmem
    exact ⟨m, warning, hm, hwarnings, hmem ▸ hgate⟩
  · obtain ⟨m, hm, htest⟩ := exists_ok_of_any (x := buildModel (Options.withStrict {} false) logbook)
      (p := fun m => m.warnings.length = 1 ∧ m.warnings.find? saysDropped = none) (by decide +kernel)
    obtain ⟨hlength, hnone⟩ := of_decide_eq_true htest
    have hgate := buildModel_withStrict hm
    rw [hnone] at hgate
    exact ⟨m, hm, hlength, hgate⟩

/-! ## Runs that drop a key -/

/-- The drafts among which a run looks for the targets of keys. -/
def Drafted (o : Options) (s : Snapshot) (drafts : List Draft) : Prop :=
  ∃ named, (nameTables o s.tables.length [] [] (entityTables s)).outcome = .ok named ∧
    (typedDrafts o s.schema named).outcome = .ok drafts

theorem Noted.mem_notes_bind {ν : Type w} {ε : Type u} {α β : Type v} {x : Noted ν ε α}
    {f : α → Noted ν ε β} {n : ν} (h : n ∈ (x >>= f).notes) :
    n ∈ x.notes ∨ ∃ a, x.outcome = .ok a ∧ n ∈ (f a).notes := by
  cases hx : x.outcome with
  | error e =>
    have hnotes : (x >>= f).notes = x.notes := by
      show (Noted.bind x f).notes = _
      unfold Noted.bind
      rw [hx]
    exact .inl (hnotes ▸ h)
  | ok a =>
    rw [Noted.notes_bind hx] at h
    exact (List.mem_append.mp h).imp_right fun hn => ⟨a, rfl, hn⟩

/-- Drafting notes no dropped key, whether or not it fails. -/
theorem typedDrafts_keeps {o : Options} {schema : Option String} {named : List NamedTable}
    (d : DroppedKey) : .dropped d ∉ (typedDrafts o schema named).notes := by
  have hkeyless : ∀ tables, .dropped d ∉ (draftTables o schema named tables).notes := by
    intro tables
    induction tables with
    | nil => exact List.not_mem_nil
    | cons t rest ih =>
      intro h
      rw [draftTables] at h
      rcases Noted.mem_notes_bind h with h | ⟨_, _, h⟩
      · have hnote : .dropped d ∈ (if t.table.primaryKey.isEmpty then [Oddity.keyless t.table.name] else []) :=
          h
        split at hnote
        · cases List.mem_singleton.mp hnote
        · cases hnote
      · rcases Noted.mem_notes_bind h with h | ⟨_, _, h⟩
        · cases h
        · rcases Noted.mem_notes_bind h with h | ⟨_, _, h⟩
          · exact ih h
          · cases h
  intro h
  unfold typedDrafts at h
  rcases Noted.mem_notes_bind h with h | ⟨_, _, h⟩
  · exact hkeyless named h
  · split at h
    · cases h
    · cases h

/-- Linking keys notes only keys that it drops. -/
theorem mem_droppedOf_of_notes {strict : Bool} {schema : Option String} {drafts : List Draft}
    {d : DroppedKey} (h : .dropped d ∈ (keyLinks strict schema drafts).notes) :
    d ∈ droppedOf (traceKeys schema drafts) := by
  unfold keyLinks at h
  dsimp only at h
  split at h
  · cases h
  · next first rest hdropped =>
    split at h
    · cases h
    · have hnote : .dropped d ∈ (first :: rest).map Oddity.dropped ++ [] := h
      rw [List.append_nil] at hnote
      obtain ⟨_, hd, hsame⟩ := List.mem_map.mp hnote
      cases hsame
      rw [hdropped]
      exact hd

/-- It fails only with a key that it drops. -/
theorem mem_droppedOf_of_error {strict : Bool} {schema : Option String} {drafts : List Draft}
    {d : DroppedKey} (h : (keyLinks strict schema drafts).outcome = .error (.droppedKey d)) :
    d ∈ droppedOf (traceKeys schema drafts) := by
  unfold keyLinks at h
  dsimp only at h
  split at h
  · cases h
  · next first rest hdropped =>
    split at h
    · cases h
      rw [hdropped]
      exact List.mem_cons_self
    · cases h

/-- A key that is noted as dropped leads to no draft of the run. -/
theorem dropped_of_mem_notes {o : Options} {s : Snapshot} {d : DroppedKey}
    (h : .dropped d ∈ (buildEntities o s).notes) :
    ∃ drafts, Drafted o s drafts ∧ d ∈ droppedOf (traceKeys s.schema drafts) := by
  unfold buildEntities at h
  rcases Noted.mem_notes_bind h with h | ⟨named, hnamed, h⟩
  · obtain ⟨_, _, _, hother⟩ := nameTables_notes _ h
    cases hother
  rcases Noted.mem_notes_bind h with h | ⟨drafts, hdrafts, h⟩
  · exact absurd h (typedDrafts_keeps d)
  refine ⟨drafts, ⟨named, hnamed, hdrafts⟩, ?_⟩
  rcases Noted.mem_notes_bind h with h | ⟨_, _, h⟩
  · exact mem_droppedOf_of_notes h
  · rcases Noted.mem_notes_bind h with h | ⟨_, _, h⟩
    · cases h
    · rcases Noted.mem_notes_bind h with h | ⟨_, _, h⟩
      · cases h
      · cases h

/-- So does a key that makes building fail. -/
theorem dropped_of_error {o : Options} {s : Snapshot} {d : DroppedKey}
    (h : buildModel o s = .error (.droppedKey d)) :
    ∃ drafts, Drafted o s drafts ∧ d ∈ droppedOf (traceKeys s.schema drafts) := by
  rw [buildModel_eq_error_iff] at h
  unfold buildEntities at h
  simp only [Noted.outcome_bind, Noted.outcome_ofExcept] at h
  rcases bind_eq_error.mp h with h | ⟨named, hnamed, h⟩
  · exact absurd rfl (nameTables_failsWith (p := (· ≠ .droppedKey d)) (fun _ => nofun) o _ _ _ _ _ h)
  rcases bind_eq_error.mp h with h | ⟨drafts, hdrafts, h⟩
  · exact absurd rfl (typedDrafts_failsWith (p := (· ≠ .droppedKey d)) (fun _ _ => nofun) (fun _ => nofun)
      o s.schema named _ h)
  refine ⟨drafts, ⟨named, hnamed, hdrafts⟩, ?_⟩
  rcases bind_eq_error.mp h with h | ⟨fromKeys, _, h⟩
  · exact mem_droppedOf_of_error h
  · refine absurd rfl ((?_ : FailsWith (· ≠ .droppedKey d) _) _ h)
    refine .bind (joinLinks_failsWith (fun _ => nofun) drafts (junctions s)) fun fromJunctions => ?_
    exact finish_failsWith (fun _ _ _ => nofun) o s drafts (fromKeys ++ fromJunctions)

/-! ## Catalogs without dropped keys -/

theorem Drafted.table_mem {o : Options} {s : Snapshot} {drafts : List Draft} (h : Drafted o s drafts)
    {d : Draft} (hd : d ∈ drafts) : d.table ∈ entityTables s := by
  obtain ⟨named, hnamed, hdrafts⟩ := h
  have hmem : d.toNamedTable ∈ named := by
    rw [← (draftTables_eq_ok (typedDrafts_eq_ok hdrafts)).1]
    exact List.mem_map_of_mem hd
  exact (mem_nameTables hmem hnamed).resolve_left List.not_mem_nil

/-- In a sound catalog the keys within the schema lead to drafts. -/
theorem Drafted.exists_target {p : Option Options} {o : Options} {s : Snapshot}
    (hsound : (s.validate p).sound = true) {drafts : List Draft} (h : Drafted o s drafts) {d : Draft}
    (hd : d ∈ drafts) {k : ForeignKey} (hk : k ∈ d.table.foreignKeys) (hleaves : k.leaves s.schema = false) :
    ∃ target, targetDraft? s.schema drafts k = some target := by
  have ht := h.table_mem hd
  obtain ⟨named, hnamed, hdrafts⟩ := h
  have htables := (draftTables_eq_ok (typedDrafts_eq_ok hdrafts)).1
  obtain ⟨target, hfound, _⟩ := (refers_of_sound hsound d.table (mem_entityTables.mp ht).1 k hk).target hleaves
  obtain ⟨htarget, hname⟩ := (table?_eq_some_iff (tableNames_of_sound hsound)).mp hfound
  have hentity := mem_entityTables_of_target ht hk hleaves htarget hname
  have hdrafted : k.referredTable ∈ drafts.map (·.table.name) := by
    have hnames := (mem_names_nameTables (x := k.referredTable) hnamed).mpr
      (.inr (List.mem_map.mpr ⟨target, hentity, hname⟩))
    rw [← htables, List.map_map] at hnames
    exact hnames
  unfold targetDraft?
  rw [hleaves, if_neg Bool.false_ne_true]
  exact Option.isSome_iff_exists.mp (draft?_isSome_iff.mpr hdrafted)

/-- So none of them is dropped. -/
theorem Drafted.droppedOf_eq_nil {p : Option Options} {o : Options} {s : Snapshot}
    (hsound : (s.validate p).sound = true)
    (hinside : ∀ t ∈ s.tables, ∀ k ∈ t.foreignKeys, k.referredSchema = none ∨ k.referredSchema = s.schema)
    {drafts : List Draft} (h : Drafted o s drafts) : droppedOf (traceKeys s.schema drafts) = [] := by
  refine List.filterMap_eq_nil_iff.mpr ?_
  intro traced htraced
  obtain ⟨d, hd, htraced⟩ := List.mem_flatMap.mp htraced
  obtain ⟨k, hk, rfl⟩ := List.mem_map.mp htraced
  have hkey := mem_of_mem_distinctKeys hk
  have ht := (mem_entityTables.mp (h.table_mem hd)).1
  have hleaves := ForeignKey.leaves_eq_false_iff.mpr (hinside d.table ht k hkey)
  obtain ⟨target, htarget⟩ := h.exists_target hsound hd hkey hleaves
  unfold traceKey
  rw [htarget]

/-- **No key is dropped on account of a junction**: a whole catalog that passed its checks and has no key into
another schema is built without a dropped key, whatever the options are. -/
theorem buildModel_undropped {p : Option Options} {s : Snapshot} (hsound : (s.validate p).sound = true)
    (hinside : ∀ t ∈ s.tables, ∀ k ∈ t.foreignKeys, k.referredSchema = none ∨ k.referredSchema = s.schema)
    (o : Options) :
    (∀ d, .dropped d ∉ (buildEntities o s).notes) ∧
      (∀ d, buildModel o s ≠ .error (.droppedKey d)) ∧
      ∀ m, buildModel o s = .ok m → ∀ warning ∈ m.warnings, saysDropped warning = false := by
  have hnotes : ∀ d, .dropped d ∉ (buildEntities o s).notes := by
    intro d h
    obtain ⟨drafts, hdrafted, hd⟩ := dropped_of_mem_notes h
    rw [hdrafted.droppedOf_eq_nil hsound hinside] at hd
    cases hd
  refine ⟨hnotes, ?_, ?_⟩
  · intro d h
    obtain ⟨drafts, hdrafted, hd⟩ := dropped_of_error h
    rw [hdrafted.droppedOf_eq_nil hsound hinside] at hd
    cases hd
  · intro m h warning hwarning
    rw [warnings_eq h] at hwarning
    obtain ⟨x, hx, rfl⟩ := List.mem_map.mp hwarning
    refine Bool.eq_false_iff.mpr fun hsays => ?_
    obtain ⟨d, rfl⟩ := (saysDropped_message x).mp hsays
    exact hnotes d hx

/-- Of two tables that join persons and clubs, only the one that no bill refers to is a junction. -/
theorem buildModel_undropped_clubs :
    (clubs.validate (some {})).sound = true ∧
      (junctions clubs).map (·.table.name) = ["visitor"] ∧
      (∀ d, buildModel (Options.withStrict {} true) clubs ≠ .error (.droppedKey d)) ∧
      ∃ m, buildModel (Options.withStrict {} true) clubs = .ok m ∧
        ∀ warning ∈ m.warnings, saysDropped warning = false := by
  have hsound : (clubs.validate (some {})).sound = true := by decide +kernel
  have hinside : ∀ t ∈ clubs.tables, ∀ k ∈ t.foreignKeys,
      k.referredSchema = none ∨ k.referredSchema = clubs.schema := by decide +kernel
  obtain ⟨m, hm, -⟩ := exists_ok_of_any (x := buildModel (Options.withStrict {} true) clubs)
    (p := fun m => m.junctionTables = ["visitor"]) (by decide +kernel)
  obtain ⟨_, hstrict, hwarnings⟩ := buildModel_undropped hsound hinside (Options.withStrict {} true)
  exact ⟨hsound, by decide +kernel, hstrict, m, hm, hwarnings m hm⟩

end SchemaScribe
