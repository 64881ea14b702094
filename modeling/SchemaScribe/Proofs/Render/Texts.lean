import SchemaScribe.Proofs.Model.Closure
import SchemaScribe.Proofs.Render.Paths
import SchemaScribe.Proofs.Render.Units

/-!
# What generated files quote

Of the texts of a catalog only those that the module of an entity quotes (`Entity.quoted`), its table name in
the description and its comment, are written as they stand. All else of a package of a built model is code:
names are identifiers, types are known beforehand, and what is left is spelled out in literals. So where no
quoted text opens a custom region, entity modules are fresh, and where no quoted text has a carriage return,
no file has one. Input modules quote nothing.
-/

namespace SchemaScribe

open SchemaScribe.Catalog SchemaScribe.Render

/-- **The texts that the module of an entity quotes** as they stand: its description, which tells the name of
the table, and the comment. -/
def Entity.quoted (e : Entity) : List String :=
  Text.unlines ["Entity for table ``" ++ e.table ++ "``.", editRule] :: commentLines e.comment

/-- **An entity that can be written as code**: its names are identifiers, and the types of its columns and the
properties that its relations store are flat. -/
structure Entity.Writable (e : Entity) : Prop where
  named : e.WellNamed
  columns : ∀ c ∈ e.columns, PlainColumn c
  keys : ∀ r ∈ e.relations, r.kind ≠ .manyToMany → PlainKey r

theorem Entity.WellNamed.property {e : Entity} (h : e.WellNamed) {c : EntityColumn}
    (hc : c ∈ e.columns) : IsName c.property :=
  (h.properties _ (List.mem_append_left _ (List.mem_map_of_mem hc))).isName

theorem Entity.WellNamed.relation {e : Entity} (h : e.WellNamed) {r : Relation}
    (hr : r ∈ e.relations) : IsName r.name :=
  (h.properties _ (List.mem_append_right _ (List.mem_map_of_mem hr))).isName

/-- Stored properties are properties of the entity. -/
theorem Entity.Stores.exists_column {e : Entity} {columns properties : List String}
    (h : e.Stores columns properties) :
    ∀ property ∈ properties, ∃ c ∈ e.columns, c.property = property := by
  intro property hproperty
  have hstored : some property ∈ properties.map some := List.mem_map_of_mem hproperty
  rw [← h] at hstored
  obtain ⟨column, _, hcolumn⟩ := List.mem_map.mp hstored
  obtain ⟨c, hc, hname⟩ := Option.map_eq_some_iff.mp hcolumn
  exact ⟨c, List.mem_of_find?_eq_some hc, hname⟩

theorem Relation.Backed.plainKey {r : Relation} {holder : Entity} {k : ForeignKey}
    (h : r.Backed holder k) (hholder : holder.WellNamed) : PlainKey r where
  holder := by
    intro name hname
    rw [h.fkEntity] at hname
    cases hname
    exact flat_of_isName hholder.name
  stored := by
    intro property hproperty
    obtain ⟨c, hc, rfl⟩ := h.properties.exists_column property hproperty
    exact flat_of_isName (hholder.property hc)
  referred := by
    intro property hproperty
    obtain ⟨c, hc, rfl⟩ := h.remote.exists_column property hproperty
    exact flat_of_isName (hholder.property hc)

/-- **The entities of a model that was built of a prepared catalog can be written as code**: their names can
stand in it, and the types of their columns and the properties of their keys are flat. Comments and table names
are left out of this, as they are quoted as they stand. -/
theorem entities_writable {p : Option Options} {o : Options} {s s' : Snapshot} {m : Model}
    (hprepared : (s.prepare p).outcome = .ok s') (h : buildModel o s' = .ok m) :
    ∀ e ∈ m.entities, e.Writable := by
  have hs := referring_of_prepare hprepared
  obtain ⟨b, hentities⟩ := exists_built h
  have hnamed : ∀ e ∈ m.entities, e.WellNamed := by
    rw [hentities]
    exact b.wellNamed
  intro e he
  refine ⟨hnamed e he, fun c hc => ?_, fun r hr hkind => ?_⟩
  · rw [hentities] at he
    obtain ⟨d, hd, rfl⟩ := List.mem_map.mp he
    have hproperty := (b.entity_wellNamed hd).property hc
    obtain ⟨c', _, property, type, htype, rfl⟩ := mem_nameColumns (b.drafts_named.2 d hd) hc
    obtain ⟨hhint, hmapped⟩ := resolveType_flat htype
    exact ⟨hproperty, hhint, hmapped⟩
  · rw [hentities] at he
    obtain ⟨d, hd, rfl⟩ := List.mem_map.mp he
    obtain ⟨x, hx, rfl⟩ := List.mem_map.mp hr
    obtain ⟨holder, hholder, _, _, _, k, _, hbacked⟩ :=
      (b.relation_closed hs h hentities hd hx).key hkind
    exact hbacked.plainKey (hnamed holder hholder)

namespace Render

open SchemaScribe.Output SchemaScribe.Text

/-! ## The modules of an entity -/

theorem mem_withTargets {m : Model} {relations : List Relation} {targets : List (Relation × Entity)}
    (h : withTargets m relations = .ok targets) :
    ∀ p ∈ targets, p.1 ∈ relations ∧ p.2 ∈ m.entities := by
  induction relations generalizing targets with
  | nil =>
    cases h
    exact List.forall_mem_nil _
  | cons r rest ih =>
    rw [withTargets] at h
    split at h
    · cases h
    · next target htarget =>
      obtain ⟨more, hmore, hrun⟩ := bind_eq_ok.mp h
      cases hrun
      refine List.forall_mem_cons.mpr ⟨⟨List.mem_cons_self, ?_⟩, fun p hp => ?_⟩
      · exact List.mem_reverse.mp (List.mem_of_find?_eq_some htarget)
      · obtain ⟨hr, htarget⟩ := ih hmore p hp
        exact ⟨List.mem_cons_of_mem r hr, htarget⟩

theorem entityUnit_eq_ok {m : Model} {o : Options} {e : Entity} {u : SourceUnit}
    (h : entityUnit m o e = .ok u) :
    ∃ targets, withTargets m e.relations = .ok targets ∧ u = entityUnitOf m o e targets := by
  unfold entityUnit at h
  cases hrun : withTargets m e.relations with
  | error _ =>
    rw [hrun] at h
    cases h
  | ok targets =>
    rw [hrun] at h
    cases h
    exact ⟨targets, rfl, rfl⟩

theorem tableImports_flat (e : Entity) : (tableImports e).Flat := by
  unfold Imports.Flat tableImports
  rw [List.forall_mem_append]
  constructor
  · split <;> decide
  · split <;> decide

theorem joinTableLines_codeLine (m : Model) (r : Relation) :
    ∀ line ∈ joinTableLines m r, CodeLine line := by
  have hvariable := joinVariable_isName (r.joinTable.getD "")
  unfold joinTableLines
  rw [List.forall_mem_append, List.forall_mem_cons, List.forall_mem_map]
  refine ⟨⟨?_, fun argument hargument => ?_⟩, by decide⟩
  · refine codeLine_of_bare (flat_append.mpr ⟨flat_of_isName hvariable, by decide⟩) ?_
    exact (bare_of_isName hvariable).append _
  · unfold indent
    rw [← String.append_assoc]
    refine codeLine_comma (flat_append.mpr ⟨by decide, ?_⟩)
    exact (joinTableArguments_flat m r argument hargument).shown

theorem tableArgumentLines_codeLine (m : Model) (e : Entity) :
    ∀ line ∈ tableArgumentLines m e, CodeLine line := by
  have hparts := shownAll_flat (allFlat_iff.mpr (tableArguments_flat m e))
  unfold tableArgumentLines
  split
  · exact List.forall_mem_nil _
  · refine List.forall_mem_singleton.mpr (codeLine_of_bare ?_ ((Bare.append ?_ _).append _))
    · rw [flat_append, flat_append]
      exact ⟨⟨by decide, flat_intercalate (by decide) hparts⟩, by decide⟩
    · exact ⟨'_', by decide⟩

theorem ownColumns_sublist (e : Entity) : (ownColumns e).Sublist e.columns := by
  unfold ownColumns
  split
  · exact List.filter_sublist
  · exact List.Sublist.refl _

theorem mem_of_mem_ownColumns {e : Entity} {c : EntityColumn} (h : c ∈ ownColumns e) : c ∈ e.columns :=
  (ownColumns_sublist e).subset h

section

variable {m : Model} {o : Options} (hm : ∀ e ∈ m.entities, e.Writable) {e : Entity} (he : e ∈ m.entities)

include hm he

/-- Everything but the description and the class attributes of an entity module is code. -/
theorem entityUnit_neat {u : SourceUnit} (h : entityUnit m o e = .ok u) : u.Neat := by
  obtain ⟨targets, htargets, rfl⟩ := entityUnit_eq_ok h
  have hwritable := hm e he
  have hname : Flat e.name := flat_of_isName hwritable.named.name
  constructor
  · exact hname
  · show ∀ base ∈ if e.usesIdentity then ["IdentityMixin", "Base"] else ["Base"], Flat base
    split <;> decide
  · show Imports.Flat (_ ++ tableImports e ++ _)
    unfold Imports.Flat
    rw [List.forall_mem_append, List.forall_mem_append]
    refine ⟨⟨?_, tableImports_flat e⟩, ?_⟩
    · split <;> decide
    · split <;> decide
  · show Imports.Flat (((targets.map (·.2)).filter (·.name ≠ e.name)).map _)
    unfold Imports.Flat
    rw [List.forall_mem_map]
    intro target htarget
    obtain ⟨p, hp, rfl⟩ := List.mem_map.mp (List.mem_filter.mp htarget).1
    have hnamed := (hm p.2 (mem_withTargets htargets p hp).2).named
    refine ⟨flat_append.mpr ⟨by decide, flat_of_isName hnamed.fileName⟩, ?_⟩
    exact List.forall_mem_singleton.mpr (flat_of_isName hnamed.name)
  · intro line hline
    obtain ⟨r, _, hline⟩ := List.mem_flatMap.mp hline
    exact joinTableLines_codeLine m r line hline
  · intro f hf
    obtain ⟨c, hc, rfl⟩ := List.mem_map.mp hf
    exact columnFragment_neat e (hwritable.columns c (mem_of_mem_ownColumns hc))
  · intro f hf
    obtain ⟨⟨r, target⟩, hp, rfl⟩ := List.mem_map.mp hf
    obtain ⟨hr, htarget⟩ := mem_withTargets htargets _ hp
    exact relationFragment_neat o hname (hwritable.named.relation hr)
      (flat_of_isName (hm target htarget).named.name) (hwritable.keys r hr)
  · show ∀ code ∈ e.columns.map _ ++ e.relations.map _, Code.Flat code
    rw [List.forall_mem_append, List.forall_mem_map, List.forall_mem_map]
    exact ⟨fun c _ => fieldSpec_flat _ _ _ _, fun r _ => fieldSpec_flat _ _ _ _⟩

end

/-- The description and the class attributes of an entity module have a property if what it quotes has. -/
theorem entityUnit_texts {P : List Char → Prop} (hP : Textual P) {m : Model} {o : Options} {e : Entity}
    {u : SourceUnit} (h : entityUnit m o e = .ok u) (hquoted : ∀ text ∈ e.quoted, P text.toList) :
    P u.doc.toList ∧ ∀ line ∈ u.classAttributes, P line.toList := by
  obtain ⟨targets, _, rfl⟩ := entityUnit_eq_ok h
  obtain ⟨hdoc, hcomment⟩ := List.forall_mem_cons.mp hquoted
  have htable : CodeLine ("__tablename__ = " ++ Text.literal e.table) := by
    refine codeLine_of_bare (flat_append.mpr ⟨by decide, flat_literal e.table⟩) (Bare.append ?_ _)
    exact ⟨'_', by decide⟩
  refine ⟨hdoc, ?_⟩
  show ∀ line ∈ commentLines e.comment ++ _ ++ tableArgumentLines m e, P line.toList
  rw [List.forall_mem_append, List.forall_mem_append]
  exact ⟨⟨hcomment, List.forall_mem_singleton.mpr (hP.codeLine _ htable)⟩,
    fun line hline => hP.codeLine line (tableArgumentLines_codeLine m e line hline)⟩

theorem inputUnit_neat (o : Options) {e : Entity} (h : e.Writable) : (inputUnit o e).Neat := by
  have hcolumns : ∀ c ∈ inputColumns o e, PlainColumn c := fun c hc =>
    h.columns c (List.mem_filter.mp hc).1
  constructor
  · exact flat_of_isName h.named.inputName
  · show ∀ base ∈ ["BaseInput"], Flat base
    decide
  · show Imports.Flat [(baseImport, ["BaseInput", "FieldSpec"])]
    decide
  · exact List.forall_mem_nil _
  · exact List.forall_mem_nil _
  · intro f hf
    obtain ⟨c, hc, rfl⟩ := List.mem_map.mp hf
    exact inputFragment_neat (hcolumns c hc)
  · exact List.forall_mem_nil _
  · show ∀ code ∈ (inputColumns o e).map _, Code.Flat code
    rw [List.forall_mem_map]
    exact fun c _ => fieldSpec_flat _ _ _ _

theorem inputUnit_classAttributes (o : Options) (e : Entity) : (inputUnit o e).classAttributes = [] := rfl

theorem inputFile_content (o : Options) (e : Entity) :
    (inputFile o e).content = (inputUnit o e).shown := by
  simp only [inputFile]

/-- An input module is described by the name of its entity, which is code. -/
theorem inputUnit_doc {P : List Char → Prop} (hP : Textual P) (o : Options) {e : Entity}
    (h : e.Writable) : P (inputUnit o e).doc.toList := by
  have hname : CodeLine ("Input model for entity ``" ++ e.name ++ "``.") := by
    refine codeLine_of_bare ?_ ((Bare.append ?_ _).append _)
    · rw [flat_append, flat_append]
      exact ⟨⟨by decide, flat_of_isName h.named.name⟩, by decide⟩
    · exact ⟨'I', by decide⟩
  refine hP.unlines.mpr (List.forall_mem_cons.mpr ⟨hP.codeLine _ hname, ?_⟩)
  exact List.forall_mem_singleton.mpr (hP.codeLine _ (by decide))

/-! ## The files of a package -/

/-- The files of a package are the shared bases, what was rendered of entities, and the files of its packages. -/
theorem of_mem_renderPackage {m : Model} {render : EntityRenderer} {f : GeneratedFile}
    (h : f ∈ (renderPackage m render).files) :
    (f = baseFile ∨ ∃ wanted, f ∈ packageFiles m wanted) ∨
      ∃ e ∈ m.entities, ∃ files, render e = .ok files ∧ f ∈ files := by
  have hfiles : ∀ f ∈ (renderEntities m render).flatMap (fun entry => filesOf entry.2),
      ∃ e ∈ m.entities, ∃ files, render e = .ok files ∧ f ∈ files := by
    intro f hf
    obtain ⟨entry, hentry, hf⟩ := List.mem_flatMap.mp hf
    rw [renderEntities_eq] at hentry
    obtain ⟨e, he, rfl⟩ := List.mem_map.mp hentry
    obtain ⟨name, _, hfound⟩ := List.mem_filterMap.mp he
    refine ⟨e, List.mem_reverse.mp (List.mem_of_find?_eq_some hfound), ?_⟩
    cases hrender : render e with
    | error _ =>
      rw [hrender] at hf
      cases hf
    | ok files =>
      rw [hrender] at hf
      exact ⟨files, rfl, hf⟩
  rcases List.mem_append.mp h with h | h
  · rcases List.mem_append.mp h with h | h
    · rcases List.mem_cons.mp h with rfl | h
      · exact .inl (.inl rfl)
      · exact .inr (hfiles f (List.mem_filter.mp h).1)
    · exact .inr (hfiles f (List.mem_filter.mp h).1)
  · exact .inl (.inr ⟨_, h⟩)

/-- What is rendered of an entity is its module and its input module. -/
theorem mem_renderPackage {m : Model} {o : Options} {f : GeneratedFile}
    (h : f ∈ (renderPackage m (entityFiles m o)).files) :
    (f = baseFile ∨ ∃ wanted, f ∈ packageFiles m wanted) ∨
      ∃ e ∈ m.entities, entityFile m o e = .ok f ∨ f = inputFile o e := by
  refine (of_mem_renderPackage h).imp_right fun ⟨e, he, files, hrender, hf⟩ => ⟨e, he, ?_⟩
  obtain ⟨file, hfile, rfl⟩ := entityFiles_eq_ok hrender
  rcases List.mem_cons.mp hf with rfl | hf
  · exact .inl hfile
  · exact .inr (List.mem_singleton.mp hf)

/-- A path of an entity module or of an input module. -/
def IsModule (path : String) : Prop :=
  ∃ name, IsName name ∧ (path = modulePath entitiesPackage name ∨ path = modulePath inputsPackage name)

theorem modulePath_ne {name name' : String} :
    modulePath entitiesPackage name ≠ modulePath inputsPackage name' := by
  have hentities : entitiesPackage.toList.head? = some 'e' := by decide
  have hinputs : inputsPackage.toList.head? = some 'i' := by decide
  intro h
  have hentity := modulePaths_head? hentities _ (List.mem_map_of_mem (List.mem_singleton_self name))
  have hinput := modulePaths_head? hinputs _ (List.mem_map_of_mem (List.mem_singleton_self name'))
  rw [h, hinput] at hentity
  cases hentity

theorem slash_mem_modulePath (package file : String) : '/' ∈ (modulePath package file).toList := by
  unfold modulePath
  rw [String.append_assoc, String.append_assoc, String.toList_append]
  refine List.mem_append_right _ ?_
  rw [String.toList_append]
  exact List.mem_append_left _ (by decide)

/-- Neither the shared bases nor the files of packages are modules of entities. -/
theorem not_isModule {m : Model} {f : GeneratedFile}
    (h : f = baseFile ∨ ∃ wanted, f ∈ packageFiles m wanted) : ¬ IsModule f.path := by
  have hfixed : ∀ {path : String}, '/' ∉ path.toList → ¬ IsModule path := by
    rintro path hslash ⟨name, _, rfl | rfl⟩
    · exact hslash (slash_mem_modulePath _ name)
    · exact hslash (slash_mem_modulePath _ name)
  have hentities : entitiesPackage ++ "/__init__.py" = modulePath entitiesPackage "__init__" := by decide
  have hinputs : inputsPackage ++ "/__init__.py" = modulePath inputsPackage "__init__" := by decide
  rcases h with rfl | ⟨wanted, h⟩
  · exact hfixed (by decide)
  · unfold packageFiles at h
    rcases List.mem_cons.mp h with rfl | h
    · show ¬ IsModule (entitiesPackage ++ "/__init__.py")
      rw [hentities]
      rintro ⟨name, hname, hmodule | hmodule⟩
      · rw [← modulePath_injective _ hmodule] at hname
        exact not_isName_init hname
      · exact modulePath_ne hmodule
    · rcases List.mem_cons.mp h with rfl | h
      · show ¬ IsModule (inputsPackage ++ "/__init__.py")
        rw [hinputs]
        rintro ⟨name, hname, hmodule | hmodule⟩
        · exact modulePath_ne hmodule.symm
        · rw [← modulePath_injective _ hmodule] at hname
          exact not_isName_init hname
      · rw [List.mem_singleton.mp h]
        exact hfixed (by decide)

/-- **What an entity module of a package quotes has a property.** -/
def Quoting (P : List Char → Prop) (m : Model) (path : String) : Prop :=
  ∀ e ∈ m.entities, path = modulePath entitiesPackage e.fileName → ∀ text ∈ e.quoted, P text.toList

theorem entityFile_unit {m : Model} {o : Options} {e : Entity} {f : GeneratedFile}
    (h : entityFile m o e = .ok f) : ∃ u, entityUnit m o e = .ok u ∧ f.content = u.shown := by
  unfold entityFile at h
  cases hunit : entityUnit m o e with
  | error _ =>
    rw [hunit] at h
    cases h
  | ok u =>
    rw [hunit, Except.map] at h
    rw [← Except.ok.inj h]
    exact ⟨u, rfl, by dsimp only⟩

theorem return_mem_indent {s : String} : '\r' ∈ (indent s).toList ↔ '\r' ∈ s.toList := by
  unfold indent
  rw [String.toList_append, List.mem_append, or_iff_right (by decide)]

theorem not_mem_ofList {c : Char} {s : List Char} (h : c ∉ s) : c ∉ (String.ofList s).toList := by
  rwa [String.toList_ofList]

theorem baseFile_noReturn : '\r' ∉ baseFile.content.toList := by
  have hlines : ∀ line ∈ baseLines, '\r' ∉ line.toList := by
    unfold baseLines customBegin customEnd
    simp only [List.forall_mem_cons, return_mem_indent]
    and_intros
    -- a constant text is the text of its characters, which the kernel need not decode
    all_goals first | exact not_mem_ofList (by decide) | exact List.forall_mem_nil _
  simp only [baseFile]
  exact textual_noReturn.unlines.mpr hlines

/-- The lines of a file that makes a directory a package. -/
def packageLines (doc : String) (statements names : List String) : List String :=
  ["\"\"\"", doc, "\"\"\"", ""] ++ (if statements.isEmpty then [] else statements ++ [""]) ++
    ["__all__ = ["] ++ names.map (fun name => indent (literal name ++ ",")) ++ ["]", ""]

theorem packageFile_content (path doc : String) (statements names : List String) :
    (packageFile path doc statements names).content = unlines (packageLines doc statements names) := rfl

theorem packageLines_flat {doc : String} {statements : List String} (names : List String) (hdoc : Flat doc)
    (hstatements : ∀ line ∈ statements, Flat line) : ∀ line ∈ packageLines doc statements names, Flat line := by
  have hempty : ∀ line ∈ [""], Flat line := by decide
  unfold packageLines
  rw [List.forall_mem_append, List.forall_mem_append, List.forall_mem_append, List.forall_mem_append,
    List.forall_mem_map]
  refine ⟨⟨⟨⟨?_, ?_⟩, by decide⟩, fun name _ => ?_⟩, by decide⟩
  · exact List.forall_mem_cons.mpr ⟨by decide, List.forall_mem_cons.mpr ⟨hdoc, by decide⟩⟩
  · split
    · exact List.forall_mem_nil _
    · exact List.forall_mem_append.mpr ⟨hstatements, hempty⟩
  · exact flat_append.mpr ⟨by decide, flat_append.mpr ⟨flat_literal name, by decide⟩⟩

/-- A statement that imports a name from a module beside its file. -/
def importStatement (module name : String) : String := "from ." ++ module ++ " import " ++ name

theorem importStatement_flat {module name : String} (hmodule : IsName module) (hname : IsName name) :
    Flat (importStatement module name) := by
  unfold importStatement
  simp only [flat_append]
  exact ⟨⟨⟨by decide, flat_of_isName hmodule⟩, by decide⟩, flat_of_isName hname⟩

/-- The files that make directories packages import names only. -/
theorem packageFiles_noReturn {m : Model} (hm : ∀ e ∈ m.entities, e.Writable) {wanted : List String}
    {f : GeneratedFile} (hf : f ∈ packageFiles m wanted) : '\r' ∉ f.content.toList := by
  have hnamed : ∀ e ∈ (m.dependencyOrder.filter wanted.contains).filterMap m.entity?, e.WellNamed := by
    intro e he
    obtain ⟨name, _, hfound⟩ := List.mem_filterMap.mp he
    exact (hm e (List.mem_reverse.mp (List.mem_of_find?_eq_some hfound))).named
  have hfile : ∀ {path doc : String} {statements : List String} (names : List String), Flat doc →
      (∀ line ∈ statements, Flat line) → '\r' ∉ (packageFile path doc statements names).content.toList := by
    intro path doc statements names hdoc hstatements
    rw [packageFile_content]
    exact textual_noReturn.unlines.mpr fun line hline => (packageLines_flat names hdoc hstatements line hline).2
  unfold packageFiles at hf
  rcases List.mem_cons.mp hf with rfl | hf
  · refine hfile _ (by decide) (List.forall_mem_map.mpr fun e he => ?_)
    exact importStatement_flat (hnamed e he).fileName (hnamed e he).name
  · rcases List.mem_cons.mp hf with rfl | hf
    · refine hfile _ (by decide) (List.forall_mem_map.mpr fun e he => ?_)
      exact importStatement_flat (hnamed e he).inputFileName (hnamed e he).inputName
    · rw [List.mem_singleton.mp hf]
      exact hfile _ (by decide) (by decide)

section

variable {m : Model} {o : Options} (hm : ∀ e ∈ m.entities, e.Writable) {f : GeneratedFile}
  (hf : f ∈ (renderPackage m (entityFiles m o)).files)

include hm hf

/-- **A module is fresh** where it quotes nothing that opens a custom region: its one region is empty and stands
at its end. What a module quotes are the table name and the comment of its entity, and no others of its texts
can open a region. -/
theorem fresh_of_quoting (hmodule : IsModule f.path) (hquoted : Quoting Unopened m f.path) :
    Fresh f.content.toList := by
  rcases mem_renderPackage hf with hfixed | ⟨e, he, hfile | rfl⟩
  · exact absurd hmodule (not_isModule hfixed)
  · obtain ⟨u, hu, hcontent⟩ := entityFile_unit hfile
    obtain ⟨hdoc, hattributes⟩ := entityUnit_texts textual_unopened hu
      (hquoted e he (entityFile_eq_ok hfile).1)
    rw [hcontent]
    exact (entityUnit_neat hm he hu).fresh hdoc hattributes
  · rw [inputFile_content]
    have hdoc := inputUnit_doc textual_unopened o (hm e he)
    exact (inputUnit_neat o (hm e he)).fresh hdoc (inputUnit_classAttributes o e ▸ List.forall_mem_nil _)

/-- **A file has no carriage returns** where it quotes none. This holds of all files of a package, of which only
the modules of entities quote anything. -/
theorem noReturn_of_quoting (hquoted : Quoting (fun s => '\r' ∉ s) m f.path) :
    '\r' ∉ f.content.toList := by
  rcases mem_renderPackage hf with (rfl | ⟨wanted, hfixed⟩) | ⟨e, he, hfile | rfl⟩
  · exact baseFile_noReturn
  · exact packageFiles_noReturn hm hfixed
  · obtain ⟨u, hu, hcontent⟩ := entityFile_unit hfile
    obtain ⟨hdoc, hattributes⟩ := entityUnit_texts textual_noReturn hu
      (hquoted e he (entityFile_eq_ok hfile).1)
    rw [hcontent]
    exact (entityUnit_neat hm he hu).noReturn hdoc hattributes
  · rw [inputFile_content]
    have hdoc := inputUnit_doc textual_noReturn o (hm e he)
    exact (inputUnit_neat o (hm e he)).noReturn hdoc
      (inputUnit_classAttributes o e ▸ List.forall_mem_nil _)

end

end Render

end SchemaScribe
