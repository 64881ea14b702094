import SchemaScribe.Proofs.Model.Order
import SchemaScribe.Proofs.Model.WellNamed
import SchemaScribe.Render.Package

/-!
# The files of a package do not collide

The paths of a package are those of the shared bases, of the modules of the entities that were rendered,
and of the three files that make packages (`renderPackage_paths`). Within a directory they differ because
modules are named by names, of which none is `__init__`; across directories they differ in their first
character. A path has its dots behind its slash, so none leads through another (`SideBySide`).

For a built model this rests on its entities being well named and staying apart.
-/

namespace SchemaScribe.Render

open SchemaScribe.Catalog

/-! ## Paths side by side -/

/-- **Paths that can be written side by side**: none twice, and none a directory on the way to another. -/
structure SideBySide (paths : List String) : Prop where
  distinct : paths.Nodup
  noDirectory : ∀ p ∈ paths, ∀ q ∈ paths, ¬ (p ++ "/").toList <+: q.toList

/-- A path to a file with an ending: it has a dot, and no slash behind a dot. -/
structure LeadsToFile (path : String) : Prop where
  ending : '.' ∈ path.toList
  slashes : path.toList.Pairwise fun a b => a = '.' → b ≠ '/'

theorem LeadsToFile.not_isPrefix {p q : String} (hp : LeadsToFile p) (hq : LeadsToFile q) :
    ¬ (p ++ "/").toList <+: q.toList := by
  intro hprefix
  have hslashes := hq.slashes.sublist hprefix.sublist
  rw [String.toList_append] at hslashes
  have hslash : '/' ∈ "/".toList := by decide
  exact (List.pairwise_append.mp hslashes).2.2 '.' hp.ending '/' hslash rfl rfl

theorem modulePath_leadsToFile {package file : String} (hpackage : '.' ∉ package.toList)
    (hfile : '/' ∉ file.toList) : LeadsToFile (modulePath package file) := by
  have hending : '/' ∉ (file ++ ".py").toList := by
    rw [String.toList_append]
    exact fun h => (List.mem_append.mp h).elim hfile (by decide)
  have hfront : '.' ∉ (package ++ "/").toList := by
    rw [String.toList_append]
    exact fun h => (List.mem_append.mp h).elim hpackage (by decide)
  have hpath : (modulePath package file).toList = (package ++ "/").toList ++ (file ++ ".py").toList := by
    simp only [modulePath, String.toList_append, List.append_assoc]
  constructor
  · rw [hpath]
    refine List.mem_append_right _ ?_
    rw [String.toList_append]
    exact List.mem_append_right _ (by decide)
  · rw [hpath]
    refine List.pairwise_append.mpr ⟨?_, ?_, ?_⟩
    · exact List.pairwise_of_forall_mem_list fun a ha _ _ heq => absurd (heq ▸ ha) hfront
    · exact List.pairwise_of_forall_mem_list fun _ _ b hb _ heq => hending (heq ▸ hb)
    · exact fun _ _ b hb _ heq => hending (heq ▸ hb)

theorem modulePath_injective (package : String) : (modulePath package).Injective := by
  intro file file' h
  unfold modulePath at h
  exact (String.append_right_inj _).mp ((String.append_left_inj _).mp h)

/-! ## The paths of a package -/

/-- The paths of a package with some entity modules and some input modules. -/
def packagePaths (entityModules inputModules : List String) : List String :=
  (baseModule ++ ".py") :: entityModules.map (modulePath entitiesPackage) ++
    inputModules.map (modulePath inputsPackage) ++
    [modulePath entitiesPackage "__init__", modulePath inputsPackage "__init__", "__init__.py"]

/-- Paths into different directories start with different characters. -/
theorem modulePaths_head? {package : String} {c : Char} (h : package.toList.head? = some c)
    {modules : List String} :
    ∀ path ∈ modules.map (modulePath package), path.toList.head? = some c := by
  intro path hpath
  obtain ⟨name, _, rfl⟩ := List.mem_map.mp hpath
  simp only [modulePath, String.toList_append, List.head?_append, h, Option.some_or]

theorem not_isName_init : ¬ IsName "__init__" := by decide

theorem packagePaths_leadToFiles {entityModules inputModules : List String}
    (hnames : ∀ name ∈ entityModules ++ inputModules, IsName name) :
    ∀ path ∈ packagePaths entityModules inputModules, LeadsToFile path := by
  have hslash : ∀ name ∈ entityModules ++ inputModules, '/' ∉ name.toList := fun name hname =>
    (hnames name hname).not_mem (by decide) (by decide)
  intro path hpath
  unfold packagePaths at hpath
  simp only [List.cons_append, List.mem_cons, List.mem_append, List.mem_map, List.not_mem_nil,
    or_false] at hpath
  rcases hpath with rfl | ⟨⟨name, hname, rfl⟩ | ⟨name, hname, rfl⟩⟩ | rfl | rfl | rfl
  · exact ⟨by decide, by decide⟩
  · exact modulePath_leadsToFile (by decide) (hslash name (List.mem_append_left _ hname))
  · exact modulePath_leadsToFile (by decide) (hslash name (List.mem_append_right _ hname))
  · exact modulePath_leadsToFile (by decide) (by decide)
  · exact modulePath_leadsToFile (by decide) (by decide)
  · exact ⟨by decide, by decide⟩

/-- The modules of a package with its own file among them have different paths. -/
theorem modulePaths_nodup (package : String) {modules : List String} (h : modules.Nodup)
    (hnames : ∀ name ∈ modules, IsName name) :
    (("__init__" :: modules).map (modulePath package)).Nodup := by
  refine List.Nodup.map (modulePath_injective package) (List.nodup_cons.mpr ⟨fun hinit => ?_, h⟩)
  exact not_isName_init (hnames "__init__" hinit)

theorem packagePaths_nodup {entityModules inputModules : List String}
    (hentities : entityModules.Nodup) (hinputs : inputModules.Nodup)
    (hnames : ∀ name ∈ entityModules ++ inputModules, IsName name) :
    (packagePaths entityModules inputModules).Nodup := by
  have hperm : (packagePaths entityModules inputModules).Perm
      ([baseModule ++ ".py", "__init__.py"] ++
        ("__init__" :: entityModules).map (modulePath entitiesPackage) ++
        ("__init__" :: inputModules).map (modulePath inputsPackage)) := by
    refine List.perm_iff_count.mpr fun path => ?_
    simp only [packagePaths, List.count_append, List.count_cons, List.count_nil, List.map_cons,
      List.cons_append]
    omega
  rw [hperm.nodup_iff]
  have hroot : ∀ path ∈ [baseModule ++ ".py", "__init__.py"],
      path.toList.head? ≠ some 'e' ∧ path.toList.head? ≠ some 'i' := by decide
  have hentity : entitiesPackage.toList.head? = some 'e' := by decide
  have hinput : inputsPackage.toList.head? = some 'i' := by decide
  refine List.nodup_append.mpr ⟨List.nodup_append.mpr ⟨by decide, ?_, ?_⟩, ?_, ?_⟩
  · exact modulePaths_nodup _ hentities fun name hname => hnames name (List.mem_append_left _ hname)
  · rintro path hpath _ hpath' rfl
    exact (hroot path hpath).1 (modulePaths_head? hentity path hpath')
  · exact modulePaths_nodup _ hinputs fun name hname => hnames name (List.mem_append_right _ hname)
  · rintro path hpath _ hpath' rfl
    have hstart := modulePaths_head? hinput path hpath'
    rcases List.mem_append.mp hpath with hpath | hpath
    · exact (hroot path hpath).2 hstart
    · rw [modulePaths_head? hentity path hpath] at hstart
      exact absurd hstart (by decide)

/-- Modules that are named by distinct names make a package whose files can be written side by side. -/
theorem packagePaths_sideBySide {entityModules inputModules : List String}
    (hentities : entityModules.Nodup) (hinputs : inputModules.Nodup)
    (hnames : ∀ name ∈ entityModules ++ inputModules, IsName name) :
    SideBySide (packagePaths entityModules inputModules) where
  distinct := packagePaths_nodup hentities hinputs hnames
  noDirectory := fun p hp q hq =>
    (packagePaths_leadToFiles hnames p hp).not_isPrefix (packagePaths_leadToFiles hnames q hq)

/-! ## The paths that are rendered -/

/-- A renderer that makes an entity its two modules, where it makes anything of it. -/
structure RendersModules (render : EntityRenderer) : Prop where
  entity : ∀ (e : Entity) (files : List GeneratedFile), render e = .ok files →
    (files.filter (·.kind = .entity)).map (·.path) = [modulePath entitiesPackage e.fileName]
  input : ∀ (e : Entity) (files : List GeneratedFile), render e = .ok files →
    (files.filter (·.kind = .input)).map (·.path) = [modulePath inputsPackage e.inputFileName]

theorem entityFiles_eq_ok {m : Model} {o : Options} {e : Entity} {files : List GeneratedFile}
    (h : entityFiles m o e = .ok files) :
    ∃ file, entityFile m o e = .ok file ∧ files = [file, inputFile o e] := by
  unfold entityFiles at h
  split at h
  · next file hfile =>
    cases h
    exact ⟨file, hfile, rfl⟩
  · cases h

theorem entityFile_eq_ok {m : Model} {o : Options} {e : Entity} {file : GeneratedFile}
    (h : entityFile m o e = .ok file) :
    file.path = modulePath entitiesPackage e.fileName ∧ file.kind = .entity ∧ file.standIns = e.standIns := by
  unfold entityFile at h
  cases hunit : entityUnit m o e with
  | error _ =>
    rw [hunit] at h
    cases h
  | ok unit =>
    rw [hunit] at h
    cases h
    exact ⟨rfl, rfl, rfl⟩

theorem entityFiles_rendersModules (m : Model) (o : Options) : RendersModules (entityFiles m o) where
  entity := by
    intro e files h
    obtain ⟨file, hfile, rfl⟩ := entityFiles_eq_ok h
    obtain ⟨hpath, hkind, _⟩ := entityFile_eq_ok hfile
    rw [List.filter_cons_of_pos (by rw [hkind]; decide), ← hpath]
    rfl
  input := by
    intro e files h
    obtain ⟨file, hfile, rfl⟩ := entityFiles_eq_ok h
    obtain ⟨_, hkind, _⟩ := entityFile_eq_ok hfile
    rw [List.filter_cons_of_neg (by rw [hkind]; decide)]
    rfl

/-- The entities that a renderer makes something of, in dependency order. -/
def rendered (m : Model) (render : EntityRenderer) : List Entity :=
  m.ordered.filter fun e => (render e).isOk

theorem renderEntities_eq (m : Model) (render : EntityRenderer) :
    renderEntities m render = m.ordered.map fun e => (e.name, render e) := by
  unfold renderEntities Model.ordered
  rw [List.map_filterMap]
  refine List.filterMap_congr fun name _ => ?_
  cases he : m.entity? name with
  | none => rfl
  | some e => rw [Option.map_some, Option.map_some, Model.name_of_entity? he]

/-- The files that an outcome holds. -/
def filesOf : Except RenderFault (List GeneratedFile) → List GeneratedFile
  | .ok files => files
  | .error _ => []

/-- The paths of the files of a kind are those that the entities were rendered to. -/
theorem paths_of_kind {render : EntityRenderer} {kind : FileKind} {place : Entity → String}
    (h : ∀ (e : Entity) (files : List GeneratedFile), render e = .ok files →
      (files.filter (·.kind = kind)).map (·.path) = [place e]) (entities : List Entity) :
    ((entities.flatMap fun e => filesOf (render e)).filter (·.kind = kind)).map (·.path) =
      (entities.filter fun e => (render e).isOk).map place := by
  induction entities with
  | nil => rfl
  | cons e rest ih =>
    rw [List.flatMap_cons, List.filter_append, List.map_append, ih]
    cases hrender : render e with
    | error _ =>
      rw [List.filter_cons_of_neg (by rw [hrender]; exact Bool.false_ne_true)]
      rfl
    | ok files =>
      rw [List.filter_cons_of_pos (by rw [hrender]; rfl), List.map_cons, filesOf, h e files hrender]
      rfl

/-- **The paths of a package** are those of the modules of the entities that were rendered, in dependency order,
between the shared bases and the files that make packages. The renderer is arbitrary as long as it makes the two
modules of an entity or fails. -/
theorem renderPackage_paths {m : Model} {render : EntityRenderer} (h : RendersModules render) :
    (renderPackage m render).files.map (·.path) =
      packagePaths ((rendered m render).map (·.fileName)) ((rendered m render).map (·.inputFileName)) := by
  have hentities := paths_of_kind h.entity m.ordered
  have hinputs := paths_of_kind h.input m.ordered
  have hfiles : ((renderEntities m render).flatMap fun entry => filesOf entry.2) =
      m.ordered.flatMap fun e => filesOf (render e) := by
    rw [renderEntities_eq, List.flatMap_map]
  rw [← hfiles] at hentities hinputs
  unfold packagePaths rendered
  rw [List.map_map, List.map_map]
  show (baseFile.path :: (List.filter _ _ ++ List.filter _ _ ++ packageFiles m _).map _) = _
  rw [List.map_append, List.map_append]
  exact congrArg₂ (fun entity input => _ :: (entity ++ input ++ _)) hentities hinputs

/-- Renderings are some of the entities in another order. -/
theorem rendered_nodup {m : Model} {f : Entity → String} (hnames : m.names.Nodup)
    (h : (m.entities.map f).Nodup) (render : EntityRenderer) :
    ((rendered m render).map f).Nodup :=
  (List.filter_sublist.map f).nodup (((Model.ordered_perm hnames).map f).nodup_iff.mpr h)

theorem mem_of_mem_rendered {m : Model} {render : EntityRenderer} {e : Entity}
    (hnames : m.names.Nodup) (h : e ∈ rendered m render) : e ∈ m.entities :=
  (Model.ordered_perm hnames).mem_iff.mp (List.mem_filter.mp h).1

/-! ## Built models -/

theorem entities_apart {o : Options} {s : Snapshot} {m : Model} (h : buildModel o s = .ok m) :
    m.entities.Pairwise Entity.Apart := by
  obtain ⟨b, hentities⟩ := exists_built h
  rw [hentities]
  exact b.apart

/-- The modules of the package of a built model are named by distinct names, whatever entities are left
out. -/
theorem exists_packagePaths {o : Options} {s : Snapshot} {m : Model} {render : EntityRenderer}
    (h : buildModel o s = .ok m) (hrender : RendersModules render) :
    ∃ entityModules inputModules,
      (renderPackage m render).files.map (·.path) = packagePaths entityModules inputModules ∧
      entityModules.Nodup ∧ inputModules.Nodup ∧ ∀ name ∈ entityModules ++ inputModules, IsName name := by
  have hapart := entities_apart h
  obtain ⟨b, hentities⟩ := exists_built h
  have hwell : ∀ e ∈ m.entities, e.WellNamed := by
    rw [hentities]
    exact b.wellNamed
  have hnames : m.names.Nodup := List.pairwise_map.mpr (hapart.imp fun {_ _} ha => ha.name)
  refine ⟨_, _, renderPackage_paths hrender, ?_, ?_, fun name hname => ?_⟩
  · exact rendered_nodup hnames (List.pairwise_map.mpr (hapart.imp fun {_ _} ha => ha.fileName)) _
  · exact rendered_nodup hnames (List.pairwise_map.mpr (hapart.imp fun {_ _} ha => ha.inputFileName)) _
  · rcases List.mem_append.mp hname with hname | hname
    · obtain ⟨e, he, rfl⟩ := List.mem_map.mp hname
      exact (hwell e (mem_of_mem_rendered hnames he)).fileName
    · obtain ⟨e, he, rfl⟩ := List.mem_map.mp hname
      exact (hwell e (mem_of_mem_rendered hnames he)).inputFileName

/-- **The output of a built model does not collide**: its entities share no class name and no module, and the
paths of its package can be written side by side. The options that the model was built with may differ from
those that it is rendered with. What becomes of files at these paths is left to the laws of writing. -/
theorem package_sideBySide {o o' : Options} {s : Snapshot} {m : Model} (h : buildModel o s = .ok m) :
    m.entities.Pairwise Entity.Apart ∧
      SideBySide ((renderPackage m (entityFiles m o')).files.map (·.path)) := by
  refine ⟨entities_apart h, ?_⟩
  obtain ⟨entityModules, inputModules, hpaths, hentities, hinputs, hnames⟩ :=
    exists_packagePaths h (entityFiles_rendersModules m o')
  rw [hpaths]
  exact packagePaths_sideBySide hentities hinputs hnames

/-- So do the two entities of a small model, although one table was called like the other. -/
theorem package_sideBySide_staff :
    ∃ m, buildModel {} staff = .ok m ∧ m.entities.map (·.name) = ["Person", "Person2"] ∧
      m.entities.Pairwise Entity.Apart ∧
      SideBySide ((renderPackage m (entityFiles m {})).files.map (·.path)) := by
  obtain ⟨m, hm, hnames, _⟩ := exists_staffModel
  exact ⟨m, hm, hnames, package_sideBySide hm⟩

end SchemaScribe.Render
