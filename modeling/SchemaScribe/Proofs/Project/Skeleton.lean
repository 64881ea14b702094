import Mathlib.Data.List.TakeWhile
import SchemaScribe.Config.Settings
import SchemaScribe.Project.Skeleton
import SchemaScribe.Proofs.Connection.Descriptor
import SchemaScribe.Proofs.Document.Yaml
import SchemaScribe.Proofs.Files.Tree
import SchemaScribe.Proofs.Render.Flat

/-!
# Fresh projects and their connections

What a fresh project says of its connection is read back: the settings give the descriptor that was asked for, and
the folder of the models below the package, as long as a document is loaded as it was written
(`create_agrees`). The requirements in the build file are those of the engine among the settings. A locator selects
a dialect of its own, which wins over the engine everywhere else, so they are those of the dialect if and only if
both need the same driver.
-/

namespace SchemaScribe

open SchemaScribe.Connection SchemaScribe.Document SchemaScribe.Files SchemaScribe.Files.FileTree SchemaScribe.Text
open SchemaScribe.Render (Flat flat_append flat_of_forall flat_of_isName)

/-! ## Settings that are read back -/

namespace Config

/-- A configuration that was written is loaded. -/
theorem load_of_stored {t : FileTree} {p : Path} {text : String} {entries : Entries}
    (h : t.Stored p text.toUTF8) (hreturn : '\r' ∉ text.toList) (hparse : parse p text = .ok (.map entries)) :
    load t p = .ok entries := by
  obtain ⟨hlocate, hentry⟩ := read_eq_ok.mp h.read
  have hholds : t.holds p = .ok true := by
    unfold holds
    rw [hlocate]
    dsimp only
    rw [hentry]
    rfl
  have hfile : t.isFile p = true := by
    have hat : t.at? p = some (.file text.toUTF8) := by
      unfold at?
      rw [hlocate]
      exact hentry
    unfold isFile
    rw [hat]
  have hread : t.readText p = .ok text := by
    rw [h.readText, asRead_of_not_mem hreturn]
  unfold load
  rw [hholds, hfile, hread]
  dsimp only [Except.mapError, bind, Except.bind, Bool.not_true, Bool.false_eq_true, if_false]
  rw [hparse]
  rfl

/-- The settings of a configuration with both sections are those of the sections. -/
theorem settings_sections {connection generation : List (String × Scalar)} {d : Descriptor} {o : Options}
    (hconnection : connection ≠ []) (hgeneration : generation ≠ [])
    (hd : Descriptor.reader (.map (settingsEntries connection)) = .ok d)
    (ho : Options.reader (.map (settingsEntries generation)) = .ok o) :
    settings [(.text "connection", .map (settingsEntries connection)),
      (.text "generation", .map (settingsEntries generation))] [] [] = .ok (d, o) := by
  have hfilled : ∀ {entries : List (String × Scalar)}, entries ≠ [] →
      (Value.map (settingsEntries entries)).isVoid = false := by
    intro entries hne
    show (settingsEntries entries).isEmpty = false
    rw [settingsEntries, List.isEmpty_map]
    exact List.isEmpty_eq_false_iff.mpr hne
  have hsections : ∀ {name : String} {entries : List (String × Scalar)}, entries ≠ [] →
      entryAt? (.text name) [((.text "connection" : Scalar), Value.map (settingsEntries connection)),
        (.text "generation", .map (settingsEntries generation))] = some (.map (settingsEntries entries)) →
      sectionEntries [(.text "connection", .map (settingsEntries connection)),
        (.text "generation", .map (settingsEntries generation))] name [] = .ok (settingsEntries entries) := by
    intro name entries hne hentry
    unfold sectionEntries sectionValue
    rw [hentry]
    dsimp only
    rw [hfilled hne]
    rfl
  unfold settings
  rw [hsections hconnection rfl, hsections hgeneration rfl]
  dsimp only [bind, Except.bind]
  rw [hd, ho]
  rfl

end Config

/-! ## Options -/

theorem reader_generationSettings (n : Project.Names) :
    Options.reader (.map (settingsEntries (Project.generationSettings n))) =
      .ok { outputDir := n.package ++ "/models" } := by
  have hpath : n.package ++ "/models" ≠ "" := by simp
  have hoption : ∀ name, (Value.map (settingsEntries (Project.generationSettings n))).get? name =
      (entryAt? name (Project.generationSettings n)).map Value.scalar := fun name => get?_settingsEntries name _
  have hfields : ∀ s ∈ Project.generationSettings n, s.1 ∈ Options.fields := by
    simp [Project.generationSettings, Options.fields]
  unfold Options.reader
  rw [record_settingsEntries hfields]
  simp only [Read.fieldOr, hoption]
  simp only [Project.generationSettings, entryAt?, List.find?_cons, decide_true, decide_false, String.reduceEq,
    List.find?_nil, Option.map_some, Option.map_none]
  have hdirectory : Read.filledText (.text (n.package ++ "/models")) = .ok ⟨n.package ++ "/models", hpath⟩ :=
    dif_neg hpath
  rw [hdirectory]
  rfl

/-! ## Names -/

theorem Text.kebabChars_characters {s : List Char} : ∀ c ∈ kebabChars s, c.isAlphanum = true ∨ c = '-' := by
  unfold kebabChars
  refine forall_mem_joined (List.forall_mem_singleton.mpr (.inr rfl)) (List.forall_mem_map.mpr ?_)
  intro word hword
  refine List.forall_mem_map.mpr fun c hc => .inl ?_
  rw [isAlphanum_toLower]
  exact List.all_eq_true.mp (List.mem_filter.mp hword).2 c hc

namespace Project

variable {request : String} {n : Names}

/-- The names of a project: the folder has no line ends, and the package is a name of the language. -/
theorem flat_and_isName (h : namesOf request = .ok n) : Flat n.folder ∧ IsName n.package := by
  unfold namesOf Names.ofRequest? at h
  dsimp only at h
  split at h
  · next found hfound =>
    obtain rfl := Except.ok.inj h
    split at hfound
    · cases hfound
    · obtain rfl := Option.some.inj hfound
      refine ⟨flat_of_forall fun c hc => ?_, toIdentifier_isName _⟩
      unfold toKebab at hc
      rw [String.toList_ofList] at hc
      have hcharacter := kebabChars_characters c hc
      constructor
      · rintro rfl
        simp at hcharacter
      · rintro rfl
        simp at hcharacter
  · cases h

/-! ## Places -/

theorem intercalate_pair (above last : String) : "/".intercalate [above, last] = above ++ ("/" ++ last) := by
  rw [String.intercalate_cons_cons, String.intercalate_singleton, String.append_assoc]

/-- The paths of the files of a project, by their parts. -/
def fileParts (n : Names) : List (List String) := [
  ["README.md"], ["pyproject.toml"], [".gitignore"], [configName], [n.package, "__init__.py"],
  [n.package, "models", "__init__.py"]]

/-- The parts of these paths go down. -/
theorem down_fileParts (h : IsName n.package) : ∀ parts ∈ fileParts n, parts ≠ [] ∧
    ∀ part ∈ parts, '/' ∉ part.toList ∧ part ≠ "" ∧ part ≠ "." ∧ part ≠ ".." := by
  have hdot : '.' ∉ n.package.toList := IsIdentifier.not_mem h (by decide) (by decide)
  have hne : n.package ≠ "" ∧ n.package ≠ "." ∧ n.package ≠ ".." := by
    refine ⟨fun hempty => h.filled (by rw [hempty]; rfl), fun hone => hdot ?_, fun htwo => hdot ?_⟩
    · rw [hone]
      decide
    · rw [htwo]
      decide
  have hslash : '/' ∉ n.package.toList := IsIdentifier.not_mem h (by decide) (by decide)
  simp [fileParts, configName, hslash, hne]

theorem ofString_fileParts (h : IsName n.package) : ∀ parts ∈ fileParts n,
    Path.ofString ("/".intercalate parts) = ⟨false, parts⟩ := by
  intro parts hparts
  obtain ⟨hne, hdown⟩ := down_fileParts h parts hparts
  refine Path.ofString_intercalate hne fun part hpart => ?_
  obtain ⟨hslash, hempty, hdot, _⟩ := hdown part hpart
  exact ⟨hslash, hempty, hdot⟩

theorem paths_files (h : IsName n.package) (d : Descriptor) :
    (files n d).map (fun f => Path.ofString f.1) = (fileParts n).map (Files.Path.mk false) := by
  have hnames : (files n d).map (·.1) = (fileParts n).map "/".intercalate := by
    simp only [files, fileParts, List.map_cons, List.map_nil, String.intercalate_cons_cons,
      String.intercalate_singleton, String.append_assoc]
    rfl
  rw [← List.map_congr_left (ofString_fileParts h), ← Function.comp_def Path.ofString, ← List.map_map, hnames,
    List.map_map]
  rfl

/-- Below a folder, a path that goes down leads to the place that its parts name. -/
theorem place_join {t : FileTree} {folder p : Path} (hfolder : folder.absolute = true) (hp : p.absolute = false)
    (hdown : ".." ∉ p.parts) : t.place (folder.join p) = Path.follow [] folder.parts ++ p.parts := by
  have hjoin : folder.join p = ⟨true, folder.parts ++ p.parts⟩ := by
    unfold Path.join
    rw [hp, if_neg Bool.false_ne_true, hfolder]
  rw [hjoin, place_of_absolute rfl, Path.follow_append, Path.follow_of_not_mem hdown]

/-- The files of a project have places of their own. -/
theorem nodup_places (h : IsName n.package) (d : Descriptor) (t : FileTree) {folder : Path}
    (hfolder : folder.absolute = true) :
    ((files n d).map fun f => t.place (folder.join (Path.ofString f.1))).Nodup := by
  have hplaces : ∀ parts ∈ fileParts n,
      t.place (folder.join ⟨false, parts⟩) = Path.follow [] folder.parts ++ parts := by
    intro parts hparts
    exact place_join hfolder rfl fun hup => ((down_fileParts h parts hparts).2 _ hup).2.2.2 rfl
  have hparts : (fileParts n).Nodup := by
    simp [fileParts, configName]
  have hmap := congrArg (List.map fun p => t.place (folder.join p)) (paths_files h d)
  rw [List.map_map, List.map_map] at hmap
  refine Eq.mpr (congrArg List.Nodup (hmap.trans (List.map_congr_left hplaces))) ?_
  exact hparts.map fun _ _ => List.append_cancel_left

/-- What was written stays while texts are written to other places. -/
theorem writeTexts_keeps {t : FileTree} {folder p : Path} {bytes : ByteArray} {texts : List (String × String)}
    (h : t.Stored p bytes) (hplaces : t.place p ∉ texts.map fun f => t.place (folder.join (Path.ofString f.1))) :
    (writeTexts t folder texts).1.Stored p bytes := by
  induction texts generalizing t with
  | nil => exact h
  | cons f rest ih =>
    obtain ⟨name, text⟩ := f
    obtain ⟨hfirst, hrest⟩ := not_or.mp (List.mem_cons.not.mp hplaces)
    have htouches := (write_spec t (folder.join (Path.ofString name)) text.toUTF8).1
    rw [writeTexts, writeText_nil]
    split
    · next written hwrite =>
      rw [hwrite] at htouches
      have hsame : ∀ p, written.place p = t.place p := htouches.place
      simp only [← hsame] at hrest
      exact ih (h.touches htouches hfirst) hrest
    · exact h.touches htouches hfirst

/-- **Texts with places of their own are stored**, all of them, when writing them comes to its end. A later text
may make directories, but it touches no earlier one. -/
theorem writeTexts_stored {t t' : FileTree} {folder : Path} {texts : List (String × String)}
    (h : writeTexts t folder texts = (t', .ok ()))
    (hplaces : (texts.map fun f => t.place (folder.join (Path.ofString f.1))).Nodup) :
    ∀ f ∈ texts, t'.Stored (folder.join (Path.ofString f.1)) f.2.toUTF8 := by
  induction texts generalizing t with
  | nil => exact List.forall_mem_nil _
  | cons f rest ih =>
    obtain ⟨name, text⟩ := f
    obtain ⟨htouches, hstored⟩ := write_spec t (folder.join (Path.ofString name)) text.toUTF8
    obtain ⟨hfree, hrest⟩ := List.nodup_cons.mp hplaces
    rw [writeTexts, writeText_nil] at h
    split at h
    · next written hwrite =>
      rw [hwrite] at htouches hstored
      have hsame : ∀ p, written.place p = t.place p := htouches.place
      simp only [← hsame] at hrest hfree
      have hkept := writeTexts_keeps (hstored rfl) hfree
      rw [h] at hkept
      exact List.forall_mem_cons.mpr ⟨hkept, ih h hrest⟩
    · next hfailed =>
      exact (hfailed _ h).elim

theorem absolute_of_folderFor {t : FileTree} {parent folder : Path} (h : folderFor t n parent = .ok folder) :
    folder.absolute = true := by
  obtain ⟨above, habove, h⟩ := bind_eq_ok.mp h
  obtain ⟨occupied, _, h⟩ := bind_eq_ok.mp h
  have habsolute : above.absolute = true := by
    unfold resolve at habove
    split at habove
    · cases habove
    · cases habove
      rfl
  cases occupied with
  | true => cases h
  | false =>
    cases h
    exact habsolute

/-- A project that was created: the folder and the package, and the files that were written. -/
theorem create_eq_ok {t t' : FileTree} {parent : Path} {connection : Option Descriptor} {c : Created}
    (hnames : namesOf request = .ok n) (h : create t request parent connection = (t', .ok c)) :
    c.folder.absolute = true ∧ c.package = n.package ∧
      writeTexts t c.folder (files n (connection.getD (defaultConnection n))) = (t', .ok ()) := by
  unfold create at h
  rw [hnames] at h
  split at h
  · cases h
  · next n' folder hfolder =>
    obtain ⟨found, hfound, hfolder⟩ := bind_eq_ok.mp hfolder
    obtain ⟨at', hat, hpair⟩ := bind_eq_ok.mp hfolder
    cases hfound
    cases hpair
    dsimp only at h
    split at h
    · next hwrite =>
      cases h
      exact ⟨absolute_of_folderFor hat, rfl, hwrite⟩
    · cases h

/-! ## Requirements -/

/-- **The requirements of a build file**, as they are written. -/
def requirements (text : String) : List String :=
  (((splitLines text.toList).map String.ofList).dropWhile (· ≠ "dependencies = [")).tail.takeWhile (· ≠ "]")

/-- A requirement as it is written. -/
def requirementLine (package : String) : String := "    \"" ++ package ++ "\","

/-- **A build file requires a driver**, or none, beside what every project needs. -/
def Requires (text : String) (driver : Option String) : Prop :=
  requirements text = (["sqlalchemy>=2.0.25", "pydantic>=2.6.0"] ++ driver.toList).map requirementLine

/-- A build file requires one driver at most. -/
theorem Requires.iff_eq {text : String} {driver driver' : Option String} (h : Requires text driver) :
    Requires text driver' ↔ driver = driver' := by
  constructor
  · intro h'
    have hinj : Function.Injective requirementLine := by
      intro name name' heq
      simpa [requirementLine] using heq
    have hlist := List.map_injective_iff.mpr hinj (h.symm.trans h')
    have hdrivers := List.append_cancel_left hlist
    cases driver <;> cases driver' <;> simp_all
  · rintro rfl
    exact h

/-- Lines without line ends are read back from a text. -/
theorem splitLines_textOfLines {lines : List String} (h : ∀ line ∈ lines, Flat line) :
    (splitLines (asRead (textOfLines lines)).toList).map String.ofList = lines ++ [""] := by
  have hlines : ∀ line ∈ lines ++ [""], Flat line := by
    rw [List.forall_mem_append]
    exact ⟨h, List.forall_mem_singleton.mpr (by decide)⟩
  have htext : (textOfLines lines).toList = joinLines ((lines ++ [""]).map String.toList) :=
    String.toList_intercalate
  have hreturn : '\r' ∉ (textOfLines lines).toList := fun hmem =>
    forall_mem_intercalate (P := (· ≠ '\r')) (by simp)
      (fun line hline c hc hreturn => (hlines line hline).2 (hreturn ▸ hc)) _ hmem rfl
  rw [asRead_of_not_mem hreturn, htext, splitLines_joinLines, List.map_map]
  · exact List.map_id'' (fun line => String.ofList_toList) _
  · exact List.forall_mem_map.mpr fun line hline => (hlines line hline).1
  · simp

/-- The build file of a project requires the driver of an engine. -/
theorem requires_buildFile (h : Flat n.folder) (h' : Flat n.package) (e : Engine) :
    Requires (asRead (buildFile n e)) (driverPackage? e) := by
  have hname : "name = \"" ++ n.folder ++ "\"" ≠ "dependencies = [" := by
    intro heq
    have hfirst := congrArg (fun text : String => text.toList.head?) heq
    simp at hfirst
  unfold Requires requirements buildFile
  rw [splitLines_textOfLines]
  · cases e <;> simp [hname, driverPackage?, requirementLine]
  · have hdriver : ∀ name, driverPackage? e = some name → Flat name := by
      cases e <;> simp [driverPackage?] <;> decide
    have hquotes : Flat "    \"" ∧ Flat "\"," := by decide
    simp +contextual [or_imp, forall_and, h, h', hdriver, hquotes]
    simp [Flat]

end Project

/-! ## Dialects -/

theorem Connection.Descriptor.dialect_of_url_none {d : Descriptor} (h : d.url = none) :
    d.dialect = .ok d.engine.name := by
  have hname : ∀ c ∈ d.engine.name.toList, decide (c ≠ '+') = true := by
    cases d.engine <;> simp [Engine.name]
  have halone : d.engine.name.toList.takeWhile (· ≠ '+') = d.engine.name.toList :=
    List.takeWhile_eq_self_iff.mpr hname
  have hdriver : ∀ driver : String,
      (d.engine.name ++ "+" ++ driver).toList.takeWhile (· ≠ '+') = d.engine.name.toList := by
    intro driver
    rw [String.append_assoc, String.toList_append, List.takeWhile_append_of_pos hname]
    simp
  unfold dialect toUrl
  rw [h]
  dsimp only
  cases d.driver with
  | none =>
    simp only [Except.map, Url.dialect, halone, String.ofList_toList]
  | some driver =>
    dsimp only
    split
    · simp only [Except.map, Url.dialect, halone, String.ofList_toList]
    · simp only [Except.map, Url.dialect, hdriver, String.ofList_toList]

namespace Project

/-- The driver that is registered for a dialect, if it is that of an engine which needs one. -/
def driverFor? (dialect : String) : Option String :=
  (Engine.all.find? (·.name = dialect)).bind driverPackage?

theorem driverFor?_name (e : Engine) : driverFor? e.name = driverPackage? e := by
  cases e <;> rfl

/-! ## Projects -/

/-- The connection of a project: the one that was asked for, or that to a local server. -/
def connectionOf (n : Names) (connection : Option Descriptor) : Descriptor :=
  connection.getD (defaultConnection n)

theorem inRange_connectionOf {connection : Option Descriptor}
    (h : ∀ d ∈ connection, ∃ value, Descriptor.reader value = .ok d) : (connectionOf n connection).InRange := by
  cases connection with
  | none =>
    refine ⟨?_, ?_⟩
    · rintro port ⟨⟩
      decide
    · show 1 ≤ 10 ∧ 10 ≤ 600
      decide
  | some d =>
    obtain ⟨value, hread⟩ := h d rfl
    exact Descriptor.inRange_of_reader hread

theorem holdsJson_configName (folder : Path) : Config.holdsJson (folder.join ⟨false, [configName]⟩) = false := by
  have hname : (folder.join ⟨false, [configName]⟩).name = configName := by
    show (folder.parts ++ [configName]).getLast?.getD "" = configName
    rw [List.getLast?_concat]
    rfl
  unfold Config.holdsJson Path.ending
  rw [hname]
  decide

/-- The settings of a project have no carriage returns. -/
theorem return_notMem_configFile (n : Names) (d : Descriptor) : '\r' ∉ (configFile n d).toList := by
  have hfields : ∀ name ∈ Descriptor.fields, '\r' ∉ name.toList := by decide
  have hoptions : ∀ setting ∈ generationSettings n, '\r' ∉ setting.1.toList := by
    simp [generationSettings]
  have hsections : '\r' ∉ "connection".toList ∧ '\r' ∉ "generation".toList := by decide
  unfold configFile
  rw [String.toList_append, List.mem_append]
  refine not_or_intro (by decide) (Yaml.return_notMem_writeSections ?_)
  refine List.forall_mem_cons.mpr ⟨⟨hsections.1, fun setting hsetting => ?_⟩,
    List.forall_mem_singleton.mpr ⟨hsections.2, hoptions⟩⟩
  exact hfields _ (Descriptor.settings_mem_fields setting hsetting)

section

variable {t : FileTree} {folder : Path} {d : Descriptor} (hname : IsName n.package)
  (hstored : ∀ f ∈ files n d, t.Stored (folder.join (Path.ofString f.1)) f.2.toUTF8)

include hname

/-- The folder of the models lies in the package. -/
theorem join_models : folder.join (Path.ofString (n.package ++ "/models")) =
    (folder.child n.package).child "models" := by
  obtain ⟨_, hdown⟩ := down_fileParts hname [n.package, "models", "__init__.py"] (by simp [fileParts])
  have hspelled : Path.ofString ("/".intercalate [n.package, "models"]) = ⟨false, [n.package, "models"]⟩ := by
    refine Path.ofString_intercalate (List.cons_ne_nil _ _) fun part hpart => ?_
    obtain ⟨hslash, hempty, hdot, _⟩ := hdown part ((List.dropLast_subset _) hpart)
    exact ⟨hslash, hempty, hdot⟩
  have htext : "/".intercalate [n.package, "models"] = n.package ++ "/models" := intercalate_pair _ _
  rw [← htext, hspelled]
  show Files.Path.mk _ (folder.parts ++ [n.package, "models"]) = _
  rw [List.append_cons]
  rfl

include hstored

theorem isDirectory_package : t.isDirectory (folder.child n.package) = true := by
  have hinit := hstored (n.package ++ "/__init__.py", "\"\"\"" ++ n.folder ++ " package.\"\"\"\n") (by simp [files])
  have hspelled := ofString_fileParts hname [n.package, "__init__.py"] (by simp [fileParts])
  have htext : "/".intercalate [n.package, "__init__.py"] = n.package ++ "/__init__.py" := intercalate_pair _ _
  have hparent : (folder.join ⟨false, [n.package, "__init__.py"]⟩).parent = folder.child n.package := by
    show Files.Path.mk _ (folder.parts ++ [n.package, "__init__.py"]).dropLast = _
    rw [List.append_cons, List.dropLast_concat]
    rfl
  rw [← hparent, ← hspelled, htext]
  exact hinit.parent

theorem load_config {entries : Config.Entries} (h : Yaml.read (configFile n d).toList = .ok (.map entries)) :
    Config.load t (folder.join (Path.ofString configName)) = .ok entries := by
  have hconfig := hstored (configName, configFile n d) (by simp [files])
  have hspelled := ofString_fileParts hname [configName] (by simp [fileParts])
  rw [String.intercalate_singleton] at hspelled
  refine Config.load_of_stored hconfig (return_notMem_configFile n d) ?_
  unfold Config.parse
  rw [hspelled, holdsJson_configName]
  exact h

end

/-- **A project agrees with a connection**: its configuration gives this connection and a folder in the package that
was made. Its build file requires the driver of a dialect, be it the one that the connection selects, if and only
if the engine of the connection has the same one; without a locator the engine is the dialect. -/
structure Agrees (t : FileTree) (c : Created) (d : Descriptor) : Prop where
  package : t.isDirectory (c.folder.child c.package) = true
  settings : ∃ entries o, Config.load t (c.folder.join (Path.ofString configName)) = .ok entries ∧
    Config.settings entries [] [] = .ok (d, o) ∧
    c.folder.join (Path.ofString o.outputDir) = (c.folder.child c.package).child "models"
  requirements : ∃ text, t.readText (c.folder.join (Path.ofString "pyproject.toml")) = .ok text ∧
    ∀ dialect, d.dialect = .ok dialect →
      (Requires text (driverFor? dialect) ↔ driverPackage? d.engine = driverFor? dialect) ∧
      (d.url = none → Requires text (driverFor? dialect))

/-- **A project that was created agrees with its connection**, as long as its configuration is loaded back. Then
the configuration is this connection and a folder in the package that was made, and it is decided whether the
build file requires the driver of the dialect. Which requests can be created is left open. -/
theorem create_agrees {t t' : FileTree} {parent : Path} {connection : Option Descriptor} {c : Created}
    (hnames : namesOf request = .ok n) (hcreated : create t request parent connection = (t', .ok c))
    (hread : ∀ d ∈ connection, ∃ value, Descriptor.reader value = .ok d)
    (hloaded : LoadsBack (configFile n (connectionOf n connection)).toList
      [("connection", (connectionOf n connection).settings), ("generation", generationSettings n)]) :
    Agrees t' c (connectionOf n connection) := by
  obtain ⟨hfolder, hpackage, hwritten⟩ := create_eq_ok hnames hcreated
  obtain ⟨hflat, hname⟩ := flat_and_isName hnames
  have hstored : ∀ f ∈ files n (connectionOf n connection),
      t'.Stored (c.folder.join (Path.ofString f.1)) f.2.toUTF8 :=
    writeTexts_stored hwritten (nodup_places hname _ t hfolder)
  refine ⟨?_, ?_, ?_⟩
  · rw [hpackage]
    exact isDirectory_package hname hstored
  · refine ⟨_, _, load_config hname hstored hloaded, Config.settings_sections ?_ ?_
      (Descriptor.reader_settings (inRange_connectionOf hread)) (reader_generationSettings n), ?_⟩
    · simp [Descriptor.settings]
    · simp [generationSettings]
    · rw [hpackage]
      exact join_models hname
  · have hbuild := hstored ("pyproject.toml", buildFile n (connectionOf n connection).engine) (by simp [files])
    have hrequired := requires_buildFile hflat (flat_of_isName hname) (connectionOf n connection).engine
    dsimp only at hbuild
    refine ⟨asRead (buildFile n (connectionOf n connection).engine), hbuild.readText, ?_⟩
    intro dialect hdialect
    refine ⟨hrequired.iff_eq, fun hurl => ?_⟩
    rw [Descriptor.dialect_of_url_none hurl] at hdialect
    cases hdialect
    rw [driverFor?_name]
    exact hrequired

/-- A connection by its locator. -/
def remote : Descriptor := { url := some "mysql://h/d", has_target := .inl rfl }

/-- So does a project for a remote server, whose build file does not require the driver of its dialect. -/
theorem create_agrees_remote : ∃ t c, create {} "shop" {} (some remote) = (t, .ok c) ∧ Agrees t c remote ∧
    remote.dialect = .ok "mysql" ∧ ∀ text, t.readText (c.folder.join (Path.ofString "pyproject.toml")) = .ok text →
      ¬ Requires text (driverFor? "mysql") := by
  obtain ⟨c, hc, _⟩ := exists_ok_of_any (x := (create {} "shop" {} (some remote)).2) (p := fun _ => true)
    (by decide +kernel)
  have hcreated : create {} "shop" {} (some remote) = ((create {} "shop" {} (some remote)).1, .ok c) :=
    Prod.ext rfl hc
  have hnames : namesOf "shop" = .ok ⟨"shop", "shop"⟩ := by decide +kernel
  have hread : ∃ value, Descriptor.reader value = .ok remote := by
    refine ⟨_, Descriptor.reader_settings ⟨?_, ?_⟩⟩
    · rintro port ⟨⟩
    · exact ⟨by decide, by decide⟩
  have htext : (configFile ⟨"shop", "shop"⟩ remote).toList =
      "# dbreverse settings; CLI flags override these values.\n".toList ++
        ([("connection", remote.settings), ("generation", generationSettings ⟨"shop", "shop"⟩)].flatMap
          fun s => s.1.toList ++ ':' :: '\n' :: Yaml.writeSettings 2 s.2) := by
    unfold configFile
    rw [String.toList_append]
    exact congrArg (_ ++ ·) String.toList_ofList
  have hloaded : LoadsBack (configFile ⟨"shop", "shop"⟩ remote).toList
      [("connection", remote.settings), ("generation", generationSettings ⟨"shop", "shop"⟩)] := by
    rw [htext]
    decide +kernel
  have hagrees := create_agrees hnames hcreated (by rintro d ⟨⟩; exact hread) hloaded
  have hdialect : remote.dialect = .ok "mysql" := by decide +kernel
  refine ⟨_, c, hcreated, hagrees, hdialect, fun text htext hrequired => ?_⟩
  obtain ⟨text', htext', hdrivers⟩ := hagrees.requirements
  cases htext.symm.trans htext'
  exact absurd ((hdrivers "mysql" hdialect).1.mp hrequired) (by decide)

end Project

end SchemaScribe
