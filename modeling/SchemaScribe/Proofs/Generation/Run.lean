import SchemaScribe.Generation.Run
import SchemaScribe.Proofs.Catalog.WellFormed
import SchemaScribe.Proofs.Output.Writer
import SchemaScribe.Proofs.Render.Texts

/-!
# What a run went through

A run on a catalog that came to its end prepared the catalog, built the model and wrote the package
(`generateSnapshot_eq_ok_iff`), and a run that did not ends in the error of the stage that failed
(`generateSnapshot_outcome`). The files of a package have places of their own below the output directory
(`package_placed`), because their paths go down only and are spelled in one way. So the laws of writing hold for
whole runs.
-/

namespace SchemaScribe.Generation

open SchemaScribe.Catalog SchemaScribe.Files SchemaScribe.Output SchemaScribe.Text
open SchemaScribe.Render (EntityRenderer GeneratedFile IsModule Quoting)

/-! ## Stages -/

theorem generateFrom_outcome (setup : Setup) (w : WriteSettings) (o : Options) (t : FileTree) (s : Snapshot)
    (steps : List Generation.Step) :
    (generateFrom setup w o t s steps).outcome = ((buildModel o s).mapError .model >>= fun m =>
      let rendered := Render.renderPackage m (setup.renderer m o)
      let run := writeAll setup.style w t rendered.files
      run.2.mapError .output >>= fun written => .ok (run.1, reportOf setup s m rendered written steps)) := by
  unfold generateFrom modelOf
  simp only [Noted.outcome_bind, Noted.outcome_ofExcept, Noted.outcome_note, Noted.outcome_pure]
  rfl

/-- The outcome of a run, stage by stage. -/
theorem generateSnapshot_outcome (setup : Setup) (o : Options) (t : FileTree) (s : Snapshot) :
    (generateSnapshot setup o t s).outcome = (setup.writing o t >>= fun w =>
      (s.prepare (some o)).outcome.mapError .inconsistent >>= fun s' =>
      (buildModel o s').mapError .model >>= fun m =>
      let rendered := Render.renderPackage m (setup.renderer m o)
      let run := writeAll setup.style w t rendered.files
      run.2.mapError .output >>= fun written => .ok (run.1, reportOf setup s' m rendered written [])) := by
  unfold generateSnapshot
  simp only [Noted.outcome_bind, Noted.outcome_ofExcept, generateFrom_outcome]
  rfl

section

variable {setup : Setup} {o : Options} {t : FileTree} {s s' : Snapshot} {w : WriteSettings}
  (hw : setup.writing o t = .ok w)

include hw

theorem outcome_of_unsound {e : Inconsistent} (hs : (s.prepare (some o)).outcome = .error e) :
    (generateSnapshot setup o t s).outcome = .error (.inconsistent e) := by
  rw [generateSnapshot_outcome, hw, hs]
  rfl

theorem outcome_of_unbuilt (hs : (s.prepare (some o)).outcome = .ok s') {e : BuildError}
    (hm : buildModel o s' = .error e) : (generateSnapshot setup o t s).outcome = .error (.model e) := by
  rw [generateSnapshot_outcome, hw, hs]
  show ((buildModel o s').mapError RunError.model >>= _) = _
  rw [hm]
  rfl

theorem outcome_of_refused (hs : (s.prepare (some o)).outcome = .ok s') {m : Model}
    (hm : buildModel o s' = .ok m) {fault : FileFault}
    (hwrite : (writeAll setup.style w t (Render.renderPackage m (setup.renderer m o)).files).2 =
      .error fault) : (generateSnapshot setup o t s).outcome = .error (.output fault) := by
  rw [generateSnapshot_outcome, hw, hs]
  show ((buildModel o s').mapError RunError.model >>= _) = _
  rw [hm]
  show ((writeAll setup.style w t _).2.mapError RunError.output >>= _) = _
  rw [hwrite]
  rfl

theorem treeOfSnapshot_eq (hs : (s.prepare (some o)).outcome = .ok s') {m : Model}
    (hm : buildModel o s' = .ok m) :
    treeOfSnapshot setup o t s =
      (writeAll setup.style w t (Render.renderPackage m (setup.renderer m o)).files).1 := by
  unfold treeOfSnapshot treeFrom
  rw [hw, hs]
  dsimp only
  rw [hm]

end

/-- **A run that came to its end** went through all stages: its output directory could be spelled out, its
catalog was prepared, a model was built of it, and the files of the package were written. Entities that cannot
be rendered and files with a recorded fault do not keep a run from its end. -/
theorem generateSnapshot_eq_ok_iff {setup : Setup} {o : Options} {t t' : FileTree} {s : Snapshot}
    {report : Report} :
    (generateSnapshot setup o t s).outcome = .ok (t', report) ↔
      ∃ w s' m written, setup.writing o t = .ok w ∧ (s.prepare (some o)).outcome = .ok s' ∧
        buildModel o s' = .ok m ∧
        writeAll setup.style w t (Render.renderPackage m (setup.renderer m o)).files = (t', .ok written) ∧
        report = reportOf setup s' m (Render.renderPackage m (setup.renderer m o)) written [] := by
  rw [generateSnapshot_outcome]
  constructor
  · intro h
    obtain ⟨w, hw, h⟩ := bind_eq_ok.mp h
    obtain ⟨s', hs, h⟩ := bind_eq_ok.mp h
    obtain ⟨m, hm, h⟩ := bind_eq_ok.mp h
    obtain ⟨written, hwritten, h⟩ := bind_eq_ok.mp h
    cases h
    exact ⟨w, s', m, written, hw, mapError_eq_ok.mp hs, mapError_eq_ok.mp hm,
      Prod.ext rfl (mapError_eq_ok.mp hwritten), rfl⟩
  · rintro ⟨w, s', m, written, hw, hs, hm, hwritten, rfl⟩
    refine bind_eq_ok.mpr ⟨w, hw, bind_eq_ok.mpr ⟨s', mapError_eq_ok.mpr hs, ?_⟩⟩
    refine bind_eq_ok.mpr ⟨m, mapError_eq_ok.mpr hm, bind_eq_ok.mpr ⟨written, ?_, ?_⟩⟩
    · rw [hwritten]
      rfl
    · rw [hwritten]

theorem writing_eq_ok {setup : Setup} {o : Options} {t : FileTree} {w : WriteSettings}
    (h : setup.writing o t = .ok w) :
    t.resolve (.ofString o.outputDir) = .ok w.directory ∧ w.directory.absolute = true ∧
      w.dryRun = setup.dryRun := by
  unfold Setup.writing at h
  obtain ⟨directory, hdirectory, h⟩ := bind_eq_ok.mp h
  cases h
  have hresolve := mapError_eq_ok.mp hdirectory
  refine ⟨hresolve, ?_, rfl⟩
  unfold FileTree.resolve at hresolve
  split at hresolve
  · cases hresolve
  · cases hresolve
    rfl

theorem resolve_of_home {t t' : FileTree} (h : t'.home = t.home) (p : Path) :
    t'.resolve p = t.resolve p := by
  unfold FileTree.resolve
  rw [h]

theorem writing_of_home {t t' : FileTree} (h : t'.home = t.home) (setup : Setup) (o : Options) :
    setup.writing o t' = setup.writing o t := by
  unfold Setup.writing
  rw [resolve_of_home h]

/-- Writing does not move the working directory. -/
theorem writeAll_home (style : StylePass) (s : WriteSettings) (t : FileTree) (files : List GeneratedFile) :
    (writeAll style s t files).1.home = t.home := by
  refine writeFrom_induction (P := fun t' => t'.home = t.home) ?_ _ rfl
  intro _ _ _ _ htouches hhome
  rw [htouches.home, hhome]

/-! ## Places -/

/-- **A path that goes down only**, is spelled without slashes or dots that say nothing, and has no null
character in it. -/
structure Plain (path : String) : Prop where
  relative : path.toList.head? ≠ some '/'
  filled : Path.partsOf path.toList ≠ []
  down : ".." ∉ Path.partsOf path.toList
  noNull : ∀ part ∈ Path.partsOf path.toList, '\x00' ∉ part.toList
  spelled : "/".intercalate (Path.partsOf path.toList) = path

/-- **A name that a path goes down by**: it has no slash and no null character in it, and is neither empty nor
made of dots alone. -/
structure Downward (part : String) : Prop where
  slash : '/' ∉ part.toList
  null : '\x00' ∉ part.toList
  named : part ≠ "" ∧ part ≠ "." ∧ part ≠ ".."

instance (part : String) : Decidable (Downward part) :=
  decidable_of_iff _ ⟨fun h => ⟨h.1, h.2.1, h.2.2⟩, fun h => And.intro h.1 (And.intro h.2 h.3)⟩

theorem plain_intercalate {parts : List String} (hne : parts ≠ []) (h : ∀ part ∈ parts, Downward part) :
    Plain ("/".intercalate parts) := by
  have hspelled := Path.ofString_intercalate hne fun part hpart =>
    ⟨(h part hpart).slash, (h part hpart).named.1, (h part hpart).named.2.1⟩
  have hparts : Path.partsOf ("/".intercalate parts).toList = parts := congrArg Path.parts hspelled
  constructor
  · exact of_decide_eq_false (congrArg Path.absolute hspelled)
  · rw [hparts]
    exact hne
  · rw [hparts]
    exact fun hup => (h ".." hup).named.2.2 rfl
  · rw [hparts]
    exact fun part hpart => (h part hpart).null
  · rw [hparts]

theorem plain_modulePath {package file : String} (hpackage : Downward package)
    (hfile : '/' ∉ file.toList ∧ '\x00' ∉ file.toList) : Plain (Render.modulePath package file) := by
  have hpath : Render.modulePath package file = "/".intercalate [package, file ++ ".py"] := by
    unfold Render.modulePath
    rw [String.intercalate_cons_cons, String.intercalate_singleton, String.append_assoc]
  have hending : 'p' ∈ (file ++ ".py").toList := by
    rw [String.toList_append]
    exact List.mem_append_right _ (by decide)
  have hne : ∀ {name : String}, 'p' ∉ name.toList → file ++ ".py" ≠ name := by
    rintro name hname rfl
    exact hname hending
  rw [hpath]
  refine plain_intercalate (List.cons_ne_nil _ _) (List.forall_mem_cons.mpr ⟨hpackage, ?_⟩)
  refine List.forall_mem_singleton.mpr ⟨?_, ?_, hne (by decide), hne (by decide), hne (by decide)⟩
  · rw [String.toList_append, List.mem_append]
    exact not_or_intro hfile.1 (by decide)
  · rw [String.toList_append, List.mem_append]
    exact not_or_intro hfile.2 (by decide)

theorem packagePaths_plain {entityModules inputModules : List String}
    (hnames : ∀ name ∈ entityModules ++ inputModules, IsName name) :
    ∀ path ∈ Render.packagePaths entityModules inputModules, Plain path := by
  have hfile : ∀ name ∈ entityModules ++ inputModules, '/' ∉ name.toList ∧ '\x00' ∉ name.toList :=
    fun name hname => ⟨IsIdentifier.not_mem (hnames name hname) (by decide) (by decide),
      IsIdentifier.not_mem (hnames name hname) (by decide) (by decide)⟩
  have hplain : ∀ path ∈ ["base.py", "__init__.py"], Plain path := by
    have hfixed : ∀ path ∈ ["base.py", "__init__.py"], Downward path := by decide
    intro path hpath
    rw [← String.intercalate_singleton (s := "/") (t := path)]
    exact plain_intercalate (List.cons_ne_nil _ _) (List.forall_mem_singleton.mpr (hfixed path hpath))
  have hentities : Downward Render.entitiesPackage := by decide
  have hinputs : Downward Render.inputsPackage := by decide
  have hbase : Render.baseModule ++ ".py" = "base.py" := by decide
  intro path hpath
  unfold Render.packagePaths at hpath
  rw [hbase] at hpath
  simp only [List.cons_append, List.mem_cons, List.mem_append, List.mem_map, List.not_mem_nil,
    or_false] at hpath
  rcases hpath with rfl | ⟨⟨name, hname, rfl⟩ | ⟨name, hname, rfl⟩⟩ | rfl | rfl | rfl
  · exact hplain _ List.mem_cons_self
  · exact plain_modulePath hentities (hfile name (List.mem_append_left _ hname))
  · exact plain_modulePath hinputs (hfile name (List.mem_append_right _ hname))
  · exact plain_modulePath hentities (by decide)
  · exact plain_modulePath hinputs (by decide)
  · exact hplain _ (List.mem_cons_of_mem _ List.mem_cons_self)

section

variable {w : WriteSettings} {f : GeneratedFile}

theorem target_eq (hplain : Plain f.path) :
    w.target f = ⟨w.directory.absolute, w.directory.parts ++ Path.partsOf f.path.toList⟩ := by
  unfold WriteSettings.target Path.join Path.ofString
  rw [if_neg (by simpa using hplain.relative)]

/-- The place of a file is below that of the output directory. -/
theorem place_eq (hplain : Plain f.path) :
    w.place f = Path.follow [] w.directory.parts ++ Path.partsOf f.path.toList := by
  unfold WriteSettings.place
  rw [target_eq hplain, Path.follow_append, Path.follow_of_not_mem hplain.down]

theorem placed_of_plain {files : List GeneratedFile} (habsolute : w.directory.absolute = true)
    (hplain : ∀ f ∈ files, Plain f.path) (hpaths : (files.map (·.path)).Nodup) : Placed w files where
  absolute := by
    intro f hf
    rw [target_eq (hplain f hf), habsolute]
  nodup := by
    refine List.pairwise_map.mpr ?_
    refine (List.pairwise_map.mp hpaths).imp_of_mem fun {f g} hf hg hne heq => hne ?_
    rw [place_eq (hplain f hf), place_eq (hplain g hg)] at heq
    have hparts := List.append_cancel_left heq
    rw [← (hplain f hf).spelled, hparts, (hplain g hg).spelled]

end

/-- The files of a package have plain paths, whatever entities are left out. -/
theorem package_plain {o : Options} {s : Snapshot} {m : Model} {render : EntityRenderer}
    (h : buildModel o s = .ok m) (hrender : Render.RendersModules render) :
    ∀ f ∈ (Render.renderPackage m render).files, Plain f.path := by
  obtain ⟨entityModules, inputModules, hpaths, _, _, hnames⟩ := Render.exists_packagePaths h hrender
  intro f hf
  refine packagePaths_plain hnames f.path ?_
  rw [← hpaths]
  exact List.mem_map_of_mem hf

/-- **The files of a package have places of their own** below the output directory, whatever is rendered of the
entities. The directory may be spelled in any way from the root on; that the paths go down from it is what keeps
the places apart. -/
theorem package_placed {o : Options} (o' : Options) {s : Snapshot} {m : Model}
    (h : buildModel o s = .ok m) {w : WriteSettings} (habsolute : w.directory.absolute = true) :
    Placed w (Render.renderPackage m (Render.entityFiles m o')).files ∧
      ∀ f ∈ (Render.renderPackage m (Render.entityFiles m o')).files, Plain f.path := by
  have hrender := Render.entityFiles_rendersModules m o'
  obtain ⟨entityModules, inputModules, hpaths, hentities, hinputs, hnames⟩ :=
    Render.exists_packagePaths h hrender
  have hplain := package_plain h hrender
  refine ⟨placed_of_plain habsolute hplain ?_, hplain⟩
  rw [hpaths]
  exact Render.packagePaths_nodup hentities hinputs hnames

/-- **A file of a package has the stand-ins of the comment of a table**, or none. -/
theorem package_standIns {o o' : Options} {s : Snapshot} {m : Model} {render : EntityRenderer}
    (h : buildModel o s = .ok m)
    (hrender : ∀ e files, render e = .ok files → Render.entityFiles m o' e = .ok files) {f : GeneratedFile}
    (hf : f ∈ (Render.renderPackage m render).files) :
    f.standIns = [] ∨ ∃ table ∈ s.tables, f.standIns = table.standIns := by
  obtain ⟨b, hentities⟩ := exists_built h
  rcases Render.of_mem_renderPackage hf with (rfl | ⟨wanted, hfixed⟩) | ⟨e, he, files, hfiles, hf⟩
  · exact .inl rfl
  · have hnone : ∀ f ∈ Render.packageFiles m wanted, f.standIns = [] :=
      List.forall_mem_cons.mpr ⟨rfl, List.forall_mem_cons.mpr ⟨rfl, List.forall_mem_singleton.mpr rfl⟩⟩
    exact .inl (hnone f hfixed)
  · obtain ⟨file, hfile, rfl⟩ := Render.entityFiles_eq_ok (hrender e files hfiles)
    rcases List.mem_cons.mp hf with rfl | hf
    · rw [hentities] at he
      obtain ⟨d, hd, rfl⟩ := List.mem_map.mp he
      exact .inr ⟨d.table, b.table_mem hd, (Render.entityFile_eq_ok hfile).2.2⟩
    · rw [List.mem_singleton.mp hf]
      exact .inl rfl

/-! ## What a run quotes -/

/-- **The texts that the model of a catalog quotes in a file have a property.** -/
def Clear (P : List Char → Prop) (o : Options) (s : Snapshot) (path : String) : Prop :=
  ∀ s' m, (s.prepare (some o)).outcome = .ok s' → buildModel o s' = .ok m → Quoting P m path

/-- Of a closed catalog the texts that it quotes can be tested. -/
theorem clear_of_all {P : List Char → Prop} [DecidablePred P] {o : Options} {s : Snapshot}
    (h : (s.prepare (some o)).outcome.toOption.all (fun s' => (buildModel o s').toOption.all fun m =>
      m.entities.all fun e => e.quoted.all fun text => P text.toList) = true) (path : String) :
    Clear P o s path := by
  intro s' m hs hm e he _ text htext
  have hentities := of_all (of_all h hs) hm
  have hquoted := List.all_eq_true.mp hentities e he
  exact of_decide_eq_true (List.all_eq_true.mp hquoted text htext)

/-! ## Runs into empty places and over stored files -/

/-- **A successful run into an empty directory** stores every file of its package, so each of them has bytes.
Its records are in the order of the files, and tell that all of them were written. -/
theorem stored_of_success {style : StylePass} {o : Options} {s : Snapshot} {t t' : FileTree}
    {report : Report} (h : (generateSnapshot { style } o t s).outcome = .ok (t', report))
    (hsuccess : report.success = true)
    (hempty : ∀ directory, t.resolve (.ofString o.outputDir) = .ok directory → t.Vacant directory) :
    t'.home = t.home ∧ ∃ w s' m, Setup.writing { style } o t = .ok w ∧
      (s.prepare (some o)).outcome = .ok s' ∧ buildModel o s' = .ok m ∧
      (Render.renderPackage m (Render.entityFiles m o)).faults.isEmpty = true ∧
      report.records =
        (Render.renderPackage m (Render.entityFiles m o)).files.map (freshRecord style w) ∧
      ∀ f ∈ (Render.renderPackage m (Render.entityFiles m o)).files,
        f.standIns.Encodable (plainText style w f) ∧
          FileTree.Stored t' (w.target f) (plainText style w f).toUTF8 := by
  obtain ⟨w, s', m, written, hw, hs, hm, hwrite, rfl⟩ := generateSnapshot_eq_ok_iff.mp h
  obtain ⟨hdirectory, habsolute, hdry⟩ := writing_eq_ok hw
  obtain ⟨hplaced, hplain⟩ := package_placed o hm habsolute
  obtain ⟨hfaults, herrors⟩ := Bool.and_eq_true_iff.mp hsuccess
  have hvacant : ∀ f ∈ (Render.renderPackage m (Render.entityFiles m o)).files, ∀ bytes,
      t.entry? (w.place f) ≠ some (.file bytes) := by
    intro f hf bytes
    rw [place_eq (hplain f hf), ← FileTree.place_of_absolute habsolute t]
    exact (hempty _ hdirectory).entry?_ne (hplain f hf).filled bytes
  obtain ⟨hrecords, hstored⟩ := writeFrom_fresh hdry hplaced hvacant hwrite (List.isEmpty_iff.mp herrors)
  have hhome := writeAll_home style w t (Render.renderPackage m (Render.entityFiles m o)).files
  rw [show writeAll style w t _ = _ from hwrite] at hhome
  exact ⟨hhome, w, s', m, hw, hs, hm, hfaults, hrecords, hstored⟩

/-- **A run over a stored package** comes to its end if what it makes of every file can be encoded, and it fails only
if an entity cannot be rendered. It leaves the tree alone if the final text of every file is what is read of it. -/
theorem exists_run_of_stored {style : StylePass} {o : Options} {s s' : Snapshot} {m : Model}
    {u : FileTree} {w : WriteSettings} (hw : Setup.writing { style } o u = .ok w)
    (hs : (s.prepare (some o)).outcome = .ok s') (hm : buildModel o s' = .ok m)
    {texts : GeneratedFile → String}
    (hencodable : ∀ f ∈ (Render.renderPackage m (Render.entityFiles m o)).files,
      f.standIns.Encodable (finalText style w f (some (FileTree.asRead (texts f)))).text)
    (hstored : ∀ f ∈ (Render.renderPackage m (Render.entityFiles m o)).files,
      FileTree.Stored u (w.target f) (texts f).toUTF8) :
    ∃ u' report, (generateSnapshot { style } o u s).outcome = .ok (u', report) ∧
      report.success = (Render.renderPackage m (Render.entityFiles m o)).faults.isEmpty ∧
      report.records = (Render.renderPackage m (Render.entityFiles m o)).files.map
        (fun f => againRecord style w (texts f) f) ∧
      ((∀ f ∈ (Render.renderPackage m (Render.entityFiles m o)).files,
        (finalText style w f (some (FileTree.asRead (texts f)))).text = FileTree.asRead (texts f)) →
          u' = u) := by
  obtain ⟨_, habsolute, _⟩ := writing_eq_ok hw
  obtain ⟨hplaced, _⟩ := package_placed o hm habsolute
  obtain ⟨u', written, hrun, herrors, hrecords, hsame⟩ :=
    writeFrom_stored style hplaced hencodable hstored { directory := w.directory.shown }
  refine ⟨u', _, generateSnapshot_eq_ok_iff.mpr ⟨w, s', m, written, hw, hs, hm, hrun, rfl⟩, ?_, hrecords,
    hsame⟩
  unfold reportOf WriteReport.success
  rw [herrors]
  exact Bool.and_true _

/-- **Whatever is put in the place of a file, a run on the same catalog writes it again.** Here the text is put
there after a successful run into an empty directory. No table comment may have lone surrogates, for the text may
have any characters. -/
theorem exists_run_of_edit {style : StylePass} {o : Options} {s : Snapshot} {t t₁ : FileTree}
    {report : Report} (h : (generateSnapshot { style } o t s).outcome = .ok (t₁, report))
    (hsuccess : report.success = true)
    (hempty : ∀ directory, t.resolve (.ofString o.outputDir) = .ok directory → t.Vacant directory)
    (hwhole : ∀ table ∈ s.tables, table.standIns = []) {record : FileRecord} (hrecord : record ∈ report.records) (text : String) :
    ∃ u t₂ report₂ directory, u.home = t₁.home ∧ u.resolve (.ofString o.outputDir) = .ok directory ∧
      FileTree.Stored u (directory.join (.ofString record.relative)) text.toUTF8 ∧
      (generateSnapshot { style } o u s).outcome = .ok (t₂, report₂) ∧ report₂.success = true ∧
      report₂.records.map (·.relative) = report.records.map (·.relative) := by
  obtain ⟨hhome, w, s', m, hw, hs, hm, hfaults, hrecords, hstored⟩ := stored_of_success h hsuccess hempty
  obtain ⟨hdirectory, habsolute, _⟩ := writing_eq_ok hw
  obtain ⟨hplaced, _⟩ := package_placed o hm habsolute
  rw [hrecords] at hrecord
  obtain ⟨f, hf, rfl⟩ := List.mem_map.mp hrecord
  obtain ⟨htouches, hwritten⟩ := t₁.write_spec (w.target f) text.toUTF8
  have hhome' : (t₁.write (w.target f) text.toUTF8).1.home = t.home := htouches.home.trans hhome
  -- the other files are where they were
  have hstored' : ∀ g ∈ (Render.renderPackage m (Render.entityFiles m o)).files,
      FileTree.Stored (t₁.write (w.target f) text.toUTF8).1 (w.target g)
        (if g = f then text else plainText style w g).toUTF8 := by
    intro g hg
    split
    · next hsame =>
      rw [hsame]
      exact hwritten ((hstored f hf).2.write text.toUTF8)
    · next hother =>
      refine (hstored g hg).2.touches htouches fun hplace => hother ?_
      rw [place_target (hplaced.absolute g hg), place_target (hplaced.absolute f hf)] at hplace
      exact List.inj_on_of_nodup_map hplaced.nodup hg hf hplace
  have hw' : Setup.writing { style } o (t₁.write (w.target f) text.toUTF8).1 = .ok w := by
    rw [writing_of_home hhome', hw]
  have hencodable : ∀ g ∈ (Render.renderPackage m (Render.entityFiles m o)).files, ∀ text,
      g.standIns.Encodable text := by
    intro g hg text
    rcases package_standIns hm (fun _ _ hfiles => hfiles) hg with hnone | ⟨table, htable, hsame⟩
    · rw [hnone]
      exact StandIns.encodable_nil text
    · rw [hsame, hwhole table (tables_of_prepare hs htable)]
      exact StandIns.encodable_nil text
  obtain ⟨t₂, report₂, hrun, hsuccess₂, hrecords₂, _⟩ :=
    exists_run_of_stored hw' hs hm (fun g hg => hencodable g hg _) hstored'
  refine ⟨_, t₂, report₂, w.directory, htouches.home, ?_, hwritten ((hstored f hf).2.write text.toUTF8),
    hrun, hsuccess₂.trans hfaults, ?_⟩
  · rw [resolve_of_home hhome', hdirectory]
  · rw [hrecords, hrecords₂, List.map_map, List.map_map]
    exact List.map_congr_left fun g _ => by simp

/-! ## A run on a small catalog -/

/-- The run on the staff into an empty tree succeeds, and it writes a module for the first table. -/
theorem exists_staffRun :
    ∃ t report, (generateSnapshot {} {} {} staff).outcome = .ok (t, report) ∧
      report.success = true ∧ "entities/person.py" ∈ report.records.map (·.relative) := by
  obtain ⟨⟨t, report⟩, hrun, htest⟩ := exists_ok_of_any (x := (generateSnapshot {} {} {} staff).outcome)
    (p := fun r => r.2.success = true ∧ "entities/person.py" ∈ r.2.records.map (·.relative))
    (by decide +kernel)
  obtain ⟨hsuccess, hpath⟩ := of_decide_eq_true htest
  exact ⟨t, report, hrun, hsuccess, hpath⟩

end SchemaScribe.Generation
