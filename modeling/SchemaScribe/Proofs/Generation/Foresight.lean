import SchemaScribe.Proofs.Generation.Failure
import SchemaScribe.Proofs.Output.DryRun

/-!
# A dry run foresees the run

A dry run goes through the stages of a run, up to writing, and there it only reads. The files of a package lie
side by side below the output directory (`package_separate`), so none of them is in the way of another, and what
is read before the run is what the run finds when it comes to a file. The dry run leaves the tree as it is. Both
runs end in the same error, or they end in reports that tell the same of every file (`dryRun_foresees`), but for
two things that reading does not notice:

- a path that leaves no room for a temporary file beside it, where only the run fails;
- a name that is too long, below a directory that is not there yet. The dry run takes the file for a missing one and
  ends if its text has lone surrogates. The run has made the directory by then, records the name and goes on
  (`Premature`).
-/

namespace SchemaScribe.Generation

open SchemaScribe.Catalog SchemaScribe.Files SchemaScribe.Output SchemaScribe.Text
open SchemaScribe.Files.FileTree (Apart Fits Nameable Rooted Steady)
open SchemaScribe.Render (EntityRenderer GeneratedFile RenderFault RendersModules SideBySide failing)

/-! ## Places of packages -/

/-- Parts that are followed from a place without double dots lead to one without them. -/
theorem up_notMem_follow {start : List String} (h : ".." ∉ start) (parts : List String) :
    ".." ∉ Path.follow start parts := by
  induction parts generalizing start with
  | nil => exact h
  | cons part rest ih =>
    rw [Path.follow]
    split
    · exact ih fun hmem => h (List.dropLast_subset start hmem)
    · next hpart =>
      refine ih fun hmem => ?_
      rcases List.mem_append.mp hmem with hmem | hmem
      · exact h hmem
      · exact hpart (List.mem_singleton.mp hmem).symm

/-- A plain path is a directory on the way to another one if its parts are those that the other begins with. -/
theorem parts_not_isPrefix {p q : String} (hp : Plain p) (hq : Plain q) (hne : p ≠ q)
    (h : ¬ (p ++ "/").toList <+: q.toList) :
    ¬ Path.partsOf p.toList <+: Path.partsOf q.toList := by
  rintro ⟨more, hmore⟩
  have hfilled : more ≠ [] := by
    rintro rfl
    rw [List.append_nil] at hmore
    exact hne (hp.spelled.symm.trans (hmore ▸ hq.spelled))
  have hspelled : q = p ++ "/" ++ "/".intercalate more := by
    rw [← hq.spelled, ← hmore, String.intercalate_append_of_ne_nil hp.filled hfilled, hp.spelled]
  refine h ⟨("/".intercalate more).toList, ?_⟩
  rw [hspelled, String.toList_append, String.toList_append, String.toList_append]

/-- **The files of a package can be written one after the other**, whatever entities are left out: none of them
is in the way of another, and each leads to its place from the start. For this the output directory must be
spelled from the root on without double dots. -/
theorem package_separate {o : Options} {s : Snapshot} {m : Model} {render : Render.EntityRenderer}
    (h : buildModel o s = .ok m) (hrender : RendersModules render) {w : WriteSettings}
    (habsolute : w.directory.absolute = true) (hdown : ".." ∉ w.directory.parts) (t : FileTree) :
    Separate w t [] (Render.renderPackage m render).files := by
  obtain ⟨entityModules, inputModules, hpaths, hentities, hinputs, hnames⟩ :=
    Render.exists_packagePaths h hrender
  have hplain := package_plain h hrender
  have hside := Render.packagePaths_sideBySide hentities hinputs hnames
  rw [← hpaths] at hside
  have hplace : ∀ f ∈ (Render.renderPackage m render).files, t.place (w.target f) =
      Path.follow [] w.directory.parts ++ Path.partsOf f.path.toList := by
    intro f hf
    have htarget : (w.target f).absolute = true := by
      rw [target_eq (hplain f hf)]
      exact habsolute
    rw [place_target htarget, place_eq (hplain f hf)]
  refine ⟨fun f hf => .inl ?_, ?_, fun _ _ => List.forall_mem_nil _⟩
  · rw [target_eq (hplain f hf)]
    exact fun hmem => (List.mem_append.mp hmem).elim hdown (hplain f hf).down
  · refine (List.pairwise_map.mp hside.distinct).imp_of_mem fun {f g} hf hg hne => ?_
    have hf' := List.mem_map_of_mem (f := (·.path)) hf
    have hg' := List.mem_map_of_mem (f := (·.path)) hg
    rw [hplace f hf, hplace g hg]
    refine ⟨fun habove => ?_, fun habove => ?_⟩
    · exact parts_not_isPrefix (hplain f hf) (hplain g hg) hne (hside.noDirectory _ hf' _ hg')
        ((List.prefix_append_right_inj _).mp habove)
    · exact parts_not_isPrefix (hplain g hg) (hplain f hf) hne.symm (hside.noDirectory _ hg' _ hf')
        ((List.prefix_append_right_inj _).mp habove)

/-! ## Runs -/

/-- **A report that foresees another one**: both tell the same, but for the status of the files, and for files that
only one has records of and the other has write errors of. -/
structure Report.Foresees (d r : Report) (lost : List String) : Prop where
  records : r.records.map (·.foreseen) = d.records.filter fun record => record.relative ∉ lost
  degraded : r.degraded = d.degraded.filter (· ∉ lost)
  writeErrors : r.writeErrors.filter (fun entry => entry.1 ∉ lost) = d.writeErrors
  blamed : ∀ path ∈ lost, path ∈ d.records.map (·.relative) ∧ path ∈ r.writeErrors.map (·.1)
  renderErrors : r.renderErrors = d.renderErrors
  modelWarnings : r.modelWarnings = d.modelWarnings
  figures : (r.tables, r.entities, r.junctions) = (d.tables, d.entities, d.junctions)

/-- A dry run writes below the same directory. -/
theorem writing_dry (setup : Setup) (o : Options) (t : FileTree) :
    Setup.writing { setup with dryRun := true } o t = (setup.writing o t).map WriteSettings.dry := by
  unfold Setup.writing
  cases t.resolve (Path.ofString o.outputDir) with
  | error _ => rfl
  | ok _ => rfl

/-- The directory of a run is spelled without double dots. -/
theorem up_notMem_directory {setup : Setup} {o : Options} {t : FileTree} {w : WriteSettings}
    (hw : setup.writing o t = .ok w) (h : Rooted t) : ".." ∉ w.directory.parts := by
  obtain ⟨hresolve, _⟩ := writing_eq_ok hw
  unfold FileTree.resolve at hresolve
  split at hresolve
  · cases hresolve
  · rw [← Except.ok.inj hresolve]
    refine up_notMem_follow ?_ _
    split
    · exact List.not_mem_nil
    · exact h.down

theorem treeOfSnapshot_dry (setup : Setup) (o : Options) (t : FileTree) (s : Snapshot) :
    treeOfSnapshot { setup with dryRun := true } o t s = t := by
  unfold treeOfSnapshot treeFrom
  rw [writing_dry]
  cases setup.writing o t with
  | error _ => rfl
  | ok w =>
    cases (s.prepare (some o)).outcome with
    | error _ => rfl
    | ok s' =>
      dsimp only [Except.map]
      cases buildModel o s' with
      | error _ => rfl
      | ok m => exact writeFrom_dry setup.style w t _ _

/-- **An error that a dry run tells of and a run need not end in**: a file cannot be encoded, and a name in its path is
too long. -/
def Premature (s : Snapshot) (e : RunError) : Prop :=
  ∃ fault lone, e = .output fault ∧ fault.cause = .unencodable lone ∧ ¬ Nameable fault.path ∧
    ∃ table ∈ s.tables, table.standIns ≠ []

theorem premature_of_refused {o : Options} {s s' : Snapshot} {m : Model} (hs : (s.prepare (some o)).outcome = .ok s')
    (hm : buildModel o s' = .ok m) {render : EntityRenderer}
    (hrender : ∀ e files, render e = .ok files → Render.entityFiles m o e = .ok files) {style : StylePass}
    {w : WriteSettings} {t u : FileTree} {fault : FileFault}
    (hrefused : writeAll style w t (Render.renderPackage m render).files = (u, .error fault)) {lone : EncodeFault}
    (hcause : fault.cause = .unencodable lone) (hnames : ¬ Nameable fault.path) : Premature s (.output fault) := by
  obtain ⟨before, f, after, _, hfiles, _, hrefuses⟩ := writeFrom_eq_error hrefused
  have hf : f ∈ (Render.renderPackage m render).files := by
    rw [hfiles]
    exact List.mem_append_right before List.mem_cons_self
  have hlone := hrefuses.standIns_ne_nil hcause
  obtain ⟨table, htable, hstandIns⟩ := (package_standIns hm hrender hf).resolve_left hlone
  exact ⟨fault, lone, rfl, hcause, hnames, table, tables_of_prepare hs htable, hstandIns ▸ hlone⟩

/-- **A dry run changes nothing and foresees the run.** From the same tree both end in the same error, or both end in
reports that tell the same of every file but its status. Two things are left open, as they depend on the directories
that the run makes on its way. Files whose path leaves no room for a temporary file beside them may be
lost in writing. And where the comment of a table has lone surrogates, the dry run may end at the module
of this table, while the run takes the name of the module for too long and goes on. -/
theorem dryRun_foresees (style : StylePass) (fault : String → Option RenderFault) (o : Options) (s : Snapshot)
    {t : FileTree} (h : Rooted t) :
    let setup : Setup := { renderer := fun m o => failing fault (Render.entityFiles m o), style }
    let dry : Setup := { setup with dryRun := true }
    treeOfSnapshot dry o t s = t ∧
    ((∃ e, (generateSnapshot dry o t s).outcome = .error e ∧
        ((generateSnapshot setup o t s).outcome = .error e ∨ Premature s e)) ∨
      ∃ left d r lost directory, (generateSnapshot dry o t s).outcome = .ok (t, d) ∧
        (generateSnapshot setup o t s).outcome = .ok (left, r) ∧ d.Foresees r lost ∧
        t.resolve (.ofString o.outputDir) = .ok directory ∧
        ∀ path ∈ lost, ¬ Fits (directory.join (.ofString path))) := by
  intro setup dry
  refine ⟨treeOfSnapshot_dry setup o t s, ?_⟩
  have hwDry := writing_dry setup o t
  cases hw : setup.writing o t with
  | error e =>
    rw [hw] at hwDry
    refine .inl ⟨e, ?_, .inl ?_⟩
    · rw [generateSnapshot_outcome, hwDry]
      rfl
    · rw [generateSnapshot_outcome, hw]
      rfl
  | ok w =>
    rw [hw] at hwDry
    cases hs : (s.prepare (some o)).outcome with
    | error e => exact .inl ⟨_, outcome_of_unsound hwDry hs, .inl (outcome_of_unsound hw hs)⟩
    | ok s' =>
      cases hm : buildModel o s' with
      | error e => exact .inl ⟨_, outcome_of_unbuilt hwDry hs hm, .inl (outcome_of_unbuilt hw hs hm)⟩
      | ok m =>
        obtain ⟨hdirectory, habsolute, hdry⟩ := writing_eq_ok hw
        have hrender := failing_rendersModules (Render.entityFiles_rendersModules m o) fault
        have hseparate := package_separate hm hrender habsolute (up_notMem_directory hw h) t
        cases hdryRun : writeAll style w.dry t (Render.renderPackage m (setup.renderer m o)).files with
        | mk u outcome =>
          cases outcome with
          | error refusal =>
            refine .inl ⟨_, outcome_of_refused hwDry hs hm (congrArg Prod.snd hdryRun), ?_⟩
            obtain ⟨-, hsame | ⟨hnames, lone, hcause⟩⟩ :=
              writeAll_foretells_error hdry h hseparate.steady hseparate.apart hdryRun
            · exact .inl (outcome_of_refused hw hs hm hsame)
            · exact .inr (premature_of_refused hs hm (fun _ _ => of_failing_eq_ok) hdryRun hcause hnames)
          | ok d =>
            obtain ⟨rfl, left, r, lost, _, _, hrun, hforetells, hlost⟩ :=
              writeAll_foretells hdry h hseparate hdryRun
            refine .inr ⟨left, _, _, lost, w.directory,
              generateSnapshot_eq_ok_iff.mpr ⟨w.dry, s', m, d, hwDry, hs, hm, hdryRun, rfl⟩,
              generateSnapshot_eq_ok_iff.mpr ⟨w, s', m, r, hw, hs, hm, hrun, rfl⟩, ?_, hdirectory, ?_⟩
            · exact ⟨hforetells.records, hforetells.degraded, hforetells.errors, hforetells.blamed, rfl, rfl, rfl⟩
            · intro path hpath
              obtain ⟨f, _, rfl, hroom, _⟩ := (hlost path).mp hpath
              exact hroom

/-- The dry run on the staff foresees all of the run. -/
theorem dryRun_foresees_staff :
    Rooted {} ∧ ∃ left d r, (generateSnapshot { dryRun := true } {} {} staff).outcome = .ok ({}, d) ∧
      (generateSnapshot {} {} {} staff).outcome = .ok (left, r) ∧ r.success = true ∧
      r.records.map (·.foreseen) = d.records ∧ d.writeErrors = [] := by
  have hrooted : Rooted {} := by decide
  obtain ⟨left, report, hrun, hsuccess, _⟩ := exists_staffRun
  obtain ⟨-, ⟨e, _, herror | ⟨_, _, _, _, _, table, htable, hlone⟩⟩ |
      ⟨left', d, r, lost, directory, hdry, hreal, hforesees, _⟩⟩ :=
    dryRun_foresees (fun _ text => .ok text) (fun _ => none) {} staff hrooted
  · cases hrun.symm.trans herror
  · have hwhole : ∀ table ∈ staff.tables, table.standIns = [] := by decide
    exact absurd (hwhole table htable) hlone
  · obtain ⟨rfl, rfl⟩ := Prod.mk.inj (Except.ok.inj (hrun.symm.trans hreal))
    obtain ⟨_, _, _, written, _, _, _, _, rfl⟩ := generateSnapshot_eq_ok_iff.mp hrun
    have herrors : written.errors = [] := List.isEmpty_iff.mp (Bool.and_eq_true_iff.mp hsuccess).2
    -- a lost file would be among the errors
    have hlost : lost = [] := by
      refine List.eq_nil_iff_forall_not_mem.mpr fun path hpath => ?_
      have hblamed := (hforesees.blamed path hpath).2
      rw [show Report.writeErrors (reportOf _ _ _ _ written []) = written.errors from rfl, herrors] at hblamed
      cases hblamed
    subst hlost
    refine ⟨hrooted, left, d, _, hdry, hreal, hsuccess, ?_, ?_⟩
    · rw [hforesees.records]
      simp
    · rw [← hforesees.writeErrors]
      simp [reportOf, herrors]

/-- A name that is longer than a name can be. -/
def endless : String := .ofList (List.replicate 256 'a')

/-- Options for a directory that has such a name, below one that is not there. -/
def remote : Options := { outputDir := "/".intercalate ["out", endless] }

theorem notMem_endless {c : Char} (h : c ≠ 'a') : c ∉ endless.toList := by
  unfold endless
  rw [String.toList_ofList, List.mem_replicate]
  exact fun hc => h hc.2

theorem endless_ne {text : String} (h : 'a' ∉ text.toList) : endless ≠ text := by
  rintro rfl
  refine h ?_
  unfold endless
  rw [String.toList_ofList]
  exact List.mem_replicate.mpr ⟨by decide, rfl⟩

theorem ofString_remote : Path.ofString remote.outputDir = ⟨false, ["out", endless]⟩ := by
  have hparts : Path.partsOf remote.outputDir.toList = ["out", endless] := by
    refine Path.partsOf_eq (List.cons_ne_nil _ _) (List.forall_mem_cons.mpr ⟨by decide, ?_⟩)
    exact List.forall_mem_singleton.mpr
      ⟨notMem_endless (by decide), endless_ne (by decide), endless_ne (by decide)⟩
  have hhead : remote.outputDir.toList.head? = some 'o' := by
    unfold remote
    rw [String.intercalate_cons_cons, String.toList_append, String.toList_append]
    rfl
  unfold Path.ofString
  rw [hparts, hhead]
  rfl

/-- In an empty tree everything is read as missing. -/
theorem readText?_empty {first : String} (more : List String) {last : String} (hup : first ≠ "..")
    (hshort : ¬ FileTree.nameLimit < first.utf8ByteSize)
    (hp : FileTree.Spellable ⟨true, first :: more ++ [last]⟩) :
    FileTree.readText? {} ⟨true, first :: more ++ [last]⟩ = .ok none := by
  have hwalk : FileTree.walk {} [] (first :: more) = .error .missing := by
    rw [FileTree.walk, if_neg hup, if_neg hshort]
    rfl
  have hlocate := FileTree.locate_of_walk_error (t := {}) hp rfl hwalk
  unfold FileTree.readText? FileTree.read
  rw [hlocate]
  rfl

/-- The empty catalog has a model, wherever its package is to go. -/
theorem exists_emptyModel (directory : String) :
    ∃ s m, (Snapshot.prepare {} (some { outputDir := directory })).outcome = .ok s ∧
      buildModel { outputDir := directory } s = .ok m := by
  obtain ⟨s, hs, htest⟩ := exists_ok_of_any
    (x := (Snapshot.prepare {} (some { outputDir := directory })).outcome)
    (p := fun s => (buildModel { outputDir := directory } s).toOption.any fun _ => true) rfl
  obtain ⟨m, hm, _⟩ := exists_ok_of_any htest
  exact ⟨s, m, hs, hm⟩

/-- The settings of a run with these options. -/
def remoteSettings : WriteSettings := { directory := ⟨true, ["out", endless]⟩ }

theorem remote_noNull (absolute : Bool) : (⟨absolute, ["out", endless]⟩ : Path).hasNull = false := by
  have hendless : endless.toList.contains '\x00' = false := by
    simpa using notMem_endless (by decide)
  unfold Path.hasNull
  rw [List.any_cons, List.any_cons, List.any_nil, hendless]
  decide

theorem up_notMem_remote : ".." ∉ ["out", endless] := by
  rw [List.mem_cons, List.mem_singleton, not_or]
  exact ⟨by decide, (endless_ne (by decide)).symm⟩

theorem writing_remote : Setup.writing {} remote {} = .ok remoteSettings := by
  unfold Setup.writing FileTree.resolve
  rw [ofString_remote, if_neg (by rw [remote_noNull]; exact Bool.false_ne_true)]
  unfold Path.resolve
  rw [Path.follow_of_not_mem up_notMem_remote]
  rfl

/-- The first file of the package is missed there. -/
theorem misses_remote (hplain : Plain Render.baseFile.path) :
    Misses (fun _ text => .ok text) remoteSettings {} Render.baseFile := by
  have htarget : remoteSettings.target Render.baseFile = ⟨true, ["out", endless, "base.py"]⟩ := by
    rw [target_eq hplain]
    rfl
  have hp : FileTree.Spellable ⟨true, ["out", endless, "base.py"]⟩ := by
    refine ⟨?_, by decide +kernel⟩
    rw [← htarget, hasNull_target hplain]
    exact remote_noNull true
  unfold Misses
  rw [htarget]
  refine ⟨fun hfits => ?_, none, readText?_empty [endless] (by decide) (by decide) hp, nofun⟩
  have hshort := hfits.1 endless (List.mem_cons_of_mem _ List.mem_cons_self)
  exact absurd hshort (by decide +kernel)

/-- **A dry run does not foresee that a name is too long.** It tells of no error, although nothing can be written
into a directory with such a name. -/
theorem not_foreseen_remote :
    ∃ left d r, (generateSnapshot { dryRun := true } remote {} {}).outcome = .ok ({}, d) ∧
      (generateSnapshot {} remote {} {}).outcome = .ok (left, r) ∧ d.writeErrors ≠ r.writeErrors ∧
      "base.py" ∈ d.records.map (·.relative) ∧ "base.py" ∈ r.writeErrors.map (·.1) := by
  have hwDry : Setup.writing { dryRun := true } remote {} = .ok remoteSettings.dry := by
    have hdry := writing_dry {} remote {}
    rw [writing_remote] at hdry
    exact hdry
  obtain ⟨s', m, hs, hm⟩ := exists_emptyModel remote.outputDir
  have hrender := Render.entityFiles_rendersModules m remote
  have hplain := package_plain hm hrender
  have hwhole : ∀ f ∈ (Render.renderPackage m (Render.entityFiles m remote)).files, f.standIns = [] := by
    intro f hf
    refine (package_standIns hm (fun _ _ hfiles => hfiles) hf).resolve_right fun ⟨table, htable, _⟩ => ?_
    cases tables_of_prepare hs htable
  obtain ⟨u, d, hdry⟩ := exists_writeAll_of_whole (s := remoteSettings.dry) (fun _ text => .ok text) {}
    (fun f hf => (hasNull_target (hplain f hf)).trans (remote_noNull true)) hwhole
  obtain ⟨rfl, left, r, lost, _, _, hrun, hforetells, hlost⟩ :=
    writeAll_foretells rfl (by decide : Rooted {}) (package_separate hm hrender rfl up_notMem_remote {}) hdry
  have hbase : "base.py" ∈ lost := by
    refine (hlost "base.py").mpr ⟨Render.baseFile, List.mem_cons_self, rfl, ?_⟩
    exact misses_remote (hplain _ List.mem_cons_self)
  obtain ⟨hrecord, herror⟩ := hforetells.blamed "base.py" hbase
  refine ⟨left, _, _, generateSnapshot_eq_ok_iff.mpr ⟨remoteSettings.dry, s', m, d, hwDry, hs, hm, hdry, rfl⟩,
    generateSnapshot_eq_ok_iff.mpr ⟨remoteSettings, s', m, r, writing_remote, hs, hm, hrun, rfl⟩, ?_, hrecord,
    herror⟩
  intro hsame
  have hkept : "base.py" ∈ d.errors.map (·.1) := by
    rw [show d.errors = r.errors from hsame]
    exact herror
  obtain ⟨entry, hentry, hpath⟩ := List.mem_map.mp hkept
  rw [← hforetells.errors] at hentry
  exact of_decide_eq_true (List.mem_filter.mp hentry).2 (hpath ▸ hbase)

end SchemaScribe.Generation
