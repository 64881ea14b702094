import SchemaScribe.Proofs.Generation.Run
import SchemaScribe.Proofs.Render.Docstrings
import SchemaScribe.Proofs.Render.Isolation

/-!
# What a run that ends in an error leaves behind

An error answers no tree, so the tree that a run leaves behind is told beside its answer (`treeOfSnapshot`,
`treeOfSource`). Reading, checking, building and rendering touch no files, and their errors come before the
first change. Writing records what goes wrong with single files and goes on. Two things stop it:

- a path that has a null character in it. All paths of a package lie below one directory, and what is put behind the
  directory has no null character. So writing stops at the first file, before anything is written, or not at all;
- a text with lone surrogates. No other text of a catalog than the comment of a table can have any, and a comment
  goes into the module of its table. Where a run comes to such a module, the files before it are
  written already, and they stay (`run_leaves_garbled`).

So an error leaves the files alone wherever no comment has a lone surrogate (`run_leaves`).
-/

namespace SchemaScribe.Generation

open SchemaScribe.Catalog SchemaScribe.Connection SchemaScribe.Database SchemaScribe.Files
open SchemaScribe.Output SchemaScribe.Text
open SchemaScribe.Render (EntityRenderer GeneratedFile RenderFault RendersModules failing)

/-! ## Renderers that fail -/

theorem of_failing_eq_ok {fault : String → Option RenderFault} {render : EntityRenderer} {e : Entity}
    {files : List GeneratedFile} (h : failing fault render e = .ok files) : render e = .ok files := by
  unfold failing at h
  split at h
  · cases h
  · exact h

/-- A renderer that fails more often still makes the other entities their modules. -/
theorem rendersModules_of_imp {render render' : EntityRenderer} (h : RendersModules render)
    (hless : ∀ e files, render' e = .ok files → render e = .ok files) : RendersModules render' :=
  ⟨fun e files hfiles => h.entity e files (hless e files hfiles),
    fun e files hfiles => h.input e files (hless e files hfiles)⟩

theorem failing_rendersModules {render : EntityRenderer} (h : RendersModules render)
    (fault : String → Option RenderFault) : RendersModules (failing fault render) :=
  rendersModules_of_imp h fun _ _ => of_failing_eq_ok

/-! ## Runs -/

/-- A plain path brings no null character with it. -/
theorem hasNull_target {w : WriteSettings} {f : GeneratedFile} (hplain : Plain f.path) :
    (w.target f).hasNull = w.directory.hasNull := by
  have hparts : (Path.partsOf f.path.toList).any (·.toList.contains '\x00') = false := by
    rw [List.any_eq_false]
    intro part hpart hnull
    exact hplain.noNull part hpart (List.contains_iff_mem.mp hnull)
  rw [target_eq hplain]
  unfold Path.hasNull
  rw [List.any_append, hparts, Bool.or_false]

/-- **What a run leaves behind.** A run that comes to its end leaves the tree that it answers. One that ends in an
error leaves the tree as it was, unless it came to a module that cannot be encoded: then the files in front of this
one are written. Such a module is that of a table of the catalog with lone surrogates in its comment. What is written
of the files in front of it is what writing them alone would have led to. -/
inductive Leaves (setup : Setup) (o : Options) (IsCatalog : Snapshot → Prop) (before left : FileTree) :
    Except RunError (FileTree × Report) → Prop
  | answered (report : Report) : Leaves setup o IsCatalog before left (.ok (left, report))
  | untouched (e : RunError) (hsame : left = before) : Leaves setup o IsCatalog before left (.error e)
  | interrupted {s : Snapshot} {m : Model} {w : WriteSettings} {f : GeneratedFile} {table : Table}
    {fault : EncodeFault} (hs : IsCatalog s) (hw : setup.writing o before = .ok w) (hm : buildModel o s = .ok m)
    (hstops : StopsAt setup.style w before (Render.renderPackage m (setup.renderer m o)).files left f fault)
    (htable : table ∈ s.tables) (hstandIns : f.standIns = table.standIns) (hlone : table.standIns ≠ []) :
    Leaves setup o IsCatalog before left (.error (.output ⟨.unencodable fault, w.target f, .path⟩))

section

variable {setup : Setup}
  (hrender : ∀ m o e files, setup.renderer m o e = .ok files → Render.entityFiles m o e = .ok files)
  (o : Options) (t : FileTree) {IsCatalog : Snapshot → Prop}

include hrender

theorem generateFrom_leaves {w : WriteSettings} (hw : setup.writing o t = .ok w) {s : Snapshot} (hs : IsCatalog s)
    (steps : List Generation.Step) :
    Leaves setup o IsCatalog t (treeFrom setup w o t s) (generateFrom setup w o t s steps).outcome := by
  rw [generateFrom_outcome]
  unfold treeFrom
  cases hm : buildModel o s with
  | error _ => exact .untouched _ rfl
  | ok m =>
    show Leaves setup o IsCatalog t (writeAll setup.style w t _).1
      ((writeAll setup.style w t _).2.mapError RunError.output >>= _)
    have hmodules := rendersModules_of_imp (Render.entityFiles_rendersModules m o) (hrender m o)
    have hplain := package_plain hm hmodules
    cases hwrite : writeAll setup.style w t (Render.renderPackage m (setup.renderer m o)).files with
    | mk left outcome =>
      cases outcome with
      | ok written => exact .answered _
      | error fault =>
        rcases writeAll_eq_error (fun f hf => hasNull_target (hplain f hf)) hwrite with
          hsame | ⟨f, lone, rfl, hstops⟩
        · exact .untouched _ hsame
        · obtain ⟨hf, hlone⟩ := hstops.standIns_ne_nil
          obtain ⟨table, htable, hsame⟩ := (package_standIns hm (hrender m o) hf).resolve_left hlone
          exact .interrupted hs hw hm hstops htable hsame (hsame ▸ hlone)

theorem generateSnapshot_leaves {s : Snapshot}
    (hcatalog : ∀ s', (s.prepare (some o)).outcome = .ok s' → IsCatalog s') :
    Leaves setup o IsCatalog t (treeOfSnapshot setup o t s) (generateSnapshot setup o t s).outcome := by
  unfold generateSnapshot treeOfSnapshot
  simp only [Noted.outcome_bind, Noted.outcome_ofExcept]
  cases hw : setup.writing o t with
  | error _ => exact .untouched _ rfl
  | ok w =>
    show Leaves setup o IsCatalog t _ ((s.prepare (some o)).outcome.mapError RunError.inconsistent >>= _)
    cases hs : (s.prepare (some o)).outcome with
    | error _ => exact .untouched _ rfl
    | ok prepared => exact generateFrom_leaves hrender o t hw (hcatalog prepared hs) []

theorem generate_leaves {d : Descriptor} {source : Source}
    (hcatalog : ∀ s, (introspect d source (some o)).result = .ok s → IsCatalog s) :
    Leaves setup o IsCatalog t (treeOfSource setup d o t source) (generate setup d o t source).run.outcome := by
  unfold generate treeOfSource
  cases hw : setup.writing o t with
  | error _ => exact .untouched _ rfl
  | ok w =>
    show Leaves setup o IsCatalog t _ (Introspection.running (introspect d source (some o)) >>= fun s =>
      generateFrom setup w o t s [introspectStep s]).outcome
    rw [Noted.outcome_bind]
    show Leaves setup o IsCatalog t _
      ((introspect d source (some o)).result.mapError RunError.introspection >>= _)
    cases hs : (introspect d source (some o)).result with
    | error _ => exact .untouched _ rfl
    | ok s => exact generateFrom_leaves hrender o t hw (hcatalog s hs) [introspectStep s]

end

/-- **A run that ends in an error leaves every file and directory as it was, unless it came to a comment with lone
surrogates**, and then it leaves what it had written by then. This holds for runs on a catalog and on a source,
whatever catalog, source, options, tree and style pass are given and whichever entities cannot be rendered.
A run that comes to its end leaves the tree that it answers. -/
theorem run_leaves (style : StylePass) (dryRun : Bool) (fault : String → Option RenderFault) (o : Options)
    (t : FileTree) :
    let setup : Setup := { renderer := fun m o => failing fault (Render.entityFiles m o), style, dryRun }
    (∀ s, Leaves setup o (fun s' => (s.prepare (some o)).outcome = .ok s') t (treeOfSnapshot setup o t s)
        (generateSnapshot setup o t s).outcome) ∧
      ∀ d source, Leaves setup o (fun s => (introspect d source (some o)).result = .ok s) t
        (treeOfSource setup d o t source) (generate setup d o t source).run.outcome := by
  intro setup
  have hrender : ∀ m o e files, setup.renderer m o e = .ok files → Render.entityFiles m o e = .ok files :=
    fun _ _ _ _ => of_failing_eq_ok
  exact ⟨fun _ => generateSnapshot_leaves hrender o t fun _ h => h,
    fun _ _ => generate_leaves hrender o t fun _ h => h⟩

/-- A run on a catalog with a key over a column that is not there ends in an error. -/
example : (generateSnapshot {} {} {} stray).outcome.toOption.isNone = true := by decide +kernel

/-! ## Comments with lone surrogates -/

theorem mem_withoutTripleQuotes {c : Char} {text : List Char} (h : c ∈ text) (hc : c ≠ '"') :
    c ∈ Render.withoutTripleQuotes text := by
  fun_induction Render.withoutTripleQuotes text with
  | case1 rest ih =>
    simp only [List.mem_cons, hc, false_or] at h
    exact ih h
  | case2 first rest _ ih =>
    rcases List.mem_cons.mp h with rfl | h
    · exact List.mem_cons_self
    · exact List.mem_cons_of_mem first (ih h)
  | case3 => cases h

/-- What is in the comment of an entity is in its module, but for quotes. -/
theorem mem_content_of_comment {m : Model} {o : Options} {e : Entity} {f : GeneratedFile}
    (hfile : Render.entityFile m o e = .ok f) {comment : String} (hcomment : e.comment = some comment) {c : Char}
    (h : c ∈ comment.toList) (hc : c ≠ '"') : c ∈ f.content.toList := by
  obtain ⟨u, hu, hcontent⟩ := Render.entityFile_unit hfile
  obtain ⟨targets, _, rfl⟩ := Render.entityUnit_eq_ok hu
  have hfilled : filled? e.comment = some comment := by
    rw [hcomment]
    refine Option.filter_eq_some_iff.mpr ⟨rfl, ?_⟩
    have hne : comment ≠ "" := by
      rintro rfl
      cases h
    simpa using hne
  obtain ⟨kept, after, rfl, hshown, _⟩ := (Render.entityUnitOf_documents m o e targets).comment comment hfilled
  rw [hcontent, hshown]
  simp only [List.mem_append]
  exact .inl (.inl (.inr (mem_withoutTripleQuotes h hc)))

/-- **A comment with lone surrogates makes a module that cannot be encoded**, if the style pass keeps what it is
given. -/
theorem not_encodable_plainText {style : StylePass}
    (hstyle : ∀ (n : Nat) (text out : String), style n text = .ok out → text.toList ⊆ out.toList) {m : Model}
    {o : Options} {e : Entity} {f : GeneratedFile} (hfile : Render.entityFile m o e = .ok f) {comment : String}
    (hcomment : e.comment = some comment) (hlone : ¬ e.standIns.Encodable comment) (w : WriteSettings) :
    ¬ f.standIns.Encodable (plainText style w f) := by
  intro hencodable
  rw [(Render.entityFile_eq_ok hfile).2.2] at hencodable
  refine hlone fun c hc => ?_
  by_contra hsurrogate
  have hbehind : ¬ c.toNat < 0xe000 := fun hlt => hsurrogate (StandIns.surrogate?_eq_none_of_lt hlt)
  have hne : ∀ {d : Char}, d.toNat < 0xe000 → c ≠ d := fun hlt hsame => hbehind (hsame ▸ hlt)
  have hcontent := mem_content_of_comment hfile hcomment hc (hne (by decide))
  refine hsurrogate (hencodable c ?_)
  refine plainText_induction (P := fun text => c ∈ text.toList) (fun text h => ?_)
    (fun n text out hout h => hstyle n text out hout h) w hcontent
  rw [toList_canonical]
  exact mem_canonicalChars_of_mem h ⟨hne (by decide), hne (by decide), hne (by decide)⟩

/-- The settings of a run into an empty tree. -/
def emptySettings : WriteSettings := { directory := ⟨true, ["generated"]⟩ }

/-- The second file of its package is the module of the table, which cannot be encoded. -/
theorem exists_garbledModule :
    ∃ m f rest, buildModel {} garbled = .ok m ∧
      (Render.renderPackage m (Render.entityFiles m {})).files = Render.baseFile :: f :: rest ∧
      f.path = "entities/guest.py" ∧
      ¬ f.standIns.Encodable (plainText (fun _ text => .ok text) emptySettings f) := by
  obtain ⟨m, hm, htest⟩ := exists_ok_of_any (x := buildModel {} garbled)
    (p := fun m => ((Render.renderPackage m (Render.entityFiles m {})).files.map (·.path)).take 2 =
        ["base.py", "entities/guest.py"] ∧
      m.entities.all fun e => e.comment = some "\uf000" ∧ e.standIns = [hushed]) (by decide +kernel)
  obtain ⟨hpaths, hentities⟩ := of_decide_eq_true htest
  obtain ⟨others, hothers⟩ : ∃ others, (Render.renderPackage m (Render.entityFiles m {})).files =
      Render.baseFile :: others := ⟨_, rfl⟩
  rw [hothers] at hpaths
  cases others with
  | nil => cases hpaths
  | cons f rest =>
    have hpath : f.path = "entities/guest.py" := List.head_eq_of_cons_eq (List.tail_eq_of_cons_eq hpaths)
    refine ⟨m, f, rest, hm, hothers, hpath, ?_⟩
    have hname : Render.modulePath Render.entitiesPackage "guest" = "entities/guest.py" := by decide
    have hmodule : Render.IsModule f.path := ⟨"guest", by decide, .inl (hpath.trans hname.symm)⟩
    have hf : f ∈ (Render.renderPackage m (Render.entityFiles m {})).files := by
      rw [hothers]
      exact List.mem_cons_of_mem _ List.mem_cons_self
    rcases Render.mem_renderPackage hf with hfixed | ⟨e, he, hfile | rfl⟩
    · exact absurd hmodule (Render.not_isModule hfixed)
    · obtain ⟨hcomment, hstandIns⟩ := of_decide_eq_true (List.all_eq_true.mp hentities e he)
      refine not_encodable_plainText ?_ hfile hcomment (by rw [hstandIns]; decide) emptySettings
      rintro _ text _ ⟨⟩
      exact List.Subset.refl _
    · exact absurd (hname.trans hpath.symm) Render.modulePath_ne

/-- The first file is written, and nothing is in the way of the second one then. -/
theorem writeFile_baseFile :
    let wrote := writeFile (fun _ text => .ok text) emptySettings {} Render.baseFile
    wrote.2.refusal? = none ∧ FileTree.entry? wrote.1 ["generated", "base.py"] ≠ none ∧
      wrote.1.readText? ⟨true, ["generated", "entities", "guest.py"]⟩ = .ok none := by
  -- this is so whatever the bytes of the file are
  have hwritten : ∀ bytes, (FileTree.write {} (emptySettings.target Render.baseFile) bytes).2 = .ok () :=
    fun _ => rfl
  have hthere : ∀ bytes, FileTree.entry? (FileTree.write {} (emptySettings.target Render.baseFile) bytes).1
      ["generated", "base.py"] = some (.file bytes) := fun _ => rfl
  have hmissing : ∀ bytes, (FileTree.write {} (emptySettings.target Render.baseFile) bytes).1.readText?
      ⟨true, ["generated", "entities", "guest.py"]⟩ = .ok none := fun _ => rfl
  have hread : FileTree.readText? {} (emptySettings.target Render.baseFile) = .ok none := rfl
  have hencodable : Render.baseFile.standIns.Encodable
      (finalText (fun _ text => .ok text) emptySettings Render.baseFile none).text := StandIns.encodable_nil _
  obtain ⟨htree, hresult⟩ := writeFile_of_written hread hencodable rfl
  refine ⟨?_, ?_, ?_⟩
  · unfold FileOutcome.refusal?
    rw [hresult, hwritten]
    rfl
  · rw [htree, hthere]
    exact nofun
  · rw [htree, hmissing]

/-- **Not every run that ends in an error leaves the files alone.** The run on this catalog into an empty tree stops at
the second file, and the first one stays. -/
theorem run_leaves_garbled :
    ∃ e, (generateSnapshot {} {} {} garbled).outcome = .error e ∧
      Leaves {} {} (fun s' => (garbled.prepare (some {})).outcome = .ok s') {} (treeOfSnapshot {} {} {} garbled)
        (.error e) ∧
      FileTree.entry? (treeOfSnapshot {} {} {} garbled) ["generated", "base.py"] ≠ none := by
  obtain ⟨m, f, rest, hm, hfiles, hpath, hlone⟩ := exists_garbledModule
  have hw : Setup.writing {} {} {} = .ok emptySettings := rfl
  have hs : (garbled.prepare (some {})).outcome = .ok garbled := rfl
  have htarget : emptySettings.target f = ⟨true, ["generated", "entities", "guest.py"]⟩ := by
    unfold WriteSettings.target
    rw [hpath]
    decide
  obtain ⟨hnone, hthere, hmissing⟩ := writeFile_baseFile
  obtain ⟨lone, hencode⟩ := StandIns.exists_encode_eq_error hlone
  have hrefuses := Refuses.text none (htarget ▸ hmissing) lone hencode
  have hrun := congrArg (writeAll (fun _ text => .ok text) emptySettings {}) hfiles
  rw [show writeAll _ _ _ (_ :: _ :: _) = _ from
    (writeFrom_cons _ _ hnone).trans (writeFrom_cons_of_refuses hrefuses _ rest)] at hrun
  have houtcome := outcome_of_refused hw hs hm (congrArg Prod.snd hrun)
  refine ⟨_, houtcome, ?_, ?_⟩
  · rw [← houtcome]
    exact (run_leaves (fun _ text => .ok text) false (fun _ => none) {} {}).1 garbled
  · have htree := (treeOfSnapshot_eq hw hs hm).trans (congrArg Prod.fst hrun)
    rw [htree]
    exact hthere

end SchemaScribe.Generation
