import SchemaScribe.Proofs.Output.Isolation

/-!
# What a dry run tells of writing

A dry run reads what it would replace and writes nothing, so it meets every failure of reading. Writing fails
besides at names that leave no room for a temporary file. So the report of a dry run is the one that writing
leads to, but for the status of the records and for files at such paths (`WriteReport.Foretells`): step by
step for one more file (`Foretells.add`), and so for a whole run, in which the files before one file only add
directories on the way to it (`writeFrom_foretells`). A dry run that ends at a file it refuses has an error for
its answer, and writing ends at this file as well, unless a name on the way to it is too long
(`writeAll_foretells_error`).
-/

namespace SchemaScribe.Output

open SchemaScribe.Files SchemaScribe.Text
open SchemaScribe.Files.FileTree (Apart Fits Grows Keeps Nameable Rooted Steady)
open SchemaScribe.Render (GeneratedFile)

variable {style : StylePass} {s : WriteSettings} {t t' : FileTree} {file : GeneratedFile}

/-- The same settings, with nothing written. -/
def WriteSettings.dry (s : WriteSettings) : WriteSettings := { s with dryRun := true }

/-- A record as a dry run has it. -/
def FileRecord.foreseen (record : FileRecord) : FileRecord := { record with status := .dryRun }

/-! ## One file -/

/-- **A file that only a dry run gets through with**: it has to be written, and its path leaves no room. -/
def Misses (style : StylePass) (s : WriteSettings) (t : FileTree) (file : GeneratedFile) : Prop :=
  ¬ Fits (s.target file) ∧ ∃ existing, t.readText? (s.target file) = .ok existing ∧
    existing ≠ some (finalText style s file existing).text

/-- **What a dry run tells of a file**: the fault that there is, or the record, unless the file is missed. -/
inductive Foretold (file : GeneratedFile) (misses : Prop) :
    Except ReadFault FileRecord → Except ReadFault FileRecord → Prop where
  | error (fault : ReadFault) (hmisses : ¬ misses) : Foretold file misses (.error fault) (.error fault)
  | ok (record : FileRecord) (hpath : record.relative = file.path) (hmisses : ¬ misses) :
    Foretold file misses (.ok record.foreseen) (.ok record)
  | lost (record : FileRecord) (hpath : record.relative = file.path) (fault : ReadFault) (hmisses : misses) :
    Foretold file misses (.ok record.foreseen) (.error fault)

/-- A dry run touches nothing. -/
theorem writeFile_dry (style : StylePass) (s : WriteSettings) (t : FileTree) (file : GeneratedFile) :
    (writeFile style s.dry t file).1 = t := by
  cases treatment style s.dry t file with
  | unread fault hread => rw [writeFile_of_error hread]
  | unencodable existing hread fault hencode => rw [(writeFile_of_unencodable hread hencode).1]
  | kept existing hread hencodable hstatus => rw [(writeFile_of_kept hread hencodable hstatus).1]
  | written existing hread hencodable hstatus => cases hstatus

theorem writeFrom_dry (style : StylePass) (s : WriteSettings) (t : FileTree) (r : WriteReport)
    (files : List GeneratedFile) : (writeFrom style s.dry r t files).1 = t := by
  induction files generalizing r with
  | nil => rfl
  | cons file rest ih =>
    rw [writeFrom]
    dsimp only
    rw [writeFile_dry]
    split
    · rfl
    · exact ih _

/-- A dry run refuses the same files. -/
theorem refuses_dry {fault : FileFault} : Refuses style s.dry t file fault ↔ Refuses style s t file fault := by
  constructor
  · intro h
    cases h with
    | path hnull => exact .path hnull
    | text existing hread fault hencode => exact Refuses.text (s := s) existing hread fault hencode
  · intro h
    cases h with
    | path hnull => exact .path hnull
    | text existing hread fault hencode => exact Refuses.text (s := s.dry) existing hread fault hencode

/-- What a dry run finds of a file that can be read and encoded. -/
theorem writeFile_dry_result {existing : Option String} (hread : t.readText? (s.target file) = .ok existing)
    (hencodable : file.standIns.Encodable (finalText style s file existing).text) :
    (writeFile style s.dry t file).2.result = .ok (fileRecord s file (finalText style s file existing) .dryRun) := by
  have hstatus : s.dry.status (finalText style s.dry file existing).text existing ≠ .written := nofun
  exact (writeFile_of_kept (s := s.dry) hread hencodable hstatus).2

/-- **A dry run on the tree as it was foretells the writing of a file into a tree that grew elsewhere**, unless the
file is refused. -/
theorem writeFile_foretold (style : StylePass) (hdry : s.dryRun = false) (h : Rooted t) (h' : Rooted t')
    (hsteady : Steady t (s.target file)) (hkeeps : Keeps t t' (t.place (s.target file)))
    (haccepted : ∀ fault, ¬ Refuses style s t file fault) :
    Foretold file (Misses style s t file) (writeFile style s.dry t file).2.result
      (writeFile style s t' file).2.result := by
  have hmisses : ∀ {existing}, t.readText? (s.target file) = .ok existing → (Misses style s t file ↔
      ¬ Fits (s.target file) ∧ existing ≠ some (finalText style s file existing).text) := by
    intro existing hread
    unfold Misses
    simp [hread]
  rcases FileTree.readText?_keeps h hkeeps hsteady with hsame | ⟨hnone, hlong, hnames⟩
  · cases treatment style s t file with
    | unread fault hread =>
      rw [writeFile_of_error (s := s.dry) hread, writeFile_of_error (hsame.trans hread)]
      refine .error fault ?_
      rintro ⟨_, existing, hexisting, _⟩
      rw [hread] at hexisting
      cases hexisting
    | unencodable existing hread fault hencode => exact absurd (.text existing hread fault hencode) (haccepted _)
    | kept existing hread hencodable hstatus =>
      rw [writeFile_dry_result hread hencodable,
        (writeFile_of_kept (hsame.trans hread) hencodable hstatus).2]
      refine .ok (fileRecord s file _ _) rfl fun hmiss => hstatus ?_
      rw [status_eq hdry, if_neg ((hmisses hread).mp hmiss).2]
    | written existing hread hencodable hstatus =>
      have hread' := hsame.trans hread
      have hother : existing ≠ some (finalText style s file existing).text := by
        intro hexisting
        rw [status_eq hdry, if_pos hexisting] at hstatus
        cases hstatus
      have hwrote := FileTree.write_open h' (FileTree.open_of_readText? h' (hsteady.keeps hkeeps) hread')
        (finalText style s file existing).text.toUTF8
      rw [writeFile_dry_result hread hencodable, (writeFile_of_written hread' hencodable hstatus).2]
      rcases hwrote.outcome with ⟨hfits, hok⟩ | ⟨hroom, fault, hfault, _⟩
      · rw [hok]
        exact .ok (fileRecord s file _ .written) rfl fun hmiss => ((hmisses hread).mp hmiss).1 hfits
      · rw [hfault]
        exact .lost (fileRecord s file _ .written) rfl _ ((hmisses hread).mpr ⟨hroom, hother⟩)
  · have hencodable : file.standIns.Encodable (finalText style s file none).text := by
      cases hencode : file.standIns.encode (finalText style s file none).text with
      | error fault => exact absurd (.text none hnone fault hencode) (haccepted _)
      | ok bytes => exact (StandIns.encode_eq_ok_iff.mp hencode).1
    rw [writeFile_dry_result hnone hencodable, writeFile_of_error hlong]
    exact .lost (fileRecord s file (finalText style s file none) .written) rfl _
      ⟨fun hfits => hnames hfits.1, none, hnone, nofun⟩

/-! ## Files in turn -/

/-- The paths that a report tells of. -/
def WriteReport.known (r : WriteReport) : List String :=
  r.records.map (·.relative) ++ r.degraded ++ r.errors.map (·.1)

/-- **A report that foretells another one**: both tell the same, but for files that only one has records of, and
the other has errors of. -/
structure WriteReport.Foretells (d r : WriteReport) (lost : List String) : Prop where
  records : r.records.map (·.foreseen) = d.records.filter fun record => record.relative ∉ lost
  degraded : r.degraded = d.degraded.filter (· ∉ lost)
  errors : r.errors.filter (fun entry => entry.1 ∉ lost) = d.errors
  blamed : ∀ path ∈ lost, path ∈ d.records.map (·.relative) ∧ path ∈ r.errors.map (·.1)

namespace WriteReport.Foretells

variable {d r : WriteReport} {lost : List String}

theorem mem_known (h : d.Foretells r lost) {path : String} (hpath : path ∈ r.errors.map (·.1)) :
    path ∈ d.known := by
  obtain ⟨entry, hentry, rfl⟩ := List.mem_map.mp hpath
  unfold known
  by_cases hlost : entry.1 ∈ lost
  · exact List.mem_append_left _ (List.mem_append_left _ (h.blamed _ hlost).1)
  · refine List.mem_append_right _ (List.mem_map_of_mem ?_)
    rw [← h.errors]
    exact List.mem_filter.mpr ⟨hentry, decide_eq_true hlost⟩

/-- What is filtered by a list of paths is filtered alike by the list with a path that is new. -/
theorem filter_cons_of_new {α : Type} {f : α → String} {items : List α} {path : String}
    (hnew : path ∉ items.map f) (lost : List String) :
    items.filter (fun a => f a ∉ path :: lost) = items.filter fun a => f a ∉ lost := by
  refine List.filter_congr fun a ha => ?_
  have hne : f a ≠ path := fun heq => hnew (heq ▸ List.mem_map_of_mem ha)
  simp [hne]

/-- **One more file** is told of by both reports alike, or it is one more of those that are lost. -/
theorem add (h : d.Foretells r lost) (hnew : file.path ∉ d.known) {misses : Prop} {x y : FileOutcome}
    (hfile : Foretold file misses x.result y.result) :
    ∃ lost', (d.add s.dry file x).Foretells (r.add s file y) lost' ∧
      ∀ path, path ∈ lost' ↔ path ∈ lost ∨ path = file.path ∧ misses := by
  have hnewErrors : file.path ∉ r.errors.map (·.1) := fun hmem => hnew (h.mem_known hmem)
  unfold known at hnew
  rw [List.mem_append, List.mem_append, not_or, not_or] at hnew
  obtain ⟨⟨hnewRecords, hnewDegraded⟩, hnewFaults⟩ := hnew
  have hkept : file.path ∉ lost := fun hmem => hnewRecords (h.blamed _ hmem).1
  obtain ⟨hdRecords, hdDegraded, hdErrors⟩ := add_eq s.dry x hnewFaults
  obtain ⟨hrRecords, hrDegraded, hrErrors⟩ := add_eq s y hnewErrors
  -- what was lost before stays lost
  have hblamed : ∀ path ∈ lost, path ∈ (d.add s.dry file x).records.map (·.relative) ∧
      path ∈ (r.add s file y).errors.map (·.1) := by
    intro path hpath
    obtain ⟨hrecord, herror⟩ := h.blamed path hpath
    rw [hdRecords, hrErrors, List.map_append, List.map_append]
    exact ⟨List.mem_append_left _ hrecord, List.mem_append_left _ herror⟩
  generalize x.result = a at *
  generalize y.result = b at *
  cases hfile with
  | error fault hmisses =>
    refine ⟨lost, ⟨?_, ?_, ?_, hblamed⟩, fun path => by simp [hmisses]⟩
    · rw [hdRecords, hrRecords]
      simpa [Except.toOption] using h.records
    · rw [hdDegraded, hrDegraded]
      simpa [degrades, Except.toOption] using h.degraded
    · rw [hdErrors, hrErrors, List.filter_append, h.errors]
      simp [errorsOf, hkept]
  | ok record hpath hmisses =>
    have hrelative : record.foreseen.relative = file.path := hpath
    have hdegrades : degrades s.dry (.ok record.foreseen) = degrades s (.ok record) := rfl
    refine ⟨lost, ⟨?_, ?_, ?_, hblamed⟩, fun path => by simp [hmisses]⟩
    · rw [hdRecords, hrRecords, List.map_append, List.filter_append, h.records]
      simp [Except.toOption, hrelative, hkept]
    · rw [hdDegraded, hrDegraded, List.filter_append, h.degraded, hdegrades]
      split
      · simp [hkept]
      · rfl
    · rw [hdErrors, hrErrors]
      simpa [errorsOf] using h.errors
  | lost record hpath fault hmisses =>
    have hrelative : record.foreseen.relative = file.path := hpath
    have hfails : degrades s (.error fault) = false := by simp [degrades, Except.toOption]
    have hdegraded : d.degraded.filter (· ∉ file.path :: lost) = d.degraded.filter (· ∉ lost) :=
      filter_cons_of_new (f := fun path => path) (by simpa using hnewDegraded) lost
    refine ⟨file.path :: lost, ⟨?_, ?_, ?_, ?_⟩, ?_⟩
    · rw [hdRecords, hrRecords, List.filter_append, filter_cons_of_new hnewRecords, ← h.records]
      simp [Except.toOption, hrelative]
    · rw [hdDegraded, hrDegraded, List.filter_append, hdegraded, ← h.degraded, hfails,
        if_neg Bool.false_ne_true]
      split
      · simp
      · simp
    · rw [hdErrors, hrErrors, List.filter_append, filter_cons_of_new hnewErrors, h.errors]
      simp [errorsOf]
    · refine List.forall_mem_cons.mpr ⟨?_, hblamed⟩
      rw [hdRecords, hrErrors, List.map_append, List.map_append]
      exact ⟨List.mem_append_right _ (List.mem_singleton.mpr hrelative.symm),
        List.mem_append_right _ (List.mem_singleton_self _)⟩
    · intro path
      rw [List.mem_cons, or_comm]
      simp [hmisses]

end WriteReport.Foretells

/-- A file adds its own path to those that a report tells of. -/
theorem mem_known_add {d : WriteReport} (hnew : file.path ∉ d.known) {misses : Prop} {x y : FileOutcome}
    (hfile : Foretold file misses x.result y.result) {path : String}
    (hpath : path ∈ (d.add s.dry file x).known) : path ∈ d.known ∨ path = file.path := by
  have hnewFaults : file.path ∉ d.errors.map (·.1) := fun hmem => hnew (List.mem_append_right _ hmem)
  obtain ⟨hrecords, hdegraded, herrors⟩ := add_eq s.dry x hnewFaults
  unfold WriteReport.known at hpath ⊢
  rw [hrecords, hdegraded, herrors] at hpath
  simp only [List.map_append, List.mem_append] at hpath ⊢
  rcases hpath with ((hold | hrecord) | (hold | hdegraded)) | (hold | herror)
  · exact .inl (.inl (.inl hold))
  · refine .inr ?_
    generalize x.result = a at *
    generalize y.result = b at *
    cases hfile with
    | error fault => cases hrecord
    | ok _ hrelative => exact (List.mem_singleton.mp hrecord).trans hrelative
    | lost _ hrelative => exact (List.mem_singleton.mp hrecord).trans hrelative
  · exact .inl (.inl (.inr hold))
  · refine .inr ?_
    split at hdegraded
    · exact List.mem_singleton.mp hdegraded
    · cases hdegraded
  · exact .inl (.inr hold)
  · exact .inr (eq_path_of_mem_errorsOf herror)

/-- A dry run that does not end early: no file of it is refused in writing, and the report foretells that of
writing. -/
theorem writeFrom_foretells (hdry : s.dryRun = false) (h : Rooted t) {files : List GeneratedFile}
    {done : List (List String)} (hseparate : Separate s t done files) (h' : Rooted t') (hgrows : Grows t t' done)
    {d d' r : WriteReport} {lost : List String} (hnew : ∀ f ∈ files, f.path ∉ d.known)
    (hforetells : d.Foretells r lost) {u : FileTree} (hdryRun : writeFrom style s.dry d t files = (u, .ok d')) :
    u = t ∧ ∃ left r' lost', Rooted left ∧ Grows t' left (files.map fun f => t.place (s.target f)) ∧
      writeFrom style s r t' files = (left, .ok r') ∧ d'.Foretells r' lost' ∧
      ∀ path, path ∈ lost' ↔ path ∈ lost ∨ ∃ f ∈ files, path = f.path ∧ Misses style s t f := by
  induction files generalizing t' d r lost done with
  | nil =>
    cases hdryRun
    exact ⟨rfl, t', r, lost, h', .refl t' _, rfl, hforetells, fun path => by simp⟩
  | cons file rest ih =>
    obtain ⟨hsteady, hbeside, hapart, hrest⟩ := hseparate.cons
    obtain ⟨hfileNew, hrestNew⟩ := List.forall_mem_cons.mp hnew
    obtain ⟨hdryNone, hdryRun⟩ := writeFrom_cons_eq_ok hdryRun
    rw [writeFile_dry] at hdryRun
    have haccepted : ∀ fault, ¬ Refuses style s t file fault := by
      intro fault hrefuses
      rw [refusal?_writeFile_iff.mpr (refuses_dry.mpr hrefuses)] at hdryNone
      cases hdryNone
    have hkeeps := hgrows.keeps hbeside
    have hfile := writeFile_foretold style hdry h h' hsteady hkeeps haccepted
    have hnone : (writeFile style s t' file).2.refusal? = none := by
      rw [Option.eq_none_iff_forall_ne_some]
      intro fault hrefusal
      exact haccepted fault ((refusal?_writeFile_iff.mp hrefusal).alone hdry h h' hsteady hkeeps)
    obtain ⟨hrooted, hnext, _⟩ := writeFile_grows style h' (hsteady.keeps hkeeps)
    rw [FileTree.place_of_home hgrows.home] at hnext
    obtain ⟨lost₁, hforetells₁, hlost₁⟩ := hforetells.add hfileNew hfile
    have hnew₁ : ∀ f ∈ rest, f.path ∉ (d.add s.dry file (writeFile style s.dry t file).2).known := by
      intro f hf hmem
      rcases mem_known_add hfileNew hfile hmem with hold | hsame
      · exact hrestNew f hf hold
      · exact path_ne_of_apart (hapart f hf) hsame
    obtain ⟨htree, left, r', lost', hleft, hgrowsRest, hrun, hforetells', hlost'⟩ :=
      ih hrest hrooted (hgrows.append hnext) hnew₁ hforetells₁ hdryRun
    refine ⟨htree, left, r', lost', hleft, hnext.append hgrowsRest, ?_, hforetells', fun path => ?_⟩
    · rw [writeFrom_cons r rest hnone, hrun]
    · rw [hlost', hlost₁, List.exists_mem_cons_iff, or_assoc]

section

variable (hdry : s.dryRun = false) (h : Rooted t) {files : List GeneratedFile}

include hdry h

/-- **A dry run tells what writing leads to**, from the same tree, where it comes to its end. The report of
writing differs in the status of the records, and in the files that only the dry run gets through with
(`Misses`); these are the ones that are lost. -/
theorem writeAll_foretells (hseparate : Separate s t [] files) {u : FileTree} {d : WriteReport}
    (hdryRun : writeAll style s.dry t files = (u, .ok d)) :
    u = t ∧ ∃ left r lost, Rooted left ∧ Grows t left (files.map fun f => t.place (s.target f)) ∧
      writeAll style s t files = (left, .ok r) ∧ d.Foretells r lost ∧
      ∀ path, path ∈ lost ↔ ∃ f ∈ files, path = f.path ∧ Misses style s t f := by
  have hstart : WriteReport.Foretells { directory := s.directory.shown } { directory := s.directory.shown } [] :=
    ⟨rfl, rfl, rfl, List.forall_mem_nil _⟩
  obtain ⟨htree, left, r, lost, hleft, hgrows, hrun, hforetells, hlost⟩ :=
    writeFrom_foretells hdry h hseparate h (.refl t []) (fun _ _ => List.not_mem_nil) hstart hdryRun
  refine ⟨htree, left, r, lost, hleft, hgrows, hrun, hforetells, fun path => ?_⟩
  rw [hlost]
  exact or_iff_right List.not_mem_nil

/-- **A dry run that ends early** ends as writing does, except at a file that cannot be encoded and whose path has a
name that is too long. -/
theorem writeAll_foretells_error (hsteady : ∀ f ∈ files, Steady t (s.target f))
    (hapart : files.Pairwise fun f g => Apart (t.place (s.target f)) (t.place (s.target g))) {u : FileTree}
    {fault : FileFault} (hdryRun : writeAll style s.dry t files = (u, .error fault)) :
    u = t ∧ ((writeAll style s t files).2 = .error fault ∨
      ¬ Nameable fault.path ∧ ∃ lone, fault.cause = .unencodable lone) := by
  obtain ⟨before, f, after, d, rfl, hbefore, hrefuses⟩ := writeFrom_eq_error hdryRun
  obtain ⟨hbeforeSteady, hrestSteady⟩ := List.forall_mem_append.mp hsteady
  obtain ⟨hbeforeApart, _, hapart⟩ := List.pairwise_append.mp hapart
  obtain ⟨rfl, left, r, _, hleft, hgrows, hrun, _⟩ :=
    writeAll_foretells hdry h ⟨hbeforeSteady, hbeforeApart, fun _ _ => List.forall_mem_nil _⟩ hbefore
  refine ⟨rfl, ?_⟩
  have hbeside : ∀ place ∈ before.map fun g => u.place (s.target g), Apart place (u.place (s.target f)) :=
    List.forall_mem_map.mpr fun g hg => hapart g hg f List.mem_cons_self
  have hrefused : ∀ {fault'}, Refuses style s left f fault' →
      (writeAll style s u (before ++ f :: after)).2 = .error fault' := by
    intro fault' hrefuses
    unfold writeAll at hrun ⊢
    rw [writeFrom_append hrun, writeFrom_cons_of_refuses hrefuses]
  have halone := refuses_dry.mp hrefuses
  by_cases hnames : Nameable (s.target f)
  · exact .inl (hrefused (halone.grown hdry h hleft (hrestSteady f List.mem_cons_self)
      (hgrows.keeps hbeside) hnames))
  · cases halone with
    | path hnull => exact .inl (hrefused (.path hnull))
    | text existing hread lone hencode => exact .inr ⟨hnames, lone, rfl⟩

end

end SchemaScribe.Output
