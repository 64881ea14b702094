import SchemaScribe.Proofs.Files.Writing
import SchemaScribe.Proofs.Output.Writer

/-!
# Files are written as if each were alone

A run writes one file after the other. Of files that have places apart, each leads to what it would lead to if
it were written alone into the tree as it was before the run (`writeAll_isolated`): the files before it only add
directories on the way to it, and the files after it leave its place alone. This holds for any mixture of
outcomes. It needs a path that leads to its place from the start, for double dots behind a missing directory lead
nowhere until another file brings the directory. A file that is refused, for a null character in its path or lone
surrogates in its text, ends the run.
-/

namespace SchemaScribe.Output

open SchemaScribe.Document SchemaScribe.Files SchemaScribe.Text
open SchemaScribe.Files.FileTree (Apart Grows Keeps Nameable Open Rooted Steady)
open SchemaScribe.Render (GeneratedFile)

variable {style : StylePass} {s : WriteSettings} {t t' : FileTree} {file : GeneratedFile}

/-! ## One file in a tree that grew -/

/-- A result that tells of a name that is too long. -/
def TooLong (x : Except ReadFault FileRecord) : Prop :=
  ∃ fault : FileFault, x = .error (.file fault) ∧ fault.cause = .nameTooLong

/-- A result that tells of a text that cannot be encoded. -/
def Unencodable (x : Except ReadFault FileRecord) : Prop :=
  ∃ (fault : FileFault) (lone : EncodeFault), x = .error (.file fault) ∧ fault.cause = .unencodable lone

/-- **Results that tell the same of a path.** Of a name that is too long they may tell with other words, for which
path is complained about depends on which directories are there. Where they are not there yet, it may not even
come to that, because the text cannot be encoded. -/
def Agree (p : Path) (x y : Except ReadFault FileRecord) : Prop :=
  x = y ∨ ¬ Nameable p ∧ TooLong x ∧ (TooLong y ∨ Unencodable y)

/-- **Writing a file grows the tree at its place**: a file comes there, directories come above it, and
everything else stays. A failure leaves the place as it was, though directories may have been made on the way to
it. -/
theorem writeFile_grows (style : StylePass) (h : Rooted t) (hsteady : Steady t (s.target file)) :
    Rooted (writeFile style s t file).1 ∧
      Grows t (writeFile style s t file).1 [t.place (s.target file)] ∧
      ∀ fault, (writeFile style s t file).2.result = .error fault →
        FileTree.entry? (writeFile style s t file).1 (t.place (s.target file)) =
          t.entry? (t.place (s.target file)) := by
  cases treatment style s t file with
  | unread fault hread =>
    rw [writeFile_of_error hread]
    exact ⟨h, .refl t _, fun _ _ => rfl⟩
  | unencodable existing hread fault hencode =>
    rw [(writeFile_of_unencodable hread hencode).1]
    exact ⟨h, .refl t _, fun _ _ => rfl⟩
  | kept existing hread hencodable hstatus =>
    rw [(writeFile_of_kept hread hencodable hstatus).1]
    exact ⟨h, .refl t _, fun _ _ => rfl⟩
  | written existing hread hencodable hstatus =>
    obtain ⟨htree, hresult⟩ := writeFile_of_written hread hencodable hstatus
    have hwrote := FileTree.write_open h (FileTree.open_of_readText? h hsteady hread)
      (finalText style s file existing).text.toUTF8
    rw [htree, hresult]
    refine ⟨hwrote.rooted, hwrote.grows, fun fault hfault => ?_⟩
    cases houtcome : (t.write (s.target file) (finalText style s file existing).text.toUTF8).2 with
    | error fault => exact hwrote.failed fault houtcome
    | ok _ =>
      rw [houtcome] at hfault
      cases hfault

/-- Bytes are written into a tree that grew elsewhere as into the tree before. -/
theorem write_keeps (h : Rooted t) (h' : Rooted t') {p : Path} (hopen : Open t p) (hopen' : Open t' p)
    (hkeeps : Keeps t t' (t.place p)) (bytes : ByteArray) (record : FileRecord) :
    Agree p (((t'.write p bytes).2.mapError .file).map fun _ => record)
        (((t.write p bytes).2.mapError .file).map fun _ => record) ∧
      FileTree.entry? (t'.write p bytes).1 (t.place p) = FileTree.entry? (t.write p bytes).1 (t.place p) := by
  have hwrote := FileTree.write_open h hopen bytes
  have hwrote' := FileTree.write_open h' hopen' bytes
  rw [← FileTree.place_of_home hkeeps.home p] at hkeeps ⊢
  by_cases hnames : Nameable p
  · cases hcramped : FileTree.isCramped p with
    | true =>
      have hfailed := hwrote.cramped hnames hcramped
      have hfailed' := hwrote'.cramped hnames hcramped
      rw [hfailed, hfailed']
      refine ⟨.inl rfl, ?_⟩
      rw [hwrote'.failed _ hfailed', hkeeps.own, FileTree.place_of_home hkeeps.home, hwrote.failed _ hfailed]
    | false =>
      have hdone := hwrote.fits hnames hcramped
      have hdone' := hwrote'.fits hnames hcramped
      rw [hdone, hdone']
      refine ⟨.inl rfl, ?_⟩
      rw [hwrote'.done hdone', FileTree.place_of_home hkeeps.home, hwrote.done hdone]
  · obtain ⟨fault, hfault, hcause⟩ := hwrote.unnamed hnames
    obtain ⟨fault', hfault', hcause'⟩ := hwrote'.unnamed hnames
    rw [hfault, hfault']
    refine ⟨.inr ⟨hnames, ⟨fault', rfl, hcause'⟩, .inl ⟨fault, rfl, hcause⟩⟩, ?_⟩
    rw [hwrote'.failed _ hfault', hkeeps.own, FileTree.place_of_home hkeeps.home, hwrote.failed _ hfault]

/-- **A file is written into a tree that grew elsewhere as into the tree before.** What comes to its place is
the same, and so is the result, but for two failures that the directories on the way decide about: which name is
found too long, and whether that is found before a text that cannot be encoded. -/
theorem writeFile_keeps (style : StylePass) (hdry : s.dryRun = false) (h : Rooted t) (h' : Rooted t')
    (hsteady : Steady t (s.target file)) (hkeeps : Keeps t t' (t.place (s.target file))) :
    Agree (s.target file) (writeFile style s t' file).2.result (writeFile style s t file).2.result ∧
      FileTree.entry? (writeFile style s t' file).1 (t.place (s.target file)) =
        FileTree.entry? (writeFile style s t file).1 (t.place (s.target file)) := by
  rcases FileTree.readText?_keeps h hkeeps hsteady with hsame | ⟨hnone, hlong, hnames⟩
  · cases treatment style s t file with
    | unread fault hread =>
      rw [writeFile_of_error hread, writeFile_of_error (hsame.trans hread)]
      exact ⟨.inl rfl, hkeeps.own⟩
    | unencodable existing hread fault hencode =>
      obtain ⟨htree, hresult⟩ := writeFile_of_unencodable hread hencode
      obtain ⟨htree', hresult'⟩ := writeFile_of_unencodable (hsame.trans hread) hencode
      rw [htree, hresult, htree', hresult']
      exact ⟨.inl rfl, hkeeps.own⟩
    | kept existing hread hencodable hstatus =>
      obtain ⟨htree, hresult⟩ := writeFile_of_kept hread hencodable hstatus
      obtain ⟨htree', hresult'⟩ := writeFile_of_kept (hsame.trans hread) hencodable hstatus
      rw [htree, hresult, htree', hresult']
      exact ⟨.inl rfl, hkeeps.own⟩
    | written existing hread hencodable hstatus =>
      have hread' := hsame.trans hread
      obtain ⟨htree, hresult⟩ := writeFile_of_written hread hencodable hstatus
      obtain ⟨htree', hresult'⟩ := writeFile_of_written hread' hencodable hstatus
      rw [htree, hresult, htree', hresult']
      exact write_keeps h h' (FileTree.open_of_readText? h hsteady hread)
        (FileTree.open_of_readText? h' (hsteady.keeps hkeeps) hread') hkeeps _ _
  · -- alone the file is missing, and it fails at its text or in writing, at the name that is too long
    have hstatus : s.status (finalText style s file none).text none = .written := by
      rw [status_eq hdry, if_neg nofun]
    have htooLong : TooLong (.error (.file ⟨.nameTooLong, s.target file, .path⟩)) := ⟨_, rfl, rfl⟩
    rw [writeFile_of_error hlong]
    cases hencode : file.standIns.encode (finalText style s file none).text with
    | error lone =>
      obtain ⟨htree, hresult⟩ := writeFile_of_unencodable hnone hencode
      rw [htree, hresult]
      exact ⟨.inr ⟨hnames, htooLong, .inr ⟨_, lone, rfl, rfl⟩⟩, hkeeps.own⟩
    | ok bytes =>
      have hencodable := (StandIns.encode_eq_ok_iff.mp hencode).1
      obtain ⟨htree, hresult⟩ := writeFile_of_written hnone hencodable hstatus
      have hwrote := FileTree.write_open h (FileTree.open_of_readText? h hsteady hnone)
        (finalText style s file none).text.toUTF8
      obtain ⟨fault, hfault, hcause⟩ := hwrote.unnamed hnames
      rw [htree, hresult, hfault, hwrote.failed fault hfault]
      exact ⟨.inr ⟨hnames, htooLong, .inl ⟨fault, rfl, hcause⟩⟩, hkeeps.own⟩

/-! ## Files in turn -/

theorem Agree.eq_of_nameable {p : Path} {x y : Except ReadFault FileRecord} (h : Agree p x y) (hp : Nameable p) :
    x = y := h.resolve_right fun hlong => hlong.1 hp

/-- A refusal is no matter of names, so it is there alone as well. -/
theorem Agree.eq_of_refused {p : Path} {fault : FileFault} {y : Except ReadFault FileRecord}
    (h : Agree p (.error (.file fault)) y) (hforeign : fault.cause.isSystem = false) : y = .error (.file fault) := by
  rcases h with rfl | ⟨_, ⟨_, hlong, hcause⟩, _⟩
  · rfl
  · cases hlong
    rw [hcause] at hforeign
    cases hforeign

section

variable {fault : FileFault} (hdry : s.dryRun = false) (h : Rooted t) (h' : Rooted t')
  (hsteady : Steady t (s.target file)) (hkeeps : Keeps t t' (t.place (s.target file)))

include hdry h h' hsteady hkeeps

/-- A file that is refused in a tree that grew is refused alone. -/
theorem Refuses.alone (hrefuses : Refuses style s t' file fault) : Refuses style s t file fault := by
  obtain ⟨hresult, hforeign⟩ := refusal?_eq_some_iff.mp (refusal?_writeFile_iff.mpr hrefuses)
  obtain ⟨hagree, _⟩ := writeFile_keeps style hdry h h' hsteady hkeeps
  rw [hresult] at hagree
  exact refusal?_writeFile_iff.mp (refusal?_eq_some_iff.mpr ⟨hagree.eq_of_refused hforeign, hforeign⟩)

/-- A file that is refused alone is refused in a tree that grew, if its path can be named there. -/
theorem Refuses.grown (hrefuses : Refuses style s t file fault) (hnames : Nameable (s.target file)) :
    Refuses style s t' file fault := by
  obtain ⟨hresult, hforeign⟩ := refusal?_eq_some_iff.mp (refusal?_writeFile_iff.mpr hrefuses)
  obtain ⟨hagree, _⟩ := writeFile_keeps style hdry h h' hsteady hkeeps
  rw [← hagree.eq_of_nameable hnames] at hresult
  exact refusal?_writeFile_iff.mp (refusal?_eq_some_iff.mpr ⟨hresult, hforeign⟩)

end

theorem Agree.toOption {p : Path} {x y : Except ReadFault FileRecord} (h : Agree p x y) :
    x.toOption = y.toOption := by
  rcases h with rfl | ⟨_, ⟨_, rfl, _⟩, ⟨_, rfl, _⟩ | ⟨_, _, rfl, _⟩⟩
  all_goals rfl

/-- Whether a file is among those that the style pass could not lay out. -/
def degrades (s : WriteSettings) (x : Except ReadFault FileRecord) : Bool :=
  s.format && x.toOption.any fun record => !record.formatted

theorem Agree.degrades {p : Path} {x y : Except ReadFault FileRecord} (h : Agree p x y) :
    degrades s x = degrades s y := by
  unfold Output.degrades
  rw [h.toOption]

/-- An error in a report, for a file that leads to a result if it is written alone. -/
def Blames (s : WriteSettings) (file : GeneratedFile) (alone : Except ReadFault FileRecord)
    (entry : String × String) : Prop :=
  entry.1 = file.path ∧ ∃ fault, Agree (s.target file) (.error fault) alone ∧ entry.2 = faultMessage fault

/-- The errors in a report that a result leads to. -/
def errorsOf (file : GeneratedFile) : Except ReadFault FileRecord → List (String × String)
  | .ok _ => []
  | .error fault => [(file.path, faultMessage fault)]

theorem eq_path_of_mem_errorsOf {x : Except ReadFault FileRecord} {path : String}
    (h : path ∈ (errorsOf file x).map (·.1)) : path = file.path := by
  cases x with
  | ok _ => cases h
  | error _ => exact List.mem_singleton.mp h

/-- A report gets a record or an error from each file. -/
theorem add_eq (s : WriteSettings) (outcome : FileOutcome) {r : WriteReport}
    (hnew : file.path ∉ r.errors.map (·.1)) :
    (r.add s file outcome).records = r.records ++ outcome.result.toOption.toList ∧
      (r.add s file outcome).degraded =
        r.degraded ++ (if degrades s outcome.result then [file.path] else []) ∧
      (r.add s file outcome).errors = r.errors ++ errorsOf file outcome.result := by
  unfold WriteReport.add degrades
  dsimp only
  cases outcome.result with
  | ok record => exact ⟨rfl, rfl, (List.append_nil _).symm⟩
  | error fault =>
    refine ⟨(List.append_nil _).symm, ?_, setEntry_eq_append _ hnew⟩
    rw [show (Except.error fault : Except ReadFault FileRecord).toOption = none from rfl, Option.any_none,
      Bool.and_false, if_neg Bool.false_ne_true, List.append_nil]

/-- **A file that does not end the writing.** Whether a text can be encoded comes up only if its path can be named. -/
structure Accepted (style : StylePass) (s : WriteSettings) (t : FileTree) (file : GeneratedFile) : Prop where
  noNull : (s.target file).hasNull = false
  unrefused : Nameable (s.target file) → ∀ fault, ¬ Refuses style s t file fault

/-- **A run that treats every file as if it were alone.** None of them ends it; a record or an error is there for each
of them, in the order of the files, and the contents are those that the files get when they are written alone. -/
structure Isolated (style : StylePass) (s : WriteSettings) (t : FileTree) (files : List GeneratedFile)
    (left : FileTree) (r : WriteReport) : Prop where
  accepted : ∀ f ∈ files, Accepted style s t f
  records : r.records = files.filterMap fun f => (writeFile style s t f).2.result.toOption
  degraded : r.degraded = (files.filter fun f => degrades s (writeFile style s t f).2.result).map (·.path)
  errors : List.Forall₂ (fun f entry => Blames s f (writeFile style s t f).2.result entry)
    (files.filter fun f => (writeFile style s t f).2.result.toOption.isNone) r.errors
  contents : ∀ f ∈ files, left.entry? (t.place (s.target f)) =
    FileTree.entry? (writeFile style s t f).1 (t.place (s.target f))
  failed : ∀ f ∈ files, (writeFile style s t f).2.result.toOption.isNone = true →
    left.entry? (t.place (s.target f)) = t.entry? (t.place (s.target f))
  grows : Grows t left (files.map fun f => t.place (s.target f))

/-- The errors tell of the files that fail, in their order. -/
theorem Isolated.failedPaths {files : List GeneratedFile} {r : WriteReport}
    (h : Isolated style s t files t' r) : r.errors.map (·.1) =
      (files.filter fun f => (writeFile style s t f).2.result.toOption.isNone).map (·.path) := by
  have hpaths : List.Forall₂ (· = ·) (r.errors.map (·.1))
      ((files.filter fun f => (writeFile style s t f).2.result.toOption.isNone).map (·.path)) :=
    List.forall₂_map_left_iff.mpr (List.forall₂_map_right_iff.mpr (h.errors.flip.imp fun _ _ hfile => hfile.1))
  rw [List.forall₂_eq_eq_eq] at hpaths
  exact hpaths

/-- **Files that can be written one after the other** without getting in each other's way: each leads to its place
from the start, and their places are apart, also from those that were written to before. -/
structure Separate (s : WriteSettings) (t : FileTree) (done : List (List String)) (files : List GeneratedFile) :
    Prop where
  steady : ∀ f ∈ files, Steady t (s.target f)
  apart : files.Pairwise fun f g => Apart (t.place (s.target f)) (t.place (s.target g))
  beside : ∀ f ∈ files, ∀ place ∈ done, Apart place (t.place (s.target f))

theorem Separate.cons {done : List (List String)} {rest : List GeneratedFile}
    (h : Separate s t done (file :: rest)) :
    Steady t (s.target file) ∧ (∀ place ∈ done, Apart place (t.place (s.target file))) ∧
      (∀ f ∈ rest, Apart (t.place (s.target file)) (t.place (s.target f))) ∧
      Separate s t (done ++ [t.place (s.target file)]) rest := by
  obtain ⟨hfileSteady, hrestSteady⟩ := List.forall_mem_cons.mp h.steady
  obtain ⟨hfileApart, hrestApart⟩ := List.pairwise_cons.mp h.apart
  obtain ⟨hfileBeside, hrestBeside⟩ := List.forall_mem_cons.mp h.beside
  refine ⟨hfileSteady, hfileBeside, hfileApart, hrestSteady, hrestApart, fun f hf place hplace => ?_⟩
  rcases List.mem_append.mp hplace with hold | hlast
  · exact hrestBeside f hf place hold
  · exact List.mem_singleton.mp hlast ▸ hfileApart f hf

/-- Files whose places are apart have different paths. -/
theorem path_ne_of_apart {f : GeneratedFile} (h : Apart (t.place (s.target file)) (t.place (s.target f))) :
    f.path ≠ file.path := by
  intro hpath
  have htarget : s.target f = s.target file := by
    unfold WriteSettings.target
    rw [hpath]
  exact h.1 (htarget ▸ List.prefix_refl _)

/-- A run that does not end early, step by step: it goes on in a tree that grew at the places that are done. -/
theorem writeFrom_isolated (hdry : s.dryRun = false) (h : Rooted t) {files : List GeneratedFile}
    {done : List (List String)} (hseparate : Separate s t done files) (h' : Rooted t') (hgrows : Grows t t' done)
    {r r' : WriteReport} (hnew : ∀ f ∈ files, f.path ∉ r.errors.map (·.1)) {left : FileTree}
    (hrun : writeFrom style s r t' files = (left, .ok r')) :
    ∃ errors, Rooted left ∧ Grows t' left (files.map fun f => t.place (s.target f)) ∧
      (∀ f ∈ files, Accepted style s t f) ∧
      (∀ f ∈ files, left.entry? (t.place (s.target f)) =
        FileTree.entry? (writeFile style s t f).1 (t.place (s.target f))) ∧
      r'.records = r.records ++ files.filterMap (fun f => (writeFile style s t f).2.result.toOption) ∧
      r'.degraded = r.degraded ++
        (files.filter fun f => degrades s (writeFile style s t f).2.result).map (·.path) ∧
      r'.errors = r.errors ++ errors ∧
      List.Forall₂ (fun f entry => Blames s f (writeFile style s t f).2.result entry)
        (files.filter fun f => (writeFile style s t f).2.result.toOption.isNone) errors := by
  induction files generalizing t' r done with
  | nil =>
    cases hrun
    refine ⟨[], h', .refl _ _, List.forall_mem_nil _, List.forall_mem_nil _, ?_, ?_, ?_, .nil⟩
    all_goals exact (List.append_nil _).symm
  | cons file rest ih =>
    obtain ⟨hsteady, hbeside, hapart, hrest⟩ := hseparate.cons
    obtain ⟨hfileNull, _⟩ := List.forall_mem_cons.mp (hasNull_of_writeFrom hrun)
    obtain ⟨hfileNew, hrestNew⟩ := List.forall_mem_cons.mp hnew
    obtain ⟨hnone, hrun⟩ := writeFrom_cons_eq_ok hrun
    have hkeeps := hgrows.keeps hbeside
    obtain ⟨hagree, hcontent⟩ := writeFile_keeps style hdry h h' hsteady hkeeps
    obtain ⟨hrooted, hnext, _⟩ := writeFile_grows style h' (hsteady.keeps hkeeps)
    rw [FileTree.place_of_home hgrows.home] at hnext
    obtain ⟨hrecords, hdegraded, herrors⟩ := add_eq s (writeFile style s t' file).2 hfileNew
    have hnew' : ∀ f ∈ rest,
        f.path ∉ ((r.add s file (writeFile style s t' file).2).errors).map (·.1) := by
      intro f hf hmem
      rw [herrors, List.map_append, List.mem_append] at hmem
      rcases hmem with hold | hfile
      · exact hrestNew f hf hold
      · exact path_ne_of_apart (hapart f hf) (eq_path_of_mem_errorsOf hfile)
    have haccepted : Accepted style s t file := by
      refine ⟨hfileNull, fun hnames fault hrefuses => ?_⟩
      rw [refusal?_writeFile_iff.mpr (hrefuses.grown hdry h h' hsteady hkeeps hnames)] at hnone
      cases hnone
    obtain ⟨errors, hleft, hgrowsRest, hacceptedRest, hcontents, hrecords', hdegraded', herrors', hblames⟩ :=
      ih hrest hrooted (hgrows.append hnext) hnew' hrun
    refine ⟨errorsOf file (writeFile style s t' file).2.result ++ errors, hleft, hnext.append hgrowsRest,
      List.forall_mem_cons.mpr ⟨haccepted, hacceptedRest⟩, ?_, ?_, ?_, ?_, ?_⟩
    · refine List.forall_mem_cons.mpr ⟨?_, hcontents⟩
      have hlater : ∀ place ∈ rest.map fun f => t.place (s.target f),
          Apart place (t.place (s.target file)) :=
        List.forall_mem_map.mpr fun f hf => (hapart f hf).symm
      rw [(hgrowsRest.keeps hlater).own, hcontent]
    · rw [hrecords', hrecords, hagree.toOption, List.append_assoc, List.filterMap_cons]
      cases (writeFile style s t file).2.result.toOption with
      | none => rfl
      | some _ => rfl
    · rw [hdegraded', hdegraded, hagree.degrades, List.append_assoc, List.filter_cons]
      cases degrades s (writeFile style s t file).2.result with
      | false => rfl
      | true => rfl
    · rw [herrors', herrors, List.append_assoc]
    · rw [List.filter_cons, ← hagree.toOption]
      cases hresult : (writeFile style s t' file).2.result with
      | ok _ => exact hblames
      | error fault => exact .cons ⟨rfl, fault, hresult ▸ hagree, rfl⟩ hblames

theorem isolated_of_writeAll (hdry : s.dryRun = false) (h : Rooted t) {files : List GeneratedFile}
    (hseparate : Separate s t [] files) {left : FileTree} {r : WriteReport}
    (hrun : writeAll style s t files = (left, .ok r)) : Rooted left ∧ Isolated style s t files left r := by
  obtain ⟨errors, hleft, hgrows, haccepted, hcontents, hrecords, hdegraded, herrors, hblames⟩ :=
    writeFrom_isolated hdry h hseparate h (.refl t []) (fun _ _ => List.not_mem_nil) hrun
  obtain rfl := herrors
  refine ⟨hleft, haccepted, hrecords, hdegraded, hblames, hcontents, fun f hf hfails => ?_, hgrows⟩
  rw [hcontents f hf]
  cases hresult : (writeFile style s t f).2.result with
  | ok _ =>
    rw [hresult] at hfails
    cases hfails
  | error fault => exact (writeFile_grows style h (hseparate.steady f hf)).2.2 fault hresult

/-- **Files are isolated from each other.** Where no two files are in one place and none is above another, each is
recorded, or fails, and gets its content as if it were written alone, and nothing else changes but that
directories above the files are made. A file that is refused alone, because of a null character in its path or of
lone surrogates in its final text, ends the run: the files before it are isolated from each other, and it and those
behind it are not tried. It is left open which of the two happens only for a text with lone surrogates at a path
with a name that is too long, since it depends on the directories that are there which of them is noticed. -/
theorem writeAll_isolated (style : StylePass) (hdry : s.dryRun = false) (h : Rooted t)
    {files : List GeneratedFile} (hsteady : ∀ f ∈ files, Steady t (s.target f))
    (hapart : files.Pairwise fun f g => Apart (t.place (s.target f)) (t.place (s.target g))) :
    (∃ left r, writeAll style s t files = (left, .ok r) ∧ Isolated style s t files left r) ∨
    ∃ before f after left r fault, files = before ++ f :: after ∧
      writeAll style s t before = (left, .ok r) ∧ Isolated style s t before left r ∧
      Refuses style s t f fault ∧ writeAll style s t files = (left, .error fault) := by
  cases hrun : writeAll style s t files with
  | mk left outcome =>
    cases outcome with
    | ok r =>
      have hseparate : Separate s t [] files := ⟨hsteady, hapart, fun _ _ => List.forall_mem_nil _⟩
      exact .inl ⟨left, r, rfl, (isolated_of_writeAll hdry h hseparate hrun).2⟩
    | error fault =>
      obtain ⟨before, f, after, r, rfl, hbefore, hrefuses⟩ := writeFrom_eq_error hrun
      obtain ⟨hbeforeSteady, hrestSteady⟩ := List.forall_mem_append.mp hsteady
      obtain ⟨hbeforeApart, _, hapart⟩ := List.pairwise_append.mp hapart
      have hseparate : Separate s t [] before := ⟨hbeforeSteady, hbeforeApart, fun _ _ => List.forall_mem_nil _⟩
      obtain ⟨hleft, hisolated⟩ := isolated_of_writeAll hdry h hseparate hbefore
      have hbeside : ∀ place ∈ before.map fun g => t.place (s.target g), Apart place (t.place (s.target f)) :=
        List.forall_mem_map.mpr fun g hg => hapart g hg f List.mem_cons_self
      have halone := hrefuses.alone hdry h hleft (hrestSteady f List.mem_cons_self) (hisolated.grows.keeps hbeside)
      exact .inr ⟨before, f, after, left, r, fault, rfl, hbefore, hisolated, halone, rfl⟩

/-- A tree in which a directory stands where a file is to go, and a file where a directory is to go. -/
def crowded : FileTree where
  entries := [(["out"], .directory), (["out", "b.py"], .directory), (["out", "notes"], .file "old".toUTF8)]

/-- Two files are written there although those between them cannot be. -/
theorem writeAll_isolated_crowded :
    let s : WriteSettings := { directory := .ofString "/out" }
    let files : List GeneratedFile := ["a.py", "b.py", "notes/c.py", "x/y/d.py"].map fun path =>
      { path, content := "one = 1\n" }
    s.dryRun = false ∧ Rooted crowded ∧ (∀ f ∈ files, Steady crowded (s.target f)) ∧
      files.Pairwise (fun f g => Apart (crowded.place (s.target f)) (crowded.place (s.target g))) ∧
      ∃ left r, writeAll (fun _ text => .ok text) s crowded files = (left, .ok r) ∧
        r.records.map (·.relative) = ["a.py", "x/y/d.py"] ∧ r.errors.map (·.1) = ["b.py", "notes/c.py"] ∧
        left.entry? ["out", "notes"] = some (.file "old".toUTF8) := by
  intro s files
  have hrooted : Rooted crowded := by decide +kernel
  have hsteady : ∀ f ∈ files, Steady crowded (s.target f) := by decide +kernel
  have hapart : files.Pairwise
      (fun f g => Apart (crowded.place (s.target f)) (crowded.place (s.target g))) := by decide +kernel
  have hnull : ∀ f ∈ files, (s.target f).hasNull = false := by decide +kernel
  have hstandIns : ∀ f ∈ files, f.standIns = [] := by decide
  refine ⟨rfl, hrooted, hsteady, hapart, ?_⟩
  rcases writeAll_isolated (fun _ text => .ok text) rfl hrooted hsteady hapart with
    ⟨left, r, hrun, hisolated⟩ | ⟨_, f, _, _, _, _, hfiles, _, _, hrefuses, _⟩
  · refine ⟨left, r, hrun, ?_, ?_, ?_⟩
    · rw [hisolated.records]
      decide +kernel
    · rw [hisolated.failedPaths]
      decide +kernel
    · rcases hisolated.grows.elsewhere ["out", "notes"] (by decide +kernel) with hsame | ⟨hnone, _⟩
      · rw [hsame]
        decide +kernel
      · exact absurd hnone (by decide +kernel)
  · have hf : f ∈ files := hfiles ▸ List.mem_append_right _ List.mem_cons_self
    cases hrefuses with
    | path hrefused =>
      rw [hnull f hf] at hrefused
      cases hrefused
    | text existing _ lone hencode =>
      rw [hstandIns f hf] at hencode
      exact absurd hencode (StandIns.encodable_nil _).encode_ne_error

end SchemaScribe.Output
