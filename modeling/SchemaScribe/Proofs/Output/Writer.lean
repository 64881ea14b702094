import SchemaScribe.Output.Writer
import SchemaScribe.Proofs.Files.Tree
import SchemaScribe.Proofs.Output.Region

/-!
# Writing a package and writing it again

The final text of a file is what it is without an existing text, merged with the existing one
(`finalText_text`). Writing a file touches its own place alone (`writeFile_touches`), so what one file of a run
left is still there when the run ends, if the files have places of their own.

Two runs are followed through. Where no file is at the places, a run without an error stores every file as it
is without an existing text (`writeFrom_fresh`). Where every file is stored, a run has no error, and it leaves
the tree alone if no final text differs from what is read (`writeFrom_stored`).

A run that ends early ended at a file that is refused (`writeFrom_eq_error`), and a file is refused for a null
character in its path or for lone surrogates in its final text (`refusal?_writeFile_iff`).
-/

namespace SchemaScribe.Output

open SchemaScribe.Document SchemaScribe.Files SchemaScribe.Text
open SchemaScribe.Render (GeneratedFile)

variable {style : StylePass} {s : WriteSettings} {t t' : FileTree} {file : GeneratedFile}

/-! ## Final texts -/

/-- The text of a file before merging. -/
def plainText (style : StylePass) (s : WriteSettings) (file : GeneratedFile) : String :=
  (finalText style s file none).text

theorem finalText_text (style : StylePass) (s : WriteSettings) (file : GeneratedFile)
    (existing : Option String) :
    (finalText style s file existing).text = mergeRegions (plainText style s file) existing := by
  unfold plainText finalText
  dsimp only
  rw [mergeRegions_none]

/-- A file stays in its canonical form unless the style pass gives it another one. -/
theorem plainText_eq (style : StylePass) (s : WriteSettings) (file : GeneratedFile) :
    plainText style s file = canonical file.content ∨
      styled style s file = .ok (plainText style s file) := by
  unfold plainText finalText
  dsimp only
  rw [mergeRegions_none]
  split
  · cases hstyled : styled style s file with
    | error _ => exact .inl rfl
    | ok text => exact .inr rfl
  · exact .inl rfl

/-- What canonical forms and the style pass keep of a text holds of a file before merging. -/
theorem plainText_induction {P : String → Prop} (hcanonical : ∀ text, P text → P (canonical text))
    (hstyle : ∀ (n : Nat) (text out : String), style n text = .ok out → P text → P out)
    (s : WriteSettings) (h : P file.content) : P (plainText style s file) := by
  have hplain := hcanonical file.content h
  rcases plainText_eq style s file with heq | hstyled
  · rw [heq]
    exact hplain
  · exact hstyle _ _ _ hstyled (hcanonical _ hplain)

/-! ## Writing one file -/

theorem status_eq (hdry : s.dryRun = false) (text : String) (existing : Option String) :
    s.status text existing = if existing = some text then .unchanged else .written := by
  unfold WriteSettings.status
  rw [hdry, if_neg Bool.false_ne_true]

theorem writeFile_of_error {fault : ReadFault} (h : t.readText? (s.target file) = .error fault) :
    writeFile style s t file = (t, { result := .error fault }) := by
  unfold writeFile
  rw [h]

theorem writeFile_of_unencodable {existing : Option String} (h : t.readText? (s.target file) = .ok existing)
    {fault : EncodeFault} (hencode : file.standIns.encode (finalText style s file existing).text = .error fault) :
    (writeFile style s t file).1 = t ∧
      (writeFile style s t file).2.result = .error (.file ⟨.unencodable fault, s.target file, .path⟩) := by
  unfold writeFile
  rw [h]
  dsimp only
  rw [hencode]
  exact ⟨rfl, rfl⟩

theorem writeFile_of_kept {existing : Option String} (h : t.readText? (s.target file) = .ok existing)
    (hencodable : file.standIns.Encodable (finalText style s file existing).text)
    (hstatus : s.status (finalText style s file existing).text existing ≠ .written) :
    (writeFile style s t file).1 = t ∧
      (writeFile style s t file).2.result = .ok (fileRecord s file (finalText style s file existing)
        (s.status (finalText style s file existing).text existing)) := by
  unfold writeFile
  rw [h]
  dsimp only
  rw [hencodable.encode]
  dsimp only
  rw [if_neg hstatus]
  exact ⟨rfl, rfl⟩

theorem writeFile_of_written {existing : Option String} (h : t.readText? (s.target file) = .ok existing)
    (hencodable : file.standIns.Encodable (finalText style s file existing).text)
    (hstatus : s.status (finalText style s file existing).text existing = .written) :
    let wrote := t.write (s.target file) (finalText style s file existing).text.toUTF8
    (writeFile style s t file).1 = wrote.1 ∧
      (writeFile style s t file).2.result = (wrote.2.mapError .file).map fun _ =>
        fileRecord s file (finalText style s file existing) .written := by
  unfold writeFile
  rw [h]
  dsimp only
  rw [hencodable.encode]
  dsimp only
  rw [if_pos hstatus]
  split
  · next written hwrite =>
    rw [hwrite, hstatus]
    exact ⟨rfl, rfl⟩
  · next left fault hwrite =>
    rw [hwrite]
    exact ⟨rfl, rfl⟩

/-- **What writing does with a file**: it cannot be read, it cannot be encoded, it is left as it is, or it is
written. -/
inductive Treatment (style : StylePass) (s : WriteSettings) (t : FileTree) (file : GeneratedFile) : Prop where
  | unread (fault : ReadFault) (hread : t.readText? (s.target file) = .error fault)
  | unencodable (existing : Option String) (hread : t.readText? (s.target file) = .ok existing)
    (fault : EncodeFault) (hencode : file.standIns.encode (finalText style s file existing).text = .error fault)
  | kept (existing : Option String) (hread : t.readText? (s.target file) = .ok existing)
    (hencodable : file.standIns.Encodable (finalText style s file existing).text)
    (hstatus : s.status (finalText style s file existing).text existing ≠ .written)
  | written (existing : Option String) (hread : t.readText? (s.target file) = .ok existing)
    (hencodable : file.standIns.Encodable (finalText style s file existing).text)
    (hstatus : s.status (finalText style s file existing).text existing = .written)

theorem treatment (style : StylePass) (s : WriteSettings) (t : FileTree) (file : GeneratedFile) :
    Treatment style s t file := by
  cases hread : t.readText? (s.target file) with
  | error fault => exact .unread fault hread
  | ok existing =>
    cases hencode : file.standIns.encode (finalText style s file existing).text with
    | error fault => exact .unencodable existing hread fault hencode
    | ok bytes =>
      have hencodable := (StandIns.encode_eq_ok_iff.mp hencode).1
      by_cases hstatus : s.status (finalText style s file existing).text existing = .written
      · exact .written existing hread hencodable hstatus
      · exact .kept existing hread hencodable hstatus

theorem writeFile_touches (style : StylePass) (s : WriteSettings) (t : FileTree) (file : GeneratedFile) :
    FileTree.Touches t (writeFile style s t file).1 (t.place (s.target file)) := by
  cases treatment style s t file with
  | unread fault hread =>
    rw [writeFile_of_error hread]
    exact .refl t _
  | unencodable existing hread fault hencode =>
    rw [(writeFile_of_unencodable hread hencode).1]
    exact .refl t _
  | kept existing hread hencodable hstatus =>
    rw [(writeFile_of_kept hread hencodable hstatus).1]
    exact .refl t _
  | written existing hread hencodable hstatus =>
    rw [(writeFile_of_written hread hencodable hstatus).1]
    exact (t.write_spec (s.target file) _).1

/-- **What a record comes from**: the final text can be encoded, and it is what was read and the tree is left alone,
or it differs from that and was written. -/
theorem writeFile_outcome {record : FileRecord} (hdry : s.dryRun = false)
    (h : (writeFile style s t file).2.result = .ok record) :
    ∃ existing, t.readText? (s.target file) = .ok existing ∧
      file.standIns.Encodable (finalText style s file existing).text ∧
      (existing = some (finalText style s file existing).text ∧ (writeFile style s t file).1 = t ∧
          record = fileRecord s file (finalText style s file existing) .unchanged ∨
        existing ≠ some (finalText style s file existing).text ∧
          FileTree.Stored (writeFile style s t file).1 (s.target file)
            (finalText style s file existing).text.toUTF8 ∧
          record = fileRecord s file (finalText style s file existing) .written) := by
  cases treatment style s t file with
  | unread fault hread =>
    rw [writeFile_of_error hread] at h
    cases h
  | unencodable existing hread fault hencode =>
    rw [(writeFile_of_unencodable hread hencode).2] at h
    cases h
  | kept existing hread hencodable hstatus =>
    obtain ⟨htree, hresult⟩ := writeFile_of_kept hread hencodable hstatus
    rw [hresult] at h
    cases h
    rw [status_eq hdry] at hstatus ⊢
    have hsame : existing = some (finalText style s file existing).text := by
      by_contra hother
      exact hstatus (if_neg hother)
    exact ⟨existing, hread, hencodable, .inl ⟨hsame, htree, by rw [if_pos hsame]⟩⟩
  | written existing hread hencodable hstatus =>
    obtain ⟨htree, hresult⟩ := writeFile_of_written hread hencodable hstatus
    have hstored := (t.write_spec (s.target file) (finalText style s file existing).text.toUTF8).2
    have hother : existing ≠ some (finalText style s file existing).text := by
      intro hsame
      rw [status_eq hdry, if_pos hsame] at hstatus
      cases hstatus
    rw [hresult] at h
    cases hwrite : (t.write (s.target file) (finalText style s file existing).text.toUTF8).2 with
    | error fault =>
      rw [hwrite] at h
      cases h
    | ok _ =>
      rw [hwrite] at h
      cases h
      refine ⟨existing, hread, hencodable, .inr ⟨hother, ?_, rfl⟩⟩
      rw [htree]
      exact hstored hwrite

/-- **What a file has been written to**: its record tells of its final text, which can be encoded, and this text is
read. -/
theorem writeFile_eq_ok {record : FileRecord} (hdry : s.dryRun = false)
    (h : (writeFile style s t file).2.result = .ok record) :
    ∃ existing, t.readText? (s.target file) = .ok existing ∧
      file.standIns.Encodable (finalText style s file existing).text ∧
      record = fileRecord s file (finalText style s file existing)
        (s.status (finalText style s file existing).text existing) ∧
      (writeFile style s t file).1.readText? (s.target file) =
        .ok (some (FileTree.asRead (finalText style s file existing).text)) ∧
      (existing = none → FileTree.Stored (writeFile style s t file).1 (s.target file)
        (finalText style s file existing).text.toUTF8) := by
  obtain ⟨existing, hexisting, hencodable, ⟨hsame, htree, rfl⟩ | ⟨hother, hstored, rfl⟩⟩ :=
    writeFile_outcome hdry h
  · refine ⟨existing, hexisting, hencodable, ?_, ?_, fun hnone => ?_⟩
    · rw [status_eq hdry, if_pos hsame]
    · rw [hsame] at hexisting
      rw [htree, FileTree.asRead_of_not_mem (FileTree.return_notMem_of_readText? hexisting)]
      exact hexisting
    · cases hsame.symm.trans hnone
  · refine ⟨existing, hexisting, hencodable, ?_, hstored.readText?, fun _ => hstored⟩
    rw [status_eq hdry, if_neg hother]

/-- Writing a stored file succeeds if the final text can be encoded, and leaves the tree alone if the final text is
what is read. -/
theorem writeFile_stored (style : StylePass) {text : String}
    (h : FileTree.Stored t (s.target file) text.toUTF8)
    (hencodable : file.standIns.Encodable (finalText style s file (some (FileTree.asRead text))).text) :
    (writeFile style s t file).2.result = .ok (fileRecord s file
        (finalText style s file (some (FileTree.asRead text)))
        (s.status (finalText style s file (some (FileTree.asRead text))).text
          (some (FileTree.asRead text)))) ∧
      ((finalText style s file (some (FileTree.asRead text))).text = FileTree.asRead text →
        (writeFile style s t file).1 = t) := by
  by_cases hstatus : s.status (finalText style s file (some (FileTree.asRead text))).text
      (some (FileTree.asRead text)) = .written
  · obtain ⟨_, hresult⟩ := writeFile_of_written h.readText? hencodable hstatus
    have hwrite := h.write (finalText style s file (some (FileTree.asRead text))).text.toUTF8
    rw [hresult, hwrite, hstatus]
    refine ⟨rfl, fun hsame => ?_⟩
    unfold WriteSettings.status at hstatus
    rw [hsame, if_pos rfl] at hstatus
    split at hstatus
    · cases hstatus
    · cases hstatus
  · obtain ⟨htree, hresult⟩ := writeFile_of_kept h.readText? hencodable hstatus
    exact ⟨hresult, fun _ => htree⟩

/-! ## Writing files in turn -/

/-- Whatever outlasts the writing of each file outlasts all of it. -/
theorem writeFrom_induction {P : FileTree → Prop} {files : List GeneratedFile}
    (hstep : ∀ file ∈ files, ∀ t t', FileTree.Touches t t' (t.place (s.target file)) → P t → P t')
    (r : WriteReport) (ht : P t) : P (writeFrom style s r t files).1 := by
  induction files generalizing r t with
  | nil => exact ht
  | cons file rest ih =>
    obtain ⟨hfile, hrest⟩ := List.forall_mem_cons.mp hstep
    have hnext := hfile t _ (writeFile_touches style s t file) ht
    rw [writeFrom]
    dsimp only
    split
    · exact hnext
    · exact ih hrest _ hnext

theorem writeFrom_cons_eq_ok {r r' : WriteReport} {rest : List GeneratedFile}
    (h : writeFrom style s r t (file :: rest) = (t', .ok r')) :
    (writeFile style s t file).2.refusal? = none ∧
      writeFrom style s (r.add s file (writeFile style s t file).2) (writeFile style s t file).1 rest =
        (t', .ok r') := by
  rw [writeFrom] at h
  dsimp only at h
  split at h
  · cases h
  · next hnone => exact ⟨hnone, h⟩

theorem writeFrom_cons (r : WriteReport) (rest : List GeneratedFile)
    (h : (writeFile style s t file).2.refusal? = none) :
    writeFrom style s r t (file :: rest) =
      writeFrom style s (r.add s file (writeFile style s t file).2) (writeFile style s t file).1 rest := by
  rw [writeFrom]
  dsimp only
  rw [h]

/-- Files are written behind others as they are from the tree and the report that those lead to. -/
theorem writeFrom_append {r r' : WriteReport} {before : List GeneratedFile}
    (h : writeFrom style s r t before = (t', .ok r')) (rest : List GeneratedFile) :
    writeFrom style s r t (before ++ rest) = writeFrom style s r' t' rest := by
  induction before generalizing r t with
  | nil =>
    cases h
    rfl
  | cons file more ih =>
    obtain ⟨hnone, hmore⟩ := writeFrom_cons_eq_ok h
    rw [List.cons_append, writeFrom_cons r _ hnone]
    exact ih hmore

/-- **A record is that of a file**, which was written between the files before it and those after it. The tree
that it was written into is that which the files before it had left, and nothing is said of it here. -/
theorem exists_of_mem_records {r r' : WriteReport} {files : List GeneratedFile} {record : FileRecord}
    (h : writeFrom style s r t files = (t', .ok r')) (hrecord : record ∈ r'.records) :
    record ∈ r.records ∨ ∃ before file after r₁, files = before ++ file :: after ∧
      (writeFile style s (writeFrom style s r t before).1 file).2.result = .ok record ∧
      t' = (writeFrom style s r₁
        (writeFile style s (writeFrom style s r t before).1 file).1 after).1 := by
  induction files generalizing r t with
  | nil =>
    cases h
    exact .inl hrecord
  | cons file rest ih =>
    obtain ⟨hnone, hrest⟩ := writeFrom_cons_eq_ok h
    rcases ih hrest with hadded | ⟨before, file', after, r₁, rfl, hresult, hend⟩
    · unfold WriteReport.add at hadded
      dsimp only at hadded
      split at hadded
      · next record' hresult =>
        rcases List.mem_append.mp hadded with hold | hnew
        · exact .inl hold
        · refine .inr ⟨[], file, rest, r.add s file (writeFile style s t file).2, rfl, ?_, ?_⟩
          · rw [List.mem_singleton.mp hnew]
            exact hresult
          · exact (congrArg Prod.fst hrest).symm
      · exact .inl hadded
    · refine .inr ⟨file :: before, file', after, r₁, rfl, ?_⟩
      rw [writeFrom_cons r before hnone]
      exact ⟨hresult, hend⟩

/-- The place of a file, wherever the tree is entered. -/
def WriteSettings.place (s : WriteSettings) (file : GeneratedFile) : List String :=
  Path.follow [] (s.target file).parts

/-- **Files with places of their own** below a directory that is told from the root. -/
structure Placed (s : WriteSettings) (files : List GeneratedFile) : Prop where
  absolute : ∀ file ∈ files, (s.target file).absolute = true
  nodup : (files.map s.place).Nodup

theorem place_target (h : (s.target file).absolute = true) (t : FileTree) :
    t.place (s.target file) = s.place file := FileTree.place_of_absolute h t

/-- What outlasts the touch of any place but that of a path outlasts the writing of files that have other
places. -/
theorem writeFrom_elsewhere (style : StylePass) {P : FileTree → Prop} {p : Path}
    (hP : ∀ t t' at', FileTree.Touches t t' at' → t.place p ≠ at' → P t → P t')
    {files : List GeneratedFile} (habsolute : p.absolute = true)
    (hfiles : ∀ file ∈ files, (s.target file).absolute = true)
    (hplaces : ∀ file ∈ files, Path.follow [] p.parts ≠ s.place file) (r : WriteReport) (ht : P t) :
    P (writeFrom style s r t files).1 := by
  refine writeFrom_induction ?_ r ht
  intro file hfile t t' htouches
  refine hP t t' _ htouches ?_
  rw [FileTree.place_of_absolute habsolute, place_target (hfiles file hfile)]
  exact hplaces file hfile

theorem Placed.append_cons {before after : List GeneratedFile} (h : Placed s (before ++ file :: after)) :
    (∀ other ∈ before, s.place file ≠ s.place other) ∧
      ∀ other ∈ after, s.place file ≠ s.place other := by
  have hnodup := h.nodup
  rw [List.map_append, List.map_cons, List.nodup_append] at hnodup
  obtain ⟨_, hcons, hapart⟩ := hnodup
  refine ⟨fun other hother heq => ?_, fun other hother heq => ?_⟩
  · exact hapart _ (List.mem_map_of_mem hother) _ List.mem_cons_self heq.symm
  · exact (List.nodup_cons.mp hcons).1 (heq ▸ List.mem_map_of_mem hother)

/-- **What a run leaves of a file that it recorded**: its final text, which is merged with what was read of it
before the run, if anything was. -/
theorem writeFrom_record {files : List GeneratedFile} (hdry : s.dryRun = false) (hplaced : Placed s files)
    {r r' : WriteReport} (h : writeFrom style s r t files = (t', .ok r')) {record : FileRecord}
    (hrecord : record ∈ r'.records) (hnew : record ∉ r.records) :
    ∃ file ∈ files, record.relative = file.path ∧ ∃ existing : Option String,
      (∀ text ∈ existing, '\r' ∉ text.toList) ∧
      (∀ text, t.readText? (s.target file) = .ok (some text) → existing = some text) ∧
      t'.readText? (s.target file) =
        .ok (some (FileTree.asRead (mergeRegions (plainText style s file) existing))) := by
  rcases exists_of_mem_records h hrecord with hold | ⟨before, file, after, r₁, rfl, hresult, rfl⟩
  · exact absurd hold hnew
  · obtain ⟨hbefore, hafter⟩ := hplaced.append_cons
    obtain ⟨hfirst, hrest⟩ := List.forall_mem_append.mp hplaced.absolute
    obtain ⟨hfile, hlast⟩ := List.forall_mem_cons.mp hrest
    obtain ⟨existing, hexisting, _, rfl, hread, _⟩ := writeFile_eq_ok hdry hresult
    have hkeeps : ∀ {text : String} (t t' : FileTree) (at' : List String), FileTree.Touches t t' at' →
        t.place (s.target file) ≠ at' → t.readText? (s.target file) = .ok (some text) →
          t'.readText? (s.target file) = .ok (some text) :=
      fun _ _ _ htouches hplace => htouches.readText? hplace
    refine ⟨file, List.mem_append_right before List.mem_cons_self, rfl, existing, ?_, ?_, ?_⟩
    · rintro text rfl
      exact FileTree.return_notMem_of_readText? hexisting
    · intro text htext
      have hkept := writeFrom_elsewhere style hkeeps hfile hfirst hbefore r htext
      rw [hexisting] at hkept
      exact Except.ok.inj hkept
    · rw [← finalText_text]
      exact writeFrom_elsewhere style hkeeps hfile hlast hafter r₁ hread

/-! ## Writing into an empty place, and again -/

theorem add_of_ok (s : WriteSettings) (file : GeneratedFile) {outcome : FileOutcome} {record : FileRecord}
    (r : WriteReport) (h : outcome.result = .ok record) :
    (r.add s file outcome).records = r.records ++ [record] ∧
      (r.add s file outcome).errors = r.errors := by
  unfold WriteReport.add
  dsimp only
  rw [h]
  exact ⟨rfl, rfl⟩

theorem setEntry_ne_nil {α κ : Type} [DecidableEq κ] (key : κ) (value : α) (entries : List (κ × α)) :
    setEntry key value entries ≠ [] := by
  cases entries with
  | nil => exact List.cons_ne_nil _ _
  | cons entry rest =>
    rw [setEntry]
    split
    · exact List.cons_ne_nil _ _
    · exact List.cons_ne_nil _ _

/-- A report without errors was added nothing but records. -/
theorem of_add_errors_eq_nil {outcome : FileOutcome} {r : WriteReport}
    (h : (r.add s file outcome).errors = []) :
    r.errors = [] ∧ ∃ record, outcome.result = .ok record := by
  cases hresult : outcome.result with
  | ok record =>
    rw [(add_of_ok s file r hresult).2] at h
    exact ⟨h, record, rfl⟩
  | error fault =>
    unfold WriteReport.add at h
    dsimp only at h
    rw [hresult] at h
    exact absurd h (setEntry_ne_nil _ _ _)

theorem errors_eq_nil_of_writeFrom {r r' : WriteReport} {files : List GeneratedFile}
    (h : writeFrom style s r t files = (t', .ok r')) (hr : r'.errors = []) : r.errors = [] := by
  induction files generalizing r t with
  | nil =>
    cases h
    exact hr
  | cons file rest ih => exact (of_add_errors_eq_nil (ih (writeFrom_cons_eq_ok h).2)).1

theorem Placed.cons {rest : List GeneratedFile} (h : Placed s (file :: rest)) :
    (∀ other ∈ rest, s.place file ≠ s.place other) ∧ Placed s rest := by
  obtain ⟨hfile, hrest⟩ := List.nodup_cons.mp h.nodup
  refine ⟨fun other hother heq => ?_, (List.forall_mem_cons.mp h.absolute).2, hrest⟩
  exact hfile (heq ▸ List.mem_map_of_mem hother)

/-- The record of a file that was written where nothing was. -/
def freshRecord (style : StylePass) (s : WriteSettings) (file : GeneratedFile) : FileRecord :=
  fileRecord s file (finalText style s file none) .written

@[simp] theorem freshRecord_relative (style : StylePass) (s : WriteSettings) (file : GeneratedFile) :
    (freshRecord style s file).relative = file.path := rfl

/-- **A run into empty places** that has no errors writes every file, and each of them can be encoded and is
stored. -/
theorem writeFrom_fresh {files : List GeneratedFile} (hdry : s.dryRun = false) (hplaced : Placed s files)
    (hempty : ∀ file ∈ files, ∀ bytes, t.entry? (s.place file) ≠ some (.file bytes))
    {r r' : WriteReport} (h : writeFrom style s r t files = (t', .ok r')) (hr : r'.errors = []) :
    r'.records = r.records ++ files.map (freshRecord style s) ∧
      ∀ file ∈ files, file.standIns.Encodable (plainText style s file) ∧
        FileTree.Stored t' (s.target file) (plainText style s file).toUTF8 := by
  induction files generalizing r t with
  | nil =>
    cases h
    exact ⟨(List.append_nil _).symm, List.forall_mem_nil _⟩
  | cons file rest ih =>
    obtain ⟨_, hrest⟩ := writeFrom_cons_eq_ok h
    obtain ⟨hfileAbsolute, hrestAbsolute⟩ := List.forall_mem_cons.mp hplaced.absolute
    obtain ⟨hfileEmpty, hrestEmpty⟩ := List.forall_mem_cons.mp hempty
    obtain ⟨hapart, hplacedRest⟩ := hplaced.cons
    obtain ⟨_, record, hresult⟩ := of_add_errors_eq_nil (errors_eq_nil_of_writeFrom hrest hr)
    obtain ⟨existing, hexisting, hencodable, hrecord, _, hstored⟩ := writeFile_eq_ok hdry hresult
    -- nothing can have been read where no file is
    have hnone : existing = none := by
      cases existing with
      | none => rfl
      | some text =>
        obtain ⟨bytes, hread, _⟩ := FileTree.readText?_eq_some hexisting
        have hentry := (FileTree.read_eq_ok.mp hread).2
        rw [place_target hfileAbsolute] at hentry
        exact absurd hentry (hfileEmpty bytes)
    subst hnone
    have htouches := writeFile_touches style s t file
    rw [place_target hfileAbsolute] at htouches
    have hstillEmpty : ∀ other ∈ rest, ∀ bytes,
        FileTree.entry? (writeFile style s t file).1 (s.place other) ≠ some (.file bytes) := by
      intro other hother bytes hentry
      rcases htouches.files _ _ hentry with hsame | hentry
      · exact hapart other hother hsame.symm
      · exact hrestEmpty other hother bytes hentry
    obtain ⟨hrecords, hall⟩ := ih hplacedRest hstillEmpty hrest
    have hwritten : s.status (finalText style s file none).text none = .written := by
      rw [status_eq hdry, if_neg nofun]
    constructor
    · rw [hrecords, (add_of_ok s file r hresult).1, hrecord, hwritten, List.append_assoc]
      rfl
    · refine List.forall_mem_cons.mpr ⟨?_, hall⟩
      have hkeeps : ∀ (t t' : FileTree) (at' : List String), FileTree.Touches t t' at' →
          t.place (s.target file) ≠ at' →
            FileTree.Stored t (s.target file) (plainText style s file).toUTF8 →
              FileTree.Stored t' (s.target file) (plainText style s file).toUTF8 :=
        fun _ _ _ htouches hplace hfileStored => hfileStored.touches htouches hplace
      have hkept := writeFrom_elsewhere style hkeeps hfileAbsolute hrestAbsolute hapart
        (r.add s file (writeFile style s t file).2) (hstored rfl)
      rw [hrest] at hkept
      exact ⟨hencodable, hkept⟩

/-- The record of a file that was stored with a text. -/
def againRecord (style : StylePass) (s : WriteSettings) (text : String) (file : GeneratedFile) : FileRecord :=
  let existing := some (FileTree.asRead text)
  let final := finalText style s file existing
  fileRecord s file final (s.status final.text existing)

@[simp] theorem againRecord_relative (style : StylePass) (s : WriteSettings) (text : String)
    (file : GeneratedFile) :
    (againRecord style s text file).relative = file.path := rfl

/-- **A run over stored files** whose final texts can be encoded has no errors. It leaves the tree alone if the final
text of every file is what is read of it. -/
theorem writeFrom_stored (style : StylePass) {files : List GeneratedFile} (hplaced : Placed s files)
    {texts : GeneratedFile → String}
    (hencodable : ∀ file ∈ files,
      file.standIns.Encodable (finalText style s file (some (FileTree.asRead (texts file)))).text)
    (hstored : ∀ file ∈ files, FileTree.Stored t (s.target file) (texts file).toUTF8) (r : WriteReport) :
    ∃ t' r', writeFrom style s r t files = (t', .ok r') ∧ r'.errors = r.errors ∧
      r'.records = r.records ++ files.map (fun file => againRecord style s (texts file) file) ∧
      ((∀ file ∈ files, (finalText style s file (some (FileTree.asRead (texts file)))).text =
        FileTree.asRead (texts file)) → t' = t) := by
  induction files generalizing r t with
  | nil => exact ⟨t, r, rfl, rfl, (List.append_nil _).symm, fun _ => rfl⟩
  | cons file rest ih =>
    obtain ⟨hfileAbsolute, hrestAbsolute⟩ := List.forall_mem_cons.mp hplaced.absolute
    obtain ⟨hfileStored, hrestStored⟩ := List.forall_mem_cons.mp hstored
    obtain ⟨hfileEncodable, hrestEncodable⟩ := List.forall_mem_cons.mp hencodable
    obtain ⟨hapart, hplacedRest⟩ := hplaced.cons
    obtain ⟨hresult, hsame⟩ := writeFile_stored style hfileStored hfileEncodable
    have htouches := writeFile_touches style s t file
    rw [place_target hfileAbsolute] at htouches
    have hstillStored : ∀ other ∈ rest, FileTree.Stored (writeFile style s t file).1 (s.target other)
        (texts other).toUTF8 := by
      intro other hother
      refine (hrestStored other hother).touches htouches ?_
      rw [place_target (hrestAbsolute other hother)]
      exact (hapart other hother).symm
    have hnone : (writeFile style s t file).2.refusal? = none := by
      unfold FileOutcome.refusal?
      rw [hresult]
    obtain ⟨t', r', hrun, herrors, hrecords, htree⟩ := ih hplacedRest hrestEncodable hstillStored
      (r.add s file (writeFile style s t file).2)
    obtain ⟨haddedRecords, haddedErrors⟩ := add_of_ok s file r hresult
    refine ⟨t', r', ?_, ?_, ?_, fun htexts => ?_⟩
    · rw [writeFrom_cons r rest hnone, hrun]
    · rw [herrors, haddedErrors]
    · rw [hrecords, haddedRecords, List.append_assoc]
      rfl
    · obtain ⟨hfileText, hrestTexts⟩ := List.forall_mem_cons.mp htexts
      rw [htree hrestTexts, hsame hfileText]

/-- The final text of a file without carriage returns is the one that is stored. -/
theorem finalText_again (h : '\r' ∉ (plainText style s file).toList) :
    (finalText style s file (some (FileTree.asRead (plainText style s file)))).text =
      FileTree.asRead (plainText style s file) := by
  rw [finalText_text, FileTree.asRead_of_not_mem h, mergeRegions_self]

/-- A file without carriage returns needs no writing again. -/
theorem againRecord_plainText (hdry : s.dryRun = false) (h : '\r' ∉ (plainText style s file).toList) :
    againRecord style s (plainText style s file) file =
      { freshRecord style s file with status := .unchanged } := by
  have htext := finalText_again h
  rw [FileTree.asRead_of_not_mem h] at htext
  have hplain : (finalText style s file none).text = plainText style s file := rfl
  unfold againRecord freshRecord fileRecord
  dsimp only
  rw [FileTree.asRead_of_not_mem h, htext, hplain, status_eq hdry, if_pos rfl]
  rfl

/-- What a style pass leaves has no carriage returns if neither the file nor the style pass brings any. -/
theorem plainText_noReturn
    (hstyle : ∀ (n : Nat) (text out : String), style n text = .ok out → '\r' ∉ text.toList →
      '\r' ∉ out.toList)
    (s : WriteSettings) (h : '\r' ∉ file.content.toList) : '\r' ∉ (plainText style s file).toList := by
  refine plainText_induction (P := fun text => '\r' ∉ text.toList) (fun text htext hc => ?_) hstyle s h
  rw [toList_canonical] at hc
  rcases mem_canonicalChars hc with hc | hc
  · cases hc
  · exact htext hc

/-! ## Refusals -/

/-- **A file that ends the writing**: there is a null character in its path, or its final text cannot be encoded. -/
inductive Refuses (style : StylePass) (s : WriteSettings) (t : FileTree) (file : GeneratedFile) : FileFault → Prop where
  | path (hnull : (s.target file).hasNull = true) : Refuses style s t file ⟨.nullCharacter, s.target file, .path⟩
  | text (existing : Option String) (hread : t.readText? (s.target file) = .ok existing) (fault : EncodeFault)
    (hencode : file.standIns.encode (finalText style s file existing).text = .error fault) :
    Refuses style s t file ⟨.unencodable fault, s.target file, .path⟩

/-- A result that ends the writing. -/
theorem refusal?_eq_some_iff {outcome : FileOutcome} {fault : FileFault} :
    outcome.refusal? = some fault ↔ outcome.result = .error (.file fault) ∧ fault.cause.isSystem = false := by
  unfold FileOutcome.refusal?
  split
  · next found hresult =>
    rw [hresult]
    split
    · next hsystem =>
      refine iff_of_false nofun ?_
      rintro ⟨h, hforeign⟩
      cases h
      rw [hsystem] at hforeign
      cases hforeign
    · next hforeign =>
      constructor
      · rintro ⟨⟩
        exact ⟨rfl, Bool.eq_false_iff.mpr hforeign⟩
      · rintro ⟨h, _⟩
        cases h
        rfl
  · next hother => exact iff_of_false nofun fun h => hother fault h.1

/-- A path with a null character cannot be read. -/
theorem readText?_of_hasNull {p : Path} (h : p.hasNull = true) (t : FileTree) :
    t.readText? p = .error (.file ⟨.nullCharacter, p, .path⟩) := by
  unfold FileTree.readText?
  rw [FileTree.read_of_hasNull h]
  rfl

/-- **What is read of a path is an error of the system, unless there is a null character in it.** So a null
character is the one reason for which reading ends the writing. -/
theorem isSystem_of_readText? {p : Path} {fault : FileFault} (h : t.readText? p = .error (.file fault))
    (hforeign : fault.cause.isSystem = false) : p.hasNull = true ∧ fault = ⟨.nullCharacter, p, .path⟩ := by
  cases hnull : p.hasNull with
  | true =>
    rw [readText?_of_hasNull hnull t] at h
    cases h
    exact ⟨rfl, rfl⟩
  | false =>
    have hsystem := FileTree.readText?_sound hnull h
    rw [hforeign] at hsystem
    cases hsystem

theorem hasNull_of_readText? {p : Path} {existing : Option String} (h : t.readText? p = .ok existing) :
    p.hasNull = false := by
  rw [← Bool.not_eq_true]
  intro hnull
  rw [readText?_of_hasNull hnull t] at h
  cases h

/-- **A file is refused for no other reason** than a null character in its path or lone surrogates in its final
text. All other faults are recorded. -/
theorem refusal?_writeFile_iff {fault : FileFault} :
    (writeFile style s t file).2.refusal? = some fault ↔ Refuses style s t file fault := by
  rw [refusal?_eq_some_iff]
  constructor
  · rintro ⟨hresult, hforeign⟩
    cases treatment style s t file with
    | unread fault' hread =>
      rw [writeFile_of_error hread] at hresult
      cases hresult
      obtain ⟨hnull, rfl⟩ := isSystem_of_readText? hread hforeign
      exact .path hnull
    | unencodable existing hread fault' hencode =>
      rw [(writeFile_of_unencodable hread hencode).2] at hresult
      cases hresult
      exact .text existing hread fault' hencode
    | kept existing hread hencodable hstatus =>
      rw [(writeFile_of_kept hread hencodable hstatus).2] at hresult
      cases hresult
    | written existing hread hencodable hstatus =>
      -- what was read has no null character in its path, so writing fails by errors of the system only
      have hsound := FileTree.write_sound (t := t) (hasNull_of_readText? hread)
        (finalText style s file existing).text.toUTF8
      rw [(writeFile_of_written hread hencodable hstatus).2] at hresult
      cases hwrite : (t.write (s.target file) (finalText style s file existing).text.toUTF8).2 with
      | ok _ =>
        rw [hwrite] at hresult
        cases hresult
      | error fault' =>
        rw [hwrite] at hresult
        cases hresult
        rw [hsound fault hwrite] at hforeign
        cases hforeign
  · intro h
    cases h with
    | path hnull =>
      rw [writeFile_of_error (readText?_of_hasNull hnull t)]
      exact ⟨rfl, rfl⟩
    | text existing hread fault' hencode => exact ⟨(writeFile_of_unencodable hread hencode).2, rfl⟩

/-- Nothing is done for a file that is refused. -/
theorem Refuses.writeFile {fault : FileFault} (h : Refuses style s t file fault) :
    (Output.writeFile style s t file).1 = t := by
  cases h with
  | path hnull => rw [writeFile_of_error (readText?_of_hasNull hnull t)]
  | text existing hread fault' hencode => exact (writeFile_of_unencodable hread hencode).1

/-- A file that cannot be encoded has characters that stand for lone surrogates. -/
theorem Refuses.standIns_ne_nil {fault : FileFault} (h : Refuses style s t file fault) {lone : EncodeFault}
    (hcause : fault.cause = .unencodable lone) : file.standIns ≠ [] := by
  intro hnone
  cases h with
  | path hnull => cases hcause
  | text existing hread fault' hencode =>
    rw [hnone, StandIns.encode_nil] at hencode
    cases hencode

theorem writeFrom_cons_of_refuses {fault : FileFault} (h : Refuses style s t file fault) (r : WriteReport)
    (rest : List GeneratedFile) : writeFrom style s r t (file :: rest) = (t, .error fault) := by
  rw [writeFrom]
  dsimp only
  rw [refusal?_writeFile_iff.mpr h, h.writeFile]

/-- A run that does not end early has no null character in a path. -/
theorem hasNull_of_writeFrom {r r' : WriteReport} {files : List GeneratedFile}
    (h : writeFrom style s r t files = (t', .ok r')) : ∀ f ∈ files, (s.target f).hasNull = false := by
  induction files generalizing r t with
  | nil => exact List.forall_mem_nil _
  | cons file rest ih =>
    obtain ⟨hnone, hrest⟩ := writeFrom_cons_eq_ok h
    refine List.forall_mem_cons.mpr ⟨?_, ih hrest⟩
    rw [← Bool.not_eq_true]
    intro hnull
    rw [refusal?_writeFile_iff.mpr (.path hnull)] at hnone
    cases hnone

/-- **A run that ends early** ended at a file that is refused. The files before it were written, and those behind it
were not tried. -/
theorem writeFrom_eq_error {left : FileTree} {r : WriteReport} {files : List GeneratedFile} {fault : FileFault}
    (h : writeFrom style s r t files = (left, .error fault)) :
    ∃ before f after r', files = before ++ f :: after ∧ writeFrom style s r t before = (left, .ok r') ∧
      Refuses style s left f fault := by
  induction files generalizing r t with
  | nil => cases h
  | cons file rest ih =>
    cases hrefusal : (writeFile style s t file).2.refusal? with
    | some fault' =>
      have hrefuses := refusal?_writeFile_iff.mp hrefusal
      obtain ⟨rfl, hsame⟩ := Prod.mk.inj ((writeFrom_cons_of_refuses hrefuses r rest).symm.trans h)
      obtain rfl := Except.error.inj hsame
      exact ⟨[], file, rest, r, rfl, rfl, hrefuses⟩
    | none =>
      rw [writeFrom_cons r rest hrefusal] at h
      obtain ⟨before, f, after, r', rfl, hbefore, hrefuses⟩ := ih h
      refine ⟨file :: before, f, after, r', rfl, ?_, hrefuses⟩
      rw [writeFrom_cons r before hrefusal, hbefore]

/-- Files without null characters in their paths and without lone surrogates are all tried. -/
theorem exists_writeAll_of_whole (style : StylePass) (t : FileTree) {files : List GeneratedFile}
    (hnull : ∀ file ∈ files, (s.target file).hasNull = false) (hwhole : ∀ file ∈ files, file.standIns = []) :
    ∃ left r, writeAll style s t files = (left, .ok r) := by
  cases h : writeAll style s t files with
  | mk left outcome =>
    cases outcome with
    | ok r => exact ⟨left, r, rfl⟩
    | error fault =>
      obtain ⟨before, f, after, _, rfl, _, hrefuses⟩ := writeFrom_eq_error h
      have hf : f ∈ before ++ f :: after := List.mem_append_right before List.mem_cons_self
      cases hrefuses with
      | path hpath =>
        rw [hnull f hf] at hpath
        cases hpath
      | text existing hread lone hencode =>
        exact absurd (hwhole f hf) ((Refuses.text existing hread lone hencode).standIns_ne_nil rfl)

/-- **Files up to one that cannot be encoded**: those before it were written, which leaves a tree, and its final
text there has lone surrogates. -/
def StopsAt (style : StylePass) (s : WriteSettings) (t : FileTree) (files : List GeneratedFile) (left : FileTree)
    (f : GeneratedFile) (fault : EncodeFault) : Prop :=
  ∃ before after r existing, files = before ++ f :: after ∧ writeAll style s t before = (left, .ok r) ∧
    left.readText? (s.target f) = .ok existing ∧
    f.standIns.encode (finalText style s f existing).text = .error fault

theorem StopsAt.standIns_ne_nil {files : List GeneratedFile} {left : FileTree} {f : GeneratedFile} {fault : EncodeFault}
    (h : StopsAt style s t files left f fault) : f ∈ files ∧ f.standIns ≠ [] := by
  obtain ⟨before, after, _, existing, rfl, _, hread, hencode⟩ := h
  exact ⟨List.mem_append_right before List.mem_cons_self,
    (Refuses.text existing hread fault hencode).standIns_ne_nil rfl⟩

/-- **Writing that ends early** has written nothing, or it ended at a file that cannot be encoded, if a null
character in one path is in all of them. -/
theorem writeAll_eq_error {left : FileTree} {files : List GeneratedFile} {null : Bool}
    (hfiles : ∀ file ∈ files, (s.target file).hasNull = null) {fault : FileFault}
    (h : writeAll style s t files = (left, .error fault)) :
    left = t ∨ ∃ f fault', fault = ⟨.unencodable fault', s.target f, .path⟩ ∧
      StopsAt style s t files left f fault' := by
  obtain ⟨before, f, after, r, rfl, hbefore, hrefuses⟩ := writeFrom_eq_error h
  cases hrefuses with
  | text existing hread fault' hencode =>
    exact .inr ⟨f, fault', rfl, before, after, r, existing, rfl, hbefore, hread, hencode⟩
  | path hnull =>
    -- the first file is refused then, so that nothing stands before this one
    have hall := hasNull_of_writeFrom hbefore
    obtain ⟨hfirst, hrest⟩ := List.forall_mem_append.mp hfiles
    have hsame := hnull.symm.trans (hrest f List.mem_cons_self)
    cases before with
    | nil =>
      cases hbefore
      exact .inl rfl
    | cons first _ =>
      have hfree := hall first List.mem_cons_self
      rw [hfirst first List.mem_cons_self, ← hsame] at hfree
      cases hfree

end SchemaScribe.Output
