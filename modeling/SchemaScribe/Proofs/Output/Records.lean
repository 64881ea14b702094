import SchemaScribe.Proofs.Output.Writer

/-!
# What a record tells of a file

A record has the size and the checksum of the final text. Whether the text is written is decided by the text that
is read of the file before, and reading takes carriage returns for line feeds. So a record is true of the file
unless the file had carriage returns: those can hide that its bytes differ from the final text, or that they are
the same (`writeFile_tells`).
-/

namespace SchemaScribe.Output

open SchemaScribe.Files SchemaScribe.Text
open SchemaScribe.Files.FileTree (asRead asRead_eq_self_iff readText?_eq_ok return_notMem_asRead)
open SchemaScribe.Text.StandIns (encodable_nil)
open SchemaScribe.Render (GeneratedFile)

variable {style : StylePass} {s : WriteSettings} {t : FileTree} {file : GeneratedFile}

/-- **A file of a text with carriage returns.** -/
def HoldsReturns (t : FileTree) (p : Path) (text : String) : Prop :=
  t.read p = .ok text.toUTF8 ∧ '\r' ∈ text.toList

theorem read_eq_iff {p : Path} {raw text : String} (h : t.read p = .ok raw.toUTF8) :
    t.read p = .ok text.toUTF8 ↔ raw = text := by
  rw [h, Except.ok.injEq]
  exact String.toByteArray_inj

/-- A file has one text. -/
theorem exists_holdsReturns_iff {p : Path} {raw : String} {P : String → Prop} (h : t.read p = .ok raw.toUTF8) :
    (∃ text, HoldsReturns t p text ∧ P text) ↔ '\r' ∈ raw.toList ∧ P raw := by
  constructor
  · rintro ⟨text, ⟨hread, hreturn⟩, htext⟩
    obtain rfl := (read_eq_iff h).mp hread
    exact ⟨hreturn, htext⟩
  · rintro ⟨hreturn, htext⟩
    exact ⟨raw, ⟨h, hreturn⟩, htext⟩

/-- **A record tells of the final text**, and the file holds it afterwards unless it had a text with carriage
returns that is read as the final one. The status tells whether the file held the final text before, unless
what it had then is a text with carriage returns that is read as the final one, or that is it. -/
theorem writeFile_tells {record : FileRecord} (hdry : s.dryRun = false)
    (h : (writeFile style s t file).2.result = .ok record) :
    ∃ existing, t.readText? (s.target file) = .ok existing ∧
      let final := (finalText style s file existing).text
      record.size = final.toUTF8.size ∧ record.digest = Digest.sha256 final.toUTF8 ∧
        ((writeFile style s t file).1.read (s.target file) = .ok final.toUTF8 ↔
          ¬ ∃ text, HoldsReturns t (s.target file) text ∧ asRead text = final) ∧
        ((record.status = .unchanged ↔ t.read (s.target file) = .ok final.toUTF8) ↔
          ¬ ∃ text, HoldsReturns t (s.target file) text ∧ (asRead text = final ∨ text = final)) := by
  obtain ⟨existing, hexisting, _, houtcome⟩ := writeFile_outcome hdry h
  refine ⟨existing, hexisting, ?_⟩
  generalize finalText style s file existing = final at houtcome ⊢
  rcases houtcome with ⟨rfl, htree, rfl⟩ | ⟨hother, hstored, rfl⟩
  · -- what was read is the final text, and the file is as it was
    refine ⟨rfl, rfl, ?_⟩
    rcases readText?_eq_ok hexisting with ⟨hnone, _⟩ | ⟨raw, hread, hsame⟩
    · cases hnone
    · have hfinal : asRead raw = final.text := (Option.some.inj hsame).symm
      have hcontent : t.read (s.target file) = .ok final.text.toUTF8 ↔ '\r' ∉ raw.toList := by
        rw [read_eq_iff hread, ← hfinal, eq_comm, asRead_eq_self_iff]
      rw [htree, exists_holdsReturns_iff hread, exists_holdsReturns_iff hread, hcontent,
        and_iff_left hfinal, and_iff_left (Or.inl hfinal)]
      exact ⟨Iff.rfl, iff_true_left rfl⟩
  · refine ⟨rfl, rfl, ?_⟩
    have hstatus : ¬ FileStatus.written = .unchanged := nofun
    rcases readText?_eq_ok hexisting with ⟨_, hnothing⟩ | ⟨raw, hread, rfl⟩
    · have hnone : ∀ P : String → Prop, ¬ ∃ text, HoldsReturns t (s.target file) text ∧ P text :=
        fun P ⟨text, hholds, _⟩ => hnothing _ hholds.1
      exact ⟨iff_of_true hstored.read (hnone _),
        iff_of_true (iff_of_false hstatus (hnothing _)) (hnone _)⟩
    · have hne : asRead raw ≠ final.text := fun hsame => hother (congrArg some hsame)
      rw [exists_holdsReturns_iff hread, exists_holdsReturns_iff hread, read_eq_iff hread]
      refine ⟨iff_of_true hstored.read fun h => hne h.2, ?_⟩
      have hreturn : raw = final.text → '\r' ∈ raw.toList := by
        rintro hsame
        by_contra hnone
        exact hne ((asRead_eq_self_iff.mpr hnone).trans hsame)
      show (FileStatus.written = .unchanged ↔ raw = final.text) ↔ _
      rw [iff_false_left hstatus, or_iff_right hne]
      exact ⟨fun h h' => h h'.2, fun h hsame => h ⟨hreturn hsame, hsame⟩⟩

/-- A tree with a file whose line ends have carriage returns. -/
def foreign : FileTree where
  entries := [(["out"], .directory), (["out", "a.py"], .file "a = 1\r\n".toUTF8)]

/-- Its record tells of a text that the file does not hold. -/
theorem writeFile_tells_foreign :
    let s : WriteSettings := { directory := .ofString "/out", format := false }
    let file : GeneratedFile := { path := "a.py", content := "a = 1\n" }
    let outcome := writeFile (fun _ text => .ok text) s foreign file
    s.dryRun = false ∧ ∃ record, outcome.2.result = .ok record ∧ record.size = 6 ∧
      outcome.1.read (s.target file) ≠ .ok "a = 1\n".toUTF8 := by
  intro s file outcome
  have hstored : FileTree.Stored foreign (s.target file) "a = 1\r\n".toUTF8 := by
    refine ⟨FileTree.read_eq_ok.mpr ⟨?_, ?_⟩, ?_, ?_, ?_⟩
    all_goals decide +kernel
  have hfinal : (finalText (fun _ text => .ok text) s file (some "a = 1\n")).text = "a = 1\n" := by
    decide +kernel
  obtain ⟨hrecord, _⟩ := writeFile_stored (fun _ text => .ok text) hstored (encodable_nil _)
  obtain ⟨existing, hexisting, hsize, _, hcontent, _⟩ := writeFile_tells rfl hrecord
  rw [hstored.readText?] at hexisting
  obtain rfl : some "a = 1\n" = existing := Except.ok.inj hexisting
  rw [hfinal] at hsize hcontent
  refine ⟨rfl, _, hrecord, hsize, fun hsame => hcontent.mp hsame ?_⟩
  exact ⟨"a = 1\r\n", ⟨hstored.read, by decide⟩, by decide⟩

end SchemaScribe.Output
