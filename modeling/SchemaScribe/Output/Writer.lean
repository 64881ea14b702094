import SchemaScribe.Digest
import SchemaScribe.Document.Json
import SchemaScribe.Files.Tree
import SchemaScribe.Notice
import SchemaScribe.Output.Region
import SchemaScribe.Render.File

/-!
# Writing the package

The final text of a generated file is its canonical text after the style pass, with the custom regions
of the file it replaces. A file is written only if its text changes. What goes wrong with one file is
recorded and does not touch the others; a style pass that fails only means that a file stays unstyled.
Two failures end the writing, because the system has no part in them: a path with a null character,
which no system takes, and a final text with lone surrogates, which no bytes encode.
-/

namespace SchemaScribe.Output

open SchemaScribe.Document SchemaScribe.Files SchemaScribe.Text
open SchemaScribe.Render (GeneratedFile)

/-- Lays text out for a line length, or says why it cannot. -/
abbrev StylePass := Nat → String → Except String String

/-- The style pass over the canonical form of a text. -/
def formatSource (style : StylePass) (lineLength : Nat) (text : String) : Except String String :=
  style lineLength (canonical text)

/-- What became of a file. -/
inductive FileStatus where
  | written
  | unchanged
  | dryRun
deriving DecidableEq, Repr

/-- The word for a status. -/
def FileStatus.name : FileStatus → String
  | .written => "written"
  | .unchanged => "unchanged"
  | .dryRun => "dry-run"

/-- What is known of a file after writing. -/
structure FileRecord where
  relative : String
  absolute : String
  size : Nat
  lines : Nat
  digest : String
  status : FileStatus
  formatted : Bool
deriving DecidableEq, Repr

/-- A record as a value. -/
def FileRecord.toValue (f : FileRecord) : Value := .record [
  ("relative_path", .text f.relative), ("absolute_path", .text f.absolute),
  ("size_bytes", .int f.size), ("line_count", .int f.lines), ("sha256", .text f.digest),
  ("status", .text f.status.name), ("formatted", .bool f.formatted)]

/-- How files are written. -/
structure WriteSettings where
  directory : Path
  lineLength : Nat := 88
  format : Bool := true
  dryRun : Bool := false

/-- The part of the program that notices about files come from. -/
def writerSource : String := "dbreverse.exporters"

/-- The text of a file before merging, or why it is not styled. -/
def styled (style : StylePass) (s : WriteSettings) (file : GeneratedFile) : Except String String :=
  formatSource style s.lineLength (canonical file.content)

/-- The remark about a file that stays unstyled. -/
def unstyledMessage (path reason : String) : String :=
  "Formatting " ++ path ++ " failed; writing unformatted text: " ++ reason

/-- The final text of a file with what was odd about it. -/
structure FinalText where
  text : String
  formatted : Bool
  complaint : Option String
  lost : Nat
deriving DecidableEq, Repr

/-- The final text of a file that replaces an existing text. -/
def finalText (style : StylePass) (s : WriteSettings) (file : GeneratedFile)
    (existing : Option String) : FinalText :=
  let (text, formatted, complaint) : String × Bool × Option String :=
    if s.format then
      match styled style s file with
      | .ok text => (text, true, none)
      | .error reason => (canonical file.content, false, some (unstyledMessage file.path reason))
    else (canonical file.content, false, none)
  { text := mergeRegions text existing, formatted, complaint, lost := lostRegions text existing }

/-- What the log is told about a final text. -/
def FinalText.notices (f : FinalText) : List Notice :=
  f.complaint.toList.map (fun text => ⟨.warning, writerSource, text⟩) ++
    if f.lost = 0 then []
    else [⟨.warning, writerSource, toString f.lost ++
      " custom region(s) have no counterpart in the regenerated file."⟩]

/-- The target of a file. -/
def WriteSettings.target (s : WriteSettings) (file : GeneratedFile) : Path :=
  s.directory.join (Path.ofString file.path)

/-- What a final text does to a target with an existing text. -/
def WriteSettings.status (s : WriteSettings) (text : String) (existing : Option String) :
    FileStatus :=
  if s.dryRun then .dryRun else if existing = some text then .unchanged else .written

/-- The record of a file. -/
def fileRecord (s : WriteSettings) (file : GeneratedFile) (final : FinalText)
    (status : FileStatus) : FileRecord where
  relative := file.path
  absolute := (s.target file).shown
  size := final.text.utf8ByteSize
  lines := lineCount final.text
  digest := Digest.sha256 final.text.toUTF8
  status
  formatted := final.formatted

/-- What writing one file led to. -/
structure FileOutcome where
  result : Except ReadFault FileRecord
  complaint : Option String := none
  notices : List Notice := []

/-- Writes one file. -/
def writeFile (style : StylePass) (s : WriteSettings) (t : FileTree) (file : GeneratedFile) :
    FileTree × FileOutcome :=
  match t.readText? (s.target file) with
  | .error fault => (t, { result := .error fault })
  | .ok existing =>
    let final := finalText style s file existing
    let status := s.status final.text existing
    let record := fileRecord s file final status
    let outcome := fun result =>
      { result, complaint := final.complaint, notices := final.notices : FileOutcome }
    -- A record needs the bytes as well, so a text without any is refused before the status counts.
    match file.standIns.encode final.text with
    | .error fault => (t, outcome (.error (.file ⟨.unencodable fault, s.target file, .path⟩)))
    | .ok bytes =>
      if status = .written then
        match t.write (s.target file) bytes with
        | (written, .ok ()) => (written, outcome (.ok record))
        | (left, .error fault) => (left, outcome (.error (.file fault)))
      else (t, outcome (.ok record))

/-- The message about a fault, with its kind. -/
def faultMessage (fault : ReadFault) : String := fault.kindWord ++ ": " ++ fault.message

/-- What writing all files led to. -/
structure WriteReport where
  directory : String := ""
  records : List FileRecord := []
  degraded : List String := []
  errors : List (String × String) := []
  complaints : List String := []

/-- A report with what became of one more file. -/
def WriteReport.add (r : WriteReport) (s : WriteSettings) (file : GeneratedFile)
    (outcome : FileOutcome) : WriteReport :=
  let r := { r with complaints := r.complaints ++ outcome.complaint.toList }
  match outcome.result with
  | .ok record =>
    { r with
      records := r.records ++ [record]
      degraded := r.degraded ++ if s.format && !record.formatted then [file.path] else [] }
  | .error fault =>
    { r with
      errors := setEntry file.path (faultMessage fault) r.errors }

/-- The fault that ends the writing, if the outcome of a file is one. -/
def FileOutcome.refusal? (o : FileOutcome) : Option FileFault :=
  match o.result with
  | .error (.file fault) => if fault.cause.isSystem then none else some fault
  | _ => none

/-- Writes files in turn, adding to a report. -/
def writeFrom (style : StylePass) (s : WriteSettings) (r : WriteReport) (t : FileTree) :
    List GeneratedFile → FileTree × Except FileFault WriteReport
  | [] => (t, .ok r)
  | file :: rest =>
    let (t, outcome) := writeFile style s t file
    match outcome.refusal? with
    | some fault => (t, .error fault)
    | none => writeFrom style s (r.add s file outcome) t rest

/-- Writes files in the order given. -/
def writeAll (style : StylePass) (s : WriteSettings) (t : FileTree) (files : List GeneratedFile) :
    FileTree × Except FileFault WriteReport :=
  writeFrom style s { directory := s.directory.shown } t files

/-- The line of the log about a file with a fault that is recorded. -/
def FileOutcome.failureNotices (o : FileOutcome) (file : GeneratedFile) : List Notice :=
  match o.result with
  | .ok _ => []
  | .error fault =>
    [⟨.error, writerSource, "Failed to write " ++ file.path ++ ": " ++ faultMessage fault⟩]

/-- What the log is told while files are written, up to the file that ends the writing. -/
def writeNotices (style : StylePass) (s : WriteSettings) (t : FileTree) : List GeneratedFile → List Notice
  | [] => []
  | file :: rest =>
    let (t, outcome) := writeFile style s t file
    match outcome.refusal? with
    | some _ => outcome.notices
    | none => outcome.notices ++ outcome.failureNotices file ++ writeNotices style s t rest

namespace WriteReport

/-- Whether every file could be written. -/
def success (r : WriteReport) : Bool := r.errors.isEmpty

/-- The files that were written. -/
def written (r : WriteReport) : List FileRecord := r.records.filter (·.status = .written)

/-- The files that needed no writing. -/
def unchanged (r : WriteReport) : List FileRecord := r.records.filter (·.status = .unchanged)

/-- How many bytes the files have. -/
def bytes (r : WriteReport) : Nat := (r.records.map (·.size)).foldr (· + ·) 0

/-- How many lines the files have. -/
def lines (r : WriteReport) : Nat := (r.records.map (·.lines)).foldr (· + ·) 0

/-- A record as part of a report, which leaves out where the output lies. -/
def recordValue (f : FileRecord) : Value := .record [
  ("relative_path", .text f.relative), ("size_bytes", .int f.size), ("line_count", .int f.lines),
  ("sha256", .text f.digest), ("status", .text f.status.name), ("formatted", .bool f.formatted)]

/-- A report as a value. It holds nothing that changes from run to run. -/
def toValue (r : WriteReport) : Value := .record [
  ("output_directory", .text r.directory), ("files", .list (r.records.map recordValue)),
  ("degraded", .texts r.degraded), ("errors", .textRecord r.errors)]

/-- A report as an indented document. -/
def toJson (r : WriteReport) (indent : Nat) : String := Json.write (.indented indent) r.toValue

end WriteReport

end SchemaScribe.Output
