import SchemaScribe.Listing.Table
import SchemaScribe.Output.Writer
import SchemaScribe.Text.Binary64
import SchemaScribe.Text.Numeral

/-!
# The report of a run

What a generation run did: its figures, its steps with their times, and everything that went wrong
without stopping it. The summary is the report for people.
-/

namespace SchemaScribe.Generation

open SchemaScribe.Document (Value)
open SchemaScribe.Text (Binary64)

/-- A step of a run. -/
structure Step where
  name : String := ""
  success : Bool := true
  seconds : Binary64 := .zero
  detail : String := ""
deriving DecidableEq, Repr

/-- What a run did. -/
structure Report where
  success : Bool := false
  directory : String := ""
  dialect : String := ""
  dryRun : Bool := false
  tables : Int := 0
  entities : Int := 0
  junctions : Int := 0
  files : Int := 0
  written : Int := 0
  unchanged : Int := 0
  bytes : Int := 0
  lines : Int := 0
  seconds : Binary64 := .zero
  steps : List Step := []
  modelWarnings : List String := []
  renderErrors : List (String × String) := []
  writeErrors : List (String × String) := []
  degraded : List String := []
  records : List Output.FileRecord := []

/-- A line of one repeated character. -/
def bar (c : Char) : String := .ofList (List.replicate 60 c)

/-- A text filled up in front to a width. -/
def fillFront (width : Nat) (text : String) : String :=
  .ofList (List.replicate (width - text.length) ' ') ++ text

/-- The sign of success or failure. -/
def outcomeSign (success : Bool) : String := if success then "✓" else "✗"

/-- The line of a step. -/
def Step.line (s : Step) : String :=
  "    " ++ outcomeSign s.success ++ " " ++ Listing.fill 20 s.name ++ " " ++
    fillFront 7 (s.seconds.fixed 3) ++ "s  " ++ s.detail

/-- The lines of a section that lists items, none if there are no items. -/
def sectionLines (title sign : String) (items : List String) : List String :=
  if items.isEmpty then []
  else
    [bar '─', "  " ++ title ++ " (" ++ toString items.length ++ "):"] ++
      items.map fun item => "    " ++ sign ++ " " ++ item

/-- Named messages as items. -/
def namedItems (entries : List (String × String)) : List String :=
  entries.map fun (name, message) => name ++ ": " ++ message

namespace Report

/-- The word for how a run ended. -/
def status (r : Report) : String :=
  (if r.success then "SUCCESS" else "FAILED") ++ if r.dryRun then " (dry run)" else ""

/-- The lines with the figures of a run. -/
def figureLines (r : Report) : List String := [
  "  Status:           " ++ r.status,
  "  Dialect:          " ++ r.dialect,
  "  Output:           " ++ r.directory,
  "  Tables read:      " ++ toString r.tables,
  "  Entities:         " ++ toString r.entities,
  "  Junction tables:  " ++ toString r.junctions,
  "  Files:            " ++ toString r.files ++ " (" ++ toString r.written ++ " written, " ++
    toString r.unchanged ++ " unchanged)",
  "  Total lines:      " ++ Text.grouped r.lines,
  "  Total time:       " ++ r.seconds.fixed 3 ++ "s"]

/-- The lines with the steps of a run. -/
def stepLines (r : Report) : List String :=
  if r.steps.isEmpty then [] else "  Pipeline Steps:" :: r.steps.map Step.line

/-- The report for people. -/
def summary (r : Report) : String :=
  "\n".intercalate (
    [bar '=', "  dbreverse — Generation Report", bar '='] ++ r.figureLines ++ [bar '─'] ++
    r.stepLines ++
    sectionLines "Model Warnings" "⚠" r.modelWarnings ++
    sectionLines "Degraded Formatting" "⚠" r.degraded ++
    sectionLines "Generation Errors" "✗" (namedItems r.renderErrors) ++
    sectionLines "Write Errors" "✗" (namedItems r.writeErrors) ++
    [bar '='])

/-- A report as a value, with its summary. Of a step it holds no time. -/
def toValue (r : Report) : Value := .record [
  ("success", .bool r.success), ("output_directory", .text r.directory),
  ("dialect", .text r.dialect), ("dry_run", .bool r.dryRun), ("tables_read", .int r.tables),
  ("entities", .int r.entities), ("junction_tables", .int r.junctions),
  ("total_files", .int r.files), ("files_written", .int r.written),
  ("files_unchanged", .int r.unchanged), ("total_bytes", .int r.bytes),
  ("total_lines", .int r.lines),
  ("steps", .list (r.steps.map fun s => .list [.text s.name, .bool s.success, .text s.detail])),
  ("model_warnings", .texts r.modelWarnings), ("generation_errors", .textRecord r.renderErrors),
  ("write_errors", .textRecord r.writeErrors), ("degraded_files", .texts r.degraded),
  ("files", .list (r.records.map Output.FileRecord.toValue)), ("summary", .text r.summary)]

end Report

end SchemaScribe.Generation
