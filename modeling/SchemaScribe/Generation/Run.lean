import SchemaScribe.Database.Session
import SchemaScribe.Generation.Report
import SchemaScribe.Model.Build
import SchemaScribe.Render.Package

/-!
# Generation runs

From a catalog to files: check and select its tables, build the model, render the package, write it.
A catalog or a model that is not sound ends the run before anything is written. An entity that cannot
be rendered and a file that cannot be written are only recorded; a file that cannot be encoded ends the
run, and what was written by then stays.
-/

namespace SchemaScribe.Generation

open SchemaScribe.Catalog SchemaScribe.Connection SchemaScribe.Database SchemaScribe.Files
open SchemaScribe.Output
open SchemaScribe.Render (EntityRenderer)

/-- Why a run ended without a report. -/
inductive RunError where
  | output (fault : FileFault)
  | introspection (error : IntrospectError)
  | inconsistent (catalog : Inconsistent)
  | model (error : BuildError)

/-- The complaint about a run. -/
def RunError.message : RunError → String
  | .output fault => fault.message
  | .introspection error => error.message
  | .inconsistent catalog => catalog.message
  | .model error => error.message

/-- How a run works: the renderer of entities, the style pass, and whether it leaves the files alone. -/
structure Setup where
  renderer : Model → Options → EntityRenderer := Render.entityFiles
  style : StylePass := fun _ text => .ok text
  dryRun : Bool := false

/-- A computation that leaves notices and may end a run. -/
abbrev Running := Noted Notice RunError

/-- How the files of a run are written. -/
def Setup.writing (s : Setup) (o : Options) (t : FileTree) : Except RunError WriteSettings := do
  let directory ← (t.resolve (Path.ofString o.outputDir)).mapError .output
  return { directory, lineLength := o.lineLength, format := o.formatOutput, dryRun := s.dryRun }

/-- The model of a catalog with what building left in the log. -/
def modelOf (o : Options) (s : Snapshot) : Running Model := do
  Noted.note (buildNotices o s)
  Noted.ofExcept ((buildModel o s).mapError .model)

/-- The step of building a model. -/
def modelStep (m : Model) : Step where
  name := "Build Model"
  detail := toString m.entities.length ++ " entities, " ++ toString m.relationCount ++ " relations"

/-- The step of rendering a package. -/
def renderStep (r : Render.Rendered) : Step where
  name := "Render"
  success := r.faults.isEmpty
  detail := toString r.files.length ++ " file(s), " ++ toString r.faults.length ++ " failed entities"

/-- The step of writing files. -/
def writeStep (w : WriteReport) : Step where
  name := "Write"
  success := w.success
  detail := toString w.written.length ++ " written, " ++ toString w.unchanged.length ++
    " unchanged, " ++ toString w.errors.length ++ " failed"

/-- The report of a run on a catalog, given what its stages led to. -/
def reportOf (setup : Setup) (s : Snapshot) (m : Model) (rendered : Render.Rendered)
    (written : WriteReport) (steps : List Step) : Report where
  success := rendered.faults.isEmpty && written.success
  directory := written.directory
  dialect := s.dialect
  dryRun := setup.dryRun
  tables := s.tables.length
  entities := m.entities.length
  junctions := m.junctionTables.length
  files := written.records.length
  written := written.written.length
  unchanged := written.unchanged.length
  bytes := written.bytes
  lines := written.lines
  steps := steps ++ [modelStep m, renderStep rendered, writeStep written]
  modelWarnings := m.warnings
  renderErrors := rendered.faults.map fun (name, fault) => (name, fault.message)
  writeErrors := written.errors
  degraded := written.degraded
  records := written.records

/-- The last line of the log of a run that failed. -/
def failureNotices (r : Report) : List Notice :=
  if r.success then []
  else [⟨.error, "dbreverse.generator", "Generation failed: " ++ toString r.files ++ " file(s), " ++
    toString r.written ++ " written, " ++ r.seconds.fixed 3 ++ "s."⟩]

/-- Runs on a catalog that is sound and selected, after some steps. -/
def generateFrom (setup : Setup) (w : WriteSettings) (o : Options) (t : FileTree) (s : Snapshot)
    (steps : List Step) : Running (FileTree × Report) := do
  let m ← modelOf o s
  let rendered := Render.renderPackage m (setup.renderer m o)
  Noted.note rendered.notices
  Noted.note (writeNotices setup.style w t rendered.files)
  let (t, outcome) := writeAll setup.style w t rendered.files
  let written ← Noted.ofExcept (outcome.mapError .output)
  let report := reportOf setup s m rendered written steps
  Noted.note (failureNotices report)
  return (t, report)

/-- The tree that a run on a sound and selected catalog leaves behind, be it that it ends in an error. What
was written before an error stays. -/
def treeFrom (setup : Setup) (w : WriteSettings) (o : Options) (t : FileTree) (s : Snapshot) : FileTree :=
  match buildModel o s with
  | .error _ => t
  | .ok m => (writeAll setup.style w t (Render.renderPackage m (setup.renderer m o)).files).1

/-- Checks and selects the tables of a catalog and runs on it. -/
def generateSnapshot (setup : Setup) (o : Options) (t : FileTree) (s : Snapshot) :
    Running (FileTree × Report) := do
  let w ← Noted.ofExcept (setup.writing o t)
  let prepared ← (s.prepare (some o)).mapError .inconsistent
  generateFrom setup w o t prepared []

/-- The tree that a run on a catalog leaves behind. -/
def treeOfSnapshot (setup : Setup) (o : Options) (t : FileTree) (s : Snapshot) : FileTree :=
  match setup.writing o t, (s.prepare (some o)).outcome with
  | .ok w, .ok prepared => treeFrom setup w o t prepared
  | _, _ => t

/-- The step of reading a catalog. -/
def introspectStep (s : Snapshot) : Step where
  name := "Introspect"
  detail := toString s.tables.length ++ " table(s) from " ++ s.dialect

/-- What reading a source led to, as part of a run. -/
def Introspection.running (i : Introspection) : Running Snapshot :=
  ⟨i.notices, i.result.mapError .introspection⟩

/-- What a run on a source led to, with what it asked of the source. -/
structure SourceRun where
  events : List Event := []
  run : Running (FileTree × Report)

/-- Reads the catalog of a source and runs on it. The source is left alone if the output directory cannot
be spelled out. -/
def generate (setup : Setup) (d : Descriptor) (o : Options) (t : FileTree) (source : Source) :
    SourceRun :=
  match setup.writing o t with
  | .error e => { run := Noted.ofExcept (.error e) }
  | .ok w =>
    let found := introspect d source (some o)
    { events := found.events
      run := do
        let s ← Introspection.running found
        generateFrom setup w o t s [introspectStep s] }

/-- The tree that a run on a source leaves behind. -/
def treeOfSource (setup : Setup) (d : Descriptor) (o : Options) (t : FileTree) (source : Source) : FileTree :=
  match setup.writing o t, (introspect d source (some o)).result with
  | .ok w, .ok s => treeFrom setup w o t s
  | _, _ => t

end SchemaScribe.Generation
