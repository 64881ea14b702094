import SchemaScribe.CommandLine.Command
import SchemaScribe.Generation.Run
import SchemaScribe.Listing.Module
import SchemaScribe.Project.Skeleton

/-!
# Running commands

A command line runs in a **world**: files, a database, modules of entities, and the way entities are
rendered and laid out. It ends with an exit code, or with a failure that no code stands for, and leaves
output, complaints, notices and a changed tree of files.
-/

namespace SchemaScribe.CommandLine

open SchemaScribe.Config SchemaScribe.Connection SchemaScribe.Database SchemaScribe.Document
open SchemaScribe.Files SchemaScribe.Generation SchemaScribe.Listing

/-- What a command line can reach. -/
structure World where
  tree : FileTree
  source : Source
  modules : List EntityModule := []
  setup : Setup := {}

/-! ## Failures -/

/-- What the text of a flag is needed for. -/
inductive TextUse where
  | path
  | moduleName
deriving DecidableEq, Repr

/-- The complaint about a flag without a text. -/
def TextUse.message : TextUse → String
  | .path => "expected str, bytes or os.PathLike object, not list"
  | .moduleName => "'list' object has no attribute 'startswith'"

/-- Why a command failed. -/
inductive CommandError where
  | config (error : FileError)
  | noText (use : TextUse)
  | place (fault : FileFault)
  | typeOverride (error : TypeOverrideError)
  | settings (error : SettingsError)
  | connection (record : Malformed)
  | run (error : RunError)
  | module (error : ModuleError)
  | project (error : Project.CreateError)

/-- The complaint about a command. -/
def CommandError.message : CommandError → String
  | .config error => error.message
  | .noText use => use.message
  | .place fault => fault.message
  | .typeOverride error => error.message
  | .settings error => error.message
  | .connection record => record.message
  | .run error => error.message
  | .module error => error.message
  | .project error => error.message

/-- The exit code for a failure of a kind; failures of the system count as bad input. -/
def faultCode? (fault : SourceFault) : Option Nat := if fault.kind = .system then some 5 else none

/-- The exit code for a session that could not be opened. -/
def openCode? : OpenError → Option Nat
  | .badUrl .unreadable | .unreachable _ _ => some 1
  | .badUrl _ => some 5
  | .uncaught fault => faultCode? fault

/-- The exit code for a catalog that could not be read. -/
def introspectCode? : IntrospectError → Option Nat
  | .opening error => openCode? error
  | .malformed _ | .unreadable _ | .inconsistent _ => some 2
  | .uncaught (.source fault) => faultCode? fault
  | .uncaught _ => none

/-- The exit code for a failure: 1 for the connection, 2 for the catalog, 3 for the model, 5 for the
input. Some failures have none and end the program as they are. -/
def CommandError.code? : CommandError → Option Nat
  | .run (.introspection error) => introspectCode? error
  | .run (.inconsistent _) => some 2
  | .run (.model (.noEntity _)) => none
  | .run (.model _) => some 3
  | .config (.flawed _ flaw) => if flaw.isReported then some 5 else none
  | .module (.relativeName _) | .noText _ | .typeOverride .empty => none
  | .module (.inconsistent _) => some 3
  | _ => some 5

/-! ## Outcomes -/

/-- What a command led to: the files, its events and notices, and its output or failure. The flag tells
whether all went well. -/
structure Done where
  tree : FileTree
  events : List Event := []
  notices : List Notice := []
  result : Except CommandError (String × Bool)

/-- The path that a flag gives. -/
def pathOf? : FlagText → Except CommandError (Option Path)
  | .absent => .ok none
  | .given text => .ok (some (Path.ofString text))
  | .empty => .error (.noText .path)

/-- The configuration file of a command, if it names one. -/
def configEntries (t : FileTree) (config : FlagText) : Except CommandError Entries := do
  match ← pathOf? config with
  | none => return []
  | some path => (load t (← (t.resolve path).mapError .place)).mapError .config

/-- The settings of a generation. -/
def generateSettings (t : FileTree) (config : FlagText) (connection options : Overrides)
    (types : List FlagText) : Except CommandError (Descriptor × Options) := do
  let raw ← configEntries t config
  let found ← (readTypeOverrides types).mapError .typeOverride
  (settings raw connection (options ++ typeOverridesUnder raw found)).mapError .settings

/-- The settings of a listing. -/
def listSettings (t : FileTree) (config : FlagText) (connection : Overrides) :
    Except CommandError (Descriptor × Options) := do
  let raw ← configEntries t config
  (settings raw connection []).mapError .settings

/-- Generates a package. -/
def runGenerate (w : World) (d : Descriptor) (o : Options) (dryRun : Bool) : Done :=
  let setup := { w.setup with dryRun }
  let { events, run } := generate setup d o w.tree w.source
  match run.outcome with
  | .ok (tree, report) =>
    { tree, events, notices := run.notes, result := .ok (report.summary, report.success) }
  | .error error =>
    { tree := treeOfSource setup d o w.tree w.source, events, notices := run.notes
      result := .error (.run error) }

/-- Lists the entities of a database. -/
def runList (w : World) (d : Descriptor) (o : Options) : Done :=
  let introspection := introspect d w.source (some o)
  let run : Running Model := Introspection.running introspection >>= modelOf o
  { tree := w.tree, events := introspection.events, notices := run.notes
    result := (run.outcome.map fun m => (listing (rowsOf m), true)).mapError .run }

/-- Lists the entities of a module. The directory to look in must at least be one. -/
def listModule (w : World) (name path : FlagText) : Except CommandError String := do
  let _ ← (← pathOf? path).mapM fun p => (w.tree.resolve p).mapError .place
  match name with
  | .given name => ((rowsOfModule w.modules name).map listing).mapError .module
  | _ => .error (.noText .moduleName)

/-- The connection that a new project is asked to have. The database goes by the package. -/
def requestedConnection (request : String) (connection : Overrides) :
    Except CommandError (Option Descriptor) := do
  let given := connection.filter fun o => isGiven o.2
  if given.isEmpty then return none
  else
    let n ← (Project.namesOf request).mapError .project
    let given := if (entryAt? "database" given).isSome then given
      else given ++ [("database", .text n.package)]
    let fields : Entries := given.map fun (name, value) => (.text name, value)
    some <$> ((Descriptor.reader (.map fields)).titled Descriptor.title).mapError .connection

/-- The lines about a created project. -/
def createdText (c : Project.Created) : String :=
  "\n".intercalate (("Created " ++ c.folder.shown) :: c.files.map ("  " ++ ·))

/-- Creates a project. -/
def runNew (w : World) (name : String) (directory : FlagText) (connection : Overrides) : Done :=
  match (do
    let connection ← requestedConnection name connection
    return (connection, (← pathOf? directory).getD {}) : Except CommandError _) with
  | .error error => { tree := w.tree, result := .error error }
  | .ok (connection, directory) =>
    let (tree, created) := Project.create w.tree name directory connection
    { tree, result := (created.map fun c => (createdText c, true)).mapError .project }

/-- Runs a command. -/
def runCommand (w : World) : Command → Done
  | .generate config connection options types dryRun =>
    match generateSettings w.tree config connection options types with
    | .ok (d, o) => runGenerate w d o dryRun
    | .error error => { tree := w.tree, result := .error error }
  | .list config connection =>
    match listSettings w.tree config connection with
    | .ok (d, o) => runList w d o
    | .error error => { tree := w.tree, result := .error error }
  | .listModule name path =>
    { tree := w.tree, result := (listModule w name path).map fun text => (text, true) }
  | .new name directory connection => runNew w name directory connection

/-! ## Command lines -/

/-- How much the log tells. -/
inductive LogLevel where
  | warning
  | info
  | debug
deriving DecidableEq, Repr

/-- The word for a level. -/
def LogLevel.word : LogLevel → String
  | .warning => "WARNING"
  | .info => "INFO"
  | .debug => "DEBUG"

/-- The level of the log that an invocation asks for. -/
def Invocation.level (i : Invocation) : LogLevel :=
  if i.quiet then .warning
  else if 2 ≤ i.verbosity then .debug
  else if 1 ≤ i.verbosity then .info else .warning

/-- What a command line led to. The level is absent if no log was set up. -/
structure Outcome where
  tree : FileTree
  exit : Except CommandError Nat := .ok 0
  output : String := ""
  complaint : String := ""
  failure : Option CommandError := none
  level : Option LogLevel := none
  notices : List Notice := []
  events : List Event := []

/-- The line of the log about a command that failed. -/
def failedNotice (name : String) (code : Nat) : List Notice :=
  if code = 0 then []
  else [⟨.error, "dbreverse", name ++ " failed with exit code " ++ toString code ++ "."⟩]

/-- The outcome of an invocation, given what its command led to. A quiet invocation leaves nothing in
the log. -/
def outcomeOf (i : Invocation) (d : Done) : Outcome :=
  let telling := fun (notices : List Notice) => if i.quiet then [] else notices
  let base : Outcome :=
    { tree := d.tree, level := some i.level, events := d.events, notices := telling d.notices }
  match d.result with
  | .ok (text, success) =>
    let code := if success then 0 else 4
    { base with
      exit := .ok code, output := text ++ "\n"
      notices := telling (d.notices ++ failedNotice i.name code) }
  | .error error =>
    match error.code? with
    | some code =>
      { base with
        exit := .ok code, complaint := "error: " ++ error.message ++ "\n", failure := some error
        notices := telling (d.notices ++ failedNotice i.name code) }
    | none => { base with exit := .error error }

/-- A short account of the commands. -/
def helpText (program : String) : String :=
  "usage: " ++ program ++ if program = programName then
    " [-h] [--version] COMMAND ...\n\ncommands: " ++ ", ".intercalate (grammars.map (·.1)) ++ "\n"
  else " [-h] ...\n"

/-- The outcome of a command line that asks for no command. -/
def stopOutcome (t : FileTree) : Stop → Outcome
  | .usage program error =>
    { tree := t, exit := .ok 5, complaint := program ++ ": error: " ++ error.message ++ "\n" }
  | .help program => { tree := t, output := helpText program }
  | .version => { tree := t, output := versionLine ++ "\n" }

/-- Runs a command line. -/
def run (w : World) (words : List String) : Outcome :=
  match invocationOf words with
  | .error stop => stopOutcome w.tree stop
  | .ok i => outcomeOf i (runCommand w i.command)

end SchemaScribe.CommandLine
