import SchemaScribe.CommandLine.Arguments
import SchemaScribe.Config.Settings
import SchemaScribe.Naming.Scalar

/-!
# Commands

The three commands with their flags, and what a command line asks for: a command with its settings and
how much it is to tell. Settings that no flag gives stay null, so they leave those of a file alone.
-/

namespace SchemaScribe.CommandLine

open SchemaScribe.Document SchemaScribe.Config
open SchemaScribe.Connection (Engine)

/-! ## Grammars -/

/-- The name of the program. -/
def programName : String := "dbreverse"

/-- The version of the program. -/
def versionLine : String := "dbreverse v0.1.0"

/-- The flag for help. -/
def helpFlag : Flag := ⟨["-h", "--help"], "help", .help⟩

/-- The flags that say how much to tell. -/
def tellingFlags : List Flag := [
  ⟨["-v", "--verbose"], "verbose", .count⟩,
  ⟨["-q", "--quiet"], "quiet", .constant (.bool true)⟩]

/-- The flag for a configuration file. -/
def configFlag : Flag := ⟨["-c", "--config"], "config", .text⟩

/-- The flags of a connection; their fields are those of a descriptor. -/
def connectionFlags : List Flag := [
  ⟨["--url"], "url", .text⟩,
  ⟨["--engine"], "engine", .choice (Engine.all.map Engine.name)⟩,
  ⟨["--driver"], "driver", .text⟩,
  ⟨["--host"], "host", .text⟩,
  ⟨["--port"], "port", .integer⟩,
  ⟨["--username"], "username", .text⟩,
  ⟨["--password"], "password", .text⟩,
  ⟨["--database"], "database", .text⟩,
  ⟨["--schema"], "schema_name", .text⟩,
  ⟨["--connect-timeout"], "connect_timeout", .integer⟩]

/-- A choice among the styles of casing. -/
def styleChoice : FlagKind := .choice (CaseStyle.all.map CaseStyle.name)

/-- The flags of the options but for the type overrides; their fields are those of the options. -/
def optionFlags : List Flag := [
  ⟨["-o", "--output"], "output_dir", .text⟩,
  ⟨["--entity-case"], "entity_case", styleChoice⟩,
  ⟨["--property-case"], "property_case", styleChoice⟩,
  ⟨["--file-case"], "file_case", styleChoice⟩,
  ⟨["--no-pluralize"], "pluralize", .constant (.bool false)⟩,
  ⟨["--input-suffix"], "input_suffix", .text⟩]

/-- The flag that maps a database type. -/
def typeFlag : Flag := ⟨["--type-override"], "types", .collect⟩

/-- The flags of the options behind the type overrides. -/
def furtherOptionFlags : List Flag := [
  ⟨["--lazy-relations"], "lazy_relations", .constant (.bool true)⟩,
  ⟨["--strict-relations"], "strict_relations", .constant (.bool true)⟩,
  ⟨["--tables"], "include_tables", .several⟩,
  ⟨["--exclude"], "exclude_tables", .several⟩,
  ⟨["--concurrency"], "concurrency", .integer⟩,
  ⟨["--line-length"], "line_length", .integer⟩,
  ⟨["--no-format"], "format_output", .constant (.bool false)⟩]

/-- The grammar in front of the commands. -/
def mainGrammar : Grammar where
  program := programName
  flags := [helpFlag, ⟨["--version"], "version", .version⟩]
  positional := some ⟨"COMMAND", true⟩

/-- The grammar of generating. -/
def generateGrammar : Grammar where
  program := programName ++ " generate"
  flags := [helpFlag, configFlag] ++ connectionFlags ++ optionFlags ++ [typeFlag] ++
    furtherOptionFlags ++ [⟨["--dry-run"], "dry_run", .constant (.bool true)⟩] ++ tellingFlags

/-- The grammar of listing entities. -/
def listGrammar : Grammar where
  program := programName ++ " list-entities"
  flags := [helpFlag, configFlag] ++ connectionFlags ++
    [⟨["--module"], "module", .text⟩, ⟨["--path"], "path", .text⟩] ++ tellingFlags

/-- The grammar of creating a project. -/
def newGrammar : Grammar where
  program := programName ++ " new"
  flags := [helpFlag, ⟨["-d", "--directory"], "directory", .text⟩] ++ connectionFlags ++ tellingFlags
  positional := some ⟨"name", false⟩

/-- The commands with their grammars. -/
def grammars : List (String × Grammar) :=
  [("generate", generateGrammar), ("list-entities", listGrammar), ("new", newGrammar)]

/-! ## Commands -/

/-- The text that a flag was given. Two dashes attached to a flag leave it without one. -/
inductive FlagText where
  | absent
  | empty
  | given (text : String)
deriving DecidableEq, Repr

/-- What a command line asks for. -/
inductive Command where
  | generate (config : FlagText) (connection options : Overrides) (types : List FlagText)
      (dryRun : Bool)
  | list (config : FlagText) (connection : Overrides)
  | listModule (name path : FlagText)
  | new (name : String) (directory : FlagText) (connection : Overrides)

/-- A command with its name and how much it is to tell. -/
structure Invocation where
  name : String
  command : Command
  verbosity : Int := 0
  quiet : Bool := false

/-- A value as the text of a flag. -/
def FlagText.ofValue : Value → FlagText
  | .null => .absent
  | .text s => .given s
  | _ => .empty

/-- A text field. -/
def textField (fields : Fields) (name : String) : FlagText := .ofValue (fields.at name)

/-- Whether a field is set to true. -/
def truthField (fields : Fields) (name : String) : Bool :=
  match fields.at name with
  | .bool b => b
  | _ => false

/-- The texts that a field has collected. -/
def textsField (fields : Fields) (name : String) : List FlagText :=
  (collected (fields.at name)).map .ofValue

/-- The settings that flags give. -/
def overridesOf (flags : List Flag) (fields : Fields) : Overrides :=
  flags.map fun f => (f.field, fields.at f.field)

/-- The command of a name with its fields and positional words. -/
def commandOf (name : String) (fields : Fields) (words : List String) : Command :=
  let config := textField fields "config"
  let connection := overridesOf connectionFlags fields
  match name with
  | "generate" =>
    .generate config connection (overridesOf (optionFlags ++ furtherOptionFlags) fields)
      (textsField fields "types") (truthField fields "dry_run")
  | "new" => .new ((words.erase "--").headD "") (textField fields "directory") connection
  | _ =>
    match textField fields "module" with
    | .absent => .list config connection
    | module => .listModule module (textField fields "path")

/-- What a command line asks for. -/
def invocationOf (words : List String) : Except Stop Invocation := do
  let main ← mainGrammar.read [] words
  let usage := fun (e : UsageError) => Stop.usage programName e
  match main.positional with
  | some (name :: rest) =>
    match entryAt? name grammars with
    | none => .error (usage (.notChoice "COMMAND" name (grammars.map (·.1))))
    | some g =>
      let own ← g.read [] rest
      let leftOver := main.leftOver ++ own.leftOver
      if leftOver.isEmpty then
        return {
          name
          command := commandOf name own.fields (own.positional.getD [])
          verbosity := counted (own.fields.at "verbose")
          quiet := truthField own.fields "quiet" }
      else .error (usage (.unrecognized leftOver))
  | _ => .error (usage (.required "COMMAND"))

/-! ## Type overrides -/

/-- The database type and the scalar kind that an override names: both sides of the first equals sign,
trimmed, the kind in small letters. -/
def readTypeOverride (item : String) : Option (String × String) :=
  match splitEquals item.toList with
  | (_, none) => none
  | (type, some kind) =>
    let type := Text.trim type
    let kind := Text.trim kind
    if type.isEmpty || kind.isEmpty then none else some (.ofList type, .ofList (Text.lower kind))

/-- Why items are no type overrides. -/
inductive TypeOverrideError where
  | unreadable (item : String)
  | empty
deriving DecidableEq, Repr

/-- The complaint about type overrides. -/
def TypeOverrideError.message : TypeOverrideError → String
  | .unreadable item => "Invalid --type-override '" ++ item ++ "'; expected DBTYPE=SCALAR."
  | .empty => "'list' object has no attribute 'partition'"

/-- The override that an item names. -/
def typeOverrideOf : FlagText → Except TypeOverrideError (String × String)
  | .given item =>
    match readTypeOverride item with
    | some entry => .ok entry
    | none => .error (.unreadable item)
  | _ => .error .empty

/-- The type overrides that items name; of a repeated type the last counts. Answers what is wrong with the
first item that names none. -/
def readTypeOverrides (items : List FlagText) :
    Except TypeOverrideError (List (String × String)) :=
  (items.mapM typeOverrideOf).map distinctEntries

/-- The type overrides of a configuration with those of the command line put over them, if it has any. -/
def typeOverridesUnder (raw : Entries) (found : List (String × String)) : Overrides :=
  if found.isEmpty then []
  else
    let current := match (sectionValue raw "generation").get? "type_overrides" with
      | some (.map entries) => entries
      | _ => []
    [("type_overrides", .map (found.foldl
      (fun entries (type, kind) => setEntry (.text type) (.text kind) entries) current))]

end SchemaScribe.CommandLine
