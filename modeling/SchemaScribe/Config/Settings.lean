import SchemaScribe.Config.File
import SchemaScribe.Connection.Descriptor
import SchemaScribe.Options

/-!
# Settings

The connection and the options of a run: what a configuration says in its two sections, with the
settings of the command line put over them. A setting that the command line does not give leaves the
file's setting alone.
-/

namespace SchemaScribe.Config

open SchemaScribe.Document SchemaScribe.Connection

/-- Settings by name; null stands for one that is not given. -/
abbrev Overrides := List (String × Value)

/-- Why a configuration gives no settings. -/
inductive SettingsError where
  | notMapping (name : String)
  | connection (record : Malformed)
  | generation (record : Malformed)
deriving DecidableEq, Repr

/-- The complaint about settings. -/
def SettingsError.message : SettingsError → String
  | .notMapping name => "Config section '" ++ name ++ "' must be a mapping."
  | .connection record => "Connection settings are invalid: " ++ record.message
  | .generation record => "Generation settings are invalid: " ++ record.message

/-- The value of a section; one that counts as absent is empty. -/
def sectionValue (raw : Entries) (name : String) : Value :=
  match entryAt? (.text name) raw with
  | some value => if value.isVoid then .map [] else value
  | none => .map []

/-- Whether an override is given. -/
def isGiven : Value → Bool
  | .null => false
  | _ => true

/-- Entries with the given overrides put over them. -/
def overridden (entries : Entries) (overrides : Overrides) : Entries :=
  (overrides.filter fun o => isGiven o.2).foldl
    (fun found (name, value) => setEntry (.text name) value found) entries

/-- The entries of a section under overrides. -/
def sectionEntries (raw : Entries) (name : String) (overrides : Overrides) :
    Except SettingsError Entries :=
  match (sectionValue raw name).entries? with
  | some entries => .ok (overridden entries overrides)
  | none => .error (.notMapping name)

/-- The settings of a configuration under overrides. -/
def settings (raw : Entries) (forConnection forGeneration : Overrides) :
    Except SettingsError (Descriptor × Options) := do
  let connection ← sectionEntries raw "connection" forConnection
  let generation ← sectionEntries raw "generation" forGeneration
  let descriptor ← ((Descriptor.reader (.map connection)).titled Descriptor.title).mapError .connection
  let options ← ((Options.reader (.map generation)).titled Options.title).mapError .generation
  return (descriptor, options)

end SchemaScribe.Config
