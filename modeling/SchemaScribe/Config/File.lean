import SchemaScribe.Document.Json
import SchemaScribe.Document.Yaml.Reader
import SchemaScribe.Files.Tree
import SchemaScribe.Text.Lowercase

/-!
# Configuration files

A configuration file holds one mapping, as JSON if its name ends so and as YAML otherwise. An empty
document is an empty mapping.
-/

namespace SchemaScribe.Config

open SchemaScribe.Document SchemaScribe.Files

/-- The entries of a configuration. -/
abbrev Entries := List (Scalar × Value)

/-- Why a configuration file could not be read. -/
inductive FileError where
  | missing (path : Path)
  | notFile (path : Path)
  | unreadable (fault : ReadFault)
  | flawed (path : Path) (flaw : Flaw)
  | notMapping (path : Path) (kind : String)
deriving DecidableEq, Repr

/-- The complaint about a configuration file. -/
def FileError.message : FileError → String
  | .missing path => "Config file not found: " ++ path.shown
  | .notFile path => "Config path is not a file: " ++ path.shown
  | .unreadable fault => fault.message
  | .flawed path .malformed => "Invalid config file " ++ path.shown
  | .flawed _ flaw => flaw.message
  | .notMapping path kind =>
    "Expected a mapping at top level of " ++ path.shown ++ ", got " ++ kind ++ "."

/-- Whether the name of a file says that it holds JSON. -/
def holdsJson (path : Path) : Bool := Text.lower path.ending.toList = ".json".toList

/-- The document that a text holds. -/
def parse (path : Path) (text : String) : Except Flaw Value :=
  if holdsJson path then Json.read text.toList else Yaml.read text.toList

/-- The entries of a document. -/
def entriesOf (path : Path) : Value → Except FileError Entries
  | .null => .ok []
  | .map entries => .ok entries
  | value => .error (.notMapping path value.kindWord)

/-- Reads a configuration file. -/
def load (t : FileTree) (path : Path) : Except FileError Entries :=
  do
    if !(← (t.holds path).mapError fun fault => .unreadable (.file fault)) then throw (.missing path)
    if !t.isFile path then throw (.notFile path)
    let text ← (t.readText path).mapError .unreadable
    entriesOf path (← (parse path text).mapError (.flawed path))

end SchemaScribe.Config
