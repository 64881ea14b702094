import SchemaScribe.Connection.Descriptor
import SchemaScribe.Document.Yaml.Writer
import SchemaScribe.Files.Tree
import SchemaScribe.Project.Names

/-!
# Skeletons of projects

The files of a fresh project and how they are put in place. A folder that is there already is never
touched.
-/

namespace SchemaScribe.Project

open SchemaScribe.Connection SchemaScribe.Document SchemaScribe.Files

/-- The name of the file with the settings of a project. -/
def configName : String := "dbreverse.yaml"

/-- The distribution of the default driver of an engine, if it needs one. -/
def driverPackage? : Engine → Option String
  | .postgresql => some "psycopg2-binary>=2.9.9"
  | .mysql | .mariadb => some "pymysql>=1.1.0"
  | .mssql => some "pyodbc>=5.0.0"
  | .oracle => some "oracledb>=2.0.0"
  | .sqlite => none

/-- The connection of a project for which none is asked: a local server. -/
def defaultConnection (n : Names) : Descriptor where
  engine := .postgresql
  host := some "localhost"
  port := some 5432
  user := some "postgres"
  password := some ""
  database := some n.package
  has_target := Or.inr rfl

/-- Lines as a text that ends a line. -/
def textOfLines (lines : List String) : String := "\n".intercalate (lines ++ [""])

/-- The introduction of a project. -/
def introduction (n : Names) : String := textOfLines [
  "# " ++ n.folder,
  "",
  "## Quick Start",
  "",
  "\x60\x60\x60bash",
  "python -m venv venv",
  "source venv/bin/activate",
  "pip install -e '.[dev]'",
  "",
  "# Edit " ++ configName ++ " with your database settings, then:",
  "dbreverse generate --config " ++ configName,
  "dbreverse list-entities --module " ++ n.package ++ ".models",
  "\x60\x60\x60",
  "",
  "## Project Structure",
  "",
  "\x60\x60\x60",
  n.folder ++ "/",
  "├── " ++ n.package ++ "/",
  "│   ├── __init__.py",
  "│   └── models/            # generated entities and inputs",
  "├── " ++ configName,
  "├── pyproject.toml",
  "└── README.md",
  "\x60\x60\x60",
  "",
  "Code between \x60# <custom>\x60 and \x60# </custom>\x60 markers in generated files survives regeneration."]

/-- The build file of a project. -/
def buildFile (n : Names) (engine : Engine) : String := textOfLines (
  ["[build-system]",
    "requires = [\"setuptools>=68.0\", \"wheel\"]",
    "build-backend = \"setuptools.build_meta\"",
    "",
    "[project]",
    "name = \"" ++ n.folder ++ "\"",
    "version = \"0.1.0\"",
    "requires-python = \">=3.10\"",
    "dependencies = [",
    "    \"sqlalchemy>=2.0.25\",",
    "    \"pydantic>=2.6.0\","] ++
  (driverPackage? engine).toList.map (fun name => "    \"" ++ name ++ "\",") ++
  ["]",
    "",
    "[project.optional-dependencies]",
    "dev = [",
    "    \"dbreverse\",",
    "    \"pytest>=8.0.0\",",
    "]",
    "",
    "[tool.setuptools.packages.find]",
    "include = [\"" ++ n.package ++ "*\"]"])

/-- The files that version control passes over. -/
def ignoreFile : String := textOfLines [
  "# Byte-compiled files",
  "__pycache__/",
  "*.py[cod]",
  "",
  "# Virtual environments",
  "venv/",
  ".venv/",
  "",
  "# Distribution / packaging",
  "dist/",
  "build/",
  "*.egg-info/",
  "",
  "# Testing",
  ".pytest_cache/"]

/-- The options that the settings of a project spell out. -/
def generationSettings (n : Names) : List (String × Scalar) := [
  ("output_dir", .text (n.package ++ "/models")),
  ("entity_case", .text "pascal"),
  ("property_case", .text "snake"),
  ("file_case", .text "snake"),
  ("pluralize", .bool true),
  ("lazy_relations", .bool false),
  ("strict_relations", .bool false)]

/-- The settings of a project. -/
def configFile (n : Names) (d : Descriptor) : String :=
  "# dbreverse settings; CLI flags override these values.\n" ++
    Yaml.writeSections [("connection", d.settings), ("generation", generationSettings n)]

/-- The files of a project in the order in which they are written. -/
def files (n : Names) (d : Descriptor) : List (String × String) := [
  ("README.md", introduction n),
  ("pyproject.toml", buildFile n d.engine),
  (".gitignore", ignoreFile),
  (configName, configFile n d),
  (n.package ++ "/__init__.py", "\"\"\"" ++ n.folder ++ " package.\"\"\"\n"),
  (n.package ++ "/models/__init__.py",
    "\"\"\"Generated models; run \x60dbreverse generate\x60 to populate.\"\"\"\n")]

/-- Why a project was not created. -/
inductive CreateError where
  | badName (request : String)
  | occupied (path : Path)
  | file (fault : FileFault)
deriving DecidableEq, Repr

/-- The complaint about a project that was not created. -/
def CreateError.message : CreateError → String
  | .badName request => "Invalid project name: " ++ Text.literal request
  | .occupied path => "Refusing to overwrite existing path: " ++ path.shown
  | .file fault => fault.message

/-- A created project. -/
structure Created where
  folder : Path
  package : String
  files : List String

/-- Writes texts below a folder until one cannot be written. -/
def writeTexts (t : FileTree) (folder : Path) :
    List (String × String) → FileTree × Except FileFault Unit
  | [] => (t, .ok ())
  | (name, text) :: rest =>
    match t.writeText (folder.join (Path.ofString name)) text with
    | (t, .ok ()) => writeTexts t folder rest
    | failed => failed

/-- The names for a request. -/
def namesOf (request : String) : Except CreateError Names :=
  match Names.ofRequest? request with
  | some n => .ok n
  | none => .error (.badName request)

/-- The folder of a project below a directory, where nothing may stand yet. -/
def folderFor (t : FileTree) (n : Names) (parent : Path) : Except CreateError Path := do
  let above ← (t.resolve parent).mapError .file
  let folder := above.child n.folder
  if ← (t.holds folder).mapError .file then throw (.occupied folder)
  return folder

/-- Creates a project below a directory. -/
def create (t : FileTree) (request : String) (parent : Path) (connection : Option Descriptor) :
    FileTree × Except CreateError Created :=
  match (do
    let n ← namesOf request
    return (n, ← folderFor t n parent) : Except CreateError (Names × Path)) with
  | .error e => (t, .error e)
  | .ok (n, folder) =>
    let contents := files n (connection.getD (defaultConnection n))
    match writeTexts t folder contents with
    | (t, .ok ()) => (t, .ok ⟨folder, n.package, contents.map (·.1)⟩)
    | (t, .error fault) => (t, .error (.file fault))

end SchemaScribe.Project
