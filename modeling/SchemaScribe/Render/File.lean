import SchemaScribe.Document.Form
import SchemaScribe.Render.Unit

/-!
# Generated files

A file of the generated package before it is written, and the parts of the package whose text does not
depend on the model.
-/

namespace SchemaScribe.Render

open SchemaScribe.Document

/-- What a generated file is for. -/
inductive FileKind where
  | entity
  | input
  | support
deriving DecidableEq, Repr

/-- All kinds. -/
def FileKind.all : List FileKind := [.entity, .input, .support]

/-- The name of a kind. -/
def FileKind.name : FileKind → String
  | .entity => "entity"
  | .input => "input"
  | .support => "support"

/-- The names of the kinds with the kinds. -/
def FileKind.choices : List (String × FileKind) := FileKind.all.map fun k => (k.name, k)

/-- A file of the package. Some characters of its content may stand for lone surrogates, so that no bytes encode
it. -/
structure GeneratedFile where
  path : String
  content : String
  kind : FileKind := .support
  entity : Option String := none
  dependsOn : List String := []
  standIns : Text.StandIns := []
deriving DecidableEq, Repr

/-- Reads a generated file. -/
def GeneratedFile.reader : Reader GeneratedFile :=
  Read.record ["path", "content", "kind", "entity", "depends_on"] fun r =>
    (fun (path : { s : String // s ≠ "" }) content kind entity dependsOn =>
      { path := path.1, content := content.1, kind, entity, dependsOn
        standIns := content.2 : GeneratedFile }) <$>
      Read.field "path" Read.filledText r <*>
      Read.field "content" Read.looseText r <*>
      Read.fieldOr "kind" .support (Read.choice FileKind.choices) r <*>
      Read.fieldOr "entity" none (Read.optional Read.text) r <*>
      Read.fieldOr "depends_on" [] (Read.list Read.text) r

/-- A generated file as a value. -/
def GeneratedFile.toValue (f : GeneratedFile) : Value := .record [
  ("path", .text f.path), ("content", .looseText f.content f.standIns), ("kind", .text f.kind.name),
  ("entity", .textOrNull f.entity), ("depends_on", .texts f.dependsOn)]

/-- The module of the shared bases. -/
def baseModule : String := "base"

/-- The package of the entities. -/
def entitiesPackage : String := "entities"

/-- The package of the input models. -/
def inputsPackage : String := "inputs"

/-- The shared bases as modules in the packages import them. -/
def baseImport : String := ".." ++ baseModule

/-- The path of a module in a package. -/
def modulePath (package file : String) : String := package ++ "/" ++ file ++ ".py"

/-- The lines of the shared bases. -/
def baseLines : List String := [
  "\"\"\"",
  "Shared bases for generated entities and inputs.",
  "Generated by dbreverse; edit only inside the custom region.",
  "\"\"\"",
  "",
  "from __future__ import annotations",
  "",
  "from datetime import date, datetime, time",
  "from typing import NamedTuple, Optional",
  "",
  "from pydantic import BaseModel, ConfigDict",
  "from sqlalchemy.orm import DeclarativeBase, Mapped, mapped_column",
  "",
  "",
  "class FieldSpec(NamedTuple):",
  indent "\"\"\"Static description of one generated field.\"\"\"",
  "",
  indent "name: str",
  indent "scalar: str",
  indent "nullable: bool",
  indent "is_relation: bool = False",
  indent "target: Optional[str] = None",
  "",
  "",
  "def now() -> datetime:",
  indent "return datetime.now()",
  "",
  "",
  "def today() -> date:",
  indent "return date.today()",
  "",
  "",
  "def current_time() -> time:",
  indent "return datetime.now().time()",
  "",
  "",
  "class Base(DeclarativeBase):",
  indent "\"\"\"Declarative base of every generated entity.\"\"\"",
  "",
  indent customBegin,
  indent customEnd,
  "",
  "",
  "class IdentityMixin:",
  indent "\"\"\"Generated integer primary key.\"\"\"",
  "",
  indent "id: Mapped[int] = mapped_column(primary_key=True, autoincrement=True)",
  "",
  "",
  "class BaseInput(BaseModel):",
  indent "\"\"\"Base of every generated input model.\"\"\"",
  "",
  indent "model_config = ConfigDict(from_attributes=True, populate_by_name=True)",
  "",
  indent customBegin,
  indent customEnd,
  ""]

/-- The module of the shared bases as a file. -/
def baseFile : GeneratedFile where
  path := baseModule ++ ".py"
  content := Text.unlines baseLines

/-- A file that makes a directory a package: it imports and exports names. -/
def packageFile (path doc : String) (statements names : List String) : GeneratedFile where
  path
  content := Text.unlines <|
    ["\"\"\"", doc, "\"\"\"", ""] ++
      (if statements.isEmpty then [] else statements ++ [""]) ++
      ["__all__ = ["] ++ names.map (fun name => indent (Text.literal name ++ ",")) ++ ["]", ""]

/-- The file of the package as a whole. -/
def rootFile : GeneratedFile :=
  let exported := ["Base", "BaseInput", "FieldSpec", "IdentityMixin"]
  packageFile "__init__.py" "Generated data model package."
    ["from . import " ++ entitiesPackage ++ ", " ++ inputsPackage,
      "from ." ++ baseModule ++ " import " ++ ", ".intercalate exported]
    (exported ++ [entitiesPackage, inputsPackage])

end SchemaScribe.Render
