import SchemaScribe.Render.Code
import SchemaScribe.Render.Imports

/-!
# Source units

A generated module with one class. Its parts are put together as text in one place, `SourceUnit.shown`;
what it imports is worked out from what its parts need.
-/

namespace SchemaScribe.Render

/-- One step of indentation. -/
def indent (line : String) : String := "    " ++ line

/-- The line that opens a custom region. -/
def customBegin : String := "# <custom>"

/-- The line that closes a custom region. -/
def customEnd : String := "# </custom>"

/-- An attribute of a class with the names it needs, each under its module. -/
structure Fragment where
  name : String
  hint : Code
  value : Option Code := none
  imports : List (String × String) := []

namespace Fragment

/-- The line of an attribute. -/
def shown (f : Fragment) : String :=
  f.name ++ ": " ++ f.hint.shown ++
    match f.value with
    | none => ""
    | some value => " = " ++ value.shown

/-- The imports of an attribute. -/
def importList (f : Fragment) : Imports := f.imports.map fun (module, name) => (module, [name])

end Fragment

/-- A module with one class. -/
structure SourceUnit where
  doc : String
  className : String
  bases : List String
  imports : Imports := []
  typeImports : Imports := []
  prelude : List String := []
  classAttributes : List String := []
  fields : List Fragment := []
  relations : List Fragment := []
  fieldSpecs : List Code := []
  dependsOn : List String := []

namespace SourceUnit

/-- Everything that the module imports when it runs. -/
def allImports (u : SourceUnit) : Imports :=
  (u.imports ++ (u.fields ++ u.relations).flatMap Fragment.importList ++
    (if u.typeImports.isEmpty then [] else [("typing", ["TYPE_CHECKING"])]) ++
    (if u.fieldSpecs.isEmpty then [] else [("typing", ["ClassVar", "Tuple"])])).merged

/-- The lines of the imports that only type checkers follow. -/
def typeImportLines (u : SourceUnit) : List String :=
  if u.typeImports.isEmpty then []
  else
    "if TYPE_CHECKING:" ::
      (Text.splitLines u.typeImports.block.toList).map (fun line => indent (.ofList line)) ++ [""]

/-- The lines of the description of the fields. -/
def fieldSpecLines (u : SourceUnit) : List String :=
  if u.fieldSpecs.isEmpty then []
  else
    "__field_specs__: ClassVar[Tuple[FieldSpec, ...]] = (" ::
      u.fieldSpecs.map (fun spec => indent (spec.shown ++ ",")) ++ [")"]

/-- Puts sections one after another with an empty line between those that hold something. -/
def joinSections (sections : List (List String)) : List String :=
  [""].intercalate (sections.filter (!·.isEmpty))

/-- The lines of the class body; the custom region comes last. -/
def bodyLines (u : SourceUnit) : List String :=
  joinSections [
    u.classAttributes, u.fields.map Fragment.shown, u.relations.map Fragment.shown,
    u.fieldSpecLines, [customBegin, customEnd]]

/-- The lines of the module. -/
def lines (u : SourceUnit) : List String :=
  ["\"\"\"", u.doc, "\"\"\"", "", "from __future__ import annotations", ""] ++
    u.allImports.groupLines ++ u.typeImportLines ++
    (if u.prelude.isEmpty then [] else "" :: u.prelude) ++
    ["", "", "class " ++ u.className ++ "(" ++ ", ".intercalate u.bases ++ "):"] ++
    u.bodyLines.map (fun line => if line.isEmpty then "" else indent line) ++ [""]

/-- The text of the module. -/
def shown (u : SourceUnit) : String := Text.unlines u.lines

end SourceUnit

end SchemaScribe.Render
