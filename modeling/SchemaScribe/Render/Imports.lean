import SchemaScribe.Text.Lines

/-!
# Imports

What a generated module takes from other modules: for each of them a set of names, or the module
itself where no name is given. Imports are collected freely and put in order only when they are printed:
modules by name, and the names of each by name.
-/

namespace SchemaScribe.Render

/-- Modules with names taken from them. A module may be listed more than once. -/
abbrev Imports := List (String × List String)

/-- Names in order, each once. -/
def inOrder (names : List String) : List String := names.eraseDups.mergeSort fun a b => a ≤ b

namespace Imports

/-- The modules of which one is listed. -/
def modules (imports : Imports) : List String := inOrder (imports.map (·.1))

/-- All names that are taken from a module. -/
def namesFrom (imports : Imports) (module : String) : List String :=
  inOrder ((imports.filter (·.1 = module)).flatMap (·.2))

/-- Every module once, with all its names in order. -/
def merged (imports : Imports) : Imports :=
  imports.modules.map fun module => (module, imports.namesFrom module)

/-- All names that are taken from any module. -/
def names (imports : Imports) : List String := imports.flatMap (·.2)

/-- An import statement. -/
def statement : String × List String → String
  | (module, []) => "import " ++ module
  | (module, names) => "from " ++ module ++ " import " ++ ", ".intercalate names

/-- The import statements of merged imports. -/
def block (imports : Imports) : String := Text.unlines (imports.merged.map statement)

/-- Libraries that are neither standard nor part of the generated package. -/
def libraries : List String := ["sqlalchemy", "pydantic"]

/-- Where a module belongs: standard modules first, then libraries, then those of the package. -/
def rank (module : String) : Nat :=
  let s := module.toList
  if s.head? = some '.' then 2
  else if libraries.contains (.ofList (s.takeWhile (· ≠ '.'))) then 1
  else 0

/-- The lines of the import statements by rank, with an empty line after each rank. -/
def groupLines (imports : Imports) : List String :=
  [0, 1, 2].flatMap fun r =>
    match imports.filter fun entry => rank entry.1 = r with
    | [] => []
    | group => [block group, ""]

end Imports

end SchemaScribe.Render
