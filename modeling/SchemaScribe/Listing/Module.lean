import SchemaScribe.Document.Value
import SchemaScribe.Listing.Table

/-!
# Modules of entities

A module holds declarative bases with the classes mapped under them. A base can be listed if the module
shows it or one of its classes. All bases of all modules have to be sound before any of them is listed:
a relation may lead only to a class of its own base.
-/

namespace SchemaScribe.Listing

open SchemaScribe.Document (entryAt? setEntry)

/-- A class that is mapped to a table. -/
structure MappedClass where
  name : String
  table : String
  relations : List (String × String) := []
deriving DecidableEq, Repr

/-- A declarative base with its classes. -/
structure ClassBase where
  name : String
  classes : List MappedClass := []
deriving DecidableEq, Repr

/-- A module: its bases, and the names it does not show. -/
structure EntityModule where
  name : String
  bases : List ClassBase := []
  hidden : List String := []
deriving DecidableEq, Repr

/-- Why the entities of a module cannot be listed. -/
inductive ModuleError where
  | noName
  | relativeName (name : String)
  | missing (name reason : String)
  | noBase (name : String)
  | inconsistent (name : String)
deriving DecidableEq, Repr

/-- The complaint about a module. -/
def ModuleError.message : ModuleError → String
  | .noName => "Empty module name"
  | .relativeName name =>
    "the 'package' argument is required to perform a relative import for " ++ Text.literal name
  | .missing name reason => "Cannot import module '" ++ name ++ "': " ++ reason
  | .noBase name => "Module '" ++ name ++ "' exposes no SQLAlchemy declarative base."
  | .inconsistent name => "Mappers of '" ++ name ++ "' are inconsistent"

/-- What a module shows, by name: which base each name belongs to. Of a repeated name the last meaning
counts, in the first place. -/
def EntityModule.shownNames (m : EntityModule) : List (String × String) :=
  let all := m.bases.flatMap fun b =>
    (b.name :: b.classes.map (·.name)).map fun name => (name, b.name)
  (all.filter fun entry => !m.hidden.contains entry.1).foldl
    (fun found (name, base) => setEntry name base found) []

/-- The bases that a module shows, in the order in which their names come up. -/
def EntityModule.shownBases (m : EntityModule) : List ClassBase :=
  (m.shownNames.map (·.2)).eraseDups.filterMap fun name => m.bases.find? (·.name = name)

/-- Whether all relations of a base lead to its own classes. -/
def ClassBase.isSound (b : ClassBase) : Bool :=
  b.classes.all fun c => c.relations.all fun r => b.classes.any (·.name = r.2)

/-- The row of a class: its related classes in order, each once, and not itself. -/
def MappedClass.row (c : MappedClass) : Row where
  name := c.name
  table := c.table
  related := (((c.relations.map (·.2)).filter (· ≠ c.name)).eraseDups).mergeSort fun a b => a ≤ b

/-- The dotted names that lead to a name, the shortest first. -/
def enclosing (name : String) : List String :=
  let parts := (name.toList.splitOn '.').map String.ofList
  (List.range parts.length).map fun i => ".".intercalate (parts.take (i + 1))

/-- Why a name cannot be found: the first of its enclosing names that is not there, and what that lies
in, if anything. A name that is there itself needs none of the others. -/
def missingReason (modules : List EntityModule) (name : String) : Option String :=
  let known := fun (n : String) => modules.any (·.name = n)
  let path := enclosing name
  let start := (path.reverse.find? known).getD ""
  match path.find? fun n => start.length < n.length with
  | none => none
  | some lost =>
    some ("No module named " ++ Text.literal lost ++
      if start.isEmpty then "" else "; " ++ Text.literal start ++ " is not a package")

/-- The rows of a module, by the names of the classes. -/
def rowsOfModule (modules : List EntityModule) (name : String) : Except ModuleError (List Row) :=
  if name.toList.head? = some '.' then .error (.relativeName name)
  else if name.isEmpty then .error .noName
  else
    match modules.find? (·.name = name) with
    | none => .error (.missing name ((missingReason modules name).getD ""))
    | some m =>
      if m.shownBases.isEmpty then .error (.noBase name)
      else if !modules.all (·.bases.all ClassBase.isSound) then .error (.inconsistent name)
      else .ok ((m.shownBases.flatMap fun b => b.classes.map MappedClass.row).mergeSort
        fun a b => a.name ≤ b.name)

end SchemaScribe.Listing
