import SchemaScribe.Listing.Module

/-!
# Described modules

A module of entities that a document describes: under `bases` the declarative bases with their classes,
each with its table and its relations, under `hidden` the names that the module does not show, and under
`constants` names that stand for something else, whatever else they would stand for.
-/

namespace SchemaScribe.Listing

open SchemaScribe.Document

/-- The entries of a value whose keys are texts. -/
def namedEntries : Option Value → List (String × Value)
  | some (.map entries) => entries.filterMap fun (key, value) =>
    match key with
    | .text name => some (name, value)
    | _ => none
  | _ => []

/-- A text, empty for any other value. -/
def textOf : Option Value → String
  | some (.text s) => s
  | _ => ""

/-- A described class. -/
def MappedClass.ofDescription (name : String) (v : Value) : MappedClass where
  name
  table := textOf (v.get? "table")
  relations := (namedEntries (v.get? "relations")).map fun (name, target) =>
    (name, textOf (some target))

/-- A described base. -/
def ClassBase.ofDescription (name : String) (v : Value) : ClassBase where
  name
  classes := (namedEntries (some v)).map fun (name, v) => MappedClass.ofDescription name v

/-- A described module. -/
def EntityModule.ofDescription (v : Value) : EntityModule where
  name := textOf (v.get? "name")
  bases := (namedEntries (v.get? "bases")).map fun (name, v) => ClassBase.ofDescription name v
  hidden := (match v.get? "hidden" with
    | some (.list items) => items.map fun item => textOf (some item)
    | _ => []) ++ (namedEntries (v.get? "constants")).map (·.1)

end SchemaScribe.Listing
