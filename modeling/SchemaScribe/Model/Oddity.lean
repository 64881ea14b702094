import SchemaScribe.Catalog.Basic
import SchemaScribe.Naming.Types
import SchemaScribe.Notice

/-!
# Oddities and failures of model building

A model is built from every catalog that passes its checks, with notes on what had to be renamed or
left out, unless a column has no type, a name cannot be found, or relations are strict and one would
have to be left out.
-/

namespace SchemaScribe

open SchemaScribe.Catalog

/-- A foreign key without an entity at its other end. -/
structure DroppedKey where
  table : String
  key : ForeignKey
  outside : Bool
deriving DecidableEq

/-- The remark about a dropped key. -/
def DroppedKey.message (d : DroppedKey) : String :=
  let reason :=
    if d.outside then "schema '" ++ d.key.referredSchema.getD "" ++ "' was not introspected"
    else "table is not part of the model"
  "Relation " ++ d.table ++ "(" ++ ", ".intercalate d.key.columns ++ ") → '" ++
    d.key.referredTable ++ "' dropped: " ++ reason ++ "."

/-- What is odd about a model. -/
inductive Oddity where
  | renamed (table candidate name : String)
  | keyless (table : String)
  | dropped (key : DroppedKey)
deriving DecidableEq

/-- The remark about an oddity. -/
def Oddity.message : Oddity → String
  | .renamed table candidate name =>
    "Table '" ++ table ++ "' maps to entity name '" ++ candidate ++
      "' whose name or module is already taken; using '" ++ name ++ "'."
  | .keyless table =>
    "Table '" ++ table ++ "' has no primary key; every column is mapped as part of the identity."
  | .dropped key => key.message

/-- Why no model could be built. -/
inductive BuildError where
  | unsupportedTypes (columns : List UnsupportedType)
  | noEntityName (table : String)
  | noPropertyName (table column : String)
  | noRelationName (entity candidate : String) (attempts : Nat)
  | droppedKey (key : DroppedKey)
  | noEntity (table : String)
deriving DecidableEq

/-- The complaint about a failure. -/
def BuildError.message : BuildError → String
  | .unsupportedTypes columns => unsupportedTypesMessage columns
  | .noEntityName table => "Cannot derive a unique entity name for table '" ++ table ++ "'."
  | .noPropertyName table column =>
    "Cannot derive a unique property name for column '" ++ table ++ "." ++ column ++ "'."
  | .noRelationName entity candidate attempts =>
    "Cannot derive a unique relation name for '" ++ entity ++ "." ++ candidate ++ "' within " ++
      toString attempts ++ " attempts."
  | .droppedKey key => key.message
  | .noEntity table => Text.literal table

/-- A step of building: it notes oddities and may fail. -/
abbrev Building := Noted Oddity BuildError

end SchemaScribe
