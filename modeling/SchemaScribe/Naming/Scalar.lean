import SchemaScribe.Document.Value

/-!
# Scalar kinds

The kinds of value that a column can hold in generated code.
-/

namespace SchemaScribe

/-- A kind of column value. -/
inductive ScalarKind where
  | string
  | number
  | boolean
  | date
  | enum
  | json
  | buffer
deriving DecidableEq, Repr

namespace ScalarKind

/-- All kinds. -/
def all : List ScalarKind := [.string, .number, .boolean, .date, .enum, .json, .buffer]

/-- The name of a kind. -/
def name : ScalarKind → String
  | .string => "string"
  | .number => "number"
  | .boolean => "boolean"
  | .date => "date"
  | .enum => "enum"
  | .json => "json"
  | .buffer => "buffer"

/-- The names of the kinds with the kinds. -/
def choices : List (String × ScalarKind) := all.map fun k => (k.name, k)

/-- The kind of a name. -/
def named? (name : String) : Option ScalarKind := (choices.find? (·.1 = name)).map (·.2)

/-- The complaint about a value that names no kind. -/
def unknownMessage (value : Document.Value) : String := value.inner ++ " is not a valid ScalarType"

end ScalarKind

end SchemaScribe
