import SchemaScribe.Render.EntityUnit

/-!
# Input modules

The input model of an entity: a field for each column that is neither generated nor one of the audit
columns, with a default that fits its kind. A field whose name starts with an underscore is given
another name and keeps the property as its alias.
-/

namespace SchemaScribe.Render

/-- Whether a column is a field of the input model. -/
def isInputColumn (o : Options) (c : EntityColumn) : Bool :=
  !c.generated && !o.auditColumns.contains (auditKey c.name)

/-- The function that gives the default of a date or time. -/
def dateFactory? : String → Option String
  | "datetime" => some "now"
  | "date" => some "today"
  | "time" => some "current_time"
  | _ => none

/-- What a field starts as: a value, or what a function gives. -/
inductive FieldDefault where
  | absent
  | value (text : String)
  | factory (function : String)
deriving DecidableEq, Repr

/-- The default of a column's field. -/
def fieldDefault (c : EntityColumn) : FieldDefault :=
  if c.nullable then .value "None"
  else
    match c.type.kind with
    | .string => .value "\"\""
    | .number => .value "0"
    | .boolean => .value "False"
    | .date =>
      match dateFactory? c.type.hint with
      | some function => .factory function
      | none => .absent
    | _ => .absent

/-- Whether the values of a column are listed. -/
def isListed (c : EntityColumn) : Bool := c.type.kind = .enum && !c.type.enumValues.isEmpty

/-- The type hint of a field that is not null. -/
def fieldHint (c : EntityColumn) : Code :=
  if isListed c then .subscript "Literal" (c.type.enumValues.map .literal)
  else .plain c.type.hint

/-- Whether a property needs another name as a field. -/
def isPrivate (property : String) : Bool := property.toList.head? = some '_'

/-- The name of the field of a property. -/
def fieldName (property : String) : String :=
  if isPrivate property then "field" ++ property else property

/-- The arguments that a field's default needs, the alias among them. -/
def fieldArguments (c : EntityColumn) : List Code :=
  let renamed : List Code :=
    if isPrivate c.property then [.named "alias" (.literal c.property)] else []
  match fieldDefault c with
  | .factory function => .named "default_factory" (.plain function) :: renamed
  | .value text => if renamed.isEmpty then [] else .named "default" (.plain text) :: renamed
  | .absent => renamed

/-- The value of a field. -/
def fieldValue (c : EntityColumn) : Option Code :=
  match fieldArguments c, fieldDefault c with
  | [], .value text => some (.plain text)
  | [], _ => none
  | arguments, _ => some (.call "Field" arguments)

/-- The attribute of a column in the input model. -/
def inputFragment (c : EntityColumn) : Fragment where
  name := fieldName c.property
  hint := optionalCode c.nullable (fieldHint c)
  value := fieldValue c
  imports :=
    (if isListed c then [("typing", "Literal")] else hintImports c.type.hint) ++
      (if (fieldArguments c).isEmpty then [] else [("pydantic", "Field")]) ++
      (if c.nullable then [("typing", "Optional")] else []) ++
      match fieldDefault c with
      | .factory function => [(baseImport, function)]
      | _ => []

/-- The columns of the input model. -/
def inputColumns (o : Options) (e : Entity) : List EntityColumn :=
  e.columns.filter (isInputColumn o)

/-- The module of the input model. -/
def inputUnit (o : Options) (e : Entity) : SourceUnit where
  doc := Text.unlines ["Input model for entity ``" ++ e.name ++ "``.", editRule]
  className := e.inputName
  bases := ["BaseInput"]
  imports := [(baseImport, ["BaseInput", "FieldSpec"])]
  fields := (inputColumns o e).map inputFragment
  fieldSpecs := (inputColumns o e).map fun c =>
    fieldSpec c.property c.type.kind.name c.nullable none
  dependsOn := [baseModule]

/-- The module of the input model as a file. -/
def inputFile (o : Options) (e : Entity) : GeneratedFile :=
  let u := inputUnit o e
  { path := modulePath inputsPackage e.inputFileName
    content := u.shown
    kind := .input
    entity := some e.name
    dependsOn := inOrder u.dependsOn }

end SchemaScribe.Render
