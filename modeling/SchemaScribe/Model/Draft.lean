import SchemaScribe.Model.Basic
import SchemaScribe.Model.Oddity
import SchemaScribe.Naming.Names

/-!
# Drafts of entities

The first half of an entity: a table with the name of its class, then its columns with the names and
types of their properties. No two drafts share a class name or a module name, and no two columns of a
draft a property name.
-/

namespace SchemaScribe

open SchemaScribe.Catalog

/-- Attribute names that every mapped class has for itself. -/
def reservedAttributes : List String :=
  ["metadata", "registry", "query", "__table__", "__tablename__", "__mapper__"]

/-- A property name that is no reserved attribute. -/
def guardReserved (candidate : String) : String :=
  if reservedAttributes.contains candidate then candidate ++ "_" else candidate

/-! ## Class names -/

/-- A table with the class name of its entity. -/
structure NamedTable where
  table : Table
  entity : String
deriving DecidableEq

/-- What an entity of a name occupies: the name and its two modules. -/
def occupied (o : Options) (name : String) : List String :=
  [name, "file:" ++ fileName name o, "file:" ++ inputFileName name o]

/-- The first name from a candidate on that occupies nothing taken. -/
def freeEntityName (o : Options) (candidate : String) (taken : List String) (limit : Nat) :
    Option String :=
  firstFree candidate (fun name => (occupied o name).all (!taken.contains ·)) limit

/-- Puts a named table among others; one of the same table name is replaced in its place. -/
def putNamed (t : NamedTable) : List NamedTable → List NamedTable
  | [] => [t]
  | u :: rest => if u.table.name = t.table.name then t :: rest else u :: putNamed t rest

/-- Names tables in turn. `taken` is what earlier entities occupy, `named` are the earlier tables. -/
def nameTables (o : Options) (limit : Nat) (taken : List String) (named : List NamedTable) :
    List Table → Building (List NamedTable)
  | [] => pure named
  | t :: rest =>
    let candidate := entityName t.name o
    match freeEntityName o candidate taken limit with
    | none => .fail (.noEntityName t.name)
    | some name => do
      .note (if name = candidate then [] else [.renamed t.name candidate name])
      nameTables o limit (taken ++ occupied o name) (putNamed ⟨t, name⟩ named) rest

/-! ## Columns -/

/-- The columns that identify a row: the primary key, or all columns where there is none. -/
def identity (t : Table) : List String := if t.primaryKey.isEmpty then t.columnNames else t.primaryKey

/-- The named table that a key refers to. -/
def keyTarget? (schema : Option String) (named : List NamedTable) (k : ForeignKey) :
    Option NamedTable :=
  if k.leaves schema then none else named.find? (·.table.name = k.referredTable)

/-- A column of a table as foreign keys spell it. -/
def columnPath (t : Table) (column : String) : String :=
  (match filled? t.schema with
    | some schema => schema ++ "."
    | none => "") ++ t.name ++ "." ++ column

/-- What the first single-column key over a column refers to. -/
def columnTarget? (schema : Option String) (named : List NamedTable) (t : Table)
    (column : String) : Option String :=
  t.distinctKeys.findSome? fun k =>
    match k.columns, k.referredColumns, keyTarget? schema named k with
    | [own], referred :: _, some target =>
      if own = column then some (columnPath target.table referred) else none
    | _, _, _ => none

/-- The type of a column in generated code. Columns of the identity are never null. -/
def columnType? (o : Options) (t : Table) (c : Column) : Option ColumnType :=
  resolveType c.dataType (c.nullable && !(identity t).contains c.name) o.typeOverrides c.enumValues

/-- The columns of a table that have no type in generated code. -/
def unsupportedColumns (o : Options) (t : Table) : List UnsupportedType :=
  t.columns.filterMap fun c =>
    if (columnType? o t c).isNone then some ⟨c.dataType, some t.name, some c.name⟩ else none

/-- A column with its property and type. -/
def entityColumn (t : Table) (c : Column) (property : String) (type : ColumnType)
    (foreignKey : Option String) : EntityColumn where
  name := c.name
  property
  dataType := c.dataType
  type
  length := c.length.map Int.ofNat
  precision := c.precision.map Int.ofNat
  scale := c.scale.map Int.ofNat
  nullable := c.nullable
  generated := c.generated
  primaryKey := (identity t).contains c.name
  unique := t.isUnique [c.name] && identity t ≠ [c.name]
  default := c.default
  comment := c.comment
  foreignKey

/-- Types and names the columns of a table in turn; those without a type are passed over. `taken` are
the properties named before. -/
def nameColumns (o : Options) (schema : Option String) (named : List NamedTable) (t : Table)
    (taken : List String) : List Column → Except BuildError (List EntityColumn)
  | [] => .ok []
  | c :: rest =>
    match columnType? o t c with
    | none => nameColumns o schema named t taken rest
    | some type =>
      match uniqueName (guardReserved (propertyName c.name o)) taken t.columns.length with
      | none => .error (.noPropertyName t.name c.name)
      | some property => do
        let more ← nameColumns o schema named t (taken ++ [property]) rest
        return entityColumn t c property type (columnTarget? schema named t c.name) :: more

/-- A named table with its columns. -/
structure Draft extends NamedTable where
  columns : List EntityColumn
deriving DecidableEq

/-- The property of a column, or the column's name if there is none. -/
def Draft.property (d : Draft) (column : String) : String :=
  ((d.columns.find? (·.name = column)).map (·.property)).getD column

/-- Drafts named tables in turn. -/
def draftTables (o : Options) (schema : Option String) (named : List NamedTable) :
    List NamedTable → Building (List Draft)
  | [] => pure []
  | t :: rest => do
    .note (if t.table.primaryKey.isEmpty then [.keyless t.table.name] else [])
    let columns ← .ofExcept (nameColumns o schema named t.table [] t.table.columns)
    let more ← draftTables o schema named rest
    return { t with columns } :: more

/-- The drafts of named tables, if all their columns have types. -/
def typedDrafts (o : Options) (schema : Option String) (named : List NamedTable) :
    Building (List Draft) := do
  let drafts ← draftTables o schema named named
  match named.flatMap fun t => unsupportedColumns o t.table with
  | [] => return drafts
  | unsupported => .fail (.unsupportedTypes unsupported)

end SchemaScribe
