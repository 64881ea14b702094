import SchemaScribe.Document.Form

/-!
# Catalogs

What a database reports about a schema: tables with their columns in order, keys, indexes and comments.
Names are never empty, a table has a column, and the two sides of a foreign key are equally long; the
types carry these facts.
-/

namespace SchemaScribe.Catalog

/-- A column as the catalog reports it. -/
structure Column where
  name : String
  dataType : String
  enumValues : List String := []
  length : Option Nat := none
  precision : Option Nat := none
  scale : Option Nat := none
  nullable : Bool := true
  generated : Bool := false
  default : Option String := none
  comment : Option String := none
  name_ne : name ≠ "" := by decide
  dataType_ne : dataType ≠ "" := by decide
deriving DecidableEq, Repr

/-- A foreign key, possibly over several columns, with its column pairs in order. -/
structure ForeignKey where
  name : Option String := none
  table : String
  columns : List String
  referredTable : String
  referredSchema : Option String := none
  referredColumns : List String
  onDelete : Option String := none
  onUpdate : Option String := none
  table_ne : table ≠ "" := by decide
  columns_ne : columns ≠ [] := by decide
  referredTable_ne : referredTable ≠ "" := by decide
  length_eq : columns.length = referredColumns.length := by decide
deriving DecidableEq, Repr

/-- An index or a unique constraint over columns in order. -/
structure Index where
  name : Option String := none
  columns : List String
  unique : Bool := false
  columns_ne : columns ≠ [] := by decide
deriving DecidableEq, Repr

/-- A table. Some characters of its comment may stand for lone surrogates, which a database may report and no
file can hold; those in other texts are not kept apart. -/
structure Table where
  name : String
  schema : Option String := none
  columns : List Column
  primaryKey : List String := []
  foreignKeys : List ForeignKey := []
  indexes : List Index := []
  uniqueConstraints : List Index := []
  comment : Option String := none
  standIns : Text.StandIns := []
  name_ne : name ≠ "" := by decide
  columns_ne : columns ≠ [] := by decide
deriving DecidableEq, Repr

/-- All tables of a schema as one reading saw them. -/
structure Snapshot where
  tables : List Table := []
  dialect : String := "unknown"
  schema : Option String := none
deriving DecidableEq, Repr

/-- The last item of a list that a test accepts. Where a name is given twice the later item counts. -/
def findLast? (test : α → Bool) (items : List α) : Option α := items.reverse.find? test

namespace Column

/-- A column for people. -/
def shown (c : Column) : String :=
  "<Column " ++ c.name ++ " " ++ c.dataType ++ (if c.nullable then " NULL" else " NOT NULL") ++
    (if c.generated then " GENERATED" else "") ++ ">"

end Column

namespace ForeignKey

/-- The column pairs, local column first. -/
def pairs (k : ForeignKey) : List (String × String) := k.columns.zip k.referredColumns

/-- What makes two reports the same key. -/
def signature (k : ForeignKey) : String × List String × String × List String :=
  (k.table, k.columns, k.referredTable, k.referredColumns)

/-- A key for people. -/
def shown (k : ForeignKey) : String :=
  "<FK " ++ k.table ++ "(" ++ ", ".intercalate k.columns ++ ") → " ++ k.referredTable ++ "(" ++
    ", ".intercalate k.referredColumns ++ ")>"

/-- Whether the key leaves the schema that was read. -/
def leaves (k : ForeignKey) (schema : Option String) : Bool :=
  k.referredSchema.isSome && k.referredSchema != schema

end ForeignKey

namespace Table

/-- The name with the schema in front, if there is one. -/
def qualifiedName (t : Table) : String :=
  match t.schema with
  | some s => if s.isEmpty then t.name else s ++ "." ++ t.name
  | none => t.name

/-- The names of the columns. -/
def columnNames (t : Table) : List String := t.columns.map (·.name)

/-- The column of a name. -/
def column? (t : Table) (name : String) : Option Column := findLast? (·.name = name) t.columns

/-- Whether two lists have the same members. -/
def sameMembers (xs ys : List String) : Bool :=
  xs.all ys.contains && ys.all xs.contains

/-- Whether exactly this set of columns is the primary key or under a unique constraint or index. -/
def isUnique (t : Table) (columns : List String) : Bool :=
  (!t.primaryKey.isEmpty && sameMembers t.primaryKey columns) ||
    t.uniqueConstraints.any (sameMembers ·.columns columns) ||
    t.indexes.any fun index => index.unique && sameMembers index.columns columns

/-- A table for people. -/
def shown (t : Table) : String :=
  "<Table " ++ t.qualifiedName ++ " (" ++ toString t.columns.length ++ " cols, " ++
    toString t.foreignKeys.length ++ " FKs)>"

/-- The foreign keys without those that repeat an earlier one. -/
def distinctKeys (t : Table) : List ForeignKey :=
  go [] t.foreignKeys
where
  /-- Keeps the keys whose signature is not among those seen. -/
  go (seen : List (String × List String × String × List String)) : List ForeignKey → List ForeignKey
    | [] => []
    | k :: rest =>
      if seen.contains k.signature then go seen rest else k :: go (k.signature :: seen) rest

end Table

namespace Snapshot

/-- The names of the tables. -/
def tableNames (s : Snapshot) : List String := s.tables.map (·.name)

/-- The table of a name. -/
def table? (s : Snapshot) (name : String) : Option Table := findLast? (·.name = name) s.tables

/-- A snapshot for people. -/
def shown (s : Snapshot) : String :=
  "<SchemaSnapshot " ++ s.dialect ++ ": " ++ toString s.tables.length ++ " tables>"

end Snapshot

end SchemaScribe.Catalog
