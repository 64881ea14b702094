import SchemaScribe.Catalog.Basic

/-!
# Junction tables

A **junction** is a table that only joins two others: its columns are its primary key, and the key
splits into the columns of two foreign keys. It becomes a many-to-many relation instead of an entity.
A table that others refer to, or that refers to tables outside the catalog, is no junction.
-/

namespace SchemaScribe

open SchemaScribe.Catalog

/-- A junction table with its two keys. -/
structure Junction where
  table : Table
  first : ForeignKey
  second : ForeignKey
deriving DecidableEq

/-- Whether two keys split the columns of a table, which are its primary key. -/
def splitsKey (t : Table) (first second : ForeignKey) : Bool :=
  let both := first.columns ++ second.columns
  !t.primaryKey.isEmpty && !first.columns.any second.columns.contains &&
    Table.sameMembers both t.primaryKey && Table.sameMembers t.columnNames t.primaryKey

/-- Whether the table a key refers to is in the catalog. -/
def isResolved (s : Snapshot) (k : ForeignKey) : Bool :=
  !k.leaves s.schema && (s.table? k.referredTable).isSome

/-- Whether another table refers to a table. -/
def isReferred (s : Snapshot) (t : Table) : Bool :=
  s.tables.any fun other => other.name ≠ t.name &&
    other.foreignKeys.any fun k => k.referredTable = t.name && !k.leaves s.schema

/-- A table as a junction, if it is one. -/
def junction? (s : Snapshot) (t : Table) : Option Junction :=
  match t.distinctKeys with
  | [first, second] =>
    if splitsKey t first second && isResolved s first && isResolved s second && !isReferred s t then
      some ⟨t, first, second⟩
    else none
  | _ => none

/-- The junctions of a catalog. -/
def junctions (s : Snapshot) : List Junction := s.tables.filterMap (junction? s)

/-- The tables that become entities: those whose name is not the name of a junction. -/
def entityTables (s : Snapshot) : List Table :=
  s.tables.filter fun t => !((junctions s).map (·.table.name)).contains t.name

end SchemaScribe
