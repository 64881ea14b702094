import SchemaScribe.Catalog.Basic

/-!
# Reading catalog records

The readers of catalog records from document values, with the names their fields have there.
-/

namespace SchemaScribe.Catalog

open SchemaScribe.Document

/-- What a foreign key whose sides differ in length is told. -/
def unpairedKey (name : Option String) (table : String) (columns referred : List String) : String :=
  let label := match name with
    | some n => if n.isEmpty then Text.literalTuple columns else n
    | none => Text.literalTuple columns
  "Foreign key " ++ label ++ " on '" ++ table ++ "' has " ++ toString columns.length ++
    " local but " ++ toString referred.length ++ " referenced columns."

/-- Reads a column. -/
def Column.reader : Reader Column :=
  Read.record
    ["name", "data_type", "enum_values", "length", "precision", "scale", "nullable", "generated",
      "default", "comment"]
    fun r =>
      (fun (name : { s : String // s ≠ "" }) (dataType : { s : String // s ≠ "" }) enumValues
          length precision scale nullable generated default comment =>
        { name := name.1, dataType := dataType.1, enumValues, length, precision, scale, nullable,
          generated, default, comment, name_ne := name.2, dataType_ne := dataType.2 }) <$>
        Read.field "name" Read.filledText r <*>
        Read.field "data_type" Read.filledText r <*>
        Read.fieldOr "enum_values" [] (Read.list Read.text) r <*>
        Read.fieldOr "length" none (Read.optional (Read.boundedInteger 0 none)) r <*>
        Read.fieldOr "precision" none (Read.optional (Read.boundedInteger 0 none)) r <*>
        Read.fieldOr "scale" none (Read.optional (Read.boundedInteger 0 none)) r <*>
        Read.fieldOr "nullable" true Read.truth r <*>
        Read.fieldOr "generated" false Read.truth r <*>
        Read.fieldOr "default" none (Read.optional Read.text) r <*>
        Read.fieldOr "comment" none (Read.optional Read.text) r

/-- Reads a foreign key. -/
def ForeignKey.reader : Reader ForeignKey := fun value =>
  (Read.record
    ["name", "table", "columns", "referred_table", "referred_schema", "referred_columns",
      "on_delete", "on_update"]
    (fun r =>
      (fun name (table : { s : String // s ≠ "" }) (columns : { xs : List String // xs ≠ [] })
          (target : { s : String // s ≠ "" }) schema (referred : { xs : List String // xs ≠ [] })
          onDelete onUpdate =>
        if h : columns.1.length = referred.1.length then
          Checked.ok
            { name, table := table.1, columns := columns.1, referredTable := target.1,
              referredSchema := schema, referredColumns := referred.1, onDelete, onUpdate,
              table_ne := table.2, columns_ne := columns.2, referredTable_ne := target.2,
              length_eq := h : ForeignKey }
        else .fail (.rejected (unpairedKey name table.1 columns.1 referred.1))) <$>
        Read.fieldOr "name" none (Read.optional Read.text) r <*>
        Read.field "table" Read.filledText r <*>
        Read.field "columns" (Read.filledList Read.text) r <*>
        Read.field "referred_table" Read.filledText r <*>
        Read.fieldOr "referred_schema" none (Read.optional Read.text) r <*>
        Read.field "referred_columns" (Read.filledList Read.text) r <*>
        Read.fieldOr "on_delete" none (Read.optional Read.text) r <*>
        Read.fieldOr "on_update" none (Read.optional Read.text) r) value).andThen id

/-- Reads an index. -/
def Index.reader : Reader Index :=
  Read.record ["name", "columns", "unique"] fun r =>
    (fun name (columns : { xs : List String // xs ≠ [] }) unique =>
      { name, columns := columns.1, unique, columns_ne := columns.2 }) <$>
      Read.fieldOr "name" none (Read.optional Read.text) r <*>
      Read.field "columns" (Read.filledList Read.text) r <*>
      Read.fieldOr "unique" false Read.truth r

/-- Reads a table. -/
def Table.reader : Reader Table :=
  Read.record
    ["name", "schema_name", "columns", "primary_key", "foreign_keys", "indexes",
      "unique_constraints", "comment"]
    fun r =>
      (fun (name : { s : String // s ≠ "" }) schema (columns : { xs : List Column // xs ≠ [] })
          primaryKey foreignKeys indexes uniqueConstraints comment =>
        { name := name.1, schema, columns := columns.1, primaryKey, foreignKeys, indexes,
          uniqueConstraints, comment := comment.map (·.1), standIns := (comment.map (·.2)).getD []
          name_ne := name.2, columns_ne := columns.2 }) <$>
        Read.field "name" Read.filledText r <*>
        Read.fieldOr "schema_name" none (Read.optional Read.text) r <*>
        Read.field "columns" (Read.filledList Column.reader) r <*>
        Read.fieldOr "primary_key" [] (Read.list Read.text) r <*>
        Read.fieldOr "foreign_keys" [] (Read.list ForeignKey.reader) r <*>
        Read.fieldOr "indexes" [] (Read.list Index.reader) r <*>
        Read.fieldOr "unique_constraints" [] (Read.list Index.reader) r <*>
        Read.fieldOr "comment" none (Read.optional Read.looseText) r

/-- Reads a snapshot. -/
def Snapshot.reader : Reader Snapshot :=
  Read.record ["tables", "dialect", "schema_name"] fun r =>
    (fun tables dialect schema => { tables, dialect, schema }) <$>
      Read.fieldOr "tables" [] (Read.list Table.reader) r <*>
      Read.fieldOr "dialect" "unknown" Read.text r <*>
      Read.fieldOr "schema_name" none (Read.optional Read.text) r

end SchemaScribe.Catalog
