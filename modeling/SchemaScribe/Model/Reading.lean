import SchemaScribe.Catalog.Reading
import SchemaScribe.Model.Basic

/-!
# Reading models

The readers of model records from document values, with the names their fields have there.
-/

namespace SchemaScribe

open SchemaScribe.Document SchemaScribe.Catalog

/-- An integer or nothing, nothing if absent. -/
def optionalInteger (name : String) (r : Value) : Checked (Option Int) :=
  Read.fieldOr name none (Read.optional Read.integer) r

/-- A text or nothing, nothing if absent. -/
def optionalText (name : String) (r : Value) : Checked (Option String) :=
  Read.fieldOr name none (Read.optional Read.text) r

/-- A list of texts, empty if absent. -/
def textList (name : String) (r : Value) : Checked (List String) :=
  Read.fieldOr name [] (Read.list Read.text) r

/-- A list of pairs of texts, empty if absent. -/
def pairList (name : String) (r : Value) : Checked (List (String × String)) :=
  Read.fieldOr name [] (Read.list (Read.pair Read.text Read.text)) r

/-- Reads a column type. -/
def ColumnType.reader : Reader ColumnType :=
  Read.record ["scalar", "python_type", "sa_type", "enum_values", "nullable"] fun r =>
    (fun kind hint mapped enumValues nullable =>
      { kind, hint, mapped, enumValues, nullable : ColumnType }) <$>
      Read.field "scalar" (Read.choice ScalarKind.choices) r <*>
      Read.field "python_type" Read.text r <*>
      Read.field "sa_type" Read.text r <*>
      textList "enum_values" r <*>
      Read.fieldOr "nullable" false Read.truth r

/-- Reads a column of an entity. -/
def EntityColumn.reader : Reader EntityColumn :=
  Read.record
    ["name", "property_name", "data_type", "resolved", "length", "precision", "scale", "nullable",
      "generated", "primary_key", "unique", "default", "comment", "foreign_key"]
    fun r =>
      (fun name property dataType type length precision scale nullable generated primaryKey unique
          default comment foreignKey =>
        { name, property, dataType, type, length, precision, scale, nullable, generated,
          primaryKey, unique, default, comment, foreignKey : EntityColumn }) <$>
        Read.field "name" Read.text r <*>
        Read.field "property_name" Read.text r <*>
        Read.field "data_type" Read.text r <*>
        Read.field "resolved" ColumnType.reader r <*>
        optionalInteger "length" r <*>
        optionalInteger "precision" r <*>
        optionalInteger "scale" r <*>
        Read.fieldOr "nullable" true Read.truth r <*>
        Read.fieldOr "generated" false Read.truth r <*>
        Read.fieldOr "primary_key" false Read.truth r <*>
        Read.fieldOr "unique" false Read.truth r <*>
        optionalText "default" r <*>
        optionalText "comment" r <*>
        optionalText "foreign_key" r

/-- What a relation whose join table and kind do not agree is told. -/
def strayJoinTable (entity name : String) : String :=
  "Relation '" ++ entity ++ "." ++ name ++ "': a join table is required for many-to-many " ++
    "relations and forbidden otherwise."

/-- Reads a relation. -/
def Relation.reader : Reader Relation := fun value =>
  (Read.record
    ["name", "kind", "entity", "target", "owning_side", "inverse_name", "constraint_key",
      "nullable", "fk_entity", "fk_properties", "self_referential", "remote_properties",
      "join_table", "join_schema", "join_columns", "inverse_join_columns"]
    (fun r =>
      (fun name kind entity target owning inverseName constraintKey nullable fkEntity fkProperties
          selfReferential remoteProperties joinTable joinSchema joinColumns inverseJoinColumns =>
        if h : joinTable.isSome ↔ kind = RelationKind.manyToMany then
          Checked.ok
            { name, kind, entity, target, owning, inverseName, constraintKey, nullable, fkEntity,
              fkProperties, selfReferential, remoteProperties, joinTable, joinSchema, joinColumns,
              inverseJoinColumns, joined_iff := h : Relation }
        else .fail (.rejected (strayJoinTable entity name))) <$>
        Read.field "name" Read.text r <*>
        Read.field "kind" (Read.choice RelationKind.choices) r <*>
        Read.field "entity" Read.text r <*>
        Read.field "target" Read.text r <*>
        Read.field "owning_side" Read.truth r <*>
        optionalText "inverse_name" r <*>
        Read.field "constraint_key" Read.text r <*>
        Read.fieldOr "nullable" true Read.truth r <*>
        optionalText "fk_entity" r <*>
        textList "fk_properties" r <*>
        Read.fieldOr "self_referential" false Read.truth r <*>
        textList "remote_properties" r <*>
        optionalText "join_table" r <*>
        optionalText "join_schema" r <*>
        pairList "join_columns" r <*>
        pairList "inverse_join_columns" r) value).andThen id

/-- Reads an entity. -/
def Entity.reader : Reader Entity :=
  Read.record
    ["name", "table_name", "schema_name", "file_name", "input_name", "input_file_name", "columns",
      "relations", "primary_key", "composite_foreign_keys", "unique_constraints", "comment"]
    fun r =>
      (fun name table schema fileName inputName inputFileName columns relations primaryKey
          compositeKeys uniqueConstraints comment =>
        { name, table, schema, fileName, inputName, inputFileName, columns, relations, primaryKey,
          compositeKeys, uniqueConstraints, comment := comment.map (·.1)
          standIns := (comment.map (·.2)).getD [] : Entity }) <$>
        Read.field "name" Read.text r <*>
        Read.field "table_name" Read.text r <*>
        optionalText "schema_name" r <*>
        Read.field "file_name" Read.text r <*>
        Read.field "input_name" Read.text r <*>
        Read.field "input_file_name" Read.text r <*>
        Read.field "columns" (Read.list EntityColumn.reader) r <*>
        Read.fieldOr "relations" [] (Read.list Relation.reader) r <*>
        textList "primary_key" r <*>
        Read.fieldOr "composite_foreign_keys" [] (Read.list ForeignKey.reader) r <*>
        Read.fieldOr "unique_constraints" [] (Read.list Index.reader) r <*>
        Read.fieldOr "comment" none (Read.optional Read.looseText) r

/-- Reads a model. -/
def Model.reader : Reader Model :=
  Read.record ["entities", "junction_tables", "warnings"] fun r =>
    (fun entities junctionTables warnings => { entities, junctionTables, warnings : Model }) <$>
      Read.fieldOr "entities" [] (Read.list Entity.reader) r <*>
      textList "junction_tables" r <*>
      textList "warnings" r

end SchemaScribe
