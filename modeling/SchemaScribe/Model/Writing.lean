import SchemaScribe.Catalog.Writing
import SchemaScribe.Model.Basic

/-!
# Writing models

Model records as document values, under the names by which they are read. A model also counts its
entities and relations.
-/

namespace SchemaScribe

open SchemaScribe.Document SchemaScribe.Catalog

/-- The fields of a column type with their values. -/
def ColumnType.fields (t : ColumnType) : List (String × Value) := [
  ("scalar", .text t.kind.name), ("python_type", .text t.hint), ("sa_type", .text t.mapped),
  ("enum_values", .texts t.enumValues), ("nullable", .bool t.nullable)]

/-- A column type as a value. -/
def ColumnType.toValue (t : ColumnType) : Value := .record t.fields

/-- A column of an entity as a value. -/
def EntityColumn.toValue (c : EntityColumn) : Value := .record [
  ("name", .text c.name), ("property_name", .text c.property), ("data_type", .text c.dataType),
  ("resolved", c.type.toValue), ("length", .intOrNull c.length),
  ("precision", .intOrNull c.precision), ("scale", .intOrNull c.scale),
  ("nullable", .bool c.nullable), ("generated", .bool c.generated),
  ("primary_key", .bool c.primaryKey), ("unique", .bool c.unique),
  ("default", .textOrNull c.default), ("comment", .textOrNull c.comment),
  ("foreign_key", .textOrNull c.foreignKey)]

/-- A relation as a value. -/
def Relation.toValue (r : Relation) : Value := .record [
  ("name", .text r.name), ("kind", .text r.kind.name), ("entity", .text r.entity),
  ("target", .text r.target), ("owning_side", .bool r.owning),
  ("inverse_name", .textOrNull r.inverseName), ("constraint_key", .text r.constraintKey),
  ("nullable", .bool r.nullable), ("fk_entity", .textOrNull r.fkEntity),
  ("fk_properties", .texts r.fkProperties), ("self_referential", .bool r.selfReferential),
  ("remote_properties", .texts r.remoteProperties), ("join_table", .textOrNull r.joinTable),
  ("join_schema", .textOrNull r.joinSchema), ("join_columns", .textPairs r.joinColumns),
  ("inverse_join_columns", .textPairs r.inverseJoinColumns)]

/-- An entity as a value. -/
def Entity.toValue (e : Entity) : Value := .record [
  ("name", .text e.name), ("table_name", .text e.table), ("schema_name", .textOrNull e.schema),
  ("file_name", .text e.fileName), ("input_name", .text e.inputName),
  ("input_file_name", .text e.inputFileName),
  ("columns", .list (e.columns.map EntityColumn.toValue)),
  ("relations", .list (e.relations.map Relation.toValue)), ("primary_key", .texts e.primaryKey),
  ("composite_foreign_keys", .list (e.compositeKeys.map ForeignKey.toValue)),
  ("unique_constraints", .list (e.uniqueConstraints.map Index.toValue)),
  ("comment", .looseTextOrNull e.comment e.standIns)]

/-- A model as a value. -/
def Model.toValue (m : Model) : Value := .record [
  ("entities", .list (m.entities.map Entity.toValue)), ("junction_tables", .texts m.junctionTables),
  ("warnings", .texts m.warnings), ("entity_count", .int m.entities.length),
  ("relation_count", .int m.relationCount)]

end SchemaScribe
