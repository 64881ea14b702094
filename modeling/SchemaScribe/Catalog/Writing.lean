import SchemaScribe.Catalog.Basic
import SchemaScribe.Document.Value

/-!
# Writing catalog records

Catalog records as document values, under the names by which they are read.
-/

namespace SchemaScribe.Catalog

open SchemaScribe.Document

/-- A size as a value. -/
def sizeOrNull (size : Option Nat) : Value := .intOrNull (size.map Int.ofNat)

/-- A column as a value. -/
def Column.toValue (c : Column) : Value := .record [
  ("name", .text c.name), ("data_type", .text c.dataType), ("enum_values", .texts c.enumValues),
  ("length", sizeOrNull c.length), ("precision", sizeOrNull c.precision),
  ("scale", sizeOrNull c.scale), ("nullable", .bool c.nullable), ("generated", .bool c.generated),
  ("default", .textOrNull c.default), ("comment", .textOrNull c.comment)]

/-- A foreign key as a value. -/
def ForeignKey.toValue (k : ForeignKey) : Value := .record [
  ("name", .textOrNull k.name), ("table", .text k.table), ("columns", .texts k.columns),
  ("referred_table", .text k.referredTable), ("referred_schema", .textOrNull k.referredSchema),
  ("referred_columns", .texts k.referredColumns), ("on_delete", .textOrNull k.onDelete),
  ("on_update", .textOrNull k.onUpdate)]

/-- An index as a value. -/
def Index.toValue (i : Index) : Value := .record [
  ("name", .textOrNull i.name), ("columns", .texts i.columns), ("unique", .bool i.unique)]

/-- A table as a value. -/
def Table.toValue (t : Table) : Value := .record [
  ("name", .text t.name), ("schema_name", .textOrNull t.schema),
  ("columns", .list (t.columns.map Column.toValue)), ("primary_key", .texts t.primaryKey),
  ("foreign_keys", .list (t.foreignKeys.map ForeignKey.toValue)),
  ("indexes", .list (t.indexes.map Index.toValue)),
  ("unique_constraints", .list (t.uniqueConstraints.map Index.toValue)),
  ("comment", .looseTextOrNull t.comment t.standIns)]

/-- A snapshot as a value. -/
def Snapshot.toValue (s : Snapshot) : Value := .record [
  ("tables", .list (s.tables.map Table.toValue)), ("dialect", .text s.dialect),
  ("schema_name", .textOrNull s.schema)]

end SchemaScribe.Catalog
