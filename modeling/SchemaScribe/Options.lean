import SchemaScribe.Document.Form
import SchemaScribe.Naming.Scalar
import SchemaScribe.Text.Lowercase

/-!
# Generation options

The settings of one generation run. They are read once and never change.
-/

namespace SchemaScribe

open SchemaScribe.Document

/-- A style of casing. -/
inductive CaseStyle where
  | preserve
  | camel
  | pascal
  | snake
deriving DecidableEq, Repr

namespace CaseStyle

/-- All styles. -/
def all : List CaseStyle := [.preserve, .camel, .pascal, .snake]

/-- The name of a style. -/
def name : CaseStyle → String
  | .preserve => "preserve"
  | .camel => "camel"
  | .pascal => "pascal"
  | .snake => "snake"

/-- The names of the styles with the styles. -/
def choices : List (String × CaseStyle) := all.map fun c => (c.name, c)

end CaseStyle

/-- Identity and audit columns that input models leave out, in small letters without underscores. -/
def defaultAuditColumns : List String := [
  "id", "created", "updated", "deleted", "createdat", "updatedat", "deletedat", "createdon",
  "updatedon", "deletedon", "isdeleted"]

/-- The settings of a generation run. -/
structure Options where
  entityCase : CaseStyle := .pascal
  propertyCase : CaseStyle := .snake
  fileCase : CaseStyle := .snake
  pluralize : Bool := true
  inputSuffix : String := "Input"
  typeOverrides : List (String × ScalarKind) := []
  lazyRelations : Bool := false
  strictRelations : Bool := false
  includeTables : List String := []
  excludeTables : List String := []
  auditColumns : List String := defaultAuditColumns
  outputDir : String := "./generated"
  formatOutput : Bool := true
  lineLength : Nat := 88
  concurrency : Nat := 4
deriving DecidableEq, Repr

/-- The key under which a database type is overridden: trimmed, in small letters. -/
def overrideKey (name : String) : String := .ofList (Text.lower (Text.trim name.toList))

/-- The spelling by which audit columns are compared: small letters without underscores. -/
def auditKey (name : String) : String :=
  .ofList ((Text.lower name.toList).filter (· ≠ '_'))

/-- Overrides under their keys; of two that fall together the later one counts. -/
def normalOverrides (found : List (String × ScalarKind)) : List (String × ScalarKind) :=
  distinctEntries (found.map fun (name, kind) => (overrideKey name, kind))

namespace Options

/-- The kind of record that messages name. -/
def title : String := "GenerationOptions"

/-- The fields of the options as configurations name them. -/
def fields : List String := [
  "entity_case", "property_case", "file_case", "pluralize", "input_suffix", "type_overrides",
  "lazy_relations", "strict_relations", "include_tables", "exclude_tables", "audit_columns",
  "output_dir", "format_output", "line_length", "concurrency"]

/-- Reads the options. -/
def reader : Reader Options :=
  Read.record fields fun r =>
    (fun entityCase propertyCase fileCase pluralize inputSuffix typeOverrides lazyRelations
        strictRelations includeTables excludeTables auditColumns outputDir formatOutput lineLength
        concurrency =>
      { entityCase, propertyCase, fileCase, pluralize, inputSuffix, typeOverrides, lazyRelations,
        strictRelations, includeTables, excludeTables, auditColumns, outputDir, formatOutput,
        lineLength, concurrency : Options }) <$>
      Read.fieldOr "entity_case" .pascal (Read.choice CaseStyle.choices) r <*>
      Read.fieldOr "property_case" .snake (Read.choice CaseStyle.choices) r <*>
      Read.fieldOr "file_case" .snake (Read.choice CaseStyle.choices) r <*>
      Read.fieldOr "pluralize" true Read.truth r <*>
      Read.fieldOr "input_suffix" "Input" (fun v => (Read.filledText v).map (·.1)) r <*>
      Read.fieldOr "type_overrides" []
        (fun v => (Read.mapping (Read.choice ScalarKind.choices) v).map normalOverrides) r <*>
      Read.fieldOr "lazy_relations" false Read.truth r <*>
      Read.fieldOr "strict_relations" false Read.truth r <*>
      Read.fieldOr "include_tables" [] (Read.list Read.text) r <*>
      Read.fieldOr "exclude_tables" [] (Read.list Read.text) r <*>
      Read.fieldOr "audit_columns" defaultAuditColumns
        (fun v => (Read.list Read.text v).map (·.map auditKey)) r <*>
      Read.fieldOr "output_dir" "./generated" (fun v => (Read.filledText v).map (·.1)) r <*>
      Read.fieldOr "format_output" true Read.truth r <*>
      Read.fieldOr "line_length" 88 (Read.boundedInteger 40 (some 200)) r <*>
      Read.fieldOr "concurrency" 4 (Read.boundedInteger 1 (some 64)) r

/-- The fields with their values, as configurations would give them. -/
def toValue (o : Options) : Value := .record [
  ("entity_case", .text o.entityCase.name),
  ("property_case", .text o.propertyCase.name),
  ("file_case", .text o.fileCase.name),
  ("pluralize", .bool o.pluralize),
  ("input_suffix", .text o.inputSuffix),
  ("type_overrides", .textRecord (o.typeOverrides.map fun (n, k) => (n, k.name))),
  ("lazy_relations", .bool o.lazyRelations),
  ("strict_relations", .bool o.strictRelations),
  ("include_tables", .texts o.includeTables),
  ("exclude_tables", .texts o.excludeTables),
  ("audit_columns", .texts o.auditColumns),
  ("output_dir", .text o.outputDir),
  ("format_output", .bool o.formatOutput),
  ("line_length", .int o.lineLength),
  ("concurrency", .int o.concurrency)]

end Options

end SchemaScribe
