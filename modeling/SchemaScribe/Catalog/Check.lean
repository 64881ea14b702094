import SchemaScribe.Catalog.Basic
import SchemaScribe.Catalog.Finding
import SchemaScribe.Options
import SchemaScribe.Text.Glob

/-!
# Checking catalogs

The checks across tables that a catalog must pass before anything is generated from it: names are
distinct, and keys, indexes and constraints speak of tables and columns that exist. Patterns that
select nothing are pointed out, but never an error.
-/

namespace SchemaScribe.Catalog

open SchemaScribe.Document SchemaScribe.Text

/-- Something wrong or odd in a catalog. -/
inductive Defect where
  | repeatedTable (table : String)
  | repeatedColumn (table column : String)
  | noPrimaryKey (table : String)
  | primaryKeyColumns (table : String) (missing : List String)
  | keyColumns (table : String) (key : ForeignKey) (missing : List String)
  | keyLeaves (table : String) (key : ForeignKey) (schema : String)
  | keyTarget (table : String) (key : ForeignKey)
  | keyTargetColumns (table : String) (key : ForeignKey) (missing : List String)
  | indexColumns (table : String) (index : Index) (missing : List String)
  | uniqueColumns (table : String) (index : Index) (missing : List String)
  | idleInclusion (pattern : String)
  | idleExclusion (pattern : String)

namespace Defect

/-- How grave a defect is. -/
def level : Defect → Level
  | .noPrimaryKey _ | .keyLeaves _ _ _ | .idleInclusion _ => .warning
  | .idleExclusion _ => .info
  | _ => .error

/-- The code of a defect. -/
def code : Defect → String
  | .repeatedTable _ => "DUPLICATE_TABLE_NAME"
  | .repeatedColumn _ _ => "DUPLICATE_COLUMN_NAME"
  | .noPrimaryKey _ => "NO_PRIMARY_KEY"
  | .primaryKeyColumns _ _ => "PK_COLUMN_MISSING"
  | .keyColumns _ _ _ => "FK_COLUMN_MISSING"
  | .keyLeaves _ _ _ => "FK_CROSS_SCHEMA"
  | .keyTarget _ _ => "FK_TARGET_TABLE_MISSING"
  | .keyTargetColumns _ _ _ => "FK_TARGET_COLUMN_MISSING"
  | .indexColumns _ _ _ => "INDEX_COLUMN_MISSING"
  | .uniqueColumns _ _ _ => "UNIQUE_COLUMN_MISSING"
  | .idleInclusion _ => "INCLUDE_PATTERN_UNMATCHED"
  | .idleExclusion _ => "EXCLUDE_PATTERN_UNMATCHED"

/-- How messages speak of a foreign key. -/
def keyLabel (table : String) (k : ForeignKey) : String :=
  let columns := ", ".intercalate k.columns
  let name := match k.name with
    | some n => if n.isEmpty then columns else n
    | none => columns
  "FK '" ++ name ++ "' from '" ++ table ++ "(" ++ columns ++ ")' → '" ++ k.referredTable ++ "(" ++
    ", ".intercalate k.referredColumns ++ ")'"

/-- How messages speak of an index. -/
def indexLabel (table : String) (i : Index) : String :=
  let name := match i.name with
    | some n => if n.isEmpty then "<unnamed>" else n
    | none => "<unnamed>"
  "'" ++ name ++ "' on '" ++ table ++ "'"

/-- The message about a defect. -/
def message : Defect → String
  | .repeatedTable t => "Table '" ++ t ++ "' is reported more than once by the catalog."
  | .repeatedColumn t c => "Column '" ++ c ++ "' appears more than once in table '" ++ t ++ "'."
  | .noPrimaryKey t =>
    "Table '" ++ t ++ "' has no primary key; all of its columns will be used as the mapper identity."
  | .primaryKeyColumns t missing =>
    "Primary key of '" ++ t ++ "' references non-existent column(s): " ++ literalList missing ++ "."
  | .keyColumns t k missing =>
    keyLabel t k ++ ": local column(s) " ++ literalList missing ++ " not found."
  | .keyLeaves t k schema =>
    keyLabel t k ++ ": target lives in schema '" ++ schema ++ "' which was not introspected."
  | .keyTarget t k => keyLabel t k ++ ": table '" ++ k.referredTable ++ "' does not exist."
  | .keyTargetColumns t k missing =>
    keyLabel t k ++ ": column(s) " ++ literalList missing ++ " not found in '" ++ k.referredTable ++
      "'."
  | .indexColumns t i missing | .uniqueColumns t i missing =>
    indexLabel t i ++ " references non-existent column(s): " ++ literalList missing ++ "."
  | .idleInclusion p => "Include pattern '" ++ p ++ "' matches no table."
  | .idleExclusion p => "Exclude pattern '" ++ p ++ "' matches no table."

/-- The context of a foreign key. -/
def keyContext (table : String) (k : ForeignKey) : List (String × Value) := [
  ("table", .text table), ("columns", .texts k.columns), ("referred_table", .text k.referredTable),
  ("referred_columns", .texts k.referredColumns)]

/-- Where a defect lies. -/
def context : Defect → List (String × Value)
  | .repeatedTable t | .noPrimaryKey t | .primaryKeyColumns t _ => [("table", .text t)]
  | .repeatedColumn t c => [("table", .text t), ("column", .text c)]
  | .keyColumns t k _ | .keyLeaves t k _ | .keyTarget t k | .keyTargetColumns t k _ =>
    keyContext t k
  | .indexColumns t i _ | .uniqueColumns t i _ =>
    [("table", .text t), ("index", .textOrNull i.name)]
  | .idleInclusion p | .idleExclusion p => [("pattern", .text p)]

/-- The finding that reports a defect. -/
def finding (d : Defect) : Finding := ⟨d.level, d.code, d.message, d.context⟩

end Defect

/-- The items that have occurred before in a list, at every repetition. -/
def repeated (seen : List String) : List String → List String
  | [] => []
  | x :: rest => if seen.contains x then x :: repeated seen rest else repeated (x :: seen) rest

/-- The names that name no column of a table. -/
def Table.missing (t : Table) (names : List String) : List String :=
  names.filter fun c => (t.column? c).isNone

/-- The defect, if a list of missing names is not empty. -/
def ifAny (missing : List String) (d : List String → Defect) : List Defect :=
  if missing.isEmpty then [] else [d missing]

namespace Snapshot

/-- Table names that are reported again. -/
def checkTableNames (s : Snapshot) : List Defect :=
  (repeated [] s.tableNames).map .repeatedTable

/-- Column names that are reported again within their table. -/
def checkColumns (s : Snapshot) : List Defect :=
  s.tables.flatMap fun t => (repeated [] t.columnNames).map (.repeatedColumn t.name)

/-- Primary keys that are missing or hold unknown columns. -/
def checkPrimaryKeys (s : Snapshot) : List Defect :=
  s.tables.flatMap fun t =>
    if t.primaryKey.isEmpty then [.noPrimaryKey t.name]
    else ifAny (t.missing t.primaryKey) (.primaryKeyColumns t.name)

/-- Foreign keys over unknown columns, or to unknown tables or columns. Keys that leave the schema are
not followed. -/
def checkForeignKeys (s : Snapshot) : List Defect :=
  s.tables.flatMap fun t => t.foreignKeys.flatMap fun k =>
    ifAny (t.missing k.columns) (.keyColumns t.name k) ++
      if k.leaves s.schema then [.keyLeaves t.name k (k.referredSchema.getD "")]
      else
        match s.table? k.referredTable with
        | none => [.keyTarget t.name k]
        | some target =>
          ifAny (target.missing k.referredColumns) (.keyTargetColumns t.name k)

/-- Indexes and unique constraints over unknown columns. -/
def checkIndexes (s : Snapshot) : List Defect :=
  s.tables.flatMap fun t =>
    let unknown := fun (i : Index) => i.columns.filter fun c => !t.columnNames.contains c
    (t.indexes.flatMap fun i => ifAny (unknown i) (.indexColumns t.name i)) ++
      t.uniqueConstraints.flatMap fun i => ifAny (unknown i) (.uniqueColumns t.name i)

/-- Patterns that select no table. -/
def checkOptions (s : Snapshot) (o : Options) : List Defect :=
  let idle := fun (pattern : String) => !s.tableNames.any (globMatches pattern)
  (o.includeTables.filter idle).map .idleInclusion ++
    (o.excludeTables.filter idle).map .idleExclusion

/-- All defects of a catalog, and of the options if there are any. -/
def defects (s : Snapshot) (o : Option Options) : List Defect :=
  s.checkTableNames ++ s.checkColumns ++ s.checkPrimaryKeys ++ s.checkForeignKeys ++
    s.checkIndexes ++ (o.map s.checkOptions).getD []

/-- The findings of all checks. -/
def validate (s : Snapshot) (o : Option Options) : Findings := (s.defects o).map Defect.finding

end Snapshot

/-- What checking leaves in the log: its warnings, and one error if anything is wrong. -/
def Findings.notices (fs : Findings) : List Notice :=
  fs.warnings.map (fun f => ⟨.warning, "dbreverse.validators", f.shown⟩) ++
    if fs.sound then []
    else [⟨.error, "dbreverse.validators", "Catalog validation FAILED. " ++ fs.summary⟩]

end SchemaScribe.Catalog
