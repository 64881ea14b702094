import SchemaScribe.Database.Source

/-!
# Described sources

A source that a document describes: its dialect, its tables with the answers to all questions, and the
failures that asking them or connecting meets.
-/

namespace SchemaScribe.Database

open SchemaScribe.Document

/-- The text under a key, or another. -/
def textAt (v : Value) (key default : String) : String :=
  match v.get? key with
  | some (.text s) => s
  | _ => default

/-- The names of the kinds of failure. -/
def faultKinds : List (String × FaultClass) := [
  ("SQLAlchemyError", .database), ("CompileError", .spelling), ("NoSuchTableError", .noSuchTable),
  ("NotImplementedError", .unsupported), ("ImportError", .missingDriver), ("OSError", .system),
  ("RuntimeError", .crash)]

/-- A described failure. -/
def faultOf (v : Value) : SourceFault where
  kind := (entryAt? (textAt v "kind" "") faultKinds).getD .crash
  message := textAt v "message" ""

/-- The failure under a key, if there is one. -/
def faultAt? (v : Value) (key : String) : Option SourceFault :=
  match v.get? key with
  | some (.map entries) => some (faultOf (.map entries))
  | _ => none

/-- A size, which only an integer is. -/
def sizeAt? (v : Value) (key : String) : Option Int :=
  match v.get? key with
  | some (.int n) => some n
  | _ => none

/-- The texts of a list under a key. -/
def textsAt (v : Value) (key : String) : List String :=
  match v.get? key with
  | some (.list items) => items.filterMap fun
    | .text s => some s
    | _ => none
  | _ => []

/-- A described column type. -/
def typeOfDescription (v : Value) : RawType :=
  match textAt v "kind" "other" with
  | "enum" => .enumeration (textsAt v "enums")
  | kind =>
    let spelling := match faultAt? v "raise" with
      | some fault => .error fault
      | none => .ok (textAt v "spelling" "")
    .plain (kind = "integer") spelling (textAt v "class" "FakeType") (sizeAt? v "length")
      (sizeAt? v "precision") (sizeAt? v "scale")

/-- The keys of the answers and the names of the questions. -/
def questions : List (Question × String × String) := [
  (.columns, "columns", "get_columns"), (.primaryKey, "pk", "get_pk_constraint"),
  (.foreignKeys, "foreign_keys", "get_foreign_keys"), (.indexes, "indexes", "get_indexes"),
  (.uniques, "uniques", "get_unique_constraints"), (.comment, "comment", "get_table_comment")]

/-- The failures of questions under `raise`. -/
def questionFaults (v : Value) : List (Question × SourceFault) :=
  match v.get? "raise" with
  | some found => questions.filterMap fun (q, _, name) => (faultAt? found name).map (q, ·)
  | none => []

/-- A described table. -/
def tableOfDescription (v : Value) : RawTable where
  name := textAt v "name" ""
  answers := questions.filterMap fun (q, key, _) => (v.get? key).map (q, ·)
  faults := questionFaults v

/-- A described source. -/
def Source.ofDescription (v : Value) : Source where
  dialect := textAt v "dialect" "sqlite"
  tables := match v.get? "tables" with
    | some (.list items) => items.map tableOfDescription
    | _ => []
  namesFault := (v.get? "raise").bind (faultAt? · "get_table_names")
  faults := questionFaults v
  createFault := (v.get? "fail").bind (faultAt? · "create_engine")
  connectFault := (v.get? "fail").bind (faultAt? · "connect")
  inspectFault := (v.get? "fail").bind (faultAt? · "inspect")
  typeOf := typeOfDescription

end SchemaScribe.Database
