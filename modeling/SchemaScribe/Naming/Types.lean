import SchemaScribe.Options
import SchemaScribe.Text.Lowercase

/-!
# Types of columns

From the type a database reports to the type that generated code gives a column. The reported spelling
is reduced to a key (parameters, modifiers and time zone phrases are decoration), which a table maps.
Overrides come first, then enumerated values, then the table.
-/

namespace SchemaScribe

open SchemaScribe.Text SchemaScribe.Document

/-- The type of a column in generated code: its kind, the type hint of its values and the type of the
mapped column. -/
structure ColumnType where
  kind : ScalarKind
  hint : String
  mapped : String
  enumValues : List String := []
  nullable : Bool := false
deriving DecidableEq, Repr

/-- The type hint with its nullability. -/
def ColumnType.fullHint (t : ColumnType) : String :=
  if t.nullable then "Optional[" ++ t.hint ++ "]" else t.hint

/-- A type of the table: its kind, type hint and mapped type. -/
structure TypeEntry where
  kind : ScalarKind
  hint : String
  mapped : String
deriving DecidableEq, Repr

namespace TypeEntry

/-- Whole numbers. -/
def integer : TypeEntry := ⟨.number, "int", "Integer"⟩

/-- Large whole numbers. -/
def bigInteger : TypeEntry := ⟨.number, "int", "BigInteger"⟩

/-- Small whole numbers. -/
def smallInteger : TypeEntry := ⟨.number, "int", "SmallInteger"⟩

/-- Exact decimals. -/
def numeric : TypeEntry := ⟨.number, "Decimal", "Numeric"⟩

/-- Floating-point numbers. -/
def float : TypeEntry := ⟨.number, "float", "Float"⟩

/-- Truth values. -/
def boolean : TypeEntry := ⟨.boolean, "bool", "Boolean"⟩

/-- Texts of bounded length. -/
def string : TypeEntry := ⟨.string, "str", "String"⟩

/-- Texts of any length. -/
def text : TypeEntry := ⟨.string, "str", "Text"⟩

/-- Days. -/
def date : TypeEntry := ⟨.date, "date", "Date"⟩

/-- Points in time. -/
def datetime : TypeEntry := ⟨.date, "datetime", "DateTime"⟩

/-- Times of day. -/
def time : TypeEntry := ⟨.date, "time", "Time"⟩

/-- Documents. -/
def json : TypeEntry := ⟨.json, "Any", "JSON"⟩

/-- Bytes. -/
def binary : TypeEntry := ⟨.buffer, "bytes", "LargeBinary"⟩

end TypeEntry

/-- The types that databases report, by their keys. -/
def typeTable : List (TypeEntry × List String) := [
  (.integer, ["int", "integer", "int4", "mediumint", "serial", "serial4"]),
  (.smallInteger, ["tinyint", "smallint", "int2", "smallserial", "serial2", "year"]),
  (.bigInteger, ["bigint", "int8", "bigserial", "serial8"]),
  (.numeric, ["numeric", "decimal", "number", "money", "smallmoney", "dec", "fixed"]),
  (.float, ["float", "float4", "float8", "real", "double", "double precision", "binary_float",
    "binary_double"]),
  (.boolean, ["bool", "boolean", "bit"]),
  (.string, ["varchar", "character varying", "char", "character", "bpchar", "nchar", "nvarchar",
    "national character varying", "varchar2", "nvarchar2", "varying character", "uuid",
    "uniqueidentifier", "inet", "cidr", "macaddr", "citext", "set", "rowid"]),
  (.text, ["text", "tinytext", "mediumtext", "longtext", "ntext", "clob", "nclob", "xml",
    "tsvector"]),
  (.date, ["date"]),
  (.datetime, ["datetime", "datetime2", "smalldatetime", "datetimeoffset", "timestamp",
    "timestamptz"]),
  (.time, ["time", "timetz"]),
  (.json, ["json", "jsonb"]),
  (.binary, ["blob", "tinyblob", "mediumblob", "longblob", "bytea", "binary", "varbinary", "image",
    "raw", "long raw"])]

/-- The entry of the table for a key. -/
def typeUnder? (key : String) : Option TypeEntry :=
  (typeTable.find? fun (_, keys) => keys.contains key).map (·.1)

/-- The type that an override to a kind gives. -/
def kindDefault : ScalarKind → String × String
  | .string => ("str", "String")
  | .number => ("float", "Float")
  | .boolean => ("bool", "Boolean")
  | .date => ("datetime", "DateTime")
  | .enum => ("str", "Enum")
  | .json => ("Any", "JSON")
  | .buffer => ("bytes", "LargeBinary")

/-- Removes everything between an opening parenthesis and the next closing one. An opening parenthesis
that is never closed stays. -/
def withoutParameters (s : List Char) : List Char :=
  match s with
  | [] => []
  | c :: rest =>
    if c = '(' then
      match _h : rest.dropWhile (· ≠ ')') with
      | _ :: after => withoutParameters after
      | [] => c :: rest
    else c :: withoutParameters rest
termination_by s.length
decreasing_by
  · have := (List.dropWhile_suffix (l := rest) (fun c => decide (c ≠ ')'))).length_le
    rw [_h] at this
    simp only [List.length_cons] at this ⊢
    omega
  · simp_wf

/-- The words of a text, which blanks separate. -/
def blankWords (s : List Char) : List (List Char) :=
  (s.splitOnP isBlank).filter (!·.isEmpty)

/-- Phrases about time zones that a type name may end in. -/
def zonePhrases : List (List (List Char)) :=
  ["with time zone", "without time zone", "with local time zone"].map fun p => p.toList.splitOn ' '

/-- Drops a phrase at the end if words are left before it. -/
def dropPhrase (words phrase : List (List Char)) : List (List Char) :=
  if phrase.isSuffixOf words && phrase.length < words.length then
    words.take (words.length - phrase.length)
  else words

/-- Words that say nothing about the kind of a type. -/
def typeModifiers : List (List Char) := ["unsigned", "zerofill", "signed"].map String.toList

/-- The key of a reported type. -/
def typeKey (databaseType : String) : String :=
  let words := blankWords (withoutParameters (lower databaseType.toList))
  let words := (zonePhrases.foldl dropPhrase words).filter (!typeModifiers.contains ·)
  .ofList ([' '].intercalate words)

/-- The override for a reported type: by its spelling, else by its key. -/
def override? (overrides : List (String × ScalarKind)) (databaseType : String) :
    Option ScalarKind :=
  match entryAt? (overrideKey databaseType) overrides with
  | some kind => some kind
  | none => entryAt? (typeKey databaseType) overrides

/-- The type in generated code of a reported type, if there is one. -/
def resolveType (databaseType : String) (nullable : Bool)
    (overrides : List (String × ScalarKind)) (enumValues : List String) : Option ColumnType :=
  match override? overrides databaseType with
  | some kind =>
    let (hint, mapped) := kindDefault kind
    some {
      kind, hint, nullable
      mapped := if kind = .enum && enumValues.isEmpty then "String" else mapped
      enumValues := if kind = .enum then enumValues else [] }
  | none =>
    if !enumValues.isEmpty then
      some { kind := .enum, hint := "str", mapped := "Enum", enumValues, nullable }
    else
      (typeUnder? (typeKey databaseType)).map fun entry =>
        { kind := entry.kind, hint := entry.hint, mapped := entry.mapped, nullable }

/-- A column whose type has no counterpart in generated code. -/
structure UnsupportedType where
  databaseType : String
  table : Option String := none
  column : Option String := none
deriving DecidableEq, Repr

/-- A name that is there and not empty. -/
def filled? (name : Option String) : Option String := name.filter (!·.isEmpty)

/-- The complaint about an unsupported type. -/
def UnsupportedType.message (e : UnsupportedType) : String :=
  let place := match filled? e.table, filled? e.column with
    | some table, some column => " (" ++ table ++ "." ++ column ++ ")"
    | _, _ => ""
  "Unsupported database type '" ++ e.databaseType ++ "'" ++ place ++
    "; add a type override to map it."

/-- The complaint about all unsupported types of a run. -/
def unsupportedTypesMessage (errors : List UnsupportedType) : String :=
  let names := (errors.map fun e => (filled? e.table).getD "?").eraseDups.mergeSort fun a b => a ≤ b
  let headline := toString errors.length ++ " column(s) in " ++ toString names.length ++
    " table(s) have unsupported types: " ++ ", ".intercalate names
  "\n".intercalate (headline :: errors.map fun e => "  - " ++ e.message)

end SchemaScribe
