import SchemaScribe.Database.Source
import SchemaScribe.Text.Lowercase

/-!
# Reading the catalog of a source

From the answers of a source to catalog records. Columns keep the order of the database, foreign keys
are put in order by their first column and their name, and tables by their name. Keys that are alike in
both stay in the order in which the database reports them.
-/

namespace SchemaScribe.Database

open SchemaScribe.Document SchemaScribe.Catalog

/-- What the kind of a value does not allow: going through its items, or looking it up in a set. -/
inductive Misuse where
  | iterated (kind : String)
  | hashed (kind : String)
deriving DecidableEq, Repr

/-- The complaint about a misuse. -/
def Misuse.message : Misuse → String
  | .iterated kind => "'" ++ kind ++ "' object is not iterable"
  | .hashed kind => "unhashable type: '" ++ kind ++ "'"

/-- Why an answer could not be read. -/
inductive ReadError where
  | source (fault : SourceFault)
  | malformed (record : Malformed)
  | missingEntry (key : String)
  | notIterable (misuse : Misuse)
  | notMapping (kind : String)
  | closed
deriving DecidableEq, Repr

/-- The complaint about an answer. -/
def ReadError.message : ReadError → String
  | .source fault => fault.message
  | .malformed record => record.message
  | .missingEntry key => Text.literal key
  | .notIterable misuse => misuse.message
  | .notMapping kind => "'" ++ kind ++ "' object has no attribute 'get'"
  | .closed => "IntrospectionSession is not open."

/-- A reading that may fail. -/
abbrev Answer := Except ReadError

/-- An answer of the source. -/
def asked (x : Except SourceFault α) : Answer α := x.mapError .source

/-- A record read from a value. -/
def record (title : String) (reader : Reader α) (entries : List (String × Value)) : Answer α :=
  ((reader (.map (entries.map fun (key, value) => (.text key, value)))).titled title).mapError
    .malformed

/-! ## Parts of answers -/

/-- The items of a value: those of a list, the characters of a text, the keys of a mapping. -/
def itemsOf : Value → Answer (List Value)
  | .list items => .ok items
  | .text s => .ok (s.toList.map fun c => .text (String.singleton c))
  | .scalar (.broken s standIns) =>
    .ok ((standIns.replaced s).toList.map fun c => .text (String.singleton c))
  | .map entries => .ok (entries.map fun entry => .scalar entry.1)
  | value => .error (.notIterable (.iterated value.kindWord))

/-- The value under a key of a mapping, null if there is none. -/
def entryOf (key : String) : Value → Answer Value
  | .map entries => .ok ((entryAt? (.text key) entries).getD .null)
  | value => .error (.notMapping value.kindWord)

/-- The value under a key that must be there. -/
def requiredEntry (key : String) : Value → Answer Value
  | .map entries =>
    match entryAt? (.text key) entries with
    | some value => .ok value
    | none => .error (.missingEntry key)
  | value => .error (.notMapping value.kindWord)

/-- The items of a value, none if it counts as absent. -/
def itemsOrNone (value : Value) : Answer (List Value) := if value.isVoid then .ok [] else itemsOf value

/-! ## Columns -/

/-- How a type is spelled in the catalog. A type that cannot be spelled goes by its name. -/
def typeSpelling : RawType → Answer String
  | .enumeration _ => .ok "enum"
  | .plain _ (.ok spelling) _ _ _ _ => .ok spelling
  | .plain _ (.error fault) name _ _ _ =>
    if fault.kind = .spelling || fault.kind = .unsupported then .ok name else .error (.source fault)

/-- The listed values of a type. -/
def typeValues : RawType → List String
  | .enumeration values => values
  | .plain _ _ _ _ _ _ => []

/-- The length, precision and scale of a type. An enumeration is as long as its longest value. -/
def typeSizes : RawType → Option Int × Option Int × Option Int
  | .enumeration values => (some ((values.map (·.length)).foldl max 0), none, none)
  | .plain _ _ _ length precision scale => (length, precision, scale)

/-- Whether a type is one of whole numbers. -/
def isIntegerType : RawType → Bool
  | .enumeration _ => false
  | .plain isInteger _ _ _ _ _ => isInteger

/-- Whether a list is exactly one value. -/
def isOnly (name : Value) : List Value → Bool
  | [value] => value.same name
  | _ => false

/-- A value that can be looked up in a set. Lists and mappings cannot. -/
def hashed : Value → Answer Value
  | .scalar c => .ok (.scalar c)
  | value => .error (.notIterable (.hashed value.kindWord))

/-- Whether a text is among values. -/
def hasText (values : List Value) : Value → Bool
  | .text s => values.any fun
    | .text t => t = s
    | _ => false
  | _ => false

/-- Whether a word occurs in a text. -/
def occursIn (word : List Char) : List Char → Bool
  | [] => word.isEmpty
  | c :: rest => word.isPrefixOf (c :: rest) || occursIn word rest

/-- Whether a default draws from a sequence. -/
def drawsSequence (default : Value) : Bool :=
  match default with
  | .null => false
  | value => occursIn "nextval(".toList (Text.lower value.shown.toList)

/-- Whether a value is this truth value. -/
def isTruth (b : Bool) : Value → Bool
  | .bool c => c = b
  | _ => false

/-- Whether a column tells by itself that the database generates its values: it says so, or the default
draws from a sequence. -/
def tellsGenerated (reported identity computed default : Value) : Bool :=
  isTruth true reported || !identity.isVoid || !computed.isVoid || drawsSequence default

/-- Whether a column can be taken for a generated one by its place: it is the whole primary key, an integer,
and not reported to be without generated values. -/
def mayBeGenerated (name reported : Value) (type : RawType) (primaryKey : List Value) : Bool :=
  isOnly name primaryKey && isIntegerType type && !isTruth false reported

/-- Whether the database generates the values of a column: it tells so by itself, or it has the place of a
generated column and is no foreign key. -/
def isGenerated (raw : Value) (type : RawType) (primaryKey : List Value) (keyColumns : List String) :
    Answer Bool := do
  let reported ← entryOf "autoincrement" raw
  let identity ← entryOf "identity" raw
  let computed ← entryOf "computed" raw
  let default ← entryOf "default" raw
  if tellsGenerated reported identity computed default then return true
  let name ← requiredEntry "name" raw
  if mayBeGenerated name reported type primaryKey then
    return !hasText (keyColumns.map .text) (← hashed name)
  return false

/-- An optional whole number as a value. -/
def sizeValue : Option Int → Value
  | none => .null
  | some n => .int n

/-- Reads a column. -/
def readColumn (s : Source) (primaryKey : List Value) (keyColumns : List String) (raw : Value) :
    Answer Column := do
  let type := s.typeOf (← requiredEntry "type" raw)
  let spelling ← typeSpelling type
  let default ← entryOf "default" raw
  let name ← requiredEntry "name" raw
  let (length, precision, scale) := typeSizes type
  let nullable ← (match raw.get? "nullable" with
    | some value => .ok (!value.isVoid)
    | none => .ok true : Answer Bool)
  let generated ← isGenerated raw type primaryKey keyColumns
  let comment ← entryOf "comment" raw
  record "ColumnInfo" Column.reader [
    ("name", name), ("data_type", .text spelling), ("enum_values", .texts (typeValues type)),
    ("length", sizeValue length), ("precision", sizeValue precision), ("scale", sizeValue scale),
    ("nullable", .bool (nullable && !hasText primaryKey name)), ("generated", .bool generated),
    ("default", match default with
      | .null => .null
      | value => .text value.shown),
    ("comment", comment)]

/-- Reads the columns of a table in their order. -/
def readColumns (s : Source) (table : String) (primaryKey : List Value) (keyColumns : List String) :
    Answer (List Column) := do
  let raws ← itemsOf (← asked (s.ask .columns table))
  raws.mapM (readColumn s primaryKey keyColumns)

/-! ## Foreign keys -/

/-- The place of a key in order: the place of its first column, then its name. -/
def sortKey (places : List (String × Int)) (k : ForeignKey) : Int × String :=
  ((entryAt? (k.columns.headD "") places).getD places.length, k.name.getD "")

/-- Whether one place comes before another or is the same. -/
def sortsBefore (a b : Int × String) : Bool := a.1 < b.1 || (a.1 = b.1 && a.2 ≤ b.2)

/-- Foreign keys in order. -/
def sortKeys (places : List (String × Int)) (keys : List ForeignKey) : List ForeignKey :=
  keys.mergeSort fun a b => sortsBefore (sortKey places a) (sortKey places b)

/-- Reads a foreign key; one without columns or without a target is passed over. -/
def readKey (table : String) (raw : Value) : Answer (Option ForeignKey) := do
  let columns ← entryOf "constrained_columns" raw
  if columns.isVoid then return none
  let target ← entryOf "referred_table" raw
  if target.isVoid then return none
  let options ← entryOf "options" raw
  let options := if options.isVoid then .map [] else options
  let name ← entryOf "name" raw
  let columns ← itemsOf columns
  let schema ← entryOf "referred_schema" raw
  let referred ← itemsOf (← requiredEntry "referred_columns" raw)
  let onDelete ← entryOf "ondelete" options
  let onUpdate ← entryOf "onupdate" options
  some <$> record "ForeignKeyInfo" ForeignKey.reader [
    ("name", name), ("table", .text table), ("columns", .list columns),
    ("referred_table", target), ("referred_schema", schema),
    ("referred_columns", .list referred), ("on_delete", onDelete), ("on_update", onUpdate)]

/-- Reads the foreign keys of a table and puts them in order. -/
def readKeys (s : Source) (table : String) (places : List (String × Int)) :
    Answer (List ForeignKey) := do
  let raws ← itemsOf (← asked (s.ask .foreignKeys table))
  let keys ← raws.mapM (readKey table)
  return sortKeys places (keys.filterMap id)

/-! ## Indexes and comments -/

/-- Whether a value is null. -/
def isNull : Value → Bool
  | .null => true
  | _ => false

/-- An index record. -/
def indexRecord (name : Value) (columns : List Value) (unique : Bool) : Answer Index :=
  record "IndexInfo" Index.reader
    [("name", name), ("columns", .list columns), ("unique", .bool unique)]

/-- Reads an index; one over expressions is passed over. -/
def readIndex (raw : Value) : Answer (Option Index) := do
  let columns ← itemsOrNone (← entryOf "column_names" raw)
  if columns.isEmpty || columns.any isNull then return none
  let name ← entryOf "name" raw
  let unique ← entryOf "unique" raw
  some <$> indexRecord name columns (!unique.isVoid)

/-- Reads a unique constraint; one without columns is passed over. -/
def readUnique (raw : Value) : Answer (Option Index) := do
  let columns ← entryOf "column_names" raw
  if columns.isVoid then return none
  let name ← entryOf "name" raw
  some <$> indexRecord name (← itemsOf columns) true

/-- An answer, or another value where the database cannot answer the question. -/
def orUnsupported (x : Except SourceFault Value) (value : Value) : Answer Value :=
  match x with
  | .ok answer => .ok answer
  | .error fault => if fault.kind = .unsupported then .ok value else .error (.source fault)

/-- Reads the indexes and unique constraints of a table. -/
def readIndexes (s : Source) (table : String) : Answer (List Index × List Index) := do
  let indexes ← (← itemsOf (← asked (s.ask .indexes table))).mapM readIndex
  let raws ← itemsOf (← orUnsupported (s.ask .uniques table) (.list []))
  let uniques ← raws.mapM readUnique
  return (indexes.filterMap id, uniques.filterMap id)

/-- Reads the comment of a table. -/
def readComment (s : Source) (table : String) : Answer Value := do
  entryOf "text" (← orUnsupported (s.ask .comment table) (.map []))

/-! ## Tables -/

/-- The places of columns by name; of a repeated name the last place counts. -/
def placesOf (columns : List Column) : List (String × Int) :=
  distinctEntries (columns.zipIdx.map fun (c, i) => (c.name, (i : Int)))

/-- The texts among values. -/
def textsAmong (values : List Value) : List String :=
  values.filterMap fun
    | .text s => some s
    | _ => none

/-- The faults in the parts of a table that are not records of their own. -/
def checkTable (name : String) (columns : List Column) (primaryKey : List Value) (comment : Value) :
    Answer Unit :=
  let short : Checked Unit :=
    if columns.isEmpty then (Checked.fail .listTooShort).under (.name "columns") else .ok ()
  let found : Checked Unit := (fun _ _ _ _ => ()) <$>
    (Read.filledText (.text name)).under (.name "name") <*> short <*>
    (Read.list Read.text (.list primaryKey)).under (.name "primary_key") <*>
    (Read.optional Read.text comment).under (.name "comment")
  (found.titled "TableInfo").mapError .malformed

/-- The text of a comment, with the characters in it that stand for lone surrogates. -/
def commentParts (comment : Value) : Option (String × Text.StandIns) :=
  (Read.looseText comment).toOption

/-- A table of parts that are sound. -/
def assemble (name : String) (schema : Option String) (columns : List Column)
    (primaryKey : List Value) (keys : List ForeignKey) (indexes uniques : List Index)
    (comment : Value) : Answer Table := do
  checkTable name columns primaryKey comment
  if h : name ≠ "" ∧ columns ≠ [] then
    return {
      name, schema, columns, primaryKey := textsAmong primaryKey, foreignKeys := keys, indexes,
      uniqueConstraints := uniques
      comment := (commentParts comment).map (·.1)
      standIns := ((commentParts comment).map (·.2)).getD []
      name_ne := h.1, columns_ne := h.2 }
  else .error (.malformed ⟨"TableInfo", []⟩)

/-- Reads a table. -/
def readTable (s : Source) (schema : Option String) (table : String) : Answer Table := do
  let pk ← entryOf "constrained_columns" (← asked (s.ask .primaryKey table))
  let primaryKey ← itemsOrNone pk
  let keys ← readKeys s table []
  let columns ← readColumns s table primaryKey (keys.flatMap (·.columns))
  let (indexes, uniques) ← readIndexes s table
  let comment ← readComment s table
  assemble table schema columns primaryKey (sortKeys (placesOf columns) keys) indexes uniques comment

/-- Reads all tables by name. -/
def readSnapshot (s : Source) (schema : Option String) : Answer Snapshot := do
  let names ← asked s.tableNames
  let tables ← (names.mergeSort fun a b => a ≤ b).mapM (readTable s schema)
  return { tables, dialect := s.dialect, schema }

end SchemaScribe.Database
