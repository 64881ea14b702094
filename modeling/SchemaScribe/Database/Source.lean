import SchemaScribe.Catalog.Reading

/-!
# Sources

What a database answers when it is asked about a schema. The answers are document values of any shape,
and every question, like every step of opening a connection, may fail.
-/

namespace SchemaScribe.Database

open SchemaScribe.Document

/-- The kinds of failure of a database or its driver. -/
inductive FaultClass where
  | database
  | spelling
  | noSuchTable
  | unsupported
  | missingDriver
  | system
  | crash
deriving DecidableEq, Repr

/-- Whether a failure is one of the database layer itself. -/
def FaultClass.isDatabase : FaultClass → Bool
  | .database | .spelling | .noSuchTable => true
  | _ => false

/-- A failure with its message. -/
structure SourceFault where
  kind : FaultClass
  message : String := ""
deriving DecidableEq, Repr

/-- A reported column type: an enumeration, or a type with a spelling and its attributes. -/
inductive RawType where
  | enumeration (values : List String)
  | plain (isInteger : Bool) (spelling : Except SourceFault String) (name : String)
      (length precision scale : Option Int)

/-- The questions about a table. -/
inductive Question where
  | columns
  | primaryKey
  | foreignKeys
  | indexes
  | uniques
  | comment
deriving DecidableEq, Repr

/-- What is known of a table before it is read: the type of each column, the answers, and the questions
that fail. -/
structure RawTable where
  name : String
  answers : List (Question × Value) := []
  faults : List (Question × SourceFault) := []

/-- A database: its dialect, its tables, and what fails. -/
structure Source where
  dialect : String := "sqlite"
  tables : List RawTable := []
  namesFault : Option SourceFault := none
  faults : List (Question × SourceFault) := []
  createFault : Option SourceFault := none
  connectFault : Option SourceFault := none
  inspectFault : Option SourceFault := none
  typeOf : Value → RawType := fun _ => .enumeration []

/-- The answer to a question whose answer a table does not hold. -/
def Question.absent : Question → Value
  | .primaryKey | .comment => .map []
  | _ => .list []

namespace Source

/-- A failure, if there is one, or an answer. -/
def orFault (fault : Option SourceFault) (answer : α) : Except SourceFault α :=
  match fault with
  | some f => .error f
  | none => .ok answer

/-- The names of the tables, in the order of the database. -/
def tableNames (s : Source) : Except SourceFault (List String) :=
  orFault s.namesFault (s.tables.map (·.name))

/-- The answer to a question about a table. A failure of the question at large comes first, then a
table that is not there, then a failure for the table. -/
def ask (s : Source) (q : Question) (table : String) : Except SourceFault Value := do
  orFault (entryAt? q s.faults) ()
  match s.tables.find? (·.name = table) with
  | none => .error ⟨.noSuchTable, table⟩
  | some t => orFault (entryAt? q t.faults) ((entryAt? q t.answers).getD q.absent)

end Source

end SchemaScribe.Database
