import SchemaScribe.Catalog.Basic
import SchemaScribe.Naming.Types

/-!
# The model

What a catalog means: entities with typed columns, and relations between them. A relation is seen from
the entity that holds it; the two ends of one constraint hold each other's names. Join tables belong to
many-to-many relations and to no others.
-/

namespace SchemaScribe

open SchemaScribe.Catalog (ForeignKey Index findLast?)

/-- A column of an entity. -/
structure EntityColumn where
  name : String
  property : String
  dataType : String
  type : ColumnType
  length : Option Int := none
  precision : Option Int := none
  scale : Option Int := none
  nullable : Bool := true
  generated : Bool := false
  primaryKey : Bool := false
  unique : Bool := false
  default : Option String := none
  comment : Option String := none
  foreignKey : Option String := none
deriving DecidableEq, Repr

/-- How many entities stand on the two ends of a relation, the holder's end first. -/
inductive RelationKind where
  | oneToOne
  | oneToMany
  | manyToOne
  | manyToMany
deriving DecidableEq, Repr

namespace RelationKind

/-- All kinds. -/
def all : List RelationKind := [.oneToOne, .oneToMany, .manyToOne, .manyToMany]

/-- The name of a kind. -/
def name : RelationKind → String
  | .oneToOne => "one_to_one"
  | .oneToMany => "one_to_many"
  | .manyToOne => "many_to_one"
  | .manyToMany => "many_to_many"

/-- The names of the kinds with the kinds. -/
def choices : List (String × RelationKind) := all.map fun k => (k.name, k)

/-- Whether the holder is related to many. -/
def toMany : RelationKind → Bool
  | .oneToMany | .manyToMany => true
  | .oneToOne | .manyToOne => false

/-- The kind that the other end of a relation has. -/
def inverse : RelationKind → RelationKind
  | .oneToOne => .oneToOne
  | .oneToMany => .manyToOne
  | .manyToOne => .oneToMany
  | .manyToMany => .manyToMany

end RelationKind

/-- One end of a relation. The owning end of a key holds its columns; `fkProperties` are the properties
of those columns in `fkEntity`. Join columns pair a column of the join table with the column it
refers to, first toward the holder, then toward the target. -/
structure Relation where
  name : String
  kind : RelationKind
  entity : String
  target : String
  owning : Bool
  inverseName : Option String := none
  constraintKey : String
  nullable : Bool := true
  fkEntity : Option String := none
  fkProperties : List String := []
  selfReferential : Bool := false
  remoteProperties : List String := []
  joinTable : Option String := none
  joinSchema : Option String := none
  joinColumns : List (String × String) := []
  inverseJoinColumns : List (String × String) := []
  joined_iff : joinTable.isSome ↔ kind = .manyToMany
deriving DecidableEq

/-- A relation for people. -/
def Relation.shown (r : Relation) : String :=
  "<Relation " ++ r.entity ++ "." ++ r.name ++ " (" ++ r.kind.name ++ ") → " ++ r.target ++ ">"

/-- A class of generated code with the table it maps, and the characters of the comment that stand for lone
surrogates. -/
structure Entity where
  name : String
  table : String
  schema : Option String := none
  fileName : String
  inputName : String
  inputFileName : String
  columns : List EntityColumn
  relations : List Relation := []
  primaryKey : List String := []
  compositeKeys : List ForeignKey := []
  uniqueConstraints : List Index := []
  comment : Option String := none
  standIns : Text.StandIns := []
deriving DecidableEq

namespace Entity

/-- The properties of an entity: those of its columns, then its relations. -/
def propertyNames (e : Entity) : List String :=
  e.columns.map (·.property) ++ e.relations.map (·.name)

/-- The first column of a name. -/
def column? (e : Entity) (name : String) : Option EntityColumn := e.columns.find? (·.name = name)

/-- The other entities that an entity is related to, each once, in the order of its relations. -/
def relatedEntities (e : Entity) : List String :=
  ((e.relations.map (·.target)).filter (· ≠ e.name)).eraseDups

/-- Whether the key of an entity is a generated integer column `id`, which a shared base class can
declare. -/
def usesIdentity (e : Entity) : Bool :=
  e.primaryKey = ["id"] &&
    (e.column? "id").any fun c => c.property = "id" && c.generated && c.type.mapped = "Integer"

/-- An entity for people. -/
def shown (e : Entity) : String :=
  "<Entity " ++ e.name ++ " (" ++ toString e.columns.length ++ " cols, " ++
    toString e.relations.length ++ " rels)>"

end Entity

/-- The entities of a schema, the tables that became many-to-many relations, and what was odd. -/
structure Model where
  entities : List Entity := []
  junctionTables : List String := []
  warnings : List String := []
deriving DecidableEq

namespace Model

/-- The entity of a name; of several the last. -/
def entity? (m : Model) (name : String) : Option Entity := findLast? (·.name = name) m.entities

/-- The first entity of a table. -/
def entityOfTable? (m : Model) (table : String) : Option Entity :=
  m.entities.find? (·.table = table)

/-- How many ends of relations there are. -/
def relationCount (m : Model) : Nat := (m.entities.map (·.relations.length)).foldr (· + ·) 0

/-- A model for people. -/
def shown (m : Model) : String :=
  "<ResolvedModel " ++ toString m.entities.length ++ " entities, " ++ toString m.relationCount ++
    " relations, " ++ toString m.junctionTables.length ++ " junctions>"

end Model

end SchemaScribe
