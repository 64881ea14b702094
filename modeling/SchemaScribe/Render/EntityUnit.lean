import SchemaScribe.Model.Basic
import SchemaScribe.Render.File
import SchemaScribe.Text.Identifier

/-!
# Entity modules

The mapped class of an entity: a column for each column of its table, a relationship for each relation,
and a description of all of them. Every attribute names what it needs imported. The module of an owning
many-to-many relation also holds the join table.
-/

namespace SchemaScribe.Render

open SchemaScribe.Catalog (ForeignKey Index)

/-- The module that the name of a type hint comes from. -/
def hintModule? (hint : String) : Option String :=
  match hint with
  | "Decimal" => some "decimal"
  | "datetime" | "date" | "time" => some "datetime"
  | "Any" => some "typing"
  | _ => none

/-- What a type hint needs imported. -/
def hintImports (hint : String) : List (String × String) :=
  (hintModule? hint).toList.map fun module => (module, hint)

/-- The entry of an attribute in the description of the fields. -/
def fieldSpec (name kind : String) (nullable : Bool) (target : Option String) : Code :=
  .call "FieldSpec" <|
    [.literal name, .literal kind, Code.truth nullable] ++
      match target with
      | none => []
      | some entity => [.plain "True", .literal entity]

/-- A schema in front of a table name, if there is one. -/
def schemaPart (schema : Option String) : String :=
  match filled? schema with
  | some s => s ++ "."
  | none => ""

/-- A named argument for a text that is there. -/
def namedText (parameter : String) (text : Option String) : List Code :=
  (filled? text).toList.map fun s => .named parameter (.literal s)

/-! ## Columns -/

/-- The values of an enumeration as arguments; without values their place stays empty. -/
def enumArguments (values : List String) : List Code :=
  if values.isEmpty then [.plain ""] else values.map .literal

/-- The type of a mapped column. -/
def columnTypeCode (e : Entity) (c : EntityColumn) : Code :=
  if c.type.mapped = "Enum" then
    .call "Enum"
      (enumArguments c.type.enumValues ++ [.named "name" (.literal (e.table ++ "_" ++ c.name))])
  else
    match c.type.mapped, c.length, c.precision, c.scale with
    | "String", some n, _, _ =>
      if n = 0 then .plain "String" else .call "String" [.plain (toString n)]
    | "Numeric", _, some p, some s => .call "Numeric" [.plain (toString p), .plain (toString s)]
    | "Numeric", _, some p, none => .call "Numeric" [.plain (toString p)]
    | mapped, _, _, _ => .plain mapped

/-- How a column takes part in the key, or whether it may be null. -/
def keyArguments (e : Entity) (c : EntityColumn) : List Code :=
  if c.primaryKey then
    .named "primary_key" (.plain "True") ::
      if c.generated then [.named "autoincrement" (.plain "True")]
      else if e.primaryKey.length = 1 && c.type.hint = "int" then
        [.named "autoincrement" (.plain "False")]
      else []
  else [.named "nullable" (Code.truth c.nullable)]

/-- The default that the database fills in. -/
def serverDefault? (c : EntityColumn) : Option String := if c.generated then none else c.default

/-- The key that a single column holds. -/
def columnKey? (c : EntityColumn) : Option String := filled? c.foreignKey

/-- The arguments of a mapped column. -/
def columnArguments (e : Entity) (c : EntityColumn) : List Code :=
  (if c.property = c.name then [] else [.literal c.name]) ++ [columnTypeCode e c] ++
    (columnKey? c).toList.map (fun key => .call "ForeignKey" [.literal key]) ++ keyArguments e c ++
    (if c.unique then [.named "unique" (.plain "True")] else []) ++
    (serverDefault? c).toList.map
      (fun text => .named "server_default" (.call "text" [.literal text])) ++
    namedText "comment" c.comment

/-- A type hint that may be nothing. -/
def optionalCode (nullable : Bool) (hint : Code) : Code :=
  if nullable then .subscript "Optional" [hint] else hint

/-- The attribute of a column. -/
def columnFragment (e : Entity) (c : EntityColumn) : Fragment where
  name := c.property
  hint := .subscript "Mapped" [optionalCode c.type.nullable (.plain c.type.hint)]
  value := some (.call "mapped_column" (columnArguments e c))
  imports :=
    hintImports c.type.hint ++ [("sqlalchemy", c.type.mapped)] ++
      (columnKey? c).toList.map (fun _ => ("sqlalchemy", "ForeignKey")) ++
      (serverDefault? c).toList.map (fun _ => ("sqlalchemy", "text")) ++
      if c.type.nullable then [("typing", "Optional")] else []

/-! ## Table arguments -/

/-- A key over several columns. -/
def compositeKeyCode (m : Model) (k : ForeignKey) : Code :=
  let front := schemaPart ((m.entityOfTable? k.referredTable).bind (·.schema)) ++ k.referredTable
  .call "ForeignKeyConstraint" <|
    [Code.literals k.columns, Code.literals (k.referredColumns.map fun c => front ++ "." ++ c)] ++
      namedText "name" k.name ++ namedText "ondelete" k.onDelete

/-- A unique constraint. -/
def uniqueCode (i : Index) : Code :=
  .call "UniqueConstraint" (i.columns.map .literal ++ namedText "name" i.name)

/-- The arguments of the table as a whole. -/
def tableArguments (m : Model) (e : Entity) : List Code :=
  e.compositeKeys.map (compositeKeyCode m) ++ e.uniqueConstraints.map uniqueCode ++
    (filled? e.schema).toList.map fun schema => .dict "schema" (.literal schema)

/-- The line of the table arguments. -/
def tableArgumentLines (m : Model) (e : Entity) : List String :=
  match shownAll (tableArguments m e) with
  | [] => []
  | parts => ["__table_args__ = (" ++ ", ".intercalate parts ++ ",)"]

/-- What the table arguments need imported. -/
def tableImports (e : Entity) : Imports :=
  (if e.compositeKeys.isEmpty then [] else [("sqlalchemy", ["ForeignKeyConstraint"])]) ++
    if e.uniqueConstraints.isEmpty then [] else [("sqlalchemy", ["UniqueConstraint"])]

/-! ## Join tables -/

/-- The variable of a join table. -/
def joinVariable (table : String) : String := Text.toIdentifier (table ++ "_table")

/-- One column of a join table. -/
def joinColumnCode (target : Option Entity) (pair : String × String) : Code :=
  let front := match target with
    | some e => schemaPart e.schema ++ e.table
    | none => ""
  .call "Column" [.literal pair.1, .call "ForeignKey" [.literal (front ++ "." ++ pair.2)],
    .named "primary_key" (.plain "True")]

/-- The arguments of a join table. -/
def joinTableArguments (m : Model) (r : Relation) : List Code :=
  [.literal (r.joinTable.getD ""), .plain "Base.metadata"] ++
    r.joinColumns.map (joinColumnCode (m.entity? r.entity)) ++
    r.inverseJoinColumns.map (joinColumnCode (m.entity? r.target)) ++
    namedText "schema" r.joinSchema

/-- The lines that declare the join table of a relation. -/
def joinTableLines (m : Model) (r : Relation) : List String :=
  (joinVariable (r.joinTable.getD "") ++ " = Table(") ::
    (joinTableArguments m r).map (fun argument => indent (argument.shown ++ ",")) ++ [")"]

/-- The comparison of a property with a column of a join table. -/
structure JoinClause where
  entity : String
  property : String
  table : String
  column : String
deriving DecidableEq, Repr

/-- The text of a comparison. -/
def JoinClause.shown (c : JoinClause) : String :=
  c.entity ++ "." ++ c.property ++ " == " ++ c.table ++ ".c." ++ c.column

/-- The comparisons that join an entity with a join table over column pairs. -/
def joinClauses (e : Entity) (table : String) (pairs : List (String × String)) : List JoinClause :=
  pairs.map fun (column, referred) =>
    ⟨e.name, ((e.column? referred).map (·.property)).getD referred, table, column⟩

/-- The condition of all comparisons. -/
def joinCondition : List JoinClause → String
  | [clause] => clause.shown
  | clauses => "and_(" ++ ", ".intercalate (clauses.map JoinClause.shown) ++ ")"

/-- The arguments of a many-to-many relationship that name its join table. -/
def joinArguments (e : Entity) (r : Relation) : List Code :=
  let table := r.joinTable.getD ""
  let condition := fun pairs => Code.literal (joinCondition (joinClauses e table pairs))
  .named "secondary"
      (if r.owning then .plain (joinVariable table)
        else .literal (schemaPart r.joinSchema ++ table)) ::
    if r.selfReferential then
      [.named "primaryjoin" (condition r.joinColumns),
        .named "secondaryjoin" (condition r.inverseJoinColumns)]
    else []

/-! ## Relationships -/

/-- A list of properties in brackets, each with its class. -/
def propertyList (entity : String) (properties : List String) : Code :=
  .quoted ("[" ++ ", ".intercalate (properties.map fun p => entity ++ "." ++ p) ++ "]")

/-- The arguments of a relationship that name the columns of its key. -/
def keyColumnArguments (e : Entity) (r : Relation) : List Code :=
  if r.fkProperties.isEmpty then []
  else
    .named "foreign_keys" (propertyList ((filled? r.fkEntity).getD e.name) r.fkProperties) ::
      if r.owning && r.selfReferential then
        [.named "remote_side" (propertyList e.name r.remoteProperties)]
      else []

/-- The arguments of a relationship. -/
def relationArguments (o : Options) (e : Entity) (r : Relation) : List Code :=
  (if r.kind = .manyToMany then joinArguments e r else keyColumnArguments e r) ++
    namedText "back_populates" r.inverseName ++
    (if r.kind = .oneToOne && !r.owning then [.named "uselist" (.plain "False")] else []) ++
    [.named "lazy" (.quoted (if o.lazyRelations then "select" else "selectin"))]

/-- The type hint of a relationship, with the name it needs besides the target. -/
def relationHint (r : Relation) (target : Entity) : Code × Option String :=
  if r.kind.toMany then (.subscript "List" [.quoted target.name], some "List")
  else if r.nullable || !r.owning then
    (.subscript "Optional" [.quoted target.name], some "Optional")
  else (.quoted target.name, none)

/-- The attribute of a relation to a target. -/
def relationFragment (o : Options) (e : Entity) (r : Relation) (target : Entity) : Fragment :=
  let (hint, needed) := relationHint r target
  { name := r.name
    hint := .subscript "Mapped" [hint]
    value := some (.call "relationship" (relationArguments o e r))
    imports := ("sqlalchemy.orm", "relationship") :: needed.toList.map fun n => ("typing", n) }

/-! ## The module -/

/-- A relation whose target is no entity of the model. -/
structure UnknownTarget where
  relation : Relation
deriving DecidableEq

/-- The relations of an entity with their targets. -/
def withTargets (m : Model) : List Relation → Except UnknownTarget (List (Relation × Entity))
  | [] => .ok []
  | r :: rest =>
    match m.entity? r.target with
    | none => .error ⟨r⟩
    | some target => do
      let more ← withTargets m rest
      return (r, target) :: more

/-- Drops every three double quotes in a row. -/
def withoutTripleQuotes : List Char → List Char
  | '"' :: '"' :: '"' :: rest => withoutTripleQuotes rest
  | c :: rest => c :: withoutTripleQuotes rest
  | [] => []

/-- The lines of the comment of an entity. -/
def commentLines (comment : Option String) : List String :=
  match filled? comment with
  | none => []
  | some text => ["\"\"\"" ++ .ofList (withoutTripleQuotes text.toList) ++ "\"\"\"", ""]

/-- The second line of the description of every generated module. -/
def editRule : String := "Generated by dbreverse; edit only inside the custom region."

/-- The columns that an entity declares itself. -/
def ownColumns (e : Entity) : List EntityColumn :=
  if e.usesIdentity then e.columns.filter (·.name ≠ "id") else e.columns

/-- The module of an entity, given the targets of its relations. -/
def entityUnitOf (m : Model) (o : Options) (e : Entity) (targets : List (Relation × Entity)) :
    SourceUnit :=
  let joined := e.relations.filter fun r => r.kind = .manyToMany && r.owning
  let others := (targets.map (·.2)).filter (·.name ≠ e.name)
  { doc := Text.unlines ["Entity for table ``" ++ e.table ++ "``.", editRule]
    className := e.name
    bases := if e.usesIdentity then ["IdentityMixin", "Base"] else ["Base"]
    imports :=
      [("sqlalchemy.orm", ["Mapped", "mapped_column"]),
        (baseImport, ["Base", "FieldSpec"] ++ if e.usesIdentity then ["IdentityMixin"] else [])] ++
        tableImports e ++
        if joined.isEmpty then [] else [("sqlalchemy", ["Column", "ForeignKey", "Table"])]
    typeImports := others.map fun target => ("." ++ target.fileName, [target.name])
    prelude := joined.flatMap (joinTableLines m)
    classAttributes :=
      commentLines e.comment ++ ["__tablename__ = " ++ Text.literal e.table] ++
        tableArgumentLines m e
    fields := (ownColumns e).map (columnFragment e)
    relations := targets.map fun (r, target) => relationFragment o e r target
    fieldSpecs :=
      e.columns.map (fun c => fieldSpec c.property c.type.kind.name c.nullable none) ++
        e.relations.map fun r => fieldSpec r.name r.kind.name r.nullable (some r.target)
    dependsOn := inOrder
      (baseModule :: others.map fun target => entitiesPackage ++ "." ++ target.fileName) }

/-- The module of an entity. -/
def entityUnit (m : Model) (o : Options) (e : Entity) : Except UnknownTarget SourceUnit :=
  (withTargets m e.relations).map (entityUnitOf m o e)

/-- The module of an entity as a file. -/
def entityFile (m : Model) (o : Options) (e : Entity) : Except UnknownTarget GeneratedFile :=
  (entityUnit m o e).map fun u => {
    path := modulePath entitiesPackage e.fileName
    content := u.shown
    kind := .entity
    entity := some e.name
    dependsOn := u.dependsOn
    standIns := e.standIns }

end SchemaScribe.Render
