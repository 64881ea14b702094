import SchemaScribe.Model.Link

/-!
# Building a model

The model of a catalog under options: junctions become many-to-many relations, every other table an
entity, and every foreign key between entities a pair of relations. Everything is visited in the order
of the catalog, so equal input gives an equal model.
-/

namespace SchemaScribe

open SchemaScribe.Catalog

/-! ## Relations -/

/-- An end of a link, known by the link's place among all links. -/
structure Endpoint where
  index : Nat
  side : Side
  link : Link
deriving DecidableEq

/-- The ends of links at a table, link by link and the owning end first. -/
def endpoints (links : List Link) (table : String) : List Endpoint :=
  links.zipIdx.flatMap fun (link, index) =>
    ([.owning, .inverse].filter fun side => (link.endAt side).table = table).map
      fun side => ⟨index, side, link⟩

/-- The name that an end asks for. -/
def Endpoint.candidate (o : Options) (e : Endpoint) : String :=
  guardReserved
    (relationName (e.link.endAt e.side).base (e.link.basis.kind e.side).toMany o)

/-- The names given to ends of links. -/
abbrev EndNames := List ((Nat × Side) × String)

/-- Names the ends at a draft in turn; `taken` are the properties named before. -/
def nameEnds (o : Options) (entity : String) (limit : Nat) (taken : List String) :
    List Endpoint → Except BuildError EndNames
  | [] => .ok []
  | e :: rest =>
    match uniqueName (e.candidate o) taken limit with
    | none => .error (.noRelationName entity (e.candidate o) limit)
    | some name => do
      let more ← nameEnds o entity limit (taken ++ [name]) rest
      return ((e.index, e.side), name) :: more

/-- The names of the ends at a draft. -/
def Draft.endNames (o : Options) (links : List Link) (d : Draft) : Except BuildError EndNames :=
  let ends := endpoints links d.table.name
  nameEnds o d.entity (d.columns.length + ends.length) (d.columns.map (·.property)) ends

/-- The names of the ends at all drafts. -/
def allEndNames (o : Options) (links : List Link) : List Draft → Except BuildError EndNames
  | [] => .ok []
  | d :: rest => do
    let names ← d.endNames o links
    let more ← allEndNames o links rest
    return names ++ more

/-- The relation at an end under the names of all ends. -/
def Endpoint.relation (names : EndNames) (e : Endpoint) : Relation :=
  let name := fun (side : Side) => Document.entryAt? (e.index, side) names
  e.link.relation e.side ((name e.side).getD "") (name e.side.opposite)

/-! ## Entities -/

/-- The entity of a draft under the names of all ends of links. -/
def Draft.finish (o : Options) (schema : Option String) (drafts : List Draft) (links : List Link)
    (names : EndNames) (d : Draft) : Entity where
  name := d.entity
  table := d.table.name
  schema := d.table.schema
  fileName := fileName d.entity o
  inputName := inputName d.entity o
  inputFileName := inputFileName d.entity o
  columns := d.columns
  relations := (endpoints links d.table.name).map (Endpoint.relation names)
  primaryKey := identity d.table
  compositeKeys := SchemaScribe.compositeKeys schema drafts d
  uniqueConstraints := d.table.uniqueConstraints.filter (1 < ·.columns.length)
  comment := d.table.comment
  standIns := d.table.standIns

/-- Names in order, each once. -/
def sortedNames (names : List String) : List String := names.eraseDups.mergeSort fun a b => a ≤ b

/-- The entities of a catalog. -/
def buildEntities (o : Options) (s : Snapshot) : Building (List Entity) := do
  let named ← nameTables o s.tables.length [] [] (entityTables s)
  let drafts ← typedDrafts o s.schema named
  let fromKeys ← keyLinks o.strictRelations s.schema drafts
  let fromJunctions ← .ofExcept (joinLinks drafts (junctions s))
  let links := fromKeys ++ fromJunctions
  let names ← .ofExcept (allEndNames o links drafts)
  return drafts.map (Draft.finish o s.schema drafts links names)

/-- The model of a catalog. -/
def buildModel (o : Options) (s : Snapshot) : Except BuildError Model := do
  let built := buildEntities o s
  let entities ← built.outcome
  return {
    entities
    junctionTables := sortedNames ((junctions s).map (·.table.name))
    warnings := built.notes.map Oddity.message }

/-- What building leaves in the log. -/
def buildNotices (o : Options) (s : Snapshot) : List Notice :=
  let built := buildEntities o s
  built.notes.map (fun oddity => ⟨.warning, "dbreverse.builder", oddity.message⟩) ++
    match built.outcome with
    | .error (.unsupportedTypes columns) =>
      columns.map fun column => ⟨.error, "dbreverse.builder", column.message⟩
    | _ => []

end SchemaScribe
