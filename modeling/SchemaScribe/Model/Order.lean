import SchemaScribe.Model.Basic
import SchemaScribe.Notice

/-!
# Dependency order

An entity **depends** on the targets of the relations it owns. In the dependency order an entity stands
behind everything it depends on. Entities on a cycle of dependencies, or behind one, cannot be placed
so; they follow at the end in the order of their declaration.
-/

namespace SchemaScribe

/-- The names that a relation of an entity makes it depend on. -/
def Relation.dependency? (r : Relation) (holder : String) : Option String :=
  if r.owning && r.target ≠ holder then some r.target else none

namespace Model

/-- The names of the entities. -/
def names (m : Model) : List String := m.entities.map (·.name)

/-- The dependencies of a model as pairs of target and holder, in the order of their declaration. -/
def dependencies (m : Model) : List (String × String) :=
  m.entities.flatMap fun e => e.relations.filterMap fun r =>
    match r.dependency? e.name with
    | some target => if m.names.contains target then some (target, e.name) else none
    | none => none

/-- The entities that depend on a name. Of repeated holders the last place counts. -/
def holders (edges : List (String × String)) (target : String) : List String :=
  (((edges.filter (·.1 = target)).map (·.2)).reverse.eraseDups).reverse

/-- Whether everything that a name depends on has been placed. -/
def isReady (edges : List (String × String)) (placed : List String) (name : String) : Bool :=
  (edges.filter (·.2 = name)).all fun edge => placed.contains edge.1

/-- Places names from the front of a queue. A name that is placed brings those into the queue whose
last dependency it was. -/
def place (edges : List (String × String)) : Nat → List String → List String → List String
  | 0, placed, _ => placed
  | _ + 1, placed, [] => placed
  | fuel + 1, placed, name :: queue =>
    let placed := placed ++ [name]
    place edges fuel placed (queue ++ (holders edges name).filter (isReady edges placed))

/-- The names that can be placed behind their dependencies, in order. -/
def placed (m : Model) : List String :=
  let names := m.names.eraseDups
  place m.dependencies names.length [] (names.filter (isReady m.dependencies []))

/-- The dependency order of the entities. -/
def dependencyOrder (m : Model) : List String :=
  m.placed ++ m.names.filter (!m.placed.contains ·)

/-- What the log is told when the dependency order had to fall back. -/
def orderNotices (m : Model) : List Notice :=
  if m.placed.length = m.entities.length then []
  else [⟨.warning, "dbreverse.models",
    "Circular FK dependency detected — dependency order is partial. " ++
      "Falling back to declaration order for remaining entities."⟩]

end Model

end SchemaScribe
