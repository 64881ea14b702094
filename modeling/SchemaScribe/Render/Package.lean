import SchemaScribe.Model.Order
import SchemaScribe.Render.InputUnit

/-!
# The package

All files of a model in the order in which they are written: the shared bases, the entities and then
the input models in dependency order, and the files that make the directories packages. An entity that
cannot be rendered is left out of all of them and does not stop the others.
-/

namespace SchemaScribe.Render

/-- Why an entity could not be rendered. -/
inductive RenderFault where
  | unknownTarget (relation : Relation)
  | failed (reason : String)
deriving DecidableEq

namespace RenderFault

/-- The complaint about a fault. -/
def detail : RenderFault → String
  | .unknownTarget relation =>
    Text.literal ("Relation " ++ relation.shown ++ " targets unknown entity")
  | .failed reason => reason

/-- The kind of a fault in messages. -/
def kindWord : RenderFault → String
  | .unknownTarget _ => "KeyError"
  | .failed _ => "RuntimeError"

/-- A fault with its kind. -/
def message (f : RenderFault) : String := f.kindWord ++ ": " ++ f.detail

end RenderFault

/-- How many entities are rendered at a time: what is asked for, or what the options say if nothing is.
Answers nothing for a number that is not positive. -/
def workers? (requested : Option Int) (o : Options) : Option Nat :=
  let n := match requested with
    | none | some 0 => (o.concurrency : Int)
    | some n => n
  if 0 < n then some n.toNat else none

/-- The complaint about a number of entities at a time that is not positive. -/
def noWorkersMessage : String := "max_workers must be greater than 0"

/-- A way to render the files of an entity. -/
abbrev EntityRenderer := Entity → Except RenderFault (List GeneratedFile)

/-- The entity module and the input module. -/
def entityFiles (m : Model) (o : Options) : EntityRenderer := fun e =>
  match entityFile m o e with
  | .ok file => .ok [file, inputFile o e]
  | .error e => .error (.unknownTarget e.relation)

/-- The files that make the directories packages, for the entities among `wanted`. -/
def packageFiles (m : Model) (wanted : List String) : List GeneratedFile :=
  let entities := (m.dependencyOrder.filter wanted.contains).filterMap m.entity?
  [packageFile (entitiesPackage ++ "/__init__.py") "Generated entities."
      (entities.map fun e => "from ." ++ e.fileName ++ " import " ++ e.name)
      (entities.map (·.name)),
    packageFile (inputsPackage ++ "/__init__.py") "Generated input models."
      (entities.map fun e => "from ." ++ e.inputFileName ++ " import " ++ e.inputName)
      (entities.map (·.inputName)),
    rootFile]

/-- The files of a model and the entities that failed, with their faults. -/
structure Rendered where
  files : List GeneratedFile
  faults : List (String × RenderFault)
  notices : List Notice

/-- What became of the entities of a model, in dependency order. -/
def renderEntities (m : Model) (render : EntityRenderer) :
    List (String × Except RenderFault (List GeneratedFile)) :=
  m.dependencyOrder.filterMap fun name => (m.entity? name).map fun e => (name, render e)

/-- The line of the log about an entity that failed. -/
def faultNotice (name : String) (fault : RenderFault) : Notice :=
  ⟨.error, "dbreverse.templates", "Rendering entity " ++ name ++ " failed: " ++ fault.detail⟩

/-- Renders all files of a model. -/
def renderPackage (m : Model) (render : EntityRenderer) : Rendered :=
  let outcomes := renderEntities m render
  let files := outcomes.flatMap fun (_, outcome) =>
    match outcome with
    | .ok files => files
    | .error _ => []
  let rendered := outcomes.filterMap fun (name, outcome) =>
    match outcome with
    | .ok _ => some name
    | .error _ => none
  let faults := outcomes.filterMap fun (name, outcome) =>
    match outcome with
    | .ok _ => none
    | .error fault => some (name, fault)
  { files := baseFile :: files.filter (·.kind = .entity) ++ files.filter (·.kind = .input) ++
      packageFiles m rendered
    faults := Document.distinctEntries faults
    notices := m.orderNotices ++ faults.map (fun (name, fault) => faultNotice name fault) ++
      m.orderNotices }

end SchemaScribe.Render
