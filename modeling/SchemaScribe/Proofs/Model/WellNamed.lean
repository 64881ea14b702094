import SchemaScribe.Proofs.Model.Built

/-!
# The names of a model are well formed and stay apart

Whatever a catalog calls its tables and columns, everything that a built model names can stand in the
generated code: classes and modules have identifiers for names, and the properties of an entity are
attributes of which no two are equal (`Entity.WellNamed`). What is taken gets a number, be it a class name,
a property or a relation, and keeps with it what the naming functions established.

Different entities share neither a class name nor a module (`Entity.Apart`), since at no point of naming
tables were two names in the way of each other. Their input models have different classes as well, since a
module is named after its class.
-/

namespace SchemaScribe

open SchemaScribe.Catalog

/-- **An entity whose names can stand in the generated code.** Its properties, of columns and of relations
together, are attributes that differ from one another. -/
structure Entity.WellNamed (e : Entity) : Prop where
  name : IsName e.name
  fileName : IsName e.fileName
  inputName : IsName e.inputName
  inputFileName : IsName e.inputFileName
  properties : ∀ property ∈ e.propertyNames, IsAttribute property
  distinct : e.propertyNames.Nodup

namespace Built

variable {o : Options} {s : Snapshot} (b : Built o s)

/-- The properties of an entity were given in turn, those of its columns first. -/
theorem propertyNames_givenInTurn {d : Draft} (hd : d ∈ b.drafts) :
    GivenInTurn [] (b.entity d).propertyNames := by
  have hcolumns := b.columns_givenInTurn hd
  have hrelations := (b.ends_named hd).2
  refine ⟨hrelations.nodup, fun property hp => ?_⟩
  rcases List.mem_append.mp hp with hp | hp
  · exact hcolumns.attributes property hp
  · exact hrelations.attributes property hp

theorem entity_wellNamed {d : Draft} (hd : d ∈ b.drafts) : (b.entity d).WellNamed where
  name := b.entity_isName hd
  fileName := fileName_isName d.entity o
  inputName := inputName_isName d.entity o
  inputFileName := fileName_isName (inputName d.entity o) o
  properties := (b.propertyNames_givenInTurn hd).attributes
  distinct := (b.propertyNames_givenInTurn hd).nodup

theorem wellNamed : ∀ e ∈ b.drafts.map b.entity, e.WellNamed := by
  intro e he
  obtain ⟨d, hd, rfl⟩ := List.mem_map.mp he
  exact b.entity_wellNamed hd

end Built

/-- **Every entity of a built model is well named**: its class, its input class and both modules have names that
can stand in code, and its properties, of columns and of relations together, are attributes that differ from one
another. The names of different entities, and what a property hides in its module, are left open. -/
theorem entities_wellNamed {o : Options} {s : Snapshot} {m : Model} (h : buildModel o s = .ok m) :
    ∀ e ∈ m.entities, e.WellNamed := by
  obtain ⟨b, hentities⟩ := exists_built h
  rw [hentities]
  exact b.wellNamed

/-- So are the two entities of a small model. -/
theorem entities_wellNamed_staff :
    ∃ m, buildModel {} staff = .ok m ∧ m.entities.map (·.propertyNames) = staffProperties ∧
      ∀ e ∈ m.entities, e.WellNamed := by
  obtain ⟨m, hm, _, hproperties, _⟩ := exists_staffModel
  exact ⟨m, hm, hproperties, entities_wellNamed hm⟩

/-! ## Entities stay apart -/

/-- **Two entities that stay apart**: they share no class name and no module, be it of an entity or of an
input model. -/
structure Entity.Apart (e e' : Entity) : Prop where
  name : e.name ≠ e'.name
  inputName : e.inputName ≠ e'.inputName
  fileName : e.fileName ≠ e'.fileName
  inputFileName : e.inputFileName ≠ e'.inputFileName
  fileName_ne_inputFileName : e.fileName ≠ e'.inputFileName
  inputFileName_ne_fileName : e.inputFileName ≠ e'.fileName

/-- The modules of an entity of a name. -/
def modules (o : Options) (name : String) : List String := [fileName name o, inputFileName name o]

theorem fileName_mem_modules (o : Options) (name : String) : fileName name o ∈ modules o name :=
  List.mem_cons_self

theorem inputFileName_mem_modules (o : Options) (name : String) :
    inputFileName name o ∈ modules o name :=
  List.mem_cons_of_mem _ List.mem_cons_self

theorem Disjoined.name_ne {o : Options} {a b : String} (h : Disjoined o a b) : a ≠ b := by
  rintro rfl
  exact h a List.mem_cons_self List.mem_cons_self

theorem Disjoined.module_ne {o : Options} {a b x y : String} (h : Disjoined o a b)
    (hx : x ∈ modules o a) (hy : y ∈ modules o b) : x ≠ y := by
  have hoccupied : ∀ {c z : String}, z ∈ modules o c → "file:" ++ z ∈ occupied o c := fun hz =>
    List.mem_cons_of_mem _ (List.mem_map_of_mem hz)
  rintro rfl
  exact h _ (hoccupied hx) (hoccupied hy)

theorem Built.entity_apart {o : Options} {s : Snapshot} (b : Built o s) {d d' : Draft}
    (h : Disjoined o d.entity d'.entity) : (b.entity d).Apart (b.entity d') := by
  have hfile := fileName_mem_modules o d.entity
  have hfile' := fileName_mem_modules o d'.entity
  have hinput := inputFileName_mem_modules o d.entity
  have hinput' := inputFileName_mem_modules o d'.entity
  refine ⟨h.name_ne, fun heq => ?_, h.module_ne hfile hfile', h.module_ne hinput hinput',
    h.module_ne hfile hinput', h.module_ne hinput hfile'⟩
  -- input models of one class name would be in one module
  exact h.module_ne hinput hinput' (congrArg (fileName · o) heq)

/-- The entities of a run stay apart. -/
theorem Built.apart {o : Options} {s : Snapshot} (b : Built o s) :
    (b.drafts.map b.entity).Pairwise Entity.Apart :=
  List.pairwise_map.mpr (b.disjoined.imp fun {_ _} hd => b.entity_apart hd)

end SchemaScribe
