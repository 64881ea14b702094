import SchemaScribe.Proofs.Render.Constraints
import SchemaScribe.Proofs.Render.Texts

/-!
# What generated modules import

The parts of a module ask for imports one by one, and the module merges them. For the module of an entity
and for its input model it is told here from the entity alone which name is taken from which module
(`Entity.Takes`, `Entity.InputTakes`), one reason at a time.

The attributes of a class stand in the same scope as these names. Properties are kept apart from each other
and from the attributes that every mapped class has, and from nothing else. So an attribute may hide a name
that the module imports, and the class body then reads the attribute. `buildModel_shadows` says which names
are hidden: exactly those for which a property of the class was chosen and for which the entity has a reason
to import them. A property `text` hides the function behind server defaults, in case there is a default.
-/

namespace SchemaScribe

open SchemaScribe.Catalog SchemaScribe.Render

namespace Render

/-! ## Merged imports -/

/-- Imports that take a name from a module. -/
def Imports.Provides (imports : Imports) (module name : String) : Prop :=
  ∃ names, (module, names) ∈ imports ∧ name ∈ names

instance (imports : Imports) (module name : String) : Decidable (imports.Provides module name) :=
  decidable_of_iff (∃ entry ∈ imports, entry.1 = module ∧ name ∈ entry.2) <| by
    unfold Imports.Provides
    constructor
    · rintro ⟨entry, hentry, rfl, hname⟩
      exact ⟨entry.2, hentry, hname⟩
    · rintro ⟨names, hmem, hname⟩
      exact ⟨_, hmem, rfl, hname⟩

namespace Imports

variable {imports more : Imports} {module name : String}

theorem provides_append : Provides (imports ++ more) module name ↔
    imports.Provides module name ∨ more.Provides module name := by
  unfold Provides
  simp only [List.mem_append, or_and_right, exists_or]

@[simp] theorem not_provides_nil : ¬ Provides [] module name := by
  rintro ⟨_, hmem, _⟩
  cases hmem

theorem provides_cons {entry : String × List String} : Provides (entry :: imports) module name ↔
    entry.1 = module ∧ name ∈ entry.2 ∨ imports.Provides module name := by
  unfold Provides
  simp only [List.mem_cons, or_and_right, exists_or, Prod.ext_iff]
  refine or_congr_left ⟨?_, ?_⟩
  · rintro ⟨names, ⟨rfl, rfl⟩, hname⟩
    exact ⟨rfl, hname⟩
  · rintro ⟨rfl, hname⟩
    exact ⟨entry.2, ⟨rfl, rfl⟩, hname⟩

/-- What is imported unless some list is empty. -/
theorem provides_unless {α : Type} {items : List α} {own : String} {names : List String} :
    Provides (if items.isEmpty then [] else [(own, names)]) module name ↔
      items ≠ [] ∧ module = own ∧ name ∈ names := by
  cases items <;> simp [provides_cons, eq_comm]

theorem mem_names : name ∈ imports.names ↔ ∃ module, imports.Provides module name := by
  unfold names Provides
  rw [List.mem_flatMap, Prod.exists]

/-- Merging keeps what is taken from where. -/
theorem provides_merged : imports.merged.Provides module name ↔ imports.Provides module name := by
  unfold Provides merged
  constructor
  · rintro ⟨names, hmem, hname⟩
    obtain ⟨_, _, heq⟩ := List.mem_map.mp hmem
    cases heq
    obtain ⟨entry, hentry, hname⟩ := List.mem_flatMap.mp (mem_inOrder.mp hname)
    obtain ⟨hentry, hmodule⟩ := List.mem_filter.mp hentry
    exact ⟨entry.2, of_decide_eq_true hmodule ▸ hentry, hname⟩
  · rintro ⟨names, hentry, hname⟩
    refine ⟨_, List.mem_map_of_mem (mem_inOrder.mpr (List.mem_map_of_mem hentry)), mem_inOrder.mpr ?_⟩
    apply List.mem_flatMap.mpr
    exact ⟨(module, names), List.mem_filter.mpr ⟨hentry, decide_eq_true rfl⟩, hname⟩

end Imports

theorem Fragment.provides_importList {f : Fragment} {module name : String} :
    f.importList.Provides module name ↔ (module, name) ∈ f.imports := by
  unfold Fragment.importList Imports.Provides
  constructor
  · rintro ⟨names, hmem, hname⟩
    obtain ⟨⟨module', name'⟩, himport, heq⟩ := List.mem_map.mp hmem
    cases heq
    cases List.mem_singleton.mp hname
    exact himport
  · intro himport
    exact ⟨[name], List.mem_map_of_mem himport, List.mem_singleton_self name⟩

/-- **What a module imports** is what is asked for as a whole, what its attributes need, and what the two
blocks around them need. -/
theorem SourceUnit.provides_allImports {u : SourceUnit} {module name : String} :
    u.allImports.Provides module name ↔
      u.imports.Provides module name ∨
      (∃ f ∈ u.fields ++ u.relations, (module, name) ∈ f.imports) ∨
      (u.typeImports ≠ [] ∧ module = "typing" ∧ name = "TYPE_CHECKING") ∨
      (u.fieldSpecs ≠ [] ∧ module = "typing" ∧ name ∈ ["ClassVar", "Tuple"]) := by
  have hfragments : Imports.Provides ((u.fields ++ u.relations).flatMap Fragment.importList) module name ↔
      ∃ f ∈ u.fields ++ u.relations, (module, name) ∈ f.imports := by
    simp only [← Fragment.provides_importList]
    unfold Imports.Provides
    simp only [List.mem_flatMap]
    constructor
    · rintro ⟨names, ⟨f, hf, hmem⟩, hname⟩
      exact ⟨f, hf, names, hmem, hname⟩
    · rintro ⟨f, hf, names, hmem, hname⟩
      exact ⟨names, ⟨f, hf, hmem⟩, hname⟩
  unfold SourceUnit.allImports
  rw [Imports.provides_merged, Imports.provides_append, Imports.provides_append, Imports.provides_append,
    hfragments, Imports.provides_unless, Imports.provides_unless, List.mem_singleton, or_assoc, or_assoc]

end Render

/-! ## The module of an entity -/

/-- **What the module of an entity takes from other modules**, and why. -/
inductive Entity.Takes (e : Entity) : (module name : String) → Prop
  | mapped {name} : name ∈ ["Mapped", "mapped_column"] → e.Takes "sqlalchemy.orm" name
  | base {name} : name ∈ ["Base", "FieldSpec"] → e.Takes baseImport name
  | identity : e.usesIdentity = true → e.Takes baseImport "IdentityMixin"
  | description {name} : e.propertyNames ≠ [] → name ∈ ["ClassVar", "Tuple"] → e.Takes "typing" name
  | column {c module name} : c ∈ ownColumns e → c.Takes module name → e.Takes module name
  | relation {r module name} : r ∈ e.relations → r.Takes module name → e.Takes module name
  | compositeKey : e.compositeKeys ≠ [] → e.Takes "sqlalchemy" "ForeignKeyConstraint"
  | unique : e.uniqueConstraints ≠ [] → e.Takes "sqlalchemy" "UniqueConstraint"
  | joinTable {r name} : r ∈ e.relations → r.kind = .manyToMany → r.owning = true →
      name ∈ ["Column", "ForeignKey", "Table"] → e.Takes "sqlalchemy" name
  | other {r} : r ∈ e.relations → r.target ≠ e.name → e.Takes "typing" "TYPE_CHECKING"

namespace Render

/-- The targets that are found for relations stand beside them, each under its name. -/
theorem withTargets_relations {m : Model} {relations : List Relation}
    {targets : List (Relation × Entity)} (h : withTargets m relations = .ok targets) :
    targets.map (·.1) = relations ∧ ∀ p ∈ targets, p.2.name = p.1.target := by
  induction relations generalizing targets with
  | nil =>
    cases h
    exact ⟨rfl, List.forall_mem_nil _⟩
  | cons r rest ih =>
    rw [withTargets] at h
    split at h
    · cases h
    · next target htarget =>
      obtain ⟨more, hmore, hrun⟩ := bind_eq_ok.mp h
      cases hrun
      obtain ⟨hrelations, hnames⟩ := ih hmore
      refine ⟨by rw [List.map_cons, hrelations], List.forall_mem_cons.mpr ⟨?_, hnames⟩⟩
      simpa only [decide_eq_true_eq] using List.find?_some htarget

section

variable {m : Model} {o : Options} {e : Entity} {targets : List (Relation × Entity)} {module name : String}

/-- What the module of an entity imports as a whole, its attributes apart. -/
theorem provides_imports :
    (entityUnitOf m o e targets).imports.Provides module name ↔
      (module = "sqlalchemy.orm" ∧ name ∈ ["Mapped", "mapped_column"]) ∨
      (module = baseImport ∧ name ∈ ["Base", "FieldSpec"]) ∨
      (e.usesIdentity = true ∧ module = baseImport ∧ name = "IdentityMixin") ∨
      (e.compositeKeys ≠ [] ∧ module = "sqlalchemy" ∧ name = "ForeignKeyConstraint") ∨
      (e.uniqueConstraints ≠ [] ∧ module = "sqlalchemy" ∧ name = "UniqueConstraint") ∨
      ((∃ r ∈ e.relations, r.kind = .manyToMany ∧ r.owning = true) ∧ module = "sqlalchemy" ∧
        name ∈ ["Column", "ForeignKey", "Table"]) := by
  have hjoined : (e.relations.filter fun r => r.kind = .manyToMany && r.owning) ≠ [] ↔
      ∃ r ∈ e.relations, r.kind = .manyToMany ∧ r.owning = true := by
    simp
  have hbase : name ∈ ["Base", "FieldSpec"] ++ (if e.usesIdentity then ["IdentityMixin"] else []) ↔
      name ∈ ["Base", "FieldSpec"] ∨ e.usesIdentity = true ∧ name = "IdentityMixin" := by
    rw [List.mem_append]
    cases e.usesIdentity <;> simp
  unfold entityUnitOf tableImports
  rw [Imports.provides_append, Imports.provides_append, Imports.provides_append, Imports.provides_cons,
    Imports.provides_cons, Imports.provides_unless, Imports.provides_unless, Imports.provides_unless,
    hjoined, hbase, and_or_left]
  simp only [Imports.not_provides_nil, or_false, or_assoc, List.mem_singleton, and_left_comm,
    @eq_comm _ _ module]

variable (h : withTargets m e.relations = .ok targets)

include h

/-- The attributes of an entity need what its own columns and its relations need. -/
theorem attributes_take :
    (∃ f ∈ (entityUnitOf m o e targets).fields ++ (entityUnitOf m o e targets).relations,
        (module, name) ∈ f.imports) ↔
      (∃ c ∈ ownColumns e, c.Takes module name) ∨ ∃ r ∈ e.relations, r.Takes module name := by
  obtain ⟨hrelations, _⟩ := withTargets_relations h
  unfold entityUnitOf
  simp only [List.mem_append, List.mem_map, or_and_right, exists_or]
  refine or_congr ⟨?_, ?_⟩ ⟨?_, ?_⟩
  · rintro ⟨_, ⟨c, hc, rfl⟩, himport⟩
    exact ⟨c, hc, columnFragment_takes.mp himport⟩
  · rintro ⟨c, hc, htakes⟩
    exact ⟨_, ⟨c, hc, rfl⟩, columnFragment_takes.mpr htakes⟩
  · rintro ⟨_, ⟨p, hp, rfl⟩, himport⟩
    exact ⟨p.1, hrelations ▸ List.mem_map_of_mem hp, relationFragment_takes.mp himport⟩
  · rintro ⟨r, hr, htakes⟩
    rw [← hrelations] at hr
    obtain ⟨p, hp, rfl⟩ := List.mem_map.mp hr
    exact ⟨_, ⟨p, hp, rfl⟩, relationFragment_takes.mpr htakes⟩

theorem typeImports_ne_nil :
    (entityUnitOf m o e targets).typeImports ≠ [] ↔ ∃ r ∈ e.relations, r.target ≠ e.name := by
  obtain ⟨hrelations, hnames⟩ := withTargets_relations h
  show ((targets.map (·.2)).filter (·.name ≠ e.name)).map _ ≠ [] ↔ _
  rw [ne_eq, List.map_eq_nil_iff, ← ne_eq, ← hrelations]
  constructor
  · intro hothers
    obtain ⟨target, htarget⟩ := List.exists_mem_of_ne_nil _ hothers
    obtain ⟨htarget, hother⟩ := List.mem_filter.mp htarget
    obtain ⟨p, hp, rfl⟩ := List.mem_map.mp htarget
    exact ⟨p.1, List.mem_map_of_mem hp, hnames p hp ▸ of_decide_eq_true hother⟩
  · rintro ⟨_, hr, hother⟩
    obtain ⟨p, hp, rfl⟩ := List.mem_map.mp hr
    rw [← hnames p hp] at hother
    exact List.ne_nil_of_mem (List.mem_filter.mpr ⟨List.mem_map_of_mem hp, decide_eq_true hother⟩)

/-- **The module of an entity imports what the entity is a reason for**, and nothing else. The reasons are told
without the text of the module (`Entity.Takes`). -/
theorem provides_entityUnit :
    (entityUnitOf m o e targets).allImports.Provides module name ↔ e.Takes module name := by
  have hspecs : (entityUnitOf m o e targets).fieldSpecs ≠ [] ↔ e.propertyNames ≠ [] := by
    unfold entityUnitOf Entity.propertyNames
    simp only [ne_eq, List.append_eq_nil_iff, List.map_eq_nil_iff]
  rw [SourceUnit.provides_allImports, provides_imports, attributes_take h, typeImports_ne_nil h, hspecs]
  constructor
  · rintro (himports | (⟨c, hc, htakes⟩ | ⟨r, hr, htakes⟩) | ⟨⟨r, hr, hother⟩, rfl, rfl⟩ |
      ⟨hspec, rfl, hname⟩)
    · rcases himports with ⟨rfl, hname⟩ | ⟨rfl, hname⟩ | ⟨hidentity, rfl, rfl⟩ | ⟨hkeys, rfl, rfl⟩ |
        ⟨hunique, rfl, rfl⟩ | ⟨⟨r, hr, hkind, howning⟩, rfl, hname⟩
      · exact .mapped hname
      · exact .base hname
      · exact .identity hidentity
      · exact .compositeKey hkeys
      · exact .unique hunique
      · exact .joinTable hr hkind howning hname
    · exact .column hc htakes
    · exact .relation hr htakes
    · exact .other hr hother
    · exact .description hspec hname
  · intro htakes
    cases htakes with
    | mapped hname => exact .inl (.inl ⟨rfl, hname⟩)
    | base hname => exact .inl (.inr (.inl ⟨rfl, hname⟩))
    | identity hidentity => exact .inl (.inr (.inr (.inl ⟨hidentity, rfl, rfl⟩)))
    | description hspec hname => exact .inr (.inr (.inr ⟨hspec, rfl, hname⟩))
    | column hc htakes => exact .inr (.inl (.inl ⟨_, hc, htakes⟩))
    | relation hr htakes => exact .inr (.inl (.inr ⟨_, hr, htakes⟩))
    | compositeKey hkeys => simp [hkeys]
    | unique hunique => simp [hunique]
    | joinTable hr hkind howning hname =>
      exact .inl (.inr (.inr (.inr (.inr (.inr ⟨⟨_, hr, hkind, howning⟩, rfl, hname⟩)))))
    | other hr hother => exact .inr (.inr (.inl ⟨⟨_, hr, hother⟩, rfl, rfl⟩))

end

end Render

/-! ## The input model -/

/-- **What the module of an input model takes from other modules**, and why. -/
inductive Entity.InputTakes (o : Options) (e : Entity) : (module name : String) → Prop
  | base {name} : name ∈ ["BaseInput", "FieldSpec"] → e.InputTakes o baseImport name
  | description {name} : inputColumns o e ≠ [] → name ∈ ["ClassVar", "Tuple"] →
      e.InputTakes o "typing" name
  | field {c module name} : c ∈ inputColumns o e → c.InputTakes module name → e.InputTakes o module name

namespace Render

/-- **The module of an input model imports what the entity is a reason for**, and nothing else. -/
theorem provides_inputUnit {o : Options} {e : Entity} {module name : String} :
    (inputUnit o e).allImports.Provides module name ↔ e.InputTakes o module name := by
  have hfields : (∃ f ∈ (inputUnit o e).fields ++ (inputUnit o e).relations, (module, name) ∈ f.imports) ↔
      ∃ c ∈ inputColumns o e, c.InputTakes module name := by
    unfold inputUnit
    simp only [List.append_nil, List.mem_map, exists_exists_and_eq_and, inputFragment_takes]
  have hspecs : (inputUnit o e).fieldSpecs ≠ [] ↔ inputColumns o e ≠ [] := by
    unfold inputUnit
    rw [ne_eq, List.map_eq_nil_iff]
  rw [SourceUnit.provides_allImports, hfields, hspecs]
  show Imports.Provides [(baseImport, ["BaseInput", "FieldSpec"])] module name ∨ _ ∨ ([] ≠ [] ∧ _) ∨ _ ↔ _
  rw [Imports.provides_cons]
  constructor
  · rintro ((⟨rfl, hname⟩ | himport) | ⟨c, hc, htakes⟩ | ⟨hne, _⟩ | ⟨hspec, rfl, hname⟩)
    · exact .base hname
    · exact absurd himport Imports.not_provides_nil
    · exact .field hc htakes
    · exact absurd rfl hne
    · exact .description hspec hname
  · intro h
    cases h with
    | base hname => exact .inl (.inl ⟨rfl, hname⟩)
    | description hspec hname => exact .inr (.inr (.inr ⟨hspec, rfl, hname⟩))
    | field hc htakes => exact .inr (.inl ⟨_, hc, htakes⟩)

/-! ## Hidden imports -/

/-- The attributes of a class. -/
def SourceUnit.attributes (u : SourceUnit) : List String := (u.fields ++ u.relations).map (·.name)

/-- **A name that the module imports and that an attribute of its class hides**: in the class body it is
the attribute from then on. -/
def SourceUnit.Shadows (u : SourceUnit) (name : String) : Prop :=
  name ∈ u.attributes ∧ name ∈ u.allImports.names

/-- The attributes of a class are its own columns and the relations. -/
theorem entityUnit_attributes {m : Model} {o : Options} {e : Entity} {targets : List (Relation × Entity)}
    (h : withTargets m e.relations = .ok targets) : (entityUnitOf m o e targets).attributes =
      (ownColumns e).map (·.property) ++ e.relations.map (·.name) := by
  unfold SourceUnit.attributes entityUnitOf
  rw [← (withTargets_relations h).1]
  simp only [List.map_append, List.map_map]
  rfl

theorem entityUnit_shadows {m : Model} {o : Options} {e : Entity} {targets : List (Relation × Entity)}
    (h : withTargets m e.relations = .ok targets) {name : String} :
    (entityUnitOf m o e targets).Shadows name ↔
      name ∈ (ownColumns e).map (·.property) ++ e.relations.map (·.name) ∧
        ∃ module, e.Takes module name := by
  unfold SourceUnit.Shadows
  rw [entityUnit_attributes h, Imports.mem_names]
  simp only [provides_entityUnit h]

theorem inputUnit_shadows {o : Options} {e : Entity} {name : String} :
    (inputUnit o e).Shadows name ↔
      name ∈ (inputColumns o e).map (fieldName ·.property) ∧ ∃ module, e.InputTakes o module name := by
  have hattributes : (inputUnit o e).attributes = (inputColumns o e).map (fieldName ·.property) := by
    unfold SourceUnit.attributes inputUnit
    rw [List.append_nil, List.map_map]
    rfl
  unfold SourceUnit.Shadows
  rw [hattributes, Imports.mem_names]
  simp only [provides_inputUnit]

end Render

/-- **Which imports are hidden in the modules of a model**: an attribute hides a name if and only if the
class has a property of this name, of a column that it declares or of a relation, and the entity has a
reason to import it. -/
theorem buildModel_shadows {o o' : Options} {s : Snapshot} {m : Model} (h : buildModel o s = .ok m) :
    ∀ e ∈ m.entities, ∃ u, entityUnit m o' e = .ok u ∧
      (∀ name, u.Shadows name ↔
        name ∈ (ownColumns e).map (·.property) ++ e.relations.map (·.name) ∧
          ∃ module, e.Takes module name) ∧
      ∀ name, (inputUnit o' e).Shadows name ↔
        name ∈ (inputColumns o' e).map (fieldName ·.property) ∧
          ∃ module, e.InputTakes o' module name := by
  intro e he
  obtain ⟨targets, htargets⟩ := exists_targets h he
  refine ⟨entityUnitOf m o' e targets, ?_, fun _ => entityUnit_shadows htargets,
    fun _ => inputUnit_shadows⟩
  unfold entityUnit
  rw [htargets]
  rfl

/-- So it is in a model whose one entity hides the function behind its default, and whose input model hides
the type of the field of the same name. -/
theorem buildModel_shadows_notices :
    ∃ m, buildModel {} notices = .ok m ∧
      (∃ e ∈ m.entities, ∃ u, entityUnit m {} e = .ok u ∧ u.Shadows "text" ∧
        (inputUnit {} e).Shadows "date") ∧
      ∀ e ∈ m.entities, ∃ u, entityUnit m {} e = .ok u ∧
        (∀ name, u.Shadows name ↔
          name ∈ (ownColumns e).map (·.property) ++ e.relations.map (·.name) ∧
            ∃ module, e.Takes module name) ∧
        ∀ name, (inputUnit {} e).Shadows name ↔
          name ∈ (inputColumns {} e).map (fieldName ·.property) ∧
            ∃ module, e.InputTakes {} module name := by
  obtain ⟨m, hm, htest⟩ := exists_ok_of_any (x := buildModel {} notices)
    (p := fun m => ∃ e ∈ m.entities, "text" ∈ (ownColumns e).map (·.property) ∧
      (∃ c ∈ ownColumns e, serverDefault? c ≠ none) ∧
      ∃ c ∈ inputColumns {} e, isListed c = false ∧ fieldName c.property = "date" ∧ c.type.hint = "date")
    (by decide +kernel)
  have hshadows := @buildModel_shadows {} {} notices m hm
  obtain ⟨e, he, htext, ⟨c, hc, hdefault⟩, d, hd, hlisted, hname, hhint⟩ := of_decide_eq_true htest
  obtain ⟨u, hu, hhidden, hhiddenInput⟩ := hshadows e he
  have htakes : d.InputTakes "datetime" d.type.hint := .hint hlisted (by rw [hhint]; rfl)
  rw [hhint] at htakes
  refine ⟨m, hm, ⟨e, he, u, hu, ?_, ?_⟩, hshadows⟩
  · exact (hhidden "text").mpr ⟨List.mem_append_left _ htext, _, .column hc (.serverDefault hdefault)⟩
  · exact (hhiddenInput "date").mpr ⟨hname ▸ List.mem_map_of_mem hd, _, .field hd htakes⟩

end SchemaScribe
