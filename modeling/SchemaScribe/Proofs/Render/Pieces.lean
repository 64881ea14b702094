import SchemaScribe.Render.Package

/-!
# What expressions are made of

The expressions of generated modules are put together from a few kinds of pieces: words that are always
there, names that their modules import, names of their own, and texts between quotes. What holds of every
piece holds of the expression (`Code.Each`), so each expression is taken apart here once, for any property
of its words and any property of its quoted texts.

Which imported names an expression mentions depends on what it is for. The reasons of an attribute to take a
name from another module are told here from the column or the relation alone (`EntityColumn.Takes`,
`Relation.Takes`, `EntityColumn.InputTakes`).
-/

namespace SchemaScribe

open SchemaScribe.Catalog SchemaScribe.Render

/-! ## Reasons to import -/

/-- **What the attribute of a column takes from other modules**, and why. -/
inductive EntityColumn.Takes (c : EntityColumn) : (module name : String) → Prop
  | hint {module} : hintModule? c.type.hint = some module → c.Takes module c.type.hint
  | type : c.Takes "sqlalchemy" c.type.mapped
  | key : columnKey? c ≠ none → c.Takes "sqlalchemy" "ForeignKey"
  | serverDefault : serverDefault? c ≠ none → c.Takes "sqlalchemy" "text"
  | nullable : c.type.nullable = true → c.Takes "typing" "Optional"

/-- **What the attribute of a relation takes from other modules**, and why. -/
inductive Relation.Takes (r : Relation) : (module name : String) → Prop
  | relationship : r.Takes "sqlalchemy.orm" "relationship"
  | toMany : r.kind.toMany = true → r.Takes "typing" "List"
  | toOne : r.kind.toMany = false → (r.nullable = true ∨ r.owning = false) → r.Takes "typing" "Optional"

/-- **What the field of a column takes from other modules**, and why. -/
inductive EntityColumn.InputTakes (c : EntityColumn) : (module name : String) → Prop
  | listed : isListed c = true → c.InputTakes "typing" "Literal"
  | hint {module} : isListed c = false → hintModule? c.type.hint = some module →
      c.InputTakes module c.type.hint
  | field : fieldArguments c ≠ [] → c.InputTakes "pydantic" "Field"
  | nullable : c.nullable = true → c.InputTakes "typing" "Optional"
  | factory {function} : fieldDefault c = .factory function → c.InputTakes baseImport function

namespace Render

theorem mem_hintImports {hint module name : String} :
    (module, name) ∈ hintImports hint ↔ hintModule? hint = some module ∧ name = hint := by
  unfold hintImports
  cases hintModule? hint with
  | none => simp
  | some own => simp [@eq_comm _ own]

theorem columnFragment_takes {e : Entity} {c : EntityColumn} {module name : String} :
    (module, name) ∈ (columnFragment e c).imports ↔ c.Takes module name := by
  have hoption : ∀ (x : Option String) (needed : String × String),
      (module, name) ∈ x.toList.map (fun _ => needed) ↔ x ≠ none ∧ (module, name) = needed := by
    intro x needed
    cases x <;> simp
  have hnullable : (module, name) ∈ (if c.type.nullable then [("typing", "Optional")] else []) ↔
      c.type.nullable = true ∧ (module, name) = ("typing", "Optional") := by
    cases c.type.nullable <;> simp
  unfold columnFragment
  simp only [List.mem_append, hoption, hnullable, mem_hintImports, List.mem_singleton, Prod.mk.injEq,
    or_assoc]
  constructor
  · rintro (⟨hhint, rfl⟩ | ⟨rfl, rfl⟩ | ⟨hkey, rfl, rfl⟩ | ⟨hdefault, rfl, rfl⟩ | ⟨hoptional, rfl, rfl⟩)
    · exact .hint hhint
    · exact .type
    · exact .key hkey
    · exact .serverDefault hdefault
    · exact .nullable hoptional
  · intro h
    cases h with
    | hint hhint => simp [hhint]
    | type => simp
    | key hkey => simp [hkey]
    | serverDefault hdefault => simp [hdefault]
    | nullable hoptional => simp [hoptional]

theorem relationFragment_takes {o : Options} {e target : Entity} {r : Relation} {module name : String} :
    (module, name) ∈ (relationFragment o e r target).imports ↔ r.Takes module name := by
  unfold relationFragment relationHint
  cases hmany : r.kind.toMany with
  | true =>
    simp only [if_true, Option.toList_some, List.map_singleton, List.mem_cons, List.not_mem_nil, or_false,
      Prod.mk.injEq]
    constructor
    · rintro (⟨rfl, rfl⟩ | ⟨rfl, rfl⟩)
      · exact .relationship
      · exact .toMany hmany
    · intro h
      cases h with
      | relationship => simp
      | toMany => simp
      | toOne hone => exact absurd hmany (by simp [hone])
  | false =>
    have hcondition : (r.nullable || !r.owning) = true ↔ r.nullable = true ∨ r.owning = false := by simp
    by_cases hoptional : r.nullable = true ∨ r.owning = false
    · simp only [hcondition.mpr hoptional, Bool.false_eq_true, if_false, if_true, Option.toList_some,
        List.map_singleton, List.mem_cons, List.not_mem_nil, or_false, Prod.mk.injEq]
      constructor
      · rintro (⟨rfl, rfl⟩ | ⟨rfl, rfl⟩)
        · exact .relationship
        · exact .toOne hmany hoptional
      · intro h
        cases h with
        | relationship => simp
        | toMany htoMany => exact absurd htoMany (by simp [hmany])
        | toOne => simp
    · simp only [Bool.eq_false_iff.mpr (mt hcondition.mp hoptional), Bool.false_eq_true, if_false,
        Option.toList_none, List.map_nil, List.mem_singleton, Prod.mk.injEq]
      constructor
      · rintro ⟨rfl, rfl⟩
        exact .relationship
      · intro h
        cases h with
        | relationship => simp
        | toMany htoMany => exact absurd htoMany (by simp [hmany])
        | toOne _ h => exact absurd h hoptional

theorem inputFragment_takes {c : EntityColumn} {module name : String} :
    (module, name) ∈ (inputFragment c).imports ↔ c.InputTakes module name := by
  have hhint : (module, name) ∈ (if isListed c then [("typing", "Literal")] else hintImports c.type.hint) ↔
      (isListed c = true ∧ module = "typing" ∧ name = "Literal") ∨
        (isListed c = false ∧ hintModule? c.type.hint = some module ∧ name = c.type.hint) := by
    cases isListed c <;> simp [mem_hintImports]
  have hfield : (module, name) ∈ (if (fieldArguments c).isEmpty then [] else [("pydantic", "Field")]) ↔
      fieldArguments c ≠ [] ∧ module = "pydantic" ∧ name = "Field" := by
    cases fieldArguments c <;> simp
  have hnullable : (module, name) ∈ (if c.nullable then [("typing", "Optional")] else []) ↔
      c.nullable = true ∧ module = "typing" ∧ name = "Optional" := by
    cases c.nullable <;> simp
  unfold inputFragment
  simp only [List.mem_append, hhint, hfield, hnullable, or_assoc]
  constructor
  · rintro (⟨hlisted, rfl, rfl⟩ | ⟨hplain, hmodule, rfl⟩ | ⟨harguments, rfl, rfl⟩ | ⟨hoptional, rfl, rfl⟩ |
      hfactory)
    · exact .listed hlisted
    · exact .hint hplain hmodule
    · exact .field harguments
    · exact .nullable hoptional
    · split at hfactory
      · next function hdefault =>
        cases List.mem_singleton.mp hfactory
        exact .factory hdefault
      · cases hfactory
  · intro h
    cases h with
    | listed hlisted => exact .inl ⟨hlisted, rfl, rfl⟩
    | hint hplain hmodule => exact .inr (.inl ⟨hplain, hmodule, rfl⟩)
    | field harguments => exact .inr (.inr (.inl ⟨harguments, rfl, rfl⟩))
    | nullable hoptional => exact .inr (.inr (.inr (.inl ⟨hoptional, rfl, rfl⟩)))
    | factory hdefault =>
      rw [hdefault]
      exact .inr (.inr (.inr (.inr (List.mem_singleton_self _))))

/-! ## Types -/

/-- The type hints of generated code, each with the type of a mapped column that goes with it. -/
def knownTypes : List (String × String) :=
  typeTable.map (fun row => (row.1.hint, row.1.mapped)) ++ ScalarKind.all.map kindDefault ++ [("str", "String")]

/-- The types of generated code are known beforehand, whatever a database reports. -/
theorem resolveType_known {dataType : String} {nullable : Bool} {overrides : List (String × ScalarKind)}
    {enumValues : List String} {type : ColumnType}
    (h : resolveType dataType nullable overrides enumValues = some type) :
    (type.hint, type.mapped) ∈ knownTypes := by
  have hkind : ∀ kind, kindDefault kind ∈ knownTypes := by
    intro kind
    cases kind <;> decide
  unfold resolveType at h
  split at h
  · next kind _ =>
    cases h
    show ((kindDefault kind).1, if _ then "String" else (kindDefault kind).2) ∈ knownTypes
    split
    · next henum =>
      have heq : kind = .enum := by simpa using (Bool.and_eq_true_iff.mp henum).1
      rw [heq]
      decide
    · exact hkind kind
  · split at h
    · cases h
      exact hkind .enum
    · obtain ⟨entry, hentry, rfl⟩ := Option.map_eq_some_iff.mp h
      unfold typeUnder? at hentry
      obtain ⟨row, hrow, rfl⟩ := Option.map_eq_some_iff.mp hentry
      apply List.mem_append_left
      apply List.mem_append_left
      exact List.mem_map.mpr ⟨row, List.mem_of_find?_eq_some hrow, rfl⟩

/-! ## Pieces -/

mutual

/-- **An expression of which every piece is as told**: `p` holds of its words and of the names of its
parameters, and `q` of its quoted texts. Literals may have any text. -/
def Code.Each (p q : String → Prop) : Code → Prop
  | .plain text => p text
  | .literal _ => True
  | .quoted text => q text
  | .call callee arguments => p callee ∧ AllEach p q arguments
  | .named parameter value => p parameter ∧ value.Each p q
  | .subscript head items => p head ∧ AllEach p q items
  | .list items => AllEach p q items
  | .dict _ value => value.Each p q

/-- Expressions of which every piece is as told. -/
def AllEach (p q : String → Prop) : List Code → Prop
  | [] => True
  | code :: rest => code.Each p q ∧ AllEach p q rest

end

section

variable {p q : String → Prop}

theorem allEach_iff {items : List Code} : AllEach p q items ↔ ∀ code ∈ items, code.Each p q := by
  induction items with
  | nil => exact iff_of_true trivial fun _ h => absurd h List.not_mem_nil
  | cons code rest ih => rw [AllEach, List.forall_mem_cons, ih]

/-- The names of all parameters. -/
def parameters : List String := [
  "name", "primary_key", "autoincrement", "nullable", "unique", "server_default", "comment", "ondelete",
  "schema", "secondary", "primaryjoin", "secondaryjoin", "foreign_keys", "remote_side", "back_populates",
  "uselist", "lazy", "alias", "default", "default_factory"]

/-- The constants of expressions; the place of values that are not there stays empty. -/
def constants : List String := ["", "True", "False", "None", "0", "\"\""]

/-- **A property of words that says nothing about imports**: it holds of the words that are always there and
of numbers. -/
structure Neutral (p : String → Prop) : Prop where
  parameter : ∀ word ∈ parameters, p word
  constant : ∀ word ∈ constants, p word
  number : ∀ n : Int, p (toString n)

theorem each_named (hp : Neutral p) {parameter : String} (h : parameter ∈ parameters) {value : Code}
    (hvalue : value.Each p q) : (Code.named parameter value).Each p q :=
  ⟨hp.parameter parameter h, hvalue⟩

theorem truth_each (hp : Neutral p) (b : Bool) : (Code.truth b).Each p q := by
  cases b with
  | true => exact hp.constant "True" (by decide)
  | false => exact hp.constant "False" (by decide)

theorem literals_each (items : List String) : (Code.literals items).Each p q := by
  apply allEach_iff.mpr
  intro code hcode
  obtain ⟨item, _, rfl⟩ := List.mem_map.mp hcode
  trivial

theorem namedText_each (hp : Neutral p) {parameter : String} (h : parameter ∈ parameters)
    (text : Option String) : ∀ code ∈ namedText parameter text, code.Each p q := by
  intro code hcode
  obtain ⟨s, _, rfl⟩ := List.mem_map.mp hcode
  exact each_named hp h trivial

theorem fieldSpec_each (hp : Neutral p) (hspec : p "FieldSpec") (name kind : String) (nullable : Bool)
    (target : Option String) : (fieldSpec name kind nullable target).Each p q := by
  refine ⟨hspec, allEach_iff.mpr ?_⟩
  simp only [List.forall_mem_append, List.forall_mem_cons, List.not_mem_nil, false_implies,
    implies_true, and_true]
  refine ⟨⟨trivial, trivial, truth_each hp nullable⟩, ?_⟩
  cases target with
  | none => exact List.forall_mem_nil _
  | some entity =>
    exact List.forall_mem_cons.mpr ⟨truth_each hp true, List.forall_mem_singleton.mpr trivial⟩

theorem optionalCode_each {nullable : Bool} (hoptional : nullable = true → p "Optional") {hint : Code}
    (h : hint.Each p q) : (optionalCode nullable hint).Each p q := by
  unfold optionalCode
  split
  · next hnullable => exact ⟨hoptional hnullable, h, trivial⟩
  · exact h

/-! ## Attributes of columns -/

theorem columnTypeCode_each (hp : Neutral p) (e : Entity) {c : EntityColumn} (h : p c.type.mapped) :
    (columnTypeCode e c).Each p q := by
  unfold columnTypeCode
  split
  · next henum =>
    refine ⟨henum ▸ h, allEach_iff.mpr ?_⟩
    unfold enumArguments
    rw [List.forall_mem_append, List.forall_mem_singleton]
    refine ⟨?_, each_named hp (by decide) trivial⟩
    split
    · exact List.forall_mem_singleton.mpr (hp.constant "" (by decide))
    · rw [List.forall_mem_map]
      intro _ _
      trivial
  · split
    · next hmapped _ =>
      rw [hmapped] at h
      split
      · exact h
      · exact ⟨h, hp.number _, trivial⟩
    · next hmapped _ _ =>
      rw [hmapped] at h
      exact ⟨h, hp.number _, hp.number _, trivial⟩
    · next hmapped _ _ =>
      rw [hmapped] at h
      exact ⟨h, hp.number _, trivial⟩
    · exact h

theorem keyArguments_each (hp : Neutral p) (e : Entity) (c : EntityColumn) :
    ∀ code ∈ keyArguments e c, code.Each p q := by
  unfold keyArguments
  split
  · rw [List.forall_mem_cons]
    refine ⟨each_named hp (by decide) (truth_each hp true), ?_⟩
    split
    · exact List.forall_mem_singleton.mpr (each_named hp (by decide) (truth_each hp true))
    · split
      · exact List.forall_mem_singleton.mpr (each_named hp (by decide) (truth_each hp false))
      · exact List.forall_mem_nil _
  · exact List.forall_mem_singleton.mpr (each_named hp (by decide) (truth_each hp c.nullable))

section

variable (hp : Neutral p) (e : Entity) {c : EntityColumn}
  (htakes : ∀ {module name : String}, c.Takes module name → p name)

include hp htakes

theorem columnArguments_each : ∀ code ∈ columnArguments e c, code.Each p q := by
  unfold columnArguments
  simp only [List.forall_mem_append, List.forall_mem_singleton]
  refine ⟨⟨⟨⟨⟨⟨?_, columnTypeCode_each hp e (htakes .type)⟩, ?_⟩, keyArguments_each hp e c⟩, ?_⟩, ?_⟩,
    namedText_each hp (by decide) c.comment⟩
  · split
    · exact List.forall_mem_nil _
    · exact List.forall_mem_singleton.mpr trivial
  · intro code hcode
    obtain ⟨key, hkey, rfl⟩ := List.mem_map.mp hcode
    have hsome : columnKey? c ≠ none := by
      rw [Option.mem_toList.mp hkey]
      exact Option.some_ne_none key
    exact ⟨htakes (.key hsome), trivial, trivial⟩
  · split
    · exact List.forall_mem_singleton.mpr (each_named hp (by decide) (truth_each hp true))
    · exact List.forall_mem_nil _
  · intro code hcode
    obtain ⟨text, htext, rfl⟩ := List.mem_map.mp hcode
    have hsome : serverDefault? c ≠ none := by
      rw [Option.mem_toList.mp htext]
      exact Option.some_ne_none text
    exact each_named hp (by decide) ⟨htakes (.serverDefault hsome), trivial, trivial⟩

/-- **The attribute of a column** mentions what the column is a reason to import, its type hint, and the two
names that all columns need. -/
theorem columnFragment_each (hmapped : p "Mapped") (hcolumn : p "mapped_column") (hhint : p c.type.hint) :
    (columnFragment e c).hint.Each p q ∧ ∀ code ∈ (columnFragment e c).value, code.Each p q := by
  constructor
  · exact ⟨hmapped, optionalCode_each (fun hnullable => htakes (.nullable hnullable)) hhint, trivial⟩
  · intro code hcode
    cases hcode
    exact ⟨hcolumn, allEach_iff.mpr (columnArguments_each hp e htakes)⟩

end

/-! ## Attributes of relations -/

theorem joinArguments_each (hp : Neutral p) (e : Entity) {r : Relation}
    (hvariable : p (joinVariable (r.joinTable.getD ""))) : ∀ code ∈ joinArguments e r, code.Each p q := by
  unfold joinArguments
  rw [List.forall_mem_cons]
  constructor
  · apply each_named hp (by decide)
    split
    · exact hvariable
    · trivial
  · split
    · exact List.forall_mem_cons.mpr ⟨each_named hp (by decide) trivial,
        List.forall_mem_singleton.mpr (each_named hp (by decide) trivial)⟩
    · exact List.forall_mem_nil _

/-- The property lists of a relation of an entity: that of its key, and that of the properties referred to. -/
def keyLists (e : Entity) (r : Relation) : List Code :=
  [propertyList ((filled? r.fkEntity).getD e.name) r.fkProperties, propertyList e.name r.remoteProperties]

theorem keyColumnArguments_each (hp : Neutral p) {e : Entity} {r : Relation}
    (h : ∀ code ∈ keyLists e r, code.Each p q) : ∀ code ∈ keyColumnArguments e r, code.Each p q := by
  obtain ⟨hown, hremote⟩ := List.forall_mem_cons.mp h
  unfold keyColumnArguments
  split
  · exact List.forall_mem_nil _
  · rw [List.forall_mem_cons]
    refine ⟨each_named hp (by decide) hown, ?_⟩
    split
    · exact List.forall_mem_singleton.mpr (each_named hp (by decide) (hremote _ List.mem_cons_self))
    · exact List.forall_mem_nil _

theorem relationHint_each {r : Relation} {target : Entity}
    (htakes : ∀ {module name : String}, r.Takes module name → p name) (htarget : q target.name) :
    (relationHint r target).1.Each p q := by
  unfold relationHint
  split
  · next hmany => exact ⟨htakes (.toMany hmany), htarget, trivial⟩
  · next hmany =>
    split
    · next hoptional =>
      refine ⟨htakes (.toOne (Bool.eq_false_iff.mpr hmany) ?_), htarget, trivial⟩
      simpa using hoptional
    · exact htarget

section

variable (hp : Neutral p) (o : Options) {e target : Entity} {r : Relation}
  (hvariable : p (joinVariable (r.joinTable.getD ""))) (hlazy : q "select" ∧ q "selectin")

include hp hvariable hlazy

theorem relationArguments_each (hlists : r.kind ≠ .manyToMany → ∀ code ∈ keyLists e r, code.Each p q) :
    ∀ code ∈ relationArguments o e r, code.Each p q := by
  unfold relationArguments
  simp only [List.forall_mem_append, List.forall_mem_singleton]
  refine ⟨⟨⟨?_, namedText_each hp (by decide) r.inverseName⟩, ?_⟩, each_named hp (by decide) ?_⟩
  · split
    · exact joinArguments_each hp e hvariable
    · next hkind => exact keyColumnArguments_each hp (hlists hkind)
  · split
    · exact List.forall_mem_singleton.mpr (each_named hp (by decide) (truth_each hp false))
    · exact List.forall_mem_nil _
  · show q (if o.lazyRelations then "select" else "selectin")
    split
    · exact hlazy.1
    · exact hlazy.2

/-- **The attribute of a relation** mentions what the relation is a reason to import, its join table, and
between quotes its target and its key. -/
theorem relationFragment_each (htakes : ∀ {module name : String}, r.Takes module name → p name)
    (hmapped : p "Mapped") (htarget : q target.name) :
    (relationFragment o e r target).hint.Each p q ∧
      ((r.kind ≠ .manyToMany → ∀ code ∈ keyLists e r, code.Each p q) →
        ∀ code ∈ (relationFragment o e r target).value, code.Each p q) := by
  refine ⟨⟨hmapped, relationHint_each htakes htarget, trivial⟩, fun hlists code hcode => ?_⟩
  cases hcode
  exact ⟨htakes .relationship, allEach_iff.mpr (relationArguments_each hp o hvariable hlazy hlists)⟩

end

/-! ## Tables -/

theorem tableArguments_each (hp : Neutral p) (m : Model) {e : Entity}
    (hkeys : e.compositeKeys ≠ [] → p "ForeignKeyConstraint")
    (hunique : e.uniqueConstraints ≠ [] → p "UniqueConstraint") :
    ∀ code ∈ tableArguments m e, code.Each p q := by
  unfold tableArguments
  simp only [List.forall_mem_append, List.forall_mem_map]
  refine ⟨⟨fun k hk => ?_, fun i hi => ?_⟩, fun _ _ => trivial⟩
  · refine ⟨hkeys (List.ne_nil_of_mem hk), allEach_iff.mpr ?_⟩
    simp only [List.forall_mem_append, List.forall_mem_cons, List.not_mem_nil, false_implies,
      implies_true, and_true]
    exact ⟨⟨⟨literals_each _, literals_each _⟩, namedText_each hp (by decide) k.name⟩,
      namedText_each hp (by decide) k.onDelete⟩
  · refine ⟨hunique (List.ne_nil_of_mem hi), allEach_iff.mpr ?_⟩
    rw [List.forall_mem_append, List.forall_mem_map]
    exact ⟨fun _ _ => trivial, namedText_each hp (by decide) i.name⟩

theorem joinTableArguments_each (hp : Neutral p) (m : Model) (r : Relation) (hmetadata : p "Base.metadata")
    (hcolumn : p "Column") (hkey : p "ForeignKey") : ∀ code ∈ joinTableArguments m r, code.Each p q := by
  have hjoin : ∀ (target : Option Entity) (pair : String × String),
      (joinColumnCode target pair).Each p q := fun _ _ =>
    ⟨hcolumn, trivial, ⟨hkey, trivial, trivial⟩, each_named hp (by decide) (truth_each hp true), trivial⟩
  unfold joinTableArguments
  simp only [List.forall_mem_append, List.forall_mem_cons, List.forall_mem_map]
  exact ⟨⟨⟨⟨trivial, hmetadata, List.forall_mem_nil _⟩, fun pair _ => hjoin _ pair⟩,
    fun pair _ => hjoin _ pair⟩, namedText_each hp (by decide) r.joinSchema⟩

/-! ## Fields of input models -/

theorem fieldDefault_value (hp : Neutral p) {c : EntityColumn} {text : String}
    (h : fieldDefault c = .value text) : p text := by
  apply hp.constant
  unfold fieldDefault at h
  repeat' split at h
  all_goals cases h
  all_goals decide

section

variable (hp : Neutral p) {c : EntityColumn}
  (htakes : ∀ {module name : String}, c.InputTakes module name → p name)

include hp htakes

theorem fieldArguments_each : ∀ code ∈ fieldArguments c, code.Each p q := by
  unfold fieldArguments
  have hrenamed : ∀ code ∈ (if isPrivate c.property then [Code.named "alias" (.literal c.property)] else []),
      code.Each p q := by
    split
    · exact List.forall_mem_singleton.mpr (each_named hp (by decide) trivial)
    · exact List.forall_mem_nil _
  generalize (if isPrivate c.property then [Code.named "alias" (.literal c.property)] else []) = renamed
    at hrenamed
  dsimp only
  split
  · next function hfunction =>
    have hvalue : (Code.plain function).Each p q := htakes (.factory hfunction)
    exact List.forall_mem_cons.mpr ⟨each_named hp (by decide) hvalue, hrenamed⟩
  · next text htext =>
    have hvalue : (Code.plain text).Each p q := fieldDefault_value hp htext
    split
    · exact List.forall_mem_nil _
    · exact List.forall_mem_cons.mpr ⟨each_named hp (by decide) hvalue, hrenamed⟩
  · exact hrenamed

/-- **The field of a column** mentions what the column is a reason to import, and its type hint. -/
theorem inputFragment_each (hhint : isListed c = false → p c.type.hint) :
    (inputFragment c).hint.Each p q ∧ ∀ code ∈ (inputFragment c).value, code.Each p q := by
  constructor
  · refine optionalCode_each (fun hnullable => htakes (.nullable hnullable)) ?_
    unfold fieldHint
    split
    · next hlisted =>
      refine ⟨htakes (.listed hlisted), allEach_iff.mpr ?_⟩
      rw [List.forall_mem_map]
      intro _ _
      trivial
    · next hlisted => exact hhint (Bool.eq_false_iff.mpr hlisted)
  · intro code hcode
    change fieldValue c = some code at hcode
    have harguments := fieldArguments_each (q := q) hp htakes
    unfold fieldValue at hcode
    split at hcode
    · next htext =>
      cases hcode
      exact fieldDefault_value hp htext
    · cases hcode
    · next hne _ =>
      cases hcode
      exact ⟨htakes (.field hne), allEach_iff.mpr harguments⟩

end

end

end Render

end SchemaScribe
