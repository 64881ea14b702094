import SchemaScribe.Proofs.Render.Imports

/-!
# What generated code mentions is imported

A module mentions names of other modules in the hints and values of its attributes, in its join tables, in
its bases, in the arguments of its table and in the description of its fields. Its imports are asked for
elsewhere. That they go together is shown by reading the text (`SourceUnit.Covered`): every word outside a
literal that can be imported (`vocabulary`) is imported from its module.

Words get into the text in two ways. What the renderer mentions itself it has a reason to import
(`Entity.Takes`). What comes from a catalog is spelled out in literals or is a name that cannot be imported,
with one exception: the properties of a key are put between double quotes as they stand. They are names
wherever the key refers to columns that are there, as the keys of checked catalogs do
(`relations_quotable`); a column that is not there is listed by its own text, which may end the literal.
-/

namespace SchemaScribe

open SchemaScribe.Catalog SchemaScribe.Render SchemaScribe.Text

namespace Render

/-! ## Words of expressions -/

mutual

/-- The words of an expression are those of its pieces. -/
theorem Code.Each.reads {p : String → Prop} :
    ∀ {code : Code}, code.Each (Reads p) (fun text => Verbatim text.toList) → Reads p code.shown
  | .plain _, h => h
  | .literal text, _ => reads_literal text
  | .quoted _, h => reads_quoted h
  | .call _ _, h => by
    have harguments := reads_intercalate (d := ", ") (by decide) (AllEach.reads h.2)
    exact (h.1.delimited (by decide) harguments).followed (by decide)
  | .named _ _, h => h.1.delimited (by decide) (Code.Each.reads h.2)
  | .subscript _ _, h => by
    have hitems := reads_intercalate (d := ", ") (by decide) (AllEach.reads h.2)
    exact (h.1.delimited (by decide) hitems).followed (by decide)
  | .list _, h => by
    have hitems := reads_intercalate (d := ", ") (by decide) (AllEach.reads h)
    exact (hitems.preceded (by decide)).followed (by decide)
  | .dict key value, h => by
    have hkey := (reads_literal key).preceded (p := p) (d := "\x7b") (by decide)
    exact (hkey.delimited (by decide) (@Code.Each.reads p value h)).followed (by decide)

theorem AllEach.reads {p : String → Prop} :
    ∀ {items : List Code}, AllEach (Reads p) (fun text => Verbatim text.toList) items →
      ∀ s ∈ shownAll items, Reads p s
  | [], _ => fun _ hs => absurd hs List.not_mem_nil
  | _ :: _, h => List.forall_mem_cons.mpr ⟨Code.Each.reads h.1, AllEach.reads h.2⟩

end

/-! ## Words that can be imported -/

/-- **The names that generated modules import**, each under its module. -/
def vocabulary : Imports := [
  ("datetime", ["date", "datetime", "time"]),
  ("decimal", ["Decimal"]),
  ("typing", ["Any", "ClassVar", "List", "Literal", "Optional", "TYPE_CHECKING", "Tuple"]),
  ("pydantic", ["Field"]),
  ("sqlalchemy", ["BigInteger", "Boolean", "Column", "Date", "DateTime", "Enum", "Float", "ForeignKey",
    "ForeignKeyConstraint", "Integer", "JSON", "LargeBinary", "Numeric", "SmallInteger", "String", "Table",
    "Text", "Time", "UniqueConstraint", "text"]),
  ("sqlalchemy.orm", ["Mapped", "mapped_column", "relationship"]),
  (baseImport, ["Base", "BaseInput", "FieldSpec", "IdentityMixin", "current_time", "now", "today"])]

/-- A word that is imported if it can be. -/
def SourceUnit.Covers (u : SourceUnit) (word : String) : Prop :=
  ∀ module, vocabulary.Provides module word → u.allImports.Provides module word

/-- **A module that imports what it mentions**: whatever can be imported and stands as a word outside the
literals of its attributes, its join tables, its bases and the description of its fields. Where it has a
block for type checkers, it imports the name that opens it. Nothing is said of the values of exempt
relations. -/
structure SourceUnit.Covered (u : SourceUnit) (exempt : List String) : Prop where
  hints : ∀ f ∈ u.fields ++ u.relations, ∀ word ∈ words f.hint.shown, u.Covers word
  values : ∀ f ∈ u.fields, ∀ value ∈ f.value, ∀ word ∈ words value.shown, u.Covers word
  joins : ∀ f ∈ u.relations, f.name ∉ exempt → ∀ value ∈ f.value, ∀ word ∈ words value.shown, u.Covers word
  prelude : ∀ line ∈ u.prelude, ∀ word ∈ words line, u.Covers word
  bases : ∀ base ∈ u.bases, ∀ word ∈ words base, u.Covers word
  description : ∀ line ∈ u.fieldSpecLines, ∀ word ∈ words line, u.Covers word
  typeBlock : u.typeImportLines ≠ [] → u.allImports.Provides "typing" "TYPE_CHECKING"

theorem vocabulary_module {module module' name : String} (h : vocabulary.Provides module name)
    (h' : vocabulary.Provides module' name) : module = module' := by
  have hdistinct : ∀ entry ∈ vocabulary, ∀ entry' ∈ vocabulary, ∀ name ∈ entry.2, name ∈ entry'.2 →
      entry.1 = entry'.1 := by decide
  obtain ⟨names, hmem, hname⟩ := h
  obtain ⟨names', hmem', hname'⟩ := h'
  exact hdistinct _ hmem _ hmem' name hname hname'

section

variable {u : SourceUnit} {module word : String}

/-- A word that is imported from where it can be is covered. -/
theorem reads_of_provides (hword : vocabulary.Provides module word)
    (h : u.allImports.Provides module word) : Reads u.Covers word := by
  have hnames : ∀ entry ∈ vocabulary, ∀ name ∈ entry.2, name.toList.all isIdentifierChar = true := by
    decide
  obtain ⟨names, hmem, hname⟩ := hword
  apply reads_name (List.all_eq_true.mp (hnames _ hmem word hname))
  intro module' hword'
  rw [← vocabulary_module ⟨names, hmem, hname⟩ hword']
  exact h

/-- A word that cannot be imported is covered. -/
theorem reads_of_not_mem (hchars : word.toList.all isIdentifierChar = true)
    (h : word ∉ vocabulary.names) : Reads u.Covers word := by
  apply reads_name (List.all_eq_true.mp hchars)
  intro module hword
  exact absurd (Imports.mem_names.mpr ⟨module, hword⟩) h

/-- Numbers cannot be imported. -/
theorem reads_nat (n : Nat) : Reads u.Covers (toString n) := by
  have hdigits : ∀ c ∈ (toString n).toList, c.isDigit = true := by
    rw [Nat.toString_eq_repr, Nat.toList_repr]
    exact isDigit_of_mem_digits
  apply reads_of_not_mem
  · rw [List.all_eq_true]
    intro c hc
    simp [isIdentifierChar, Char.isAlphanum, hdigits c hc]
  · intro hmem
    have hletter : ∀ name ∈ vocabulary.names, name.toList.all Char.isDigit = false := by decide
    exact Bool.false_ne_true ((hletter _ hmem).symm.trans (List.all_eq_true.mpr hdigits))

theorem reads_int : ∀ n : Int, Reads u.Covers (toString n)
  | .ofNat n => reads_nat n
  | .negSucc n => (reads_nat (n + 1)).preceded (d := "-") (by decide)

theorem neutral_reads : Neutral (Reads u.Covers) where
  parameter := by
    have hparameters : ∀ name ∈ parameters,
        name.toList.all isIdentifierChar = true ∧ name ∉ vocabulary.names := by decide
    intro name hname
    obtain ⟨hchars, hmem⟩ := hparameters name hname
    exact reads_of_not_mem hchars hmem
  constant := by
    have hconstants : ∀ name ∈ constants,
        name = "\"\"" ∨ name.toList.all isIdentifierChar = true ∧ name ∉ vocabulary.names := by
      decide
    intro name hname
    rcases hconstants name hname with rfl | ⟨hchars, hmem⟩
    · exact reads_quoted (s := "") (by decide)
    · exact reads_of_not_mem hchars hmem
  number := reads_int

/-! ## Names of a module's own -/

/-- The variable of a join table cannot be imported. -/
theorem reads_joinVariable (table : String) : Reads u.Covers (joinVariable table) := by
  apply reads_of_not_mem (List.all_eq_true.mpr (isIdentifierChar_of_isName (joinVariable_isName table)))
  intro hmem
  have hvocabulary : ∀ name ∈ vocabulary.names, ¬ ['_', 't', 'a', 'b', 'l', 'e'] <:+ name.toList := by
    decide
  exact hvocabulary _ hmem (suffix_joinVariable table)

/-- A name can be put between quotes as it stands. -/
theorem verbatim_of_isName {name : String} (h : IsName name) : Verbatim name.toList := by
  have hne : ∀ c ∈ name.toList, c ≠ '"' ∧ c ≠ '\\' ∧ c ≠ '\n' ∧ c ≠ '\r' := fun c hc =>
    ne_of_isIdentifierChar (by decide) (isIdentifierChar_of_isName h c hc)
  refine ⟨fun c hc => ⟨(hne c hc).1, (hne c hc).2.2⟩, fun hlast => ?_⟩
  exact (hne '\\' (List.mem_of_getLast? hlast)).2.1 rfl

end

end Render

/-! ## Keys of relations -/

/-- **A relation whose key can be quoted as it stands**: no property that it lists has a double quote or a
line end in it. -/
def Relation.Quotable (r : Relation) : Prop :=
  ∀ property ∈ r.fkProperties ++ r.remoteProperties, ∀ c ∈ property.toList, Inner c

instance (r : Relation) : Decidable r.Quotable :=
  decidable_of_iff ((r.fkProperties ++ r.remoteProperties).all (fun property =>
      property.toList.all fun c => decide (Inner c)) = true) <| by
    simp only [Relation.Quotable, List.all_eq_true, decide_eq_true_eq]

namespace Render

/-- A list of properties can be quoted if its properties can. -/
theorem verbatim_properties {entity : String} {properties : List String} (hentity : IsName entity)
    (h : ∀ property ∈ properties, ∀ c ∈ property.toList, Inner c) :
    Verbatim ("[" ++ ", ".intercalate (properties.map fun p => entity ++ "." ++ p) ++ "]").toList := by
  have hitems : ∀ c ∈ (", ".intercalate (properties.map fun p => entity ++ "." ++ p)).toList, Inner c := by
    have hseparator : Verbatim ", ".toList := by decide
    have hdot : Verbatim ".".toList := by decide
    apply forall_mem_intercalate hseparator.characters
    rw [List.forall_mem_map]
    intro property hproperty
    simp only [String.toList_append, List.forall_mem_append]
    exact ⟨⟨(verbatim_of_isName hentity).characters, hdot.characters⟩, h property hproperty⟩
  have hopening : Verbatim "[".toList := by decide
  have hclosing : Verbatim "]".toList := by decide
  rw [String.toList_append, String.toList_append]
  constructor
  · simp only [List.forall_mem_append]
    exact ⟨⟨hopening.characters, hitems⟩, hclosing.characters⟩
  · have hlast : "]".toList.getLast? = some ']' := by decide
    rw [List.getLast?_append, hlast]
    simp

end Render

/-! ## What entities take -/

/-- **An entity whose parts are known or names**: the types of its columns are known, and its name and those
of the holders of its keys are identifiers. -/
structure Entity.Legible (e : Entity) : Prop where
  name : IsName e.name
  types : ∀ c ∈ e.columns, (c.type.hint, c.type.mapped) ∈ knownTypes
  holders : ∀ r ∈ e.relations, ∀ name ∈ r.fkEntity, IsName name

namespace Render

/-- What type hints need imported can be imported. -/
theorem vocabulary_hint {hint module : String} (h : hintModule? hint = some module) :
    vocabulary.Provides module hint := by
  unfold hintModule? at h
  split at h
  all_goals cases h
  all_goals decide

theorem vocabulary_mapped {hint mapped : String} (h : (hint, mapped) ∈ knownTypes) :
    vocabulary.Provides "sqlalchemy" mapped := by
  have hknown : ∀ known ∈ knownTypes, vocabulary.Provides "sqlalchemy" known.2 := by decide
  exact hknown _ h

/-- **The module of an entity imports nothing else** than what generated modules import. -/
theorem vocabulary_takes {e : Entity} (he : e.Legible) {module name : String} (h : e.Takes module name) :
    vocabulary.Provides module name := by
  cases h with
  | mapped hname => revert name; decide
  | base hname => revert name; decide
  | identity => decide
  | description _ hname => revert name; decide
  | column hc htakes =>
    cases htakes with
    | hint hmodule => exact vocabulary_hint hmodule
    | type => exact vocabulary_mapped (he.types _ (mem_of_mem_ownColumns hc))
    | key => decide
    | serverDefault => decide
    | nullable => decide
  | relation _ htakes => cases htakes <;> decide
  | compositeKey => decide
  | unique => decide
  | joinTable _ _ _ hname => revert name; decide
  | other => decide

/-- **The module of an input model imports nothing else** either. -/
theorem vocabulary_inputTakes {o : Options} {e : Entity} {module name : String}
    (h : e.InputTakes o module name) : vocabulary.Provides module name := by
  cases h with
  | base hname => revert name; decide
  | description _ hname => revert name; decide
  | field _ htakes =>
    cases htakes with
    | listed => decide
    | hint _ hmodule => exact vocabulary_hint hmodule
    | field => decide
    | nullable => decide
    | factory hdefault =>
      unfold fieldDefault at hdefault
      repeat' split at hdefault
      all_goals cases hdefault
      next hfactory =>
        unfold dateFactory? at hfactory
        split at hfactory
        all_goals cases hfactory
        all_goals decide

section

variable {u : SourceUnit}

/-- A type hint is imported, or cannot be. -/
theorem reads_hint {hint mapped : String} (h : (hint, mapped) ∈ knownTypes)
    (himport : ∀ module, hintModule? hint = some module → u.allImports.Provides module hint) :
    Reads u.Covers hint := by
  have hknown : ∀ known ∈ knownTypes, hintModule? known.1 = none →
      known.1.toList.all isIdentifierChar = true ∧ known.1 ∉ vocabulary.names := by decide
  cases hmodule : hintModule? hint with
  | none =>
    obtain ⟨hchars, hmem⟩ := hknown _ h hmodule
    exact reads_of_not_mem hchars hmem
  | some module => exact reads_of_provides (vocabulary_hint hmodule) (himport module hmodule)

/-- The description of the fields mentions what opens it, and what its entries mention. -/
theorem fieldSpecLines_covered
    (hspec : u.allImports.Provides baseImport "FieldSpec")
    (hspecs : ∀ code ∈ u.fieldSpecs, code.Each (Reads u.Covers) (fun text => Verbatim text.toList)) :
    ∀ line ∈ u.fieldSpecLines, ∀ word ∈ words line, u.Covers word := by
  unfold SourceUnit.fieldSpecLines
  split
  · exact List.forall_mem_nil _
  · next hfilled =>
    have himports : ∀ name ∈ ["ClassVar", "Tuple"], u.allImports.Provides "typing" name := fun name hname =>
      SourceUnit.provides_allImports.mpr (.inr (.inr (.inr ⟨by simpa using hfilled, rfl, hname⟩)))
    have hopening : words "__field_specs__: ClassVar[Tuple[FieldSpec, ...]] = (" =
        ["__field_specs__", "ClassVar", "Tuple", "FieldSpec"] := by decide
    have hclosing : words ")" = [] := by decide
    have hentry : ∀ code ∈ u.fieldSpecs, Reads u.Covers (indent (code.shown ++ ",")) := fun code hcode =>
      ((hspecs code hcode).reads.followed (by decide)).preceded (by decide)
    have hcovers : ∀ {module word : String}, vocabulary.Provides module word →
        u.allImports.Provides module word → u.Covers word := fun hword h module hword' =>
      vocabulary_module hword hword' ▸ h
    rw [List.forall_mem_append, List.forall_mem_cons, List.forall_mem_map, List.forall_mem_singleton,
      hopening, hclosing]
    refine ⟨⟨?_, fun code hcode => (hentry code hcode).words⟩, List.forall_mem_nil _⟩
    simp only [List.forall_mem_cons]
    refine ⟨fun module hword => ?_, hcovers (by decide) (himports "ClassVar" (by decide)),
      hcovers (by decide) (himports "Tuple" (by decide)), hcovers (by decide) hspec,
      List.forall_mem_nil _⟩
    exact absurd (Imports.mem_names.mpr ⟨module, hword⟩) (by decide)

/-- A module is covered if its parts are, piece by piece. -/
theorem covered_of_each {exempt : List String}
    (hhints : ∀ f ∈ u.fields ++ u.relations, f.hint.Each (Reads u.Covers) fun text => Verbatim text.toList)
    (hvalues : ∀ f ∈ u.fields, ∀ code ∈ f.value, code.Each (Reads u.Covers) fun text => Verbatim text.toList)
    (hjoins : ∀ f ∈ u.relations, f.name ∉ exempt →
      ∀ code ∈ f.value, code.Each (Reads u.Covers) fun text => Verbatim text.toList)
    (hprelude : ∀ line ∈ u.prelude, Reads u.Covers line) (hbases : ∀ base ∈ u.bases, Reads u.Covers base)
    (hspec : u.allImports.Provides baseImport "FieldSpec")
    (hspecs : ∀ code ∈ u.fieldSpecs, code.Each (Reads u.Covers) fun text => Verbatim text.toList) :
    u.Covered exempt where
  hints := fun f hf => (hhints f hf).reads.words
  values := fun f hf value hvalue => (hvalues f hf value hvalue).reads.words
  joins := fun f hf hexempt value hvalue => (hjoins f hf hexempt value hvalue).reads.words
  prelude := fun line hline => (hprelude line hline).words
  bases := fun base hbase => (hbases base hbase).words
  description := fieldSpecLines_covered hspec hspecs
  typeBlock := by
    intro hlines
    apply SourceUnit.provides_allImports.mpr
    refine .inr (.inr (.inl ⟨fun hnil => hlines ?_, rfl, rfl⟩))
    unfold SourceUnit.typeImportLines
    rw [hnil]
    rfl

end

/-! ## Modules -/

/-- The keys of a relation are listed between quotes. -/
theorem keyLists_verbatim {p : String → Prop} {e : Entity} {r : Relation} (he : IsName e.name)
    (hholder : ∀ name ∈ r.fkEntity, IsName name) (h : r.Quotable) :
    ∀ code ∈ keyLists e r, code.Each p (fun text => Verbatim text.toList) := by
  obtain ⟨hstored, hreferred⟩ := List.forall_mem_append.mp h
  have hname : IsName ((filled? r.fkEntity).getD e.name) := by
    cases hfilled : filled? r.fkEntity with
    | none => exact he
    | some name => exact hholder name (filled?_eq_some.mp hfilled).1
  exact List.forall_mem_cons.mpr ⟨verbatim_properties hname hstored,
    List.forall_mem_singleton.mpr (verbatim_properties he hreferred)⟩

/-- A join table mentions its own variable besides what declares it. -/
theorem joinTableLines_reads {p : String → Prop} (hp : Neutral (Reads p)) (m : Model) (r : Relation)
    (hvariable : Reads p (joinVariable (r.joinTable.getD "")))
    (hnames : ∀ name ∈ ["Base", "metadata", "Table", "Column", "ForeignKey"], Reads p name) :
    ∀ line ∈ joinTableLines m r, Reads p line := by
  have hmetadata : Reads p "Base.metadata" := by
    have htext : "Base" ++ "." ++ "metadata" = "Base.metadata" := by decide
    rw [← htext]
    exact (hnames "Base" (by decide)).delimited (by decide) (hnames "metadata" (by decide))
  have harguments := joinTableArguments_each (q := fun text => Verbatim text.toList) hp m r hmetadata
    (hnames "Column" (by decide)) (hnames "ForeignKey" (by decide))
  have hopening : joinVariable (r.joinTable.getD "") ++ " = Table(" =
      joinVariable (r.joinTable.getD "") ++ " = " ++ "Table" ++ "(" := by
    have hassign : " = Table(" = " = " ++ ("Table" ++ "(") := by decide
    rw [hassign, ← String.append_assoc, ← String.append_assoc]
  unfold joinTableLines
  rw [List.forall_mem_append, List.forall_mem_cons, List.forall_mem_map, List.forall_mem_singleton, hopening]
  refine ⟨⟨?_, fun argument hargument => ?_⟩, ?_⟩
  · exact (hvariable.delimited (by decide) (hnames "Table" (by decide))).followed (by decide)
  · exact ((harguments argument hargument).reads.followed (by decide)).preceded (by decide)
  · exact reads_empty.followed (d := ")") (by decide)

end Render

/-- The relations of an entity whose keys cannot be quoted as they stand, by name. -/
def Entity.unquotable (e : Entity) : List String :=
  (e.relations.filter fun r => ¬ r.Quotable).map (·.name)

namespace Render

section

variable {m : Model} {o : Options} {e : Entity} {targets : List (Relation × Entity)}
  (h : withTargets m e.relations = .ok targets) (he : e.Legible)

include h he

theorem reads_of_takes {module name : String} (htakes : e.Takes module name) :
    Reads (entityUnitOf m o e targets).Covers name :=
  reads_of_provides (vocabulary_takes he htakes) ((provides_entityUnit h).mpr htakes)

/-- The attribute of an own column mentions what the module of the entity imports. -/
theorem columnFragment_covered {c : EntityColumn} (hc : c ∈ ownColumns e) :
    (columnFragment e c).hint.Each (Reads (entityUnitOf m o e targets).Covers)
        (fun text => Verbatim text.toList) ∧
      ∀ code ∈ (columnFragment e c).value,
        code.Each (Reads (entityUnitOf m o e targets).Covers) fun text => Verbatim text.toList := by
  apply columnFragment_each neutral_reads e fun htakes => reads_of_takes h he (.column hc htakes)
  · exact reads_of_takes h he (.mapped (by decide))
  · exact reads_of_takes h he (.mapped (by decide))
  · exact reads_hint (he.types c (mem_of_mem_ownColumns hc)) fun module hmodule =>
      (provides_entityUnit h).mpr (.column hc (.hint hmodule))

/-- The attribute of a relation mentions what the module of the entity imports, if its key can be quoted. -/
theorem relationFragment_covered {p : Relation × Entity} (hp : p ∈ targets) (htarget : IsName p.2.name) :
    (relationFragment o e p.1 p.2).hint.Each (Reads (entityUnitOf m o e targets).Covers)
        (fun text => Verbatim text.toList) ∧
      (p.1.name ∉ e.unquotable → ∀ code ∈ (relationFragment o e p.1 p.2).value,
        code.Each (Reads (entityUnitOf m o e targets).Covers) fun text => Verbatim text.toList) := by
  have hr : p.1 ∈ e.relations := (withTargets_relations h).1 ▸ List.mem_map_of_mem hp
  obtain ⟨hhint, hvalue⟩ := relationFragment_each (q := fun text => Verbatim text.toList) neutral_reads o
    (e := e) (reads_joinVariable _) ⟨by decide, by decide⟩ (fun htakes => reads_of_takes h he (.relation hr htakes))
    (reads_of_takes h he (.mapped (by decide))) (verbatim_of_isName htarget)
  refine ⟨hhint, fun hexempt => hvalue fun _ => keyLists_verbatim he.name (he.holders p.1 hr) ?_⟩
  by_contra hkey
  exact hexempt (List.mem_map_of_mem (List.mem_filter.mpr ⟨hr, decide_eq_true hkey⟩))

theorem prelude_covered : ∀ line ∈ (entityUnitOf m o e targets).prelude,
    Reads (entityUnitOf m o e targets).Covers line := by
  intro line hline
  obtain ⟨r, hr, hline⟩ := List.mem_flatMap.mp hline
  obtain ⟨hr, hjoined⟩ := List.mem_filter.mp hr
  obtain ⟨hkind, howning⟩ := Bool.and_eq_true_iff.mp hjoined
  have htable : ∀ {name : String}, name ∈ ["Column", "ForeignKey", "Table"] →
      Reads (entityUnitOf m o e targets).Covers name := fun hname =>
    reads_of_takes h he (.joinTable hr (of_decide_eq_true hkind) howning hname)
  apply joinTableLines_reads neutral_reads m r (reads_joinVariable _) ?_ line hline
  simp only [List.forall_mem_cons]
  exact ⟨reads_of_takes h he (.base (by decide)), reads_of_not_mem (by decide) (by decide),
    htable (by decide), htable (by decide), htable (by decide), List.forall_mem_nil _⟩

theorem bases_covered : ∀ base ∈ (entityUnitOf m o e targets).bases,
    Reads (entityUnitOf m o e targets).Covers base := by
  have hbase : Reads (entityUnitOf m o e targets).Covers "Base" := reads_of_takes h he (.base (by decide))
  show ∀ base ∈ if e.usesIdentity then ["IdentityMixin", "Base"] else ["Base"], _
  split
  · next hidentity =>
    exact List.forall_mem_cons.mpr ⟨reads_of_takes h he (.identity hidentity),
      List.forall_mem_singleton.mpr hbase⟩
  · exact List.forall_mem_singleton.mpr hbase

/-- **The module of an entity imports what it mentions**, outside the values of relations whose keys cannot
be quoted. -/
theorem entityUnit_covered (hnames : ∀ p ∈ targets, IsName p.2.name) :
    (entityUnitOf m o e targets).Covered e.unquotable := by
  have hspec : Reads (entityUnitOf m o e targets).Covers "FieldSpec" :=
    reads_of_takes h he (.base (by decide))
  apply covered_of_each
  · intro f hf
    rcases List.mem_append.mp hf with hf | hf
    · obtain ⟨c, hc, rfl⟩ := List.mem_map.mp hf
      exact (columnFragment_covered h he hc).1
    · obtain ⟨p, hp, rfl⟩ := List.mem_map.mp hf
      exact (relationFragment_covered h he hp (hnames p hp)).1
  · intro f hf
    obtain ⟨c, hc, rfl⟩ := List.mem_map.mp hf
    exact (columnFragment_covered h he hc).2
  · intro f hf hexempt
    obtain ⟨p, hp, rfl⟩ := List.mem_map.mp hf
    exact (relationFragment_covered h he hp (hnames p hp)).2 hexempt
  · exact prelude_covered h he
  · exact bases_covered h he
  · exact (provides_entityUnit h).mpr (.base (by decide))
  · exact List.forall_mem_append.mpr
      ⟨List.forall_mem_map.mpr fun c _ => fieldSpec_each neutral_reads hspec _ _ _ _,
        List.forall_mem_map.mpr fun r _ => fieldSpec_each neutral_reads hspec _ _ _ _⟩

/-- The arguments of the table mention what the module of the entity imports. -/
theorem tableArgumentLines_covered :
    ∀ line ∈ tableArgumentLines m e, ∀ word ∈ words line, (entityUnitOf m o e targets).Covers word := by
  have harguments := tableArguments_each (q := fun text => Verbatim text.toList) neutral_reads m (e := e)
    (fun hkeys => reads_of_takes (m := m) (o := o) h he (.compositeKey hkeys))
    (fun hunique => reads_of_takes h he (.unique hunique))
  have hname : Reads (entityUnitOf m o e targets).Covers "__table_args__" :=
    reads_of_not_mem (by decide) (by decide)
  have hlist := reads_intercalate (d := ", ") (by decide) (AllEach.reads (allEach_iff.mpr harguments))
  unfold tableArgumentLines
  split
  · exact List.forall_mem_nil _
  · rw [List.forall_mem_singleton]
    exact ((hname.delimited (d := " = (") (by decide) hlist).followed (d := ",)") (by decide)).words

end

/-- **The module of an input model imports what it mentions.** -/
theorem inputUnit_covered {o : Options} {e : Entity} (he : e.Legible) : (inputUnit o e).Covered [] := by
  have hreads : ∀ {module name : String}, e.InputTakes o module name →
      Reads (inputUnit o e).Covers name := fun htakes =>
    reads_of_provides (vocabulary_inputTakes htakes) (provides_inputUnit.mpr htakes)
  have hfields : ∀ c ∈ inputColumns o e,
      (inputFragment c).hint.Each (Reads (inputUnit o e).Covers) (fun text => Verbatim text.toList) ∧
      ∀ code ∈ (inputFragment c).value,
        code.Each (Reads (inputUnit o e).Covers) fun text => Verbatim text.toList := by
    intro c hc
    apply inputFragment_each neutral_reads fun htakes => hreads (.field hc htakes)
    exact fun hlisted => reads_hint (he.types c (List.mem_filter.mp hc).1) fun module hmodule =>
      provides_inputUnit.mpr (.field hc (.hint hlisted hmodule))
  apply covered_of_each
  · intro f hf
    rcases List.mem_append.mp hf with hf | hf
    · obtain ⟨c, hc, rfl⟩ := List.mem_map.mp hf
      exact (hfields c hc).1
    · cases hf
  · intro f hf
    obtain ⟨c, hc, rfl⟩ := List.mem_map.mp hf
    exact (hfields c hc).2
  · exact List.forall_mem_nil _
  · exact List.forall_mem_nil _
  · exact List.forall_mem_singleton.mpr (hreads (.base (by decide)))
  · exact provides_inputUnit.mpr (.base (by decide))
  · exact List.forall_mem_map.mpr fun c _ =>
      fieldSpec_each neutral_reads (hreads (.base (by decide))) _ _ _ _

end Render

/-! ## Built models -/

/-- The properties that a key of a well named entity is stored in can be quoted as they stand. -/
theorem Entity.Stores.inner {e : Entity} {columns properties : List String} (h : e.Stores columns properties)
    (he : e.WellNamed) : ∀ property ∈ properties, ∀ c ∈ property.toList, Inner c := by
  intro property hproperty
  obtain ⟨x, hx, rfl⟩ := h.exists_column property hproperty
  exact (verbatim_of_isName (he.property hx)).characters

namespace Built

variable {o : Options} {s : Snapshot} (b : Built o s)

theorem entity_legible {d : Draft} (hd : d ∈ b.drafts) : (b.entity d).Legible where
  name := b.entity_isName hd
  types := by
    intro c hc
    obtain ⟨_, _, property, type, htype, rfl⟩ := mem_nameColumns (b.drafts_named.2 d hd) hc
    exact resolveType_known htype
  holders := by
    intro r hr name hname
    obtain ⟨p, hp, rfl⟩ := List.mem_map.mp hr
    change name ∈ (if p.link.basis.isKey then some p.link.owner.entity else none) at hname
    split at hname
    · cases hname
      -- the holder of a key is at the owning end of its link
      obtain ⟨hlink, _⟩ := mem_endpoints.mp hp
      obtain ⟨holder, hholder, _, hentity⟩ := b.links_attached p.link (List.mem_of_getElem? hlink) .owning
      change p.link.owner.entity = holder.entity at hentity
      rw [hentity]
      exact b.entity_isName hholder
    · cases hname

/-- Where keys refer to columns that are there, every relation can be quoted. -/
theorem relations_quotable (hs : s.Referring) (d : Draft) :
    ∀ r ∈ (b.entity d).relations, r.Quotable := by
  intro r hr
  obtain ⟨p, hp, rfl⟩ := List.mem_map.mp hr
  obtain ⟨hlink, _⟩ := mem_endpoints.mp hp
  rcases b.mem_links (List.mem_of_getElem? hlink) with
    ⟨holder, hholder, k, hk, target, htarget, hkey⟩ | ⟨j, _, hjoin⟩
  · have hbacked := b.backed_of_keyLink hs hholder hk htarget hkey
    have hnamed := b.entity_wellNamed hholder
    intro property hproperty
    rcases List.mem_append.mp hproperty with hproperty | hproperty
    · exact hbacked.properties.inner hnamed property hproperty
    · exact hbacked.remote.inner hnamed property hproperty
  · obtain ⟨_, _, _, _, _, _, _, _, hbasis⟩ := joinLink_eq_ok hjoin
    intro property hproperty
    change property ∈ p.link.basis.properties ++
      (if decide (p.side = .owning) && p.link.isLoop then p.link.basis.referred else []) at hproperty
    rw [hbasis] at hproperty
    change property ∈ [] ++ (if decide (p.side = .owning) && p.link.isLoop then [] else []) at hproperty
    rw [ite_self] at hproperty
    cases hproperty

end Built

/-- **An entity whose two modules import what they mention**, outside the values of relations whose keys
cannot be quoted. -/
def Model.Covers (m : Model) (o : Options) (e : Entity) : Prop :=
  (inputUnit o e).Covered [] ∧
    ∃ u, entityUnit m o e = .ok u ∧ u.Covered e.unquotable ∧
      ∀ line ∈ tableArgumentLines m e, ∀ word ∈ words line, u.Covers word

/-- **The modules of a built model import what they mention**: every word of a hint, value, join table, base,
table argument or description that can be imported is imported from its module. Left open are the values of
relations whose keys cannot be quoted, as such a key may end the literal that it stands in. A model of a
prepared catalog has no such relation. -/
theorem buildModel_covers {o o' : Options} {s : Snapshot} {m : Model} (h : buildModel o s = .ok m) :
    ∀ e ∈ m.entities, m.Covers o' e ∧
      ∀ (s' : Snapshot) (p : Option Options), (s'.prepare p).outcome = .ok s → e.unquotable = [] := by
  intro e he
  obtain ⟨targets, htargets⟩ := exists_targets h he
  obtain ⟨b, hentities⟩ := exists_built h
  have hnamed : ∀ p ∈ targets, IsName p.2.name := by
    intro p hp
    obtain ⟨_, hmem⟩ := mem_withTargets htargets p hp
    rw [hentities] at hmem
    exact (b.wellNamed p.2 hmem).name
  rw [hentities] at he
  obtain ⟨d, hd, rfl⟩ := List.mem_map.mp he
  have hlegible := b.entity_legible hd
  refine ⟨⟨inputUnit_covered hlegible, entityUnitOf m o' (b.entity d) targets, ?_,
    entityUnit_covered htargets hlegible hnamed, tableArgumentLines_covered htargets hlegible⟩, ?_⟩
  · unfold entityUnit
    rw [htargets]
    rfl
  · intro s' p hprepared
    have hquotable := b.relations_quotable (referring_of_prepare hprepared) d
    unfold Entity.unquotable
    rw [List.map_eq_nil_iff, List.filter_eq_nil_iff]
    intro r hr hdecided
    exact of_decide_eq_true hdecided (hquotable r hr)

/-- So do those of the staff, where no value is left out. -/
theorem buildModel_covers_staff :
    ∃ m, (staff.prepare (some {})).outcome.toOption = some staff ∧ buildModel {} staff = .ok m ∧
      m.relationCount = 6 ∧ ∀ e ∈ m.entities, m.Covers {} e ∧ e.unquotable = [] := by
  obtain ⟨m, hm, _, _, hcount⟩ := exists_staffModel
  have hprepared : (staff.prepare (some {})).outcome.toOption = some staff := by decide +kernel
  refine ⟨m, hprepared, hm, hcount, ?_⟩
  intro e he
  obtain ⟨hcovers, hquotable⟩ := @buildModel_covers {} {} staff m hm e he
  exact ⟨hcovers, hquotable staff (some {}) (toOption_eq_some.mp hprepared)⟩

/-- A column that is not there may bring a word with it: a model of a catalog that was not checked has an
entity with a relation whose value mentions a type that its module does not import. -/
theorem not_covers_stray :
    ∃ m, buildModel {} stray = .ok m ∧ ∃ e ∈ m.entities, ∃ u, entityUnit m {} e = .ok u ∧
      ∃ f ∈ u.relations, ∃ value ∈ f.value, "Text" ∈ words value.shown ∧
        vocabulary.Provides "sqlalchemy" "Text" ∧ ¬ u.allImports.Provides "sqlalchemy" "Text" := by
  obtain ⟨m, hm, htest⟩ := exists_ok_of_any (x := buildModel {} stray)
    (p := fun m => ∃ e ∈ m.entities, (entityUnit m {} e).toOption.any fun u =>
      (∃ f ∈ u.relations, ∃ value ∈ f.value, "Text" ∈ words value.shown) ∧
        ¬ u.imports.Provides "sqlalchemy" "Text" ∧
        ∀ f ∈ u.fields ++ u.relations, ("sqlalchemy", "Text") ∉ f.imports)
    (by decide +kernel)
  obtain ⟨e, he, htest⟩ := of_decide_eq_true htest
  obtain ⟨u, hu, htest⟩ := exists_ok_of_any htest
  obtain ⟨⟨f, hf, value, hvalue, hword⟩, himports, hfragments⟩ := of_decide_eq_true htest
  refine ⟨m, hm, e, he, u, hu, f, hf, value, hvalue, hword, by decide +kernel, ?_⟩
  rw [SourceUnit.provides_allImports]
  rintro (himport | ⟨f', hf', himport⟩ | ⟨_, hmodule, _⟩ | ⟨_, hmodule, _⟩)
  · exact himports himport
  · exact hfragments f' hf' himport
  · exact absurd hmodule (by decide)
  · exact absurd hmodule (by decide)

end SchemaScribe
