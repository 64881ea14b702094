import SchemaScribe.Proofs.Naming.Names
import SchemaScribe.Proofs.Render.Pieces
import SchemaScribe.Proofs.Text.Parts
import SchemaScribe.Proofs.Text.Reading

/-!
# Code stays on one line

Whatever texts a catalog holds, an expression of the generated code has no line end in it (`Code.Flat`): texts
of the catalog appear in it as literals, which spell line ends out, or as names. The laws of this module say
so of every expression that a module is put together from, given that the properties and types it mentions
are flat themselves.
-/

namespace SchemaScribe.Render

open SchemaScribe.Text

/-- **A text without line ends.** -/
def Flat (s : String) : Prop := '\n' ∉ s.toList ∧ '\r' ∉ s.toList

instance (s : String) : Decidable (Flat s) := inferInstanceAs (Decidable (_ ∧ _))

@[simp] theorem flat_append {s t : String} : Flat (s ++ t) ↔ Flat s ∧ Flat t := by
  unfold Flat
  rw [String.toList_append, List.mem_append, List.mem_append]
  tauto

theorem flat_of_forall {s : String} (h : ∀ c ∈ s.toList, c ≠ '\n' ∧ c ≠ '\r') : Flat s :=
  ⟨fun hc => (h _ hc).1 rfl, fun hc => (h _ hc).2 rfl⟩

theorem flat_iff_forall {s : String} : Flat s ↔ ∀ c ∈ s.toList, c ≠ '\n' ∧ c ≠ '\r' := by
  refine ⟨fun h c hc => ⟨?_, ?_⟩, flat_of_forall⟩
  · rintro rfl
    exact h.1 hc
  · rintro rfl
    exact h.2 hc

theorem flat_intercalate {separator : String} {items : List String} (hseparator : Flat separator)
    (h : ∀ item ∈ items, Flat item) : Flat (separator.intercalate items) := by
  rw [flat_iff_forall]
  exact forall_mem_intercalate (flat_iff_forall.mp hseparator) fun item hitem =>
    flat_iff_forall.mp (h item hitem)

/-! ## Names, numbers and literals -/

theorem flat_of_isName {name : String} (h : IsName name) : Flat name :=
  ⟨IsIdentifier.not_mem h (by decide) (by decide), IsIdentifier.not_mem h (by decide) (by decide)⟩

theorem flat_nat (n : Nat) : Flat (toString n) := by
  refine flat_of_forall fun c hc => ?_
  rw [Nat.toString_eq_repr, Nat.toList_repr] at hc
  have hdigit := isDigit_of_mem_digits c hc
  constructor
  · rintro rfl
    cases hdigit
  · rintro rfl
    cases hdigit

@[simp] theorem flat_int : ∀ n : Int, Flat (toString n)
  | .ofNat n => flat_nat n
  | .negSucc n => by
    show Flat ("-" ++ toString (n + 1))
    rw [flat_append]
    exact ⟨by decide, flat_nat (n + 1)⟩

theorem hexPlaces_flat (width n : Nat) : ∀ c ∈ hexPlaces width n, c ≠ '\n' ∧ c ≠ '\r' := by
  intro c hc
  have hquote : isQuote '"' = true := by decide
  exact (ne_of_isIdentifierChar hquote (isIdentifierChar_hexPlaces width n c hc)).2.2

theorem numericEscape_flat (c : Char) : ∀ d ∈ numericEscape c, d ≠ '\n' ∧ d ≠ '\r' := by
  unfold numericEscape
  dsimp only
  split
  · exact List.forall_mem_cons.mpr ⟨by decide, List.forall_mem_cons.mpr ⟨by decide, hexPlaces_flat _ _⟩⟩
  · split
    · exact List.forall_mem_cons.mpr ⟨by decide, List.forall_mem_cons.mpr ⟨by decide, hexPlaces_flat _ _⟩⟩
    · exact List.forall_mem_cons.mpr ⟨by decide, List.forall_mem_cons.mpr ⟨by decide, hexPlaces_flat _ _⟩⟩

/-- No character is written as a line end inside a literal. -/
theorem literalChar_flat {quote : Char} (h : quote ≠ '\n' ∧ quote ≠ '\r') (c : Char) :
    ∀ d ∈ literalChar quote c, d ≠ '\n' ∧ d ≠ '\r' := by
  unfold literalChar
  split
  · next hself =>
    simp only [Bool.or_eq_true, decide_eq_true_eq] at hself
    refine List.forall_mem_cons.mpr ⟨by decide, List.forall_mem_singleton.mpr ?_⟩
    rcases hself with rfl | rfl
    · exact h
    · decide
  · split
    · simp
    · next hfeed =>
      split
      · simp
      · next hreturn =>
        split
        · simp
        · split
          · exact List.forall_mem_singleton.mpr ⟨hfeed, hreturn⟩
          · exact numericEscape_flat c

/-- **Literals spell line ends out.** -/
@[simp] theorem flat_literal (s : String) : Flat (Text.literal s) := by
  have hquote : literalQuote s.toList ≠ '\n' ∧ literalQuote s.toList ≠ '\r' := by
    unfold literalQuote
    split <;> decide
  refine flat_of_forall fun c hc => ?_
  unfold Text.literal literalChars at hc
  simp only [String.toList_ofList, List.mem_append, List.mem_cons, List.mem_flatMap,
    List.not_mem_nil, or_false] at hc
  rcases hc with (rfl | ⟨d, _, hc⟩) | rfl
  · exact hquote
  · exact literalChar_flat hquote d c hc
  · exact hquote

/-! ## Expressions -/

mutual

/-- **An expression without line ends.** Literals have none whatever their text. -/
def Code.Flat : Code → Prop
  | .plain text => Render.Flat text
  | .literal _ => True
  | .quoted text => Render.Flat text
  | .call callee arguments => Render.Flat callee ∧ AllFlat arguments
  | .named parameter value => Render.Flat parameter ∧ value.Flat
  | .subscript head items => Render.Flat head ∧ AllFlat items
  | .list items => AllFlat items
  | .dict _ value => value.Flat

/-- Expressions without line ends. -/
def AllFlat : List Code → Prop
  | [] => True
  | code :: rest => code.Flat ∧ AllFlat rest

end

theorem allFlat_iff {items : List Code} : AllFlat items ↔ ∀ code ∈ items, code.Flat := by
  induction items with
  | nil => exact iff_of_true trivial fun _ h => absurd h List.not_mem_nil
  | cons code rest ih => rw [AllFlat, List.forall_mem_cons, ih]

mutual

/-- The text of an expression has no line ends where the expression has none. -/
theorem Code.Flat.shown : ∀ {code : Code}, code.Flat → Render.Flat code.shown
  | .plain _, h => h
  | .literal text, _ => flat_literal text
  | .quoted text, h => by
    rw [Code.shown, flat_append, flat_append]
    exact ⟨⟨by decide, h⟩, by decide⟩
  | .call callee arguments, h => by
    rw [Code.shown, flat_append, flat_append, flat_append]
    exact ⟨⟨⟨h.1, by decide⟩, flat_intercalate (by decide) (shownAll_flat h.2)⟩, by decide⟩
  | .named parameter value, h => by
    rw [Code.shown, flat_append, flat_append]
    exact ⟨⟨h.1, by decide⟩, Code.Flat.shown h.2⟩
  | .subscript head items, h => by
    rw [Code.shown, flat_append, flat_append, flat_append]
    exact ⟨⟨⟨h.1, by decide⟩, flat_intercalate (by decide) (shownAll_flat h.2)⟩, by decide⟩
  | .list items, h => by
    rw [Code.shown, flat_append, flat_append]
    exact ⟨⟨by decide, flat_intercalate (by decide) (shownAll_flat h)⟩, by decide⟩
  | .dict key value, h => by
    rw [Code.shown, flat_append, flat_append, flat_append, flat_append]
    exact ⟨⟨⟨⟨by decide, flat_literal key⟩, by decide⟩, Code.Flat.shown h⟩, by decide⟩

theorem shownAll_flat : ∀ {items : List Code}, AllFlat items → ∀ s ∈ shownAll items, Render.Flat s
  | [], _ => fun _ hs => absurd hs List.not_mem_nil
  | code :: rest, h => by
    rw [shownAll]
    exact List.forall_mem_cons.mpr ⟨Code.Flat.shown h.1, shownAll_flat h.2⟩

end

mutual

/-- An expression of flat pieces is flat. -/
theorem Code.Each.flat : ∀ {code : Code}, code.Each Render.Flat Render.Flat → code.Flat
  | .plain _, h => h
  | .literal _, h => h
  | .quoted _, h => h
  | .call _ _, h => ⟨h.1, AllEach.flat h.2⟩
  | .named _ _, h => ⟨h.1, Code.Each.flat h.2⟩
  | .subscript _ _, h => ⟨h.1, AllEach.flat h.2⟩
  | .list _, h => AllEach.flat h
  | .dict _ value, h => @Code.Each.flat value h

theorem AllEach.flat : ∀ {items : List Code}, AllEach Render.Flat Render.Flat items → AllFlat items
  | [], _ => trivial
  | _ :: _, h => ⟨Code.Each.flat h.1, AllEach.flat h.2⟩

end

theorem neutral_flat : Neutral Flat where
  parameter := by decide
  constant := by decide
  number := flat_int

theorem fieldSpec_flat (name kind : String) (nullable : Bool) (target : Option String) :
    (fieldSpec name kind nullable target).Flat :=
  (fieldSpec_each neutral_flat (by decide) name kind nullable target).flat

/-! ## Columns -/

/-- The types of generated code are flat, whatever a database reports. -/
theorem resolveType_flat {dataType : String} {nullable : Bool} {overrides : List (String × ScalarKind)}
    {enumValues : List String} {type : ColumnType}
    (h : resolveType dataType nullable overrides enumValues = some type) :
    Flat type.hint ∧ Flat type.mapped := by
  have hflat : ∀ known ∈ knownTypes, Flat known.1 ∧ Flat known.2 := by decide
  exact hflat _ (resolveType_known h)

/-- A text that starts with neither a blank nor a hash, as every name does. -/
def Bare (s : String) : Prop := ∃ c, s.toList.head? = some c ∧ c ≠ ' ' ∧ c ≠ '\t' ∧ c ≠ '#'

theorem bare_of_isName {name : String} (h : IsName name) : Bare name := by
  obtain ⟨c, rest, hname⟩ := List.exists_cons_of_ne_nil h.filled
  have hmem : c ∈ name.toList := hname ▸ List.mem_cons_self
  have hne : ∀ d : Char, d.isAlphanum = false → d ≠ '_' → c ≠ d := fun d hd hu heq =>
    IsIdentifier.not_mem h hd hu (heq ▸ hmem)
  exact ⟨c, by rw [hname]; rfl, hne ' ' (by decide) (by decide), hne '\t' (by decide) (by decide),
    hne '#' (by decide) (by decide)⟩

theorem Bare.append {s : String} (h : Bare s) (t : String) : Bare (s ++ t) := by
  obtain ⟨c, hc, hne⟩ := h
  refine ⟨c, ?_, hne⟩
  rw [String.toList_append, List.head?_append, hc]
  rfl

/-- **An attribute that takes one line**, which starts with its name. -/
structure Fragment.Neat (f : Fragment) : Prop where
  bare : Bare f.name
  name : Flat f.name
  hint : f.hint.Flat
  value : ∀ code ∈ f.value, code.Flat
  imports : ∀ p ∈ f.imports, Flat p.1 ∧ Flat p.2

theorem Fragment.Neat.shown {f : Fragment} (h : f.Neat) : Flat f.shown ∧ Bare f.shown := by
  unfold Fragment.shown
  refine ⟨?_, ((h.bare.append _).append _).append _⟩
  rw [flat_append, flat_append, flat_append]
  refine ⟨⟨⟨h.name, by decide⟩, h.hint.shown⟩, ?_⟩
  cases hvalue : f.value with
  | none => decide
  | some code =>
    rw [flat_append]
    exact ⟨by decide, (h.value code hvalue).shown⟩

/-- A column whose property and type can be written on one line. -/
structure PlainColumn (c : EntityColumn) : Prop where
  property : IsName c.property
  hint : Flat c.type.hint
  mapped : Flat c.type.mapped

/-- The modules that type hints come from are known beforehand. -/
theorem hintModule?_flat {hint module : String} (h : hintModule? hint = some module) : Flat module := by
  unfold hintModule? at h
  split at h <;> cases h <;> decide

theorem takes_flat {c : EntityColumn} {module name : String} (hhint : Flat c.type.hint)
    (hmapped : Flat c.type.mapped) (h : c.Takes module name) : Flat module ∧ Flat name := by
  cases h with
  | hint hmodule => exact ⟨hintModule?_flat hmodule, hhint⟩
  | type => exact ⟨by decide, hmapped⟩
  | key => decide
  | serverDefault => decide
  | nullable => decide

theorem columnFragment_neat (e : Entity) {c : EntityColumn} (h : PlainColumn c) :
    (columnFragment e c).Neat := by
  have htakes : ∀ {module name : String}, c.Takes module name → Flat module ∧ Flat name :=
    takes_flat h.hint h.mapped
  obtain ⟨hhint, hvalue⟩ := columnFragment_each (q := Flat) neutral_flat e (fun ht => (htakes ht).2)
    (by decide) (by decide) h.hint
  exact ⟨bare_of_isName h.property, flat_of_isName h.property, hhint.flat,
    fun code hcode => (hvalue code hcode).flat, fun _ hp => htakes (columnFragment_takes.mp hp)⟩

/-! ## Relations and tables -/

theorem joinVariable_isName (table : String) : IsName (joinVariable table) := toIdentifier_isName _

/-- What is put behind the table is still the end of the variable. -/
theorem suffix_joinVariable (table : String) :
    ['_', 't', 'a', 'b', 'l', 'e'] <:+ (joinVariable table).toList := by
  have htext : (table ++ "_table").toList = table.toList ++ ['_', 't', 'a', 'b', 'l', 'e'] := by
    rw [String.toList_append]
    rfl
  unfold joinVariable toIdentifier
  rw [String.toList_ofList, htext]
  exact suffix_identifierChars _ _ (by decide) (by decide) (by decide) ⟨'t', by decide⟩

/-- A relation whose key is stored in properties that can be written on one line. -/
structure PlainKey (r : Relation) : Prop where
  holder : ∀ name ∈ r.fkEntity, Flat name
  stored : ∀ property ∈ r.fkProperties, Flat property
  referred : ∀ property ∈ r.remoteProperties, Flat property

theorem propertyList_flat {entity : String} {properties : List String} (hentity : Flat entity)
    (h : ∀ property ∈ properties, Flat property) : (propertyList entity properties).Flat := by
  show Flat ("[" ++ _ ++ "]")
  rw [flat_append, flat_append]
  refine ⟨⟨by decide, flat_intercalate (by decide) ?_⟩, by decide⟩
  rw [List.forall_mem_map]
  intro property hproperty
  rw [flat_append, flat_append]
  exact ⟨⟨hentity, by decide⟩, h property hproperty⟩

theorem keyLists_flat {e : Entity} {r : Relation} (he : Flat e.name) (h : PlainKey r) :
    ∀ code ∈ keyLists e r, code.Each Flat Flat := by
  have hholder : Flat ((filled? r.fkEntity).getD e.name) := by
    unfold filled?
    cases hname : r.fkEntity.filter (!·.isEmpty) with
    | none => exact he
    | some name => exact h.holder name (Option.eq_some_of_filter_eq_some hname)
  exact List.forall_mem_cons.mpr ⟨propertyList_flat hholder h.stored,
    List.forall_mem_singleton.mpr (propertyList_flat he h.referred)⟩

theorem relationFragment_neat (o : Options) {e target : Entity} {r : Relation} (he : Flat e.name)
    (hname : IsName r.name) (htarget : Flat target.name) (h : r.kind ≠ .manyToMany → PlainKey r) :
    (relationFragment o e r target).Neat := by
  have htakes : ∀ {module name : String}, r.Takes module name → Flat module ∧ Flat name := by
    intro module name ht
    cases ht <;> decide
  obtain ⟨hhint, hvalue⟩ := relationFragment_each (q := Flat) neutral_flat o
    (flat_of_isName (joinVariable_isName _)) (by decide) (fun ht => (htakes ht).2) (by decide) htarget
  have hvalue := hvalue fun hkind => keyLists_flat he (h hkind)
  exact ⟨bare_of_isName hname, flat_of_isName hname, hhint.flat,
    fun code hcode => (hvalue code hcode).flat, fun _ hp => htakes (relationFragment_takes.mp hp)⟩

theorem tableArguments_flat (m : Model) (e : Entity) : ∀ code ∈ tableArguments m e, code.Flat := by
  intro code hcode
  exact (tableArguments_each neutral_flat m (fun _ => by decide) (fun _ => by decide) code hcode).flat

theorem joinTableArguments_flat (m : Model) (r : Relation) :
    ∀ code ∈ joinTableArguments m r, code.Flat := by
  intro code hcode
  exact (joinTableArguments_each neutral_flat m r (by decide) (by decide) (by decide) code hcode).flat

/-! ## Fields of input models -/

theorem fieldName_flat {property : String} (h : IsName property) :
    Flat (fieldName property) ∧ Bare (fieldName property) := by
  unfold fieldName
  split
  · refine ⟨flat_append.mpr ⟨by decide, flat_of_isName h⟩, Bare.append ?_ property⟩
    exact ⟨'f', by decide⟩
  · exact ⟨flat_of_isName h, bare_of_isName h⟩

theorem inputTakes_flat {c : EntityColumn} {module name : String} (hhint : Flat c.type.hint)
    (h : c.InputTakes module name) : Flat module ∧ Flat name := by
  cases h with
  | listed => decide
  | hint _ hmodule => exact ⟨hintModule?_flat hmodule, hhint⟩
  | field => decide
  | nullable => decide
  | factory hdefault =>
    refine ⟨by decide, ?_⟩
    unfold fieldDefault at hdefault
    repeat' split at hdefault
    all_goals cases hdefault
    next hfactory =>
      unfold dateFactory? at hfactory
      split at hfactory <;> cases hfactory <;> decide

theorem inputFragment_neat {c : EntityColumn} (h : PlainColumn c) : (inputFragment c).Neat := by
  have htakes : ∀ {module name : String}, c.InputTakes module name → Flat module ∧ Flat name :=
    inputTakes_flat h.hint
  obtain ⟨hhint, hvalue⟩ := inputFragment_each (q := Flat) neutral_flat (fun ht => (htakes ht).2)
    (fun _ => h.hint)
  obtain ⟨hname, hbare⟩ := fieldName_flat h.property
  exact ⟨hbare, hname, hhint.flat, fun code hcode => (hvalue code hcode).flat,
    fun _ hp => htakes (inputFragment_takes.mp hp)⟩

end SchemaScribe.Render
