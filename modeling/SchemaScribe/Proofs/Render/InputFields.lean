import SchemaScribe.Proofs.Model.Built
import SchemaScribe.Render.InputUnit

/-!
# The fields of input models

An input model has a field for each column of its entity that is neither generated nor an audit column. A field
is called like the property of its column, unless this starts with an underscore: then `field` stands in front of
it, and the property is the alias of the field (`Fragment.Enters`). So no field starts with an underscore.

Properties differ, and the names of fields mostly do. But no field is compared with the others once it has got its
other name, so one can be called like the property of another column; the later of the two then takes the place of
the earlier (`Entity.CrowdsFields`). Nor is a field compared with what the base of all input models defines
(`baseInputAttributes`).
-/

namespace SchemaScribe

open SchemaScribe.Catalog SchemaScribe.Render

/-! ## What is asked of the fields -/

/-- **A column that input models leave out**: its values are generated, or it is an audit column. -/
def EntityColumn.LeftOut (o : Options) (c : EntityColumn) : Prop :=
  c.generated = true ∨ auditKey c.name ∈ o.auditColumns

instance (o : Options) (c : EntityColumn) : Decidable (c.LeftOut o) :=
  inferInstanceAs (Decidable (_ ∨ _))

/-- The columns of an entity that input models do not leave out. -/
def Entity.entered (o : Options) (e : Entity) : List EntityColumn := e.columns.filter fun c => ¬ c.LeftOut o

/-- **A field that a column is entered by**: it is called like the property, or has the property as its alias. -/
def Render.Fragment.Enters (f : Fragment) (c : EntityColumn) : Prop :=
  f.name = c.property ∨ ∃ arguments, f.value = some (.call "Field" arguments) ∧
    Code.named "alias" (.literal c.property) ∈ arguments

/-- **Two columns for one field**: the other name that a property gets is the property of another column. -/
def Entity.CrowdsFields (o : Options) (e : Entity) : Prop :=
  ∃ c ∈ e.entered o, ∃ c' ∈ e.entered o, c.property.toList.head? = some '_' ∧ c'.property = "field" ++ c.property

/-- The name that a line of a class body sets. -/
def attributeSet? (line : String) : Option String :=
  let body := line.toList.dropWhile (· = ' ')
  let name := body.takeWhile Text.isIdentifierChar
  if " = ".toList.isPrefixOf (body.drop name.length) then some (.ofList name) else none

/-- What the base of all input models defines itself. -/
def baseInputAttributes : List String :=
  (baseLines.dropWhile (· ≠ "class BaseInput(BaseModel):")).filterMap attributeSet?

theorem baseInputAttributes_eq : baseInputAttributes = ["model_config"] := by decide

namespace Render

/-! ## Names of fields -/

theorem entered_eq (o : Options) (e : Entity) : e.entered o = inputColumns o e := by
  refine List.filter_congr fun c _ => ?_
  unfold isInputColumn EntityColumn.LeftOut
  by_cases hgenerated : c.generated = true
  · simp [hgenerated]
  · simp [hgenerated]

theorem isPrivate_iff {property : String} : isPrivate property = true ↔ property.toList.head? = some '_' :=
  decide_eq_true_iff

theorem fieldName_of_isPrivate {property : String} (h : isPrivate property = true) :
    fieldName property = "field" ++ property := if_pos h

theorem fieldName_of_not {property : String} (h : isPrivate property = false) : fieldName property = property :=
  if_neg (Bool.eq_false_iff.mp h)

/-- The name behind `field` is told by the whole. -/
theorem field_append_inj {p q : String} (h : "field" ++ p = "field" ++ q) : p = q := by
  rw [← String.toList_inj, String.toList_append, String.toList_append] at h
  exact String.toList_inj.mp (List.append_cancel_left h)

/-- Two properties share a field if they are the same, or one is the other name of the other. -/
theorem fieldName_eq_iff {p q : String} : fieldName p = fieldName q ↔
    p = q ∨ (isPrivate p = true ∧ q = "field" ++ p) ∨ (isPrivate q = true ∧ p = "field" ++ q) := by
  have hplain : ∀ property, isPrivate ("field" ++ property) = false := fun property => by
    unfold isPrivate
    rw [String.toList_append]
    rfl
  constructor
  · intro h
    cases hp : isPrivate p with
    | true =>
      rw [fieldName_of_isPrivate hp] at h
      cases hq : isPrivate q with
      | true =>
        rw [fieldName_of_isPrivate hq] at h
        exact .inl (field_append_inj h)
      | false =>
        rw [fieldName_of_not hq] at h
        exact .inr (.inl ⟨rfl, h.symm⟩)
    | false =>
      rw [fieldName_of_not hp] at h
      cases hq : isPrivate q with
      | true =>
        rw [fieldName_of_isPrivate hq] at h
        exact .inr (.inr ⟨rfl, h⟩)
      | false =>
        rw [fieldName_of_not hq] at h
        exact .inl h
  · rintro (rfl | ⟨hp, rfl⟩ | ⟨hq, rfl⟩)
    · rfl
    · rw [fieldName_of_isPrivate hp, fieldName_of_not (hplain p)]
    · rw [fieldName_of_isPrivate hq, fieldName_of_not (hplain q)]

theorem fieldName_head? (property : String) : (fieldName property).toList.head? ≠ some '_' := by
  cases h : isPrivate property with
  | true =>
    rw [fieldName_of_isPrivate h, String.toList_append]
    have hfirst : some 'f' ≠ some '_' := by decide
    exact hfirst
  | false =>
    rw [fieldName_of_not h]
    exact fun hhead => Bool.false_ne_true (h.symm.trans (isPrivate_iff.mpr hhead))

/-- No field gets a name of the base through its other name. -/
theorem fieldName_eq_config_iff {property : String} :
    fieldName property = "model_config" ↔ property = "model_config" := by
  cases h : isPrivate property with
  | true =>
    rw [fieldName_of_isPrivate h]
    refine iff_of_false (fun heq => ?_) (fun heq => ?_)
    · have hchars := congrArg String.toList heq
      rw [String.toList_append] at hchars
      have hfirst : 'f' = 'm' := (List.cons.inj hchars).1
      revert hfirst
      decide
    · rw [heq] at h
      revert h
      decide
  | false => rw [fieldName_of_not h]

/-- A column is entered by its field. -/
theorem enters_inputFragment (c : EntityColumn) : (inputFragment c).Enters c := by
  cases h : isPrivate c.property with
  | true =>
    right
    show ∃ arguments, fieldValue c = some (.call "Field" arguments) ∧ _
    unfold fieldValue fieldArguments
    rw [h]
    cases fieldDefault c with
    | absent => exact ⟨_, rfl, List.mem_cons_self⟩
    | value text => exact ⟨_, rfl, List.mem_cons_of_mem _ List.mem_cons_self⟩
    | factory function => exact ⟨_, rfl, List.mem_cons_of_mem _ List.mem_cons_self⟩
  | false => exact .inl (fieldName_of_not h)

end Render

/-! ## The law -/

/-- **The fields of an input model**: one for each column that is not left out, in order, by which the column is
entered, and none that starts with an underscore. Their names differ unless two columns come to one field, and
none is a name that the base defines unless a property is. -/
structure Entity.NamesFields (o : Options) (e : Entity) (u : SourceUnit) : Prop where
  fields : List.Forall₂ Fragment.Enters u.fields (e.entered o)
  visible : ∀ f ∈ u.fields, f.name.toList.head? ≠ some '_'
  distinct : (u.fields.map (·.name)).Nodup ↔ ¬ e.CrowdsFields o
  base : (∃ f ∈ u.fields, f.name ∈ baseInputAttributes) ↔ ∃ c ∈ e.entered o, c.property = "model_config"

/-- The names of fields differ unless two columns come to one field, where properties differ. -/
theorem Render.fieldNames_nodup_iff {o : Options} {e : Entity} (h : (e.columns.map (·.property)).Nodup) :
    ((e.entered o).map fun c => fieldName c.property).Nodup ↔ ¬ e.CrowdsFields o := by
  have hproperties : ((e.entered o).map (·.property)).Nodup := h.sublist (List.filter_sublist.map _)
  constructor
  · rintro hnodup ⟨c, hc, c', hc', hprivate, hname⟩
    have hsame : c = c' := List.inj_on_of_nodup_map hnodup hc hc'
      (fieldName_eq_iff.mpr (.inr (.inl ⟨isPrivate_iff.mpr hprivate, hname⟩)))
    rw [← hsame] at hname
    have hlength := congrArg String.length hname
    rw [String.length_append, show "field".length = 5 from rfl] at hlength
    omega
  · intro hnone
    apply nodup_map_of_nodup_map hproperties
    intro c hc c' hc' heq
    rcases fieldName_eq_iff.mp heq with hsame | ⟨hprivate, hname⟩ | ⟨hprivate, hname⟩
    · exact hsame
    · exact absurd ⟨c, hc, c', hc', isPrivate_iff.mp hprivate, hname⟩ hnone
    · exact absurd ⟨c', hc', c, hc, isPrivate_iff.mp hprivate, hname⟩ hnone

/-- **Input models of a built model have a field for each column that is not left out**, in order, by which the
column is entered. It is decided when two columns come to one field, and when a field replaces what the base
defines. The types and defaults of fields are left open. -/
theorem buildModel_namesFields {o o' : Options} {s : Snapshot} {m : Model} (h : buildModel o s = .ok m) :
    ∀ e ∈ m.entities, e.NamesFields o' (inputUnit o' e) := by
  intro e he
  obtain ⟨b, hentities⟩ := exists_built h
  rw [hentities] at he
  obtain ⟨d, hd, rfl⟩ := List.mem_map.mp he
  have hfields : (inputUnit o' (b.entity d)).fields = ((b.entity d).entered o').map inputFragment := by
    rw [entered_eq]
    rfl
  have hnames : (inputUnit o' (b.entity d)).fields.map (·.name) =
      ((b.entity d).entered o').map fun c => fieldName c.property := by
    rw [hfields, List.map_map]
    rfl
  refine ⟨?_, fun f hf => ?_, ?_, ?_⟩
  · rw [hfields, List.forall₂_map_left_iff, List.forall₂_same]
    exact fun c _ => enters_inputFragment c
  · rw [hfields] at hf
    obtain ⟨c, _, rfl⟩ := List.mem_map.mp hf
    exact fieldName_head? c.property
  · rw [hnames]
    exact fieldNames_nodup_iff (b.columns_nodup hd)
  · rw [hfields, baseInputAttributes_eq]
    simp only [List.mem_singleton, List.mem_map, exists_exists_and_eq_and]
    exact exists_congr fun c => and_congr_right fun _ => fieldName_eq_config_iff

/-- So do those of the cupboards: two columns of a drawer come to one field, and a field of a cupboard hides the
configuration of the base. -/
theorem buildModel_namesFields_cupboards :
    ∃ m, buildModel {} cupboards = .ok m ∧
      m.entities.map (fun e => (inputUnit {} e).fields.map (·.name)) =
        [["field_1a", "field_1a"], ["field_2nd", "model_config"]] ∧
      ∀ e ∈ m.entities, e.NamesFields {} (inputUnit {} e) := by
  obtain ⟨m, hm, htest⟩ := exists_ok_of_any (x := buildModel {} cupboards)
    (p := fun m => m.entities.map (fun e => (inputUnit {} e).fields.map (·.name)) =
      [["field_1a", "field_1a"], ["field_2nd", "model_config"]])
    (by decide +kernel)
  exact ⟨m, hm, of_decide_eq_true htest, buildModel_namesFields hm⟩

end SchemaScribe
