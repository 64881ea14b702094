import SchemaScribe.Document.Form
import SchemaScribe.Document.Yaml.Reader
import SchemaScribe.Proofs.Outcome

/-!
# Settings in documents

Settings, which are scalars under names, are written as a mapping and read as a record. A field of the record is
the setting of its name, and its default where there is none (`fieldOr_settings`); what is read lies within the
bounds of the reader (`fieldOr_eq_ok`, `boundedInteger_eq_ok`). Whether a document of such sections is loaded back
can be computed (`LoadsBack`).
-/

namespace SchemaScribe

open SchemaScribe.Document

/-! ## Outcomes that are fine -/

namespace Document.Checked

variable {α β : Type}

/-- What is read with a step that needs it was read before. -/
theorem exists_of_andThen {x : Checked α} {f : α → Checked β} {b : β} (h : x.andThen f = .ok b) :
    ∃ a, x = .ok a ∧ f a = .ok b := by
  cases x with
  | bad faults => cases h
  | ok a => exact ⟨a, rfl, h⟩

theorem seq_eq_ok {f : Checked (α → β)} {x : Checked α} {b : β} (h : f <*> x = .ok b) :
    ∃ g a, f = .ok g ∧ x = .ok a ∧ g a = b := by
  cases f with
  | bad faults => cases x <;> cases h
  | ok g =>
    cases x with
    | bad faults => cases h
    | ok a =>
      cases h
      exact ⟨g, a, rfl, rfl, rfl⟩

theorem map_eq_ok {f : α → β} {x : Checked α} {b : β} (h : f <$> x = .ok b) :
    ∃ a, x = .ok a ∧ f a = b := by
  cases x with
  | bad faults => cases h
  | ok a =>
    cases h
    exact ⟨a, rfl, rfl⟩

end Document.Checked

/-! ## Settings as records -/

section

variable {κ : Type u} {α : Type v} [DecidableEq κ]

theorem entryAt?_append (key : κ) (entries more : List (κ × α)) :
    entryAt? key (entries ++ more) = (entryAt? key entries).or (entryAt? key more) := by
  unfold entryAt?
  rw [List.find?_append, Option.map_or]

theorem entryAt?_singleton (key name : κ) (value : α) :
    entryAt? key [(name, value)] = if name = key then some value else none := by
  unfold entryAt?
  split
  · next h => simp [h]
  · next h => simp [h]

/-- What is given or not is found by its own name. -/
theorem entryAt?_optional {β : Type w} (key name : κ) (f : β → α) (part : Option β) :
    entryAt? key (part.toList.map fun b => (name, f b)) = if name = key then part.map f else none := by
  cases part with
  | none => exact (ite_self none).symm
  | some b => exact entryAt?_singleton key name (f b)

end

/-- Settings as entries of a mapping. -/
def Document.settingsEntries (settings : List (String × Scalar)) : List (Scalar × Value) :=
  settings.map (Prod.map Scalar.text Value.scalar)

theorem get?_settingsEntries (name : String) (settings : List (String × Scalar)) :
    (Value.map (settingsEntries settings)).get? name = (entryAt? name settings).map Value.scalar := by
  show entryAt? (.text name) (settingsEntries settings) = _
  unfold entryAt? settingsEntries
  rw [List.find?_map, Option.map_map, Option.map_map]
  simp [Function.comp_def]

/-- Settings under the names of fields are no strays. -/
theorem strayKeys_settingsEntries {fields : List String} {settings : List (String × Scalar)}
    (h : ∀ s ∈ settings, s.1 ∈ fields) : Read.strayKeys fields (settingsEntries settings) = [] := by
  induction settings with
  | nil => rfl
  | cons setting rest ih =>
    obtain ⟨hsetting, hrest⟩ := List.forall_mem_cons.mp h
    unfold settingsEntries at ih ⊢
    rw [List.map_cons, Prod.map, Read.strayKeys, if_pos (List.contains_iff_mem.mpr hsetting), ih hrest]

/-- Settings under the names of fields are read as the record that its fields make. -/
theorem record_settingsEntries {α : Type} {fields : List String} {settings : List (String × Scalar)}
    (h : ∀ s ∈ settings, s.1 ∈ fields) (body : Value → Checked α) :
    Read.record fields body (.map (settingsEntries settings)) = body (.map (settingsEntries settings)) := by
  unfold Read.record
  dsimp only
  rw [strayKeys_settingsEntries h]

/-! ## Fields -/

/-- A field that may be missing is read as it is given. -/
theorem fieldOr_settings {α β : Type} {name : String} {settings : List (String × Scalar)} {part : Option β}
    {f : β → Scalar} (hpart : entryAt? name settings = part.map f) {g : Option β → α} {reader : Reader α}
    (hread : ∀ b ∈ part, reader (.scalar (f b)) = .ok (g (some b))) :
    Read.fieldOr name (g none) reader (.map (settingsEntries settings)) = .ok (g part) := by
  unfold Read.fieldOr
  rw [get?_settingsEntries, hpart]
  cases part with
  | none => rfl
  | some b =>
    dsimp only [Option.map_some]
    rw [hread b rfl]
    rfl

theorem boundedInteger_int {low high n : Nat} (h : low ≤ n ∧ n ≤ high) :
    Read.boundedInteger low (some high) (.int n) = .ok n := by
  unfold Read.boundedInteger
  show (if (n : Int) < low then _ else _ : Checked Nat) = _
  rw [if_neg (by omega), if_neg (by simp; omega)]
  rfl

/-- What is read as a whole number within bounds lies within them. -/
theorem boundedInteger_eq_ok {low high n : Nat} {value : Value}
    (h : Read.boundedInteger low (some high) value = .ok n) : low ≤ n ∧ n ≤ high := by
  unfold Read.boundedInteger at h
  cases hread : Read.integer value with
  | bad faults =>
    rw [hread] at h
    cases h
  | ok found =>
    rw [hread] at h
    change (if found < low then Checked.fail .tooSmall else
      if decide ((high : Int) < found) = true then Checked.fail .tooLarge else .ok found.toNat) = Checked.ok n at h
    split at h
    · cases h
    · split at h
      · cases h
      · next hhigh =>
        cases h
        have hhigh := of_decide_eq_false (Bool.not_eq_true _ ▸ hhigh)
        omega

/-- What is read of a record is read of its fields. -/
theorem body_of_record {α : Type} {fields : List String} {body : Value → Checked α} {value : Value} {a : α}
    (h : Read.record fields body value = .ok a) : body value = .ok a := by
  unfold Read.record at h
  split at h
  · split at h
    · exact h
    · obtain ⟨_, _, _, hstray, _⟩ := Checked.seq_eq_ok h
      cases hstray
  · cases h

/-- A field holds its default, or what its reader makes of a value. -/
theorem fieldOr_eq_ok {α : Type} {name : String} {default a : α} {reader : Reader α} {value : Value}
    (h : Read.fieldOr name default reader value = .ok a) : a = default ∨ ∃ part, reader part = .ok a := by
  unfold Read.fieldOr at h
  split at h
  · next part _ =>
    cases hread : reader part with
    | bad faults =>
      rw [hread] at h
      cases h
    | ok found =>
      rw [hread] at h
      cases h
      exact .inr ⟨part, hread⟩
  · cases h
    exact .inl rfl

/-- What is read of a part that may be null is missing or what its reader makes of a value. -/
theorem optional_eq_ok {α : Type} {reader : Reader α} {value : Value} {a : α}
    (h : Read.optional reader value = .ok (some a)) : ∃ part, reader part = .ok a := by
  unfold Read.optional at h
  split at h
  · cases h
  · obtain ⟨found, hread, hsome⟩ := Checked.map_eq_ok h
    cases hsome
    exact ⟨_, hread⟩

/-! ## Documents that are loaded back -/

namespace Document

/-- The setting that an entry of a mapping is. -/
def settingOf : Scalar × Value → Except Unit (String × Scalar)
  | (.text name, .scalar s) => .ok (name, s)
  | _ => .error ()

/-- The section that an entry of a mapping is. -/
def sectionOf : Scalar × Value → Except Unit (String × List (String × Scalar))
  | (.text name, .map entries) => do return (name, ← entries.mapM settingOf)
  | _ => .error ()

/-- The sections that a value is. -/
def sectionsOf : Value → Except Unit (List (String × List (String × Scalar)))
  | .map entries => entries.mapM sectionOf
  | _ => .error ()

theorem settingOf_eq_ok {entry : Scalar × Value} {setting : String × Scalar} :
    settingOf entry = .ok setting ↔ entry = setting.map Scalar.text Value.scalar := by
  constructor
  · intro h
    unfold settingOf at h
    split at h
    · cases h
      rfl
    · cases h
  · rintro rfl
    rfl

/-- Lists whose items are images of those of another are its image. -/
theorem forall₂_eq_map {α : Type u} {β : Type v} {f : β → α} {xs : List α} {ys : List β} :
    List.Forall₂ (fun x y => x = f y) xs ys ↔ xs = ys.map f := by
  rw [← List.forall₂_map_right_iff (f := f), List.forall₂_eq_eq_eq]

theorem sectionOf_eq_ok {entry : Scalar × Value} {part : String × List (String × Scalar)} :
    sectionOf entry = .ok part ↔ entry = (.text part.1, .map (settingsEntries part.2)) := by
  obtain ⟨name, settings⟩ := part
  constructor
  · intro h
    unfold sectionOf at h
    split at h
    · next name' entries =>
      obtain ⟨found, hfound, hpair⟩ := bind_eq_ok.mp h
      cases hpair
      rw [mapM_eq_ok] at hfound
      simp only [settingOf_eq_ok, forall₂_eq_map] at hfound
      rw [hfound]
      rfl
    · cases h
  · rintro rfl
    refine bind_eq_ok.mpr ⟨settings, mapM_eq_ok.mpr ?_, rfl⟩
    simp only [settingOf_eq_ok, forall₂_eq_map]
    rfl

theorem sectionsOf_eq_ok {value : Value} {sections : List (String × List (String × Scalar))} :
    sectionsOf value = .ok sections ↔
      value = .map (sections.map fun s => (.text s.1, .map (settingsEntries s.2))) := by
  cases value with
  | map entries =>
    rw [Value.map.injEq, ← forall₂_eq_map, sectionsOf, mapM_eq_ok]
    simp only [sectionOf_eq_ok]
  | _ => exact iff_of_false nofun nofun

/-- **Sections are loaded back** from a document if reading it finds the settings that they hold. -/
def LoadsBack (document : List Char) (sections : List (String × List (String × Scalar))) : Prop :=
  Yaml.read document = .ok (.map (sections.map fun s => (.text s.1, .map (settingsEntries s.2))))

instance (document : List Char) (sections : List (String × List (String × Scalar))) :
    Decidable (LoadsBack document sections) :=
  decidable_of_iff
    ((Yaml.read document).toOption.bind (fun value => (sectionsOf value).toOption) = some sections) <| by
    simp only [Option.bind_eq_some_iff, toOption_eq_some, sectionsOf_eq_ok]
    exact ⟨fun ⟨_, hread, hvalue⟩ => hread.trans (congrArg Except.ok hvalue), fun h => ⟨_, h, rfl⟩⟩

end Document

end SchemaScribe
