import SchemaScribe.Options
import SchemaScribe.Proofs.Updates

/-!
# Reading records that differ in one field

A record is read field by field, and the faults of all fields are kept together. So where two records differ in
one field only, and that field is fine in both, they have the same faults or none, and what is read differs in
this field only. Stated here for the type overrides among the options of a run.
-/

namespace SchemaScribe

open SchemaScribe.Document

/-! ## Outcomes with faults -/

namespace Document.Checked

variable {α β γ : Type}

theorem map_map (g : β → γ) (f : α → β) (x : Checked α) : g <$> (f <$> x) = (g ∘ f) <$> x := by
  cases x <;> rfl

theorem map_seq (g : β → γ) (f : Checked (α → β)) (x : Checked α) :
    g <$> (f <*> x) = (g ∘ ·) <$> f <*> x := by
  cases f <;> cases x <;> rfl

theorem seq_ok (f : Checked (α → β)) (a : α) : f <*> Checked.ok a = (· a) <$> f := by
  cases f <;> rfl

end Document.Checked

/-! ## Fields -/

/-- A field is read alike where the records hold the same. -/
theorem fieldOr_congr {α : Type} {record record' : Value} {name : String}
    (h : record'.get? name = record.get? name) (default : α) (reader : Reader α) :
    Read.fieldOr name default reader record' = Read.fieldOr name default reader record := by
  unfold Read.fieldOr
  rw [h]

/-- Keys are stray by themselves. -/
theorem strayKeys_cons (fields : List String) (key : Scalar) (value : Value) (rest : List (Scalar × Value)) :
    Read.strayKeys fields ((key, value) :: rest) =
      Read.strayKeys fields [(key, value)] ++ Read.strayKeys fields rest := by
  cases key with
  | text s =>
    rw [Read.strayKeys, Read.strayKeys, Read.strayKeys]
    split <;> rfl
  | _ => rfl

/-- Setting a field makes no key stray. -/
theorem strayKeys_setEntry {fields : List String} {name : String} (h : name ∈ fields) (value : Value)
    (entries : List (Scalar × Value)) :
    Read.strayKeys fields (setEntry (.text name) value entries) = Read.strayKeys fields entries := by
  have hfield : ∀ value : Value, Read.strayKeys fields [(.text name, value)] = [] := by
    intro value
    rw [Read.strayKeys, if_pos (List.contains_iff_mem.mpr h), Read.strayKeys]
  induction entries with
  | nil => exact hfield value
  | cons entry rest ih =>
    obtain ⟨key, old⟩ := entry
    rw [setEntry, strayKeys_cons fields key old]
    split
    · next hkey =>
      rw [hkey, strayKeys_cons, hfield, hfield]
    · rw [strayKeys_cons, ih]

/-- Options with other type overrides. -/
def Options.withTypes (kinds : List (String × ScalarKind)) (o : Options) : Options :=
  { o with typeOverrides := kinds }

/-- The field of the type overrides, as it is read. -/
def readTypes (record : Value) : Checked (List (String × ScalarKind)) :=
  Read.fieldOr "type_overrides" []
    (fun v => (Read.mapping (Read.choice ScalarKind.choices) v).map normalOverrides) record

/-- **Options that differ in the type overrides** only are read alike but for these. -/
theorem reader_withTypes {entries entries' : List (Scalar × Value)} {kinds kinds' : List (String × ScalarKind)}
    (hstray : Read.strayKeys Options.fields entries' = Read.strayKeys Options.fields entries)
    (h : ∀ name ≠ "type_overrides", (Value.map entries').get? name = (Value.map entries).get? name)
    (hkinds : readTypes (.map entries) = .ok kinds) (hkinds' : readTypes (.map entries') = .ok kinds') :
    Options.reader (.map entries') = Options.withTypes kinds' <$> Options.reader (.map entries) := by
  unfold readTypes at hkinds hkinds'
  unfold Options.reader Read.record
  simp only [hstray, hkinds, hkinds']
  have hfield : ∀ {α : Type} (name : String), name ≠ "type_overrides" → ∀ (default : α) (reader : Reader α),
      Read.fieldOr name default reader (.map entries') = Read.fieldOr name default reader (.map entries) :=
    fun name hname => fieldOr_congr (h name hname)
  simp (disch := decide) only [hfield]
  split
  · simp only [Checked.map_seq, Checked.map_map, Checked.seq_ok]
    rfl
  · simp only [Checked.map_seq, Checked.map_map, Checked.seq_ok]
    rfl

end SchemaScribe
