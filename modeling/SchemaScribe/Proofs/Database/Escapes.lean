import SchemaScribe.Database.Session
import SchemaScribe.Proofs.Outcome
import Mathlib.Tactic.ByContra

/-!
# Failed readings that escape

A catalog that cannot be read is announced as such: a record of it is malformed, or the database layer fails. Other
failures escape. They come from the shape of an answer, which is taken apart before any record is read of it, and
from questions that a database cannot answer, which only two of the questions allow for.

Each kind of answer is gone through for where it escapes (`KeyEscapes`, `ListingEscapes`, `ColumnEscapes`), and a
catalog escapes where the first part of it that cannot be read does (`Source.Escapes`). Once connected, an
introspection is announced if and only if its catalog does not escape (`introspect_announced_iff`).
-/

namespace SchemaScribe.Database

open SchemaScribe.Document SchemaScribe.Catalog SchemaScribe.Connection

/-! ## Failures that escape -/

/-- **A failure that no announcement covers**: no record is malformed, and the database layer does not fail. -/
def ReadError.IsEscape : ReadError → Prop
  | .malformed _ => False
  | .source fault => fault.kind.isDatabase = false
  | _ => True

/-- A reading that gives something. -/
def Reads {α : Type} (x : Answer α) : Prop := ∃ a, x = .ok a

/-- A reading with a failure that escapes. -/
def Escapes {α : Type} (x : Answer α) : Prop := ∃ e, x = .error e ∧ e.IsEscape

section Sequences

variable {α β γ : Type}

theorem reads_ok (a : α) : Reads (.ok a : Answer α) := ⟨a, rfl⟩

theorem not_escapes_ok (a : α) : ¬ Escapes (.ok a : Answer α) := fun ⟨_, h, _⟩ => nomatch h

theorem escapes_error {e : ReadError} : Escapes (.error e : Answer α) ↔ e.IsEscape :=
  ⟨fun ⟨_, h, he⟩ => by cases h; exact he, fun he => ⟨e, rfl, he⟩⟩

/-- A sequence escapes where one of its parts does, behind parts that read. -/
theorem escapes_bind {x : Answer α} {f : α → Answer β} :
    Escapes (x >>= f) ↔ Escapes x ∨ ∃ a, x = .ok a ∧ Escapes (f a) := by
  cases x with
  | error e =>
    refine ⟨fun ⟨e', h, he⟩ => .inl ⟨e', ?_, he⟩, ?_⟩
    · cases h
      rfl
    · rintro (⟨e', h, he⟩ | ⟨_, h, _⟩)
      · cases h
        exact ⟨e, rfl, he⟩
      · cases h
  | ok a =>
    refine ⟨fun h => .inr ⟨a, rfl, h⟩, ?_⟩
    rintro (h | ⟨_, h, hf⟩)
    · exact absurd h (not_escapes_ok a)
    · cases h
      exact hf

/-- A step that only passes its result on changes nothing. -/
theorem escapes_map {x : Answer α} {f : α → β} : Escapes (f <$> x) ↔ Escapes x := by
  cases x with
  | error e => exact ⟨fun ⟨_, h, he⟩ => by cases h; exact ⟨e, rfl, he⟩, fun ⟨_, h, he⟩ => by cases h; exact ⟨e, rfl, he⟩⟩
  | ok a => exact iff_of_false (not_escapes_ok (f a)) (not_escapes_ok a)

theorem reads_map {x : Answer α} {f : α → β} : Reads (f <$> x) ↔ Reads x := by
  cases x with
  | error e => exact iff_of_false (fun ⟨_, h⟩ => nomatch h) fun ⟨_, h⟩ => nomatch h
  | ok a => exact iff_of_true (reads_ok (f a)) (reads_ok a)

/-- **The first of some items that cannot be read escapes**, in the way that is asked about. -/
def FirstEscapes (f : α → Answer β) (P : α → Prop) (items : List α) : Prop :=
  ∃ before item after, items = before ++ item :: after ∧ (∀ i ∈ before, Reads (f i)) ∧ P item

theorem firstEscapes_congr {f : α → Answer β} {P Q : α → Prop} {items : List α} (h : ∀ i ∈ items, P i ↔ Q i) :
    FirstEscapes f P items ↔ FirstEscapes f Q items := by
  refine exists_congr fun before => exists_congr fun item => exists_congr fun after => ?_
  refine and_congr_right fun hitems => and_congr_right fun _ => h item ?_
  rw [hitems]
  exact List.mem_append_right _ List.mem_cons_self

theorem firstEscapes_cons {f : α → Answer β} {P : α → Prop} {first : α} {rest : List α} :
    FirstEscapes f P (first :: rest) ↔ P first ∨ Reads (f first) ∧ FirstEscapes f P rest := by
  constructor
  · rintro ⟨before, item, after, hitems, hbefore, hitem⟩
    cases before with
    | nil =>
      cases hitems
      exact .inl hitem
    | cons i before =>
      cases hitems
      exact .inr ⟨hbefore first List.mem_cons_self, before, item, after, rfl,
        fun i hi => hbefore i (List.mem_cons_of_mem _ hi), hitem⟩
  · rintro (hfirst | ⟨hreads, before, item, after, rfl, hbefore, hitem⟩)
    · exact ⟨[], first, rest, rfl, fun _ hi => absurd hi List.not_mem_nil, hfirst⟩
    · exact ⟨first :: before, item, after, rfl, List.forall_mem_cons.mpr ⟨hreads, hbefore⟩, hitem⟩

theorem not_firstEscapes_nil {f : α → Answer β} {P : α → Prop} : ¬ FirstEscapes f P [] := by
  rintro ⟨before, item, after, hitems, _⟩
  exact List.append_ne_nil_of_right_ne_nil before (List.cons_ne_nil item after) hitems.symm

/-- Items that are read one by one escape where the first does that cannot be read. -/
theorem escapes_mapM {f : α → Answer β} {items : List α} :
    Escapes (items.mapM f) ↔ FirstEscapes f (fun i => Escapes (f i)) items := by
  induction items with
  | nil => exact iff_of_false (not_escapes_ok []) not_firstEscapes_nil
  | cons first rest ih =>
    rw [List.mapM_cons, escapes_bind, firstEscapes_cons, ← ih]
    refine or_congr_right ⟨?_, ?_⟩
    · rintro ⟨b, hb, h⟩
      rcases escapes_bind.mp h with h | ⟨_, _, h⟩
      · exact ⟨⟨b, hb⟩, h⟩
      · exact absurd h (not_escapes_ok _)
    · rintro ⟨⟨b, hb⟩, h⟩
      exact ⟨b, hb, escapes_bind.mpr (.inl h)⟩

end Sequences

/-! ## Shapes of answers -/

/-- A value with entries. -/
def IsMapping (v : Value) : Prop := ∃ entries, v = .map entries

/-- A value with items: a list, a text or a mapping. -/
def HasItems : Value → Prop
  | .list _ | .map _ | .text _ | .scalar (.broken _ _) => True
  | _ => False

/-- The value under a key, null where there is none. -/
def fieldOf (key : String) (raw : Value) : Value := (raw.get? key).getD .null

/-- The items of a value, none where it has none. -/
def itemsIn (v : Value) : List Value := (itemsOf v).toOption.getD []

/-- A reading that gives a value under a condition, and escapes otherwise. -/
def Decides {α : Type} (x : Answer α) (P : Prop) (a : α) : Prop := P ∧ x = .ok a ∨ ¬ P ∧ Escapes x

section Decides

variable {α : Type} {x : Answer α} {P : Prop} {a : α}

theorem Decides.escapes_iff (h : Decides x P a) : Escapes x ↔ ¬ P := by
  rcases h with ⟨hP, rfl⟩ | ⟨hP, hx⟩
  · exact iff_of_false (not_escapes_ok a) (not_not_intro hP)
  · exact iff_of_true hx hP

theorem Decides.eq_ok (h : Decides x P a) (hP : P) : x = .ok a := by
  rcases h with ⟨_, hx⟩ | ⟨hnone, _⟩
  · exact hx
  · exact absurd hP hnone

/-- A sequence that begins with such a reading. -/
theorem Decides.escapes_bind {β : Type} (h : Decides x P a) {f : α → Answer β} :
    Escapes (x >>= f) ↔ ¬ P ∨ Escapes (f a) := by
  rcases h with ⟨hP, rfl⟩ | ⟨hP, e, rfl, he⟩
  · exact (or_iff_right (not_not_intro hP)).symm
  · exact iff_of_true ⟨e, rfl, he⟩ (.inl hP)

end Decides

theorem itemsOf_decides (v : Value) : Decides (itemsOf v) (HasItems v) (itemsIn v) := by
  cases v with
  | list items => exact .inl ⟨trivial, rfl⟩
  | map entries => exact .inl ⟨trivial, rfl⟩
  | scalar c =>
    cases c with
    | text s => exact .inl ⟨trivial, rfl⟩
    | broken s standIns => exact .inl ⟨trivial, rfl⟩
    | _ => exact .inr ⟨id, escapes_error.mpr trivial⟩

theorem entryOf_decides (key : String) (raw : Value) :
    Decides (entryOf key raw) (IsMapping raw) (fieldOf key raw) := by
  cases raw with
  | map entries => exact .inl ⟨⟨entries, rfl⟩, rfl⟩
  | scalar _ => exact .inr ⟨(fun ⟨_, h⟩ => nomatch h), escapes_error.mpr trivial⟩
  | list _ => exact .inr ⟨(fun ⟨_, h⟩ => nomatch h), escapes_error.mpr trivial⟩

theorem requiredEntry_decides (key : String) (raw : Value) :
    Decides (requiredEntry key raw) (raw.get? key ≠ none) (fieldOf key raw) := by
  cases raw with
  | map entries =>
    unfold fieldOf
    cases hfound : Value.get? key (.map entries) with
    | none =>
      have hmissing : requiredEntry key (.map entries) = .error (.missingEntry key) := by
        change entryAt? (.text key) entries = none at hfound
        rw [requiredEntry, hfound]
      exact .inr ⟨not_not_intro rfl, hmissing ▸ escapes_error.mpr trivial⟩
    | some value =>
      have hgiven : requiredEntry key (.map entries) = .ok value := by
        change entryAt? (.text key) entries = some value at hfound
        rw [requiredEntry, hfound]
      exact .inl ⟨Option.some_ne_none value, hgiven⟩
  | scalar _ => exact .inr ⟨not_not_intro rfl, escapes_error.mpr trivial⟩
  | list _ => exact .inr ⟨not_not_intro rfl, escapes_error.mpr trivial⟩

/-- Items that need not be there. -/
theorem escapes_itemsOrNone {v : Value} : Escapes (itemsOrNone v) ↔ v.isVoid = false ∧ ¬ HasItems v := by
  unfold itemsOrNone
  cases v.isVoid with
  | true => exact iff_of_false (not_escapes_ok _) fun h => nomatch h.1
  | false => exact (itemsOf_decides v).escapes_iff.trans (and_iff_right rfl).symm

/-- Nothing that is malformed escapes. -/
theorem not_escapes_malformed {α : Type} (x : Except Malformed α) : ¬ Escapes (x.mapError .malformed) := by
  cases x with
  | error malformed => exact fun h => escapes_error.mp h
  | ok a => exact not_escapes_ok a

theorem not_escapes_record {α : Type} (title : String) (reader : Reader α) (entries : List (String × Value)) :
    ¬ Escapes (record title reader entries) := not_escapes_malformed _

/-! ## Records -/

/-- **A listing that escapes**: no mapping, or one that has something without items under the key. -/
def ListingEscapes (key : String) (raw : Value) : Prop :=
  ¬ IsMapping raw ∨ (fieldOf key raw).isVoid = false ∧ ¬ HasItems (fieldOf key raw)

/-- **A key that escapes**: no mapping, or one with columns and a target where these columns or those referred to
cannot be listed, as when the latter are not there at all, or where the options are something else than a mapping. -/
def KeyEscapes (raw : Value) : Prop :=
  ¬ IsMapping raw ∨
    (fieldOf "constrained_columns" raw).isVoid = false ∧ (fieldOf "referred_table" raw).isVoid = false ∧
      (¬ HasItems (fieldOf "constrained_columns" raw) ∨ ¬ HasItems (fieldOf "referred_columns" raw) ∨
        (fieldOf "options" raw).isVoid = false ∧ ¬ IsMapping (fieldOf "options" raw))

/-- A type whose spelling fails in a way that is not allowed for. -/
def SpellingEscapes : RawType → Prop
  | .plain _ (.error fault) _ _ _ _ => fault.kind.isDatabase = false ∧ fault.kind ≠ .unsupported
  | _ => False

/-- **A name that is looked up and cannot be**: the column does not tell by itself whether its values are generated,
it is the whole primary key, an integer, and not reported to be without generated values, so its name is looked
for among the columns of keys; but the name is a list or a mapping. -/
structure NameEscapes (type : RawType) (primaryKey : List Value) (raw : Value) : Prop where
  untold : tellsGenerated (fieldOf "autoincrement" raw) (fieldOf "identity" raw) (fieldOf "computed" raw)
    (fieldOf "default" raw) = false
  placed : mayBeGenerated (fieldOf "name" raw) (fieldOf "autoincrement" raw) type primaryKey = true
  unhashed : ∀ c, fieldOf "name" raw ≠ .scalar c

/-- **A column that escapes**: it has no type, one whose spelling escapes, or one that is spelled, and no name or one
that is looked up and cannot be. -/
def ColumnEscapes (s : Source) (primaryKey : List Value) (raw : Value) : Prop :=
  raw.get? "type" = none ∨ SpellingEscapes (s.typeOf (fieldOf "type" raw)) ∨
    Reads (typeSpelling (s.typeOf (fieldOf "type" raw))) ∧
      (raw.get? "name" = none ∨ NameEscapes (s.typeOf (fieldOf "type" raw)) primaryKey raw)

/-- A sequence goes on behind a reading that gives something. -/
theorem ok_bind {α β : Type} (a : α) (f : α → Answer β) : ((.ok a : Answer α) >>= f) = f a := rfl

theorem escapes_readIndex {raw : Value} : Escapes (readIndex raw) ↔ ListingEscapes "column_names" raw := by
  unfold readIndex ListingEscapes
  rw [(entryOf_decides _ _).escapes_bind]
  by_cases hraw : IsMapping raw
  · rw [escapes_bind, escapes_itemsOrNone]
    refine or_congr_right (or_iff_left ?_)
    rintro ⟨columns, _, h⟩
    split at h
    · exact not_escapes_ok none h
    · rw [(entryOf_decides _ _).eq_ok hraw, (entryOf_decides _ _).eq_ok hraw, ok_bind, ok_bind, escapes_map] at h
      exact not_escapes_record _ _ _ h
  · exact iff_of_true (.inl hraw) (.inl hraw)

theorem escapes_readUnique {raw : Value} : Escapes (readUnique raw) ↔ ListingEscapes "column_names" raw := by
  unfold readUnique ListingEscapes
  rw [(entryOf_decides _ _).escapes_bind]
  by_cases hraw : IsMapping raw
  · refine or_congr_right ?_
    cases (fieldOf "column_names" raw).isVoid with
    | true => exact iff_of_false (not_escapes_ok none) fun h => nomatch h.1
    | false =>
      rw [if_neg Bool.false_ne_true, (entryOf_decides _ _).eq_ok hraw, ok_bind, (itemsOf_decides _).escapes_bind,
        escapes_map]
      exact (or_iff_left (not_escapes_record _ _ _)).trans (and_iff_right rfl).symm
  · exact iff_of_true (.inl hraw) (.inl hraw)

theorem escapes_readKey {table : String} {raw : Value} : Escapes (readKey table raw) ↔ KeyEscapes raw := by
  unfold readKey KeyEscapes
  rw [(entryOf_decides _ _).escapes_bind]
  by_cases hraw : IsMapping raw
  · refine or_congr_right ?_
    cases (fieldOf "constrained_columns" raw).isVoid with
    | true => exact iff_of_false (not_escapes_ok none) fun h => nomatch h.1
    | false =>
      rw [if_neg Bool.false_ne_true, (entryOf_decides _ _).eq_ok hraw, ok_bind]
      cases (fieldOf "referred_table" raw).isVoid with
      | true => exact iff_of_false (not_escapes_ok none) fun h => nomatch h.2.1
      | false =>
        -- columns referred to that are not there count like null ones, which have no items either
        have habsent : raw.get? "referred_columns" = none → ¬ HasItems (fieldOf "referred_columns" raw) := by
          intro hnone
          unfold fieldOf
          rw [hnone]
          exact id
        have hoptions : ¬ IsMapping (if (fieldOf "options" raw).isVoid then .map [] else fieldOf "options" raw) ↔
            (fieldOf "options" raw).isVoid = false ∧ ¬ IsMapping (fieldOf "options" raw) := by
          cases (fieldOf "options" raw).isVoid with
          | true => exact iff_of_false (not_not_intro ⟨[], rfl⟩) fun h => nomatch h.1
          | false => exact (and_iff_right rfl).symm
        simp only [Bool.false_eq_true, if_false, true_and, (entryOf_decides _ _).eq_ok hraw, ok_bind,
          (itemsOf_decides _).escapes_bind, (requiredEntry_decides _ _).escapes_bind,
          (entryOf_decides _ _).escapes_bind, escapes_map, not_escapes_record, hoptions, ne_eq, Classical.not_not,
          or_false, or_self]
        rw [← or_assoc (a := raw.get? "referred_columns" = none), or_iff_right_of_imp habsent]
  · exact iff_of_true (.inl hraw) (.inl hraw)

theorem escapes_typeSpelling {type : RawType} : Escapes (typeSpelling type) ↔ SpellingEscapes type := by
  unfold typeSpelling SpellingEscapes
  split
  · exact iff_of_false (not_escapes_ok _) id
  · exact iff_of_false (not_escapes_ok _) id
  · next fault _ _ _ _ =>
    cases hkind : fault.kind <;> simp [hkind, escapes_error, not_escapes_ok, ReadError.IsEscape, FaultClass.isDatabase]

theorem hashed_decides (value : Value) : Decides (hashed value) (∃ c, value = .scalar c) value := by
  cases value with
  | scalar c => exact .inl ⟨⟨c, rfl⟩, rfl⟩
  | list _ => exact .inr ⟨(fun ⟨_, h⟩ => nomatch h), escapes_error.mpr trivial⟩
  | map _ => exact .inr ⟨(fun ⟨_, h⟩ => nomatch h), escapes_error.mpr trivial⟩

/-- Whether a column is generated is read of any mapping with a name, unless this name cannot be looked up. -/
theorem escapes_isGenerated {raw : Value} (hraw : IsMapping raw) (hname : raw.get? "name" ≠ none) {type : RawType}
    {primaryKey : List Value} {keyColumns : List String} :
    Escapes (isGenerated raw type primaryKey keyColumns) ↔ NameEscapes type primaryKey raw := by
  unfold isGenerated
  simp only [(entryOf_decides _ _).eq_ok hraw, (requiredEntry_decides _ _).eq_ok hname, ok_bind]
  split
  · next htold => exact iff_of_false (not_escapes_ok _) fun h => Bool.false_ne_true (h.untold.symm.trans htold)
  · next huntold =>
    split
    · next hplaced =>
      have huntold' := Bool.eq_false_iff.mpr huntold
      refine (hashed_decides _).escapes_bind.trans ((or_iff_left (not_escapes_ok _)).trans ?_)
      exact ⟨fun h => ⟨huntold', hplaced, fun c hc => h ⟨c, hc⟩⟩, fun h ⟨c, hc⟩ => h.unhashed c hc⟩
    · next hplaced => exact iff_of_false (not_escapes_ok _) fun h => hplaced h.placed

theorem escapes_readColumn {s : Source} {primaryKey : List Value} {keyColumns : List String} {raw : Value} :
    Escapes (readColumn s primaryKey keyColumns raw) ↔ ColumnEscapes s primaryKey raw := by
  unfold readColumn ColumnEscapes
  rw [(requiredEntry_decides _ _).escapes_bind, ne_eq, Classical.not_not]
  by_cases htype : raw.get? "type" = none
  · exact iff_of_true (.inl htype) (.inl htype)
  · have hraw : IsMapping raw := by
      cases raw with
      | map entries => exact ⟨entries, rfl⟩
      | scalar _ => exact absurd rfl htype
      | list _ => exact absurd rfl htype
    refine or_congr_right ?_
    rw [escapes_bind, escapes_typeSpelling]
    refine or_congr_right ⟨?_, ?_⟩
    · rintro ⟨spelling, hspelling, h⟩
      refine ⟨⟨spelling, hspelling⟩, or_iff_not_imp_left.mpr fun hname => ?_⟩
      rw [(entryOf_decides _ _).eq_ok hraw, ok_bind, (requiredEntry_decides _ _).eq_ok hname, ok_bind] at h
      rcases escapes_bind.mp h with h | ⟨_, _, h⟩
      · split at h
        · exact absurd h (not_escapes_ok _)
        · exact absurd h (not_escapes_ok _)
      · rcases escapes_bind.mp h with h | ⟨_, _, h⟩
        · exact (escapes_isGenerated hraw hname).mp h
        · rw [(entryOf_decides _ _).eq_ok hraw, ok_bind] at h
          exact absurd h (not_escapes_record _ _ _)
    · rintro ⟨⟨spelling, hspelling⟩, h⟩
      refine ⟨spelling, hspelling, ?_⟩
      rw [(entryOf_decides _ _).eq_ok hraw, ok_bind, (requiredEntry_decides _ _).escapes_bind]
      refine or_iff_not_imp_left.mpr fun hname => ?_
      have hname' := Classical.not_not.mp hname
      have hescapes : Escapes (isGenerated raw (s.typeOf (fieldOf "type" raw)) primaryKey keyColumns) :=
        (escapes_isGenerated hraw hname').mpr (h.resolve_left hname')
      cases raw.get? "nullable" with
      | some value => exact escapes_bind.mpr (.inr ⟨!value.isVoid, rfl, escapes_bind.mpr (.inl hescapes)⟩)
      | none => exact escapes_bind.mpr (.inr ⟨true, rfl, escapes_bind.mpr (.inl hescapes)⟩)

/-! ## Answers about a table -/

/-- Reads the primary key of a table. -/
def readPrimaryKey (s : Source) (table : String) : Answer (List Value) := do
  let pk ← entryOf "constrained_columns" (← asked (s.ask .primaryKey table))
  itemsOrNone pk

/-- Reads the items of an answer one by one. -/
def readListed {α : Type} (answer : Answer Value) (f : Value → Answer α) : Answer (List α) := do
  (← itemsOf (← answer)).mapM f

/-- The primary key of a table, empty where it cannot be read. -/
def primaryKeyOf (s : Source) (table : String) : List Value := (readPrimaryKey s table).toOption.getD []

/-- The columns of the keys of a table, none where they cannot be read. -/
def keyColumnsOf (s : Source) (table : String) : List String :=
  ((readKeys s table []).toOption.getD []).flatMap (·.columns)

/-- The questions about a table in their order. -/
def tableQuestions : List Question := [.primaryKey, .foreignKeys, .columns, .indexes, .uniques, .comment]

/-- Reads the answer to a question about a table. -/
def readAnswer (s : Source) (table : String) : Question → Answer Unit
  | .primaryKey => (fun _ => ()) <$> readPrimaryKey s table
  | .foreignKeys => (fun _ => ()) <$> readKeys s table []
  | .columns => (fun _ => ()) <$> readColumns s table (primaryKeyOf s table) (keyColumnsOf s table)
  | .indexes => (fun _ => ()) <$> readListed (asked (s.ask .indexes table)) readIndex
  | .uniques => (fun _ => ()) <$> readListed (orUnsupported (s.ask .uniques table) (.list [])) readUnique
  | .comment => (fun _ => ()) <$> readComment s table

/-- **A question with a failure that escapes**: none of the database layer, and none that is allowed for. Only for
unique constraints and comments it is allowed that the database cannot answer. -/
def FaultEscapes (s : Source) (q : Question) (table : String) : Prop :=
  ∃ fault, s.ask q table = .error fault ∧ fault.kind.isDatabase = false ∧
    (fault.kind = .unsupported → q ≠ .uniques ∧ q ≠ .comment)

/-- Items of an answer that escape: there are none to be had, or the first that cannot be read does. -/
def ItemsEscape {α : Type} (f : Value → Answer α) (P : Value → Prop) (answer : Value) : Prop :=
  ¬ HasItems answer ∨ FirstEscapes f P (itemsIn answer)

/-- **An answer that escapes.** -/
def AnswerEscapes (s : Source) (table : String) : Question → Value → Prop
  | .primaryKey => ListingEscapes "constrained_columns"
  | .foreignKeys => ItemsEscape (readKey table) KeyEscapes
  | .columns =>
    ItemsEscape (readColumn s (primaryKeyOf s table) (keyColumnsOf s table)) (ColumnEscapes s (primaryKeyOf s table))
  | .indexes => ItemsEscape readIndex (ListingEscapes "column_names")
  | .uniques => ItemsEscape readUnique (ListingEscapes "column_names")
  | .comment => fun answer => ¬ IsMapping answer

/-- **A question that escapes**: it fails so, or is answered so. -/
def QuestionEscapes (s : Source) (table : String) (q : Question) : Prop :=
  FaultEscapes s q table ∨ ∃ answer, s.ask q table = .ok answer ∧ AnswerEscapes s table q answer

section Answers

variable {α β : Type}

theorem escapes_asked_bind {x : Except SourceFault α} {f : α → Answer β} :
    Escapes (asked x >>= f) ↔
      (∃ fault, x = .error fault ∧ fault.kind.isDatabase = false) ∨ ∃ a, x = .ok a ∧ Escapes (f a) := by
  cases x with
  | error fault =>
    refine escapes_error.trans ⟨fun h => .inl ⟨fault, rfl, h⟩, ?_⟩
    rintro (⟨_, h, hfault⟩ | ⟨_, h, _⟩)
    · cases h
      exact hfault
    · cases h
  | ok a =>
    refine ⟨fun h => .inr ⟨a, rfl, h⟩, ?_⟩
    rintro (⟨_, h, _⟩ | ⟨_, h, hf⟩)
    · cases h
    · cases h
      exact hf

theorem escapes_orUnsupported_bind {x : Except SourceFault Value} {value : Value} {f : Value → Answer β}
    (hvalue : ¬ Escapes (f value)) :
    Escapes (orUnsupported x value >>= f) ↔
      (∃ fault, x = .error fault ∧ fault.kind.isDatabase = false ∧ fault.kind ≠ .unsupported) ∨
        ∃ a, x = .ok a ∧ Escapes (f a) := by
  cases x with
  | error fault =>
    have hnone : ¬ ∃ a, (.error fault : Except SourceFault Value) = .ok a ∧ Escapes (f a) := fun ⟨_, h, _⟩ => nomatch h
    rw [or_iff_left hnone]
    by_cases hkind : fault.kind = .unsupported
    · have hgiven : orUnsupported (.error fault) value = .ok value := if_pos hkind
      rw [hgiven]
      refine iff_of_false hvalue ?_
      rintro ⟨_, h, _, hne⟩
      cases h
      exact hne hkind
    · have hgiven : orUnsupported (.error fault) value = .error (.source fault) := if_neg hkind
      rw [hgiven]
      refine escapes_error.trans ⟨fun h => ⟨fault, rfl, h, hkind⟩, ?_⟩
      rintro ⟨_, h, hfault, _⟩
      cases h
      exact hfault
  | ok a =>
    refine ⟨fun h => .inr ⟨a, rfl, h⟩, ?_⟩
    rintro (⟨_, h, _⟩ | ⟨_, h, hf⟩)
    · cases h
    · cases h
      exact hf

theorem escapes_items {f : Value → Answer α} {P : Value → Prop} (h : ∀ raw, Escapes (f raw) ↔ P raw) (answer : Value) :
    Escapes (itemsOf answer >>= fun items => items.mapM f) ↔ ItemsEscape f P answer := by
  rw [(itemsOf_decides answer).escapes_bind, escapes_mapM]
  exact or_congr_right (firstEscapes_congr fun raw _ => h raw)

variable {s : Source} {table : String}

/-- A question whose failures are only those of the database layer. -/
theorem questionEscapes_iff {q : Question} (hq : q ≠ .uniques ∧ q ≠ .comment) {P : Value → Prop}
    (hP : ∀ answer, P answer ↔ AnswerEscapes s table q answer) :
    ((∃ fault, s.ask q table = .error fault ∧ fault.kind.isDatabase = false) ∨
      ∃ answer, s.ask q table = .ok answer ∧ P answer) ↔ QuestionEscapes s table q := by
  refine or_congr (exists_congr fun fault => and_congr_right fun _ => ?_)
    (exists_congr fun answer => and_congr_right fun _ => hP answer)
  exact (and_iff_left fun _ => hq).symm

/-- A question that the database need not be able to answer. -/
theorem questionEscapes_iff_of_allowed {q : Question} (hq : q = .uniques ∨ q = .comment) {P : Value → Prop}
    (hP : ∀ answer, P answer ↔ AnswerEscapes s table q answer) :
    ((∃ fault, s.ask q table = .error fault ∧ fault.kind.isDatabase = false ∧ fault.kind ≠ .unsupported) ∨
      ∃ answer, s.ask q table = .ok answer ∧ P answer) ↔ QuestionEscapes s table q := by
  refine or_congr (exists_congr fun fault => and_congr_right fun _ => and_congr_right fun _ => ?_)
    (exists_congr fun answer => and_congr_right fun _ => hP answer)
  refine ⟨fun hne hkind => absurd hkind hne, fun h hkind => ?_⟩
  rcases hq with hq | hq
  · exact (h hkind).1 hq
  · exact (h hkind).2 hq

/-- **The answer to a question escapes if and only if the question does.** -/
theorem escapes_readAnswer (s : Source) (table : String) (q : Question) :
    Escapes (readAnswer s table q) ↔ QuestionEscapes s table q := by
  unfold readAnswer
  cases q with
  | primaryKey =>
    rw [escapes_map, readPrimaryKey, escapes_asked_bind]
    refine questionEscapes_iff (by decide) fun answer => ?_
    rw [(entryOf_decides _ _).escapes_bind, escapes_itemsOrNone]
    rfl
  | foreignKeys =>
    rw [escapes_map, readKeys, escapes_asked_bind]
    refine questionEscapes_iff (by decide) fun answer => ?_
    rw [← bind_assoc, escapes_bind, escapes_items fun raw => escapes_readKey]
    refine or_iff_left ?_
    rintro ⟨_, _, h⟩
    exact not_escapes_ok _ h
  | columns =>
    rw [escapes_map, readColumns, escapes_asked_bind]
    exact questionEscapes_iff (by decide) fun answer => escapes_items (fun raw => escapes_readColumn) answer
  | indexes =>
    rw [escapes_map, readListed, escapes_asked_bind]
    exact questionEscapes_iff (by decide) fun answer => escapes_items (fun raw => escapes_readIndex) answer
  | uniques =>
    have hnone : ¬ Escapes (itemsOf (.list []) >>= fun raws => raws.mapM readUnique) := not_escapes_ok []
    rw [escapes_map, readListed, escapes_orUnsupported_bind hnone]
    exact questionEscapes_iff_of_allowed (.inl rfl) fun answer => escapes_items (fun raw => escapes_readUnique) answer
  | comment =>
    have hnone : ¬ Escapes (entryOf "text" (.map [])) := fun h => (entryOf_decides _ _).escapes_iff.mp h ⟨[], rfl⟩
    rw [escapes_map, readComment, escapes_orUnsupported_bind hnone]
    exact questionEscapes_iff_of_allowed (.inr rfl) fun answer => (entryOf_decides _ _).escapes_iff

end Answers

/-! ## Tables and catalogs -/

/-- **A table that escapes**: the first question about it whose answer cannot be read does. -/
def TableEscapes (s : Source) (table : String) : Prop :=
  FirstEscapes (readAnswer s table) (QuestionEscapes s table) tableQuestions

/-- **A catalog that escapes**: the question about its tables does, or the first table that cannot be read. -/
def Source.Escapes (s : Source) (schema : Option String) : Prop :=
  (∃ fault, s.tableNames = .error fault ∧ fault.kind.isDatabase = false) ∨
    ∃ names, s.tableNames = .ok names ∧
      FirstEscapes (readTable s schema) (TableEscapes s) (names.mergeSort fun a b => a ≤ b)

/-- A sequence whose first part does what another reading does. -/
theorem escapes_bind_iff {α β γ : Type} {x : Answer α} {y : Answer β} {f : α → Answer γ} {P : Prop}
    (hx : Escapes x ↔ Escapes y) (hreads : Reads x ↔ Reads y) (hrest : ∀ a, x = .ok a → (Escapes (f a) ↔ P)) :
    Escapes (x >>= f) ↔ Escapes y ∨ Reads y ∧ P := by
  rw [escapes_bind, hx, ← hreads]
  refine or_congr_right ⟨?_, ?_⟩
  · rintro ⟨a, ha, h⟩
    exact ⟨⟨a, ha⟩, (hrest a ha).mp h⟩
  · rintro ⟨⟨a, ha⟩, hP⟩
    exact ⟨a, ha, (hrest a ha).mpr hP⟩

theorem not_escapes_assemble (name : String) (schema : Option String) (columns : List Column) (primaryKey : List Value)
    (keys : List ForeignKey) (indexes uniques : List Index) (comment : Value) :
    ¬ Escapes (assemble name schema columns primaryKey keys indexes uniques comment) := by
  unfold assemble
  rw [escapes_bind]
  rintro (h | ⟨_, _, h⟩)
  · exact not_escapes_malformed _ h
  · split at h
    · exact not_escapes_ok _ h
    · exact escapes_error.mp h

/-- A table is read by its questions in order. -/
theorem readTable_eq (s : Source) (schema : Option String) (table : String) :
    readTable s schema table = (do
      let primaryKey ← readPrimaryKey s table
      let keys ← readKeys s table []
      let columns ← readColumns s table primaryKey (keys.flatMap (·.columns))
      let indexes ← readListed (asked (s.ask .indexes table)) readIndex
      let uniques ← readListed (orUnsupported (s.ask .uniques table) (.list [])) readUnique
      let comment ← readComment s table
      assemble table schema columns primaryKey (sortKeys (placesOf columns) keys) (indexes.filterMap id)
        (uniques.filterMap id) comment) := by
  unfold readTable readPrimaryKey readIndexes readListed
  simp only [bind_assoc, pure_bind]

theorem escapes_readTable (s : Source) (schema : Option String) (table : String) :
    Escapes (readTable s schema table) ↔ TableEscapes s table := by
  unfold TableEscapes
  rw [← firstEscapes_congr fun q _ => escapes_readAnswer s table q, readTable_eq]
  unfold tableQuestions
  simp only [firstEscapes_cons]
  refine escapes_bind_iff escapes_map.symm reads_map.symm fun primaryKey hprimary => ?_
  refine escapes_bind_iff escapes_map.symm reads_map.symm fun keys hkeys => ?_
  have hcolumns : readColumns s table primaryKey (keys.flatMap (·.columns)) =
      readColumns s table (primaryKeyOf s table) (keyColumnsOf s table) := by
    unfold primaryKeyOf keyColumnsOf
    rw [hprimary, hkeys]
    rfl
  rw [hcolumns]
  refine escapes_bind_iff escapes_map.symm reads_map.symm fun columns _ => ?_
  refine escapes_bind_iff escapes_map.symm reads_map.symm fun indexes _ => ?_
  refine escapes_bind_iff escapes_map.symm reads_map.symm fun uniques _ => ?_
  refine escapes_bind_iff escapes_map.symm reads_map.symm fun comment _ => ?_
  exact iff_of_false (not_escapes_assemble _ _ _ _ _ _ _ _) not_firstEscapes_nil

theorem escapes_readSnapshot (s : Source) (schema : Option String) :
    Escapes (readSnapshot s schema) ↔ s.Escapes schema := by
  unfold readSnapshot Source.Escapes
  rw [escapes_asked_bind]
  refine or_congr_right (exists_congr fun names => and_congr_right fun _ => ?_)
  rw [escapes_bind, escapes_mapM, firstEscapes_congr fun table _ => escapes_readTable s schema table]
  refine or_iff_left ?_
  rintro ⟨_, _, h⟩
  exact not_escapes_ok _ h

/-! ## Introspection -/

/-- A complaint about the catalog. -/
def IntrospectError.IsOfCatalog : IntrospectError → Prop
  | .malformed _ | .unreadable _ | .inconsistent _ => True
  | _ => False

/-- **An introspection that ends as announced**: with a catalog, or with a complaint about it. -/
def Introspection.Announced (i : Introspection) : Prop :=
  (∃ snapshot, i.result = .ok snapshot) ∨ ∃ e, i.result = .error e ∧ e.IsOfCatalog

/-- A session that is connected reads through its inspector. -/
theorem connect_eq_ok {d : Descriptor} {source : Source} {session : Session} {events : List Event}
    (h : (Session.mk d false false false).connect source = (session, events, .ok ())) :
    session.inspector = true ∧ session.descriptor = d := by
  unfold Session.connect at h
  split at h
  · cases h
  · split at h
    · next hsteps =>
      cases h
      unfold Session.openSteps at hsteps
      cases hcreate : source.createFault with
      | some _ => rw [hcreate] at hsteps; cases hsteps
      | none =>
        cases hconnect : source.connectFault with
        | some _ => rw [hcreate, hconnect] at hsteps; cases hsteps
        | none =>
          cases hinspect : source.inspectFault with
          | some _ => rw [hcreate, hconnect, hinspect] at hsteps; cases hsteps
          | none =>
            rw [hcreate, hconnect, hinspect] at hsteps
            cases hsteps
            exact ⟨rfl, rfl⟩
    · split at h <;> cases h

/-- A failed reading is a complaint about the catalog unless it escapes. -/
theorem ofRead_isOfCatalog {e : ReadError} : (IntrospectError.ofRead e).IsOfCatalog ↔ ¬ e.IsEscape := by
  cases e with
  | malformed record => exact iff_of_true trivial id
  | source fault =>
    show (if fault.kind.isDatabase then IntrospectError.unreadable fault.message
      else .uncaught (.source fault)).IsOfCatalog ↔ ¬ fault.kind.isDatabase = false
    cases fault.kind.isDatabase with
    | true => exact iff_of_true trivial Bool.noConfusion
    | false => exact iff_of_false id (not_not_intro rfl)
  | _ => exact iff_of_false id (not_not_intro trivial)

/-- **Once connected, an introspection ends as announced if and only if its catalog does not escape.** What
escapes is told by the answers of the source alone, question by question in the order of reading. A catalog that
is read and does not pass its checks is announced, too. How connecting fails is left open. -/
theorem introspect_announced_iff {d : Descriptor} {source : Source} (o : Option Options)
    (hconnected : ((Session.mk d false false false).connect source).2.2 = .ok ()) :
    (introspect d source o).Announced ↔ ¬ source.Escapes d.schema := by
  rw [← escapes_readSnapshot]
  cases hsession : (Session.mk d false false false).connect source with
  | mk session opened =>
    obtain ⟨events, outcome⟩ := opened
    rw [hsession] at hconnected
    cases hconnected
    obtain ⟨hinspector, rfl⟩ := connect_eq_ok hsession
    have hread : session.read source =
        (readSnapshot source session.descriptor.schema).mapError IntrospectError.ofRead := by
      unfold Session.read Session.inspect
      rw [if_pos hinspector]
    unfold introspect Introspection.Announced
    rw [hsession]
    dsimp only
    rw [hread]
    cases readSnapshot source session.descriptor.schema with
    | error e =>
      rw [escapes_error, ← ofRead_isOfCatalog]
      refine ⟨?_, fun h => .inr ⟨_, rfl, h⟩⟩
      rintro (⟨_, h⟩ | ⟨_, h, hcatalog⟩)
      · cases h
      · cases h
        exact hcatalog
    | ok snapshot =>
      refine iff_of_true ?_ (not_escapes_ok snapshot)
      show (∃ found, (snapshot.prepare o).outcome.mapError IntrospectError.inconsistent = .ok found) ∨
        ∃ e, (snapshot.prepare o).outcome.mapError IntrospectError.inconsistent = .error e ∧ e.IsOfCatalog
      cases (snapshot.prepare o).outcome with
      | ok found => exact .inl ⟨found, rfl⟩
      | error catalog => exact .inr ⟨.inconsistent catalog, rfl, trivial⟩

/-- A file that holds a database. -/
def storeFile : Descriptor := { url := some "sqlite:///store.db", has_target := .inl rfl }

/-- Badges with a key of which it is not reported what it refers to. -/
def badges : Source where
  tables := [
    { name := "badge"
      answers := [
        (.columns, .list [.record [("name", .text "owner_id"), ("type", .null)]]),
        (.foreignKeys, .list [.record [("constrained_columns", .texts ["owner_id"]),
          ("referred_table", .text "guest")]])] }]

/-- The badges escape, and their introspection does not end as announced. -/
theorem introspect_announced_iff_badges :
    ((Session.mk storeFile false false false).connect badges).2.2 = .ok () ∧
      badges.Escapes storeFile.schema ∧ ¬ (introspect storeFile badges none).Announced := by
  have hconnected : ((Session.mk storeFile false false false).connect badges).2.2 = .ok () :=
    toOption_eq_some.mp (by decide +kernel)
  -- behind the primary key, which can be read, stand the keys, of which the first has no columns referred to
  have hkey : QuestionEscapes badges "badge" .foreignKeys :=
    .inr ⟨_, rfl, .inr ⟨[], _, [], rfl, List.forall_mem_nil _, .inr ⟨rfl, rfl, .inr (.inl id)⟩⟩⟩
  have hprimary : Reads (readAnswer badges "badge" .primaryKey) := ⟨(), rfl⟩
  have htable : TableEscapes badges "badge" :=
    ⟨[.primaryKey], .foreignKeys, _, rfl, List.forall_mem_singleton.mpr hprimary, hkey⟩
  have hescapes : badges.Escapes storeFile.schema :=
    .inr ⟨["badge"], rfl, [], "badge", [], List.mergeSort_singleton "badge", List.forall_mem_nil _, htable⟩
  exact ⟨hconnected, hescapes, fun h => (introspect_announced_iff none hconnected).mp h hescapes⟩

end SchemaScribe.Database
