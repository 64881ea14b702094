import SchemaScribe.Database.Reading
import SchemaScribe.Proofs.Keys
import SchemaScribe.Proofs.Outcome
import Mathlib.Data.List.Forall2
import Mathlib.Data.List.Perm.Basic

/-!
# The order in which a source reports

A source may report its tables, and the foreign keys of a table, in any order (`Source.Reorders`). Tables are put in
order by their names, and keys by the place of their first column and their own name. Sorting is stable: keys that
this does not tell apart stay in the order of the report (`filter_sortKeys`).

So what is read does not depend on the order of the report if and only if it has no two keys of one table that
tie (`readSnapshot_reorders_iff`). Keys tie if they begin with one column and have one name, and a key without a
name is like one with an empty name (`ties_iff`).
-/

namespace SchemaScribe.Database

open SchemaScribe.Document SchemaScribe.Catalog

/-! ## Reports in another order -/

/-- The same value, or a list of the same items. -/
inductive Reordered : Value → Value → Prop where
  | same (value : Value) : Reordered value value
  | list {items items' : List Value} (h : items.Perm items') : Reordered (.list items) (.list items')

/-- Answers that fail alike, or that are both there and related. -/
inductive Alike {α : Type} (R : α → α → Prop) : Except SourceFault α → Except SourceFault α → Prop where
  | error (fault : SourceFault) : Alike R (.error fault) (.error fault)
  | ok {a a' : α} (h : R a a') : Alike R (.ok a) (.ok a')

/-- **A source that reports the same in another order**: the names of the tables, and the foreign keys of each. -/
structure Source.Reorders (s s' : Source) : Prop where
  dialect : s'.dialect = s.dialect
  typeOf : s'.typeOf = s.typeOf
  names : Alike List.Perm s.tableNames s'.tableNames
  keys : ∀ table, Alike Reordered (s.ask .foreignKeys table) (s'.ask .foreignKeys table)
  others : ∀ q table, q ≠ .foreignKeys → s'.ask q table = s.ask q table

theorem Reordered.symm {value value' : Value} (h : Reordered value value') : Reordered value' value := by
  cases h with
  | same => exact .same _
  | list h => exact .list h.symm

theorem Alike.symm {α : Type} {R : α → α → Prop} (hR : ∀ {a a'}, R a a' → R a' a) {x x' : Except SourceFault α}
    (h : Alike R x x') : Alike R x' x := by
  cases h with
  | error fault => exact .error fault
  | ok h => exact .ok (hR h)

theorem Alike.of_ok {α : Type} {R : α → α → Prop} {a : α} {x' : Except SourceFault α} (h : Alike R (.ok a) x') :
    ∃ a', x' = .ok a' ∧ R a a' := by
  cases h with
  | ok h => exact ⟨_, rfl, h⟩

theorem Source.Reorders.symm {s s' : Source} (h : s.Reorders s') : s'.Reorders s where
  dialect := h.dialect.symm
  typeOf := h.typeOf.symm
  names := h.names.symm List.Perm.symm
  keys := fun table => (h.keys table).symm Reordered.symm
  others := fun q table hq => (h.others q table hq).symm

/-! ## The order of keys -/

theorem sortsBefore_iff {a b : Int × String} : sortsBefore a b = true ↔ a.1 < b.1 ∨ a.1 = b.1 ∧ a.2 ≤ b.2 := by
  unfold sortsBefore
  rw [Bool.or_eq_true, decide_eq_true_eq, Bool.and_eq_true, decide_eq_true_eq, decide_eq_true_eq]

theorem sortsBefore_refl (a : Int × String) : sortsBefore a a = true :=
  sortsBefore_iff.mpr (.inr ⟨rfl, String.le_refl _⟩)

theorem sortsBefore_trans (a b c : Int × String) (hab : sortsBefore a b = true) (hbc : sortsBefore b c = true) :
    sortsBefore a c = true := by
  rw [sortsBefore_iff] at hab hbc ⊢
  rcases hab with hab | ⟨hab, hname⟩
  · rcases hbc with hbc | ⟨hbc, _⟩
    · exact .inl (Int.lt_trans hab hbc)
    · exact .inl (hbc ▸ hab)
  · rcases hbc with hbc | ⟨hbc, hname'⟩
    · exact .inl (hab ▸ hbc)
    · exact .inr ⟨hab.trans hbc, String.le_trans hname hname'⟩

theorem sortsBefore_total (a b : Int × String) : (sortsBefore a b || sortsBefore b a) = true := by
  rw [Bool.or_eq_true, sortsBefore_iff, sortsBefore_iff]
  rcases Int.lt_trichotomy a.1 b.1 with h | h | h
  · exact .inl (.inl h)
  · exact (String.le_total a.2 b.2).imp (fun hname => .inr ⟨h, hname⟩) fun hname => .inr ⟨h.symm, hname⟩
  · exact .inr (.inl h)

theorem sortsBefore_antisymm {a b : Int × String} (hab : sortsBefore a b = true) (hba : sortsBefore b a = true) :
    a = b := by
  rw [sortsBefore_iff] at hab hba
  have hplace : a.1 = b.1 := by omega
  refine Prod.ext hplace (String.le_antisymm ?_ ?_)
  · exact (hab.resolve_left (by omega)).2
  · exact (hba.resolve_left (by omega)).2

/-- Sorting forgets the order of items that are told apart. -/
theorem mergeSort_eq_of_perm {α : Type} {le : α → α → Bool} (htrans : ∀ a b c, le a b = true → le b c = true → le a c = true)
    (htotal : ∀ a b, (le a b || le b a) = true) {items items' : List α}
    (hantisymm : ∀ a ∈ items, ∀ b ∈ items, le a b = true → le b a = true → a = b) (h : items.Perm items') :
    items.mergeSort le = items'.mergeSort le := by
  have hsame : (items.mergeSort le).Perm (items'.mergeSort le) :=
    ((List.mergeSort_perm items le).trans h).trans (List.mergeSort_perm items' le).symm
  refine hsame.eq_of_pairwise (fun a b ha hb hab hba => ?_) (List.pairwise_mergeSort htrans htotal items)
    (List.pairwise_mergeSort htrans htotal items')
  exact hantisymm a (List.mem_mergeSort.mp ha) b (h.mem_iff.mpr (List.mem_mergeSort.mp hb)) hab hba

section Sorting

variable {places : List (String × Int)} {keys keys' : List ForeignKey}

theorem sortKeys_perm (places : List (String × Int)) (keys : List ForeignKey) : (sortKeys places keys).Perm keys :=
  List.mergeSort_perm _ _

theorem sortsKeys_trans (places : List (String × Int)) (k k' k'' : ForeignKey) :
    sortsBefore (sortKey places k) (sortKey places k') = true →
      sortsBefore (sortKey places k') (sortKey places k'') = true →
      sortsBefore (sortKey places k) (sortKey places k'') = true :=
  sortsBefore_trans _ _ _

theorem sortsKeys_total (places : List (String × Int)) (k k' : ForeignKey) :
    (sortsBefore (sortKey places k) (sortKey places k') || sortsBefore (sortKey places k') (sortKey places k)) = true :=
  sortsBefore_total _ _

/-- Keys of which no two tie are put in one order, however they were reported. -/
theorem sortKeys_eq_of_perm (hties : ∀ k ∈ keys, ∀ k' ∈ keys, sortKey places k = sortKey places k' → k = k')
    (h : keys.Perm keys') : sortKeys places keys = sortKeys places keys' := by
  refine mergeSort_eq_of_perm (sortsKeys_trans places) (sortsKeys_total places) (fun k hk k' hk' hbefore hbehind => ?_) h
  exact hties k hk k' hk' (sortsBefore_antisymm hbefore hbehind)

/-- Keys that tie stay in their order. -/
theorem filter_sortKeys {p : ForeignKey → Bool}
    (hties : ∀ k k', p k = true → p k' = true → sortKey places k = sortKey places k') :
    (sortKeys places keys).filter p = keys.filter p := by
  have htied : (keys.filter p).Pairwise fun k k' => sortsBefore (sortKey places k) (sortKey places k') = true := by
    refine List.pairwise_iff_forall_sublist.mpr fun {k k'} hsub => ?_
    have hk := (List.mem_filter.mp (hsub.subset List.mem_cons_self)).2
    have hk' := (List.mem_filter.mp (hsub.subset (List.mem_cons_of_mem _ List.mem_cons_self))).2
    rw [hties k k' hk hk']
    exact sortsBefore_refl _
  have hsub : (keys.filter p).Sublist (sortKeys places keys) :=
    List.sublist_mergeSort (sortsKeys_trans places) (sortsKeys_total places) htied List.filter_sublist
  have hfiltered := hsub.filter p
  rw [List.filter_filter] at hfiltered
  simp only [Bool.and_self] at hfiltered
  exact (hfiltered.eq_of_length ((sortKeys_perm places keys).filter p).symm.length_eq).symm

end Sorting

/-! ## What the reading makes of it -/

theorem asked_eq_ok {α : Type} {x : Except SourceFault α} {a : α} : asked x = .ok a ↔ x = .ok a := by
  cases x with
  | error fault => exact ⟨(nomatch ·), (nomatch ·)⟩
  | ok a' => exact ⟨fun h => by cases h; rfl, fun h => by cases h; rfl⟩

/-- What is read of reordered items is reordered. -/
theorem forall₂_of_perm {α β : Type} {R : α → β → Prop} {items items' : List α} {read : List β}
    (hperm : items.Perm items') (h : List.Forall₂ R items read) :
    ∃ read', List.Forall₂ R items' read' ∧ read.Perm read' := by
  obtain ⟨read', hread, hperm'⟩ := List.perm_comp_forall₂ hperm.symm h
  exact ⟨read', hread, hperm'.symm⟩

theorem readKeys_eq_ok {s : Source} {table : String} {places : List (String × Int)} {keys : List ForeignKey} :
    readKeys s table places = .ok keys ↔ ∃ answer, s.ask .foreignKeys table = .ok answer ∧
      ∃ raws, itemsOf answer = .ok raws ∧ ∃ read, List.Forall₂ (fun raw k => readKey table raw = .ok k) raws read ∧
        sortKeys places (read.filterMap id) = keys := by
  unfold readKeys
  simp only [bind_eq_ok, asked_eq_ok, mapM_eq_ok]
  constructor
  · rintro ⟨answer, hanswer, raws, hraws, read, hread, h⟩
    exact ⟨answer, hanswer, raws, hraws, read, hread, Except.ok.inj h⟩
  · rintro ⟨answer, hanswer, raws, hraws, read, hread, rfl⟩
    exact ⟨answer, hanswer, raws, hraws, read, hread, rfl⟩

theorem readTable_eq_ok {s : Source} {schema : Option String} {name : String} {t : Table} :
    readTable s schema name = .ok t ↔ ∃ answer, asked (s.ask .primaryKey name) = .ok answer ∧
      ∃ pk, entryOf "constrained_columns" answer = .ok pk ∧ ∃ primaryKey, itemsOrNone pk = .ok primaryKey ∧
      ∃ keys, readKeys s name [] = .ok keys ∧
      ∃ columns, readColumns s name primaryKey (keys.flatMap (·.columns)) = .ok columns ∧
      ∃ listed, readIndexes s name = .ok listed ∧ ∃ comment, readComment s name = .ok comment ∧
        assemble name schema columns primaryKey (sortKeys (placesOf columns) keys) listed.1 listed.2 comment =
          .ok t := by
  unfold readTable
  simp only [bind_eq_ok]

theorem readSnapshot_eq_ok {s : Source} {schema : Option String} {snapshot : Snapshot} :
    readSnapshot s schema = .ok snapshot ↔ ∃ names, s.tableNames = .ok names ∧
      ∃ tables, List.Forall₂ (fun name t => readTable s schema name = .ok t)
          (names.mergeSort fun a b => a ≤ b) tables ∧
        { tables, dialect := s.dialect, schema } = snapshot := by
  unfold readSnapshot
  simp only [bind_eq_ok, asked_eq_ok, mapM_eq_ok]
  constructor
  · rintro ⟨names, hnames, tables, htables, h⟩
    exact ⟨names, hnames, tables, htables, Except.ok.inj h⟩
  · rintro ⟨names, hnames, tables, htables, rfl⟩
    exact ⟨names, hnames, tables, htables, rfl⟩

/-- A table is put together alike with other keys. -/
theorem assemble_eq_ok {name : String} {schema : Option String} {columns : List Column} {primaryKey : List Value}
    {keys : List ForeignKey} {indexes uniques : List Index} {comment : Value} {t : Table}
    (h : assemble name schema columns primaryKey keys indexes uniques comment = .ok t) :
    t.name = name ∧ t.columns = columns ∧ t.foreignKeys = keys ∧ ∀ keys',
      assemble name schema columns primaryKey keys' indexes uniques comment = .ok { t with foreignKeys := keys' } := by
  unfold assemble at h ⊢
  obtain ⟨_, hchecked, h⟩ := bind_eq_ok.mp h
  split at h
  · next hthere =>
    cases h
    refine ⟨rfl, rfl, rfl, fun keys' => ?_⟩
    rw [hchecked]
    exact dif_pos hthere
  · cases h

/-- A table that differs at most in the order that its keys had before they were sorted. -/
def Resorted (t t' : Table) : Prop :=
  ∃ keys keys', keys.Perm keys' ∧ t.foreignKeys = sortKeys (placesOf t.columns) keys ∧
    t' = { t with foreignKeys := sortKeys (placesOf t.columns) keys' }

/-- What is read of items one by one can be read as something else that it is related to, if each can. -/
theorem forall₂_exists {α β γ : Type} {R : α → β → Prop} {R' : α → γ → Prop} {Q : β → γ → Prop}
    {items : List α} {read : List β} (hread : List.Forall₂ R items read)
    (h : ∀ a b, R a b → ∃ c, R' a c ∧ Q b c) :
    ∃ read', List.Forall₂ R' items read' ∧ List.Forall₂ Q read read' := by
  induction hread with
  | nil => exact ⟨[], .nil, .nil⟩
  | cons hhead _ ih =>
    obtain ⟨c, hc, hQ⟩ := h _ _ hhead
    obtain ⟨more, hmore, hQs⟩ := ih
    exact ⟨c :: more, .cons hc hmore, .cons hQ hQs⟩

section Reordering

variable {s s' : Source} {schema : Option String} {name : String} {t : Table}

theorem readKeys_reorders (h : s.Reorders s') {places : List (String × Int)} {keys : List ForeignKey}
    (hkeys : readKeys s name places = .ok keys) :
    ∃ keys', readKeys s' name places = .ok keys' ∧ keys.Perm keys' := by
  obtain ⟨answer, hanswer, raws, hraws, read, hread, rfl⟩ := readKeys_eq_ok.mp hkeys
  have halike := h.keys name
  rw [hanswer] at halike
  obtain ⟨answer', hanswer', hreordered⟩ := halike.of_ok
  obtain ⟨raws', hraws', hperm⟩ : ∃ raws', itemsOf answer' = .ok raws' ∧ raws.Perm raws' := by
    cases hreordered with
    | same => exact ⟨raws, hraws, .refl _⟩
    | list hperm =>
      cases hraws
      exact ⟨_, rfl, hperm⟩
  obtain ⟨read', hread', hperm'⟩ := forall₂_of_perm hperm hread
  refine ⟨_, readKeys_eq_ok.mpr ⟨answer', hanswer', raws', hraws', read', hread', rfl⟩, ?_⟩
  exact ((sortKeys_perm _ _).trans (hperm'.filterMap id)).trans (sortKeys_perm _ _).symm

/-- Of the columns of keys it counts only which they are. -/
theorem readColumns_reorders (h : s.Reorders s') (primaryKey : List Value) {keyColumns keyColumns' : List String}
    (hperm : keyColumns.Perm keyColumns') :
    readColumns s' name primaryKey keyColumns' = readColumns s name primaryKey keyColumns := by
  have hamong : ∀ value, hasText (keyColumns'.map .text) value = hasText (keyColumns.map .text) value := by
    intro value
    cases value with
    | scalar c =>
      cases c with
      | text text => exact ((hperm.map Value.text).any_eq).symm
      | _ => rfl
    | _ => rfl
  have hgenerated : ∀ raw type, isGenerated raw type primaryKey keyColumns' =
      isGenerated raw type primaryKey keyColumns := by
    intro raw type
    unfold isGenerated
    simp only [hamong]
  unfold readColumns readColumn
  rw [h.others .columns name Question.noConfusion, h.typeOf]
  simp only [hgenerated]

/-- A table is read alike except for the order of its keys. -/
theorem readTable_reorders (h : s.Reorders s') (ht : readTable s schema name = .ok t) :
    ∃ t', readTable s' schema name = .ok t' ∧ Resorted t t' := by
  obtain ⟨answer, hanswer, pk, hpk, primaryKey, hprimary, keys, hkeys, columns, hcolumns, listed, hlisted, comment,
    hcomment, hassemble⟩ := readTable_eq_ok.mp ht
  obtain ⟨keys', hkeys', hperm⟩ := readKeys_reorders h hkeys
  obtain ⟨_, rfl, htkeys, hagain⟩ := assemble_eq_ok hassemble
  refine ⟨_, readTable_eq_ok.mpr ⟨answer, ?_, pk, hpk, primaryKey, hprimary, keys', hkeys', t.columns, ?_, listed, ?_,
    comment, ?_, hagain (sortKeys (placesOf t.columns) keys')⟩, keys, keys', hperm, htkeys, rfl⟩
  · rw [h.others .primaryKey name Question.noConfusion]
    exact hanswer
  · rw [readColumns_reorders h primaryKey (hperm.flatMap_right _)]
    exact hcolumns
  · unfold readIndexes at hlisted ⊢
    rw [h.others .indexes name Question.noConfusion, h.others .uniques name Question.noConfusion]
    exact hlisted
  · unfold readComment at hcomment ⊢
    rw [h.others .comment name Question.noConfusion]
    exact hcomment

/-- The names of tables are put in one order. -/
theorem sortNames_eq_of_perm {names names' : List String} (h : names.Perm names') :
    (names.mergeSort fun a b => a ≤ b) = names'.mergeSort fun a b => a ≤ b := by
  refine mergeSort_eq_of_perm (fun a b c hab hbc => ?_) (fun a b => ?_) (fun a _ b _ hab hba => ?_) h
  · exact decide_eq_true (String.le_trans (of_decide_eq_true hab) (of_decide_eq_true hbc))
  · rw [Bool.or_eq_true, decide_eq_true_eq, decide_eq_true_eq]
    exact String.le_total a b
  · exact String.le_antisymm (of_decide_eq_true hab) (of_decide_eq_true hba)

/-- A catalog is read alike except for the order of the keys in its tables. -/
theorem readSnapshot_reorders {snapshot : Snapshot} (h : s.Reorders s')
    (hread : readSnapshot s schema = .ok snapshot) :
    ∃ tables, readSnapshot s' schema = .ok { snapshot with tables } ∧ List.Forall₂ Resorted snapshot.tables tables := by
  obtain ⟨names, hnames, tables, htables, rfl⟩ := readSnapshot_eq_ok.mp hread
  have halike := h.names
  rw [hnames] at halike
  obtain ⟨names', hnames', hperm⟩ := halike.of_ok
  obtain ⟨tables', htables', hresorted⟩ := forall₂_exists htables fun _ _ ht => readTable_reorders h ht
  rw [sortNames_eq_of_perm hperm] at htables'
  exact ⟨tables', readSnapshot_eq_ok.mpr ⟨names', hnames', tables', htables', by rw [h.dialect]⟩, hresorted⟩

end Reordering

/-! ## Keys that tie -/

/-- **Keys of a table that tie**: their first columns are in one place, and they have one name. -/
def Ties (t : Table) (k k' : ForeignKey) : Prop := sortKey (placesOf t.columns) k = sortKey (placesOf t.columns) k'

instance (t : Table) (k k' : ForeignKey) : Decidable (Ties t k k') := inferInstanceAs (Decidable (_ = _))

/-- **A table whose keys can be told apart**: no two of them tie. -/
def SeparatesKeys (t : Table) : Prop := ∀ k ∈ t.foreignKeys, ∀ k' ∈ t.foreignKeys, Ties t k k' → k = k'

/-- The place of a column is where it stands. -/
theorem entryAt?_placesOf {t : Table} (hnames : t.columnNames.Nodup) {i : Nat} (hi : i < t.columnNames.length) :
    entryAt? t.columnNames[i] (placesOf t.columns) = some (i : Int) := by
  have hkeys : (t.columns.zipIdx.map fun p => (p.1.name, (p.2 : Int))).map (·.1) = t.columnNames := by
    have hcolumns : (t.columns.zipIdx.map Prod.fst).map (·.name) = t.columnNames := by
      rw [List.zipIdx_map_fst]
      rfl
    rw [← hcolumns, List.map_map, List.map_map]
    rfl
  have hlength : i < t.columns.length := List.length_map (f := Column.name) ▸ hi
  unfold placesOf
  rw [distinctEntries_of_nodup (hkeys ▸ hnames)]
  refine entryAt?_of_mem (hkeys ▸ hnames) (List.mem_map.mpr ⟨(t.columns[i], i), ?_, ?_⟩)
  · exact List.mk_mem_zipIdx_iff_getElem?.mpr (List.getElem?_eq_getElem hlength)
  · show (t.columns[i].name, (i : Int)) = (t.columnNames[i], (i : Int))
    simp only [Table.columnNames, List.getElem_map]

/-- Keys over columns of their table tie if they begin with one column and have one name, where no name is like an
empty one. -/
theorem ties_iff {t : Table} (hnames : t.columnNames.Nodup) {k k' : ForeignKey}
    (hk : k.columns.headD "" ∈ t.columnNames) (hk' : k'.columns.headD "" ∈ t.columnNames) :
    Ties t k k' ↔ k.columns.headD "" = k'.columns.headD "" ∧ k.name.getD "" = k'.name.getD "" := by
  obtain ⟨i, hi, hfirst⟩ := List.mem_iff_getElem.mp hk
  obtain ⟨j, hj, hfirst'⟩ := List.mem_iff_getElem.mp hk'
  unfold Ties sortKey
  rw [← hfirst, ← hfirst', entryAt?_placesOf hnames hi, entryAt?_placesOf hnames hj, Prod.mk.injEq,
    hnames.getElem_inj_iff]
  exact and_congr_left fun _ => Int.ofNat_inj

/-- Keys that can be told apart have one order. -/
theorem Resorted.eq {t t' : Table} (h : Resorted t t') (hseparates : SeparatesKeys t) : t' = t := by
  obtain ⟨keys, keys', hperm, hown, rfl⟩ := h
  have hties : ∀ k ∈ keys, ∀ k' ∈ keys, Ties t k k' → k = k' := by
    unfold SeparatesKeys at hseparates
    rw [hown] at hseparates
    simpa only [(sortKeys_perm _ _).mem_iff] using hseparates
  rw [← sortKeys_eq_of_perm hties hperm, ← hown]

section Ties

variable {s : Source} {schema : Option String} {t : Table}

/-- Keys that tie stay in the order of the report. -/
theorem filter_readTable (ht : readTable s schema t.name = .ok t) {raws : List Value}
    (hraws : s.ask .foreignKeys t.name = .ok (.list raws)) (k : ForeignKey) :
    ∃ read, List.Forall₂ (fun raw k => readKey t.name raw = .ok k) raws read ∧
      t.foreignKeys.filter (Ties t k) = (read.filterMap id).filter (Ties t k) := by
  obtain ⟨_, _, _, _, _, _, keys, hkeys, columns, _, _, _, _, _, hassemble⟩ := readTable_eq_ok.mp ht
  obtain ⟨_, hanswer, raws', hraws', read, hread, rfl⟩ := readKeys_eq_ok.mp hkeys
  cases hraws.symm.trans hanswer
  cases hraws'
  obtain ⟨_, rfl, htkeys, _⟩ := assemble_eq_ok hassemble
  refine ⟨read, hread, ?_⟩
  have hties : ∀ k' k'', decide (Ties t k k') = true → decide (Ties t k k'') = true →
      sortKey (placesOf t.columns) k' = sortKey (placesOf t.columns) k'' := fun k' k'' hk' hk'' =>
    (of_decide_eq_true hk').symm.trans (of_decide_eq_true hk'')
  rw [htkeys, filter_sortKeys hties]
  -- before the columns are read, keys are told apart by their names alone
  refine filter_sortKeys fun k' k'' hk' hk'' => ?_
  have hname : (sortKey (placesOf t.columns) k').2 = (sortKey (placesOf t.columns) k'').2 :=
    congrArg Prod.snd (hties k' k'' hk' hk'')
  exact Prod.ext rfl hname

/-- A key is read of a mapping. -/
theorem exists_of_readKey {table : String} {raw : Value} {k : Option ForeignKey} (h : readKey table raw = .ok k) :
    ∃ entries, raw = .map entries := by
  cases raw with
  | map entries => exact ⟨entries, rfl⟩
  | scalar _ => cases h
  | list _ => cases h

/-- Only a list has mappings as its items. -/
theorem eq_list_of_items {answer : Value} {raws : List Value} (h : itemsOf answer = .ok raws)
    {entries : List (Scalar × Value)} (hmem : .map entries ∈ raws) : answer = .list raws := by
  unfold itemsOf at h
  split at h
  · cases h
    rfl
  · cases h
    obtain ⟨_, _, h⟩ := List.mem_map.mp hmem
    cases h
  · cases h
    obtain ⟨_, _, h⟩ := List.mem_map.mp hmem
    cases h
  · cases h
    obtain ⟨_, _, h⟩ := List.mem_map.mp hmem
    cases h
  · cases h

/-! ## A report that begins with a given key -/

/-- A table with other foreign keys, if it has the given name. -/
def RawTable.withKeys (t : RawTable) (table : String) (raws : List Value) : RawTable :=
  if t.name = table then { t with answers := setEntry .foreignKeys (.list raws) t.answers } else t

/-- A source with other foreign keys of a table. -/
def Source.withKeys (s : Source) (table : String) (raws : List Value) : Source :=
  { s with tables := s.tables.map fun t => t.withKeys table raws }

theorem RawTable.withKeys_name (t : RawTable) (table : String) (raws : List Value) :
    (t.withKeys table raws).name = t.name := by
  unfold RawTable.withKeys
  split <;> rfl

theorem RawTable.withKeys_faults (t : RawTable) (table : String) (raws : List Value) :
    (t.withKeys table raws).faults = t.faults := by
  unfold RawTable.withKeys
  split <;> rfl

theorem RawTable.entryAt?_withKeys (t : RawTable) (table : String) (raws : List Value) (q : Question) :
    entryAt? q (t.withKeys table raws).answers =
      if q = .foreignKeys ∧ t.name = table then some (.list raws) else entryAt? q t.answers := by
  unfold RawTable.withKeys
  by_cases hname : t.name = table
  · rw [if_pos hname]
    by_cases hq : q = .foreignKeys
    · rw [if_pos ⟨hq, hname⟩, hq]
      exact entryAt?_setEntry_self _ _ _
    · rw [if_neg fun h => hq h.1]
      exact entryAt?_setEntry_of_ne hq _ _
  · rw [if_neg hname, if_neg fun h => hname h.2]

/-- Other questions are answered alike, and the one about these keys fails alike. -/
theorem ask_withKeys (s : Source) (table : String) (raws : List Value) (q : Question) (table' : String) :
    (s.withKeys table raws).ask q table' =
      if q = .foreignKeys ∧ table' = table then (s.ask q table').map fun _ => .list raws else s.ask q table' := by
  have hfind : (s.withKeys table raws).tables.find? (fun t => t.name = table') =
      (s.tables.find? fun t => t.name = table').map fun t => t.withKeys table raws := by
    unfold Source.withKeys
    rw [List.find?_map]
    simp only [Function.comp_def, RawTable.withKeys_name]
  unfold Source.ask
  rw [hfind]
  show (do Source.orFault (entryAt? q s.faults) (); _) = _
  cases entryAt? q s.faults with
  | some fault => by_cases h : q = .foreignKeys ∧ table' = table <;> simp only [h] <;> rfl
  | none =>
    cases hfound : s.tables.find? fun t => t.name = table' with
    | none => by_cases h : q = .foreignKeys ∧ table' = table <;> simp only [h] <;> rfl
    | some t =>
      have hname : t.name = table' := by simpa using List.find?_some hfound
      show Source.orFault (entryAt? q (t.withKeys table raws).faults)
        ((entryAt? q (t.withKeys table raws).answers).getD q.absent) =
          if _ then (Source.orFault (entryAt? q t.faults) _).map _ else Source.orFault (entryAt? q t.faults) _
      rw [RawTable.withKeys_faults, RawTable.entryAt?_withKeys, hname]
      split
      · cases entryAt? q t.faults <;> rfl
      · rfl

/-- A source with the keys of a table in another order reports in another order. -/
theorem reorders_withKeys {table : String} {raws raws' : List Value}
    (hraws : s.ask .foreignKeys table = .ok (.list raws)) (h : raws.Perm raws') :
    s.Reorders (s.withKeys table raws') where
  dialect := rfl
  typeOf := rfl
  names := by
    have hnames : (s.withKeys table raws').tableNames = s.tableNames := by
      unfold Source.tableNames Source.withKeys
      rw [List.map_map]
      exact congrArg _ (List.map_congr_left fun t _ => t.withKeys_name table raws')
    rw [hnames]
    cases s.tableNames with
    | error fault => exact .error fault
    | ok names => exact .ok (.refl names)
  keys := fun table' => by
    rw [ask_withKeys]
    by_cases htable : table' = table
    · rw [if_pos ⟨rfl, htable⟩, htable, hraws]
      exact .ok (.list h)
    · rw [if_neg fun hsame => htable hsame.2]
      cases s.ask .foreignKeys table' with
      | error fault => exact .error fault
      | ok value => exact .ok (.same value)
  others := fun q table' hq => by rw [ask_withKeys, if_neg fun hsame => hq hsame.1]

/-- Each key of a table is the first of those that tie with it in some order of the report. -/
theorem exists_reorders_first (ht : readTable s schema t.name = .ok t) {k : ForeignKey} (hk : k ∈ t.foreignKeys) :
    ∃ s', s.Reorders s' ∧
      (readTable s' schema t.name = .ok t → (t.foreignKeys.filter (Ties t k)).head? = some k) := by
  obtain ⟨_, _, _, _, _, _, keys, hkeys, _, _, _, _, _, _, hassemble⟩ := readTable_eq_ok.mp ht
  obtain ⟨answer, hanswer, raws, hraws, read, hread, rfl⟩ := readKeys_eq_ok.mp hkeys
  obtain ⟨_, _, htkeys, _⟩ := assemble_eq_ok hassemble
  rw [htkeys, (sortKeys_perm _ _).mem_iff, (sortKeys_perm _ _).mem_iff] at hk
  obtain ⟨_, hmem, rfl⟩ := List.mem_filterMap.mp hk
  obtain ⟨raw, hraw, hreads⟩ := exists_of_mem_read hread hmem
  obtain ⟨entries, rfl⟩ := exists_of_readKey hreads
  cases eq_list_of_items hraws hraw
  obtain ⟨before, after, rfl⟩ := List.append_of_mem hraw
  have hfront : (before ++ .map entries :: after).Perm (.map entries :: (before ++ after)) := List.perm_middle
  have hreorders := reorders_withKeys hanswer hfront
  refine ⟨_, hreorders, fun ht' => ?_⟩
  have hanswer' : (s.withKeys t.name (.map entries :: (before ++ after))).ask .foreignKeys t.name =
      .ok (.list (.map entries :: (before ++ after))) := by
    rw [ask_withKeys, if_pos ⟨rfl, rfl⟩, hanswer]
    rfl
  obtain ⟨read', hread', hfilter⟩ := filter_readTable ht' hanswer' k
  obtain ⟨first, rest, hfirst, _, rfl⟩ := List.forall₂_cons_left_iff.mp hread'
  cases hreads.symm.trans hfirst
  have hread : (some k :: rest).filterMap id = k :: rest.filterMap id := rfl
  have hties : decide (Ties t k k) = true := decide_eq_true rfl
  rw [hfilter, hread, List.filter_cons, if_pos hties]
  rfl

end Ties

/-! ## The law -/

/-- The tables of a catalog were read under their names. -/
theorem readTable_of_mem {s : Source} {schema : Option String} {snapshot : Snapshot}
    (hread : readSnapshot s schema = .ok snapshot) {t : Table} (ht : t ∈ snapshot.tables) :
    readTable s schema t.name = .ok t := by
  obtain ⟨_, _, tables, htables, rfl⟩ := readSnapshot_eq_ok.mp hread
  obtain ⟨name, _, hname⟩ := exists_of_mem_read htables ht
  obtain ⟨_, _, _, _, _, _, _, _, _, _, _, _, _, _, hassemble⟩ := readTable_eq_ok.mp hname
  rw [(assemble_eq_ok hassemble).1]
  exact hname

/-- **What is read does not depend on the order of the report if and only if no two keys of a table tie.** The
names of tables and the keys of each table may be reported in any order. Only what is read is compared: where
reading fails, it is left open whether another order fails with the same error. -/
theorem readSnapshot_reorders_iff (s : Source) (schema : Option String) :
    (∀ s', s.Reorders s' → (readSnapshot s' schema).toOption = (readSnapshot s schema).toOption) ↔
      ∀ snapshot, readSnapshot s schema = .ok snapshot → ∀ t ∈ snapshot.tables, SeparatesKeys t := by
  constructor
  · intro hsame snapshot hread t ht k hk k' hk' hties
    have hagain : ∀ s', s.Reorders s' → readTable s' schema t.name = .ok t := fun s' hs' => by
      have hread' := hsame s' hs'
      rw [hread] at hread'
      exact readTable_of_mem (toOption_eq_some.mp hread') ht
    have hfirst : ∀ k ∈ t.foreignKeys, (t.foreignKeys.filter (Ties t k)).head? = some k := fun k hk => by
      obtain ⟨s', hs', hfirst⟩ := exists_reorders_first (readTable_of_mem hread ht) hk
      exact hfirst (hagain s' hs')
    have halike : t.foreignKeys.filter (Ties t k) = t.foreignKeys.filter (Ties t k') :=
      List.filter_congr fun other _ => decide_eq_decide.mpr (by unfold Ties at hties ⊢; rw [hties])
    have hhead := hfirst k hk
    rw [halike, hfirst k' hk'] at hhead
    exact (Option.some.inj hhead).symm
  · intro hseparates s' hs'
    cases hread : readSnapshot s schema with
    | ok snapshot =>
      obtain ⟨tables, hread', hresorted⟩ := readSnapshot_reorders hs' hread
      have htables : tables = snapshot.tables := by
        refine List.ext_getElem hresorted.length_eq.symm fun i hi hi' => ?_
        exact (hresorted.get hi' hi).eq (hseparates snapshot hread _ (List.getElem_mem hi'))
      rw [hread', htables]
    | error e =>
      cases hread' : readSnapshot s' schema with
      | error _ => rfl
      | ok snapshot' =>
        obtain ⟨_, hread'', _⟩ := readSnapshot_reorders hs'.symm hread'
        cases hread.symm.trans hread''

/-- A key over the owner of a badge, without a name. -/
def ownerKey (target : String) : Value :=
  .record [("constrained_columns", .texts ["owner_id"]), ("referred_table", .text target),
    ("referred_columns", .texts ["id"])]

/-- Badges with keys over their owner, who is one of several. -/
def ownedBadges (targets : List String) : Source where
  tables := [
    { name := "badge"
      answers := [(.columns, .list [.record [("name", .text "owner_id"), ("type", .null)]]),
        (.foreignKeys, .list (targets.map ownerKey))] }]

/-- The tables that the keys of a catalog refer to, in the order of the keys. -/
def keyTargets (snapshot : Snapshot) : List String :=
  snapshot.tables.flatMap fun t => t.foreignKeys.map (·.referredTable)

example : (readSnapshot (ownedBadges ["guest", "host"]) none).toOption.map keyTargets = some ["guest", "host"] := by cbv

example : (readSnapshot (ownedBadges ["host", "guest"]) none).toOption.map keyTargets = some ["host", "guest"] := by cbv

end SchemaScribe.Database
