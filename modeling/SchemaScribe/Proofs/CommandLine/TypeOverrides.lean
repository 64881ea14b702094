import SchemaScribe.CommandLine.Command
import SchemaScribe.Proofs.Config.Reading
import SchemaScribe.Proofs.Outcome

/-!
# Type overrides of a command line

The items of a command line are put over the type overrides of a configuration. This goes by the spelling of a
type: only afterwards are types brought to small letters, and of several spellings of one type the last counts, in
the order in which the configuration and then the command line first spell them (`spellings`). So the last item on
a type wins as long as no other spelling of the type comes later with another kind (`Eclipsed`); what no item
mentions is kept. The rest of the settings does not depend on the items.
-/

namespace SchemaScribe.CommandLine

open SchemaScribe.Catalog SchemaScribe.Config SchemaScribe.Document

/-! ## What is given -/

/-- **An item names a kind for a database type**: they stand around an equals sign, with blanks around them, and the
kind in any letters. -/
def Names (item : FlagText) (type : String) (kind : ScalarKind) : Prop :=
  ∃ left right : List Char, item = .given (.ofList (left ++ '=' :: right)) ∧ '=' ∉ left ∧
    Text.trim left = type.toList ∧ type ≠ "" ∧ Text.lower (Text.trim right) = kind.name.toList

/-- Type overrides as a configuration writes them. -/
def written (kinds : List (String × ScalarKind)) : Entries :=
  kinds.map (Prod.map Scalar.text fun kind => Value.text kind.name)

/-- **A configuration gives type overrides**: its options have a mapping of them, whose keys are distinct as those of
mappings are. If they have none, it gives none. -/
structure GivesTypes (raw : Entries) (kinds : List (String × ScalarKind)) : Prop where
  distinct : (kinds.map (·.1)).Nodup
  found : ((sectionValue raw "generation").get? "type_overrides").getD (.map []) = .map (written kinds)

/-! ## What comes of it -/

/-- The kind that the last entry for a type gives, however the type is spelt. -/
def lastKind? (key : String) (entries : List (String × ScalarKind)) : Option ScalarKind :=
  (findLast? (fun entry => overrideKey entry.1 = key) entries).map (·.2)

/-- The spellings of types, each once: those of a configuration and then those of a command line, in the order in
which they come first. -/
def spellings (file named : List (String × ScalarKind)) : List String :=
  ((file ++ named).map (·.1)).eraseDups

/-- The kind that a type is given in one spelling: that of the last item, or that of the configuration. -/
def kindAs? (spelling : String) (file named : List (String × ScalarKind)) : Option ScalarKind :=
  ((findLast? (fun entry => entry.1 = spelling) named).map (·.2)).or (entryAt? spelling file)

/-- **The items on a type are eclipsed**: the last spelling of the type is given another kind than by the last of
them. -/
def Eclipsed (key : String) (file named : List (String × ScalarKind)) : Prop :=
  ∃ spelling, findLast? (fun s => overrideKey s = key) (spellings file named) = some spelling ∧
    kindAs? spelling file named ≠ lastKind? key named

/-- **Type overrides come of a configuration and the items of a command line.** Types are in small letters; each has
the kind of its last spelling. That is the kind of the last item on the type unless the items are eclipsed, as they
cannot be where a type has one spelling. A type that no item mentions keeps the kind of the configuration. -/
structure Governs (file named kinds : List (String × ScalarKind)) : Prop where
  distinct : (kinds.map (·.1)).Nodup
  kind_eq : ∀ key, entryAt? key kinds =
    (findLast? (fun s => overrideKey s = key) (spellings file named)).bind (kindAs? · file named)
  wins_iff : ∀ entry ∈ named, (entryAt? (overrideKey entry.1) kinds = lastKind? (overrideKey entry.1) named ↔
    ¬ Eclipsed (overrideKey entry.1) file named)
  wins : ∀ entry ∈ named, (∀ s ∈ spellings file named, overrideKey s = overrideKey entry.1 → s = entry.1) →
    entryAt? (overrideKey entry.1) kinds = lastKind? (overrideKey entry.1) named
  keeps : ∀ key, (∀ entry ∈ named, overrideKey entry.1 ≠ key) → entryAt? key kinds = lastKind? key file

/-! ## Spellings -/

section

variable {file named : List (String × ScalarKind)} {key : String}

theorem findLast?_map {α β : Type} (f : α → β) (p : β → Bool) (items : List α) :
    findLast? p (items.map f) = (findLast? (fun a => p (f a)) items).map f := by
  unfold findLast?
  rw [← List.map_reverse, List.find?_map]
  rfl

theorem mem_of_findLast? {α : Type} {p : α → Bool} {items : List α} {a : α} (h : findLast? p items = some a) :
    a ∈ items ∧ p a = true :=
  ⟨List.mem_reverse.mp (List.mem_of_find?_eq_some h), List.find?_some h⟩

theorem findLast?_eq_filter {α : Type} (p : α → Bool) (items : List α) :
    findLast? p items = findLast? (fun _ => true) (items.filter p) := by
  unfold findLast?
  rw [← List.head?_filter, ← List.head?_filter, List.filter_reverse, List.filter_reverse, List.filter_filter]
  simp

/-- The kind of a type in small letters is that of its last spelling. -/
theorem entryAt?_normalOverrides {entries : List (String × ScalarKind)} (key : String) :
    entryAt? key (normalOverrides entries) = lastKind? key entries := by
  have hset := entryAt?_setEntries key [] (entries.map fun entry => (overrideKey entry.1, entry.2))
  rw [findLast?_map] at hset
  refine hset.trans (Option.or_none.trans ?_)
  unfold lastKind?
  rw [Option.map_map]
  rfl

/-- Where each spelling has one entry, the last entry for a type is that of the last spelling. -/
theorem lastKind?_eq {entries : List (String × ScalarKind)} (h : (entries.map (·.1)).Nodup) (key : String) :
    lastKind? key entries =
      (findLast? (fun s => overrideKey s = key) (entries.map (·.1))).bind fun s => entryAt? s entries := by
  unfold lastKind?
  rw [findLast?_map]
  cases hlast : findLast? (fun entry => decide (overrideKey entry.1 = key)) entries with
  | none => rfl
  | some entry => exact (entryAt?_of_mem h (mem_of_findLast? hlast).1).symm

theorem kind_eq_of_setEntries (h : (file.map (·.1)).Nodup) (named : List (String × ScalarKind)) (key : String) :
    entryAt? key (normalOverrides (setEntries file named)) =
      (findLast? (fun s => overrideKey s = key) (spellings file named)).bind (kindAs? · file named) := by
  have hkeys := keys_setEntries h named
  rw [entryAt?_normalOverrides, lastKind?_eq (hkeys ▸ nodup_eraseDups _), hkeys, ← List.map_append]
  refine congrArg _ (funext fun s => ?_)
  exact entryAt?_setEntries s file named

theorem exists_spelling (file : List (String × ScalarKind)) {entry : String × ScalarKind}
    (h : entry ∈ named) :
    ∃ s, findLast? (fun s => overrideKey s = overrideKey entry.1) (spellings file named) = some s := by
  have hmem : entry.1 ∈ spellings file named :=
    List.mem_eraseDups.mpr (List.mem_map_of_mem (List.mem_append_right file h))
  refine Option.isSome_iff_exists.mp (List.find?_isSome.mpr ⟨entry.1, List.mem_reverse.mpr hmem, ?_⟩)
  exact decide_eq_true rfl

/-- What is not eclipsed has its own kind. -/
theorem kindAs?_eq_lastKind? {entry : String × ScalarKind} (hentry : entry ∈ named)
    (halone : ∀ s ∈ spellings file named, overrideKey s = overrideKey entry.1 → s = entry.1) :
    kindAs? entry.1 file named = lastKind? (overrideKey entry.1) named := by
  have hsame : ∀ e ∈ named.reverse, decide (e.1 = entry.1) = decide (overrideKey e.1 = overrideKey entry.1) := by
    intro e he
    have hspelt : e.1 ∈ spellings file named := List.mem_eraseDups.mpr
      (List.mem_map_of_mem (List.mem_append_right file (List.mem_reverse.mp he)))
    exact decide_eq_decide.mpr ⟨congrArg overrideKey, halone e.1 hspelt⟩
  obtain ⟨last, hlast⟩ : ∃ last, findLast? (fun e => e.1 = entry.1) named = some last := by
    refine Option.isSome_iff_exists.mp (List.find?_isSome.mpr ⟨entry, List.mem_reverse.mpr hentry, ?_⟩)
    exact decide_eq_true rfl
  have hlast' : findLast? (fun e => overrideKey e.1 = overrideKey entry.1) named = some last := by
    unfold findLast? at hlast ⊢
    rw [← hlast, ← List.head?_filter, ← List.head?_filter, List.filter_congr hsame]
  unfold kindAs? lastKind?
  rw [hlast, hlast']
  rfl

/-- **Items put over a configuration govern the type overrides.** -/
theorem governs_setEntries (h : (file.map (·.1)).Nodup) :
    Governs file named (normalOverrides (setEntries file named)) := by
  have hkind := kind_eq_of_setEntries h named
  refine ⟨distinctEntries_nodup _, hkind, fun entry hentry => ?_, fun entry hentry halone => ?_,
    fun key hkey => ?_⟩
  · obtain ⟨s, hs⟩ := exists_spelling file hentry
    unfold Eclipsed
    simp [hkind, hs]
  · obtain ⟨s, hs⟩ := exists_spelling file hentry
    obtain ⟨hspelt, hkey⟩ := mem_of_findLast? hs
    rw [hkind, hs, halone s hspelt (of_decide_eq_true hkey)]
    exact kindAs?_eq_lastKind? hentry halone
  · have hothers : ∀ entry ∈ named, decide (overrideKey entry.1 = key) = false := fun entry hentry =>
      decide_eq_false (hkey entry hentry)
    rw [entryAt?_normalOverrides]
    unfold lastKind?
    rw [findLast?_eq_filter, filter_setEntries (p := fun s => decide (overrideKey s = key)) hothers,
      ← findLast?_eq_filter]

end

/-! ## Reading type overrides -/

theorem choice_name (kind : ScalarKind) : Read.choice ScalarKind.choices (.text kind.name) = .ok kind := by
  cases kind <;> rfl

theorem entries_written (kinds : List (String × ScalarKind)) :
    Read.entries (Read.choice ScalarKind.choices) (written kinds) = .ok kinds := by
  induction kinds with
  | nil => rfl
  | cons entry rest ih =>
    have hcons : written (entry :: rest) = (.text entry.1, .text entry.2.name) :: written rest := rfl
    rw [hcons, Read.entries, ih, choice_name]
    rfl

/-- Type overrides are read as they are written, under keys in small letters. -/
theorem readTypes_written {record : Value} {kinds : List (String × ScalarKind)}
    (h : (record.get? "type_overrides").getD (.map []) = .map (written kinds)) :
    readTypes record = .ok (normalOverrides kinds) := by
  unfold readTypes Read.fieldOr
  cases hget : record.get? "type_overrides" with
  | none =>
    rw [hget, Option.getD_none, Value.map.injEq] at h
    rw [List.map_eq_nil_iff.mp h.symm]
    rfl
  | some found =>
    rw [hget, Option.getD_some] at h
    have hmapping : Read.mapping (Read.choice ScalarKind.choices) found = .ok kinds := by
      rw [h]
      exact entries_written kinds
    simp only [hmapping]
    rfl

/-! ## Sections under overrides -/

theorem overridden_concat (entries : Entries) (overrides : Overrides) {name : String} {value : Value}
    (h : isGiven value = true) :
    overridden entries (overrides ++ [(name, value)]) =
      setEntry (.text name) value (overridden entries overrides) := by
  have hgiven : [(name, value)].filter (fun o => isGiven o.2) = [(name, value)] :=
    List.filter_eq_self.mpr fun o ho => List.mem_singleton.mp ho ▸ h
  unfold overridden
  rw [List.filter_append, hgiven, List.foldl_append]
  rfl

/-- An override leaves other settings alone. -/
theorem entryAt?_overridden {name : String} {overrides : Overrides} (h : ∀ o ∈ overrides, o.1 ≠ name)
    (entries : Entries) :
    entryAt? (.text name) (overridden entries overrides) = entryAt? (.text name) entries := by
  unfold overridden
  have hgiven : ∀ o ∈ overrides.filter fun o => isGiven o.2, o.1 ≠ name := fun o ho =>
    h o (List.mem_filter.mp ho).1
  generalize overrides.filter (fun o => isGiven o.2) = given at hgiven
  induction given generalizing entries with
  | nil => rfl
  | cons o rest ih =>
    obtain ⟨ho, hrest⟩ := List.forall_mem_cons.mp hgiven
    have hkey : Scalar.text name ≠ .text o.1 := fun heq => ho (Scalar.text.inj heq).symm
    rw [List.foldl_cons, ih _ hrest, entryAt?_setEntry_of_ne hkey]

/-- Settings whose options are read alike but for the type overrides are alike but for these. -/
theorem settings_withTypes {raw : Entries} (forConnection : Overrides) {options options' : Overrides}
    {kinds : List (String × ScalarKind)}
    (h : ∀ entries, sectionValue raw "generation" = .map entries →
      Options.reader (.map (overridden entries options')) =
        Options.withTypes kinds <$> Options.reader (.map (overridden entries options))) :
    settings raw forConnection options' =
      (settings raw forConnection options).map (Prod.map id (Options.withTypes kinds)) := by
  unfold settings
  cases sectionEntries raw "connection" forConnection with
  | error e => rfl
  | ok connection =>
    unfold sectionEntries
    cases hvalue : sectionValue raw "generation" with
    | map entries =>
      simp only [Value.entries?, bind, Except.bind, h entries hvalue]
      cases Connection.Descriptor.reader (.map connection) with
      | bad faults => rfl
      | ok descriptor => cases Options.reader (.map (overridden entries options)) <;> rfl
    | _ => rfl

/-! ## The settings of a command line -/

theorem splitEquals_append {left : List Char} (h : '=' ∉ left) (right : List Char) :
    splitEquals (left ++ '=' :: right) = (left, some right) := by
  have htake : (left ++ '=' :: right).takeWhile (· ≠ '=') = left := by
    rw [List.takeWhile_append_of_pos fun c hc => decide_eq_true (ne_of_mem_of_not_mem hc h)]
    simp
  unfold splitEquals
  simp only [htake, List.drop_left]

/-- An item is read as what it names. -/
theorem typeOverrideOf_of_names {item : FlagText} {type : String} {kind : ScalarKind}
    (h : Names item type kind) : typeOverrideOf item = .ok (type, kind.name) := by
  obtain ⟨left, right, rfl, hleft, htype, hfilled, hkind⟩ := h
  have hname : kind.name.toList ≠ [] := by cases kind <;> decide
  have hright : (Text.trim right).isEmpty = false := by
    rw [Bool.eq_false_iff]
    intro hempty
    rw [List.isEmpty_iff.mp hempty] at hkind
    exact hname hkind.symm
  have hnonempty : type.toList.isEmpty = false := by
    rw [Bool.eq_false_iff]
    intro hempty
    exact hfilled (String.toList_eq_nil_iff.mp (List.isEmpty_iff.mp hempty))
  have hread : readTypeOverride (.ofList (left ++ '=' :: right)) = some (type, kind.name) := by
    unfold readTypeOverride
    rw [String.toList_ofList, splitEquals_append hleft]
    simp only [htype, hkind, hright, hnonempty]
    simp
  unfold typeOverrideOf
  simp only [hread]

theorem readTypeOverrides_of_names {items : List FlagText} {named : List (String × ScalarKind)}
    (h : List.Forall₂ (fun item entry => Names item entry.1 entry.2) items named) :
    readTypeOverrides items = .ok (distinctEntries (named.map (Prod.map id ScalarKind.name))) := by
  have hread : items.mapM typeOverrideOf = .ok (named.map (Prod.map id ScalarKind.name)) :=
    mapM_eq_ok.mpr (List.forall₂_map_right_iff.mpr (h.imp fun _ _ => typeOverrideOf_of_names))
  unfold readTypeOverrides
  rw [hread]
  rfl

theorem text_injective : Function.Injective Scalar.text := fun _ _ => Scalar.text.inj

theorem written_setEntries (file named : List (String × ScalarKind)) :
    written (setEntries file named) = setEntries (written file) (written named) :=
  map_setEntries text_injective _ file named

theorem written_nodup {file : List (String × ScalarKind)} (h : (file.map (·.1)).Nodup) :
    ((written file).map (·.1)).Nodup := by
  have hkeys : (written file).map (·.1) = (file.map (·.1)).map Scalar.text := by
    unfold written
    rw [List.map_map, List.map_map]
    rfl
  rw [hkeys]
  exact h.map text_injective

theorem distinctEntries_eq_nil_iff {entries : List (String × String)} :
    distinctEntries entries = [] ↔ entries = [] := by
  refine ⟨fun h => ?_, fun h => by rw [h]; rfl⟩
  have hkeys := keys_distinctEntries entries
  rw [h, List.map_nil] at hkeys
  have hnone : entries.map (·.1) = [] := by
    refine List.eq_nil_iff_forall_not_mem.mpr fun key hkey => ?_
    rw [← List.mem_eraseDups, ← hkeys] at hkey
    exact List.not_mem_nil hkey
  exact List.map_eq_nil_iff.mp hnone

/-- Items are written over a configuration as what comes of both. -/
theorem typeOverridesUnder_eq {raw : Entries} {file named : List (String × ScalarKind)}
    (h : GivesTypes raw file) :
    typeOverridesUnder raw (distinctEntries (named.map (Prod.map id ScalarKind.name))) =
      if named = [] then [] else [("type_overrides", .map (written (setEntries file named)))] := by
  -- the texts that were read, as entries of a mapping
  have hread : (distinctEntries (named.map (Prod.map id ScalarKind.name))).map (Prod.map Scalar.text Value.text) =
      distinctEntries (written named) := by
    refine (map_setEntries text_injective Value.text [] _).trans ?_
    rw [List.map_map]
    rfl
  have hset : setEntries (written file) (distinctEntries (written named)) = written (setEntries file named) := by
    rw [setEntries_distinctEntries (written_nodup h.distinct), written_setEntries]
  unfold typeOverridesUnder
  split
  · next hempty =>
    rw [if_pos (List.map_eq_nil_iff.mp (distinctEntries_eq_nil_iff.mp (List.isEmpty_iff.mp hempty)))]
  · next hfilled =>
    have hfilled : named ≠ [] := by
      rintro rfl
      exact hfilled rfl
    rw [if_neg hfilled, ← hset, ← hread]
    unfold setEntries
    rw [List.foldl_map]
    have hfound := h.found
    cases hget : (sectionValue raw "generation").get? "type_overrides" with
    | none =>
      rw [hget, Option.getD_none, Value.map.injEq] at hfound
      rw [← hfound]
      rfl
    | some found =>
      rw [hget, Option.getD_some] at hfound
      rw [hfound]
      rfl

theorem optionFlags_ne (fields : Fields) :
    ∀ o ∈ overridesOf (optionFlags ++ furtherOptionFlags) fields, o.1 ≠ "type_overrides" := by
  intro o ho
  obtain ⟨flag, hflag, rfl⟩ := List.mem_map.mp ho
  have hall : ∀ flag ∈ optionFlags ++ furtherOptionFlags, flag.field ≠ "type_overrides" := by decide
  exact hall flag hflag

/-- **The settings of a command line with items** are those without them, but for the type overrides: these are
governed by the items and the configuration. For each type it is decided which of its spellings counts, and when
an item has to give way to the configuration. Other flags are arbitrary, and so is all else in the
configuration. -/
theorem settings_typeOverrides {raw : Entries} {file named : List (String × ScalarKind)} {items : List FlagText}
    (hfile : GivesTypes raw file)
    (hitems : List.Forall₂ (fun item entry => Names item entry.1 entry.2) items named)
    (forConnection : Overrides) (fields : Fields) :
    ∃ found kinds, readTypeOverrides items = .ok found ∧ Governs file named kinds ∧
      settings raw forConnection
          (overridesOf (optionFlags ++ furtherOptionFlags) fields ++ typeOverridesUnder raw found) =
        (settings raw forConnection (overridesOf (optionFlags ++ furtherOptionFlags) fields)).map
          (Prod.map id (Options.withTypes kinds)) := by
  refine ⟨_, _, readTypeOverrides_of_names hitems, governs_setEntries hfile.distinct, ?_⟩
  refine settings_withTypes forConnection fun entries hentries => ?_
  have hothers := entryAt?_overridden (optionFlags_ne fields) entries
  have hkinds : readTypes (.map (overridden entries (overridesOf (optionFlags ++ furtherOptionFlags) fields))) =
      .ok (normalOverrides file) := by
    have hfound := hfile.found
    rw [hentries] at hfound
    refine readTypes_written (Eq.trans ?_ hfound)
    exact congrArg (Option.getD · (.map [])) hothers
  rw [typeOverridesUnder_eq hfile]
  split
  · next hnone =>
    rw [List.append_nil, hnone]
    exact reader_withTypes rfl (fun _ _ => rfl) hkinds hkinds
  · rw [overridden_concat _ _ rfl]
    refine reader_withTypes (strayKeys_setEntry (by decide) _ _) (fun name hname => ?_) hkinds ?_
    · exact entryAt?_setEntry_of_ne (fun heq => hname (Scalar.text.inj heq)) _ _
    · have hset := entryAt?_setEntry_self (.text "type_overrides") (.map (written (setEntries file named)))
        (overridden entries (overridesOf (optionFlags ++ furtherOptionFlags) fields))
      refine readTypes_written ?_
      rw [Value.get?, hset, Option.getD_some]

/-- A configuration that gives a type a kind. -/
def vectorsAsText : Entries :=
  [(.text "connection", .map [(.text "database", .text "shop")]),
    (.text "generation", .map [(.text "type_overrides", .map [(.text "tsvector", .text "string")])])]

/-- Money is a number here, though the last item on it says otherwise: the second spelling came later. -/
theorem settings_typeOverrides_money :
    ∃ found, readTypeOverrides [.given "MONEY=string", .given " money = Number ", .given "MONEY=json"] = .ok found ∧
      (settings vectorsAsText []
          (overridesOf (optionFlags ++ furtherOptionFlags) [] ++ typeOverridesUnder vectorsAsText found)).map
        (fun s => (entryAt? "money" s.2.typeOverrides, entryAt? "tsvector" s.2.typeOverrides)) =
      .ok (some .number, some .string) := by
  have hfile : GivesTypes vectorsAsText [("tsvector", .string)] := ⟨List.nodup_singleton _, rfl⟩
  have hfirst : Names (.given "MONEY=string") "MONEY" .string :=
    ⟨"MONEY".toList, "string".toList, rfl, by decide, by decide, by decide, by decide⟩
  have hsecond : Names (.given " money = Number ") "money" .number :=
    ⟨" money ".toList, " Number ".toList, rfl, by decide, by decide, by decide, by decide⟩
  have hthird : Names (.given "MONEY=json") "MONEY" .json :=
    ⟨"MONEY".toList, "json".toList, rfl, by decide, by decide, by decide, by decide⟩
  have hitems : List.Forall₂ (fun item entry => Names item entry.1 entry.2)
      [.given "MONEY=string", .given " money = Number ", .given "MONEY=json"]
      [("MONEY", .string), ("money", .number), ("MONEY", .json)] :=
    .cons hfirst (.cons hsecond (.cons hthird .nil))
  obtain ⟨found, kinds, hread, hgoverns, hsettings⟩ := settings_typeOverrides hfile hitems [] []
  have hmoney : entryAt? "money" kinds = some .number := (hgoverns.kind_eq "money").trans (by decide)
  have hvector : entryAt? "tsvector" kinds = some .string := (hgoverns.keeps "tsvector" (by decide)).trans (by decide)
  refine ⟨found, hread, ?_⟩
  rw [hsettings]
  cases hplain : settings vectorsAsText [] (overridesOf (optionFlags ++ furtherOptionFlags) []) with
  | error e =>
    have hok : (settings vectorsAsText [] (overridesOf (optionFlags ++ furtherOptionFlags) [])).isOk = true := by rfl
    rw [hplain] at hok
    exact absurd hok Bool.false_ne_true
  | ok s => exact congrArg Except.ok (Prod.ext hmoney hvector)

end SchemaScribe.CommandLine
