import Mathlib.Data.List.Nodup
import SchemaScribe.Model.Draft
import SchemaScribe.Proofs.Text.Identifier

/-!
# Names are identifiers, and stay so

Every naming function ends in `toIdentifier`, so each of its names is one (`IsName`). Two things happen
to a name afterwards: a reserved attribute gets an underscore, and a name that is taken gets a number.
Neither undoes what the other or the naming function established (`IsAttribute.numbered`): a reserved
attribute ends in no digit, so no number leads back to one.

The search for a name that is free answers only names of which the test holds (`firstFree_eq_some`).
So names that are searched in turn, each among the names that the earlier ones left, are attributes and
differ from one another (`GivenInTurn`). That the search finds one within its bound is shown elsewhere, from a
bound on the names that are taken.
-/

namespace SchemaScribe

open SchemaScribe.Text

/-- A text that can name something in the generated code. -/
def IsName (name : String) : Prop := IsIdentifier name.toList

instance (name : String) : Decidable (IsName name) := inferInstanceAs (Decidable (IsIdentifier _))

/-- A name that a property of a mapped class can have. -/
structure IsAttribute (name : String) : Prop where
  isName : IsName name
  unreserved : name ∉ reservedAttributes

theorem isIdentifierChar_of_isName {name : String} (h : IsName name) :
    ∀ c ∈ name.toList, isIdentifierChar c = true := by
  intro c hc
  simpa only [isIdentifierChar, Bool.or_eq_true, decide_eq_true_eq] using h.characters c hc

/-! ## The naming functions -/

theorem toIdentifier_isName (text : String) : IsName (toIdentifier text) := by
  unfold IsName toIdentifier
  rw [String.toList_ofList]
  exact identifierChars_isIdentifier text.toList

theorem entityName_isName (table : String) (o : Options) : IsName (entityName table o) :=
  toIdentifier_isName _

theorem propertyName_isName (column : String) (o : Options) : IsName (propertyName column o) :=
  toIdentifier_isName _

theorem fileName_isName (entity : String) (o : Options) : IsName (fileName entity o) :=
  toIdentifier_isName _

theorem inputName_isName (entity : String) (o : Options) : IsName (inputName entity o) :=
  toIdentifier_isName _

theorem relationName_isName (base : String) (toMany : Bool) (o : Options) :
    IsName (relationName base toMany o) :=
  toIdentifier_isName _

/-! ## Reserved attributes -/

/-- Each reserved attribute is no name at all, or an attribute once it has its underscore. -/
theorem reservedAttributes_guarded : ∀ r ∈ reservedAttributes,
    ¬ IsName r ∨ (IsName (r ++ "_") ∧ r ++ "_" ∉ reservedAttributes) := by decide

theorem reservedAttributes_getLast? : ∀ r ∈ reservedAttributes,
    r.toList.getLast?.any Char.isDigit = false := by decide

/-- A guarded name is an attribute. -/
theorem guardReserved_isAttribute {candidate : String} (h : IsName candidate) :
    IsAttribute (guardReserved candidate) := by
  unfold guardReserved
  split
  · next hr =>
    rcases reservedAttributes_guarded candidate (List.contains_iff_mem.mp hr) with hn | ⟨hn, hu⟩
    · exact absurd h hn
    · exact ⟨hn, hu⟩
  · next hr => exact ⟨h, fun hm => hr (List.contains_iff_mem.mpr hm)⟩

/-! ## Numbers -/

theorem toList_numbered (candidate : String) (n : Nat) :
    (numbered candidate n).toList = candidate.toList ++ Nat.toDigits 10 n := by
  unfold numbered
  rw [String.toList_append, Nat.toString_eq_repr, Nat.toList_repr]

theorem isDigit_of_mem_digits {n : Nat} : ∀ c ∈ Nat.toDigits 10 n, c.isDigit = true :=
  fun _ hc => Nat.isDigit_of_mem_toDigits (by decide) (by decide) hc

theorem IsName.numbered {candidate : String} (h : IsName candidate) (n : Nat) :
    IsName (numbered candidate n) := by
  unfold IsName
  rw [toList_numbered]
  exact h.append_digits Nat.toDigits_ne_nil isDigit_of_mem_digits

/-- An attribute with a number is an attribute: it ends in a digit, which no reserved one does. -/
theorem IsAttribute.numbered {candidate : String} (h : IsAttribute candidate) (n : Nat) :
    IsAttribute (numbered candidate n) := by
  refine ⟨h.isName.numbered n, fun hm => ?_⟩
  obtain ⟨c, hc⟩ := Option.isSome_iff_exists.mp
    (List.getLast?_isSome.mpr (@Nat.toDigits_ne_nil n 10))
  have hlast : (SchemaScribe.numbered candidate n).toList.getLast? = some c := by
    rw [toList_numbered, List.getLast?_append, hc]
    rfl
  have hdigit := reservedAttributes_getLast? _ hm
  rw [hlast, Option.any_some, isDigit_of_mem_digits c (List.mem_of_getLast? hc)] at hdigit
  cases hdigit

/-! ## The search for a free name -/

theorem firstNumbered_eq_some {candidate name : String} {free : String → Bool} :
    ∀ {limit n : Nat}, firstNumbered candidate free n limit = some name →
      free name = true ∧ ∃ k, name = numbered candidate k
  | 0, _, h => by cases h
  | limit + 1, n, h => by
    unfold firstNumbered at h
    split at h
    · next hf =>
      cases h
      exact ⟨hf, n, rfl⟩
    · exact firstNumbered_eq_some h

/-- What the search answers is free: the candidate itself, or the candidate with a number. -/
theorem firstFree_eq_some {candidate name : String} {free : String → Bool} {limit : Nat}
    (h : firstFree candidate free limit = some name) :
    free name = true ∧ (name = candidate ∨ ∃ k, name = numbered candidate k) := by
  unfold firstFree at h
  split at h
  · next hf =>
    cases h
    exact ⟨hf, .inl rfl⟩
  · obtain ⟨hf, hk⟩ := firstNumbered_eq_some h
    exact ⟨hf, .inr hk⟩

/-- A unique name was not taken. -/
theorem uniqueName_eq_some {candidate name : String} {taken : List String} {limit : Nat}
    (h : uniqueName candidate taken limit = some name) : name ∉ taken := by
  have hfree := (firstFree_eq_some h).1
  simpa only [Bool.not_eq_true', List.contains_eq_mem, decide_eq_false_iff_not] using hfree

/-- A unique name of an attribute is an attribute that was not taken. -/
theorem uniqueName_isAttribute {candidate name : String} {taken : List String} {limit : Nat}
    (hc : IsAttribute candidate) (h : uniqueName candidate taken limit = some name) :
    IsAttribute name ∧ name ∉ taken := by
  refine ⟨?_, uniqueName_eq_some h⟩
  rcases (firstFree_eq_some h).2 with rfl | ⟨k, rfl⟩
  · exact hc
  · exact hc.numbered k

/-- A free entity name is a name, and nothing that it occupies is taken. -/
theorem freeEntityName_eq_some {o : Options} {candidate name : String} {taken : List String}
    {limit : Nat} (hc : IsName candidate) (h : freeEntityName o candidate taken limit = some name) :
    IsName name ∧ ∀ x ∈ occupied o name, x ∉ taken := by
  obtain ⟨hf, hname⟩ := firstFree_eq_some h
  refine ⟨?_, fun x hx => ?_⟩
  · rcases hname with rfl | ⟨k, rfl⟩
    · exact hc
    · exact hc.numbered k
  · simpa only [Bool.not_eq_true', List.contains_eq_mem, decide_eq_false_iff_not] using
      List.all_eq_true.mp hf x hx

/-! ## Names given in turn -/

/-- **Attributes given in turn**, when some names are taken before the first of them. -/
structure GivenInTurn (taken names : List String) : Prop where
  nodup : (taken ++ names).Nodup
  attributes : ∀ name ∈ names, IsAttribute name

theorem GivenInTurn.nil {taken : List String} (h : taken.Nodup) : GivenInTurn taken [] :=
  ⟨by rwa [List.append_nil], fun _ h => absurd h List.not_mem_nil⟩

/-- One name before others that were given when it was taken too. -/
theorem GivenInTurn.cons {taken names : List String} {name : String} (hname : IsAttribute name)
    (h : GivenInTurn (taken ++ [name]) names) : GivenInTurn taken (name :: names) := by
  have hnodup := h.nodup
  rw [List.append_assoc] at hnodup
  refine ⟨hnodup, fun x hx => ?_⟩
  rcases List.mem_cons.mp hx with rfl | hx
  · exact hname
  · exact h.attributes x hx

end SchemaScribe
