import Mathlib.Data.List.Chain
import SchemaScribe.Text.Identifier

/-!
# What counts as an identifier

An **identifier** of the generated code is made of ASCII letters, digits and single underscores; it does
not start with a digit and is no keyword. Every text becomes one (`identifierChars_isIdentifier`), and
what is put behind a name later to tell it from others, a number or one underscore, leaves it one: the
keywords hold letters only, so neither can complete a keyword.
-/

namespace SchemaScribe.Text

/-- The neighbours in a text without a double underscore. -/
def Apart (a b : Char) : Prop := ¬ (a = '_' ∧ b = '_')

instance : DecidableRel Apart := fun _ _ => inferInstanceAs (Decidable (¬ _))

/-- **An identifier of the generated code.** -/
structure IsIdentifier (s : List Char) : Prop where
  filled : s ≠ []
  characters : ∀ c ∈ s, c.isAlphanum = true ∨ c = '_'
  start : ∀ c ∈ s.head?, c.isDigit = false
  apart : s.IsChain Apart
  notKeyword : ∀ k ∈ keywords, k.toList ≠ s

instance (s : List Char) : Decidable (IsIdentifier s) :=
  decidable_of_iff
    (s ≠ [] ∧ s.all isIdentifierChar = true ∧ s.head?.any Char.isDigit = false ∧ s.IsChain Apart ∧
      keywords.all (fun k => k.toList ≠ s) = true) <| by
    simp only [List.all_eq_true, isIdentifierChar, Bool.or_eq_true, decide_eq_true_eq,
      Option.any_eq_false]
    exact ⟨fun ⟨h1, h2, h3, h4, h5⟩ => ⟨h1, h2, h3, h4, h5⟩,
      fun ⟨h1, h2, h3, h4, h5⟩ => ⟨h1, h2, h3, h4, h5⟩⟩

theorem keywords_isAlpha : ∀ k ∈ keywords, ∀ c ∈ k.toList, c.isAlpha = true := by
  have hall : keywords.all (fun k => k.toList.all Char.isAlpha) = true := by decide
  simpa only [List.all_eq_true] using hall

/-- A text with a character that is no letter is no keyword. -/
theorem ne_keyword_of_mem {s : List Char} {c : Char} (hc : c ∈ s) (hn : c.isAlpha = false) :
    ∀ k ∈ keywords, k.toList ≠ s := by
  rintro k hk rfl
  rw [keywords_isAlpha k hk c hc] at hn
  cases hn

theorem isAlpha_of_isDigit {c : Char} (h : c.isDigit = true) : c.isAlpha = false := by
  have hd := Char.isDigit_iff_toNat.mp h
  change 48 ≤ c.toNat ∧ c.toNat ≤ 57 at hd
  refine Bool.or_eq_false_iff.mpr
    ⟨decide_eq_false fun hupper => ?_, Bool.eq_false_iff.mpr fun hlower => ?_⟩
  · have hge : 65 ≤ c.toNat := hupper.1
    omega
  · have hge : 97 ≤ c.toNat := of_decide_eq_true (Bool.and_eq_true_iff.mp hlower).1
    omega

theorem ne_underscore_of_isDigit {c : Char} (h : c.isDigit = true) : c ≠ '_' := by
  rintro rfl
  cases h

/-! ## From a text to an identifier -/

theorem underscored_characters (s : List Char) :
    ∀ c ∈ underscored s, c.isAlphanum = true ∨ c = '_' := by
  intro c hc
  obtain ⟨d, _, rfl⟩ := List.mem_map.mp hc
  show (if isIdentifierChar d then d else '_').isAlphanum = true ∨ _
  split
  · next h => simpa only [isIdentifierChar, Bool.or_eq_true, decide_eq_true_eq] using h
  · exact .inr rfl

theorem squeeze_sublist : ∀ s : List Char, (squeeze s).Sublist s
  | [] => .slnil
  | c :: rest => by
    unfold squeeze
    split
    · exact (squeeze_sublist rest).cons c
    · exact (squeeze_sublist rest).cons_cons c

/-- Squeezing keeps the first character: of a run of underscores one is left. -/
theorem head?_squeeze : ∀ s : List Char, (squeeze s).head? = s.head?
  | [] => rfl
  | c :: rest => by
    unfold squeeze
    split
    · next h =>
      simp only [Bool.and_eq_true, decide_eq_true_eq] at h
      rw [head?_squeeze rest, h.2, h.1]
      rfl
    · rfl

theorem squeeze_apart : ∀ s : List Char, (squeeze s).IsChain Apart
  | [] => .nil
  | c :: rest => by
    unfold squeeze
    split
    · exact squeeze_apart rest
    · next h =>
      refine (squeeze_apart rest).cons fun d hd => ?_
      rw [head?_squeeze rest] at hd
      rintro ⟨rfl, rfl⟩
      exact h (by simpa only [Option.mem_def, decide_true, Bool.true_and, decide_eq_true_eq] using hd)

theorem guardDigit_cons (c : Char) (rest : List Char) :
    guardDigit (c :: rest) = if c.isDigit then '_' :: c :: rest else c :: rest := rfl

/-- A guarded text does not start with a digit. -/
theorem guardDigit_start : ∀ s : List Char, ∀ c ∈ (guardDigit s).head?, c.isDigit = false
  | [], _, h => by cases h
  | d :: rest, c, h => by
    rw [guardDigit_cons] at h
    split at h
    · cases h; rfl
    · next hd => cases h; simpa only [Bool.not_eq_true] using hd

theorem guardDigit_characters {s : List Char} (h : ∀ c ∈ s, c.isAlphanum = true ∨ c = '_') :
    ∀ c ∈ guardDigit s, c.isAlphanum = true ∨ c = '_' := by
  cases s with
  | nil => exact h
  | cons d rest =>
    rw [guardDigit_cons]
    split
    · intro c hc
      rcases List.mem_cons.mp hc with rfl | hc
      · exact .inr rfl
      · exact h c hc
    · exact h

theorem guardDigit_apart {s : List Char} (h : s.IsChain Apart) : (guardDigit s).IsChain Apart := by
  cases s with
  | nil => exact h
  | cons d rest =>
    rw [guardDigit_cons]
    split
    · next hd =>
      refine h.cons fun c hc => ?_
      cases hc
      exact fun both => ne_underscore_of_isDigit hd both.2
    · exact h

theorem guardDigit_ne_nil {s : List Char} (h : s ≠ []) : guardDigit s ≠ [] := by
  cases s with
  | nil => exact absurd rfl h
  | cons d rest =>
    rw [guardDigit_cons]
    split <;> exact List.cons_ne_nil _ _

/-- An underscore behind a text that ends in something else completes no double underscore. -/
theorem apart_append_underscore {s : List Char} (h : s.IsChain Apart)
    (hlast : ∀ c ∈ s.getLast?, c ≠ '_') : (s ++ ['_']).IsChain Apart :=
  List.isChain_append.mpr ⟨h, .singleton _, fun c hc _ _ both => hlast c hc both.1⟩

/-- **Every text becomes an identifier.** -/
theorem identifierChars_isIdentifier (s : List Char) : IsIdentifier (identifierChars s) := by
  unfold identifierChars
  dsimp only
  split
  · decide
  · next hbody =>
    have hne : squeeze (underscored s) ≠ [] := fun h => hbody (by rw [h]; rfl)
    have hchars := guardDigit_characters fun c hc =>
      underscored_characters s c ((squeeze_sublist _).subset hc)
    have hapart := guardDigit_apart (squeeze_apart (underscored s))
    have hstart := guardDigit_start (squeeze (underscored s))
    have hfilled := guardDigit_ne_nil hne
    generalize guardDigit (squeeze (underscored s)) = t at hchars hapart hstart hfilled
    unfold guardKeyword
    split
    · next hk =>
      -- a keyword ends in a letter, so its underscore stands alone
      obtain ⟨k, hk, hkt⟩ := List.any_eq_true.mp hk
      have hletters : ∀ c ∈ t, c.isAlpha = true := of_decide_eq_true hkt ▸ keywords_isAlpha k hk
      refine ⟨?_, ?_, ?_, ?_, ne_keyword_of_mem (c := '_') (List.mem_append_right _ (.head _)) rfl⟩
      · exact fun h => hfilled (List.append_eq_nil_iff.mp h).1
      · intro c hc
        rcases List.mem_append.mp hc with hc | hc
        · exact hchars c hc
        · exact .inr (List.mem_singleton.mp hc)
      · intro c hc
        rw [List.head?_append_of_ne_nil _ hfilled] at hc
        exact hstart c hc
      · refine apart_append_underscore hapart fun c hc => ?_
        rintro rfl
        cases hletters '_' (List.mem_of_getLast? hc)
    · next hk =>
      refine ⟨hfilled, hchars, hstart, hapart, fun k hkm hkt => hk ?_⟩
      exact List.any_eq_true.mpr ⟨k, hkm, decide_eq_true hkt⟩

/-- Squeezing a text keeps an ending that is squeezed already. -/
theorem suffix_squeeze (s : List Char) {ending : List Char} (h : squeeze ending = ending) :
    ending <:+ squeeze (s ++ ending) := by
  induction s with
  | nil => simp only [List.nil_append, h, List.suffix_refl]
  | cons c s ih =>
    rw [List.cons_append]
    unfold squeeze
    split
    · exact ih
    · exact ih.trans (List.suffix_cons c _)

/-- An identifier ends as its text does, where that ending has an underscore and something else. -/
theorem suffix_identifierChars (s ending : List Char)
    (hchars : underscored ending = ending) (h : squeeze ending = ending) (hunderscore : '_' ∈ ending)
    (hletter : ∃ c ∈ ending, c ≠ '_') : ending <:+ identifierChars (s ++ ending) := by
  have hbody : ending <:+ squeeze (underscored (s ++ ending)) := by
    have happend : underscored (s ++ ending) = underscored s ++ ending :=
      List.map_append.trans (congrArg (underscored s ++ ·) hchars)
    rw [happend]
    exact suffix_squeeze (underscored s) h
  unfold identifierChars
  dsimp only
  split
  · next hall =>
    obtain ⟨c, hc, hne⟩ := hletter
    exact absurd (of_decide_eq_true (List.all_eq_true.mp hall c (hbody.subset hc))) hne
  · have hguarded : ending <:+ guardDigit (squeeze (underscored (s ++ ending))) := by
      cases hcase : squeeze (underscored (s ++ ending)) with
      | nil =>
        rw [hcase] at hbody
        exact hbody
      | cons c rest =>
        rw [hcase] at hbody
        rw [guardDigit_cons]
        split
        · exact hbody.trans (List.suffix_cons '_' _)
        · exact hbody
    unfold guardKeyword
    split
    · next hkeyword =>
      obtain ⟨k, hk, hsame⟩ := List.any_eq_true.mp hkeyword
      exact absurd (of_decide_eq_true hsame) (ne_keyword_of_mem (hguarded.subset hunderscore) rfl k hk)
    · exact hguarded

/-! ## What is put behind an identifier -/

/-- A number behind an identifier leaves it an identifier. -/
theorem IsIdentifier.append_digits {s digits : List Char} (h : IsIdentifier s) (hne : digits ≠ [])
    (hd : ∀ c ∈ digits, c.isDigit = true) : IsIdentifier (s ++ digits) := by
  refine ⟨fun hnil => h.filled (List.append_eq_nil_iff.mp hnil).1, ?_, ?_, ?_, ?_⟩
  · intro c hc
    rcases List.mem_append.mp hc with hc | hc
    · exact h.characters c hc
    · exact .inl (by simp only [Char.isAlphanum, hd c hc, Bool.or_true])
  · intro c hc
    rw [List.head?_append_of_ne_nil _ h.filled] at hc
    exact h.start c hc
  · refine List.isChain_append.mpr ⟨h.apart, ?_, ?_⟩
    · refine (List.pairwise_of_forall_mem_list ?_).isChain
      exact fun a ha _ _ both => ne_underscore_of_isDigit (hd a ha) both.1
    · exact fun _ _ c hc both => ne_underscore_of_isDigit (hd c (List.mem_of_head? hc)) both.2
  · obtain ⟨c, hc⟩ := List.exists_mem_of_ne_nil digits hne
    exact ne_keyword_of_mem (List.mem_append_right s hc) (isAlpha_of_isDigit (hd c hc))

/-- No identifier holds a character that is neither a letter, nor a digit, nor an underscore. -/
theorem IsIdentifier.not_mem {s : List Char} (h : IsIdentifier s) {c : Char}
    (hc : c.isAlphanum = false) (hu : c ≠ '_') : c ∉ s := by
  intro hm
  rcases h.characters c hm with hm | hm
  · rw [hc] at hm
    cases hm
  · exact hu hm

end SchemaScribe.Text
