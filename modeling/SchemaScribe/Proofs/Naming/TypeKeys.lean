import SchemaScribe.Naming.Types
import SchemaScribe.Proofs.Text.Content

/-!
# Types under all their spellings

Databases report one type in many spellings: in capitals or small letters, with blanks anywhere around the words,
with parameter lists behind them, and with modifiers among them or a phrase about time zones at the end. Which
texts spell which words is a grammar (`Decorates`) that says nothing of how a text is taken apart.

**The law** (`typeKey_ignoresDecoration`): the key of a type is its words in small letters with single spaces
between them, whatever the spelling, so all spellings of a type are resolved alike. A text is followed from its
front: lower-casing and dropping parameters turn what spells a word into the word (`SpellsWord.reduced`), and what
is left has the words that the grammar names (`blankWords_reduced`). Then the decoration goes: a phrase is dropped
because none of the words is *zone*, and the modifiers because none of the words is one.
-/

namespace SchemaScribe

open SchemaScribe.Text

/-! ## Spellings -/

/-- A character that words of types are made of: ASCII, no blank and no parenthesis. -/
def IsTypeChar (c : Char) : Prop := c.toNat < 0x80 ∧ isBlank c = false ∧ c ≠ '(' ∧ c ≠ ')'

instance (c : Char) : Decidable (IsTypeChar c) := inferInstanceAs (Decidable (_ ∧ _))

/-- **The words of a type**: at least one, each of characters for words, and none of them a decoration. -/
structure IsTypeName (words : List (List Char)) : Prop where
  ne_nil : words ≠ []
  word : ∀ word ∈ words, word ≠ [] ∧ ∀ c ∈ word, IsTypeChar c
  telling : ∀ word ∈ words,
    word.map Char.toLower ∉ ["zone", "unsigned", "zerofill", "signed"].map String.toList

/-- **A spelling of a word**: the word in any letters, and behind it any number of parameter lists, which hold
anything but a closing parenthesis. -/
inductive SpellsWord (word : List Char) : List Char → Prop
  | letters {text : List Char} : text.map Char.toLower = word.map Char.toLower → SpellsWord word text
  | parameters {text list : List Char} : SpellsWord word text → ')' ∉ list →
      SpellsWord word (text ++ '(' :: list ++ [')'])

/-- A spelling of words that follow others: blanks in front of each and any blanks at the end. -/
inductive SpellsMore : List (List Char) → List Char → Prop
  | done {blanks : List Char} : allBlank blanks = true → SpellsMore [] blanks
  | word {blanks text rest word : List Char} {words : List (List Char)} : blanks ≠ [] → allBlank blanks = true →
      SpellsWord word text → SpellsMore words rest → SpellsMore (word :: words) (blanks ++ text ++ rest)

/-- **A spelling of words**: any blanks, the first word, and the others behind it. -/
inductive SpellsWords : List (List Char) → List Char → Prop
  | words {blanks text rest word : List Char} {words : List (List Char)} : allBlank blanks = true →
      SpellsWord word text → SpellsMore words rest → SpellsWords (word :: words) (blanks ++ text ++ rest)

/-- Words with any number of modifiers before, among and behind them. -/
inductive Modified : List (List Char) → List (List Char) → Prop
  | done : Modified [] []
  | word {word : List Char} {words all : List (List Char)} : Modified words all →
      Modified (word :: words) (word :: all)
  | modifier {modifier : List Char} {words all : List (List Char)} :
      modifier ∈ ["unsigned", "zerofill", "signed"].map String.toList → Modified words all →
      Modified words (modifier :: all)

/-- Words with what may be added to them: modifiers, or a phrase about time zones at the end. -/
inductive Extended (words : List (List Char)) : List (List Char) → Prop
  | modified {all : List (List Char)} : Modified words all → Extended words all
  | phrase {phrase : List String} : phrase ∈ [["with", "time", "zone"], ["without", "time", "zone"],
      ["with", "local", "time", "zone"]] → Extended words (words ++ phrase.map String.toList)

/-- **A decorated spelling of words**: a spelling of the words with what may be added to them. -/
def Decorates (words : List (List Char)) (text : List Char) : Prop :=
  ∃ all, Extended words all ∧ SpellsWords all text

/-! ## Characters -/

/-- What holds of every ASCII character is seen by looking at all of them. -/
theorem forall_ascii {P : Char → Prop} (h : ∀ n < 0x80, P (Char.ofNat n)) {c : Char} (hc : c.toNat < 0x80) : P c := by
  have hn := h c.toNat hc
  rwa [Char.ofNat_toNat] at hn

theorem isTypeChar_of_isAlphanum {c : Char} (h : c.isAlphanum = true) : IsTypeChar c := by
  have hascii : c.toNat < 0x80 := by
    rw [isAlphanum_iff] at h
    omega
  revert h
  exact forall_ascii (P := fun c => c.isAlphanum = true → IsTypeChar c) (by decide) hascii

/-- Words of letters and digits are words of types. -/
theorem typeWord_of_isAlphanum {words : List (List Char)}
    (h : ∀ word ∈ words, word ≠ [] ∧ word.all Char.isAlphanum = true) :
    ∀ word ∈ words, word ≠ [] ∧ ∀ c ∈ word, IsTypeChar c := by
  intro word hword
  obtain ⟨hne, halphanum⟩ := h word hword
  exact ⟨hne, fun c hc => isTypeChar_of_isAlphanum (List.all_eq_true.mp halphanum c hc)⟩

theorem isTypeChar_toLower {c : Char} : IsTypeChar c.toLower ↔ IsTypeChar c := by
  by_cases h : c.isAlphanum = true
  · refine iff_of_true (isTypeChar_of_isAlphanum ?_) (isTypeChar_of_isAlphanum h)
    rwa [isAlphanum_toLower]
  · have hsame : c.toLower = c := by
      rw [isAlphanum_iff] at h
      apply Char.toNat_inj.mp
      rw [toNat_toLower, if_neg (by omega)]
    rw [hsame]

/-- A word keeps its characters in other letters. -/
theorem isTypeChar_of_letters {text word : List Char} (h : text.map Char.toLower = word.map Char.toLower)
    (hword : ∀ c ∈ word, IsTypeChar c) : ∀ c ∈ text, IsTypeChar c := by
  intro c hc
  have hmem : c.toLower ∈ word.map Char.toLower := h ▸ List.mem_map_of_mem hc
  obtain ⟨d, hd, heq⟩ := List.mem_map.mp hmem
  rw [← isTypeChar_toLower, ← heq, isTypeChar_toLower]
  exact hword d hd

theorem lowerAt_of_ascii {c : Char} (h : c.toNat < 0x80) (cased : Bool) (rest : List Char) :
    lowerAt cased c rest = [c.toLower] := by
  have hsigma : c ≠ 'Σ' := by
    rintro rfl
    exact absurd h (by decide)
  have hdotted : c ≠ 'İ' := by
    rintro rfl
    exact absurd h (by decide)
  rw [lowerAt, if_neg hsigma, if_neg hdotted, lowerChar, if_pos h]

theorem bounds_of_contains {run : CodeRun} {code : Nat} (h : run.contains code = true) :
    run.first ≤ code ∧ code ≤ run.last := by
  unfold CodeRun.contains at h
  rw [Bool.and_eq_true, Bool.and_eq_true, decide_eq_true_eq, decide_eq_true_eq] at h
  exact h.1

/-- No run of capitals reaches into a run of blanks. -/
theorem blankRuns_apart : ∀ shift ∈ lowerShifts, ∀ run ∈ blankRuns,
    run.last < shift.run.first ∨ shift.run.last < run.first := by
  decide +kernel

/-- Small letters come after the parentheses. -/
theorem lowerShifts_above : ∀ shift ∈ lowerShifts, 0x29 < (shift.run.first : Int) + shift.offset := by
  decide +kernel

theorem lowerAt_of_isBlank {c : Char} (h : isBlank c = true) (cased : Bool) (rest : List Char) :
    lowerAt cased c rest = [c] := by
  by_cases hascii : c.toNat < 0x80
  · have hsame : c.toLower = c := by
      revert h
      exact forall_ascii (P := fun c => isBlank c = true → c.toLower = c) (by decide) hascii
    rw [lowerAt_of_ascii hascii, hsame]
  · have hsigma : c ≠ 'Σ' := by
      rintro rfl
      exact absurd h (by decide)
    have hdotted : c ≠ 'İ' := by
      rintro rfl
      exact absurd h (by decide)
    have hnone : lowerShifts.find? (·.run.contains c.toNat) = none := by
      refine List.find?_eq_none.mpr fun shift hshift hcapital => ?_
      obtain ⟨run, hrun, hcontains⟩ := List.any_eq_true.mp h
      have hfrom := bounds_of_contains hcontains
      have hto := bounds_of_contains hcapital
      have hapart := blankRuns_apart shift hshift run hrun
      omega
    rw [lowerAt, if_neg hsigma, if_neg hdotted, lowerChar, if_neg hascii, hnone]

theorem lowerChar_ne_closing {c : Char} (h : c ≠ ')') : lowerChar c ≠ ')' := by
  unfold lowerChar
  split
  · next hascii =>
    revert h
    exact forall_ascii (P := fun c => c ≠ ')' → c.toLower ≠ ')') (by decide) hascii
  · split
    · next shift hfind =>
      have habove := lowerShifts_above shift (List.mem_of_find?_eq_some hfind)
      have hcontains := List.find?_some hfind
      have hcapital := bounds_of_contains hcontains
      have hcode : ((c.toNat : Int) + shift.offset).toNat ≠ 0x29 := by omega
      unfold Char.ofNat
      by_cases hvalid : ((c.toNat : Int) + shift.offset).toNat.isValidChar
      · rw [dif_pos hvalid]
        exact fun heq => hcode (congrArg Char.toNat heq)
      · rw [dif_neg hvalid]
        decide
    · exact h

/-- Lower-casing closes no parenthesis. -/
theorem closing_notMem_lowerAt {c : Char} (h : c ≠ ')') (cased : Bool) (rest : List Char) :
    ')' ∉ lowerAt cased c rest := by
  unfold lowerAt
  split
  · split <;> decide
  · split
    · decide
    · rw [List.mem_singleton]
      exact Ne.symm (lowerChar_ne_closing h)

/-! ## Dropping parameters -/

theorem withoutParameters_cons {c : Char} (h : c ≠ '(') (s : List Char) :
    withoutParameters (c :: s) = c :: withoutParameters s := by
  rw [withoutParameters, if_neg h]

theorem withoutParameters_list {list : List Char} (h : ')' ∉ list) (s : List Char) :
    withoutParameters ('(' :: (list ++ ')' :: s)) = withoutParameters s := by
  have hclosing : (list ++ ')' :: s).dropWhile (· ≠ ')') = ')' :: s := by
    rw [List.dropWhile_append_of_pos fun c hc => ?_]
    · rfl
    · exact decide_eq_true fun heq => h (heq ▸ hc)
  rw [withoutParameters, if_pos rfl]
  split
  · next c after hafter =>
    rw [hclosing] at hafter
    cases hafter
    rfl
  · next hafter =>
    rw [hclosing] at hafter
    cases hafter

/-- A text in small letters and without parameters, where `cased` is what stood before it. -/
def reduced (cased : Bool) (text : List Char) : List Char := withoutParameters (lowerFrom cased text)

/-- Characters that become others one by one, and no parentheses, stay in their places. -/
theorem reduced_append {s : List Char} {f : Char → Char}
    (h : ∀ c ∈ s, f c ≠ '(' ∧ ∀ cased rest, lowerAt cased c rest = [f c]) (cased : Bool) (rest : List Char) :
    ∃ cased', reduced cased (s ++ rest) = s.map f ++ reduced cased' rest := by
  induction s generalizing cased with
  | nil => exact ⟨cased, rfl⟩
  | cons c s ih =>
    obtain ⟨⟨hopening, hlower⟩, hs⟩ := List.forall_mem_cons.mp h
    obtain ⟨cased', hrest⟩ := ih hs (if isTransparent c then cased else isCased c)
    refine ⟨cased', ?_⟩
    unfold reduced at hrest ⊢
    rw [List.cons_append, lowerFrom, hlower, List.singleton_append, withoutParameters_cons hopening, hrest]
    rfl

/-- A parameter list leaves nothing behind. -/
theorem reduced_list {list : List Char} (h : ')' ∉ list) (cased : Bool) (rest : List Char) :
    ∃ cased', reduced cased ('(' :: (list ++ ')' :: rest)) = reduced cased' rest := by
  have hlist : ∀ cased, ∃ cased' small, ')' ∉ small ∧
      lowerFrom cased (list ++ ')' :: rest) = small ++ ')' :: lowerFrom cased' rest := by
    induction list with
    | nil =>
      intro cased
      refine ⟨if isTransparent ')' then cased else isCased ')', [], List.not_mem_nil, ?_⟩
      rw [List.nil_append, List.nil_append, lowerFrom, lowerAt_of_ascii (by decide)]
      rfl
    | cons c list ih =>
      intro cased
      obtain ⟨hc, hlist⟩ := not_or.mp (List.mem_cons.not.mp h)
      obtain ⟨cased', small, hsmall, heq⟩ := ih hlist (if isTransparent c then cased else isCased c)
      refine ⟨cased', lowerAt cased c (list ++ ')' :: rest) ++ small, ?_, ?_⟩
      · rw [List.mem_append]
        exact not_or_intro (closing_notMem_lowerAt (Ne.symm hc) _ _) hsmall
      · rw [List.cons_append, lowerFrom, heq, List.append_assoc]
  obtain ⟨cased', small, hsmall, heq⟩ := hlist (if isTransparent '(' then cased else isCased '(')
  refine ⟨cased', ?_⟩
  unfold reduced
  rw [lowerFrom, lowerAt_of_ascii (by decide), heq, List.singleton_append]
  exact withoutParameters_list hsmall _

/-- **A spelling of a word becomes the word**: neither its letters nor its parameters are seen any more. -/
theorem SpellsWord.reduced {word text : List Char} (h : SpellsWord word text) (hword : ∀ c ∈ word, IsTypeChar c)
    (cased : Bool) (rest : List Char) :
    ∃ cased', reduced cased (text ++ rest) = word.map Char.toLower ++ SchemaScribe.reduced cased' rest := by
  induction h generalizing rest with
  | @letters text htext =>
    rw [← htext]
    refine reduced_append (fun c hc => ?_) cased rest
    have hchar := isTypeChar_of_letters htext hword c hc
    exact ⟨(isTypeChar_toLower.mpr hchar).2.2.1, lowerAt_of_ascii hchar.1⟩
  | @parameters text list _ hlist ih =>
    obtain ⟨before, hbefore⟩ := ih ('(' :: (list ++ ')' :: rest))
    obtain ⟨after, hafter⟩ := reduced_list hlist before rest
    refine ⟨after, ?_⟩
    rw [← hafter, ← hbefore]
    simp only [List.append_assoc, List.cons_append, List.nil_append]

/-- Blanks stay blanks. -/
theorem reduced_blanks {blanks : List Char} (h : allBlank blanks = true) (cased : Bool) (rest : List Char) :
    ∃ cased', reduced cased (blanks ++ rest) = blanks ++ reduced cased' rest := by
  have hid := reduced_append (s := blanks) (f := id) (fun c hc => ?_) cased rest
  · rwa [List.map_id] at hid
  · have hblank := List.all_eq_true.mp h c hc
    refine ⟨?_, lowerAt_of_isBlank hblank⟩
    rintro rfl
    exact absurd hblank (by decide)

/-! ## Taking words apart -/

theorem blankWords_append {c : Char} (h : isBlank c = true) (s t : List Char) :
    blankWords (s ++ c :: t) = blankWords s ++ blankWords t := by
  unfold blankWords
  rw [List.splitOnP_append_cons s t h, List.filter_append]

theorem blankWords_cons {c : Char} (h : isBlank c = true) (s : List Char) : blankWords (c :: s) = blankWords s :=
  blankWords_append h [] s

theorem blankWords_blanks {blanks : List Char} (h : allBlank blanks = true) (s : List Char) :
    blankWords (blanks ++ s) = blankWords s := by
  induction blanks with
  | nil => rfl
  | cons c blanks ih =>
    obtain ⟨hc, hblanks⟩ := List.forall_mem_cons.mp (List.all_eq_true.mp h)
    rw [List.cons_append, blankWords_cons hc, ih (List.all_eq_true.mpr hblanks)]

theorem blankWords_word {word : List Char} (hne : word ≠ []) (h : ∀ c ∈ word, isBlank c = false) :
    blankWords word = [word] := by
  unfold blankWords
  rw [List.splitOnP_eq_singleton h]
  refine List.filter_cons_of_pos ?_
  rwa [Bool.not_eq_true', List.isEmpty_eq_false_iff]

/-- A word ends where blanks begin. -/
theorem blankWords_word_append {word blanks : List Char} (hne : word ≠ []) (h : ∀ c ∈ word, isBlank c = false)
    (hgap : blanks ≠ []) (hblanks : allBlank blanks = true) (s : List Char) :
    blankWords (word ++ (blanks ++ s)) = word :: blankWords s := by
  cases blanks with
  | nil => exact absurd rfl hgap
  | cons c blanks =>
    obtain ⟨hc, hmore⟩ := List.forall_mem_cons.mp (List.all_eq_true.mp hblanks)
    rw [List.cons_append, blankWords_append hc, blankWords_word hne h,
      blankWords_blanks (List.all_eq_true.mpr hmore)]
    rfl

/-- What a word becomes is a word. -/
theorem small_word {word : List Char} (h : word ≠ [] ∧ ∀ c ∈ word, IsTypeChar c) :
    word.map Char.toLower ≠ [] ∧ ∀ c ∈ word.map Char.toLower, isBlank c = false := by
  refine ⟨fun hnil => h.1 (List.map_eq_nil_iff.mp hnil), List.forall_mem_map.mpr fun c hc => ?_⟩
  exact (isTypeChar_toLower.mpr (h.2 c hc)).2.1

/-- Behind a word the others are found, each where its blanks end. -/
theorem SpellsMore.blankWords_reduced {words : List (List Char)} {text : List Char} (h : SpellsMore words text)
    (hwords : ∀ word ∈ words, word ≠ [] ∧ ∀ c ∈ word, IsTypeChar c) {first : List Char} (hne : first ≠ [])
    (hfirst : ∀ c ∈ first, isBlank c = false) (cased : Bool) :
    blankWords (first ++ reduced cased text) = first :: words.map (·.map Char.toLower) := by
  induction h generalizing first cased with
  | @done blanks hblanks =>
    obtain ⟨cased', hreduced⟩ := reduced_blanks hblanks cased []
    have hend : reduced cased' [] = [] := by
      unfold reduced
      rw [lowerFrom, withoutParameters]
    rw [List.append_nil] at hreduced
    rw [hreduced, hend]
    by_cases hgap : blanks = []
    · rw [hgap, List.nil_append, List.append_nil, blankWords_word hne hfirst]
      rfl
    · rw [blankWords_word_append hne hfirst hgap hblanks]
      rfl
  | @word blanks text rest word words hgap hblanks htext _ ih =>
    obtain ⟨hword, hmore⟩ := List.forall_mem_cons.mp hwords
    obtain ⟨before, hbefore⟩ := reduced_blanks hblanks cased (text ++ rest)
    obtain ⟨after, hafter⟩ := htext.reduced hword.2 before rest
    obtain ⟨hsmall, hflat⟩ := small_word hword
    rw [List.append_assoc, hbefore, hafter, blankWords_word_append hne hfirst hgap hblanks,
      ih hmore hsmall hflat after]
    rfl

/-- **A spelling has the words that it spells**, in small letters. -/
theorem SpellsWords.blankWords_eq {words : List (List Char)} {text : List Char} (h : SpellsWords words text)
    (hwords : ∀ word ∈ words, word ≠ [] ∧ ∀ c ∈ word, IsTypeChar c) :
    blankWords (withoutParameters (lower text)) = words.map (·.map Char.toLower) := by
  obtain ⟨hblanks, htext, hrest⟩ := h
  obtain ⟨hword, hmore⟩ := List.forall_mem_cons.mp hwords
  obtain ⟨before, hbefore⟩ := reduced_blanks hblanks false (_ ++ _)
  obtain ⟨after, hafter⟩ := htext.reduced hword.2 before _
  obtain ⟨hsmall, hflat⟩ := small_word hword
  show blankWords (reduced false _) = _
  rw [List.append_assoc, hbefore, hafter, blankWords_blanks hblanks,
    hrest.blankWords_reduced hmore hsmall hflat after]
  rfl

/-! ## Dropping decorations -/

variable {words all : List (List Char)}

theorem zonePhrases_zone : ∀ phrase ∈ zonePhrases, "zone".toList ∈ phrase := by decide

/-- No phrase about time zones is the end of another. -/
theorem zonePhrases_apart : ∀ phrase ∈ zonePhrases, ∀ other ∈ zonePhrases, phrase <:+ other → phrase = other := by
  decide

theorem dropPhrase_of_not_suffix {phrase : List (List Char)} (h : ¬ phrase <:+ words) :
    dropPhrase words phrase = words := by
  unfold dropPhrase
  rw [if_neg]
  rw [Bool.and_eq_true, List.isSuffixOf_iff_suffix]
  exact fun hboth => h hboth.1

theorem dropPhrase_append (h : words ≠ []) (phrase : List (List Char)) :
    dropPhrase (words ++ phrase) phrase = words := by
  have hlength : phrase.length < (words ++ phrase).length := by
    rw [List.length_append]
    exact Nat.lt_add_of_pos_left (List.length_pos_iff.mpr h)
  unfold dropPhrase
  rw [if_pos]
  · rw [List.length_append, Nat.add_sub_cancel, List.take_left]
  · rw [Bool.and_eq_true, List.isSuffixOf_iff_suffix, decide_eq_true_eq]
    exact ⟨List.suffix_append words phrase, hlength⟩

/-- Words without *zone* end in no phrase. -/
theorem dropPhrases_of_notMem (h : "zone".toList ∉ words) {phrases : List (List (List Char))}
    (hphrases : phrases ⊆ zonePhrases) : phrases.foldl dropPhrase words = words := by
  induction phrases with
  | nil => rfl
  | cons phrase phrases ih =>
    obtain ⟨hphrase, hmore⟩ := List.cons_subset.mp hphrases
    rw [List.foldl_cons, dropPhrase_of_not_suffix fun hsuffix => h (hsuffix.subset (zonePhrases_zone phrase hphrase)),
      ih hmore]

/-- Of the phrases, the one at the end is dropped and no other. -/
theorem dropPhrases_append (hne : words ≠ []) (h : "zone".toList ∉ words) {phrase : List (List Char)}
    (hphrase : phrase ∈ zonePhrases) {phrases : List (List (List Char))} (hphrases : phrases ⊆ zonePhrases) :
    phrases.foldl dropPhrase (words ++ phrase) = if phrase ∈ phrases then words else words ++ phrase := by
  induction phrases with
  | nil => rfl
  | cons first phrases ih =>
    obtain ⟨hfirst, hmore⟩ := List.cons_subset.mp hphrases
    rw [List.foldl_cons]
    by_cases heq : first = phrase
    · rw [heq, dropPhrase_append hne, dropPhrases_of_notMem h hmore, if_pos List.mem_cons_self]
    · have hsuffix : ¬ first <:+ words ++ phrase := by
        intro hsuffix
        rcases List.suffix_or_suffix_of_suffix hsuffix (List.suffix_append words phrase) with hin | hin
        · exact heq (zonePhrases_apart first hfirst phrase hphrase hin)
        · exact heq (zonePhrases_apart phrase hphrase first hfirst hin).symm
      rw [dropPhrase_of_not_suffix hsuffix, ih hmore]
      simp only [List.mem_cons, Ne.symm heq, false_or]

/-- The words of a key: words in small letters without phrases and modifiers. -/
def keyWords (words : List (List Char)) : List (List Char) :=
  (zonePhrases.foldl dropPhrase words).filter (!typeModifiers.contains ·)

theorem IsTypeName.zone_notMem (h : IsTypeName words) : "zone".toList ∉ words.map (·.map Char.toLower) := by
  intro hmem
  obtain ⟨word, hword, heq⟩ := List.mem_map.mp hmem
  exact h.telling word hword (heq ▸ List.mem_cons_self)

/-- No word is taken for a modifier. -/
theorem IsTypeName.filter_words (h : IsTypeName words) :
    (words.map (·.map Char.toLower)).filter (!typeModifiers.contains ·) = words.map (·.map Char.toLower) := by
  refine List.filter_eq_self.mpr (List.forall_mem_map.mpr fun word hword => ?_)
  have hnot : word.map Char.toLower ∉ typeModifiers := fun hmem =>
    h.telling word hword (List.mem_cons_of_mem _ hmem)
  rw [Bool.not_eq_true', ← Bool.not_eq_true, List.contains_iff_mem]
  exact hnot

theorem Modified.mem (h : Modified words all) : ∀ word ∈ all, word ∈ words ∨ word ∈ typeModifiers := by
  induction h with
  | done => exact List.forall_mem_nil _
  | word _ ih =>
    refine List.forall_mem_cons.mpr ⟨.inl List.mem_cons_self, fun word hword => ?_⟩
    exact (ih word hword).imp_left (List.mem_cons_of_mem _)
  | modifier hmodifier _ ih => exact List.forall_mem_cons.mpr ⟨.inr hmodifier, ih⟩

/-- Modifiers are in small letters. -/
theorem typeModifiers_small : ∀ modifier ∈ typeModifiers,
    modifier.map Char.toLower = modifier ∧ modifier ≠ "zone".toList := by
  decide

theorem typeModifiers_word : ∀ modifier ∈ typeModifiers, modifier ≠ [] ∧ ∀ c ∈ modifier, IsTypeChar c :=
  typeWord_of_isAlphanum (by decide)

theorem Modified.filter (h : Modified words all) :
    (all.map (·.map Char.toLower)).filter (!typeModifiers.contains ·) =
      (words.map (·.map Char.toLower)).filter (!typeModifiers.contains ·) := by
  induction h with
  | done => rfl
  | word _ ih => rw [List.map_cons, List.map_cons, List.filter_cons, List.filter_cons, ih]
  | modifier hmodifier _ ih =>
    have hcontains := List.contains_iff_mem.mpr hmodifier
    rw [List.map_cons, (typeModifiers_small _ hmodifier).1, List.filter_cons_of_neg, ih]
    rw [Bool.not_eq_true, Bool.not_eq_false']
    exact hcontains

/-- What is added to words are words too. -/
theorem Extended.word (h : Extended words all) (hname : IsTypeName words) :
    ∀ word ∈ all, word ≠ [] ∧ ∀ c ∈ word, IsTypeChar c := by
  intro word hword
  cases h with
  | modified hmodified =>
    rcases hmodified.mem word hword with hword | hmodifier
    · exact hname.word word hword
    · exact typeModifiers_word word hmodifier
  | phrase hphrase =>
    rcases List.mem_append.mp hword with hword | hword
    · exact hname.word word hword
    · have hphrases : ∀ phrase ∈ [["with", "time", "zone"], ["without", "time", "zone"],
          ["with", "local", "time", "zone"]], ∀ word ∈ phrase.map String.toList,
          word ≠ [] ∧ word.all Char.isAlphanum = true := by
        decide
      exact typeWord_of_isAlphanum (hphrases _ hphrase) word hword

/-- **What is added to words goes again**, and nothing else. -/
theorem Extended.keyWords_eq (h : Extended words all) (hname : IsTypeName words) :
    keyWords (all.map (·.map Char.toLower)) = words.map (·.map Char.toLower) := by
  unfold keyWords
  cases h with
  | modified hmodified =>
    have hzone : "zone".toList ∉ all.map (·.map Char.toLower) := by
      intro hmem
      obtain ⟨word, hword, heq⟩ := List.mem_map.mp hmem
      rcases hmodified.mem word hword with hword | hmodifier
      · exact hname.zone_notMem (List.mem_map.mpr ⟨word, hword, heq⟩)
      · obtain ⟨hsmall, hne⟩ := typeModifiers_small word hmodifier
        exact hne (hsmall.symm.trans heq)
    rw [dropPhrases_of_notMem hzone (List.Subset.refl _), hmodified.filter, hname.filter_words]
  | @phrase phrase hphrase =>
    have hphrases : ∀ phrase ∈ [["with", "time", "zone"], ["without", "time", "zone"],
        ["with", "local", "time", "zone"]],
        (phrase.map String.toList).map (·.map Char.toLower) ∈ zonePhrases := by
      decide
    have hne : words.map (·.map Char.toLower) ≠ [] := by
      rw [ne_eq, List.map_eq_nil_iff]
      exact hname.ne_nil
    rw [List.map_append, dropPhrases_append hne hname.zone_notMem (hphrases phrase hphrase)
      (List.Subset.refl _), if_pos (hphrases phrase hphrase), hname.filter_words]

/-! ## Keys -/

/-- Without overrides a type is resolved by its key. -/
theorem resolveType_of_typeKey {text other : String} (h : typeKey text = typeKey other) (nullable : Bool)
    (enumValues : List String) :
    resolveType text nullable [] enumValues = resolveType other nullable [] enumValues := by
  have hoverride : ∀ text, override? [] text = none := fun _ => rfl
  unfold resolveType
  rw [hoverride, hoverride, h]

theorem typeKey_of_decorates (hname : IsTypeName words) {text : String} (h : Decorates words text.toList) :
    typeKey text = .ofList ([' '].intercalate (words.map (·.map Char.toLower))) := by
  obtain ⟨all, hextended, hspells⟩ := h
  have hwords := hspells.blankWords_eq (hextended.word hname)
  show String.ofList ([' '].intercalate (keyWords (blankWords _))) = _
  rw [hwords, hextended.keyWords_eq hname]

/-- **Decoration is ignored**: the key of a type is its words in small letters with single spaces between them, for
every spelling of the words in any letters, with any blanks, parameter lists, modifiers or a phrase about time
zones. So without overrides all spellings of a type become one type in generated code, or all have none. -/
theorem typeKey_ignoresDecoration {words : List (List Char)} (hname : IsTypeName words) {text : String}
    (h : Decorates words text.toList) :
    typeKey text = .ofList ([' '].intercalate (words.map (·.map Char.toLower))) ∧
    ∀ other : String, Decorates words other.toList → ∀ nullable enumValues,
      resolveType other nullable [] enumValues = resolveType text nullable [] enumValues := by
  refine ⟨typeKey_of_decorates hname h, fun other hother nullable enumValues => ?_⟩
  refine resolveType_of_typeKey ?_ nullable enumValues
  rw [typeKey_of_decorates hname hother, typeKey_of_decorates hname h]

/-- A type of two words, once with parameters and a modifier among them, once with a phrase behind them. -/
theorem typeKey_ignoresDecoration_doublePrecision :
    IsTypeName (["Double", "Precision"].map String.toList) ∧
    Decorates (["Double", "Precision"].map String.toList) "\tDOUBLE(10, 2) UNSIGNED precision ".toList ∧
    Decorates (["Double", "Precision"].map String.toList) "double precision(4) With\u3000TIME zone".toList ∧
    typeKey "\tDOUBLE(10, 2) UNSIGNED precision " = "double precision" ∧
    resolveType "double precision(4) With\u3000TIME zone" true [] [] =
      resolveType "\tDOUBLE(10, 2) UNSIGNED precision " true [] [] := by
  have hname : IsTypeName (["Double", "Precision"].map String.toList) :=
    ⟨by decide, typeWord_of_isAlphanum (by decide), by decide⟩
  have hmodified : Decorates (["Double", "Precision"].map String.toList)
      "\tDOUBLE(10, 2) UNSIGNED precision ".toList := by
    have htext : "\tDOUBLE(10, 2) UNSIGNED precision ".toList =
        ['\t'] ++ ("DOUBLE".toList ++ '(' :: "10, 2".toList ++ [')']) ++
          ([' '] ++ "UNSIGNED".toList ++ ([' '] ++ "precision".toList ++ [' '])) := by
      decide
    rw [htext]
    refine ⟨["Double".toList, "unsigned".toList, "Precision".toList],
      .modified (.word (.modifier (by decide) (.word .done))), ?_⟩
    refine .words (by decide) (.parameters (.letters (by decide)) (by decide)) ?_
    refine .word (by decide) (by decide) (.letters (by decide)) ?_
    exact .word (by decide) (by decide) (.letters (by decide)) (.done (by decide))
  have hphrase : Decorates (["Double", "Precision"].map String.toList)
      "double precision(4) With\u3000TIME zone".toList := by
    have htext : "double precision(4) With\u3000TIME zone".toList =
        [] ++ "double".toList ++ ([' '] ++ ("precision".toList ++ '(' :: "4".toList ++ [')']) ++
          ([' '] ++ "With".toList ++ (['\u3000'] ++ "TIME".toList ++ ([' '] ++ "zone".toList ++ [])))) := by
      decide
    rw [htext]
    refine ⟨_, .phrase (List.mem_cons_self), ?_⟩
    refine .words (by decide) (.letters (by decide)) ?_
    refine .word (by decide) (by decide)
      (.parameters (.letters (by decide)) (by decide)) ?_
    refine .word (by decide) (by decide) (.letters (by decide)) ?_
    refine .word (by decide) (by decide) (.letters (by decide)) ?_
    exact .word (by decide) (by decide) (.letters (by decide)) (.done (by decide))
  obtain ⟨hkey, hresolved⟩ := typeKey_ignoresDecoration hname hmodified
  exact ⟨hname, hmodified, hphrase, hkey.trans (by decide), hresolved _ hphrase true []⟩

end SchemaScribe
