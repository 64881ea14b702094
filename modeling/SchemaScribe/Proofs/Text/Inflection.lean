import SchemaScribe.Proofs.Text.Lowercase
import SchemaScribe.Text.Inflection

/-!
# Singulars of singulars

A singular is its own singular, with one exception. The rule that takes an `s` away does not look at what it
leaves, and that can be the plural of an irregular noun: `peoples` becomes `people`, and `people` becomes `person`.
Such a word is *twice plural* (`IsTwicePlural`), in any letters. All other singulars are settled: what a rule
leaves either does not end in `s` or ends in `ss`, and no irregular plural ends as what the other rules leave. A
third step changes nothing (`toSingular_toSingular_iff`).
-/

namespace SchemaScribe.Text

/-- A word is twice plural: an `s` stands behind the plural of an irregular noun that ends in something else. -/
def IsTwicePlural (word : List Char) : Prop :=
  ∃ noun ∈ irregularNouns, ¬ ['s'] <:+ noun.2.toList ∧ lower word = noun.2.toList ++ ['s']

variable {word : List Char}

/-! ## The irregular nouns -/

theorem irregularSingular?_eq_none_iff {small : List Char} :
    irregularSingular? small = none ↔ ∀ noun ∈ irregularNouns, noun.2.toList ≠ small := by
  simp [irregularSingular?]

theorem exists_of_irregularSingular? {small one : List Char} (h : irregularSingular? small = some one) :
    ∃ noun ∈ irregularNouns, noun.2.toList = small ∧ noun.1.toList = one := by
  obtain ⟨noun, hnoun, hone⟩ := List.exists_of_findSome?_eq_some h
  obtain ⟨hsmall, hone⟩ := Option.ite_none_right_eq_some.mp hone
  exact ⟨noun, hnoun, hsmall, Option.some_inj.mp hone⟩

/-- Irregular nouns are spelt in small letters of ASCII. -/
theorem irregularNouns_isLower : ∀ noun ∈ irregularNouns, ∀ c ∈ noun.2.toList ++ ['s'], c.isLower = true := by
  have hall : irregularNouns.all (fun noun => (noun.2.toList ++ ['s']).all Char.isLower) = true := by
    decide
  simpa only [List.all_eq_true] using hall

/-- A capital is all that the model of a word can change. -/
theorem withCapitalOf_eq (like one : List Char) :
    withCapitalOf like one = one ∨ withCapitalOf like one = one.modifyHead Char.toUpper := by
  cases one with
  | nil => exact .inl rfl
  | cons c rest =>
    by_cases hcapital : like.head?.any isCapital = true
    · exact .inr (if_pos hcapital)
    · exact .inl (if_neg hcapital)

/-! ## Settled words -/

theorem endsInAny_iff {small : List Char} {endings : List String} :
    endsInAny small endings = true ↔ ∃ ending ∈ endings, ending.toList <:+ small := by
  simp [endsInAny]

/-- Where every ending in question ends in `s`, a text must do so too. -/
theorem endsInAny_eq_false {small : List Char} (h : ¬ ['s'] <:+ small) (endings : List String)
    (hendings : ∀ ending ∈ endings, ['s'] <:+ ending.toList) : endsInAny small endings = false := by
  rw [Bool.eq_false_iff]
  intro hends
  obtain ⟨ending, hmem, hsuffix⟩ := endsInAny_iff.mp hends
  exact h ((hendings ending hmem).trans hsuffix)

/-- A word that does not end in `s` and is no irregular plural is its own singular. -/
theorem singularChars_of_not_suffix (hone : irregularSingular? (lower word) = none)
    (h : ¬ ['s'] <:+ lower word) : singularChars word = word := by
  unfold singularChars
  split
  · next hempty => exact (List.isEmpty_iff.mp hempty).symm
  · simp only [hone, endsInAny_eq_false h ["ss", "us", "is"] (by decide),
      endsInAny_eq_false h ["ies"] (by decide),
      endsInAny_eq_false h ["sses", "xes", "ches", "shes"] (by decide),
      endsInAny_eq_false h ["s"] (by decide)]
    simp

/-- So is a word in `ss`, `us` or `is` that is no irregular plural. -/
theorem singularChars_of_endsInAny (hone : irregularSingular? (lower word) = none)
    (h : endsInAny (lower word) ["ss", "us", "is"] = true) : singularChars word = word := by
  unfold singularChars
  split
  · next hempty => exact (List.isEmpty_iff.mp hempty).symm
  · simp only [hone, h]
    simp

/-- How the suffix rules leave a word, but for the rule that takes an `s` away. -/
def leftEndings : List (List Char) := [['y'], ['x'], ['c', 'h'], ['s', 'h'], ['s', 's']]

/-- No irregular plural ends as a suffix rule leaves a word. -/
theorem irregularSingular?_of_suffix {small ending : List Char} (hleft : ending ∈ leftEndings)
    (h : ending <:+ small) : irregularSingular? small = none := by
  have hall : ∀ ending ∈ leftEndings, ∀ noun ∈ irregularNouns, ¬ ending <:+ noun.2.toList := by
    decide
  refine irregularSingular?_eq_none_iff.mpr ?_
  rintro noun hnoun rfl
  exact hall ending hleft noun hnoun h

/-- What a suffix rule leaves is settled: it ends in `ss`, or in another letter than `s`. -/
theorem singularChars_of_suffix {ending : List Char} (hleft : ending ∈ leftEndings)
    (h : ending <:+ lower word) : singularChars word = word := by
  have hone := irregularSingular?_of_suffix hleft h
  have hlast : ∀ ending ∈ leftEndings, ending = ['s', 's'] ∨ 1 ≤ ending.length ∧ ¬ ['s'] <:+ ending := by
    decide
  rcases hlast ending hleft with rfl | ⟨hlength, hlast⟩
  · exact singularChars_of_endsInAny hone (endsInAny_iff.mpr ⟨"ss", by decide, h⟩)
  · refine singularChars_of_not_suffix hone fun hs => hlast ?_
    exact List.suffix_of_suffix_length_le hs h hlength

/-- The singulars of irregular nouns are settled. -/
theorem singularChars_withCapitalOf {noun : String × String} (h : noun ∈ irregularNouns) (like : List Char) :
    singularChars (withCapitalOf like noun.1.toList) = withCapitalOf like noun.1.toList := by
  have hall : ∀ noun ∈ irregularNouns, singularChars noun.1.toList = noun.1.toList ∧
      singularChars (noun.1.toList.modifyHead Char.toUpper) = noun.1.toList.modifyHead Char.toUpper := by
    decide
  rcases withCapitalOf_eq like noun.1.toList with heq | heq
  · rw [heq]
    exact (hall noun h).1
  · rw [heq]
    exact (hall noun h).2

/-! ## What the rules leave -/

/-- Taking characters away takes as many away from an ending. -/
theorem suffix_lower_withoutLast {s t : List Char} (ht : ∀ c ∈ t, c.isLower = true) {n : Nat} (hn : n ≤ t.length)
    (h : t <:+ lower s) : withoutLast n t <:+ lower (withoutLast n s) := by
  obtain ⟨back, ⟨front, rfl⟩, rfl⟩ := List.suffix_map_iff.mp ((suffix_lower_iff ht).mp h)
  rw [List.length_map] at hn
  have hsmall : ∀ c ∈ withoutLast n (back.map lowerChar), c.isLower = true := fun c hc =>
    ht c (List.mem_of_mem_take hc)
  refine (suffix_lower_iff hsmall).mpr ?_
  have hfront : withoutLast n (front ++ back) = front ++ withoutLast n back := by
    unfold withoutLast
    rw [List.length_append, Nat.add_sub_assoc hn, List.take_length_add_append]
  rw [hfront, List.map_append]
  unfold withoutLast
  rw [List.length_map, ← List.map_take]
  exact List.suffix_append _ _

/-- A word that ends in `s` is what is left of it with one character behind. -/
theorem exists_of_suffix_s (h : ['s'] <:+ lower word) :
    ∃ c, lowerChar c = 's' ∧ word = withoutLast 1 word ++ [c] := by
  obtain ⟨back, ⟨front, rfl⟩, hback⟩ := List.suffix_map_iff.mp ((suffix_lower_iff (by simp)).mp h)
  obtain ⟨c, rfl, hc⟩ := List.map_eq_singleton_iff.mp hback.symm
  refine ⟨c, hc, ?_⟩
  unfold withoutLast
  simp

/-- A word whose small form ends in `s` after what is left of it has small letters. -/
theorem lower_append_s {c : Char} (hc : lowerChar c = 's') {small : List Char}
    (hsmall : ∀ d ∈ small ++ ['s'], d.isLower = true) :
    lower (word ++ [c]) = small ++ ['s'] ↔ lower word = small := by
  rw [lower_eq_iff hsmall, lower_eq_iff fun d hd => hsmall d (List.mem_append_left _ hd), List.map_append,
    List.map_singleton, hc, List.append_left_inj]

/-- What singularising can do to a word. -/
inductive SingularStep (word : List Char) : List Char → Prop
  | kept : SingularStep word word
  | irregular {noun : String × String} (h : noun ∈ irregularNouns) :
    SingularStep word (withCapitalOf word noun.1.toList)
  | takesIes (front : List Char) : SingularStep word (front ++ ['y'])
  | takesEs {ending : List Char} (h : ending <:+ lower word)
    (hending : ending ∈ ["sses", "xes", "ches", "shes"].map String.toList) :
    SingularStep word (withoutLast 2 word)
  | takesS (h : ['s'] <:+ lower word) (hss : ¬ ['s', 's'] <:+ lower word) :
    SingularStep word (withoutLast 1 word)

/-- Singularising takes one of these steps. -/
theorem singularChars_step (word : List Char) : SingularStep word (singularChars word) := by
  unfold singularChars
  split
  · next hempty => exact List.isEmpty_iff.mp hempty ▸ .kept
  · dsimp only
    split
    · next one hone =>
      obtain ⟨noun, hnoun, _, rfl⟩ := exists_of_irregularSingular? hone
      exact .irregular hnoun
    · split
      · exact .kept
      · split
        · exact .kept
        · next hclosed =>
          split
          · exact .takesIes _
          · split
            · next hes =>
              obtain ⟨ending, hending, hsuffix⟩ := endsInAny_iff.mp hes
              exact .takesEs hsuffix (List.mem_map_of_mem hending)
            · split
              · next hs =>
                rw [Bool.and_eq_true] at hs
                obtain ⟨ending, hending, hsuffix⟩ := endsInAny_iff.mp hs.1
                obtain rfl := List.mem_singleton.mp hending
                exact .takesS hsuffix fun hss => hclosed (endsInAny_iff.mpr ⟨"ss", by decide, hss⟩)
              · exact .kept

/-- What is left of a word in a single `s` does not end in `s`. -/
theorem not_suffix_withoutLast (h : ['s'] <:+ lower word) (hss : ¬ ['s', 's'] <:+ lower word) :
    ¬ ['s'] <:+ lower (withoutLast 1 word) := by
  obtain ⟨c, hc, hword⟩ := exists_of_suffix_s h
  intro hleft
  obtain ⟨d, hd, hmore⟩ := exists_of_suffix_s hleft
  have hends : [d, c].map lowerChar = ['s', 's'] := by rw [List.map_cons, List.map_singleton, hc, hd]
  refine hss ((suffix_lower_iff (by simp)).mpr ?_)
  rw [hword, hmore, List.append_assoc, List.map_append, List.singleton_append, hends]
  exact List.suffix_append _ _

/-- **A singular is settled**, unless an `s` was taken away from an irregular plural. -/
theorem singularChars_singularChars (word : List Char) :
    singularChars (singularChars word) = singularChars word ∨
      singularChars word = withoutLast 1 word ∧ IsTwicePlural word := by
  have hstep := singularChars_step word
  generalize hr : singularChars word = r at hstep ⊢
  cases hstep with
  | kept => exact .inl hr
  | irregular hnoun => exact .inl (singularChars_withCapitalOf hnoun word)
  | takesIes front =>
    have hy : ['y'] <:+ lower (front ++ ['y']) := by
      refine (suffix_lower_iff (by simp)).mpr ?_
      rw [List.map_append]
      exact List.suffix_append _ _
    exact .inl (singularChars_of_suffix (by decide) hy)
  | takesEs h hending =>
    have hsmall : ∀ ending ∈ ["sses", "xes", "ches", "shes"].map String.toList,
        ending.all Char.isLower = true ∧ 2 ≤ ending.length ∧ withoutLast 2 ending ∈ leftEndings := by
      decide
    obtain ⟨hlower, hlength, hleft⟩ := hsmall _ hending
    exact .inl (singularChars_of_suffix hleft (suffix_lower_withoutLast (List.all_eq_true.mp hlower) hlength h))
  | takesS h hss =>
    have hleft := not_suffix_withoutLast h hss
    cases hone : irregularSingular? (lower (withoutLast 1 word)) with
    | none => exact .inl (singularChars_of_not_suffix hone hleft)
    | some one =>
      obtain ⟨noun, hnoun, hmany, _⟩ := exists_of_irregularSingular? hone
      obtain ⟨c, hc, hword⟩ := exists_of_suffix_s h
      refine .inr ⟨rfl, noun, hnoun, hmany ▸ hleft, ?_⟩
      rw [hword]
      exact (lower_append_s hc (irregularNouns_isLower noun hnoun)).mpr hmany.symm

/-! ## Words that are twice plural -/

/-- The rules see an `s` behind an irregular plural and nothing else. -/
theorem singularChars_of_isTwicePlural (h : IsTwicePlural word) :
    singularChars word = withoutLast 1 word := by
  obtain ⟨noun, hnoun, hnot, hsmall⟩ := h
  have hall : ∀ noun ∈ irregularNouns, ¬ ['s'] <:+ noun.2.toList →
      irregularSingular? (noun.2.toList ++ ['s']) = none ∧
      (irregularPlural? (noun.2.toList ++ ['s'])).isSome = false ∧
      endsInAny (noun.2.toList ++ ['s']) ["ss", "us", "is"] = false ∧
      endsInAny (noun.2.toList ++ ['s']) ["ies"] = false ∧
      endsInAny (noun.2.toList ++ ['s']) ["sses", "xes", "ches", "shes"] = false ∧
      endsInAny (noun.2.toList ++ ['s']) ["s"] = true ∧ 1 < (noun.2.toList ++ ['s']).length := by
    decide
  obtain ⟨hone, hmany, hclosed, hies, hes, hs, hlength⟩ := hall noun hnoun hnot
  have hword : word.length = (noun.2.toList ++ ['s']).length := by
    rw [← (lower_eq_iff (irregularNouns_isLower noun hnoun)).mp hsmall, List.length_map]
  rw [← hword] at hlength
  have hfilled : word.isEmpty = false := by
    cases word with
    | nil => cases hlength
    | cons c rest => rfl
  unfold singularChars
  simp only [hfilled, hsmall, hone, hmany, hclosed, hies, hes, hs, hlength]
  simp

theorem singularChars_of_irregularSingular? {one : List Char} (h : irregularSingular? (lower word) = some one) :
    singularChars word = withCapitalOf word one := by
  cases word with
  | nil =>
    have hnone : irregularSingular? (lower []) = none := by decide
    rw [hnone] at h
    cases h
  | cons c rest =>
    unfold singularChars
    simp only [h]
    simp

/-- No irregular plural is the singular of an irregular noun, in any letters. -/
theorem withCapitalOf_ne {noun many : String × String} (hnoun : noun ∈ irregularNouns)
    (hmany : many ∈ irregularNouns) (like : List Char) :
    (withCapitalOf like noun.1.toList).map lowerChar ≠ many.2.toList := by
  have hall : ∀ noun ∈ irregularNouns, noun.1.toList.map lowerChar = noun.1.toList ∧
      (noun.1.toList.modifyHead Char.toUpper).map lowerChar = noun.1.toList ∧
      ∀ many ∈ irregularNouns, noun.1.toList ≠ many.2.toList := by
    decide
  obtain ⟨hsmall, hcapital, hne⟩ := hall noun hnoun
  rcases withCapitalOf_eq like noun.1.toList with heq | heq
  · rw [heq, hsmall]
    exact hne many hmany
  · rw [heq, hcapital]
    exact hne many hmany

/-- What is left of a word that is twice plural is no singular; its own singular is settled. -/
theorem singularChars_withoutLast (h : IsTwicePlural word) :
    singularChars (withoutLast 1 word) ≠ withoutLast 1 word ∧
      singularChars (singularChars (withoutLast 1 word)) = singularChars (withoutLast 1 word) := by
  obtain ⟨many, hmany, _, hsmall⟩ := h
  have hs : ['s'] <:+ lower word := hsmall ▸ List.suffix_append _ _
  obtain ⟨c, hc, hword⟩ := exists_of_suffix_s hs
  generalize withoutLast 1 word = left at hword ⊢
  have hlower := irregularNouns_isLower many hmany
  rw [hword, lower_append_s hc hlower] at hsmall
  cases hone : irregularSingular? (lower left) with
  | none => exact absurd hsmall.symm (irregularSingular?_eq_none_iff.mp hone many hmany)
  | some one =>
    obtain ⟨noun, hnoun, _, rfl⟩ := exists_of_irregularSingular? hone
    rw [singularChars_of_irregularSingular? hone]
    refine ⟨fun heq => withCapitalOf_ne hnoun hmany left ?_, singularChars_withCapitalOf hnoun left⟩
    rw [heq]
    exact (lower_eq_iff fun d hd => hlower d (List.mem_append_left _ hd)).mp hsmall

/-- **A singular is its own singular** if and only if the word it was made of is not twice plural, whatever its
letters. The singular of a singular always is, so that two steps settle every word. Whether a singular is a word
at all is left open. -/
theorem toSingular_toSingular_iff (word : String) :
    (toSingular (toSingular word) = toSingular word ↔ ¬ IsTwicePlural word.toList) ∧
      toSingular (toSingular (toSingular word)) = toSingular (toSingular word) := by
  unfold toSingular
  simp only [String.toList_ofList, String.ofList_inj]
  have hcases := singularChars_singularChars word.toList
  refine ⟨⟨fun hsettled htwice => ?_, fun hnot => ?_⟩, ?_⟩
  · rw [singularChars_of_isTwicePlural htwice] at hsettled
    exact (singularChars_withoutLast htwice).1 hsettled
  · exact hcases.resolve_right fun h => hnot h.2
  · rcases hcases with hsettled | ⟨hleft, htwice⟩
    · rw [hsettled, hsettled]
    · rw [hleft]
      exact (singularChars_withoutLast htwice).2

example : toSingular "Peoples" = "People" ∧ toSingular "People" = "Person" := by decide +kernel

end SchemaScribe.Text
