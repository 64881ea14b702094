import SchemaScribe.Text.Lowercase

/-!
# Texts that become ASCII in small letters

The small form of a character may depend on what stands around it, and may be two characters long. Where it is a
small letter of ASCII, neither is the case. So a text whose small form is made of such letters has it character by
character (`lower_eq_iff`), and a small form ends in such letters if and only if the small letters of the last
characters do (`suffix_lower_iff`), whatever stands in front of them.
-/

namespace SchemaScribe.Text

variable {s t : List Char}

/-- A character with a small letter of ASCII becomes that letter anywhere. -/
theorem lowerAt_of_isLower {c : Char} (h : (lowerChar c).isLower = true) (cased : Bool) (rest : List Char) :
    lowerAt cased c rest = [lowerChar c] := by
  have hsigma : c ≠ 'Σ' := by
    rintro rfl
    exact absurd h (by decide)
  have hdotted : c ≠ 'İ' := by
    rintro rfl
    exact absurd h (by decide)
  rw [lowerAt, if_neg hsigma, if_neg hdotted]

/-- The small form of any other character ends in something else. -/
theorem exists_lowerAt_of_not {c : Char} (h : (lowerChar c).isLower = false) (cased : Bool)
    (rest : List Char) : ∃ front last, lowerAt cased c rest = front ++ [last] ∧ last.isLower = false := by
  unfold lowerAt
  split
  · split
    · exact ⟨[], 'ς', rfl, by decide⟩
    · exact ⟨[], 'σ', rfl, by decide⟩
  · split
    · exact ⟨['i'], '\u0307', rfl, by decide⟩
    · exact ⟨[], lowerChar c, rfl, h⟩

/-- A small form that is made of small letters of ASCII is taken character by character. -/
theorem lowerFrom_eq_map {cased : Bool} (h : ∀ c ∈ lowerFrom cased s, c.isLower = true) :
    lowerFrom cased s = s.map lowerChar := by
  induction s generalizing cased with
  | nil => rfl
  | cons c rest ih =>
    rw [lowerFrom, List.forall_mem_append] at h
    obtain ⟨hfirst, hrest⟩ := h
    cases hc : (lowerChar c).isLower with
    | false =>
      obtain ⟨front, last, hlast, hnot⟩ := exists_lowerAt_of_not hc cased rest
      have hmem : last ∈ lowerAt cased c rest := by
        rw [hlast]
        exact List.mem_append_right front List.mem_cons_self
      rw [hfirst last hmem] at hnot
      cases hnot
    | true => rw [lowerFrom, lowerAt_of_isLower hc, ih hrest, List.map_cons, List.singleton_append]

theorem lowerFrom_of_isLower {cased : Bool} (h : ∀ c ∈ s.map lowerChar, c.isLower = true) :
    lowerFrom cased s = s.map lowerChar := by
  induction s generalizing cased with
  | nil => rfl
  | cons c rest ih =>
    rw [List.map_cons, List.forall_mem_cons] at h
    rw [lowerFrom, lowerAt_of_isLower h.1, ih h.2, List.map_cons, List.singleton_append]

/-- **A text is small letters of ASCII in small form** if and only if its characters are. -/
theorem lower_eq_iff (ht : ∀ c ∈ t, c.isLower = true) : lower s = t ↔ s.map lowerChar = t := by
  constructor
  · intro h
    have hsmall : ∀ c ∈ lowerFrom false s, c.isLower = true := by
      intro c hc
      exact ht c (h ▸ hc)
    exact (lowerFrom_eq_map hsmall).symm.trans h
  · intro h
    exact (lowerFrom_of_isLower (h ▸ ht)).trans h

theorem suffix_map_of_suffix_lowerFrom {cased : Bool} (ht : ∀ c ∈ t, c.isLower = true)
    (h : t <:+ lowerFrom cased s) : t <:+ s.map lowerChar := by
  induction s generalizing cased with
  | nil => exact h
  | cons c rest ih =>
    rw [lowerFrom] at h
    rw [List.map_cons]
    cases hc : (lowerChar c).isLower with
    | true =>
      rw [lowerAt_of_isLower hc, List.singleton_append] at h
      rcases List.suffix_cons_iff.mp h with hall | hrest
      · -- the whole rest is made of small letters then
        rw [hall] at ht ⊢
        have hsmall := lowerFrom_eq_map (List.forall_mem_cons.mp ht).2
        exact hsmall ▸ List.suffix_rfl
      · exact (ih hrest).trans (List.suffix_cons _ _)
    | false =>
      obtain ⟨front, last, hlast, hnot⟩ := exists_lowerAt_of_not hc cased rest
      suffices hrest : t <:+ lowerFrom (if isTransparent c then cased else isCased c) rest from
        (ih hrest).trans (List.suffix_cons _ _)
      rcases List.suffix_or_suffix_of_suffix h (List.suffix_append _ _) with hrest | ⟨more, hmore⟩
      · exact hrest
      · -- an end that reached back to the character would hold its last one
        rw [← hmore, List.suffix_append_self_iff, hlast] at h
        rcases List.suffix_concat_iff.mp h with hnil | ⟨most, hmost, _⟩
        · rw [← hmore, hnil]
          exact List.suffix_rfl
        · have hmem : last ∈ t := by
            rw [← hmore, hmost]
            simp
          rw [ht last hmem] at hnot
          cases hnot

/-- What follows a front is lower-cased as a text of its own, but for what stood before it. -/
theorem exists_lowerFrom_append (cased : Bool) (front back : List Char) :
    ∃ cased', lowerFrom cased' back <:+ lowerFrom cased (front ++ back) := by
  induction front generalizing cased with
  | nil => exact ⟨cased, List.suffix_rfl⟩
  | cons c front ih =>
    obtain ⟨cased', h⟩ := ih (if isTransparent c then cased else isCased c)
    exact ⟨cased', h.trans (List.suffix_append _ _)⟩

/-- **A small form ends in small letters of ASCII** if and only if the characters at its end have these. -/
theorem suffix_lower_iff (ht : ∀ c ∈ t, c.isLower = true) : t <:+ lower s ↔ t <:+ s.map lowerChar := by
  refine ⟨suffix_map_of_suffix_lowerFrom ht, fun h => ?_⟩
  obtain ⟨back, ⟨front, rfl⟩, rfl⟩ := List.suffix_map_iff.mp h
  obtain ⟨cased, hback⟩ := exists_lowerFrom_append false front back
  rwa [lowerFrom_of_isLower ht] at hback

end SchemaScribe.Text
