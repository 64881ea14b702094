import Mathlib.Data.List.Basic

/-!
# Texts between triple quotes

A literal between triple quotes ends at the first triple quote that no backslash takes, wherever its writer
meant it to end; a backslash takes the next character with it, also a backslash. So a backslash at the end of
a text takes what is put behind the text if the run of backslashes there is odd (`takesNext`). A text stands
between triple quotes as it is meant to (`Quotable`) if and only if there is no end in it, it takes nothing
of the delimiter, and no quote at its end makes the delimiter begin too early.
-/

namespace SchemaScribe.Text

/-- The delimiter of a literal that may span lines. -/
def tripleQuote : List Char := ['"', '"', '"']

/-- Whether a text ends in a backslash that takes the next character with it. -/
def takesNext (text : List Char) : Bool := (text.reverse.takeWhile (· = '\\')).length % 2 = 1

/-- What is behind the end of a literal, given what is behind its opening quotes. Where `taken` is set, a
backslash takes the first character with it. -/
def behindQuotation (taken : Bool) : List Char → Option (List Char)
  | [] => none
  | c :: rest =>
    if !taken && tripleQuote.isPrefixOf (c :: rest) then some (rest.drop 2)
    else behindQuotation (!taken && c = '\\') rest

/-! ## Backslashes -/

@[simp] theorem takesNext_nil : takesNext [] = false := rfl

/-- A backslash takes the next character unless it is taken itself. -/
@[simp] theorem takesNext_snoc (text : List Char) (c : Char) :
    takesNext (text ++ [c]) = (!takesNext text && c = '\\') := by
  unfold takesNext
  rw [List.reverse_append, List.reverse_singleton, List.singleton_append]
  by_cases hc : c = '\\'
  · rw [List.takeWhile_cons_of_pos (by simpa using hc), List.length_cons, Bool.eq_iff_iff]
    simp only [hc, decide_true, Bool.and_true, decide_eq_true_eq, Bool.not_eq_eq_eq_not, Bool.not_true,
      decide_eq_false_iff_not]
    omega
  · rw [List.takeWhile_cons_of_neg (by simpa using hc)]
    simp [hc]

/-- Texts without backslashes take nothing, wherever they stand. -/
theorem takesNext_append {text : List Char} (h : '\\' ∉ text) (more : List Char) :
    takesNext (text ++ more) = takesNext more := by
  have hnone : ∀ c ∈ text.reverse, ¬ decide (c = '\\') = true := by
    intro c hc hback
    exact h (of_decide_eq_true hback ▸ List.mem_reverse.mp hc)
  have hstop : text.reverse.takeWhile (· = '\\') = [] := by
    cases htext : text.reverse with
    | nil => rfl
    | cons c rest => exact List.takeWhile_cons_of_neg (hnone c (htext ▸ List.mem_cons_self))
  unfold takesNext
  rw [List.reverse_append, List.takeWhile_append, hstop]
  split
  · next hall => rw [List.append_nil, ← hall]
  · rfl

/-! ## Ends of literals -/

/-- **An end of a literal**, read behind some text: a triple quote that no backslash takes, with what is in
front of it and behind it. -/
structure EndsAt (before text front rest : List Char) : Prop where
  eq : text = front ++ tripleQuote ++ rest
  free : takesNext (before ++ front) = false

/-- Whether a text has a triple quote in it that no backslash takes. -/
def HasEnd (text : List Char) : Prop := ∃ front rest, EndsAt [] text front rest

/-- An end is at the first character or behind it. -/
theorem endsAt_cons {before text front rest : List Char} {c : Char} :
    EndsAt before (c :: text) front rest ↔
      (front = [] ∧ takesNext before = false ∧ c :: text = tripleQuote ++ rest) ∨
      ∃ more, front = c :: more ∧ EndsAt (before ++ [c]) text more rest := by
  constructor
  · rintro ⟨heq, hfree⟩
    cases front with
    | nil => exact .inl ⟨rfl, by simpa using hfree, by simpa using heq⟩
    | cons d more =>
      obtain ⟨rfl, htext⟩ := List.cons.inj heq
      exact .inr ⟨more, rfl, htext, by simpa using hfree⟩
  · rintro (⟨rfl, hfree, heq⟩ | ⟨more, rfl, heq, hfree⟩)
    · exact ⟨by simpa using heq, by simpa using hfree⟩
    · exact ⟨by rw [heq]; rfl, by simpa using hfree⟩

theorem not_endsAt_nil {before front rest : List Char} : ¬ EndsAt before [] front rest := by
  rintro ⟨heq, _⟩
  have hlength := congrArg List.length heq
  simp [tripleQuote] at hlength

/-- A literal ends at the first end there is, and each character read moves in front of what is left. -/
theorem behindQuotation_eq_some_iff {before text rest : List Char} :
    behindQuotation (takesNext before) text = some rest ↔
      ∃ front, EndsAt before text front rest ∧
        ∀ front' rest', EndsAt before text front' rest' → front.length ≤ front'.length := by
  induction text generalizing before with
  | nil =>
    refine ⟨fun h => ?_, fun ⟨_, h, _⟩ => absurd h not_endsAt_nil⟩
    cases h
  | cons c text ih =>
    rw [behindQuotation]
    by_cases hend : (!takesNext before && tripleQuote.isPrefixOf (c :: text)) = true
    · rw [if_pos hend]
      obtain ⟨hfree, hquote⟩ := Bool.and_eq_true_iff.mp hend
      obtain ⟨behind, hbehind⟩ := List.isPrefixOf_iff_prefix.mp hquote
      have hdrop : text.drop 2 = behind := by
        rw [← List.drop_succ_cons (a := c), ← hbehind]
        rfl
      have hfirst : EndsAt before (c :: text) [] behind :=
        endsAt_cons.mpr (.inl ⟨rfl, by simpa using hfree, hbehind.symm⟩)
      rw [hdrop, Option.some.injEq]
      constructor
      · rintro rfl
        exact ⟨[], hfirst, fun _ _ _ => Nat.zero_le _⟩
      · rintro ⟨front, hfront, hleast⟩
        have hnil : front = [] := List.length_eq_zero_iff.mp (Nat.le_zero.mp (hleast [] behind hfirst))
        subst hnil
        exact List.append_cancel_left (hbehind.trans hfront.eq)
    · rw [if_neg hend, ← takesNext_snoc, ih]
      -- there is no end at the first character
      have hcons : ∀ {front rest}, EndsAt before (c :: text) front rest ↔
          ∃ more, front = c :: more ∧ EndsAt (before ++ [c]) text more rest := by
        intro front rest
        rw [endsAt_cons, or_iff_right]
        rintro ⟨_, hfree, heq⟩
        refine hend (Bool.and_eq_true_iff.mpr ⟨by simpa using hfree, ?_⟩)
        exact List.isPrefixOf_iff_prefix.mpr ⟨rest, heq.symm⟩
      constructor
      · rintro ⟨front, hfront, hleast⟩
        refine ⟨c :: front, hcons.mpr ⟨front, rfl, hfront⟩, fun front' rest' h => ?_⟩
        obtain ⟨more, rfl, hmore⟩ := hcons.mp h
        exact Nat.succ_le_succ (hleast more rest' hmore)
      · rintro ⟨front, hfront, hleast⟩
        obtain ⟨more, rfl, hmore⟩ := hcons.mp hfront
        refine ⟨more, hmore, fun front' rest' h => ?_⟩
        exact Nat.le_of_succ_le_succ (hleast (c :: front') rest' (hcons.mpr ⟨front', rfl, h⟩))

/-! ## Texts that can be quoted -/

/-- **A text that can stand between triple quotes**: there is no end of a literal in it, and it neither takes
the first quote of the delimiter nor adds a quote of its own to it. -/
structure Quotable (text : List Char) : Prop where
  unbroken : ¬ HasEnd text
  takes : takesNext text = false
  quote : ∀ front, text = front ++ ['"'] → takesNext front = true

/-- **A literal ends at the delimiter behind a text exactly where the text can stand in it.** -/
theorem behindQuotation_delimiter {text after : List Char} :
    behindQuotation false (text ++ tripleQuote ++ after) = some after ↔ Quotable text := by
  rw [← takesNext_nil, behindQuotation_eq_some_iff]
  constructor
  · rintro ⟨front, ⟨heq, hfree⟩, hleast⟩
    obtain rfl : text = front := List.append_cancel_right (List.append_cancel_right heq)
    refine ⟨?_, by simpa using hfree, fun front hfront => ?_⟩
    · rintro ⟨front, rest, hend⟩
      have hle := hleast front (rest ++ tripleQuote ++ after) ⟨by rw [hend.eq]; simp, hend.free⟩
      have hlength := congrArg List.length hend.eq
      simp only [List.length_append, tripleQuote, List.length_cons] at hlength
      omega
    · by_contra htakes
      have hle := hleast front ('"' :: after) ⟨by rw [hfront]; simp [tripleQuote], by simpa using htakes⟩
      rw [hfront, List.length_append, List.length_singleton] at hle
      omega
  · intro h
    refine ⟨text, ⟨rfl, by simpa using h.takes⟩, fun front rest hend => ?_⟩
    obtain ⟨heq, hfree⟩ := hend
    rw [List.nil_append] at hfree
    by_contra hlt
    -- an earlier end begins in the text, with its first, its last two or all three quotes
    rw [List.append_assoc, List.append_assoc, List.append_eq_append_iff] at heq
    rcases heq with ⟨more, rfl, _⟩ | ⟨more, rfl, hquotes⟩
    · exact hlt (by simp)
    · match more, hquotes with
      | [], _ => exact hlt (by simp)
      | [c], hquotes =>
        simp only [tripleQuote, List.cons_append, List.nil_append, List.cons.injEq] at hquotes
        obtain ⟨rfl, _⟩ := hquotes
        rw [h.quote front rfl] at hfree
        cases hfree
      | [c, d], hquotes =>
        simp only [tripleQuote, List.cons_append, List.nil_append, List.cons.injEq] at hquotes
        obtain ⟨rfl, rfl, _⟩ := hquotes
        have htaken := h.quote (front ++ ['"']) (by simp)
        rw [takesNext_snoc] at htaken
        simp at htaken
      | c :: d :: e :: more, hquotes =>
        simp only [tripleQuote, List.cons_append, List.nil_append, List.cons.injEq] at hquotes
        obtain ⟨rfl, rfl, rfl, _⟩ := hquotes
        exact h.unbroken ⟨front, more, by simp [tripleQuote], by simpa using hfree⟩

/-! ## Plain text around a text -/

/-- Plain text in front of a text adds no end. -/
theorem hasEnd_append_left {plain : List Char} (hquote : '"' ∉ plain) (hback : '\\' ∉ plain)
    (text : List Char) : HasEnd (plain ++ text) ↔ HasEnd text := by
  constructor
  · rintro ⟨front, rest, heq, hfree⟩
    rw [List.append_assoc, List.append_eq_append_iff] at heq
    rcases heq with ⟨more, rfl, htext⟩ | ⟨more, rfl, hquotes⟩
    · rw [List.nil_append, takesNext_append hback] at hfree
      exact ⟨more, rest, by rw [htext, List.append_assoc], hfree⟩
    · cases more with
      | nil => exact ⟨[], rest, by simpa using hquotes.symm, rfl⟩
      | cons c more =>
        obtain ⟨rfl, _⟩ := List.cons.inj hquotes
        exact absurd (List.mem_append_right front List.mem_cons_self) hquote
  · rintro ⟨front, rest, rfl, hfree⟩
    refine ⟨plain ++ front, rest, by simp, ?_⟩
    rw [List.nil_append, takesNext_append hback]
    exact hfree

/-- Text without quotes behind a text adds no end. -/
theorem hasEnd_append_right {plain : List Char} (hquote : '"' ∉ plain) (text : List Char) :
    HasEnd (text ++ plain) ↔ HasEnd text := by
  constructor
  · rintro ⟨front, rest, heq, hfree⟩
    rcases List.append_eq_append_iff.mp heq with ⟨more, hquotes, hplain⟩ | ⟨more, rfl, _⟩
    · rcases List.eq_nil_or_concat more with rfl | ⟨init, c, rfl⟩
      · exact ⟨front, [], by simpa using hquotes.symm, hfree⟩
      · -- the last quote would be in the plain text
        have hlast := congrArg List.getLast? hquotes
        simp [tripleQuote] at hlast
        refine absurd ?_ hquote
        rw [hplain, hlast]
        simp
    · exact ⟨front, more, rfl, hfree⟩
  · rintro ⟨front, rest, rfl, hfree⟩
    exact ⟨front, rest ++ plain, by simp, hfree⟩

end SchemaScribe.Text
