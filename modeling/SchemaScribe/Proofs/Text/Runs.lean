import SchemaScribe.Proofs.Text.Content

/-!
# Which texts become one identifier

An identifier keeps the runs of letters and digits of its text (`runs`) and puts one underscore wherever
something else stood. What stood there is lost: how much of it there was, and which characters. So an
identifier that ends in a letter or digit is told by its runs and by whether an underscore comes first
(`eq_intercalate_runs`).
-/

namespace SchemaScribe.Text

/-- **The runs of a text**: its longest pieces of letters and digits. -/
def runs : List Char → List (List Char)
  | [] => []
  | c :: s =>
    if c.isAlphanum then
      if s.head?.any Char.isAlphanum then (runs s).modifyHead (c :: ·) else [c] :: runs s
    else runs s

theorem runs_cons_of_not {c : Char} (h : c.isAlphanum = false) (s : List Char) : runs (c :: s) = runs s := by
  rw [runs, if_neg (by rw [h]; exact Bool.false_ne_true)]

/-- A text that begins with a letter or digit has a run. -/
theorem exists_runs_cons {s : List Char} (h : s.head?.any Char.isAlphanum = true) :
    ∃ run more, runs s = run :: more := by
  induction s with
  | nil => cases h
  | cons c s ih =>
    have hc : c.isAlphanum = true := h
    rw [runs, if_pos hc]
    split
    · next hnext =>
      obtain ⟨run, more, hruns⟩ := ih hnext
      exact ⟨c :: run, more, by rw [hruns]; rfl⟩
    · exact ⟨[c], runs s, rfl⟩

/-- Runs do not go on over a separator. -/
theorem runs_append_cons {separator : Char} (h : separator.isAlphanum = false) (s t : List Char) :
    runs (s ++ separator :: t) = runs s ++ runs t := by
  induction s with
  | nil => exact runs_cons_of_not h t
  | cons c s ih =>
    have hhead : (s ++ separator :: t).head?.any Char.isAlphanum = s.head?.any Char.isAlphanum := by
      cases s with
      | nil => exact h
      | cons d s => rfl
    rw [List.cons_append, runs, runs, hhead, ih]
    split
    · split
      · next hnext =>
        obtain ⟨run, more, hruns⟩ := exists_runs_cons hnext
        rw [hruns]
        rfl
      · rfl
    · rfl

/-! ## Identifiers -/

theorem head?_underscored (s : List Char) :
    (underscored s).head?.any Char.isAlphanum = s.head?.any Char.isAlphanum := by
  cases s with
  | nil => rfl
  | cons c s =>
    show (if isIdentifierChar c then c else '_').isAlphanum = c.isAlphanum
    split
    · rfl
    · next h =>
      rw [isIdentifierChar, Bool.or_eq_true, not_or, Bool.not_eq_true] at h
      rw [h.1]
      rfl

theorem runs_underscored (s : List Char) : runs (underscored s) = runs s := by
  induction s with
  | nil => rfl
  | cons c s ih =>
    have hcons : underscored (c :: s) = (if isIdentifierChar c then c else '_') :: underscored s := rfl
    rw [hcons]
    split
    · rw [runs, runs, ih, head?_underscored]
    · next h =>
      rw [isIdentifierChar, Bool.or_eq_true, not_or, Bool.not_eq_true] at h
      rw [runs_cons_of_not (by decide), runs_cons_of_not h.1, ih]

theorem runs_squeeze : ∀ s : List Char, runs (squeeze s) = runs s
  | [] => rfl
  | c :: rest => by
    unfold squeeze
    split
    · next h =>
      have hc : c = '_' := of_decide_eq_true (Bool.and_eq_true_iff.mp h).1
      rw [runs_squeeze rest, hc, runs_cons_of_not (by decide)]
    · rw [runs, runs, runs_squeeze rest, head?_squeeze]

theorem runs_guardDigit (s : List Char) : runs (guardDigit s) = runs s := by
  cases s with
  | nil => rfl
  | cons c rest =>
    rw [guardDigit_cons]
    split
    · exact runs_cons_of_not (by decide) _
    · rfl

theorem runs_guardKeyword (s : List Char) : runs (guardKeyword s) = runs s := by
  unfold guardKeyword
  split
  · rw [runs_append_cons (by decide), runs, List.append_nil]
  · rfl

/-- **An identifier has the runs of its text**, unless the text has none. -/
theorem runs_identifierChars {s : List Char} (h : content s ≠ []) : runs (identifierChars s) = runs s := by
  unfold identifierChars
  dsimp only
  rw [if_neg (not_all_underscore h), runs_guardKeyword, runs_guardDigit, runs_squeeze, runs_underscored]

/-- An identifier begins with a letter if and only if its text does. -/
theorem head?_identifierChars {s : List Char} (h : content s ≠ []) :
    (identifierChars s).head?.any Char.isAlpha = s.head?.any Char.isAlpha := by
  have hdigit : ∀ t : List Char, (guardDigit t).head?.any Char.isAlpha = t.head?.any Char.isAlpha := by
    intro t
    cases t with
    | nil => rfl
    | cons c rest =>
      rw [guardDigit_cons]
      split
      · next hdigit => exact (isAlpha_of_isDigit hdigit).symm
      · rfl
  have hkeyword : ∀ t : List Char, (guardKeyword t).head?.any Char.isAlpha = t.head?.any Char.isAlpha := by
    intro t
    unfold guardKeyword
    split
    · cases t with
      | nil => rfl
      | cons c rest => rfl
    · rfl
  have hunderscored : (underscored s).head?.any Char.isAlpha = s.head?.any Char.isAlpha := by
    cases s with
    | nil => rfl
    | cons c s =>
      show (if isIdentifierChar c then c else '_').isAlpha = c.isAlpha
      split
      · rfl
      · next hc =>
        rw [isIdentifierChar, Char.isAlphanum, Bool.or_eq_true, Bool.or_eq_true, not_or, not_or,
          Bool.not_eq_true] at hc
        rw [hc.1.1]
        rfl
  unfold identifierChars
  dsimp only
  rw [if_neg (not_all_underscore h), hkeyword, hdigit, head?_squeeze, hunderscored]

/-- **An identifier is told by its runs** and by whether an underscore comes first, if a letter or digit comes
last. -/
theorem eq_intercalate_runs {s : List Char} (hchars : ∀ c ∈ s, c.isAlphanum = true ∨ c = '_')
    (happart : s.IsChain Apart) (hlast : s.getLast?.any Char.isAlphanum = true) :
    s = (if s.head? = some '_' then ['_'] else []) ++ ['_'].intercalate (runs s) := by
  induction s with
  | nil => cases hlast
  | cons c s ih =>
    cases s with
    | nil =>
      have hc : c.isAlphanum = true := hlast
      have hne : c ≠ '_' := by
        rintro rfl
        cases hc
      rw [runs, if_pos hc, if_neg (by simpa using hne)]
      rfl
    | cons d rest =>
      obtain ⟨hc, hrest⟩ := List.forall_mem_cons.mp hchars
      obtain ⟨hnext, hchain⟩ := List.isChain_cons_cons.mp happart
      rw [List.getLast?_cons_cons] at hlast
      have hself := ih hrest hchain hlast
      rcases hc with hc | rfl
      · have hne : c ≠ '_' := by
          rintro rfl
          cases hc
        rw [if_neg (by simpa using hne), List.nil_append, runs, if_pos hc]
        rcases hrest d List.mem_cons_self with hd | rfl
        · -- the first run goes on
          have hnot : d ≠ '_' := by
            rintro rfl
            cases hd
          obtain ⟨run, more, hruns⟩ := exists_runs_cons (s := d :: rest) hd
          have hhead : (d :: rest).head?.any Char.isAlphanum = true := hd
          rw [if_neg (by simpa using hnot), List.nil_append, hruns] at hself
          rw [if_pos hhead, hruns, List.modifyHead_cons, hself]
          cases more with
          | nil => rfl
          | cons next more => rfl
        · -- the first run ends here, and there is another one behind the underscore
          rw [List.head?_cons, if_pos rfl] at hself
          have hhead : ¬ ('_' :: rest).head?.any Char.isAlphanum = true := Bool.false_ne_true
          rw [if_neg hhead]
          cases hruns : runs ('_' :: rest) with
          | nil =>
            rw [hruns] at hself
            rw [hself] at hlast
            cases hlast
          | cons run more =>
            rw [List.intercalate_cons_cons, ← hruns, List.append_assoc, ← hself]
            rfl
      · have hd : d ≠ '_' := fun hd => hnext ⟨rfl, hd⟩
        rw [if_neg (by simpa using hd), List.nil_append] at hself
        rw [List.head?_cons, if_pos rfl, runs_cons_of_not (by decide), ← hself]
        rfl

end SchemaScribe.Text
