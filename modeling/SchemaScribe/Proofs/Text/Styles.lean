import Mathlib.Data.List.Chain
import SchemaScribe.Proofs.Text.Content

/-!
# The styles of names

Every style keeps the content of a name. Two of them also show where its words end: a name in small letters is
words of small letters and digits with one separator between neighbours (`InWords`). Written that way, a name can be
read again: a rule cuts the text at the separators and nowhere else (`pieces_intercalate`), because the words are
pieces that the rule does not cut (`Whole`). So these styles settle after one step.
-/

namespace SchemaScribe.Text

variable {starts : Char → Char → Option Char → Bool}

/-! ## Small letters and digits -/

theorem content_kebabChars (s : List Char) : content (kebabChars s) = content s := by
  unfold kebabChars
  rw [content_intercalate (by decide), content_flatten_map content_lowerPiece, content_pieces]

@[simp] theorem isDigit_toLower (c : Char) : c.toLower.isDigit = c.isDigit := by
  have hdigit : ∀ d : Char, d.isDigit = true ↔ 48 ≤ d.toNat ∧ d.toNat ≤ 57 := fun _ => Char.isDigit_iff_toNat
  rw [Bool.eq_iff_iff, hdigit, hdigit, toNat_toLower]
  split_ifs <;> omega

theorem isUpper_toLower (c : Char) : c.toLower.isUpper = false := by
  have hupper : c.toLower.isUpper = true ↔ 65 ≤ c.toLower.toNat ∧ c.toLower.toNat ≤ 90 := by
    unfold Char.isUpper
    rw [decide_eq_true_eq]
    exact Iff.rfl
  rw [Bool.eq_false_iff, ne_eq, hupper, toNat_toLower]
  split_ifs <;> omega

/-- The small form of a letter or digit is a small letter or a digit. -/
theorem isLower_or_isDigit_toLower {c : Char} (h : c.isAlphanum = true) :
    c.toLower.isLower = true ∨ c.toLower.isDigit = true := by
  have hcases : (c.toLower.isUpper || c.toLower.isLower || c.toLower.isDigit) = true := by
    rw [← isAlphanum_toLower] at h
    exact h
  rwa [isUpper_toLower, Bool.false_or, Bool.or_eq_true] at hcases

/-! ## Pieces -/

/-- No piece is empty, and a rule does not start anything inside a piece. -/
theorem cut_parts (s : List Char) : ∀ piece ∈ cut starts s,
    piece ≠ [] ∧ piece.IsChain fun c d => ∃ next, starts c d next = false := by
  induction s with
  | nil => exact List.forall_mem_nil _
  | cons c s ih =>
    have hsingle : [c] ≠ [] ∧ [c].IsChain fun c d => ∃ next, starts c d next = false :=
      ⟨List.cons_ne_nil c [], List.isChain_singleton c⟩
    cases s with
    | nil => exact List.forall_mem_singleton.mpr hsingle
    | cons d rest =>
      obtain ⟨piece, pieces, hcut⟩ := exists_cut_cons starts d rest
      rw [hcut] at ih
      obtain ⟨⟨_, hfirst⟩, hmore⟩ := List.forall_mem_cons.mp ih
      rw [cut, hcut]
      dsimp only
      split
      · exact List.forall_mem_cons.mpr ⟨hsingle, ih⟩
      · next hjoined =>
        refine List.forall_mem_cons.mpr ⟨⟨List.cons_ne_nil c _, ?_⟩, hmore⟩
        exact hfirst.cons_cons ⟨rest.head?, Bool.eq_false_iff.mpr hjoined⟩

/-- A text is cut behind a part in which nothing starts if something starts at what follows. -/
theorem cut_append {piece rest : List Char} (hne : piece ≠ [])
    (hjoined : piece.IsChain fun c d => ∀ next, starts c d next = false)
    (hrest : ∀ c ∈ piece, ∀ d ∈ rest.head?, ∀ next, starts c d next = true) :
    cut starts (piece ++ rest) = piece :: cut starts rest := by
  induction piece with
  | nil => exact absurd rfl hne
  | cons c piece ih =>
    cases piece with
    | nil =>
      cases rest with
      | nil => rfl
      | cons d rest =>
        obtain ⟨first, more, hcut⟩ := exists_cut_cons starts d rest
        rw [List.singleton_append, cut, hcut]
        dsimp only
        rw [if_pos (hrest c List.mem_cons_self d rfl _)]
    | cons d piece =>
      obtain ⟨hcd, htail⟩ := List.isChain_cons_cons.mp hjoined
      have hmore := ih (List.cons_ne_nil d piece) htail fun c hc => hrest c (List.mem_cons_of_mem _ hc)
      rw [List.cons_append, List.cons_append, cut, ← List.cons_append, hmore]
      dsimp only
      rw [if_neg (Bool.eq_false_iff.mp (hcd _))]

/-- **A whole piece**: letters and digits among which a rule starts nothing. -/
structure Whole (starts : Char → Char → Option Char → Bool) (piece : List Char) : Prop where
  ne_nil : piece ≠ []
  alphanum : ∀ c ∈ piece, c.isAlphanum = true
  joined : piece.IsChain fun c d => ∀ next, starts c d next = false

theorem Whole.pieces_append {piece : List Char} (h : Whole starts piece) {rest : List Char}
    (hrest : ∀ d ∈ rest.head?, d.isAlphanum = false) :
    pieces starts (piece ++ rest) = piece :: pieces starts rest := by
  have hall : piece.all Char.isAlphanum = true := List.all_eq_true.mpr h.alphanum
  unfold pieces
  rw [cut_append h.ne_nil ?joined ?rest, List.filter_cons, if_pos hall]
  case joined =>
    refine h.joined.imp_of_mem_imp fun c d hc hd hcd next => ?_
    rw [h.alphanum c hc, h.alphanum d hd, hcd next]
    rfl
  case rest =>
    intro c _ d hd next
    rw [hrest d hd, Bool.not_false, Bool.or_true, Bool.true_or]

theorem pieces_cons_separator {separator : Char} (h : separator.isAlphanum = false) (s : List Char) :
    pieces starts (separator :: s) = pieces starts s := by
  have hall : ¬ [separator].all Char.isAlphanum = true := by
    rw [List.all_cons, h]
    exact Bool.false_ne_true
  unfold pieces
  rw [← List.singleton_append, cut_append (List.cons_ne_nil separator []) (List.isChain_singleton separator),
    List.filter_cons, if_neg hall]
  intro c hc d _ next
  rw [List.mem_singleton.mp hc, h, Bool.not_false, Bool.true_or, Bool.true_or]

/-- **Joined pieces are cut apart again**, where they were joined and nowhere else. -/
theorem pieces_intercalate {separator : Char} (hseparator : separator.isAlphanum = false)
    {words : List (List Char)} (h : ∀ word ∈ words, Whole starts word) :
    pieces starts ([separator].intercalate words) = words := by
  induction words with
  | nil => rfl
  | cons word words ih =>
    obtain ⟨hword, hwords⟩ := List.forall_mem_cons.mp h
    cases words with
    | nil =>
      rw [List.intercalate_singleton, ← List.append_nil word, hword.pieces_append (by exact nofun),
        List.append_nil]
      rfl
    | cons next more =>
      rw [List.intercalate_cons_cons, List.append_assoc, List.singleton_append,
        hword.pieces_append, pieces_cons_separator hseparator, ih hwords]
      rintro d ⟨⟩
      exact hseparator

/-! ## Words -/

/-- **A name in words**: runs of small letters and digits, none of them empty, with one separator between
neighbours. The empty text has no words. -/
def InWords (separator : Char) (s : List Char) : Prop :=
  ∃ words : List (List Char),
    (∀ word ∈ words, word ≠ [] ∧ ∀ c ∈ word, c.isLower = true ∨ c.isDigit = true) ∧
      s = [separator].intercalate words

/-- The words that pieces become. -/
theorem mem_lowerPieces {s word : List Char} (h : word ∈ (pieces starts s).map lowerPiece) :
    ∃ piece, word = lowerPiece piece ∧ piece ≠ [] ∧ (∀ c ∈ piece, c.isAlphanum = true) ∧
      piece.IsChain fun c d => ∃ next, starts c d next = false := by
  obtain ⟨piece, hpiece, rfl⟩ := List.mem_map.mp h
  obtain ⟨hcut, hall⟩ := List.mem_filter.mp hpiece
  obtain ⟨hne, hchain⟩ := cut_parts s piece hcut
  refine ⟨piece, rfl, hne, List.all_eq_true.mp hall, hchain.imp fun c d ⟨next, hnext⟩ => ⟨next, ?_⟩⟩
  exact (Bool.or_eq_false_iff.mp hnext).2

/-- Lower-cased pieces are words. -/
theorem inWords_pieces (separator : Char) (s : List Char) :
    InWords separator ([separator].intercalate ((pieces starts s).map lowerPiece)) := by
  refine ⟨(pieces starts s).map lowerPiece, fun word hword => ?_, rfl⟩
  obtain ⟨piece, rfl, hne, halphanum, _⟩ := mem_lowerPieces hword
  refine ⟨fun hnil => hne (List.map_eq_nil_iff.mp hnil), List.forall_mem_map.mpr fun c hc => ?_⟩
  exact isLower_or_isDigit_toLower (halphanum c hc)

/-- Pieces stay as they are if a rule that starts nothing between two characters starts nothing between their
small forms. -/
theorem whole_lowerPiece
    (hstarts : ∀ c d, (∃ next, starts c d next = false) → ∀ next, starts c.toLower d.toLower next = false)
    (s : List Char) : ∀ word ∈ (pieces starts s).map lowerPiece, Whole starts word := by
  intro word hword
  obtain ⟨piece, rfl, hne, halphanum, hchain⟩ := mem_lowerPieces hword
  refine ⟨fun hnil => hne (List.map_eq_nil_iff.mp hnil), List.forall_mem_map.mpr fun c hc => ?_, ?_⟩
  · rw [isAlphanum_toLower]
    exact halphanum c hc
  · exact (List.isChain_map Char.toLower).mpr (hchain.imp hstarts)

theorem lowerPiece_lowerPiece (piece : List Char) : lowerPiece (lowerPiece piece) = lowerPiece piece := by
  unfold lowerPiece
  rw [List.map_map]
  exact List.map_congr_left fun c _ => toLower_toLower c

/-- **Joined lower-cased pieces settle**: cutting, lower-casing and joining them again changes nothing. -/
theorem join_pieces_again {separator : Char} (hseparator : separator.isAlphanum = false)
    (hstarts : ∀ c d, (∃ next, starts c d next = false) → ∀ next, starts c.toLower d.toLower next = false)
    (s : List Char) :
    [separator].intercalate
        ((pieces starts ([separator].intercalate ((pieces starts s).map lowerPiece))).map lowerPiece) =
      [separator].intercalate ((pieces starts s).map lowerPiece) := by
  rw [pieces_intercalate hseparator (whole_lowerPiece hstarts s), List.map_map]
  exact congrArg _ (List.map_congr_left fun piece _ => lowerPiece_lowerPiece piece)

/-- No hump starts at a small letter. -/
theorem startsHump_toLower (before c : Char) (next : Option Char) : startsHump before c.toLower next = false := by
  unfold startsHump
  rw [isUpper_toLower, Bool.false_and]

/-- Between small forms words start only where digits meet letters. -/
theorem startsWord_toLower {c d : Char} (h : ∃ next, startsWord c d next = false) (next : Option Char) :
    startsWord c.toLower d.toLower next = false := by
  obtain ⟨_, hnext⟩ := h
  unfold startsWord at hnext ⊢
  rw [startsHump_toLower, isDigit_toLower, isDigit_toLower, Bool.false_or]
  exact (Bool.or_eq_false_iff.mp hnext).2

theorem snakeChars_snakeChars (s : List Char) : snakeChars (snakeChars s) = snakeChars s :=
  join_pieces_again rfl (fun c d _ => startsHump_toLower c.toLower d) s

theorem kebabChars_kebabChars (s : List Char) : kebabChars (kebabChars s) = kebabChars s :=
  join_pieces_again rfl (fun _ _ h => startsWord_toLower h) s

/-- **Styles neither lose nor invent characters.** Every style keeps the letters and digits of a name, in their
order and up to case. The two styles in small letters are words with one separator between neighbours, and a
name in such a style stays as it is. -/
theorem styles_keepContent (name : String) :
    (content (toSnake name).toList = content name.toList ∧ content (toKebab name).toList = content name.toList ∧
      content (toCamel name).toList = content name.toList ∧
      content (toPascal name).toList = content name.toList) ∧
    InWords '_' (toSnake name).toList ∧ InWords '-' (toKebab name).toList ∧
    toSnake (toSnake name) = toSnake name ∧ toKebab (toKebab name) = toKebab name := by
  unfold toSnake toKebab toCamel toPascal
  simp only [String.toList_ofList]
  refine ⟨⟨content_snakeChars _, content_kebabChars _, content_camelChars _, content_pascalChars _⟩, ?_⟩
  refine ⟨inWords_pieces '_' name.toList, inWords_pieces '-' name.toList, ?_⟩
  rw [snakeChars_snakeChars, kebabChars_kebabChars]
  exact ⟨rfl, rfl⟩

-- only one of the two rules parts digits from letters
example : toSnake "getHTTPResponse2" = "get_http_response2" ∧
    toKebab "getHTTPResponse2" = "get-http-response-2" := by
  decide

end SchemaScribe.Text
