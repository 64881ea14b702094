import Mathlib.Data.List.Basic
import Mathlib.Tactic.SplitIfs
import SchemaScribe.Proofs.Text.Identifier
import SchemaScribe.Text.Words

/-!
# What naming keeps of a text

Styles and identifiers change separators and case, and nothing else: the letters and digits of a text, in
small letters (`content`), are the same before and after. Only a text without any becomes something else, for
an identifier needs a character. So names that fall together under any style have one content.
-/

namespace SchemaScribe.Text

/-! ## Case of ASCII letters -/

theorem toNat_toLower (c : Char) :
    c.toLower.toNat = if 65 ≤ c.toNat ∧ c.toNat ≤ 90 then c.toNat + 32 else c.toNat := by
  have hcapital : (c.val ≥ 'A'.val ∧ c.val ≤ 'Z'.val) ↔ (65 ≤ c.toNat ∧ c.toNat ≤ 90) := Iff.rfl
  unfold Char.toLower
  split
  · next h =>
    rw [if_pos (hcapital.mp h)]
    have hle : c.val.toNat ≤ 90 := (hcapital.mp h).2
    show (c.val + ('a'.val - 'A'.val)).toNat = c.val.toNat + 32
    rw [UInt32.toNat_add]
    show (c.val.toNat + 32) % 2 ^ 32 = _
    omega
  · next h => rw [if_neg fun h' => h (hcapital.mpr h')]

theorem toNat_toUpper (c : Char) :
    c.toUpper.toNat = if 97 ≤ c.toNat ∧ c.toNat ≤ 122 then c.toNat - 32 else c.toNat := by
  have hsmall : ('a'.val ≤ c.val ∧ c.val ≤ 'z'.val) ↔ (97 ≤ c.toNat ∧ c.toNat ≤ 122) := Iff.rfl
  unfold Char.toUpper
  split
  · next h =>
    rw [if_pos (hsmall.mp h)]
    obtain ⟨hge, hle⟩ : 97 ≤ c.val.toNat ∧ c.val.toNat ≤ 122 := hsmall.mp h
    show (c.val + ('A'.val - 'a'.val)).toNat = c.val.toNat - 32
    rw [UInt32.toNat_add]
    -- subtracting is adding what is missing to the next multiple of the modulus
    show (c.val.toNat + 4294967264) % 2 ^ 32 = _
    omega
  · next h => rw [if_neg fun h' => h (hsmall.mpr h')]

theorem isAlphanum_iff {c : Char} : c.isAlphanum = true ↔
    (65 ≤ c.toNat ∧ c.toNat ≤ 90) ∨ (97 ≤ c.toNat ∧ c.toNat ≤ 122) ∨ (48 ≤ c.toNat ∧ c.toNat ≤ 57) := by
  have hupper : c.isUpper = true ↔ 65 ≤ c.toNat ∧ c.toNat ≤ 90 := by
    unfold Char.isUpper
    rw [decide_eq_true_eq]
    exact Iff.rfl
  have hlower : c.isLower = true ↔ 97 ≤ c.toNat ∧ c.toNat ≤ 122 := by
    unfold Char.isLower
    rw [Bool.and_eq_true, decide_eq_true_eq, decide_eq_true_eq]
    exact Iff.rfl
  have hdigit : c.isDigit = true ↔ 48 ≤ c.toNat ∧ c.toNat ≤ 57 := Char.isDigit_iff_toNat
  unfold Char.isAlphanum Char.isAlpha
  rw [Bool.or_eq_true, Bool.or_eq_true, hupper, hlower, hdigit, or_assoc]

@[simp] theorem isAlphanum_toLower (c : Char) : c.toLower.isAlphanum = c.isAlphanum := by
  rw [Bool.eq_iff_iff, isAlphanum_iff, isAlphanum_iff, toNat_toLower]
  split_ifs <;> omega

@[simp] theorem isAlphanum_toUpper (c : Char) : c.toUpper.isAlphanum = c.isAlphanum := by
  rw [Bool.eq_iff_iff, isAlphanum_iff, isAlphanum_iff, toNat_toUpper]
  split_ifs <;> omega

@[simp] theorem toLower_toLower (c : Char) : c.toLower.toLower = c.toLower := by
  apply Char.toNat_inj.mp
  rw [toNat_toLower c.toLower, toNat_toLower]
  split_ifs <;> omega

@[simp] theorem toLower_toUpper (c : Char) : c.toUpper.toLower = c.toLower := by
  apply Char.toNat_inj.mp
  rw [toNat_toLower c.toUpper, toNat_toLower, toNat_toUpper]
  split_ifs <;> omega

theorem isAlphanum_of_isDigit {c : Char} (h : c.isDigit = true) : c.isAlphanum = true := by
  unfold Char.isAlphanum
  rw [h, Bool.or_true]

theorem toLower_of_isDigit {c : Char} (h : c.isDigit = true) : c.toLower = c := by
  have hdigit : 48 ≤ c.toNat ∧ c.toNat ≤ 57 := Char.isDigit_iff_toNat.mp h
  apply Char.toNat_inj.mp
  rw [toNat_toLower, if_neg (by omega)]

/-! ## Content -/

/-- **The content of a text**: its letters and digits, in small letters. -/
def content (s : List Char) : List Char := (s.filter Char.isAlphanum).map Char.toLower

@[simp] theorem content_nil : content [] = [] := rfl

theorem content_cons (c : Char) (s : List Char) :
    content (c :: s) = if c.isAlphanum then c.toLower :: content s else content s := by
  unfold content
  rw [List.filter_cons]
  split <;> rfl

@[simp] theorem content_append (s t : List Char) : content (s ++ t) = content s ++ content t := by
  unfold content
  rw [List.filter_append, List.map_append]

theorem content_cons_of_not {c : Char} (h : c.isAlphanum = false) (s : List Char) :
    content (c :: s) = content s := by
  rw [content_cons, if_neg (by rw [h]; exact Bool.false_ne_true)]

/-- Characters can be replaced by others of the same content. -/
theorem content_map {f : Char → Char} (halphanum : ∀ c, (f c).isAlphanum = c.isAlphanum)
    (hlower : ∀ c, (f c).toLower = c.toLower) (s : List Char) : content (s.map f) = content s := by
  induction s with
  | nil => rfl
  | cons c s ih => rw [List.map_cons, content_cons, content_cons, halphanum, hlower, ih]

/-- Digits are their own content. -/
theorem content_of_isDigit {s : List Char} (h : ∀ c ∈ s, c.isDigit = true) : content s = s := by
  induction s with
  | nil => rfl
  | cons c s ih =>
    obtain ⟨hc, hs⟩ := List.forall_mem_cons.mp h
    rw [content_cons, if_pos (isAlphanum_of_isDigit hc), toLower_of_isDigit hc, ih hs]

theorem content_eq_nil_iff {s : List Char} : content s = [] ↔ ∀ c ∈ s, c.isAlphanum = false := by
  unfold content
  rw [List.map_eq_nil_iff, List.filter_eq_nil_iff]
  simp only [Bool.not_eq_true]

/-! ## Styles -/

/-- The first piece of a cut text begins as the text does. -/
theorem exists_cut_cons (starts : Char → Char → Option Char → Bool) (c : Char) (s : List Char) :
    ∃ piece pieces, cut starts (c :: s) = (c :: piece) :: pieces := by
  cases s with
  | nil => exact ⟨[], [], rfl⟩
  | cons d rest =>
    simp only [cut]
    split
    · exact ⟨[], [], rfl⟩
    · next piece pieces _ =>
      split
      · exact ⟨[], piece :: pieces, rfl⟩
      · exact ⟨piece, pieces, rfl⟩

/-- Where a text is cut around every separator, a piece holds letters and digits only or is a separator. -/
theorem cut_pieces {starts : Char → Char → Option Char → Bool}
    (hstarts : ∀ c d next, c.isAlphanum = false ∨ d.isAlphanum = false → starts c d next = true)
    (s : List Char) : ∀ piece ∈ cut starts s, piece.all Char.isAlphanum = true ∨ content piece = [] := by
  induction s with
  | nil => exact List.forall_mem_nil _
  | cons c s ih =>
    have hsingle : ∀ c : Char, [c].all Char.isAlphanum = true ∨ content [c] = [] := by
      intro c
      cases hc : c.isAlphanum with
      | true => exact .inl (by simp [hc])
      | false => exact .inr (content_cons_of_not hc [])
    cases s with
    | nil => exact List.forall_mem_singleton.mpr (hsingle c)
    | cons d rest =>
      obtain ⟨piece, pieces, hcut⟩ := exists_cut_cons starts d rest
      rw [hcut] at ih
      obtain ⟨hfirst, hmore⟩ := List.forall_mem_cons.mp ih
      rw [cut, hcut]
      dsimp only
      split
      · exact List.forall_mem_cons.mpr ⟨hsingle c, ih⟩
      · next hjoined =>
        -- the text is not cut between two characters only if both are letters or digits
        have hc : c.isAlphanum = true := by
          by_contra hc
          exact hjoined (hstarts _ _ _ (.inl (Bool.eq_false_iff.mpr hc)))
        have hd : d.isAlphanum = true := by
          by_contra hd
          exact hjoined (hstarts _ _ _ (.inr (Bool.eq_false_iff.mpr hd)))
        refine List.forall_mem_cons.mpr ⟨.inl ?_, hmore⟩
        rcases hfirst with hfirst | hfirst
        · rw [List.all_cons, hc, hfirst]
          rfl
        · rw [content_cons, if_pos hd] at hfirst
          cases hfirst

theorem content_flatten_filter {pieces : List (List Char)}
    (h : ∀ piece ∈ pieces, piece.all Char.isAlphanum = true ∨ content piece = []) :
    content (pieces.filter (·.all Char.isAlphanum)).flatten = content pieces.flatten := by
  induction pieces with
  | nil => rfl
  | cons piece rest ih =>
    obtain ⟨hpiece, hrest⟩ := List.forall_mem_cons.mp h
    rw [List.flatten_cons, content_append, ← ih hrest, List.filter_cons]
    split
    · rw [List.flatten_cons, content_append]
    · next hnot => rw [hpiece.resolve_left hnot, List.nil_append]

/-- **The pieces of a text have its content.** -/
theorem content_pieces (starts : Char → Char → Option Char → Bool) (s : List Char) :
    content (pieces starts s).flatten = content s := by
  unfold pieces
  rw [content_flatten_filter, flatten_cut]
  refine cut_pieces (fun c d next h => ?_) s
  rcases h with h | h
  · rw [h, Bool.not_false, Bool.true_or, Bool.true_or]
  · rw [h, Bool.not_false, Bool.or_true, Bool.true_or]

theorem content_lowerPiece (piece : List Char) : content (lowerPiece piece) = content piece :=
  content_map isAlphanum_toLower toLower_toLower piece

theorem content_capitalise (piece : List Char) : content (capitalise piece) = content piece := by
  cases piece with
  | nil => rfl
  | cons c rest =>
    rw [capitalise, content_cons, content_cons, isAlphanum_toUpper, toLower_toUpper, content_lowerPiece]

/-- Pieces can be changed one by one if each keeps its content. -/
theorem content_flatten_map {f : List Char → List Char} (h : ∀ piece, content (f piece) = content piece)
    (pieces : List (List Char)) : content (pieces.map f).flatten = content pieces.flatten := by
  induction pieces with
  | nil => rfl
  | cons piece rest ih =>
    rw [List.map_cons, List.flatten_cons, List.flatten_cons, content_append, content_append, h, ih]

/-- Separators between pieces are no content. -/
theorem content_intercalate {separator : Char} (h : separator.isAlphanum = false)
    (pieces : List (List Char)) : content ([separator].intercalate pieces) = content pieces.flatten := by
  induction pieces with
  | nil => rfl
  | cons piece rest ih =>
    cases rest with
    | nil => rw [List.intercalate_singleton, List.flatten_singleton]
    | cons next more =>
      rw [List.intercalate_cons_cons, List.append_assoc, List.singleton_append, content_append,
        content_cons_of_not h, ih, ← content_append]
      rfl

theorem content_snakeChars (s : List Char) : content (snakeChars s) = content s := by
  unfold snakeChars
  rw [content_intercalate (by decide), content_flatten_map content_lowerPiece, content_pieces]

theorem content_pascalChars (s : List Char) : content (pascalChars s) = content s := by
  unfold pascalChars
  rw [content_flatten_map content_capitalise, content_pieces]

theorem content_camelChars (s : List Char) : content (camelChars s) = content s := by
  rw [← content_pieces startsWord s]
  unfold camelChars
  cases pieces startsWord s with
  | nil => rfl
  | cons first rest =>
    dsimp only
    rw [content_append, content_lowerPiece, content_flatten_map content_capitalise, List.flatten_cons,
      content_append]

/-! ## Identifiers -/

theorem content_underscored (s : List Char) : content (underscored s) = content s := by
  unfold underscored
  induction s with
  | nil => rfl
  | cons c s ih =>
    rw [List.map_cons]
    split
    · rw [content_cons, content_cons, ih]
    · next h =>
      have hc : c.isAlphanum = false := by
        rw [isIdentifierChar, Bool.or_eq_true, not_or, Bool.not_eq_true] at h
        exact h.1
      rw [content_cons_of_not hc, content_cons_of_not (by decide), ih]

theorem content_squeeze : ∀ s : List Char, content (squeeze s) = content s
  | [] => rfl
  | c :: rest => by
    unfold squeeze
    split
    · next h =>
      have hc : c = '_' := of_decide_eq_true (Bool.and_eq_true_iff.mp h).1
      rw [content_squeeze rest, hc, content_cons_of_not (by decide)]
    · rw [content_cons, content_cons, content_squeeze rest]

theorem content_guardDigit (s : List Char) : content (guardDigit s) = content s := by
  cases s with
  | nil => rfl
  | cons c rest =>
    rw [guardDigit_cons]
    split
    · exact content_cons_of_not (by decide) _
    · rfl

theorem content_guardKeyword (s : List Char) : content (guardKeyword s) = content s := by
  unfold guardKeyword
  split
  · rw [content_append, content_cons_of_not (by decide), content_nil, List.append_nil]
  · rfl

/-- A text with letters or digits does not become underscores alone. -/
theorem not_all_underscore {s : List Char} (h : content s ≠ []) :
    ¬ (squeeze (underscored s)).all (· = '_') = true := by
  intro hall
  refine h ?_
  rw [← content_underscored, ← content_squeeze, content_eq_nil_iff]
  intro c hc
  rw [of_decide_eq_true (List.all_eq_true.mp hall c hc)]
  decide

/-- **An identifier has the content of its text**, unless the text has none. -/
theorem content_identifierChars {s : List Char} (h : content s ≠ []) :
    content (identifierChars s) = content s := by
  unfold identifierChars
  dsimp only
  rw [if_neg (not_all_underscore h), content_guardKeyword, content_guardDigit, content_squeeze,
    content_underscored]

/-- Every identifier has a content, if need be one of its own. -/
theorem content_identifierChars_ne_nil (s : List Char) : content (identifierChars s) ≠ [] := by
  by_cases h : content s = []
  · -- then nothing but underscores is left of the text
    have hbody : (squeeze (underscored s)).all (· = '_') = true := by
      rw [List.all_eq_true]
      intro c hc
      have hchar := underscored_characters s c ((squeeze_sublist _).subset hc)
      rw [← content_underscored, ← content_squeeze, content_eq_nil_iff] at h
      rw [h c hc] at hchar
      exact decide_eq_true (hchar.resolve_left Bool.false_ne_true)
    unfold identifierChars
    dsimp only
    rw [if_pos hbody]
    decide
  · rw [content_identifierChars h]
    exact h

end SchemaScribe.Text
