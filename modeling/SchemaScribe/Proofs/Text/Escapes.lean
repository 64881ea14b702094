import Mathlib.Algebra.Group.Nat.Defs
import SchemaScribe.Proofs.Text.Reading

/-!
# Literals are read back

What a literal says can be read off it: behind its first character, which is its quote, each character of the
text is written so that it and what follows are known from the writing (`unescape_literalChar`). So different
texts have different literals (`literal_injective`).
-/

namespace SchemaScribe.Text

/-! ## Hexadecimal places -/

/-- The number that some hexadecimal places are of. -/
def hexNumber (places : List Char) : Nat :=
  places.foldl (fun n c => 16 * n + "0123456789abcdef".toList.idxOf c) 0

theorem idxOf_hexDigit {n : Nat} (h : n < 16) : "0123456789abcdef".toList.idxOf (hexDigit n) = n := by
  have hall : ∀ n ∈ List.range 16, "0123456789abcdef".toList.idxOf (hexDigit n) = n := by decide
  exact hall n (List.mem_range.mpr h)

theorem length_hexPlaces (width n : Nat) : (hexPlaces width n).length = width := by
  induction width generalizing n with
  | zero => rfl
  | succ width ih => rw [hexPlaces, List.length_append, ih, List.length_singleton]

/-- Places that are many enough tell the number. -/
theorem hexNumber_hexPlaces {width n : Nat} (h : n < 16 ^ width) : hexNumber (hexPlaces width n) = n := by
  induction width generalizing n with
  | zero =>
    rw [Nat.pow_zero, Nat.lt_one_iff] at h
    rw [h]
    rfl
  | succ width ih =>
    have hfront : n / 16 < 16 ^ width := by
      rw [Nat.pow_succ] at h
      exact Nat.div_lt_of_lt_mul (by rwa [Nat.mul_comm] at h)
    have hlast : n % 16 < 16 := Nat.mod_lt n (by decide)
    have hrun := ih hfront
    unfold hexNumber at hrun ⊢
    rw [hexPlaces, List.foldl_append, hrun, List.foldl_cons, List.foldl_nil, idxOf_hexDigit hlast]
    omega

/-! ## One character -/

/-- The character that is written in some places, with what is left behind them. -/
def unescapePlaces (width : Nat) (s : List Char) : Char × List Char :=
  (Char.ofNat (hexNumber (s.take width)), s.drop width)

theorem unescapePlaces_hexPlaces {width : Nat} {c : Char} (h : c.toNat < 16 ^ width) (rest : List Char) :
    unescapePlaces width (hexPlaces width c.toNat ++ rest) = (c, rest) := by
  have hlength := length_hexPlaces width c.toNat
  unfold unescapePlaces
  rw [List.take_left' hlength, List.drop_left' hlength, hexNumber_hexPlaces h, Char.ofNat_toNat]

/-- The character behind a backslash, with what is left. -/
def unescape : List Char → Option (Char × List Char)
  | [] => none
  | 'n' :: rest => some ('\n', rest)
  | 'r' :: rest => some ('\r', rest)
  | 't' :: rest => some ('\t', rest)
  | 'x' :: rest => some (unescapePlaces 2 rest)
  | 'u' :: rest => some (unescapePlaces 4 rest)
  | 'U' :: rest => some (unescapePlaces 8 rest)
  | c :: rest => some (c, rest)

/-- The first character inside a literal, with what is left behind it. -/
def firstInside : List Char → Option (Char × List Char)
  | [] => none
  | '\\' :: rest => unescape rest
  | c :: rest => some (c, rest)

/-- **A character of a literal is read back** from how it is written. -/
theorem firstInside_literalChar {quote : Char} (hquote : isQuote quote = true) (c : Char)
    (rest : List Char) : firstInside (literalChar quote c ++ rest) = some (c, rest) := by
  unfold literalChar
  split
  · next h =>
    rw [isQuote, Bool.or_eq_true, decide_eq_true_eq, decide_eq_true_eq] at hquote
    rw [Bool.or_eq_true, decide_eq_true_eq, decide_eq_true_eq] at h
    rcases h with rfl | rfl
    · rcases hquote with rfl | rfl
      · rfl
      · rfl
    · rfl
  · next hself =>
    simp only [Bool.or_eq_true, decide_eq_true_eq, not_or] at hself
    split
    · next h => rw [h]; rfl
    · split
      · next h => rw [h]; rfl
      · split
        · next h => rw [h]; rfl
        · split
          · rw [List.singleton_append, firstInside]
            exact fun h => hself.2 h
          · have hcode : c.toNat < 16 ^ 8 := c.val.toNat_lt
            unfold numericEscape
            dsimp only
            split
            · next h =>
              refine congrArg some (unescapePlaces_hexPlaces ?_ rest)
              exact Nat.lt_succ_of_le h
            · split
              · next h =>
                refine congrArg some (unescapePlaces_hexPlaces ?_ rest)
                exact Nat.lt_succ_of_le h
              · exact congrArg some (unescapePlaces_hexPlaces hcode rest)

/-! ## Whole literals -/

/-- The body of a literal is read back up to the quote behind it. -/
theorem literalBody_inj {quote : Char} (hquote : isQuote quote = true) {s t : List Char}
    (h : s.flatMap (literalChar quote) ++ [quote] = t.flatMap (literalChar quote) ++ [quote]) : s = t := by
  -- no character is written with the quote in front, so the bodies end together
  have hend : ∀ (c : Char) (rest : List Char), [quote] ≠ literalChar quote c ++ rest := by
    intro c rest heq
    obtain ⟨d, more, hd, hne⟩ := head?_literalChar quote c (quote_ne_backslash hquote)
    rw [hd] at heq
    exact hne (List.head_eq_of_cons_eq heq).symm
  induction s generalizing t with
  | nil =>
    cases t with
    | nil => rfl
    | cons d t =>
      rw [List.flatMap_cons, List.append_assoc] at h
      exact absurd h (hend d _)
  | cons c s ih =>
    cases t with
    | nil =>
      rw [List.flatMap_cons, List.append_assoc] at h
      exact absurd h.symm (hend c _)
    | cons d t =>
      rw [List.flatMap_cons, List.flatMap_cons, List.append_assoc, List.append_assoc] at h
      have hread := congrArg firstInside h
      rw [firstInside_literalChar hquote, firstInside_literalChar hquote, Option.some_inj, Prod.mk.injEq] at hread
      rw [hread.1, ih hread.2]

/-- **Different texts have different literals.** -/
theorem literal_injective : Function.Injective literal := by
  intro s t h
  have hchars : literalChars s.toList = literalChars t.toList := String.ofList_inj.mp h
  unfold literalChars at hchars
  dsimp only at hchars
  rw [List.cons_append, List.cons_append] at hchars
  obtain ⟨hquote, hbody⟩ := List.cons.inj hchars
  rw [← hquote] at hbody
  exact String.toList_inj.mp (literalBody_inj (isQuote_literalQuote s.toList) hbody)

end SchemaScribe.Text
