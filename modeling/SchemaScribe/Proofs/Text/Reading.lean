import SchemaScribe.Text.Identifier
import SchemaScribe.Text.Literal
import SchemaScribe.Proofs.Text.Identifier

/-!
# Words of code

What a piece of code mentions are the words in it that stand outside string literals (`words`). A literal
starts at a quote, or at three of them in a row, and goes on to the next such delimiter that no backslash
takes; one that starts at a single quote also ends with its line. Comments, and letters in front of a
literal, count as code, so nothing that is mentioned is left out.

Texts are read piece by piece. A piece `Spells` words if they are what it adds in front of everything that
does not go on with its last word or literal. Names and literals spell what they should, and pieces with
delimiters between them spell one after the other; everything about the words of a text follows from these.
-/

namespace SchemaScribe.Text

/-- Where a reader stands: in the code, behind the letters of a word, or in a literal. Behind one quote a
literal has been opened, behind two it is closed unless a third one makes it a long literal. -/
inductive Place where
  | code (word : List Char)
  | opened (quote : Char)
  | closed (quote : Char)
  | inside (quote : Char)
  | taken (quote : Char)
  | long (quote : Char) (run : Nat)
  | longTaken (quote : Char)
deriving DecidableEq

/-- The characters that delimit literals. -/
def isQuote (c : Char) : Bool := c = '"' || c = '\''

namespace Place

/-- Where a character in the code leads to. -/
def inCode (word : List Char) (c : Char) : Place :=
  if isIdentifierChar c then .code (word ++ [c]) else if isQuote c then .opened c else .code []

/-- Where a character in a literal on one line leads to. -/
def inLiteral (quote c : Char) : Place :=
  if c = quote || c = '\n' || c = '\r' then .code [] else if c = '\\' then .taken quote else .inside quote

/-- Where a character leads to. -/
def next : Place → Char → Place
  | .code word, c => inCode word c
  | .opened quote, c => if c = quote then .closed quote else inLiteral quote c
  | .closed quote, c => if c = quote then .long quote 0 else inCode [] c
  | .inside quote, c => inLiteral quote c
  | .taken quote, _ => .inside quote
  | .long quote run, c =>
    if c = quote then if run = 2 then .code [] else .long quote (run + 1)
    else if c = '\\' then .longTaken quote else .long quote 0
  | .longTaken quote, _ => .long quote 0

/-- The word that the reader is behind, if there is one. -/
def word : Place → List String
  | .code [] => []
  | .code letters => [.ofList letters]
  | _ => []

end Place

/-- The words of a text outside its literals, read from a place on. -/
def wordsFrom : Place → List Char → List String
  | place, [] => place.word
  | place, c :: rest =>
    (if isIdentifierChar c then [] else place.word) ++ wordsFrom (place.next c) rest

/-- **The words of a text outside its literals.** -/
def words (s : String) : List String := wordsFrom (.code []) s.toList

/-! ## Pieces of a text -/

/-- A text that goes on with neither a word nor a literal. -/
def Ends (rest : List Char) : Prop := ∀ c ∈ rest.head?, isIdentifierChar c = false ∧ isQuote c = false

/-- **A piece of code that adds words** in front of everything that does not go on with it. -/
def Spells (piece : List Char) (found : List String) : Prop :=
  ∀ rest, Ends rest → wordsFrom (.code []) (piece ++ rest) = found ++ wordsFrom (.code []) rest

theorem Spells.words {s : String} {found : List String} (h : Spells s.toList found) :
    words s = found := by
  have hnil := h [] (by intro c hc; cases hc)
  rw [List.append_nil] at hnil
  unfold Text.words
  rw [hnil]
  exact List.append_nil found

theorem spells_nil : Spells [] [] := fun _ _ => rfl

/-- A word ends where the text does not go on with it. -/
theorem wordsFrom_code {letters rest : List Char} (h : Ends rest) :
    wordsFrom (.code letters) rest = (Place.code letters).word ++ wordsFrom (.code []) rest := by
  cases rest with
  | nil => exact (List.append_nil _).symm
  | cons c rest =>
    obtain ⟨hletter, hquote⟩ := h c rfl
    simp [wordsFrom, Place.next, Place.inCode, Place.word, hletter, hquote]

theorem wordsFrom_letters {name : List Char} (h : ∀ c ∈ name, isIdentifierChar c = true)
    (letters rest : List Char) :
    wordsFrom (.code letters) (name ++ rest) = wordsFrom (.code (letters ++ name)) rest := by
  induction name generalizing letters with
  | nil => rw [List.nil_append, List.append_nil]
  | cons c name ih =>
    obtain ⟨hc, hname⟩ := List.forall_mem_cons.mp h
    have hnext : (Place.code letters).next c = .code (letters ++ [c]) := if_pos hc
    rw [List.cons_append, wordsFrom, if_pos hc, hnext, List.nil_append, ih hname, List.append_assoc,
      List.singleton_append]

/-- A name spells itself. -/
theorem spells_name {name : List Char} (h : ∀ c ∈ name, isIdentifierChar c = true) (hne : name ≠ []) :
    Spells name [.ofList name] := by
  intro rest hrest
  rw [wordsFrom_letters h, List.nil_append, wordsFrom_code hrest]
  obtain ⟨c, more, rfl⟩ := List.exists_cons_of_ne_nil hne
  rfl

/-! ## Delimiters -/

/-- A text that stands between words and literals. -/
def Delimiter (d : List Char) : Prop :=
  d ≠ [] ∧ ∀ c ∈ d, isIdentifierChar c = false ∧ isQuote c = false

instance (d : List Char) : Decidable (Delimiter d) :=
  decidable_of_iff (d ≠ [] ∧ d.all (fun c => !isIdentifierChar c && !isQuote c) = true) <| by
    simp only [Delimiter, List.all_eq_true, Bool.and_eq_true, Bool.not_eq_true']

theorem Delimiter.ends {d : List Char} (h : Delimiter d) (rest : List Char) : Ends (d ++ rest) := by
  obtain ⟨c, more, rfl⟩ := List.exists_cons_of_ne_nil h.1
  intro c' hc'
  cases hc'
  exact h.2 c List.mem_cons_self

/-- Behind a delimiter reading starts anew. -/
theorem wordsFrom_delimiter {d : List Char} (h : ∀ c ∈ d, isIdentifierChar c = false ∧ isQuote c = false)
    (rest : List Char) : wordsFrom (.code []) (d ++ rest) = wordsFrom (.code []) rest := by
  induction d with
  | nil => rfl
  | cons c d ih =>
    obtain ⟨⟨hletter, hquote⟩, hd⟩ := List.forall_mem_cons.mp h
    have hnext : (Place.code []).next c = .code [] := by
      simp [Place.next, Place.inCode, hletter, hquote]
    rw [List.cons_append, wordsFrom, hnext, ih hd]
    simp [Place.word]

/-- **Pieces with a delimiter between them** spell what they spell one after the other. -/
theorem Spells.delimited {front back d : List Char} {found found' : List String} (h : Spells front found)
    (hd : Delimiter d) (h' : Spells back found') : Spells (front ++ d ++ back) (found ++ found') := by
  intro rest hrest
  rw [List.append_assoc, List.append_assoc, h _ (hd.ends _), wordsFrom_delimiter hd.2, h' rest hrest,
    List.append_assoc]

/-! ## Literals -/

/-- **A literal on one line** that is read over from its first quote to its last spells nothing. -/
theorem spells_literalOf {quote : Char} (hquote : isQuote quote = true) {body : List Char}
    (hhead : ∀ c ∈ body.head?, c ≠ quote)
    (hbody : ∀ rest, wordsFrom (.inside quote) (body ++ rest) = wordsFrom (.inside quote) rest) :
    Spells (quote :: body ++ [quote]) [] := by
  have hletter : isIdentifierChar quote = false := by
    unfold isQuote at hquote
    rcases Bool.or_eq_true_iff.mp hquote with h | h
    · rw [of_decide_eq_true h]
      decide
    · rw [of_decide_eq_true h]
      decide
  have hopen : (Place.code []).next quote = .opened quote := by
    simp [Place.next, Place.inCode, hletter, hquote]
  intro rest hrest
  show wordsFrom (.code []) (quote :: (body ++ [quote] ++ rest)) = _
  rw [wordsFrom, hopen, List.append_assoc]
  cases body with
  | nil =>
    -- the second quote closes, since no third one follows
    have hclosed : wordsFrom (.closed quote) rest = wordsFrom (.code []) rest := by
      cases rest with
      | nil => rfl
      | cons c rest =>
        obtain ⟨hc, hcquote⟩ := hrest c rfl
        have hne : c ≠ quote := by
          rintro rfl
          rw [hquote] at hcquote
          cases hcquote
        simp [wordsFrom, Place.next, Place.inCode, Place.word, hc, hcquote, hne]
    simpa [wordsFrom, Place.next, Place.word, hletter] using hclosed
  | cons c body =>
    have hne : c ≠ quote := hhead c rfl
    have hinside : wordsFrom (.opened quote) (c :: (body ++ (quote :: rest))) =
        wordsFrom (.inside quote) (c :: (body ++ (quote :: rest))) := by
      simp [wordsFrom, Place.next, Place.word, hne]
    have hclose : wordsFrom (.inside quote) (quote :: rest) = wordsFrom (.code []) rest := by
      simp [wordsFrom, Place.next, Place.inLiteral, Place.word]
    have hrun := hbody (quote :: rest)
    rw [hclose] at hrun
    simpa [Place.word, hinside] using hrun

/-- What is read over inside a literal, a character at a time. -/
theorem wordsFrom_inside {quote : Char} {text : List Char}
    (h : ∀ c ∈ text, c ≠ quote ∧ c ≠ '\\' ∧ c ≠ '\n' ∧ c ≠ '\r') (rest : List Char) :
    wordsFrom (.inside quote) (text ++ rest) = wordsFrom (.inside quote) rest := by
  induction text with
  | nil => rfl
  | cons c text ih =>
    obtain ⟨⟨hquote, hback, hfeed, hreturn⟩, htext⟩ := List.forall_mem_cons.mp h
    rw [List.cons_append, ← ih htext]
    simp [wordsFrom, Place.next, Place.inLiteral, Place.word, hquote, hback, hfeed, hreturn]

/-- A backslash takes the next character. -/
theorem wordsFrom_taken {quote : Char} (hquote : quote ≠ '\\') (c : Char) (rest : List Char) :
    wordsFrom (.inside quote) ('\\' :: c :: rest) = wordsFrom (.inside quote) rest := by
  simp [wordsFrom, Place.next, Place.inLiteral, Place.word, hquote.symm]

/-! ## Escaped literals -/

theorem isIdentifierChar_hexDigit (n : Nat) : isIdentifierChar (hexDigit n) = true := by
  unfold hexDigit
  rw [List.getD_eq_getElem?_getD]
  cases hdigit : "0123456789abcdef".toList[n]? with
  | none => decide
  | some c =>
    have hdigits : "0123456789abcdef".toList.all isIdentifierChar = true := by decide
    exact List.all_eq_true.mp hdigits c (List.mem_of_getElem? hdigit)

theorem isIdentifierChar_hexPlaces (width n : Nat) : ∀ c ∈ hexPlaces width n, isIdentifierChar c = true := by
  induction width generalizing n with
  | zero => exact fun _ hc => absurd hc List.not_mem_nil
  | succ width ih =>
    rw [hexPlaces, List.forall_mem_append, List.forall_mem_singleton]
    exact ⟨ih (n / 16), isIdentifierChar_hexDigit (n % 16)⟩

section

variable {quote : Char} (hquote : isQuote quote = true)

include hquote

/-- A letter of a name is nothing that has a meaning in a literal. -/
theorem ne_of_isIdentifierChar {c : Char} (hc : isIdentifierChar c = true) :
    c ≠ quote ∧ c ≠ '\\' ∧ c ≠ '\n' ∧ c ≠ '\r' := by
  refine ⟨?_, ?_, ?_, ?_⟩
  · rintro rfl
    unfold isQuote at hquote
    rcases Bool.or_eq_true_iff.mp hquote with h | h
    · rw [of_decide_eq_true h] at hc
      cases hc
    · rw [of_decide_eq_true h] at hc
      cases hc
  all_goals
    rintro rfl
    cases hc

theorem quote_ne_backslash : quote ≠ '\\' := by
  rintro rfl
  cases hquote

/-- A character of a literal is read over however it is written. -/
theorem wordsFrom_literalChar (c : Char) (rest : List Char) :
    wordsFrom (.inside quote) (literalChar quote c ++ rest) = wordsFrom (.inside quote) rest := by
  have hback := quote_ne_backslash hquote
  have hescape : ∀ (letter : Char) (width : Nat),
      wordsFrom (.inside quote) ('\\' :: letter :: hexPlaces width c.toNat ++ rest) =
        wordsFrom (.inside quote) rest := by
    intro letter width
    have hdigits : wordsFrom (.inside quote) (hexPlaces width c.toNat ++ rest) =
        wordsFrom (.inside quote) rest :=
      wordsFrom_inside (fun d hd =>
        ne_of_isIdentifierChar hquote (isIdentifierChar_hexPlaces width c.toNat d hd)) rest
    rw [← hdigits]
    exact wordsFrom_taken hback letter _
  unfold literalChar
  split
  · exact wordsFrom_taken hback c rest
  · next hself =>
    simp only [Bool.or_eq_true, decide_eq_true_eq, not_or] at hself
    split
    · exact wordsFrom_taken hback 'n' rest
    · next hfeed =>
      split
      · exact wordsFrom_taken hback 'r' rest
      · next hreturn =>
        split
        · exact wordsFrom_taken hback 't' rest
        · split
          · exact wordsFrom_inside
              (List.forall_mem_singleton.mpr ⟨hself.1, hself.2, hfeed, hreturn⟩) rest
          · unfold numericEscape
            dsimp only
            split
            · exact hescape 'x' 2
            · split
              · exact hescape 'u' 4
              · exact hescape 'U' 8

theorem wordsFrom_literalBody (text rest : List Char) :
    wordsFrom (.inside quote) (text.flatMap (literalChar quote) ++ rest) =
      wordsFrom (.inside quote) rest := by
  induction text with
  | nil => rfl
  | cons c text ih => rw [List.flatMap_cons, List.append_assoc, wordsFrom_literalChar hquote, ih]

end

/-- No character of a literal starts with its quote. -/
theorem head?_literalChar (quote c : Char) (hquote : quote ≠ '\\') :
    ∃ d rest, literalChar quote c = d :: rest ∧ d ≠ quote := by
  unfold literalChar numericEscape
  dsimp only
  split
  · exact ⟨_, _, rfl, hquote.symm⟩
  · next hself =>
    simp only [Bool.or_eq_true, decide_eq_true_eq, not_or] at hself
    repeat' split
    all_goals first
      | exact ⟨_, _, rfl, hquote.symm⟩
      | exact ⟨_, _, rfl, hself.1⟩

theorem isQuote_literalQuote (s : List Char) : isQuote (literalQuote s) = true := by
  unfold literalQuote
  split <;> decide

/-- **Literals spell nothing**, whatever their text. -/
theorem spells_literal (s : String) : Spells (literal s).toList [] := by
  have hquote := isQuote_literalQuote s.toList
  unfold literal literalChars
  rw [String.toList_ofList]
  generalize literalQuote s.toList = quote at hquote ⊢
  refine spells_literalOf hquote ?_ (wordsFrom_literalBody hquote s.toList)
  cases s.toList with
  | nil =>
    intro c hc
    cases hc
  | cons first more =>
    obtain ⟨d, rest, hd, hne⟩ := head?_literalChar quote first (quote_ne_backslash hquote)
    intro c hc
    rw [List.flatMap_cons, hd] at hc
    cases hc
    exact hne

/-! ## Quoted texts -/

/-- A character that can stand between double quotes: neither a double quote nor a line end. -/
def Inner (c : Char) : Prop := c ≠ '"' ∧ c ≠ '\n' ∧ c ≠ '\r'

instance (c : Char) : Decidable (Inner c) := inferInstanceAs (Decidable (_ ∧ _))

/-- **A text that can be put between double quotes as it stands**: it has neither a double quote nor a line
end, and no backslash at its end takes the quote behind it. -/
structure Verbatim (text : List Char) : Prop where
  characters : ∀ c ∈ text, Inner c
  last : text.getLast? ≠ some '\\'

instance (text : List Char) : Decidable (Verbatim text) :=
  decidable_of_iff (text.all (fun c => decide (Inner c)) = true ∧ text.getLast? ≠ some '\\') <| by
    simp only [List.all_eq_true, decide_eq_true_eq]
    exact ⟨fun ⟨h, h'⟩ => ⟨h, h'⟩, fun ⟨h, h'⟩ => ⟨h, h'⟩⟩

/-- What is read over in a literal leads to its inside, or to where a backslash has taken the next
character. -/
theorem exists_wordsFrom_inside {text : List Char} (h : ∀ c ∈ text, Inner c) :
    ∀ place, place = .inside '"' ∨ place = .taken '"' →
      ∃ place', (place' = .inside '"' ∨ place' = .taken '"') ∧
        ∀ rest, wordsFrom place (text ++ rest) = wordsFrom place' rest := by
  induction text with
  | nil => exact fun place hplace => ⟨place, hplace, fun _ => rfl⟩
  | cons c text ih =>
    obtain ⟨⟨hquote, hfeed, hreturn⟩, htext⟩ := List.forall_mem_cons.mp h
    intro place hplace
    have hstep : (place.next c = .inside '"' ∨ place.next c = .taken '"') ∧
        ∀ rest, wordsFrom place (c :: rest) = wordsFrom (place.next c) rest := by
      rcases hplace with rfl | rfl
      · by_cases hback : c = '\\'
        · simp [wordsFrom, Place.next, Place.inLiteral, Place.word, hback]
        · simp [wordsFrom, Place.next, Place.inLiteral, Place.word, hquote, hfeed, hreturn, hback]
      · simp [wordsFrom, Place.next, Place.word]
    obtain ⟨place', hplace', hrun⟩ := ih htext _ hstep.1
    exact ⟨place', hplace', fun rest => (hstep.2 _).trans (hrun rest)⟩

/-- **Verbatim texts between double quotes spell nothing.** -/
theorem spells_quoted {text : List Char} (h : Verbatim text) : Spells ('"' :: text ++ ['"']) [] := by
  apply spells_literalOf (by decide)
  · intro c hc
    exact (h.characters c (List.mem_of_head? hc)).1
  · intro rest
    rcases List.eq_nil_or_concat text with rfl | ⟨front, c, rfl⟩
    · rfl
    · rw [List.concat_eq_append] at h ⊢
      have hlast : c ≠ '\\' := by
        rintro rfl
        exact h.last (by simp)
      obtain ⟨hfront, hc⟩ := List.forall_mem_append.mp h.characters
      obtain ⟨place, hplace, hrun⟩ := exists_wordsFrom_inside hfront (.inside '"') (.inl rfl)
      obtain ⟨hquote, hfeed, hreturn⟩ := hc c List.mem_cons_self
      rw [List.append_assoc, hrun]
      rcases hplace with rfl | rfl
      · simp [wordsFrom, Place.next, Place.inLiteral, Place.word, hquote, hfeed, hreturn, hlast]
      · simp [wordsFrom, Place.next, Place.word]

/-! ## Texts whose words have a property -/

/-- **A piece of code of which every word has a property.** -/
def Reads (p : String → Prop) (s : String) : Prop := ∃ found, Spells s.toList found ∧ ∀ word ∈ found, p word

section

variable {p : String → Prop} {s t d : String}

theorem Reads.words (h : Reads p s) : ∀ word ∈ words s, p word := by
  obtain ⟨found, hspells, hfound⟩ := h
  rw [hspells.words]
  exact hfound

theorem reads_empty : Reads p "" := ⟨[], spells_nil, List.forall_mem_nil _⟩

theorem reads_name (h : ∀ c ∈ s.toList, isIdentifierChar c = true) (hp : p s) : Reads p s := by
  by_cases hne : s.toList = []
  · rw [String.toList_eq_nil_iff.mp hne]
    exact reads_empty
  · refine ⟨[s], ?_, List.forall_mem_singleton.mpr hp⟩
    have hspells := spells_name h hne
    rwa [String.ofList_toList] at hspells

theorem reads_literal (s : String) : Reads p (literal s) :=
  ⟨[], spells_literal s, List.forall_mem_nil _⟩

theorem reads_quoted (h : Verbatim s.toList) : Reads p ("\"" ++ s ++ "\"") := by
  refine ⟨[], ?_, List.forall_mem_nil _⟩
  rw [String.toList_append, String.toList_append]
  exact spells_quoted h

theorem Reads.delimited (h : Reads p s) (hd : Delimiter d.toList) (h' : Reads p t) :
    Reads p (s ++ d ++ t) := by
  obtain ⟨found, hspells, hfound⟩ := h
  obtain ⟨found', hspells', hfound'⟩ := h'
  refine ⟨found ++ found', ?_, List.forall_mem_append.mpr ⟨hfound, hfound'⟩⟩
  rw [String.toList_append, String.toList_append]
  exact hspells.delimited hd hspells'

theorem Reads.followed (h : Reads p s) (hd : Delimiter d.toList) : Reads p (s ++ d) := by
  have hjoined := h.delimited hd reads_empty
  rwa [String.append_empty] at hjoined

theorem Reads.preceded (hd : Delimiter d.toList) (h : Reads p s) : Reads p (d ++ s) := by
  have hjoined := reads_empty.delimited hd h
  rwa [String.empty_append] at hjoined

theorem reads_intercalate (hd : Delimiter d.toList) {items : List String} (h : ∀ item ∈ items, Reads p item) :
    Reads p (d.intercalate items) := by
  induction items with
  | nil =>
    rw [String.intercalate_nil]
    exact reads_empty
  | cons item rest ih =>
    obtain ⟨hitem, hrest⟩ := List.forall_mem_cons.mp h
    cases rest with
    | nil =>
      rw [String.intercalate_singleton]
      exact hitem
    | cons next more =>
      rw [String.intercalate_cons_cons]
      exact hitem.delimited hd (ih hrest)

end

end SchemaScribe.Text
