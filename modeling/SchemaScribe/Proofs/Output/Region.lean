import Mathlib.Data.List.TakeWhile
import SchemaScribe.Output.Region
import SchemaScribe.Proofs.Text.Lines

/-!
# Custom regions are carried over

Merging a text with itself changes nothing (`mergeRegions_self`). A text with one custom region is what is
around the region, lines of which none opens another (`Surround`), with a body in it. It stays so where it
matters: when the text is read, where carriage returns may make lines that were none before
(`Surround.exists_read`), when somebody puts another body into the region (`Surround.text_of_edits`), and when
it is merged with an old text, the body of which it then has (`Surround.mergeRegions_text`). Freshly generated
text has an empty region at its end, which the canonical form and text that a style pass appends leave alone
(`Fresh`).
-/

namespace SchemaScribe.Output

open SchemaScribe.Text

/-! ## Lines that open regions -/

theorem dropIndent_append {blanks : List Char} (h : ∀ c ∈ blanks, c = ' ' ∨ c = '\t')
    (line : List Char) : dropIndent (blanks ++ line) = dropIndent line := by
  unfold dropIndent
  refine List.dropWhile_append_of_pos fun c hc => ?_
  simpa only [Bool.or_eq_true, decide_eq_true_eq] using h c hc

theorem opensRegion_indent {blanks : List Char} (h : ∀ c ∈ blanks, c = ' ' ∨ c = '\t')
    (line : List Char) : opensRegion (blanks ++ line) = opensRegion line := by
  unfold opensRegion
  rw [dropIndent_append h]

theorem opensRegion_append_blanks {blanks : List Char} (h : ∀ c ∈ blanks, c = ' ' ∨ c = '\t')
    (line : List Char) : opensRegion (line ++ blanks) = opensRegion line := by
  unfold opensRegion dropIndent
  rw [List.dropWhile_append]
  split
  · next hall =>
    -- nothing but blanks is left on either side
    rw [List.isEmpty_iff.mp hall, List.dropWhile_eq_nil_iff.mpr fun c hc => ?_]
    simpa only [Bool.or_eq_true, decide_eq_true_eq] using h c hc
  · rw [trimLine_append h]

theorem opensRegion_trimLine (line : List Char) : opensRegion (trimLine line) = opensRegion line := by
  obtain ⟨blanks, hline, hblanks⟩ := exists_trimLine_append line
  rw [← opensRegion_append_blanks hblanks (trimLine line), ← hline]

/-- A line that opens a region has blanks around the mark and nothing else, so no line end. -/
theorem not_mem_of_opensRegion {line : List Char} (h : opensRegion line = true) :
    '\n' ∉ line ∧ '\r' ∉ line := by
  have hmark : trimLine (dropIndent line) = Render.customBegin.toList := of_decide_eq_true h
  obtain ⟨blanks, hline, hblanks⟩ := exists_trimLine_append (dropIndent line)
  have hindent : ∀ c ∈ line.takeWhile (fun c => c = ' ' || c = '\t'), c = ' ' ∨ c = '\t' := by
    intro c hc
    have htest := List.all_eq_true.mp (List.all_takeWhile (l := line)) c hc
    simpa only [Bool.or_eq_true, decide_eq_true_eq] using htest
  have hchars : ∀ c ∈ line, c = ' ' ∨ c = '\t' ∨ c ∈ Render.customBegin.toList := by
    intro c hc
    rw [← List.takeWhile_append_dropWhile (p := fun c => c = ' ' || c = '\t') (l := line),
      List.mem_append] at hc
    rcases hc with hc | hc
    · exact (hindent c hc).imp_right .inl
    · rw [show line.dropWhile _ = dropIndent line from rfl, hline, hmark, List.mem_append] at hc
      rcases hc with hc | hc
      · exact .inr (.inr hc)
      · exact (hblanks c hc).imp_right .inl
  constructor
  · intro hc
    exact absurd (hchars _ hc) (by decide)
  · intro hc
    exact absurd (hchars _ hc) (by decide)

/-- **A text of which no line opens a region when it is read.** -/
def Unopened (s : List Char) : Prop := EveryLine (fun line => opensRegion line = false) s

instance (s : List Char) : Decidable (Unopened s) := inferInstanceAs (Decidable (EveryLine _ s))

theorem opensRegion_nil : opensRegion [] = false := by decide

theorem unopened_joinLines {texts : List (List Char)} :
    Unopened (joinLines texts) ↔ ∀ s ∈ texts, Unopened s :=
  everyLine_joinLines opensRegion_nil texts

theorem unopened_trimLine (s : List Char) : Unopened (trimLine s) ↔ Unopened s := by
  obtain ⟨blanks, hline, hblanks⟩ := exists_trimLine_append s
  have hflat : '\n' ∉ blanks ∧ '\r' ∉ blanks :=
    ⟨fun h => absurd (hblanks _ h) (by decide), fun h => absurd (hblanks _ h) (by decide)⟩
  have happend := everyLine_append_of_flat (P := fun line => opensRegion line = false) hflat.1 hflat.2
    (fun line => by rw [opensRegion_append_blanks hblanks]) (trimLine s)
  rw [← hline] at happend
  exact happend.symm

theorem unopened_indent (s : List Char) :
    Unopened (' ' :: ' ' :: ' ' :: ' ' :: s) ↔ Unopened s := by
  have hblanks : ∀ c ∈ [' ', ' ', ' ', ' '], c = ' ' ∨ c = '\t' := by simp
  exact everyLine_of_flat_append (t := [' ', ' ', ' ', ' ']) (by decide) (by decide)
    (fun line => by rw [opensRegion_indent hblanks]) s

/-- No line of such a text opens a region before it is read either. -/
theorem Unopened.of_mem_splitLines {s line : List Char} (h : Unopened s) (hline : line ∈ splitLines s) :
    Unopened line ∧ opensRegion line = false := by
  have hlines := unopened_joinLines.mp ((joinLines_splitLines s).symm ▸ h) line hline
  refine ⟨hlines, ?_⟩
  by_contra hopen
  have hflat := not_mem_of_opensRegion ((Bool.not_eq_false _).mp hopen)
  exact hopen ((everyLine_of_flat hflat.1 hflat.2).mp hlines)

/-! ## Pieces -/

theorem splitAtClosing_append {body after : List (List Char)} {closing : List Char}
    (hbody : ∀ line ∈ body, closesRegion line = false) (hclosing : closesRegion closing = true) :
    splitAtClosing (body ++ closing :: after) = some (body, closing, after) := by
  induction body with
  | nil => rw [List.nil_append, splitAtClosing, if_pos hclosing]
  | cons line rest ih =>
    obtain ⟨hline, hrest⟩ := List.forall_mem_cons.mp hbody
    rw [List.cons_append, splitAtClosing, if_neg (by rw [hline]; exact Bool.false_ne_true), ih hrest]
    rfl

theorem piecesOf_line {line : List Char} (h : opensRegion line = false) (rest : List (List Char)) :
    piecesOf (line :: rest) = .line line :: piecesOf rest := by
  rw [piecesOf, if_neg (by rw [h]; exact Bool.false_ne_true)]

theorem piecesOf_region {opening closing : List Char} {body : List (List Char)}
    (hopening : opensRegion opening = true) (hbody : ∀ line ∈ body, closesRegion line = false)
    (hclosing : closesRegion closing = true) (after : List (List Char)) :
    piecesOf (opening :: body ++ closing :: after) =
      .region opening body closing :: piecesOf after := by
  rw [List.cons_append, piecesOf, if_pos hopening]
  split
  · next h =>
    rw [splitAtClosing_append hbody hclosing] at h
    cases h
    rfl
  · next h =>
    rw [splitAtClosing_append hbody hclosing] at h
    cases h

theorem piecesOf_lines_append {lines : List (List Char)}
    (h : ∀ line ∈ lines, opensRegion line = false) (rest : List (List Char)) :
    piecesOf (lines ++ rest) = lines.map .line ++ piecesOf rest := by
  induction lines with
  | nil => rfl
  | cons line more ih =>
    obtain ⟨hline, hmore⟩ := List.forall_mem_cons.mp h
    rw [List.cons_append, piecesOf_line hline, ih hmore]
    rfl

theorem joinPieces_pieces (text : List Char) : joinPieces (pieces text) = text := by
  unfold joinPieces pieces
  rw [lines_piecesOf, joinLines_splitLines]

/-! ## Merging -/

/-- Regions are filled with their own bodies. -/
theorem fill_bodies (ps : List Piece) : fill ps (bodies ps) = ps := by
  induction ps with
  | nil => rfl
  | cons p rest ih =>
    cases p with
    | line text => exact congrArg (Piece.line text :: ·) ih
    | region opening body closing => exact congrArg (Piece.region opening body closing :: ·) ih

/-- Merging fills the bodies of the old text in, unless all of them are blank. -/
theorem mergeRegions_eq (new : String) (old : Option String) :
    mergeRegions new old =
      if (bodies (pieces (old.getD "").toList)).all fun body => allBlank (bodyText body) then new
      else .ofList (joinPieces (fill (pieces new.toList) (bodies (pieces (old.getD "").toList)))) := by
  unfold mergeRegions carriedBodies
  dsimp only
  split
  · next hcarried =>
    split
    · rfl
    · next hall =>
      rw [if_neg hall] at hcarried
      rw [hcarried] at hall
      exact absurd rfl hall
  · next hcarried =>
    split
    · next hall =>
      rw [if_pos hall] at hcarried
      exact absurd rfl hcarried
    · rfl

theorem bodies_lines (lines : List (List Char)) : bodies (lines.map .line) = [] := by
  unfold bodies
  rw [List.filterMap_eq_nil_iff]
  intro p hp
  obtain ⟨_, _, rfl⟩ := List.mem_map.mp hp
  rfl

theorem bodies_append (ps qs : List Piece) : bodies (ps ++ qs) = bodies ps ++ bodies qs :=
  List.filterMap_append

theorem piecesOf_lines {lines : List (List Char)} (h : ∀ line ∈ lines, opensRegion line = false) :
    piecesOf lines = lines.map .line := by
  have happend := piecesOf_lines_append h []
  rwa [List.append_nil, show piecesOf [] = [] from by rw [piecesOf], List.append_nil] at happend

theorem mergeRegions_none (text : String) : mergeRegions text none = text := by
  have hpieces : pieces [] = [[]].map .line := by
    unfold pieces
    rw [splitLines_of_not_mem List.not_mem_nil]
    exact piecesOf_lines (List.forall_mem_singleton.mpr opensRegion_nil)
  rw [mergeRegions_eq]
  show (if (bodies (pieces [])).all _ = true then _ else _) = _
  rw [hpieces, bodies_lines]
  rfl

/-- **A text merged with itself stays as it is**, whatever regions it has. So a file that was stored as it was
made is left alone by the next run. -/
theorem mergeRegions_self (text : String) : mergeRegions text (some text) = text := by
  rw [mergeRegions_eq, Option.getD_some, fill_bodies, joinPieces_pieces, String.ofList_toList]
  exact ite_self text

/-! ## Texts with one region -/

/-- Lines that stay outside of regions: there is no line feed in them, and nothing in them opens one. -/
def Outside (lines : List (List Char)) : Prop := ∀ line ∈ lines, '\n' ∉ line ∧ Unopened line

theorem Outside.opensRegion {lines : List (List Char)} (h : Outside lines) :
    ∀ line ∈ lines, opensRegion line = false := by
  intro line hline
  obtain ⟨hfeed, hunopened⟩ := h line hline
  refine (hunopened.of_mem_splitLines ?_).2
  rw [splitLines_of_not_mem hfeed]
  exact List.mem_cons_self

theorem Outside.unopened {lines : List (List Char)} (h : Outside lines) : Unopened (joinLines lines) :=
  unopened_joinLines.mpr fun line hline => (h line hline).2

/-- The lines of texts in which nothing opens a region stay outside. -/
theorem outside_flatMap {texts : List (List Char)} (h : ∀ s ∈ texts, Unopened s) :
    Outside (texts.flatMap splitLines) := by
  intro line hline
  obtain ⟨s, hs, hline⟩ := List.mem_flatMap.mp hline
  exact ⟨not_mem_of_mem_splitLines hline, ((h s hs).of_mem_splitLines hline).1⟩

/-- The lines that are read of a text in which nothing opens a region stay outside. -/
theorem outside_readLines {s : List Char} (h : Unopened s) : Outside (readLines s) := by
  intro line hline
  have hfeed := not_mem_of_mem_splitLines hline
  have hreturn : '\r' ∉ line := fun hc =>
    not_mem_unifyNewlines s (subset_of_mem_splitLines hline hc)
  exact ⟨hfeed, (everyLine_of_flat hfeed hreturn).mpr (h line hline)⟩

/-- Reading lines that stay outside, in front of other lines. -/
theorem exists_readLines_outside {lines rest : List (List Char)} (h : Outside lines) (hrest : rest ≠ []) :
    ∃ lines', Outside lines' ∧
      readLines (joinLines (lines ++ rest)) = lines' ++ readLines (joinLines rest) := by
  by_cases hnil : lines = []
  · exact ⟨[], fun _ hline => absurd hline List.not_mem_nil, by rw [hnil]; rfl⟩
  · have hunopened := h.unopened
    rw [joinLines_append hnil hrest]
    by_cases hlast : (joinLines lines).getLast? = some '\r'
    · obtain ⟨s, hs⟩ := List.getLast?_eq_some_iff.mp hlast
      rw [hs] at hunopened ⊢
      have hread : Unopened s := by
        intro line hline
        refine hunopened line ?_
        rw [readLines_append_return]
        exact List.mem_append_left [[]] hline
      refine ⟨readLines s, outside_readLines hread, ?_⟩
      rw [List.append_assoc, List.singleton_append, readLines_append_returnFeed]
    · exact ⟨readLines (joinLines lines), outside_readLines hunopened,
        readLines_append_feed hlast (joinLines rest)⟩

/-- Lines without line ends are read as they are, in front of other lines. -/
theorem readLines_flat_append {lines rest : List (List Char)}
    (h : ∀ line ∈ lines, '\n' ∉ line ∧ '\r' ∉ line) (hrest : rest ≠ []) :
    readLines (joinLines (lines ++ rest)) = lines ++ readLines (joinLines rest) := by
  induction lines with
  | nil => rfl
  | cons line more ih =>
    obtain ⟨hline, hmore⟩ := List.forall_mem_cons.mp h
    have hlast : line.getLast? ≠ some '\r' := fun hc => hline.2 (List.mem_of_getLast? hc)
    rw [List.cons_append, joinLines_cons line (List.append_ne_nil_of_right_ne_nil more hrest),
      readLines_append_feed hlast, readLines_of_flat hline.1 hline.2, ih hmore]
    rfl

/-- Lines that can stand in a region: none of them closes it, and there are no line ends in them. -/
def Inside (body : List (List Char)) : Prop :=
  ∀ line ∈ body, ('\n' ∉ line ∧ '\r' ∉ line) ∧ closesRegion line = false

instance (body : List (List Char)) : Decidable (Inside body) :=
  inferInstanceAs (Decidable (∀ line ∈ body, ('\n' ∉ line ∧ '\r' ∉ line) ∧ closesRegion line = false))

/-- **What is around a single region**: its opening and closing lines, and lines before and after it that
stay outside. -/
structure Surround where
  before : List (List Char)
  opening : List Char
  closing : List Char
  after : List (List Char)
  outside_before : Outside before
  opens : opensRegion opening = true
  closes : closesRegion closing = true
  closing_flat : '\n' ∉ closing ∧ '\r' ∉ closing
  outside_after : Outside after

namespace Surround

variable (a : Surround)

/-- The text with a body in the region. -/
def text (body : List (List Char)) : List Char :=
  joinLines (a.before ++ (a.opening :: body ++ a.closing :: a.after))

theorem opening_flat : '\n' ∉ a.opening ∧ '\r' ∉ a.opening := not_mem_of_opensRegion a.opens

theorem pieces_text {body : List (List Char)} (h : Inside body) :
    pieces (a.text body) =
      a.before.map .line ++ .region a.opening body a.closing :: a.after.map .line := by
  have hlines : ∀ line ∈ a.before ++ (a.opening :: body ++ a.closing :: a.after), '\n' ∉ line := by
    simp only [List.cons_append, List.forall_mem_append, List.forall_mem_cons]
    exact ⟨fun line hline => (a.outside_before line hline).1, a.opening_flat.1,
      fun line hline => (h line hline).1.1, a.closing_flat.1,
      fun line hline => (a.outside_after line hline).1⟩
  unfold pieces text
  rw [splitLines_joinLines hlines (List.append_ne_nil_of_right_ne_nil _ (List.cons_ne_nil _ _)),
    piecesOf_lines_append a.outside_before.opensRegion,
    piecesOf_region a.opens (fun line hline => (h line hline).2) a.closes,
    piecesOf_lines a.outside_after.opensRegion]

theorem bodies_text {body : List (List Char)} (h : Inside body) : bodies (pieces (a.text body)) = [body] := by
  rw [a.pieces_text h, bodies_append, bodies_lines, List.nil_append]
  exact congrArg (body :: ·) (bodies_lines a.after)

theorem lines_map (lines : List (List Char)) :
    (lines.map Piece.line).flatMap Piece.lines = lines := by
  rw [List.flatMap_map]
  exact List.flatMap_singleton' lines

/-- The text of the pieces is the text. -/
theorem joinPieces_around (body : List (List Char)) :
    joinPieces (a.before.map .line ++ .region a.opening body a.closing :: a.after.map .line) =
      a.text body := by
  unfold joinPieces text
  rw [List.flatMap_append, List.flatMap_cons, lines_map, lines_map]
  simp only [Piece.lines, List.cons_append, List.append_assoc, List.nil_append]

theorem fill_lines_append (lines : List (List Char)) (rest : List Piece) (all : List (List (List Char))) :
    fill (lines.map .line ++ rest) all = lines.map .line ++ fill rest all := by
  induction lines with
  | nil => rfl
  | cons line more ih => exact congrArg (Piece.line line :: ·) ih

theorem fill_lines (lines : List (List Char)) (all : List (List (List Char))) :
    fill (lines.map .line) all = lines.map .line := by
  have happend := fill_lines_append lines [] all
  rwa [List.append_nil, fill, List.append_nil] at happend

/-- **Merging gives a text the first body of the old one**, unless all bodies of that are blank. -/
theorem mergeRegions_text {body : List (List Char)} (h : Inside body) {new : String}
    (hnew : new.toList = a.text body) (old : String) :
    (mergeRegions new (some old)).toList =
      a.text (if (bodies (pieces old.toList)).all fun body => allBlank (bodyText body) then body
        else (bodies (pieces old.toList)).headD body) := by
  rw [mergeRegions_eq, Option.getD_some]
  split
  · exact hnew
  · cases hold : bodies (pieces old.toList) with
    | nil =>
      next hall =>
      rw [hold] at hall
      exact absurd rfl hall
    | cons body' more =>
      rw [String.toList_ofList, hnew, a.pieces_text h, fill_lines_append, fill, fill_lines,
        a.joinPieces_around, List.headD_cons]

/-- **What is around the region when the text is read**: carriage returns may make more lines of those around
it, but open no region. -/
theorem exists_read {body : List (List Char)} (h : Inside body) :
    ∃ a' : Surround, unifyNewlines (a.text body) = a'.text body := by
  have hne : a.opening :: body ++ a.closing :: a.after ≠ [] := List.cons_ne_nil _ _
  obtain ⟨before, hbefore, hread⟩ := exists_readLines_outside a.outside_before hne
  have hmiddle : ∀ line ∈ a.opening :: body, '\n' ∉ line ∧ '\r' ∉ line :=
    List.forall_mem_cons.mpr ⟨a.opening_flat, fun line hline => (h line hline).1⟩
  rw [readLines_flat_append hmiddle (List.cons_ne_nil a.closing a.after)] at hread
  have hafter : ∃ after, Outside after ∧
      readLines (joinLines (a.closing :: a.after)) = a.closing :: after := by
    by_cases hnil : a.after = []
    · refine ⟨[], fun _ hline => absurd hline List.not_mem_nil, ?_⟩
      rw [hnil, joinLines_singleton, readLines_of_flat a.closing_flat.1 a.closing_flat.2]
    · refine ⟨readLines (joinLines a.after), outside_readLines a.outside_after.unopened, ?_⟩
      have hclosing : ∀ line ∈ [a.closing], '\n' ∉ line ∧ '\r' ∉ line :=
        List.forall_mem_singleton.mpr a.closing_flat
      exact readLines_flat_append hclosing hnil
  obtain ⟨after, houtside, hclosing⟩ := hafter
  refine ⟨{ a with before, after, outside_before := hbefore, outside_after := houtside }, ?_⟩
  rw [hclosing] at hread
  show unifyNewlines _ = joinLines (before ++ (a.opening :: body ++ a.closing :: after))
  rw [← hread]
  exact (joinLines_splitLines _).symm

end Surround

/-! ## Editing a region -/

/-- **An edit of a custom region**: one text becomes another by putting a body into one of its regions. -/
def Edits (before : String) (body : List (List Char)) (after : String) : Prop :=
  ∃ front opening old closing back,
    pieces before.toList = front ++ .region opening old closing :: back ∧
    after.toList = joinPieces (front ++ .region opening body closing :: back)

/-- Into a text that has a region every body can be put. -/
theorem exists_edits {before : String} (h : customRegions before ≠ []) (body : List (List Char)) :
    ∃ after, Edits before body after := by
  have hbodies : bodies (pieces before.toList) ≠ [] := fun hnil => h (by rw [customRegions, hnil]; rfl)
  obtain ⟨old, hold⟩ := List.exists_mem_of_ne_nil _ hbodies
  obtain ⟨p, hp, hbody⟩ := List.mem_filterMap.mp hold
  cases p with
  | line text => cases hbody
  | region opening old' closing =>
    obtain ⟨front, back, hpieces⟩ := List.append_of_mem hp
    exact ⟨_, front, opening, old', closing, back, hpieces, String.toList_ofList⟩

/-- An edit brings no carriage returns. -/
theorem Edits.return_notMem {before after : String} {body : List (List Char)} (h : Edits before body after)
    (hbefore : '\r' ∉ before.toList) (hbody : Inside body) : '\r' ∉ after.toList := by
  obtain ⟨front, opening, old, closing, back, hpieces, hafter⟩ := h
  rw [hafter]
  intro hc
  rcases mem_joinLines hc with hc | ⟨line, hline, hc⟩
  · cases hc
  · have hlines : line ∈ body ∨ line ∈ splitLines before.toList := by
      rw [← lines_piecesOf (splitLines before.toList), show piecesOf _ = _ from hpieces]
      simp only [List.flatMap_append, List.flatMap_cons, Piece.lines, List.cons_append, List.mem_append,
        List.mem_cons, List.not_mem_nil, or_false] at hline ⊢
      tauto
    rcases hlines with hline | hline
    · exact (hbody line hline).1.2 hc
    · exact hbefore (subset_of_mem_splitLines hline hc)

theorem region_notMem_lines {lines : List (List Char)} {opening closing : List Char}
    {body : List (List Char)} : .region opening body closing ∉ lines.map Piece.line := by
  intro h
  obtain ⟨_, _, heq⟩ := List.mem_map.mp h
  cases heq

/-- Among lines there is only one place for a region. -/
theorem eq_of_region_append {before after : List (List Char)} {opening opening' closing closing' : List Char}
    {body body' : List (List Char)} {front back : List Piece}
    (h : before.map Piece.line ++ .region opening body closing :: after.map Piece.line =
      front ++ .region opening' body' closing' :: back) :
    front = before.map Piece.line ∧ (opening' = opening ∧ closing' = closing) ∧
      back = after.map Piece.line := by
  rcases List.append_eq_append_iff.mp h with ⟨between, hfront, hrest⟩ | ⟨between, hbefore, hback⟩
  · cases between with
    | nil =>
      cases hrest
      exact ⟨by rw [hfront, List.append_nil], ⟨rfl, rfl⟩, rfl⟩
    | cons p between =>
      obtain ⟨_, hafter⟩ := List.cons_eq_cons.mp hrest
      have hmem : .region opening' body' closing' ∈ after.map Piece.line := by
        rw [hafter]
        exact List.mem_append_right between List.mem_cons_self
      exact absurd hmem region_notMem_lines
  · cases between with
    | nil =>
      cases hback
      exact ⟨by rw [hbefore, List.append_nil], ⟨rfl, rfl⟩, rfl⟩
    | cons p between =>
      obtain ⟨hp, _⟩ := List.cons_eq_cons.mp hback
      have hmem : .region opening' body' closing' ∈ before.map Piece.line := by
        rw [hbefore, ← hp]
        exact List.mem_append_right front List.mem_cons_self
      exact absurd hmem region_notMem_lines

/-- An edit of a text with one region puts the body into this region. -/
theorem Surround.text_of_edits (a : Surround) {old body : List (List Char)} (h : Inside old)
    {before after : String} (hbefore : before.toList = a.text old) (hedits : Edits before body after) :
    after.toList = a.text body := by
  obtain ⟨front, opening, old', closing, back, hpieces, hafter⟩ := hedits
  rw [hbefore, a.pieces_text h] at hpieces
  obtain ⟨rfl, ⟨rfl, rfl⟩, rfl⟩ := eq_of_region_append hpieces
  rw [hafter, a.joinPieces_around]

/-- The line at which a body ends is the first one that closes a region. -/
theorem closesRegion_of_splitAtClosing {lines body after : List (List Char)} {closing : List Char}
    (h : splitAtClosing lines = some (body, closing, after)) :
    (∀ line ∈ body, closesRegion line = false) ∧ closesRegion closing = true := by
  induction lines generalizing body with
  | nil => cases h
  | cons line rest ih =>
    rw [splitAtClosing] at h
    split at h
    · next hline =>
      cases h
      exact ⟨List.forall_mem_nil _, hline⟩
    · next hline =>
      simp only [Option.map_eq_some_iff, Prod.mk.injEq] at h
      obtain ⟨⟨b, c, a⟩, hrest, rfl, rfl, rfl⟩ := h
      obtain ⟨hbody, hclosing⟩ := ih hrest
      exact ⟨List.forall_mem_cons.mpr ⟨Bool.eq_false_iff.mpr hline, hbody⟩, hclosing⟩

theorem of_mem_bodies {lines body : List (List Char)} (h : body ∈ bodies (piecesOf lines)) :
    ∀ line ∈ body, line ∈ lines ∧ closesRegion line = false := by
  fun_induction piecesOf lines with
  | case1 => cases h
  | case2 line rest _ body' closing after hsplit ih =>
    have hrest := splitAtClosing_eq hsplit
    rcases List.mem_cons.mp h with rfl | h
    · intro line' hline'
      refine ⟨List.mem_cons_of_mem line ?_, (closesRegion_of_splitAtClosing hsplit).1 line' hline'⟩
      rw [hrest]
      exact List.mem_append_left _ hline'
    · intro line' hline'
      obtain ⟨hmem, hcloses⟩ := ih h line' hline'
      refine ⟨List.mem_cons_of_mem line ?_, hcloses⟩
      rw [hrest]
      exact List.mem_append_right body' (List.mem_cons_of_mem closing hmem)
  | case3 line rest _ _ ih | case4 line rest _ ih =>
    intro line' hline'
    obtain ⟨hmem, hcloses⟩ := ih h line' hline'
    exact ⟨List.mem_cons_of_mem line hmem, hcloses⟩

/-- The bodies of a text that was read can stand in a region. -/
theorem inside_of_mem_bodies {text : List Char} (h : '\r' ∉ text) :
    ∀ body ∈ bodies (pieces text), Inside body := by
  intro body hbody line hline
  obtain ⟨hmem, hcloses⟩ := of_mem_bodies hbody line hline
  exact ⟨⟨not_mem_of_mem_splitLines hmem, fun hc => h (subset_of_mem_splitLines hmem hc)⟩, hcloses⟩

/-- Whatever is merged into a text with one region, it stays one. -/
theorem Surround.exists_mergeRegions (a : Surround) {new : String} (hnew : new.toList = a.text [])
    {old : Option String} (hold : ∀ text ∈ old, '\r' ∉ text.toList) :
    ∃ body, Inside body ∧ (mergeRegions new old).toList = a.text body := by
  have hempty : Inside [] := List.forall_mem_nil _
  cases old with
  | none => exact ⟨[], hempty, by rw [mergeRegions_none, hnew]⟩
  | some text =>
    refine ⟨_, ?_, a.mergeRegions_text hempty hnew text⟩
    split
    · exact hempty
    · cases hbodies : bodies (pieces text.toList) with
      | nil => exact hempty
      | cons body more =>
        refine inside_of_mem_bodies (hold text rfl) body ?_
        rw [hbodies]
        exact List.mem_cons_self

/-! ## Freshly generated text -/

/-- **Text as it is generated**: lines in which nothing opens a region, and at the end an empty region. -/
def Fresh (s : List Char) : Prop :=
  ∃ texts opening closing, (∀ t ∈ texts, Unopened t) ∧ opensRegion opening = true ∧
    closesRegion closing = true ∧ ('\n' ∉ closing ∧ '\r' ∉ closing) ∧
    closing.getLast? = some '>' ∧ s = joinLines (texts ++ [opening, closing, []])

/-- The canonical form of generated text is like it. -/
theorem Fresh.canonical {s : List Char} (h : Fresh s) : Fresh (canonicalChars s) := by
  obtain ⟨texts, opening, closing, htexts, hopens, hcloses, hflat, hlast, rfl⟩ := h
  have houtside := outside_flatMap htexts
  have hopening := not_mem_of_opensRegion hopens
  have hlines : joinLines (texts ++ [opening, closing, []]) =
      joinLines (texts.flatMap splitLines ++ [opening] ++ [closing, []]) := by
    rw [← joinLines_flatMap_splitLines (List.append_ne_nil_of_right_ne_nil _ (List.cons_ne_nil _ _))]
    simp only [List.flatMap_append, List.flatMap_cons, List.flatMap_nil,
      splitLines_of_not_mem hopening.1, splitLines_of_not_mem hflat.1,
      splitLines_of_not_mem List.not_mem_nil, List.append_assoc, List.cons_append, List.nil_append]
  have hfeed : ∀ line ∈ texts.flatMap splitLines ++ [opening] ++ [closing], '\n' ∉ line := by
    simp only [List.forall_mem_append, List.forall_mem_singleton]
    exact ⟨⟨fun line hline => (houtside line hline).1, hopening.1⟩, hflat.1⟩
  rw [hlines, canonicalChars_joinLines hfeed hlast (by decide)]
  refine ⟨(texts.flatMap splitLines).map trimLine, trimLine opening, closing, ?_, ?_, hcloses, hflat,
    hlast, ?_⟩
  · intro t ht
    obtain ⟨line, hline, rfl⟩ := List.mem_map.mp ht
    exact (unopened_trimLine line).mpr (houtside line hline).2
  · rw [opensRegion_trimLine, hopens]
  · rw [List.map_append, List.append_assoc]
    rfl

/-- Generated text and what is appended to it have one region, which is empty. -/
theorem Fresh.exists_surround {s : List Char} (h : Fresh s) {tail : List Char} (htail : Unopened tail) :
    ∃ a : Surround, s ++ tail = a.text [] := by
  obtain ⟨texts, opening, closing, htexts, hopens, hcloses, hflat, _, rfl⟩ := h
  refine ⟨{
    before := texts.flatMap splitLines
    opening, closing
    after := splitLines tail
    outside_before := outside_flatMap htexts
    opens := hopens
    closes := hcloses
    closing_flat := hflat
    outside_after := ?_ }, ?_⟩
  · have hafter := outside_flatMap (List.forall_mem_singleton.mpr htail)
    rwa [List.flatMap_cons, List.flatMap_nil, List.append_nil] at hafter
  · have hopening := not_mem_of_opensRegion hopens
    have hne : texts ++ [opening, closing] ≠ [] :=
      List.append_ne_nil_of_right_ne_nil _ (List.cons_ne_nil _ _)
    have hend : ∀ last : List Char, joinLines (texts ++ [opening, closing, last]) =
        joinLines (texts ++ [opening, closing]) ++ '\n' :: last := by
      intro last
      rw [← joinLines_singleton last, ← joinLines_append hne (List.cons_ne_nil _ _),
        joinLines_singleton, List.append_assoc]
      rfl
    calc joinLines (texts ++ [opening, closing, []]) ++ tail
        = joinLines (texts ++ [opening, closing, tail]) := by
          rw [hend, hend, List.append_assoc]
          rfl
      _ = joinLines ((texts ++ [opening, closing, tail]).flatMap splitLines) :=
          (joinLines_flatMap_splitLines
            (List.append_ne_nil_of_right_ne_nil _ (List.cons_ne_nil _ _))).symm
      _ = Surround.text _ [] := by
          simp only [Surround.text, List.flatMap_append, List.flatMap_cons, List.flatMap_nil,
            splitLines_of_not_mem hopening.1, splitLines_of_not_mem hflat.1, List.append_nil,
            List.cons_append, List.nil_append]

end SchemaScribe.Output
