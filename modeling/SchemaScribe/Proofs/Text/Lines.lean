import Mathlib.Data.List.Basic
import Mathlib.Data.List.DropRight
import SchemaScribe.Text.Lines

/-!
# Texts and their lines

A text is its lines put together, and lines without line feeds are the lines of the text they are put
together to. So what a function does to a text can be told line by line. Here that is done for reading, which
takes carriage returns for line ends, and for the canonical form, which only drops blanks at the ends of lines
and line feeds at the end of the text.
-/

namespace SchemaScribe.Text

/-! ## Splitting and joining -/

theorem joinLines_splitLines (s : List Char) : joinLines (splitLines s) = s :=
  List.intercalate_splitOn '\n'

theorem splitLines_joinLines {lines : List (List Char)} (h : ∀ line ∈ lines, '\n' ∉ line)
    (hne : lines ≠ []) : splitLines (joinLines lines) = lines :=
  List.splitOn_intercalate '\n' h hne

theorem splitLines_ne_nil (s : List Char) : splitLines s ≠ [] := List.splitOn_ne_nil '\n' s

theorem splitLines_append_feed (s t : List Char) :
    splitLines (s ++ '\n' :: t) = splitLines s ++ splitLines t :=
  List.splitOn_append_cons_self s t

theorem splitLines_of_not_mem {s : List Char} (h : '\n' ∉ s) : splitLines s = [s] :=
  List.splitOn_eq_singleton h

theorem joinLines_singleton (line : List Char) : joinLines [line] = line := List.intercalate_singleton

theorem joinLines_cons {lines : List (List Char)} (line : List Char) (h : lines ≠ []) :
    joinLines (line :: lines) = line ++ '\n' :: joinLines lines := by
  unfold joinLines
  rw [List.intercalate_cons_of_ne_nil h, List.append_assoc]
  rfl

/-- Joined texts have the lines of all of them. -/
theorem splitLines_joinLines_flatMap {texts : List (List Char)} (h : texts ≠ []) :
    splitLines (joinLines texts) = texts.flatMap splitLines := by
  induction texts with
  | nil => exact absurd rfl h
  | cons s rest ih =>
    cases rest with
    | nil =>
      rw [List.flatMap_cons, List.flatMap_nil, List.append_nil, joinLines_singleton]
    | cons s' rest' =>
      have hne : s' :: rest' ≠ [] := List.cons_ne_nil s' rest'
      rw [joinLines_cons s hne, splitLines_append_feed, ih hne]
      rfl

theorem joinLines_flatMap_splitLines {texts : List (List Char)} (h : texts ≠ []) :
    joinLines (texts.flatMap splitLines) = joinLines texts := by
  rw [← splitLines_joinLines_flatMap h, joinLines_splitLines]

theorem not_mem_of_mem_splitLines {s line : List Char} (h : line ∈ splitLines s) : '\n' ∉ line := by
  induction s generalizing line with
  | nil =>
    rw [splitLines_of_not_mem List.not_mem_nil] at h
    rw [List.mem_singleton.mp h]
    exact List.not_mem_nil
  | cons c rest ih =>
    unfold splitLines at h ih
    rw [List.splitOn_cons_eq_if_modifyHead] at h
    split at h
    · rcases List.mem_cons.mp h with rfl | h
      · exact List.not_mem_nil
      · exact ih h
    · next hc =>
      obtain ⟨first, more, hsplit⟩ := List.exists_cons_of_ne_nil (List.splitOn_ne_nil '\n' rest)
      rw [hsplit] at h ih
      rcases List.mem_cons.mp h with rfl | h
      · refine List.not_mem_cons_of_ne_of_not_mem (fun heq => hc ?_) (ih List.mem_cons_self)
        rw [heq, beq_self_eq_true]
      · exact ih (List.mem_cons_of_mem first h)

theorem joinLines_append {lines more : List (List Char)} (h : lines ≠ []) (h' : more ≠ []) :
    joinLines (lines ++ more) = joinLines lines ++ '\n' :: joinLines more := by
  induction lines with
  | nil => exact absurd rfl h
  | cons line rest ih =>
    rw [List.cons_append, joinLines_cons line (List.append_ne_nil_of_right_ne_nil rest h')]
    by_cases hrest : rest = []
    · subst hrest
      rw [List.nil_append, joinLines_singleton]
    · rw [ih hrest, joinLines_cons line hrest, List.append_assoc, List.cons_append]

/-- The last line takes what is put at the end of a text. -/
theorem exists_splitLines_append (s : List Char) : ∃ lines last, splitLines s = lines ++ [last] ∧
    ∀ t, '\n' ∉ t → splitLines (s ++ t) = lines ++ [last ++ t] := by
  have hne := splitLines_ne_nil s
  refine ⟨(splitLines s).dropLast, (splitLines s).getLast hne,
    (List.dropLast_append_getLast hne).symm, fun t ht => ?_⟩
  generalize hlines : (splitLines s).dropLast = lines
  generalize hlast : (splitLines s).getLast hne = last
  have hsplit : splitLines s = lines ++ [last] := by
    rw [← hlines, ← hlast, List.dropLast_append_getLast]
  have hlast : '\n' ∉ last ++ t := by
    rw [List.mem_append]
    refine not_or_intro (not_mem_of_mem_splitLines (s := s) ?_) ht
    rw [hsplit]
    exact List.mem_append_right lines List.mem_cons_self
  have hjoin : s = joinLines (lines ++ [last]) := by rw [← hsplit, joinLines_splitLines]
  by_cases hnil : lines = []
  · subst hnil
    have hs : s = last := hjoin.trans (joinLines_singleton last)
    rw [hs, splitLines_of_not_mem hlast, List.nil_append]
  · have hlines : splitLines (joinLines lines) = lines := by
      refine splitLines_joinLines (fun line hline => ?_) hnil
      refine not_mem_of_mem_splitLines (s := s) ?_
      rw [hsplit]
      exact List.mem_append_left [last] hline
    have hs : s ++ t = joinLines lines ++ '\n' :: (last ++ t) := by
      rw [hjoin, joinLines_append hnil (List.cons_ne_nil last []), joinLines_singleton,
        List.append_assoc, List.cons_append]
    rw [hs, splitLines_append_feed, hlines, splitLines_of_not_mem hlast]

/-- The first line takes what is put in front of a text. -/
theorem exists_append_splitLines (s : List Char) : ∃ first lines, splitLines s = first :: lines ∧
    ∀ t, '\n' ∉ t → splitLines (t ++ s) = (t ++ first) :: lines := by
  obtain ⟨first, lines, hsplit⟩ := List.exists_cons_of_ne_nil (splitLines_ne_nil s)
  refine ⟨first, lines, hsplit, fun t ht => ?_⟩
  have hmem : ∀ line ∈ first :: lines, '\n' ∉ line := fun line hline =>
    not_mem_of_mem_splitLines (hsplit ▸ hline)
  have hfirst : '\n' ∉ t ++ first := by
    rw [List.mem_append]
    exact not_or_intro ht (hmem first List.mem_cons_self)
  have hjoin : s = joinLines (first :: lines) := by rw [← hsplit, joinLines_splitLines]
  by_cases hnil : lines = []
  · subst hnil
    rw [hjoin, ← splitLines_of_not_mem hfirst, joinLines_singleton]
  · rw [hjoin, joinLines_cons first hnil, ← List.append_assoc, splitLines_append_feed,
      splitLines_of_not_mem hfirst,
      splitLines_joinLines (fun line hline => hmem line (List.mem_cons_of_mem first hline)) hnil]
    rfl

/-! ## Reading -/

theorem unifyNewlines_of_not_mem {s : List Char} (h : '\r' ∉ s) : unifyNewlines s = s := by
  fun_induction unifyNewlines s with
  | case1 => rfl
  | case2 rest _ => exact absurd List.mem_cons_self h
  | case3 rest _ _ => exact absurd List.mem_cons_self h
  | case4 c rest _ _ ih => rw [ih fun hrest => h (List.mem_cons_of_mem c hrest)]

theorem not_mem_unifyNewlines (s : List Char) : '\r' ∉ unifyNewlines s := by
  fun_induction unifyNewlines s with
  | case1 => exact List.not_mem_nil
  | case2 rest ih => exact List.not_mem_cons_of_ne_of_not_mem (by decide) ih
  | case3 rest _ ih => exact List.not_mem_cons_of_ne_of_not_mem (by decide) ih
  | case4 c rest _ hc ih => exact List.not_mem_cons_of_ne_of_not_mem (Ne.symm hc) ih

/-- What is read has no characters but those of the text and line feeds. -/
theorem mem_unifyNewlines {c : Char} {s : List Char} (h : c ∈ unifyNewlines s) : c = '\n' ∨ c ∈ s := by
  fun_induction unifyNewlines s with
  | case1 => cases h
  | case2 rest ih =>
    rcases List.mem_cons.mp h with rfl | h
    · exact .inl rfl
    · exact (ih h).imp_right fun hrest => List.mem_cons_of_mem _ (List.mem_cons_of_mem _ hrest)
  | case3 rest _ ih =>
    rcases List.mem_cons.mp h with rfl | h
    · exact .inl rfl
    · exact (ih h).imp_right (List.mem_cons_of_mem _)
  | case4 first rest _ _ ih =>
    rcases List.mem_cons.mp h with rfl | h
    · exact .inr List.mem_cons_self
    · exact (ih h).imp_right (List.mem_cons_of_mem _)

theorem unifyNewlines_cons {c : Char} (h : c ≠ '\r') (s : List Char) :
    unifyNewlines (c :: s) = c :: unifyNewlines s := by
  rw [unifyNewlines]
  · exact fun _ hc _ => h hc
  · exact h

theorem unifyNewlines_return {s : List Char} (h : s.head? ≠ some '\n') :
    unifyNewlines ('\r' :: s) = '\n' :: unifyNewlines s := by
  rw [unifyNewlines]
  rintro rest rfl
  exact h rfl

theorem unifyNewlines_returnFeed (s : List Char) :
    unifyNewlines ('\r' :: '\n' :: s) = '\n' :: unifyNewlines s := by
  rw [unifyNewlines]

/-- Texts are read one after another, unless a line end is split between them. -/
theorem unifyNewlines_append {s t : List Char}
    (h : s.getLast? = some '\r' → t.head? ≠ some '\n') :
    unifyNewlines (s ++ t) = unifyNewlines s ++ unifyNewlines t := by
  have hlast : ∀ (c : Char) (rest : List Char), rest.getLast? = some '\r' →
      (c :: rest).getLast? = some '\r' := by
    intro c rest hrest
    rw [List.getLast?_cons, hrest]
    rfl
  fun_induction unifyNewlines s with
  | case1 => rfl
  | case2 rest ih =>
    rw [List.cons_append, List.cons_append, unifyNewlines_returnFeed,
      ih fun hrest => h (hlast _ _ (hlast _ _ hrest))]
    rfl
  | case3 rest hrest ih =>
    have hhead : (rest ++ t).head? ≠ some '\n' := by
      cases rest with
      | nil => exact h rfl
      | cons d rest => exact fun heq => hrest rest (by rw [Option.some.inj heq])
    rw [List.cons_append, unifyNewlines_return hhead, ih fun hrest => h (hlast _ _ hrest)]
    rfl
  | case4 c rest _ hc ih =>
    rw [List.cons_append, unifyNewlines_cons hc, ih fun hrest => h (hlast _ _ hrest)]
    rfl

/-! ## Properties of the lines that are read -/

/-- The lines of a text as it is read. -/
def readLines (s : List Char) : List (List Char) := splitLines (unifyNewlines s)

theorem readLines_of_flat {s : List Char} (hfeed : '\n' ∉ s) (hreturn : '\r' ∉ s) :
    readLines s = [s] := by
  unfold readLines
  rw [unifyNewlines_of_not_mem hreturn, splitLines_of_not_mem hfeed]

theorem readLines_append_feed {s : List Char} (h : s.getLast? ≠ some '\r') (t : List Char) :
    readLines (s ++ '\n' :: t) = readLines s ++ readLines t := by
  unfold readLines
  rw [unifyNewlines_append fun hs => absurd hs h, unifyNewlines_cons (by decide),
    splitLines_append_feed]

/-- A carriage return before a line feed is part of the line end. -/
theorem readLines_append_returnFeed (s t : List Char) :
    readLines (s ++ '\r' :: '\n' :: t) = readLines s ++ readLines t := by
  unfold readLines
  rw [unifyNewlines_append fun _ => by exact nofun, unifyNewlines_returnFeed, splitLines_append_feed]

theorem readLines_append_return (s : List Char) : readLines (s ++ ['\r']) = readLines s ++ [[]] := by
  unfold readLines
  rw [unifyNewlines_append fun _ => by exact nofun]
  exact splitLines_append_feed _ []

/-- A property that every line has when a text is read. -/
def EveryLine (P : List Char → Prop) (s : List Char) : Prop := ∀ line ∈ readLines s, P line

instance (P : List Char → Prop) [DecidablePred P] (s : List Char) : Decidable (EveryLine P s) :=
  inferInstanceAs (Decidable (∀ line ∈ readLines s, P line))

variable {P : List Char → Prop}

theorem everyLine_of_flat {s : List Char} (hfeed : '\n' ∉ s) (hreturn : '\r' ∉ s) :
    EveryLine P s ↔ P s := by
  unfold EveryLine
  rw [readLines_of_flat hfeed hreturn]
  exact List.forall_mem_singleton

/-- Of texts one behind the other every line has a property if it has in each of them; that the line end
between them may take a carriage return along does not matter to a property of the empty line. -/
theorem everyLine_append_feed (hnil : P []) (s t : List Char) :
    EveryLine P (s ++ '\n' :: t) ↔ EveryLine P s ∧ EveryLine P t := by
  unfold EveryLine
  by_cases hs : s.getLast? = some '\r'
  · obtain ⟨s', rfl⟩ := List.getLast?_eq_some_iff.mp hs
    rw [List.append_assoc, List.singleton_append, readLines_append_returnFeed,
      readLines_append_return, List.forall_mem_append, List.forall_mem_append,
      List.forall_mem_singleton, and_iff_left hnil]
  · rw [readLines_append_feed hs, List.forall_mem_append]

theorem everyLine_joinLines (hnil : P []) (texts : List (List Char)) :
    EveryLine P (joinLines texts) ↔ ∀ s ∈ texts, EveryLine P s := by
  induction texts with
  | nil =>
    refine iff_of_true ((everyLine_of_flat List.not_mem_nil List.not_mem_nil).mpr hnil) ?_
    exact fun _ h => absurd h List.not_mem_nil
  | cons s rest ih =>
    rw [List.forall_mem_cons]
    cases rest with
    | nil =>
      rw [joinLines_singleton]
      exact (and_iff_left fun _ h => absurd h List.not_mem_nil).symm
    | cons s' rest' => rw [joinLines_cons s (List.cons_ne_nil s' rest'), everyLine_append_feed hnil, ih]

/-- What has no line ends goes to the last line if it is put at the end, and to the first in front. -/
theorem everyLine_append_of_flat {t : List Char} (hfeed : '\n' ∉ t) (hreturn : '\r' ∉ t)
    (hP : ∀ line, P (line ++ t) ↔ P line) (s : List Char) :
    EveryLine P (s ++ t) ↔ EveryLine P s := by
  have hread : unifyNewlines (s ++ t) = unifyNewlines s ++ t := by
    rw [unifyNewlines_append fun _ ht => hfeed (List.mem_of_mem_head? (Option.mem_def.mpr ht)),
      unifyNewlines_of_not_mem hreturn]
  obtain ⟨lines, last, hsplit, happend⟩ := exists_splitLines_append (unifyNewlines s)
  unfold EveryLine readLines
  rw [hread, happend t hfeed, hsplit, List.forall_mem_append, List.forall_mem_append,
    List.forall_mem_singleton, List.forall_mem_singleton, hP]

theorem everyLine_of_flat_append {t : List Char} (hfeed : '\n' ∉ t) (hreturn : '\r' ∉ t)
    (hP : ∀ line, P (t ++ line) ↔ P line) (s : List Char) :
    EveryLine P (t ++ s) ↔ EveryLine P s := by
  have hread : unifyNewlines (t ++ s) = t ++ unifyNewlines s := by
    rw [unifyNewlines_append fun ht => absurd (List.mem_of_getLast? ht) hreturn,
      unifyNewlines_of_not_mem hreturn]
  obtain ⟨first, lines, hsplit, happend⟩ := exists_append_splitLines (unifyNewlines s)
  unfold EveryLine readLines
  rw [hread, happend t hfeed, hsplit, List.forall_mem_cons, List.forall_mem_cons, hP]

/-! ## Dropping at the end -/

/-- What is left of a list after dropping at the end, said without doing it. -/
theorem eq_rdropWhile_iff {α : Type} {p : α → Bool} {l kept : List α} : kept = l.rdropWhile p ↔
    ∃ dropped, l = kept ++ dropped ∧ (∀ a ∈ dropped, p a = true) ∧ ∀ a ∈ kept.getLast?, p a = false := by
  constructor
  · rintro rfl
    refine ⟨l.rtakeWhile p, List.rdropWhile_append_rtakeWhile.symm, fun a => List.mem_rtakeWhile_imp, ?_⟩
    intro a ha
    obtain ⟨hne, rfl⟩ := List.mem_getLast?_eq_getLast ha
    exact Bool.eq_false_iff.mpr (List.rdropWhile_last_not p l hne)
  · rintro ⟨dropped, rfl, hdropped, hkept⟩
    induction dropped using List.reverseRecOn with
    | nil =>
      rw [List.append_nil]
      refine (List.rdropWhile_eq_self_iff.mpr fun hne => ?_).symm
      exact Bool.eq_false_iff.mp (hkept _ (List.getLast?_eq_some_getLast hne))
    | append_singleton dropped a ih =>
      rw [← List.append_assoc, List.rdropWhile_concat_pos _ _ _ (hdropped a (by simp))]
      exact ih fun b hb => hdropped b (List.mem_append_left _ hb)

/-- Spaces and tabs. -/
def IsGap (c : Char) : Prop := c = ' ' ∨ c = '\t'

/-- **A trimmed line**: the line without the spaces and tabs at its end, all of them. -/
def Trims (line short : List Char) : Prop :=
  ∃ gap, line = short ++ gap ∧ (∀ c ∈ gap, IsGap c) ∧ ∀ c ∈ short.getLast?, ¬ IsGap c

theorem trims_iff {line short : List Char} : Trims line short ↔ short = trimLine line := by
  have htest : ∀ c : Char, (c = ' ' || c = '\t') = true ↔ IsGap c := by
    intro c
    rw [Bool.or_eq_true, decide_eq_true_eq, decide_eq_true_eq]
    rfl
  refine Iff.trans ?_ eq_rdropWhile_iff.symm
  unfold Trims
  simp only [← Bool.not_eq_true, htest]

theorem trims_trimLine (line : List Char) : Trims line (trimLine line) := trims_iff.mpr rfl

/-- **A text without its final line feeds**, however many these are. -/
def Unended (s body : List Char) : Prop :=
  ∃ n, s = body ++ List.replicate n '\n' ∧ body.getLast? ≠ some '\n'

theorem unended_iff {s body : List Char} : Unended s body ↔ body = dropFinalFeeds s := by
  refine Iff.trans ?_ eq_rdropWhile_iff.symm
  constructor
  · rintro ⟨n, rfl, hlast⟩
    refine ⟨List.replicate n '\n', rfl, fun c hc => ?_, fun c hc => ?_⟩
    · rw [List.eq_of_mem_replicate hc]
      rfl
    · refine decide_eq_false ?_
      rintro rfl
      exact hlast hc
  · rintro ⟨feeds, rfl, hfeeds, hlast⟩
    have hreplicate := List.eq_replicate_of_mem fun c hc => of_decide_eq_true (hfeeds c hc)
    refine ⟨feeds.length, by rw [← hreplicate], fun h => ?_⟩
    exact absurd (hlast '\n' h) (by decide)

theorem unended_dropFinalFeeds (s : List Char) : Unended s (dropFinalFeeds s) := unended_iff.mpr rfl

/-! ## The canonical form -/

theorem exists_trimLine_append (line : List Char) :
    ∃ blanks, line = trimLine line ++ blanks ∧ ∀ c ∈ blanks, c = ' ' ∨ c = '\t' := by
  obtain ⟨gap, hline, hgap, -⟩ := trims_trimLine line
  exact ⟨gap, hline, hgap⟩

theorem trimLine_sublist (line : List Char) : (trimLine line).Sublist line := by
  obtain ⟨gap, hline, -⟩ := trims_trimLine line
  exact List.IsPrefix.sublist ⟨gap, hline.symm⟩

theorem dropFinalFeeds_sublist (s : List Char) : (dropFinalFeeds s).Sublist s := by
  obtain ⟨n, hs, -⟩ := unended_dropFinalFeeds s
  exact List.IsPrefix.sublist ⟨_, hs.symm⟩

theorem trimLine_append {blanks : List Char} (h : ∀ c ∈ blanks, c = ' ' ∨ c = '\t')
    (line : List Char) : trimLine (line ++ blanks) = trimLine line := by
  obtain ⟨gap, hline, hgap, hlast⟩ := trims_trimLine line
  refine (trims_iff.mp ⟨gap ++ blanks, ?_, List.forall_mem_append.mpr ⟨hgap, h⟩, hlast⟩).symm
  rw [← List.append_assoc, ← hline]

theorem trimLine_of_getLast? {line : List Char} {c : Char} (h : line.getLast? = some c)
    (hvisible : c ≠ ' ' ∧ c ≠ '\t') : trimLine line = line := by
  refine (trims_iff.mp ⟨[], (List.append_nil line).symm, List.forall_mem_nil _, ?_⟩).symm
  rw [h]
  rintro d ⟨⟩
  exact not_or.mpr hvisible

theorem dropFinalFeeds_append_feed {s : List Char} {c : Char} (h : s.getLast? = some c)
    (hc : c ≠ '\n') : dropFinalFeeds (s ++ ['\n']) = s := by
  refine (unended_iff.mp ⟨1, rfl, ?_⟩).symm
  rw [h]
  exact fun heq => hc (Option.some.inj heq)

theorem getLast?_joinLines {lines : List (List Char)} {last : List Char} (h : last ≠ []) :
    (joinLines (lines ++ [last])).getLast? = last.getLast? := by
  by_cases hnil : lines = []
  · rw [hnil, List.nil_append, joinLines_singleton]
  · rw [joinLines_append hnil (List.cons_ne_nil last []), joinLines_singleton, List.getLast?_append,
      List.getLast?_cons, Option.some_or]
    obtain ⟨c, hc⟩ := Option.isSome_iff_exists.mp (List.getLast?_isSome.mpr h)
    rw [hc]
    rfl

/-- Lines that end in something visible, with a line feed behind, have only their own ends trimmed. -/
theorem canonicalChars_joinLines {lines : List (List Char)} {last : List Char}
    (hlines : ∀ line ∈ lines ++ [last], '\n' ∉ line) {c : Char} (hlast : last.getLast? = some c)
    (hvisible : c ≠ ' ' ∧ c ≠ '\t') :
    canonicalChars (joinLines (lines ++ [last, []])) =
      joinLines (lines.map trimLine ++ [last, []]) := by
  have hne : last ≠ [] := by
    rintro rfl
    cases hlast
  have hc : c ≠ '\n' := by
    rintro rfl
    exact hlines last (List.mem_append_right lines List.mem_cons_self) (List.mem_of_getLast? hlast)
  have hsplit : splitLines (joinLines (lines ++ [last, []])) = lines ++ [last, []] := by
    refine splitLines_joinLines (fun line hline => ?_)
      (List.append_ne_nil_of_right_ne_nil _ (List.cons_ne_nil _ _))
    rw [List.append_cons] at hline
    rcases List.mem_append.mp hline with hline | hline
    · exact hlines line hline
    · rw [List.mem_singleton.mp hline]
      exact List.not_mem_nil
  have hjoin : ∀ lines' : List (List Char), joinLines (lines' ++ [last, []]) =
      joinLines (lines' ++ [last]) ++ ['\n'] := by
    intro lines'
    have hne : lines' ++ [last] ≠ [] := List.append_ne_nil_of_right_ne_nil _ (List.cons_ne_nil _ _)
    rw [List.append_cons, joinLines_append hne (List.cons_ne_nil _ _)]
    rfl
  unfold canonicalChars
  rw [hsplit, List.map_append, List.map_cons, trimLine_of_getLast? hlast hvisible, hjoin]
  show dropFinalFeeds (joinLines (lines.map trimLine ++ [last, []])) ++ ['\n'] = _
  rw [hjoin, dropFinalFeeds_append_feed ((getLast?_joinLines hne).trans hlast) hc]

/-! ## Characters of texts -/

theorem mem_joinLines {c : Char} {lines : List (List Char)} (h : c ∈ joinLines lines) :
    c = '\n' ∨ ∃ line ∈ lines, c ∈ line := by
  induction lines with
  | nil => cases h
  | cons line rest ih =>
    by_cases hrest : rest = []
    · subst hrest
      rw [joinLines_singleton] at h
      exact .inr ⟨line, List.mem_cons_self, h⟩
    · rw [joinLines_cons line hrest, List.mem_append, List.mem_cons] at h
      rcases h with h | h | h
      · exact .inr ⟨line, List.mem_cons_self, h⟩
      · exact .inl h
      · refine (ih h).imp_right fun ⟨line', hline', hc⟩ => ?_
        exact ⟨line', List.mem_cons_of_mem line hline', hc⟩

theorem subset_joinLines {lines : List (List Char)} {line : List Char} (h : line ∈ lines) :
    line ⊆ joinLines lines := by
  induction lines with
  | nil => cases h
  | cons first rest ih =>
    by_cases hrest : rest = []
    · subst hrest
      rw [joinLines_singleton, List.mem_singleton.mp h]
      exact List.Subset.refl first
    · rw [joinLines_cons first hrest]
      rcases List.mem_cons.mp h with rfl | h
      · exact List.subset_append_left line _
      · exact fun c hc => List.mem_append_right first (List.mem_cons_of_mem '\n' (ih h hc))

theorem subset_of_mem_splitLines {s line : List Char} (h : line ∈ splitLines s) : line ⊆ s := by
  have hline := subset_joinLines h
  rwa [joinLines_splitLines] at hline

theorem toList_canonical (s : String) : (canonical s).toList = canonicalChars s.toList := String.toList_ofList

/-- The canonical form has no characters but those of the text and line feeds. -/
theorem mem_canonicalChars {c : Char} {s : List Char} (h : c ∈ canonicalChars s) :
    c = '\n' ∨ c ∈ s := by
  unfold canonicalChars at h
  rcases List.mem_append.mp h with h | h
  · have hjoined := (dropFinalFeeds_sublist _).subset h
    refine (mem_joinLines hjoined).imp_right fun ⟨line, hline, hc⟩ => ?_
    obtain ⟨line', hline', rfl⟩ := List.mem_map.mp hline
    exact subset_of_mem_splitLines hline' ((trimLine_sublist line').subset hc)
  · exact .inl (List.mem_singleton.mp h)

/-- The canonical form has all characters of the text but spaces, tabs and line feeds. -/
theorem mem_canonicalChars_of_mem {c : Char} {s : List Char} (h : c ∈ s)
    (hvisible : c ≠ ' ' ∧ c ≠ '\t' ∧ c ≠ '\n') : c ∈ canonicalChars s := by
  obtain ⟨hspace, htab, hfeed⟩ := hvisible
  have htrimmed : c ∈ joinLines ((splitLines s).map trimLine) := by
    rw [← joinLines_splitLines s] at h
    obtain ⟨line, hline, hc⟩ := (mem_joinLines h).resolve_left hfeed
    obtain ⟨blanks, heq, hblanks⟩ := exists_trimLine_append line
    rw [heq] at hc
    refine subset_joinLines (List.mem_map_of_mem hline) ((List.mem_append.mp hc).resolve_right fun hblank => ?_)
    exact (hblanks c hblank).elim hspace htab
  obtain ⟨n, hbody, -⟩ := unended_dropFinalFeeds (joinLines ((splitLines s).map trimLine))
  rw [hbody] at htrimmed
  refine List.mem_append_left _ ((List.mem_append.mp htrimmed).resolve_right fun hfeeds => ?_)
  exact hfeed (List.mem_replicate.mp hfeeds).2

end SchemaScribe.Text
