import Mathlib.Data.List.Forall2
import Mathlib.Logic.Relation
import SchemaScribe.Output.Writer
import SchemaScribe.Proofs.Text.Lines

/-!
# The canonical form of a text

The canonical form stands for all texts that look alike: those that come from one another by adding and dropping
blanks at the ends of lines and line feeds at the end of the text. Dropping one of these is a step (`Shortens`).
A step changes no canonical form (`Shortens.canonicalChars_eq`), and steps lead from a text and from its canonical
form to one text (`eqvGen_canonicalChars`). So two texts have one canonical form if and only if steps in either
direction lead from one to the other, and a second canonical form is the first.

What the form is made of is said without the functions that make it: the lines, trimmed, without the line feeds
at the end (`FormOf`). It also comes from one scan along the text that never looks at lines (`scanned`).
-/

namespace SchemaScribe.Text

/-! ## The form of a text -/

/-- **A text in canonical form** for another one: its lines trimmed, the line feeds at the end dropped, and one
line feed behind all that. -/
def FormOf (s form : List Char) : Prop :=
  ∃ lines body, List.Forall₂ Trims (splitLines s) lines ∧ Unended (joinLines lines) body ∧ form = body ++ ['\n']

/-- A text has exactly one canonical form. -/
theorem formOf_iff {s form : List Char} : FormOf s form ↔ form = canonicalChars s := by
  have hlines : ∀ lines, List.Forall₂ Trims (splitLines s) lines ↔ lines = (splitLines s).map trimLine := by
    intro lines
    have htrims : Trims = fun line short => trimLine line = short := by
      funext line short
      exact propext (trims_iff.trans eq_comm)
    rw [htrims, eq_comm, ← congrFun₂ List.forall₂_eq_eq_eq, List.forall₂_map_left_iff]
  unfold FormOf
  simp only [hlines, unended_iff]
  constructor
  · rintro ⟨lines, body, rfl, rfl, rfl⟩
    rfl
  · rintro rfl
    exact ⟨_, _, rfl, rfl, rfl⟩

/-! ## Texts that look alike -/

/-- **A step** drops a space or tab at the end of a line, or a line feed at the end of the text. -/
inductive Shortens : List Char → List Char → Prop
  | gap {c : Char} {before after : List Char} : IsGap c → (after = [] ∨ ∃ more, after = '\n' :: more) →
      Shortens (before ++ c :: after) (before ++ after)
  | feed {before : List Char} : Shortens (before ++ ['\n']) before

theorem Shortens.append_left {s t : List Char} (h : Shortens s t) (front : List Char) :
    Shortens (front ++ s) (front ++ t) := by
  cases h with
  | gap hc hafter =>
    rw [← List.append_assoc, ← List.append_assoc]
    exact .gap hc hafter
  | feed =>
    rw [← List.append_assoc]
    exact .feed

/-- A space or tab at the end of a text is not in its trimmed lines. -/
theorem map_trimLine_concat {c : Char} (h : IsGap c) (s : List Char) :
    (splitLines (s ++ [c])).map trimLine = (splitLines s).map trimLine := by
  have hflat : '\n' ∉ [c] := by
    rintro (_ | ⟨_, ⟨⟩⟩)
    rcases h with h | h <;> cases h
  obtain ⟨lines, last, hsplit, happend⟩ := exists_splitLines_append s
  rw [happend [c] hflat, hsplit, List.map_append, List.map_append, List.map_singleton, List.map_singleton,
    trimLine_append (List.forall_mem_singleton.mpr h)]

/-- **A step changes no canonical form.** -/
theorem Shortens.canonicalChars_eq {s t : List Char} (h : Shortens s t) : canonicalChars s = canonicalChars t := by
  unfold canonicalChars
  cases h with
  | @gap c before after hc hafter =>
    rcases hafter with rfl | ⟨more, rfl⟩
    · rw [map_trimLine_concat hc, List.append_nil]
    · rw [List.append_cons before c, splitLines_append_feed, splitLines_append_feed, List.map_append,
        List.map_append, map_trimLine_concat hc]
  | feed =>
    have hne : (splitLines t).map trimLine ≠ [] := by
      rw [ne_eq, List.map_eq_nil_iff]
      exact splitLines_ne_nil t
    have hlast : joinLines [trimLine []] = [] := joinLines_singleton []
    rw [splitLines_append_feed, splitLines_of_not_mem List.not_mem_nil, List.map_append, List.map_singleton,
      joinLines_append hne (List.cons_ne_nil _ _), hlast]
    exact congrArg (· ++ ['\n']) (List.rdropWhile_concat_pos _ _ _ rfl)

/-- Spaces and tabs at the end of a line are dropped one by one. -/
theorem reaches_withoutGap {gap : List Char} (hgap : ∀ c ∈ gap, IsGap c) (before : List Char) {after : List Char}
    (hafter : after = [] ∨ ∃ more, after = '\n' :: more) :
    Relation.ReflTransGen Shortens (before ++ gap ++ after) (before ++ after) := by
  induction gap using List.reverseRecOn with
  | nil => rw [List.append_nil]
  | append_singleton gap c ih =>
    have hstep : Shortens (before ++ (gap ++ [c]) ++ after) (before ++ gap ++ after) := by
      rw [← List.append_assoc, List.append_assoc, List.singleton_append]
      exact .gap (hgap c (by simp)) hafter
    exact .head hstep (ih fun d hd => hgap d (List.mem_append_left [c] hd))

/-- Steps trim lines. -/
theorem reaches_trimmed (lines : List (List Char)) :
    Relation.ReflTransGen Shortens (joinLines lines) (joinLines (lines.map trimLine)) := by
  induction lines with
  | nil => exact .refl
  | cons line rest ih =>
    obtain ⟨gap, hline, hgap, -⟩ := trims_trimLine line
    by_cases hnil : rest = []
    · subst hnil
      have hreaches := reaches_withoutGap hgap (trimLine line) (.inl rfl)
      rw [← hline, List.append_nil, List.append_nil] at hreaches
      rw [List.map_singleton, joinLines_singleton, joinLines_singleton]
      exact hreaches
    · have hmap : rest.map trimLine ≠ [] := by rwa [ne_eq, List.map_eq_nil_iff]
      have hreaches := reaches_withoutGap hgap (trimLine line) (.inr ⟨joinLines rest, rfl⟩)
      rw [← hline] at hreaches
      rw [List.map_cons, joinLines_cons line hnil, joinLines_cons (trimLine line) hmap, List.append_cons,
        List.append_cons (trimLine line)]
      rw [List.append_cons, List.append_cons (trimLine line)] at hreaches
      exact hreaches.trans (ih.lift _ fun _ _ h => h.append_left (trimLine line ++ ['\n']))

/-- Steps drop line feeds at the end. -/
theorem reaches_unended (body : List Char) (n : Nat) :
    Relation.ReflTransGen Shortens (body ++ List.replicate n '\n') body := by
  induction n with
  | zero => rw [List.replicate_zero, List.append_nil]
  | succ n ih =>
    rw [List.replicate_succ', ← List.append_assoc]
    exact .head .feed ih

/-- **A text and its canonical form look alike.** -/
theorem eqvGen_canonicalChars (s : List Char) : Relation.EqvGen Shortens s (canonicalChars s) := by
  obtain ⟨n, hfeeds, -⟩ := unended_dropFinalFeeds (joinLines ((splitLines s).map trimLine))
  have hlines := reaches_trimmed (splitLines s)
  rw [joinLines_splitLines, hfeeds] at hlines
  have hbody := Relation.EqvGen.reflTransGen_le_eqvGen Shortens _ _ (hlines.trans (reaches_unended _ n))
  exact hbody.trans _ _ _ (.symm _ _ (.rel _ _ .feed))

/-- **Two texts have one canonical form** if and only if they look alike: blanks at the ends of lines and line
feeds at the end lead from one to the other. -/
theorem canonicalChars_eq_iff {s t : List Char} :
    canonicalChars s = canonicalChars t ↔ Relation.EqvGen Shortens s t := by
  constructor
  · intro h
    have ht := eqvGen_canonicalChars t
    rw [← h] at ht
    exact (eqvGen_canonicalChars s).trans _ _ _ ht.symm
  · intro h
    induction h with
    | rel s t h => exact h.canonicalChars_eq
    | refl s => rfl
    | symm s t _ ih => exact ih.symm
    | trans s t u _ _ hst htu => exact hst.trans htu

theorem canonicalChars_canonicalChars (s : List Char) : canonicalChars (canonicalChars s) = canonicalChars s :=
  canonicalChars_eq_iff.mpr (eqvGen_canonicalChars s).symm

/-! ## One scan -/

instance (c : Char) : Decidable (IsGap c) := inferInstanceAs (Decidable (c = ' ' ∨ c = '\t'))

/-- A text without the spaces and tabs that nothing but spaces and tabs parts from a line feed or from the end. -/
def scanned : List Char → List Char
  | [] => []
  | c :: rest =>
    if IsGap c ∧ (rest.dropWhile fun d => decide (IsGap d)).head?.all (· = '\n') then scanned rest
    else c :: scanned rest

theorem trimLine_of_gap {line : List Char} (h : ∀ c ∈ line, IsGap c) : trimLine line = [] := by
  have htrims : Trims line [] := ⟨line, rfl, h, by exact nofun⟩
  exact (trims_iff.mp htrims).symm

theorem trimLine_cons {c : Char} {line : List Char} (h : ¬ ∀ d ∈ c :: line, IsGap d) :
    trimLine (c :: line) = c :: trimLine line := by
  obtain ⟨gap, hline, hgap, hlast⟩ := trims_trimLine line
  refine (trims_iff.mp ⟨gap, by rw [List.cons_append, ← hline], hgap, fun d hd => ?_⟩).symm
  cases hshort : trimLine line with
  | nil =>
    -- then the rest of the line is a gap, so the first character is none
    rw [hshort] at hd hline
    cases hd
    rw [hline] at h
    exact fun hc => h (List.forall_mem_cons.mpr ⟨hc, hgap⟩)
  | cons e short =>
    rw [hshort] at hd hlast
    rw [List.getLast?_cons_cons] at hd
    exact hlast d hd

/-- A scan sees the end of a line ahead if and only if nothing but spaces and tabs is left of it. -/
theorem endsAhead_iff {line rest : List Char} (hline : '\n' ∉ line)
    (hrest : rest = [] ∨ ∃ more, rest = '\n' :: more) :
    ((line ++ rest).dropWhile fun d => decide (IsGap d)).head?.all (· = '\n') = true ↔ ∀ d ∈ line, IsGap d := by
  induction line with
  | nil =>
    refine iff_of_true ?_ (List.forall_mem_nil _)
    rcases hrest with rfl | ⟨more, rfl⟩
    · rfl
    · rfl
  | cons c line ih =>
    obtain ⟨hc, hline⟩ := not_or.mp (List.mem_cons.not.mp hline)
    rw [List.cons_append, List.dropWhile_cons, List.forall_mem_cons]
    by_cases hgap : IsGap c
    · rw [if_pos (decide_eq_true hgap), ih hline, and_iff_right hgap]
    · rw [if_neg (by rwa [decide_eq_true_eq]), List.head?_cons, Option.all_some, decide_eq_true_eq]
      exact iff_of_false (Ne.symm hc) fun h => hgap h.1

/-- A scan trims the line it is in. -/
theorem scanned_append {line rest : List Char} (hline : '\n' ∉ line)
    (hrest : rest = [] ∨ ∃ more, rest = '\n' :: more) : scanned (line ++ rest) = trimLine line ++ scanned rest := by
  induction line with
  | nil => rfl
  | cons c line ih =>
    obtain ⟨-, hline⟩ := not_or.mp (List.mem_cons.not.mp hline)
    have hends := and_congr_right fun _ : IsGap c => endsAhead_iff hline hrest
    rw [← List.forall_mem_cons] at hends
    rw [List.cons_append, scanned, ih hline]
    by_cases h : ∀ d ∈ c :: line, IsGap d
    · rw [if_pos (hends.mpr h), trimLine_of_gap h, trimLine_of_gap (List.forall_mem_cons.mp h).2]
    · rw [if_neg (mt hends.mp h), trimLine_cons h, List.cons_append]

theorem scanned_joinLines {lines : List (List Char)} (h : ∀ line ∈ lines, '\n' ∉ line) :
    scanned (joinLines lines) = joinLines (lines.map trimLine) := by
  induction lines with
  | nil => rfl
  | cons line rest ih =>
    obtain ⟨hline, hrest⟩ := List.forall_mem_cons.mp h
    by_cases hnil : rest = []
    · subst hnil
      rw [List.map_singleton, joinLines_singleton, joinLines_singleton, ← List.append_nil line,
        scanned_append hline (.inl rfl), List.append_nil]
      exact List.append_nil _
    · have hmap : rest.map trimLine ≠ [] := by rwa [ne_eq, List.map_eq_nil_iff]
      have hfeed : scanned ('\n' :: joinLines rest) = '\n' :: scanned (joinLines rest) := by
        rw [scanned, if_neg fun h => absurd h.1 (by decide)]
      rw [List.map_cons, joinLines_cons line hnil, joinLines_cons (trimLine line) hmap,
        scanned_append hline (.inr ⟨_, rfl⟩), hfeed, ih hrest]

/-- **One scan trims every line**: it drops the blanks that `trimLine` drops, without taking the text apart. -/
theorem scanned_eq (s : List Char) : scanned s = joinLines ((splitLines s).map trimLine) := by
  rw [← scanned_joinLines fun _ => not_mem_of_mem_splitLines, joinLines_splitLines]

end SchemaScribe.Text

namespace SchemaScribe.Output

open SchemaScribe.Text
open SchemaScribe.Render (GeneratedFile)

/-- **The canonical form is canonical.** It is the lines of the text, trimmed, without the line feeds at the end and
with one behind all that, and it can be had by one scan. The canonical form of a canonical form is that form, so that
it makes no difference that it is taken twice of a text that is styled. And it stands for exactly the texts that
differ from one another in the blanks at the ends of lines and the line feeds at the end. -/
theorem canonical_normalForm (text : String) :
    (∀ form : String, FormOf text.toList form.toList ↔ form = canonical text) ∧
    (canonical text).toList = dropFinalFeeds (scanned text.toList) ++ ['\n'] ∧
    canonical (canonical text) = canonical text ∧
    (∀ (style : StylePass) (s : WriteSettings) (file : GeneratedFile),
      styled style s { file with content := text } = formatSource style s.lineLength text) ∧
    ∀ other : String, canonical other = canonical text ↔ Relation.EqvGen Shortens other.toList text.toList := by
  have htwice : canonical (canonical text) = canonical text := by
    rw [← String.toList_inj, toList_canonical, toList_canonical, canonicalChars_canonicalChars]
  refine ⟨fun form => ?_, ?_, htwice, fun style s file => ?_, fun other => ?_⟩
  · rw [formOf_iff, ← String.toList_inj, toList_canonical]
  · rw [toList_canonical, scanned_eq]
    rfl
  · unfold styled formatSource
    rw [htwice]
  · rw [← String.toList_inj, toList_canonical, toList_canonical, canonicalChars_eq_iff]

end SchemaScribe.Output
