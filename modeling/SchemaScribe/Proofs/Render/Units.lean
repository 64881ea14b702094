import SchemaScribe.Proofs.Output.Region
import SchemaScribe.Proofs.Render.Flat

/-!
# The lines of a module

The lines of a generated module are lines of code, each of them flat and none opening a custom region, the
texts of its description and of its class attributes, and at the end an empty custom region
(`SourceUnit.Neat.exists_lines`). What is said here of a line holds for every property that lines of code
have, and that goes on to indented and joined texts (`Textual`). Two are of interest: no line opens a region
when the text is read, and there are no carriage returns.
-/

namespace SchemaScribe.Render

open SchemaScribe.Output SchemaScribe.Text

/-! ## Lines of code -/

/-- **A line of code**: it has no line end, and it does not open a region. -/
def CodeLine (s : String) : Prop := Flat s ∧ opensRegion s.toList = false

instance (s : String) : Decidable (CodeLine s) := inferInstanceAs (Decidable (_ ∧ _))

theorem head?_of_opensRegion {line : List Char} (h : opensRegion line = true) :
    ∃ c, line.head? = some c ∧ (c = ' ' ∨ c = '\t' ∨ c = '#') := by
  have hmark : trimLine (dropIndent line) = customBegin.toList := of_decide_eq_true h
  cases line with
  | nil => cases h
  | cons c rest =>
    refine ⟨c, rfl, ?_⟩
    by_contra hc
    simp only [not_or] at hc
    have hindent : dropIndent (c :: rest) = c :: rest := by
      unfold dropIndent
      rw [List.dropWhile_cons_of_neg]
      simp only [Bool.or_eq_true, decide_eq_true_eq, not_or]
      exact ⟨hc.1, hc.2.1⟩
    rw [hindent] at hmark
    have hprefix : trimLine (c :: rest) <+: c :: rest := by
      obtain ⟨blanks, hline, _⟩ := exists_trimLine_append (c :: rest)
      exact ⟨blanks, hline.symm⟩
    rw [hmark] at hprefix
    exact hc.2.2 (List.cons_prefix_cons.mp hprefix).1.symm

/-- What starts with a name does not open a region. -/
theorem codeLine_of_bare {s : String} (h : Flat s) (hbare : Bare s) : CodeLine s := by
  refine ⟨h, Bool.eq_false_iff.mpr fun hopens => ?_⟩
  obtain ⟨c, hc, hspace, htab, hhash⟩ := hbare
  obtain ⟨d, hd, hblank⟩ := head?_of_opensRegion hopens
  rw [hc] at hd
  cases hd
  rcases hblank with hblank | hblank | hblank
  · exact hspace hblank
  · exact htab hblank
  · exact hhash hblank

/-- What ends in a comma does not open a region. -/
theorem codeLine_comma {s : String} (h : Flat s) : CodeLine (s ++ ",") := by
  refine ⟨flat_append.mpr ⟨h, by decide⟩, Bool.eq_false_iff.mpr fun hopens => ?_⟩
  have hmark : trimLine (dropIndent (s ++ ",").toList) = customBegin.toList := of_decide_eq_true hopens
  have hmem : ',' ∈ dropIndent (s ++ ",").toList := by
    unfold dropIndent
    rw [String.toList_append, List.dropWhile_append]
    split
    · decide
    · exact List.mem_append_right _ (by decide)
  obtain ⟨blanks, hline, hblanks⟩ := exists_trimLine_append (dropIndent (s ++ ",").toList)
  rw [hline, hmark, List.mem_append] at hmem
  rcases hmem with hmem | hmem
  · exact absurd hmem (by decide)
  · exact absurd (hblanks ',' hmem) (by decide)

/-- **A property of texts that lines of code have**, and that texts put together from such lines have if and
only if their lines do. -/
structure Textual (P : List Char → Prop) : Prop where
  codeLine : ∀ s : String, CodeLine s → P s.toList
  indent : ∀ s : String, P s.toList → P (indent s).toList
  joinLines : ∀ texts : List (List Char), P (joinLines texts) ↔ ∀ s ∈ texts, P s

theorem textual_unopened : Textual Unopened where
  codeLine := fun _ h => (everyLine_of_flat h.1.1 h.1.2).mpr h.2
  indent := by
    intro s h
    unfold Render.indent
    rw [String.toList_append]
    exact (unopened_indent s.toList).mpr h
  joinLines := fun _ => unopened_joinLines

theorem textual_noReturn : Textual fun s => '\r' ∉ s where
  codeLine := fun _ h => h.1.2
  indent := by
    intro s h
    unfold Render.indent
    rw [String.toList_append, List.mem_append]
    exact not_or_intro (by decide) h
  joinLines := by
    refine fun texts => ⟨fun h s hs hc => h (subset_joinLines hs hc), fun h hc => ?_⟩
    rcases mem_joinLines hc with hc | ⟨s, hs, hc⟩
    · cases hc
    · exact h s hs hc

theorem toList_unlines (lines : List String) :
    (Text.unlines lines).toList = joinLines (lines.map String.toList) := by
  unfold Text.unlines
  rw [String.toList_intercalate]
  rfl

namespace Textual

variable {P : List Char → Prop} (hP : Textual P)

include hP

theorem unlines {lines : List String} :
    P (Text.unlines lines).toList ↔ ∀ line ∈ lines, P line.toList := by
  rw [toList_unlines, hP.joinLines, List.forall_mem_map]

theorem of_mem_splitLines {s line : List Char} (h : P s) (hline : line ∈ splitLines s) : P line :=
  (hP.joinLines _).mp ((joinLines_splitLines s).symm ▸ h) line hline

theorem empty : P [] := hP.codeLine "" (by decide)

end Textual

/-! ## Imports -/

/-- Imports whose modules and names can be written on one line. -/
def Imports.Flat (imports : Imports) : Prop :=
  ∀ entry ∈ imports, Render.Flat entry.1 ∧ ∀ name ∈ entry.2, Render.Flat name

instance (imports : Imports) : Decidable imports.Flat :=
  inferInstanceAs (Decidable (∀ entry ∈ imports, Render.Flat entry.1 ∧ ∀ name ∈ entry.2, Render.Flat name))

theorem mem_inOrder {name : String} {names : List String} : name ∈ inOrder names ↔ name ∈ names := by
  unfold inOrder
  rw [List.mem_mergeSort, List.mem_eraseDups]

theorem Imports.Flat.merged {imports : Imports} (h : imports.Flat) : imports.merged.Flat := by
  unfold Imports.Flat Imports.merged
  rw [List.forall_mem_map]
  intro module hmodule
  constructor
  · obtain ⟨entry, hentry, rfl⟩ := List.mem_map.mp (mem_inOrder.mp hmodule)
    exact (h entry hentry).1
  · intro name hname
    obtain ⟨entry, hentry, hname⟩ := List.mem_flatMap.mp (mem_inOrder.mp hname)
    exact (h entry (List.mem_filter.mp hentry).1).2 name hname

theorem statement_codeLine {entry : String × List String} (hmodule : Flat entry.1)
    (hnames : ∀ name ∈ entry.2, Flat name) : CodeLine (Imports.statement entry) := by
  have hbare : ∀ {first : String}, Bare first → ∀ rest, Bare (first ++ rest) := fun h rest => h.append rest
  obtain ⟨module, names⟩ := entry
  cases names with
  | nil =>
    refine codeLine_of_bare (flat_append.mpr ⟨by decide, hmodule⟩) (hbare ?_ module)
    exact ⟨'i', by decide⟩
  | cons name more =>
    have hlist : Flat (", ".intercalate (name :: more)) := flat_intercalate (by decide) hnames
    show CodeLine ("from " ++ module ++ " import " ++ ", ".intercalate (name :: more))
    refine codeLine_of_bare ?_ (hbare (hbare (hbare ?_ module) _) _)
    · simp only [flat_append]
      exact ⟨⟨⟨by decide, hmodule⟩, by decide⟩, hlist⟩
    · exact ⟨'f', by decide⟩

section

variable {P : List Char → Prop} (hP : Textual P)

include hP

theorem Textual.block {imports : Imports} (h : imports.Flat) : P imports.block.toList := by
  unfold Imports.block
  rw [hP.unlines, List.forall_mem_map]
  intro entry hentry
  obtain ⟨hmodule, hnames⟩ := h.merged entry hentry
  exact hP.codeLine _ (statement_codeLine hmodule hnames)

theorem Textual.groupLines {imports : Imports} (h : imports.Flat) :
    ∀ line ∈ imports.groupLines, P line.toList := by
  intro line hline
  obtain ⟨r, _, hline⟩ := List.mem_flatMap.mp hline
  split at hline
  · cases hline
  · next group hgroup =>
    have hflat : Imports.Flat (imports.filter fun entry => Imports.rank entry.1 = r) :=
      fun entry hentry => h entry (List.mem_filter.mp hentry).1
    rcases List.mem_cons.mp hline with rfl | hline
    · exact hP.block hflat
    · rw [List.mem_singleton.mp hline]
      exact hP.empty

end

/-! ## Modules -/

/-- **A module of which everything but the description and the class attributes is code.** -/
structure SourceUnit.Neat (u : SourceUnit) : Prop where
  className : Flat u.className
  bases : ∀ base ∈ u.bases, Flat base
  imports : u.imports.Flat
  typeImports : u.typeImports.Flat
  prelude : ∀ line ∈ u.prelude, CodeLine line
  fields : ∀ f ∈ u.fields, f.Neat
  relations : ∀ f ∈ u.relations, f.Neat
  fieldSpecs : ∀ code ∈ u.fieldSpecs, code.Flat

/-- The last of some sections ends what they are joined to. -/
theorem exists_joinSections (sections : List (List String)) {last : List String} (h : last ≠ []) :
    ∃ front, SourceUnit.joinSections (sections ++ [last]) = front ++ last ∧
      ∀ line ∈ front, line = "" ∨ ∃ lines ∈ sections, line ∈ lines := by
  have hlast : [last].filter (!·.isEmpty) = [last] := by
    rw [List.filter_cons_of_pos (by simpa using h)]
    rfl
  unfold SourceUnit.joinSections
  rw [List.filter_append, hlast]
  have hsub : ∀ lines ∈ sections.filter (!·.isEmpty), lines ∈ sections := fun _ hlines =>
    (List.mem_filter.mp hlines).1
  generalize sections.filter (!·.isEmpty) = filled at hsub
  induction filled with
  | nil => exact ⟨[], List.intercalate_singleton, List.forall_mem_nil _⟩
  | cons lines rest ih =>
    obtain ⟨hlines, hrest⟩ := List.forall_mem_cons.mp hsub
    obtain ⟨front, hfront, hmem⟩ := ih hrest
    refine ⟨lines ++ [""] ++ front, ?_, ?_⟩
    · rw [List.cons_append, List.intercalate_cons_of_ne_nil (by simp), hfront]
      simp only [List.append_assoc]
    · simp only [List.forall_mem_append, List.forall_mem_singleton]
      exact ⟨⟨fun line hline => .inr ⟨lines, hlines, hline⟩, .inl trivial⟩, hmem⟩

/-- The lines in front of the class body. -/
def SourceUnit.headLines (u : SourceUnit) : List String :=
  ["\"\"\"", u.doc, "\"\"\"", "", "from __future__ import annotations", ""] ++
    u.allImports.groupLines ++ u.typeImportLines ++
    (if u.prelude.isEmpty then [] else "" :: u.prelude) ++
    ["", "", "class " ++ u.className ++ "(" ++ ", ".intercalate u.bases ++ "):"]

theorem SourceUnit.lines_eq (u : SourceUnit) :
    u.lines =
      u.headLines ++ (u.bodyLines.map fun line => if line.isEmpty then "" else indent line) ++ [""] :=
  rfl

namespace SourceUnit.Neat

variable {u : SourceUnit} (h : u.Neat) {P : List Char → Prop} (hP : Textual P)

include h

theorem allImports : u.allImports.Flat := by
  have hfragments : ∀ f ∈ u.fields ++ u.relations, f.Neat :=
    List.forall_mem_append.mpr ⟨h.fields, h.relations⟩
  refine Imports.Flat.merged ?_
  unfold Imports.Flat
  simp only [List.forall_mem_append]
  refine ⟨⟨⟨h.imports, ?_⟩, ?_⟩, ?_⟩
  · intro entry hentry
    obtain ⟨f, hf, hentry⟩ := List.mem_flatMap.mp hentry
    obtain ⟨p, hp, rfl⟩ := List.mem_map.mp hentry
    obtain ⟨hmodule, hname⟩ := (hfragments f hf).imports p hp
    exact ⟨hmodule, List.forall_mem_singleton.mpr hname⟩
  · split <;> decide
  · split <;> decide

include hP

theorem typeImportLines : ∀ line ∈ u.typeImportLines, P line.toList := by
  unfold SourceUnit.typeImportLines
  split
  · exact List.forall_mem_nil _
  · simp only [List.forall_mem_append, List.forall_mem_cons, List.forall_mem_map]
    refine ⟨⟨hP.codeLine _ (by decide), fun line hline => hP.indent _ ?_⟩, hP.empty,
      List.forall_mem_nil _⟩
    rw [String.toList_ofList]
    exact hP.of_mem_splitLines (hP.block h.typeImports) hline

theorem fieldSpecLines : ∀ line ∈ u.fieldSpecLines, P line.toList := by
  unfold SourceUnit.fieldSpecLines
  split
  · exact List.forall_mem_nil _
  · simp only [List.forall_mem_append, List.forall_mem_cons, List.forall_mem_map]
    refine ⟨⟨hP.codeLine _ (by decide), fun code hcode => hP.indent _ (hP.codeLine _ ?_)⟩,
      hP.codeLine _ (by decide), List.forall_mem_nil _⟩
    exact codeLine_comma (h.fieldSpecs code hcode).shown

/-- The class body ends in an empty region, and lines of code and of the class attributes are before it. -/
theorem exists_bodyLines (hattributes : ∀ line ∈ u.classAttributes, P line.toList) :
    ∃ front, u.bodyLines = front ++ [customBegin, customEnd] ∧ ∀ line ∈ front, P line.toList := by
  have hfragments : ∀ fragments : List Fragment, (∀ f ∈ fragments, f.Neat) →
      ∀ line ∈ fragments.map Fragment.shown, P line.toList := by
    intro fragments hneat
    rw [List.forall_mem_map]
    intro f hf
    obtain ⟨hflat, hbare⟩ := (hneat f hf).shown
    exact hP.codeLine _ (codeLine_of_bare hflat hbare)
  obtain ⟨front, hbody, hfront⟩ := exists_joinSections
    [u.classAttributes, u.fields.map Fragment.shown, u.relations.map Fragment.shown, u.fieldSpecLines]
    (List.cons_ne_nil customBegin [customEnd])
  refine ⟨front, hbody, fun line hline => ?_⟩
  rcases hfront line hline with rfl | ⟨lines, hlines, hline⟩
  · exact hP.empty
  · simp only [List.mem_cons, List.not_mem_nil, or_false] at hlines
    rcases hlines with rfl | rfl | rfl | rfl
    · exact hattributes line hline
    · exact hfragments _ h.fields line hline
    · exact hfragments _ h.relations line hline
    · exact h.fieldSpecLines hP line hline

/-- **The lines of a module**: before the empty region at its end there are lines of code, the description
and the class attributes. -/
theorem exists_lines (hdoc : P u.doc.toList)
    (hattributes : ∀ line ∈ u.classAttributes, P line.toList) :
    ∃ front, u.lines = front ++ [indent customBegin, indent customEnd, ""] ∧
      ∀ line ∈ front, P line.toList := by
  obtain ⟨body, hbody, hlines⟩ := h.exists_bodyLines hP hattributes
  have hclass : CodeLine ("class " ++ u.className ++ "(" ++ ", ".intercalate u.bases ++ "):") := by
    refine codeLine_of_bare ?_ ((((Bare.append ?_ _).append _).append _).append _)
    · simp only [flat_append]
      exact ⟨⟨⟨⟨by decide, h.className⟩, by decide⟩, flat_intercalate (by decide) h.bases⟩, by decide⟩
    · exact ⟨'c', by decide⟩
  have hprelude : ∀ line ∈ if u.prelude.isEmpty then [] else "" :: u.prelude, P line.toList := by
    split
    · exact List.forall_mem_nil _
    · exact List.forall_mem_cons.mpr ⟨hP.empty, fun line hline => hP.codeLine _ (h.prelude line hline)⟩
  have hindented : ∀ line ∈ body.map fun line => if line.isEmpty then "" else indent line,
      P line.toList := by
    rw [List.forall_mem_map]
    intro line hline
    split
    · exact hP.empty
    · exact hP.indent line (hlines line hline)
  have hstart : ∀ line ∈ ["\"\"\"", u.doc, "\"\"\"", "", "from __future__ import annotations", ""],
      P line.toList := by
    simp only [List.forall_mem_cons]
    exact ⟨hP.codeLine _ (by decide), hdoc, hP.codeLine _ (by decide), hP.empty,
      hP.codeLine _ (by decide), hP.empty, List.forall_mem_nil _⟩
  refine ⟨u.headLines ++ body.map (fun line => if line.isEmpty then "" else indent line), ?_, ?_⟩
  · rw [u.lines_eq, hbody, List.map_append]
    simp only [List.append_assoc]
    rfl
  · unfold SourceUnit.headLines
    iterate 5 rw [List.forall_mem_append]
    refine ⟨⟨⟨⟨⟨hstart, hP.groupLines h.allImports⟩, h.typeImportLines hP⟩, hprelude⟩, ?_⟩, hindented⟩
    exact List.forall_mem_cons.mpr ⟨hP.empty, List.forall_mem_cons.mpr ⟨hP.empty,
      List.forall_mem_singleton.mpr (hP.codeLine _ hclass)⟩⟩

omit hP

/-- **A module is fresh** if nothing in its description and class attributes opens a region. -/
theorem fresh (hdoc : Unopened u.doc.toList)
    (hattributes : ∀ line ∈ u.classAttributes, Unopened line.toList) : Fresh u.shown.toList := by
  obtain ⟨front, hlines, hfront⟩ := h.exists_lines textual_unopened hdoc hattributes
  refine ⟨front.map String.toList, (indent customBegin).toList, (indent customEnd).toList, ?_,
    by decide, by decide, by decide, by decide, ?_⟩
  · exact List.forall_mem_map.mpr hfront
  · unfold SourceUnit.shown
    rw [toList_unlines, hlines, List.map_append]
    rfl

/-- There are no carriage returns in a module if there are none in its description and class attributes. -/
theorem noReturn (hdoc : '\r' ∉ u.doc.toList)
    (hattributes : ∀ line ∈ u.classAttributes, '\r' ∉ line.toList) : '\r' ∉ u.shown.toList := by
  obtain ⟨front, hlines, hfront⟩ := h.exists_lines textual_noReturn hdoc hattributes
  refine textual_noReturn.unlines.mpr ?_
  rw [hlines, List.forall_mem_append]
  exact ⟨hfront, by decide⟩

end SourceUnit.Neat

end SchemaScribe.Render
