import SchemaScribe.Proofs.Render.Constraints
import SchemaScribe.Proofs.Render.Units
import SchemaScribe.Proofs.Text.Quotation

/-!
# Where the descriptions of generated modules end

The module of an entity has two literals between triple quotes: its description, which tells the name of the
table, and the comment of the table. Both texts come from the catalog. Of the comment every triple quote is
dropped, and of the name nothing is, but the name is not what the description ends with. So they are broken
by different texts (`SourceUnit.Documents`): the description by a triple quote in the name, the comment only
by its end, which must neither take the first quote of the delimiter nor be a quote itself.
-/

namespace SchemaScribe

open SchemaScribe.Catalog SchemaScribe.Render SchemaScribe.Text

namespace Render

/-! ## Comments -/

/-- Dropping triple quotes brings no quotes to the front of a text that were not there. -/
theorem replicate_prefix_withoutTripleQuotes {text : List Char} {n : Nat} (hn : n ≤ 3)
    (h : List.replicate n '"' <+: withoutTripleQuotes text) : List.replicate n '"' <+: text := by
  induction text using withoutTripleQuotes.induct generalizing n with
  | case1 rest ih =>
    obtain ⟨k, hk⟩ := Nat.exists_eq_add_of_le hn
    refine ⟨List.replicate k '"' ++ rest, ?_⟩
    rw [← List.append_assoc, List.replicate_append_replicate, ← hk]
    rfl
  | case2 c rest hne ih =>
    rw [withoutTripleQuotes.eq_2 c rest hne] at h
    cases n with
    | zero => exact List.nil_prefix
    | succ n =>
      rw [List.replicate_succ, List.cons_prefix_cons] at h ⊢
      exact ⟨h.1, ih (by omega) h.2⟩
  | case3 => exact h

/-- No triple quote is left, also none that dropping another one has made. -/
theorem not_infix_withoutTripleQuotes (text : List Char) :
    ¬ tripleQuote <:+: withoutTripleQuotes text := by
  induction text using withoutTripleQuotes.induct with
  | case1 rest ih => exact ih
  | case2 c rest hne ih =>
    intro h
    have hprefix := h
    rw [withoutTripleQuotes.eq_2 c rest hne, List.infix_cons_iff] at hprefix
    rcases hprefix with hprefix | hrest
    · rw [← withoutTripleQuotes.eq_2 c rest hne] at hprefix
      obtain ⟨more, hmore⟩ := replicate_prefix_withoutTripleQuotes (n := 3) (Nat.le_refl 3) hprefix
      obtain ⟨hc, hmore⟩ := List.cons.inj hmore
      exact hne more hc.symm hmore.symm
    · exact ih hrest
  | case3 =>
    intro h
    cases List.eq_nil_of_infix_nil h

theorem not_hasEnd_withoutTripleQuotes (text : List Char) : ¬ HasEnd (withoutTripleQuotes text) := by
  rintro ⟨front, rest, heq, _⟩
  exact not_infix_withoutTripleQuotes text ⟨front, rest, heq.symm⟩

/-! ## The lines of a module -/

/-- What stands between the quotes at the top of a module. -/
def SourceUnit.description (u : SourceUnit) : List Char := '\n' :: u.doc.toList ++ ['\n']

/-- What is joined to sections starts with the first line of the first one. -/
theorem exists_joinSections_cons (line : String) (lines : List String) (sections : List (List String)) :
    ∃ more, SourceUnit.joinSections ((line :: lines) :: sections) = line :: more := by
  unfold SourceUnit.joinSections
  rw [List.filter_cons_of_pos (by rfl)]
  cases sections.filter (!·.isEmpty) with
  | nil => exact ⟨lines, List.intercalate_singleton⟩
  | cons next rest =>
    rw [List.intercalate_cons_of_ne_nil (List.cons_ne_nil next rest)]
    exact ⟨_, rfl⟩

/-- A module starts with its description between triple quotes. -/
theorem SourceUnit.exists_description (u : SourceUnit) :
    ∃ after, u.shown.toList = tripleQuote ++ u.description ++ tripleQuote ++ after := by
  obtain ⟨rest, hrest, hlines⟩ : ∃ rest, rest ≠ [] ∧ u.lines = "\"\"\"" :: u.doc :: "\"\"\"" :: rest :=
    ⟨_, by simp, rfl⟩
  refine ⟨'\n' :: joinLines (rest.map String.toList), ?_⟩
  unfold SourceUnit.shown SourceUnit.description
  rw [toList_unlines, hlines, List.map_cons, List.map_cons, List.map_cons, joinLines_cons _ (by simp),
    joinLines_cons _ (by simp), joinLines_cons _ (by simpa using hrest)]
  simp [tripleQuote]

/-- The first class attribute follows the line that opens the class. -/
theorem SourceUnit.exists_attribute {u : SourceUnit} {line : String} {lines : List String}
    (h : u.classAttributes = line :: lines) (hline : line ≠ "") :
    ∃ after, u.shown.toList = joinLines (u.headLines.map String.toList) ++ "\n    ".toList ++
      line.toList ++ after := by
  obtain ⟨more, hbody⟩ : ∃ more, u.bodyLines = line :: more := by
    unfold SourceUnit.bodyLines
    rw [h]
    exact exists_joinSections_cons line lines _
  obtain ⟨rest, hrest, hlines⟩ : ∃ rest, rest ≠ [] ∧ u.lines = u.headLines ++ indent line :: rest := by
    refine ⟨(more.map fun line => if line.isEmpty then "" else indent line) ++ [""], by simp, ?_⟩
    have hempty : line.isEmpty = false := by simpa using hline
    rw [u.lines_eq, hbody, List.map_cons, hempty, if_neg Bool.false_ne_true, List.append_assoc,
      List.cons_append]
  refine ⟨'\n' :: joinLines (rest.map String.toList), ?_⟩
  have hhead : u.headLines.map String.toList ≠ [] := by
    unfold SourceUnit.headLines
    simp
  unfold SourceUnit.shown
  rw [toList_unlines, hlines, List.map_append, joinLines_append hhead (by simp), List.map_cons,
    joinLines_cons _ (by simpa using hrest)]
  simp [indent]

/-! ## Entity modules -/

/-- **Where the literals of an entity module end**: the description ends where it is meant to if and only if
nothing in the table name ends it, and the comment, of which no triple quote is left, if and only if its end
neither takes the first quote of the delimiter nor adds a quote to it. -/
structure SourceUnit.Documents (u : SourceUnit) (e : Entity) : Prop where
  description : ∃ after,
    u.shown.toList = tripleQuote ++ u.description ++ tripleQuote ++ after ∧
    (behindQuotation false (u.description ++ tripleQuote ++ after) = some after ↔
      ¬ HasEnd e.table.toList)
  comment : ∀ comment, filled? e.comment = some comment → ∃ kept after,
    kept = withoutTripleQuotes comment.toList ∧
    u.shown.toList = joinLines (u.headLines.map String.toList) ++ "\n    ".toList ++
      tripleQuote ++ kept ++ tripleQuote ++ after ∧
    (behindQuotation false (kept ++ tripleQuote ++ after) = some after ↔
      takesNext kept = false ∧ ∀ front, kept = front ++ ['"'] → takesNext front = true)

/-- The description of an entity module can be quoted if and only if nothing in the table name ends it. -/
theorem quotable_description {m : Model} {o : Options} {e : Entity}
    {targets : List (Relation × Entity)} :
    Quotable (entityUnitOf m o e targets).description ↔ ¬ HasEnd e.table.toList := by
  have heq : (entityUnitOf m o e targets).description =
      "\nEntity for table ``".toList ++ (e.table.toList ++ ("``.\n" ++ editRule ++ "\n").toList) := by
    show '\n' :: (Text.unlines _).toList ++ ['\n'] = _
    rw [toList_unlines, List.map_cons, joinLines_cons _ (by simp), List.map_singleton,
      joinLines_singleton]
    simp
  have hends : HasEnd (entityUnitOf m o e targets).description ↔ HasEnd e.table.toList := by
    rw [heq, hasEnd_append_left (by decide) (by decide), hasEnd_append_right (by decide)]
  constructor
  · exact fun h hend => h.unbroken (hends.mpr hend)
  · intro h
    refine ⟨fun hend => h (hends.mp hend), ?_, fun front hfront => ?_⟩
    · unfold SourceUnit.description
      rw [takesNext_snoc]
      simp
    · -- the description ends in a line feed
      obtain ⟨_, hlast⟩ := List.append_inj' hfront rfl
      exact absurd hlast (by decide)

theorem entityUnitOf_documents (m : Model) (o : Options) (e : Entity)
    (targets : List (Relation × Entity)) : (entityUnitOf m o e targets).Documents e where
  description := by
    obtain ⟨after, hafter⟩ := (entityUnitOf m o e targets).exists_description
    exact ⟨after, hafter, behindQuotation_delimiter.trans quotable_description⟩
  comment := by
    intro comment hcomment
    obtain ⟨lines, hattributes⟩ : ∃ lines, (entityUnitOf m o e targets).classAttributes =
        ("\"\"\"" ++ .ofList (withoutTripleQuotes comment.toList) ++ "\"\"\"") :: lines := by
      refine ⟨"" :: ("__tablename__ = " ++ Text.literal e.table) :: tableArgumentLines m e, ?_⟩
      show commentLines e.comment ++ _ ++ _ = _
      unfold commentLines
      rw [hcomment]
      rfl
    obtain ⟨after, hafter⟩ := SourceUnit.exists_attribute hattributes (by simp)
    refine ⟨_, after, rfl, ?_, behindQuotation_delimiter.trans ?_⟩
    · rw [hafter]
      simp [tripleQuote]
    · exact ⟨fun h => ⟨h.takes, h.quote⟩,
        fun h => ⟨not_hasEnd_withoutTripleQuotes _, h.1, h.2⟩⟩

end Render

/-! ## The law -/

/-- **The module of every entity of a model can be rendered, and its literals end as told.** It is decided
whether the description ends at its delimiter, which depends on the table name, and whether the comment does,
which depends on the quotes and backslashes at its end. The literals that are spelled out with escapes are no
matter of this law. -/
theorem buildModel_documents {o o' : Options} {s : Snapshot} {m : Model} (h : buildModel o s = .ok m) :
    ∀ e ∈ m.entities, ∃ u, entityUnit m o' e = .ok u ∧ u.Documents e := by
  intro e he
  obtain ⟨targets, htargets⟩ := exists_targets h he
  refine ⟨entityUnitOf m o' e targets, ?_, entityUnitOf_documents m o' e targets⟩
  unfold entityUnit
  rw [htargets]
  rfl

/-- So do those of a model with texts of each kind. -/
theorem buildModel_documents_quoting :
    ∃ m, buildModel {} quoting = .ok m ∧
      m.entities.map (·.table) = ["note\"\"\"s", "path", "title"] ∧
      m.entities.map (fun e => e.comment.map fun c => (takesNext c.toList, c.toList.getLast?)) =
        [some (false, some '"'), some (true, some '\\'), some (false, some '"')] ∧
      ∀ e ∈ m.entities, ∃ u, entityUnit m {} e = .ok u ∧ u.Documents e := by
  obtain ⟨m, hm, htest⟩ := exists_ok_of_any (x := buildModel {} quoting)
    (p := fun m => m.entities.map (·.table) = ["note\"\"\"s", "path", "title"] ∧
      m.entities.map (fun e => e.comment.map fun c => (takesNext c.toList, c.toList.getLast?)) =
        [some (false, some '"'), some (true, some '\\'), some (false, some '"')])
    (by decide +kernel)
  obtain ⟨htables, hcomments⟩ := of_decide_eq_true htest
  exact ⟨m, hm, htables, hcomments, buildModel_documents hm⟩

end SchemaScribe
