import SchemaScribe.Proofs.Output.Region

/-!
# What merging does to the regions of a text

Bodies that come out of a text have no line that closes a region, so a text that they are put into has them in
the same regions when it is read again (`pieces_mergeRegions`). Everything about a merged text follows: which
bodies it has, that nothing else of it changed (`mergeRegions_carries`), what merging it once more does
(`mergeRegions_again`), and that it has no characters of its own but line feeds (`mem_mergeRegions`).
-/

namespace SchemaScribe.Output

open SchemaScribe.Text

/-! ## Filling regions -/

theorem fill_nil (ps : List Piece) : fill ps [] = ps := by
  induction ps with
  | nil => rfl
  | cons p rest ih =>
    cases p with
    | line text => exact congrArg (Piece.line text :: ·) ih
    | region opening body closing => exact congrArg (Piece.region opening body closing :: ·) ih

/-- The first regions have the bodies that were put in, and the others have their own. -/
theorem bodies_fill (ps : List Piece) (all : List (List (List Char))) :
    bodies (fill ps all) = all.take (bodies ps).length ++ (bodies ps).drop all.length := by
  fun_induction fill ps all with
  | case1 all =>
    show [] = all.take 0 ++ [].drop all.length
    rw [List.take_zero, List.drop_nil, List.append_nil]
  | case2 opening _ closing rest first more ih => exact congrArg (first :: ·) ih
  | case3 opening body closing rest =>
    rw [fill_nil, List.take_nil, List.length_nil, List.drop_zero, List.nil_append]
  | case4 text rest all ih => exact ih

/-- What was put in can be taken out and put in again. -/
theorem fill_bodies_fill (ps : List Piece) (all : List (List (List Char))) :
    fill ps (bodies (fill ps all)) = fill ps all := by
  fun_induction fill ps all with
  | case1 => rfl
  | case2 opening _ closing rest first more ih =>
    exact congrArg (Piece.region opening first closing :: ·) ih
  | case3 => rw [fill_nil, fill_bodies]
  | case4 text rest all ih => exact congrArg (Piece.line text :: ·) ih

/-- A piece without its body. -/
def Piece.emptied : Piece → Piece
  | .line text => .line text
  | .region opening _ closing => .region opening [] closing

theorem fill_emptied (ps : List Piece) (all : List (List (List Char))) :
    (fill ps all).map Piece.emptied = ps.map Piece.emptied := by
  fun_induction fill ps all with
  | case1 => rfl
  | case2 opening _ closing rest first more ih | case3 opening _ closing rest ih =>
    exact congrArg (Piece.region opening [] closing :: ·) ih
  | case4 text rest all ih => exact congrArg (Piece.line text :: ·) ih

theorem lines_fill_subset (ps : List Piece) (all : List (List (List Char))) :
    (fill ps all).flatMap Piece.lines ⊆ ps.flatMap Piece.lines ++ all.flatten := by
  fun_induction fill ps all with
  | case1 => exact List.nil_subset _
  | case2 opening body closing rest first more ih =>
    intro line hline
    have hrest := @ih line
    simp only [List.flatMap_cons, Piece.lines, List.flatten_cons, List.mem_append, List.mem_cons,
      List.not_mem_nil, or_false] at hline hrest ⊢
    tauto
  | case3 opening body closing rest =>
    rw [fill_nil]
    exact List.subset_append_left _ _
  | case4 text rest all ih =>
    intro line hline
    have hrest := @ih line
    simp only [List.flatMap_cons, List.mem_append] at hline hrest ⊢
    tauto

/-! ## Reading what was filled -/

theorem piecesOf_line_of_unclosed {rest : List (List Char)} (h : splitAtClosing rest = none)
    (line : List Char) : piecesOf (line :: rest) = .line line :: piecesOf rest := by
  rw [piecesOf]
  split
  · split
    · next hsome =>
      rw [h] at hsome
      cases hsome
    · rfl
  · rfl

/-- Where nothing closes a region there is none. -/
theorem piecesOf_unclosed {lines : List (List Char)} (h : splitAtClosing lines = none) :
    piecesOf lines = lines.map .line := by
  induction lines with
  | nil => rw [piecesOf]; rfl
  | cons line rest ih =>
    have hrest : splitAtClosing rest = none := by
      rw [splitAtClosing] at h
      split at h
      · cases h
      · exact Option.map_eq_none_iff.mp h
    rw [piecesOf_line_of_unclosed hrest, ih hrest, List.map_cons]

/-- **Regions stay where they are** whatever is put into them, if no line of that closes a region. Lines that
open one do no harm: behind an opening line everything up to a closing one is a body. -/
theorem piecesOf_fill (lines : List (List Char)) {all : List (List (List Char))}
    (h : ∀ body ∈ all, ∀ line ∈ body, closesRegion line = false) :
    piecesOf ((fill (piecesOf lines) all).flatMap Piece.lines) = fill (piecesOf lines) all := by
  fun_induction piecesOf lines generalizing all with
  | case1 => rw [fill, List.flatMap_nil, piecesOf]
  | case2 line rest hopens body closing after hsplit ih =>
    obtain ⟨hbody, hcloses⟩ := closesRegion_of_splitAtClosing hsplit
    cases all with
    | nil =>
      rw [fill, List.flatMap_cons, Piece.lines, List.append_assoc, List.singleton_append,
        piecesOf_region hopens hbody hcloses, ih h]
    | cons first more =>
      obtain ⟨hfirst, hmore⟩ := List.forall_mem_cons.mp h
      rw [fill, List.flatMap_cons, Piece.lines, List.append_assoc, List.singleton_append,
        piecesOf_region hopens hfirst hcloses, ih hmore]
  | case3 line rest hopens hnone ih =>
    -- nothing behind the line closes a region, so there are no regions to fill
    rw [piecesOf_unclosed hnone, ← List.map_cons, Surround.fill_lines, Surround.lines_map,
      piecesOf_line_of_unclosed hnone, piecesOf_unclosed hnone, List.map_cons]
  | case4 line rest hopens ih =>
    rw [fill, List.flatMap_cons, Piece.lines, List.singleton_append,
      piecesOf_line ((Bool.not_eq_true _).mp hopens), ih h]

/-! ## Merged texts -/

variable {new old text : String}

/-- The bodies of a text have no line feeds in their lines, and none of them closes a region. -/
theorem of_mem_bodies_pieces {body : List (List Char)} (h : body ∈ bodies (pieces text.toList)) :
    ∀ line ∈ body, '\n' ∉ line ∧ closesRegion line = false := by
  intro line hline
  obtain ⟨hmem, hcloses⟩ := of_mem_bodies h line hline
  exact ⟨not_mem_of_mem_splitLines hmem, hcloses⟩

/-- **A text has the pieces that its regions were filled to.** -/
theorem pieces_joinPieces_fill (text : List Char) {all : List (List (List Char))}
    (h : ∀ body ∈ all, ∀ line ∈ body, '\n' ∉ line ∧ closesRegion line = false) :
    pieces (joinPieces (fill (pieces text) all)) = fill (pieces text) all := by
  have hpieces : piecesOf ((fill (pieces text) all).flatMap Piece.lines) = fill (pieces text) all :=
    piecesOf_fill (splitLines text) fun body hbody line hline => (h body hbody line hline).2
  have hfeeds : ∀ line ∈ (fill (pieces text) all).flatMap Piece.lines, '\n' ∉ line := by
    intro line hline
    rcases List.mem_append.mp (lines_fill_subset (pieces text) all hline) with hline | hline
    · rw [show (pieces text).flatMap Piece.lines = splitLines text from lines_piecesOf _] at hline
      exact not_mem_of_mem_splitLines hline
    · obtain ⟨body, hbody, hline⟩ := List.mem_flatten.mp hline
      exact (h body hbody line hline).1
  have hne : (fill (pieces text) all).flatMap Piece.lines ≠ [] := by
    intro hnil
    rw [hnil, piecesOf] at hpieces
    have hempty := fill_emptied (pieces text) all
    rw [← hpieces] at hempty
    have hlines : (pieces text).flatMap Piece.lines = splitLines text := lines_piecesOf _
    rw [List.map_eq_nil_iff.mp hempty.symm] at hlines
    exact splitLines_ne_nil text hlines.symm
  calc pieces (joinPieces (fill (pieces text) all))
      = piecesOf (splitLines (joinLines ((fill (pieces text) all).flatMap Piece.lines))) := rfl
    _ = piecesOf ((fill (pieces text) all).flatMap Piece.lines) := by rw [splitLines_joinLines hfeeds hne]
    _ = fill (pieces text) all := hpieces

/-- Bodies with something in them: one of them has a character that is not blank. -/
def Telling (found : List String) : Prop := ∃ body ∈ found, ∃ c ∈ body.toList, isBlank c = false

theorem telling_append {found more : List String} : Telling (found ++ more) ↔ Telling found ∨ Telling more := by
  unfold Telling
  simp only [List.mem_append, or_and_right, exists_or]

/-- **A text with something in its custom regions.** -/
def Filled (text : String) : Prop := Telling (customRegions text)

theorem filled_iff :
    Filled text ↔ ¬ ((bodies (pieces text.toList)).all fun body => allBlank (bodyText body)) = true := by
  unfold Filled Telling customRegions allBlank
  simp only [List.mem_map, exists_exists_and_eq_and, String.toList_ofList, List.all_eq_true, not_forall,
    exists_prop, Bool.not_eq_true]

theorem mergeRegions_of_not_filled (new : String) (h : ¬ Filled old) : mergeRegions new (some old) = new := by
  rw [filled_iff, not_not] at h
  rw [mergeRegions_eq, Option.getD_some, if_pos h]

theorem mergeRegions_of_filled (new : String) (h : Filled old) :
    (mergeRegions new (some old)).toList = joinPieces (fill (pieces new.toList) (bodies (pieces old.toList))) := by
  rw [mergeRegions_eq, Option.getD_some, if_neg (filled_iff.mp h), String.toList_ofList]

/-- A merged text has no characters but those of both texts and line feeds. -/
theorem mem_mergeRegions {c : Char} (h : c ∈ (mergeRegions new (some old)).toList) :
    c = '\n' ∨ c ∈ new.toList ∨ c ∈ old.toList := by
  by_cases hfilled : Filled old
  · rw [mergeRegions_of_filled new hfilled] at h
    refine (mem_joinLines h).imp_right fun ⟨line, hline, hc⟩ => ?_
    rcases List.mem_append.mp (lines_fill_subset _ _ hline) with hline | hline
    · rw [show (pieces new.toList).flatMap Piece.lines = splitLines new.toList from lines_piecesOf _] at hline
      exact .inl (subset_of_mem_splitLines hline hc)
    · obtain ⟨body, hbody, hline⟩ := List.mem_flatten.mp hline
      exact .inr (subset_of_mem_splitLines (of_mem_bodies hbody line hline).1 hc)
  · rw [mergeRegions_of_not_filled new hfilled] at h
    exact .inr (.inl h)

/-- A merged text is cut as the new one is, with the bodies of the old one. -/
theorem pieces_mergeRegions (new : String) (h : Filled old) :
    pieces (mergeRegions new (some old)).toList = fill (pieces new.toList) (bodies (pieces old.toList)) := by
  rw [mergeRegions_of_filled new h]
  exact pieces_joinPieces_fill new.toList fun body hbody => of_mem_bodies_pieces hbody

/-- **The regions of a merged text** are the first ones of the old text, and those of the new one for which the
old one has none. -/
theorem customRegions_mergeRegions (new : String) (h : Filled old) :
    customRegions (mergeRegions new (some old)) =
      (customRegions old).take (customRegions new).length ++
        (customRegions new).drop (customRegions old).length := by
  unfold customRegions
  rw [pieces_mergeRegions new h, bodies_fill, List.map_append, List.map_take, List.map_drop, List.length_map,
    List.length_map]

/-- A text with the bodies of its custom regions taken out. -/
def withoutBodies (text : String) : String := .ofList (joinPieces ((pieces text.toList).map Piece.emptied))

/-- **Merging carries the regions of the old text over**, first into first, and changes nothing else. If there
is nothing in the regions of the old text it does nothing. Regions are told apart by their order alone: those
that the old text has beyond the new one are lost, and the new text keeps those that it has beyond the old one.
-/
theorem mergeRegions_carries (new old : String) :
    (Filled old →
        let k := min (customRegions old).length (customRegions new).length
        customRegions (mergeRegions new (some old)) =
            (customRegions old).take k ++ (customRegions new).drop k ∧
          withoutBodies (mergeRegions new (some old)) = withoutBodies new) ∧
      (¬ Filled old → mergeRegions new (some old) = new) := by
  refine ⟨fun hfilled => ⟨?_, ?_⟩, mergeRegions_of_not_filled new⟩
  · rw [customRegions_mergeRegions new hfilled, List.take_eq_take_min, List.drop_eq_drop_min, Nat.min_comm]
  · unfold withoutBodies
    rw [pieces_mergeRegions new hfilled, fill_emptied]

/-! ## Merging again -/

/-- The text of a body has its lines, and an empty one behind the last line feed. -/
theorem splitLines_bodyText {body : List (List Char)} (h : ∀ line ∈ body, '\n' ∉ line) :
    splitLines (bodyText body) = body ++ [[]] := by
  induction body with
  | nil => exact splitLines_of_not_mem List.not_mem_nil
  | cons line rest ih =>
    obtain ⟨hline, hrest⟩ := List.forall_mem_cons.mp h
    have htext : bodyText (line :: rest) = line ++ '\n' :: bodyText rest := by
      unfold bodyText
      rw [List.flatMap_cons, List.append_assoc, List.singleton_append]
    rw [htext, splitLines_append_feed, splitLines_of_not_mem hline, ih hrest]
    rfl

/-- The lines of the bodies are read off their texts. -/
theorem bodies_eq (text : String) :
    bodies (pieces text.toList) = (customRegions text).map fun body => (splitLines body.toList).dropLast := by
  unfold customRegions
  rw [List.map_map]
  calc bodies (pieces text.toList)
      = (bodies (pieces text.toList)).map id := (List.map_id _).symm
    _ = _ := List.map_congr_left fun body hbody => ?_
  have hlines := splitLines_bodyText fun line hline => (of_mem_bodies_pieces hbody line hline).1
  rw [Function.comp_apply, String.toList_ofList, hlines, List.dropLast_concat]
  rfl

/-- Where the regions of a merged text are those of the new one, it is the new one. -/
theorem mergeRegions_eq_new (h : customRegions (mergeRegions new (some old)) = customRegions new) :
    mergeRegions new (some old) = new := by
  by_cases hfilled : Filled old
  · have hbodies : bodies (pieces (mergeRegions new (some old)).toList) = bodies (pieces new.toList) := by
      rw [bodies_eq, bodies_eq, h]
    rw [pieces_mergeRegions new hfilled] at hbodies
    refine String.toList_injective ?_
    rw [mergeRegions_of_filled new hfilled, ← fill_bodies_fill, hbodies, fill_bodies, joinPieces_pieces]
  · exact mergeRegions_of_not_filled new hfilled

/-- **An old text whose regions are carried over only once**: those that are carried over are blank, though not
what the new text has, and something is only in a region that is lost. -/
structure Forgotten (new old : String) : Prop where
  blank : ¬ Telling ((customRegions old).take (customRegions new).length)
  lost : Telling ((customRegions old).drop (customRegions new).length)
  changed : (customRegions old).take (customRegions new).length ≠ customRegions new

/-- Such a text is merged, and nothing is in the regions of what comes out. -/
theorem forgotten_iff :
    Forgotten new old ↔
      Filled old ∧ ¬ Filled (mergeRegions new (some old)) ∧ mergeRegions new (some old) ≠ new := by
  have hparts : Filled old ↔ Telling ((customRegions old).take (customRegions new).length) ∨
      Telling ((customRegions old).drop (customRegions new).length) := by
    rw [← telling_append, List.take_append_drop]
    rfl
  have hmerged : Filled old → Telling ((customRegions old).drop (customRegions new).length) →
      customRegions (mergeRegions new (some old)) = (customRegions old).take (customRegions new).length := by
    intro hfilled ⟨body, hbody, _⟩
    have hlength := List.length_pos_of_mem hbody
    rw [List.length_drop] at hlength
    rw [customRegions_mergeRegions new hfilled, List.drop_eq_nil_of_le (by omega), List.append_nil]
  constructor
  · intro h
    have hfilled := hparts.mpr (.inr h.lost)
    have hregions := hmerged hfilled h.lost
    refine ⟨hfilled, fun hagain => h.blank (hregions ▸ hagain), fun hnew => h.changed ?_⟩
    rw [← hregions, hnew]
  · rintro ⟨hfilled, hblank, hchanged⟩
    have hkept : ¬ Telling ((customRegions old).take (customRegions new).length) := by
      intro hkept
      refine hblank ?_
      unfold Filled
      rw [customRegions_mergeRegions new hfilled]
      exact telling_append.mpr (.inl hkept)
    have hlost := (hparts.mp hfilled).resolve_left hkept
    refine ⟨hkept, hlost, fun hsame => hchanged (mergeRegions_eq_new ?_)⟩
    rw [hmerged hfilled hlost, hsame]

/-- **Merging again with what came out changes nothing**, unless the old text is one whose regions are carried
over only once: then the new text comes out, as if there had been no old one. This is decided for every pair of
texts. The exception needs a region that is lost with something in it, and blanks in those that are kept. -/
theorem mergeRegions_again (new old : String) :
    (mergeRegions new (some (mergeRegions new (some old))) = mergeRegions new (some old) ↔
        ¬ Forgotten new old) ∧
      (Forgotten new old → mergeRegions new (some (mergeRegions new (some old))) = new) := by
  rw [forgotten_iff]
  by_cases hold : Filled old
  · by_cases hfilled : Filled (mergeRegions new (some old))
    · have hsame : mergeRegions new (some (mergeRegions new (some old))) = mergeRegions new (some old) := by
        refine String.toList_injective ?_
        rw [mergeRegions_of_filled new hfilled, pieces_mergeRegions new hold, fill_bodies_fill,
          ← mergeRegions_of_filled new hold]
      exact ⟨iff_of_true hsame fun h => h.2.1 hfilled, fun h => absurd hfilled h.2.1⟩
    · rw [mergeRegions_of_not_filled new hfilled]
      refine ⟨⟨fun hnew h => h.2.2 hnew.symm, fun hnone => ?_⟩, fun _ => rfl⟩
      by_contra hne
      exact hnone ⟨hold, hfilled, Ne.symm hne⟩
  · rw [mergeRegions_of_not_filled new hold, mergeRegions_self]
    exact ⟨iff_of_true rfl fun h => hold h.1, fun _ => rfl⟩

/-- A blank line in the one region of a file is kept while a second region, which is lost, has something in it. -/
example :
    let new := "# <custom>\n# </custom>\n"
    let once := mergeRegions new (some "# <custom>\n\n# </custom>\n# <custom>\nkeep = 1\n# </custom>\n")
    once = "# <custom>\n\n# </custom>\n" ∧ mergeRegions new (some once) = new := by decide +kernel

end SchemaScribe.Output
