import SchemaScribe.Document.Yaml.Writer
import SchemaScribe.Proofs.Render.Flat
import SchemaScribe.Proofs.Text.Content

/-!
# Written documents have no carriage returns

Reading a file takes carriage returns for line ends, so a document with one would not be read as it was written.
The writer lets none through: a text that holds one is put between double quotes, where it is an escape
(`return_notMem_writeSections`).
-/

namespace SchemaScribe.Document.Yaml

open SchemaScribe.Text

/-! ## Lines -/

/-- A line without carriage returns, so far. -/
def Line.Clean (l : Line) : Prop := '\r' ∉ l.done

section

variable {l : Line}

theorem Line.Clean.add (h : l.Clean) {s : List Char} (hs : '\r' ∉ s) : (l.add s).Clean := by
  unfold Line.Clean Line.add
  rw [List.mem_append, List.mem_reverse]
  exact not_or_intro hs h

theorem notMem_replicate (indent : Nat) : '\r' ∉ List.replicate indent ' ' := fun h =>
  absurd (List.eq_of_mem_replicate h) (by decide)

theorem Line.Clean.wrap (h : l.Clean) (indent : Nat) : (l.wrap indent).Clean := by
  unfold Line.Clean Line.wrap
  rw [List.mem_append, List.mem_cons]
  exact not_or_intro (notMem_replicate indent) (not_or_intro (by decide) h)

theorem Line.Clean.feed (h : l.Clean) : l.feed.Clean := by
  unfold Line.Clean Line.feed
  rw [List.mem_cons]
  exact not_or_intro (by decide) h

theorem Line.Clean.feeds (h : l.Clean) (times : List Nat) : (times.foldl (fun l _ => l.feed) l).Clean := by
  induction times generalizing l with
  | nil => exact h
  | cons _ rest ih => exact ih h.feed

/-! ## Texts without escapes -/

/-- A stretch of a text without carriage returns. -/
def Stretch.Clean : Stretch → Prop
  | .word s => '\r' ∉ s
  | _ => True

theorem stretches_clean {s : List Char} (h : '\r' ∉ s) : ∀ stretch ∈ stretches s, stretch.Clean := by
  induction s with
  | nil => exact List.forall_mem_nil _
  | cons c rest ih =>
    obtain ⟨hc, hrest⟩ := not_or.mp (List.mem_cons.not.mp h)
    have ih := ih hrest
    unfold stretches
    split
    · next hsplit =>
      rw [hsplit, List.forall_mem_cons] at ih
      exact List.forall_mem_cons.mpr ⟨trivial, ih.2⟩
    · exact List.forall_mem_cons.mpr ⟨trivial, ih⟩
    · next hsplit =>
      rw [hsplit, List.forall_mem_cons] at ih
      exact List.forall_mem_cons.mpr ⟨trivial, ih.2⟩
    · exact List.forall_mem_cons.mpr ⟨trivial, ih⟩
    · next hsplit =>
      rw [hsplit, List.forall_mem_cons] at ih
      exact List.forall_mem_cons.mpr ⟨List.not_mem_cons_of_ne_of_not_mem hc ih.1, ih.2⟩
    · exact List.forall_mem_cons.mpr ⟨List.not_mem_cons_of_ne_of_not_mem hc List.not_mem_nil, ih⟩

theorem writeStretches_clean {quoted first : Bool} {indent : Nat} {items : List Stretch}
    (h : ∀ stretch ∈ items, stretch.Clean) (hl : l.Clean) : (writeStretches quoted indent first items l).Clean := by
  induction items generalizing first l with
  | nil => exact hl
  | cons stretch rest ih =>
    obtain ⟨hstretch, hrest⟩ := List.forall_mem_cons.mp h
    cases stretch with
    | spaces n =>
      refine ih hrest ?_
      split
      · exact hl.wrap indent
      · exact hl.add (notMem_replicate n)
    | feeds n =>
      refine ih hrest ?_
      have hfeeds := hl.feed.feeds (List.range n)
      unfold Line.Clean
      rw [List.mem_append]
      exact not_or_intro (notMem_replicate indent) hfeeds
    | word s =>
      refine ih hrest (hl.add ?_)
      split
      · intro hmem
        obtain ⟨c, hc, hwritten⟩ := List.mem_flatMap.mp hmem
        split at hwritten
        · exact absurd hwritten (by decide)
        · exact hstretch (List.mem_singleton.mp hwritten ▸ hc)
      · exact hstretch

/-! ## Escapes -/

theorem capitalPlaces_clean (width n : Nat) : '\r' ∉ capitalPlaces width n := by
  intro hmem
  obtain ⟨c, hc, hreturn⟩ := List.mem_map.mp hmem
  have hcharacter := isIdentifierChar_hexPlaces width n c hc
  have halphanum := isAlphanum_toUpper c
  rw [hreturn] at halphanum
  unfold isIdentifierChar at hcharacter
  rw [← halphanum] at hcharacter
  have hunderscore : c = '_' := by simpa using hcharacter
  rw [hunderscore] at hreturn
  cases hreturn

theorem escape?_clean {c : Char} {text : List Char} (h : escape? c = some text) : '\r' ∉ text := by
  unfold escape? at h
  split at h
  · cases h
  · split at h
    · next letter hletter =>
      cases h
      have hother : letter ≠ '\r' := by
        rintro rfl
        unfold escapeLetter? at hletter
        split at hletter <;> cases hletter
      simp [hother.symm]
    · dsimp only at h
      split at h
      · cases h
        simp [capitalPlaces_clean]
      · split at h
        · cases h
          simp [capitalPlaces_clean]
        · cases h
          simp [capitalPlaces_clean]

theorem ne_of_escape?_eq_none {c : Char} (h : escape? c = none) : c ≠ '\r' := by
  rintro rfl
  cases h

theorem writeDouble_clean {indent length index : Nat} {held s : List Char} (hheld : '\r' ∉ held)
    (hl : l.Clean) : (writeDouble indent length index held s l).Clean := by
  induction s generalizing index held l with
  | nil => exact hl.add hheld
  | cons c rest ih =>
    unfold writeDouble
    cases hescape : escape? c with
    | some text =>
      have hwritten := (hl.add hheld).add (escape?_clean hescape)
      simp only [if_true]
      split
      · have hwrapped := (hwritten.add (s := [] ++ ['\\']) (by decide)).wrap indent
        split
        · exact ih List.not_mem_nil (hwrapped.add (by decide))
        · exact ih List.not_mem_nil hwrapped
      · exact ih List.not_mem_nil hwritten
    | none =>
      have hc : '\r' ∉ [c] := List.not_mem_cons_of_ne_of_not_mem (ne_of_escape?_eq_none hescape).symm List.not_mem_nil
      simp only [Bool.false_eq_true, if_false]
      split
      · have hwrapped := (hl.add (s := held ++ ['\\']) (by simpa using hheld)).wrap indent
        split
        · exact ih hc (hwrapped.add (by decide))
        · exact ih hc hwrapped
      · exact ih (List.not_mem_append hheld hc) hl

/-! ## Documents -/

theorem notMem_of_any {s : List Char} (h : ¬ s.any needsEscape = true) : '\r' ∉ s := fun hmem =>
  h (List.any_eq_true.mpr ⟨'\r', hmem, rfl⟩)

theorem writeText_clean (indent : Nat) (text : String) (hl : l.Clean) : (writeText indent text l).Clean := by
  have hescaped : styleOf text.toList ≠ .double → '\r' ∉ text.toList := by
    intro hstyle
    refine notMem_of_any fun hany => ?_
    unfold styleOf at hstyle
    split at hstyle
    · next hplain =>
      unfold standsPlain at hplain
      simp [hany] at hplain
    · rw [if_pos (by simp [hany])] at hstyle
      exact hstyle rfl
  unfold writeText
  dsimp only
  split
  · next hstyle =>
    exact writeStretches_clean (stretches_clean (hescaped (by simp [hstyle]))) (hl.add (by decide))
  · next hstyle =>
    exact (writeStretches_clean (stretches_clean (hescaped (by simp [hstyle]))) (hl.add (by decide))).add
      (by decide)
  · exact (writeDouble_clean List.not_mem_nil (hl.add (by decide))).add (by decide)

theorem writeScalar_clean (indent : Nat) (s : Scalar) (hl : l.Clean) : (writeScalar indent s l).Clean := by
  unfold writeScalar
  split
  · exact writeText_clean indent _ hl
  · exact hl.add (by split <;> decide)
  · next n => exact hl.add (List.not_mem_cons_of_ne_of_not_mem (by decide) (Render.flat_int n).2)
  · exact hl.add (by decide)

end

/-- **A document has no carriage returns**, whatever its texts hold, if its names have none. -/
theorem return_notMem_writeSections {sections : List (String × List (String × Scalar))}
    (h : ∀ s ∈ sections, '\r' ∉ s.1.toList ∧ ∀ setting ∈ s.2, '\r' ∉ setting.1.toList) :
    '\r' ∉ (writeSections sections).toList := by
  unfold writeSections
  rw [String.toList_ofList]
  intro hmem
  obtain ⟨⟨name, settings⟩, hs, hmem⟩ := List.mem_flatMap.mp hmem
  obtain ⟨hname, hsettings⟩ := h _ hs
  simp only [List.mem_append, List.mem_cons, hname, false_or, show '\r' ≠ ':' by decide,
    show '\r' ≠ '\n' by decide] at hmem
  unfold writeSettings at hmem
  obtain ⟨⟨key, value⟩, hsetting, hmem⟩ := List.mem_flatMap.mp hmem
  have hempty : Line.Clean ⟨[], 0⟩ := List.not_mem_nil
  have hkey : '\r' ∉ List.replicate 2 ' ' ++ key.toList ++ [':'] := by simpa using hsettings _ hsetting
  have hwritten := writeScalar_clean 4 value (hempty.add hkey)
  rw [List.mem_append, List.mem_reverse] at hmem
  rcases hmem with hmem | hmem
  · exact hwritten hmem
  · exact absurd hmem (by decide)

end SchemaScribe.Document.Yaml
