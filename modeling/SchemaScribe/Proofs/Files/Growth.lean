import SchemaScribe.Proofs.Files.Ways

/-!
# File trees that grow

Writing files to some places only adds directories on the way to them (`FileTree.Grows`). So a path to a place
apart from them is read as it was before (`FileTree.readText?_keeps`). Two things need care. A way with double
dots can be opened by a directory that is new, so it has to be open from the start (`FileTree.Steady`). And a
name that is too long is noticed only where the directory is there that it would stand in.
-/

namespace SchemaScribe.Files.FileTree

variable {t t' : FileTree} {p : Path}

/-! ## Growth -/

/-- A place where everything is as it was, or where a directory is new. -/
def Grown (t t' : FileTree) (q : List String) : Prop :=
  t'.entry? q = t.entry? q ∨ t.entry? q = none ∧ t'.entry? q = some .directory

/-- **A tree that grew beside a place**: no directory is gone, on the way to the place there may be new ones, and
at the place everything is as it was. -/
structure Keeps (t t' : FileTree) (at' : List String) : Prop where
  home : t'.home = t.home
  directories : ∀ q, t.entry? q = some .directory → t'.entry? q = some .directory
  own : t'.entry? at' = t.entry? at'
  way : ∀ q, q <+: at' → Grown t t' q

/-- **A tree that grew by what was written to some places**: elsewhere everything is as it was, but for new
directories on the way to these places. -/
structure Grows (t t' : FileTree) (places : List (List String)) : Prop where
  home : t'.home = t.home
  directories : ∀ q, t.entry? q = some .directory → t'.entry? q = some .directory
  elsewhere : ∀ q, q ∉ places → t'.entry? q = t.entry? q ∨
    t.entry? q = none ∧ t'.entry? q = some .directory ∧ ∃ place ∈ places, q <+: place

/-- Neither of two places is above the other. -/
def Apart (q q' : List String) : Prop := ¬ q <+: q' ∧ ¬ q' <+: q

instance (q q' : List String) : Decidable (Apart q q') :=
  inferInstanceAs (Decidable (¬ q <+: q' ∧ ¬ q' <+: q))

namespace Grows

variable {places places' : List (List String)}

theorem refl (t : FileTree) (places : List (List String)) : Grows t t places where
  home := rfl
  directories := fun _ h => h
  elsewhere := fun _ _ => .inl rfl

theorem append {t'' : FileTree} (h : Grows t t' places) (h' : Grows t' t'' places') :
    Grows t t'' (places ++ places') where
  home := h'.home.trans h.home
  directories := fun q hq => h'.directories q (h.directories q hq)
  elsewhere := by
    intro q hq
    obtain ⟨hfirst, hsecond⟩ := not_or.mp (List.mem_append.not.mp hq)
    rcases h'.elsewhere q hsecond with hsame | ⟨hnone, hnew, place, hplace, hfront⟩
    · rw [hsame]
      refine (h.elsewhere q hfirst).imp_right ?_
      rintro ⟨hnone, hnew, place, hplace, hfront⟩
      exact ⟨hnone, hnew, place, List.mem_append_left _ hplace, hfront⟩
    · refine .inr ⟨?_, hnew, place, List.mem_append_right _ hplace, hfront⟩
      rcases h.elsewhere q hfirst with hsame | ⟨hnone', _⟩
      · exact hsame.symm.trans hnone
      · exact hnone'

theorem keeps {at' : List String} (h : Grows t t' places) (hat : ∀ place ∈ places, Apart place at') :
    Keeps t t' at' where
  home := h.home
  directories := h.directories
  own := by
    have hmem : at' ∉ places := fun hmem => (hat at' hmem).1 (List.prefix_refl at')
    rcases h.elsewhere at' hmem with hsame | ⟨_, _, place, hplace, hfront⟩
    · exact hsame
    · exact absurd hfront (hat place hplace).2
  way := by
    intro q hq
    have hmem : q ∉ places := fun hmem => (hat q hmem).1 hq
    rcases h.elsewhere q hmem with hsame | ⟨hnone, hnew, _⟩
    · exact .inl hsame
    · exact .inr ⟨hnone, hnew⟩

end Grows

/-! ## Reading in a tree that grew -/

/-- **A way that goes down leads where it led before**, or it ended at a missing directory that is there now. -/
theorem walk_grown (h : Rooted t) {place parts : List String} (hdown : ".." ∉ parts)
    (hway : ∀ more, more <+: parts → Grown t t' (place ++ more)) :
    t'.walk place parts = t.walk place parts ∨ t.walk place parts = .error .missing ∧
      ((∃ place', t'.walk place parts = .ok place') ∨
        t'.walk place parts = .error .nameTooLong ∧ ∃ part ∈ parts, nameLimit < part.utf8ByteSize) := by
  induction parts generalizing place with
  | nil => exact .inl rfl
  | cons part rest ih =>
    obtain ⟨hpart, hrest⟩ := not_or.mp (List.mem_cons.not.mp hdown)
    have hbelow : ∀ more, more <+: rest → Grown t t' (place ++ [part] ++ more) := by
      intro more hmore
      rw [List.append_assoc]
      exact hway ([part] ++ more) ((List.prefix_append_right_inj [part]).mpr hmore)
    rw [walk, walk, if_neg (Ne.symm hpart), if_neg (Ne.symm hpart)]
    by_cases hlong : nameLimit < part.utf8ByteSize
    · rw [if_pos hlong, if_pos hlong]
      exact .inl rfl
    · rw [if_neg hlong, if_neg hlong]
      rcases hway [part] ⟨rest, rfl⟩ with hsame | ⟨hnone, hnew⟩
      · rw [hsame]
        split
        · refine (ih hrest hbelow).imp_right (.imp_right (.imp_right ?_))
          rintro ⟨hwalk, long, hlong, hsize⟩
          exact ⟨hwalk, long, List.mem_cons_of_mem part hlong, hsize⟩
        · exact .inl rfl
        · exact .inl rfl
      · rw [hnone, hnew]
        dsimp only
        -- below a directory that is new there was nothing, so no file can be in the way
        have hfree : ∀ more bytes, more <+: rest → more ≠ [] →
            t'.entry? (place ++ [part] ++ more) ≠ some (.file bytes) := by
          intro more bytes hmore _ hfile
          rcases hbelow more hmore with hsame | ⟨_, hnew⟩
          · rw [hfile, h.none_of_above hnone (List.prefix_append _ _)] at hsame
            cases hsame
          · rw [hfile] at hnew
            cases hnew
        rcases walk_of_no_file hrest hfree with hopen | hmissing | ⟨hwalk, long, hmem, hsize⟩
        · exact .inr ⟨rfl, .inl hopen⟩
        · exact .inl hmissing
        · exact .inr ⟨rfl, .inr ⟨hwalk, long, List.mem_cons_of_mem part hmem, hsize⟩⟩

/-- **A path that leads to its place from the start**: it goes down only, or the directory above it is there. -/
def Steady (t : FileTree) (p : Path) : Prop := ".." ∉ p.parts ∨ t.isDirectory p.parent = true

instance (t : FileTree) (p : Path) : Decidable (Steady t p) :=
  inferInstanceAs (Decidable (".." ∉ p.parts ∨ t.isDirectory p.parent = true))

theorem Steady.keeps {at' : List String} (h : Steady t p) (hkeeps : Keeps t t' at') : Steady t' p :=
  h.imp_right (isDirectory_of_directories hkeeps.home hkeeps.directories)

/-- A path that goes down leads where it led before, or something was missing on its way. -/
theorem locate_of_down (h : Rooted t) (hkeeps : Keeps t t' (t.place p)) (hdown : ".." ∉ p.parts) :
    t'.locate p = t.locate p ∨ t.locate p = .error .missing ∧
      (t'.locate p = .ok (t.place p) ∧ t.entry? (t.place p) = none ∨
        t'.locate p = .error .nameTooLong ∧ ¬ Nameable p) := by
  by_cases hp : Spellable p
  · rcases List.eq_nil_or_concat p.parts with hparts | ⟨above, last, hparts⟩
    · rw [locate_nil hp hparts, locate_nil hp hparts, start_of_home hkeeps.home]
      exact .inl rfl
    · rw [List.concat_eq_append] at hparts
      obtain ⟨haboveDown, hlast⟩ := down_concat hparts hdown
      have hplace : t.place p = t.start p ++ above ++ [last] := by
        rw [place_of_down hdown, hparts, List.append_assoc]
      have hway : ∀ more, more <+: above → Grown t t' (t.start p ++ more) := by
        intro more hmore
        refine hkeeps.way _ ?_
        rw [hplace]
        exact ((List.prefix_append_right_inj _).mpr hmore).trans (List.prefix_append _ _)
      have hstart := start_of_home hkeeps.home p
      rcases walk_grown h haboveDown hway with hsame | ⟨hmissing, ⟨_, hopen⟩ | ⟨hwalk, long, hlong, hsize⟩⟩
      · rw [locate_concat hp hparts, locate_concat hp hparts, hstart, hsame]
        exact .inl rfl
      · refine .inr ⟨locate_of_walk_error hp hparts hmissing, ?_⟩
        rw [locate_of_walk hp hparts hlast (hstart ▸ hopen), place_of_home hkeeps.home]
        by_cases hsize : nameLimit < last.utf8ByteSize
        · rw [if_pos hsize]
          exact .inr ⟨rfl, fun hnames => ((nameable_concat hparts).mp hnames).2 hsize⟩
        · rw [if_neg hsize, hplace]
          exact .inl ⟨rfl, h.none_of_above (h.none_of_walk haboveDown hmissing) (List.prefix_append _ _)⟩
      · refine .inr ⟨locate_of_walk_error hp hparts hmissing, .inr ⟨?_, fun hnames => ?_⟩⟩
        · exact locate_of_walk_error hp hparts (hstart ▸ hwalk)
        · exact Nat.not_lt.mpr (hnames long (hparts ▸ List.mem_append_left [last] hlong)) hsize
  · obtain ⟨_, _, hcause⟩ := exists_cause_of_not_spellable hp
    exact .inl ((hcause t').trans (hcause t).symm)

theorem locate_keeps (h : Rooted t) (hkeeps : Keeps t t' (t.place p)) (hsteady : Steady t p) :
    t'.locate p = t.locate p ∨ t.locate p = .error .missing ∧
      (t'.locate p = .ok (t.place p) ∧ t.entry? (t.place p) = none ∨
        t'.locate p = .error .nameTooLong ∧ ¬ Nameable p) := by
  rcases hsteady with hdown | hparent
  · exact locate_of_down h hkeeps hdown
  · exact .inl (locate_of_parent hkeeps.home hkeeps.directories hparent)

/-- **What is read is read again in a tree that grew elsewhere**, unless a name of the path is too long, which is
noticed only where the directory above it is there. -/
theorem readText?_keeps (h : Rooted t) (hkeeps : Keeps t t' (t.place p)) (hsteady : Steady t p) :
    t'.readText? p = t.readText? p ∨ t.readText? p = .ok none ∧
      t'.readText? p = .error (.file ⟨.nameTooLong, p, .path⟩) ∧ ¬ Nameable p := by
  have hmissing : ∀ {t : FileTree}, t.locate p = .error .missing → t.readText? p = .ok none := by
    intro t hlocate
    unfold readText? read
    rw [hlocate]
    rfl
  rcases locate_keeps h hkeeps hsteady with hsame | ⟨hlocate, ⟨hfound, hnone⟩ | ⟨hlong, hnames⟩⟩
  · refine .inl ?_
    unfold readText? read
    rw [hsame]
    cases hlocate : t.locate p with
    | error _ => rfl
    | ok place =>
      rw [locate_eq_ok hlocate]
      dsimp only
      rw [hkeeps.own]
  · refine .inl ?_
    rw [hmissing hlocate]
    unfold readText? read
    rw [hfound]
    dsimp only
    rw [hkeeps.own, hnone]
    rfl
  · refine .inr ⟨hmissing hlocate, ?_, hnames⟩
    unfold readText? read
    rw [hlong]
    rfl

end SchemaScribe.Files.FileTree
