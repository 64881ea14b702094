import SchemaScribe.Proofs.Files.Growth

/-!
# Writing where the way is open

A path that can be read, or is missing, can be written to (`FileTree.open_of_readText?`): the directories on the
way to it can be made, and the file replaces what was there before. Only a name that is too long is in the way,
that of the temporary file included (`FileTree.write_open`). No directory beside the way is touched, and nothing
is left of the temporary file (`FileTree.replaceThrough_eq`).
-/

namespace SchemaScribe.Files.FileTree

open SchemaScribe.Document

variable {t t' : FileTree} {p : Path}

/-! ## Making directories on an open way -/

/-- **A way that is open**: it ends at the last directory of the path, or it goes down to where something is
missing. -/
def Ahead (t : FileTree) (p : Path) : Prop :=
  ∀ cause, t.walk (t.start p) p.parts = .error cause → cause = .missing ∧ ".." ∉ p.parts

/-- **A tree with new directories on one way** and no other change. -/
structure Deepens (t t' : FileTree) (way : List String) : Prop where
  home : t'.home = t.home
  entries : ∀ q, t'.entry? q = t.entry? q ∨ t.entry? q = none ∧ t'.entry? q = some .directory ∧ q <+: way

namespace Deepens

variable {way : List String}

theorem refl (t : FileTree) (way : List String) : Deepens t t way := ⟨rfl, fun _ => .inl rfl⟩

theorem directories (h : Deepens t t' way) (q : List String) (hq : t.entry? q = some .directory) :
    t'.entry? q = some .directory := by
  rcases h.entries q with hsame | ⟨_, hnew, _⟩
  · rw [hsame, hq]
  · exact hnew

theorem mono {way' : List String} (h : Deepens t t' way) (hway : way <+: way') : Deepens t t' way' where
  home := h.home
  entries := by
    intro q
    refine (h.entries q).imp_right ?_
    rintro ⟨hnone, hnew, hfront⟩
    exact ⟨hnone, hnew, hfront.trans hway⟩

/-- One more directory at the end of the way. -/
theorem put (h : Deepens t t' way) {last : String} (hnone : t.entry? (way ++ [last]) = none) :
    Deepens t (t'.put (way ++ [last]) .directory) (way ++ [last]) where
  home := h.home
  entries := by
    intro q
    by_cases hq : q = way ++ [last]
    · subst hq
      exact .inr ⟨hnone, entry?_put_self (List.concat_ne_nil _ _) t' .directory, List.prefix_refl _⟩
    · rw [entry?_put_of_ne hq]
      exact (h.mono (List.prefix_append way [last])).entries q

end Deepens

/-- What making a directory on an open way leads to: it can be made unless a name is too long. -/
structure Made (t : FileTree) (p : Path) (left : FileTree) (outcome : Except FileFault Unit) : Prop where
  rooted : Rooted left
  deepens : Deepens t left (t.place p)
  named : Nameable p → outcome = .ok ()
  unnamed : ¬ Nameable p → ∃ fault, outcome = .error fault ∧ fault.cause = .nameTooLong

section

variable (hp : Spellable p) {above : List String} {last : String} (hparts : p.parts = above ++ [last])
  (hlast : last ≠ "..") {place : List String} (hwalk : t.walk (t.start p) above = .ok place)

include hp hparts hlast hwalk

theorem makeDirectory_of_walk (hnone : t.entry? (t.place p) = none) :
    t.makeDirectory p = if nameLimit < last.utf8ByteSize then .error ⟨.nameTooLong, p, .path⟩
      else .ok (t.put (t.place p) .directory) := by
  unfold makeDirectory
  rw [locate_of_walk hp hparts hlast hwalk]
  by_cases hlong : nameLimit < last.utf8ByteSize
  · rw [if_pos hlong, if_pos hlong]
  · rw [if_neg hlong, if_neg hlong]
    dsimp only
    rw [hnone]
    rfl

theorem acceptDirectory_of_walk (hnone : t.entry? (t.place p) = none) :
    t.acceptDirectory p = if nameLimit < last.utf8ByteSize then (t, .error ⟨.nameTooLong, p, .path⟩)
      else (t.put (t.place p) .directory, .ok ()) := by
  have hnot : ¬ t.isDirectory p = true := by
    intro hdirectory
    rw [(isDirectory_iff.mp hdirectory).2] at hnone
    cases hnone
  unfold acceptDirectory
  rw [makeDirectory_of_walk hp hparts hlast hwalk hnone]
  by_cases hlong : nameLimit < last.utf8ByteSize
  · rw [if_pos hlong, if_pos hlong]
    dsimp only
    rw [if_neg hnot]
  · rw [if_neg hlong, if_neg hlong]

end

/-- A place below a way is not on it. -/
theorem Deepens.entry?_concat {way : List String} (h : Deepens t t' way) (last : String) :
    t'.entry? (way ++ [last]) = t.entry? (way ++ [last]) := by
  rcases h.entries (way ++ [last]) with hsame | ⟨_, _, hfront⟩
  · exact hsame
  · have hlength := hfront.length_le
    rw [List.length_append, List.length_singleton] at hlength
    omega

/-- When the way is made, the directory at its end can be made. -/
theorem Made.child {left : FileTree} (h : Made t p.parent left (.ok ())) (hp : Spellable p)
    (hparent : left.isDirectory p.parent = true) {above : List String} {last : String}
    (hparts : p.parts = above ++ [last]) (hlast : last ≠ "..") (hnone : t.entry? (t.place p) = none) :
    Made t p (left.acceptDirectory p).1 (left.acceptDirectory p).2 := by
  have hplace := place_concat (t := t) hparts hlast
  have hsame : left.place p = t.place p := place_of_home h.deepens.home p
  have habove := Path.parent_parts hparts
  have hwalk := walk_of_isDirectory hparent
  rw [habove] at hwalk
  have hfree : left.entry? (left.place p) = none := by
    rw [hsame, hplace, h.deepens.entry?_concat, ← hplace, hnone]
  have hnames : Nameable p.parent := by
    by_contra hnot
    obtain ⟨_, hfault, _⟩ := h.unnamed hnot
    cases hfault
  rw [acceptDirectory_of_walk hp hparts hlast hwalk hfree, hsame]
  by_cases hlong : nameLimit < last.utf8ByteSize
  · rw [if_pos hlong]
    refine ⟨h.rooted, h.deepens.mono (hplace ▸ List.prefix_append _ _), fun hall => ?_, fun _ => ⟨_, rfl, rfl⟩⟩
    exact absurd hlong ((nameable_concat hparts).mp hall).2
  · rw [if_neg hlong]
    refine ⟨h.rooted.put ?_ ?_ .directory, ?_, fun _ => rfl, fun hnot => ?_⟩
    · rw [hplace, List.dropLast_concat, ← place_of_home h.deepens.home p.parent]
      exact (isDirectory_iff.mp hparent).2
    · rw [← hsame, hfree]
      exact nofun
    · rw [hplace] at hnone ⊢
      exact h.deepens.put hnone
    · exact absurd ((nameable_concat hparts).mpr ⟨hnames, hlong⟩) hnot

theorem made_of_walk (h : Rooted t) {place : List String} (hwalk : t.walk (t.start p) p.parts = .ok place) :
    Made t p t (.ok ()) where
  rooted := h
  deepens := .refl t _
  named := fun _ => rfl
  unnamed := fun hnot => absurd (nameable_of_walk hwalk) hnot

/-- When the way cannot be made, the directory at its end cannot either. -/
theorem Made.failed {left : FileTree} {outcome : Except FileFault Unit} (h : Made t p.parent left outcome)
    (hfails : outcome ≠ .ok ()) {above : List String} {last : String} (hparts : p.parts = above ++ [last])
    (hlast : last ≠ "..") : Made t p left outcome where
  rooted := h.rooted
  deepens := by
    refine h.deepens.mono ?_
    rw [place_concat hparts hlast]
    exact List.prefix_append _ _
  named := fun hnames => absurd (h.named ((nameable_concat hparts).mp hnames).1) hfails
  unnamed := fun _ => h.unnamed fun hnames => hfails (h.named hnames)

/-- What can be made without more directories, or is there, is made at once. -/
theorem ensureParts_of_makeDirectory {absolute : Bool} {last : String} {above : List String}
    (hpath : (⟨absolute, (last :: above).reverse⟩ : Path) = p)
    (hmake : ∀ fault, t.makeDirectory p = .error fault → fault.cause ≠ .missing) :
    t.ensureParts absolute (last :: above) = t.acceptDirectory p := by
  unfold ensureParts acceptDirectory
  dsimp only
  rw [hpath]
  cases hresult : t.makeDirectory p with
  | ok _ => rfl
  | error fault =>
    dsimp only
    rw [if_neg (hmake fault hresult)]

/-- What lies below a missing directory is made after the directories above it, if they can be made. -/
theorem ensureParts_of_missing {absolute : Bool} {last : String} {above : List String}
    (hpath : (⟨absolute, (last :: above).reverse⟩ : Path) = p) {fault : FileFault}
    (hmake : t.makeDirectory p = .error fault) (hcause : fault.cause = .missing) :
    (∀ made, t.ensureParts absolute above = (made, .ok ()) →
        t.ensureParts absolute (last :: above) = made.acceptDirectory p) ∧
      ((t.ensureParts absolute above).2 ≠ .ok () →
        t.ensureParts absolute (last :: above) = t.ensureParts absolute above) := by
  rw [ensureParts, hpath, hmake]
  dsimp only
  rw [if_pos hcause]
  constructor
  · intro made hmade
    rw [hmade]
  · intro hfails
    split
    · next hmade =>
      rw [hmade] at hfails
      exact absurd rfl hfails
    · rfl

/-- **The directories on an open way can be made**, unless a name is too long. -/
theorem ensureParts_made (h : Rooted t) (absolute : Bool) (parts : List String)
    (hp : Spellable ⟨absolute, parts.reverse⟩) (hahead : Ahead t ⟨absolute, parts.reverse⟩) :
    Made t ⟨absolute, parts.reverse⟩ (t.ensureParts absolute parts).1 (t.ensureParts absolute parts).2 := by
  induction parts with
  | nil =>
    have hdirectory : t.isDirectory ⟨absolute, []⟩ = true := isDirectory_of_walk h hp rfl
    have hensure : t.ensureParts absolute [] = (t, .ok ()) := ensureDirectory_of_isDirectory hdirectory
    rw [hensure]
    exact made_of_walk h rfl
  | cons last above ih =>
    have hparts : (⟨absolute, (last :: above).reverse⟩ : Path).parts = above.reverse ++ [last] :=
      List.reverse_cons
    have hparent : (⟨absolute, (last :: above).reverse⟩ : Path).parent = ⟨absolute, above.reverse⟩ := by
      rw [Path.parent, List.reverse_cons, List.dropLast_concat]
    generalize hpath : (⟨absolute, (last :: above).reverse⟩ : Path) = p at hp hahead hparts hparent ⊢
    cases hwalk : t.walk (t.start p) p.parts with
    | ok place =>
      have hensure : t.ensureParts absolute (last :: above) = (t, .ok ()) := by
        rw [← ensureDirectory_of_isDirectory (isDirectory_of_walk h hp hwalk), ← hpath]
        unfold ensureDirectory
        rw [List.reverse_reverse]
      rw [hensure]
      exact made_of_walk h hwalk
    | error cause =>
      obtain ⟨rfl, hdown⟩ := hahead cause hwalk
      obtain ⟨haboveDown, hlast⟩ := down_concat hparts hdown
      have hnone : t.entry? (t.place p) = none := by
        rw [place_of_down hdown]
        exact h.none_of_walk hdown hwalk
      rw [hparts, walk_append] at hwalk
      rcases bind_eq_error.mp hwalk with habove | ⟨place, habove, _⟩
      · -- the directories above are made first
        have hmake : t.makeDirectory p = .error ⟨.missing, p, .path⟩ := by
          unfold makeDirectory
          rw [locate_of_walk_error hp hparts habove]
        have haheadAbove : Ahead t p.parent := by
          intro cause hcause
          rw [Path.parent_parts hparts] at hcause ⊢
          cases habove.symm.trans hcause
          exact ⟨rfl, haboveDown⟩
        have hmade := ih (hparent ▸ hp.parent) (hparent ▸ haheadAbove)
        have hdirectory := (t.ensureParts_spec absolute above).2
        rw [← hparent] at hmade hdirectory
        obtain ⟨hok, hfails⟩ := ensureParts_of_missing hpath hmake rfl
        by_cases houtcome : (t.ensureParts absolute above).2 = .ok ()
        · rw [houtcome] at hmade
          rw [hok _ (Prod.ext rfl houtcome)]
          exact hmade.child hp (hdirectory houtcome) hparts hlast hnone
        · rw [hfails houtcome]
          exact hmade.failed houtcome hparts hlast
      · -- only the last directory is missing
        have hwalkParent : t.walk (t.start p.parent) p.parent.parts = .ok place := by
          rw [Path.parent_parts hparts]
          exact habove
        have hmake : ∀ fault, t.makeDirectory p = .error fault → fault.cause ≠ .missing := by
          intro fault hfault
          rw [makeDirectory_of_walk hp hparts hlast habove hnone] at hfault
          split at hfault
          · cases hfault
            exact Cause.noConfusion
          · cases hfault
        rw [ensureParts_of_makeDirectory hpath hmake]
        exact (made_of_walk h hwalkParent).child hp (isDirectory_of_walk h hp.parent hwalkParent) hparts hlast hnone

/-! ## Writing on an open way -/

/-- **A path that can be written to** but for its length: the way to the directory above it is open, and it is no
directory itself. -/
structure Open (t : FileTree) (p : Path) : Prop where
  spellable : Spellable p
  ahead : ∀ cause, t.walk (t.start p) p.parent.parts = .error cause → cause = .missing ∧ ".." ∉ p.parts
  free : t.entry? (t.place p) ≠ some .directory

/-- A path that leads to something else than a directory is open. -/
theorem open_of_locate {place : List String} (hlocate : t.locate p = .ok place)
    (hfree : t.entry? place ≠ some .directory) : Open t p := by
  have hp := spellable_of_locate_eq_ok hlocate
  refine ⟨hp, fun cause hcause => ?_, locate_eq_ok hlocate ▸ hfree⟩
  rcases List.eq_nil_or_concat p.parts with hparts | ⟨above, last, hparts⟩
  · unfold Path.parent at hcause
    rw [hparts] at hcause
    cases hcause
  · rw [List.concat_eq_append] at hparts
    rw [locate_concat hp hparts] at hlocate
    obtain ⟨_, habove, _⟩ := bind_eq_ok.mp hlocate
    rw [Path.parent_parts hparts, habove] at hcause
    cases hcause

/-- A path on which a directory is missing is open, if it leads to its place from the start. -/
theorem open_of_locate_missing (h : Rooted t) (hsteady : Steady t p) (hlocate : t.locate p = .error .missing) :
    Open t p := by
  have hp : Spellable p := by
    by_contra hnot
    obtain ⟨cause, hne, hcause⟩ := exists_cause_of_not_spellable hnot
    rw [hcause t] at hlocate
    exact hne (Except.error.inj hlocate)
  obtain ⟨above, last, hparts⟩ : ∃ above last, p.parts = above ++ [last] := by
    rcases List.eq_nil_or_concat p.parts with hparts | ⟨above, last, hparts⟩
    · rw [locate_nil hp hparts] at hlocate
      cases hlocate
    · exact ⟨above, last, hparts.trans List.concat_eq_append⟩
  have hwalk : t.walk (t.start p) above = .error .missing := by
    rw [locate_concat hp hparts] at hlocate
    rcases bind_eq_error.mp hlocate with habove | ⟨place, _, hlast⟩
    · exact habove
    · split at hlast
      · cases hlast
      · split at hlast
        · cases hlast
        · cases hlast
  have hdown : ".." ∉ p.parts := by
    refine hsteady.resolve_right fun hdirectory => ?_
    have hopen := walk_of_isDirectory hdirectory
    rw [Path.parent_parts hparts] at hopen
    exact nomatch hwalk.symm.trans hopen
  refine ⟨hp, fun cause hcause => ?_, fun hdirectory => ?_⟩
  · rw [Path.parent_parts hparts, hwalk] at hcause
    exact ⟨(Except.error.inj hcause).symm, hdown⟩
  · have hnone := h.none_of_walk (down_concat hparts hdown).1 hwalk
    rw [place_of_down hdown, hparts, ← List.append_assoc,
      h.none_of_above hnone (List.prefix_append _ _)] at hdirectory
    cases hdirectory

/-- What can be read, or is missing, can be written to. -/
theorem open_of_readText? (h : Rooted t) (hsteady : Steady t p) {existing : Option String}
    (hread : t.readText? p = .ok existing) : Open t p := by
  unfold readText? read at hread
  cases hlocate : t.locate p with
  | error cause =>
    rw [hlocate] at hread
    dsimp only at hread
    split at hread
    · next hmissing =>
      obtain rfl : cause = .missing := hmissing
      exact open_of_locate_missing h hsteady hlocate
    · cases hread
  | ok place =>
    refine open_of_locate hlocate fun hdirectory => ?_
    rw [hlocate] at hread
    dsimp only at hread
    rw [hdirectory] at hread
    cases hread

/-- An open path ends in a name. -/
theorem Open.exists_concat (h : Rooted t) (hopen : Open t p) :
    ∃ above last, p.parts = above ++ [last] ∧ last ≠ ".." := by
  have hfree := hopen.free
  rcases List.eq_nil_or_concat p.parts with hparts | ⟨above, last, hparts⟩
  · unfold place at hfree
    rw [hparts] at hfree
    exact absurd (h.start p) hfree
  · rw [List.concat_eq_append] at hparts
    refine ⟨above, last, hparts, ?_⟩
    rintro rfl
    -- double dots at the end lead from a directory to the one above it
    cases hwalk : t.walk (t.start p) above with
    | error cause =>
      rw [← Path.parent_parts hparts] at hwalk
      exact (hopen.ahead cause hwalk).2 (hparts ▸ List.mem_append_right above List.mem_cons_self)
    | ok place =>
      unfold FileTree.place at hfree
      rw [hparts, Path.follow_append, ← walk_eq_ok hwalk] at hfree
      exact hfree (h.dropLast (h.walk (h.start p) hwalk))

/-- The directory above an open path can be made, unless a name is too long. -/
theorem Open.ensureDirectory (h : Rooted t) (hopen : Open t p) :
    Made t p.parent (t.ensureDirectory p.parent).1 (t.ensureDirectory p.parent).2 := by
  have hahead : Ahead t p.parent := by
    intro cause hcause
    obtain ⟨rfl, hdown⟩ := hopen.ahead cause hcause
    exact ⟨rfl, fun hmem => hdown (List.dropLast_subset _ hmem)⟩
  have hmade := ensureParts_made h p.parent.absolute p.parent.parts.reverse
  rw [List.reverse_reverse] at hmade
  exact hmade hopen.spellable.parent hahead

/-- **What writing to an open path leads to.** It fails only for a name that is too long, also that of the
temporary file, and then the file is as it was. -/
structure Wrote (t : FileTree) (p : Path) (bytes : ByteArray) (left : FileTree)
    (outcome : Except FileFault Unit) : Prop where
  rooted : Rooted left
  grows : Grows t left [t.place p]
  fits : Nameable p → isCramped p = false → outcome = .ok ()
  cramped : Nameable p → isCramped p = true → outcome = .error ⟨.nameTooLong, p, .temporary⟩
  unnamed : ¬ Nameable p → ∃ fault, outcome = .error fault ∧ fault.cause = .nameTooLong
  done : outcome = .ok () → left.entry? (t.place p) = some (.file bytes)
  failed : ∀ fault, outcome = .error fault → left.entry? (t.place p) = t.entry? (t.place p)

/-- **A path that leaves room** for a file and for the temporary file beside it. -/
def Fits (p : Path) : Prop := Nameable p ∧ isCramped p = false

instance (p : Path) : Decidable (Fits p) := inferInstanceAs (Decidable (Nameable p ∧ isCramped p = false))

/-- Writing to an open path fails exactly where there is no room. -/
theorem Wrote.outcome {bytes : ByteArray} {left : FileTree} {outcome : Except FileFault Unit}
    (h : Wrote t p bytes left outcome) :
    Fits p ∧ outcome = .ok () ∨ ¬ Fits p ∧ ∃ fault, outcome = .error fault ∧ fault.cause = .nameTooLong := by
  by_cases hnames : Nameable p
  · cases hcramped : isCramped p with
    | true =>
      refine .inr ⟨fun hfits => ?_, _, h.cramped hnames hcramped, rfl⟩
      exact Bool.false_ne_true (hfits.2.symm.trans hcramped)
    | false => exact .inl ⟨⟨hnames, hcramped⟩, h.fits hnames hcramped⟩
  · exact .inr ⟨fun hfits => hnames hfits.1, h.unnamed hnames⟩

theorem Deepens.grows {way : List String} {last : String} (h : Deepens t t' way) :
    Grows t t' [way ++ [last]] where
  home := h.home
  directories := h.directories
  elsewhere := by
    intro q _
    refine (h.entries q).imp_right ?_
    rintro ⟨hnone, hnew, hfront⟩
    exact ⟨hnone, hnew, _, List.mem_singleton_self _, hfront.trans (List.prefix_append _ _)⟩

theorem Grows.put {place : List String} (h : Grows t t' [place]) (hfree : t'.entry? place ≠ some .directory)
    (e : Entry) : Grows t (t'.put place e) [place] where
  home := h.home
  directories := fun q hq => entry?_put_directory hfree e (h.directories q hq)
  elsewhere := by
    intro q hq
    rw [entry?_put_of_ne fun heq => hq (List.mem_singleton.mpr heq)]
    exact h.elsewhere q hq

/-- A temporary name is longer than the name that it stands for. -/
theorem isCramped_of_long {above : List String} {last : String} (hparts : p.parts = above ++ [last])
    (hlong : nameLimit < last.utf8ByteSize) : isCramped p = true := by
  unfold isCramped Path.name
  rw [hparts, List.getLast?_concat]
  simp only [Option.getD_some, Bool.or_eq_true, decide_eq_true_eq]
  exact .inl (Nat.lt_add_right _ hlong)

/-- A file in a directory that is there replaces what was there before, unless its name is too long. -/
theorem replace_open (h : Rooted t) (hopen : Open t p) {left : FileTree}
    (hmade : Made t p.parent left (.ok ())) (hparent : left.isDirectory p.parent = true) (bytes : ByteArray) :
    left.replace p bytes = if isCramped p then .error ⟨.nameTooLong, p, .temporary⟩
      else .ok (left.put (t.place p) (.file bytes)) := by
  obtain ⟨above, last, hparts, hlast⟩ := hopen.exists_concat h
  have hplace := place_concat (t := t) hparts hlast
  have hname : p.name = last := by
    unfold Path.name
    rw [hparts, List.getLast?_concat]
    rfl
  have hentry : left.entry? (t.place p) ≠ some .directory := by
    rw [hplace, hmade.deepens.entry?_concat, ← hplace]
    exact hopen.free
  unfold replace
  by_cases hcramped : isCramped p = true
  · rw [if_pos hcramped, if_pos hcramped]
  · rw [if_neg hcramped, if_neg hcramped, if_neg (by simp [hparts, hname, hlast])]
    have hshort : ¬ nameLimit < last.utf8ByteSize := fun hlong => hcramped (isCramped_of_long hparts hlong)
    have hwalk := walk_of_isDirectory hparent
    rw [Path.parent_parts hparts] at hwalk
    rw [locate_of_walk hopen.spellable hparts hlast hwalk, if_neg hshort,
      place_of_home hmade.deepens.home]
    dsimp only
    split
    · next hdirectory => exact absurd hdirectory hentry
    · rfl

/-- **Writing to an open path succeeds** unless a name is too long, of the path or of the temporary file beside
it. `Wrote` tells the two cases apart, and what is left in each. -/
theorem write_open (h : Rooted t) (hopen : Open t p) (bytes : ByteArray) :
    Wrote t p bytes (t.write p bytes).1 (t.write p bytes).2 := by
  obtain ⟨above, last, hparts, hlast⟩ := hopen.exists_concat h
  have hplace := place_concat (t := t) hparts hlast
  have hmade := hopen.ensureDirectory h
  have hspec := (t.ensureDirectory_spec p.parent).2
  unfold write
  split
  · next made hensure =>
    rw [hensure] at hmade hspec
    have hgrows : Grows t made [t.place p] := hplace ▸ hmade.deepens.grows
    have hsame : made.entry? (t.place p) = t.entry? (t.place p) := by
      rw [hplace, hmade.deepens.entry?_concat]
    have hnames : Nameable p.parent := by
      by_contra hnot
      obtain ⟨_, hfault, _⟩ := hmade.unnamed hnot
      cases hfault
    rw [replace_open h hopen hmade (hspec rfl)]
    by_cases hcramped : isCramped p = true
    · rw [if_pos hcramped]
      refine ⟨hmade.rooted, hgrows, fun _ hfits => ?_, fun _ _ => rfl, fun _ => ⟨_, rfl, rfl⟩, nofun,
        fun _ _ => hsame⟩
      rw [hcramped] at hfits
      cases hfits
    · rw [if_neg hcramped]
      have hfree : made.entry? (t.place p) ≠ some .directory := hsame ▸ hopen.free
      have hput : entry? (made.put (t.place p) (.file bytes)) (t.place p) = some (.file bytes) := by
        refine entry?_put_self ?_ made _
        rw [hplace]
        exact List.concat_ne_nil _ _
      refine ⟨hmade.rooted.put ?_ hfree _, hgrows.put hfree _, fun _ _ => rfl, fun _ hc => absurd hc hcramped,
        fun hnot => ?_, fun _ => hput, nofun⟩
      · rw [hplace, List.dropLast_concat, ← place_of_home hmade.deepens.home p.parent]
        exact (isDirectory_iff.mp (hspec rfl)).2
      · have hshort := fun hlong => hcramped (isCramped_of_long hparts hlong)
        exact absurd ((nameable_concat hparts).mpr ⟨hnames, hshort⟩) hnot
  · next failed hfailed =>
    have hnot : ¬ Nameable p.parent := fun hnames => hfailed _ (Prod.ext rfl (hmade.named hnames))
    have hnotAll : ¬ Nameable p := fun hnames => hnot ((nameable_concat hparts).mp hnames).1
    obtain ⟨fault, hfault, hcause⟩ := hmade.unnamed hnot
    refine ⟨hmade.rooted, hplace ▸ hmade.deepens.grows, fun hnames => absurd hnames hnotAll,
      fun hnames => absurd hnames hnotAll, fun _ => ⟨fault, hfault, hcause⟩, fun hok => ?_, fun _ _ => ?_⟩
    · rw [hok] at hfault
      cases hfault
    · rw [hplace, hmade.deepens.entry?_concat]

/-! ## Temporary files

`replace` tells what becomes of a path. The system puts the content under a temporary name first, which is then
moved, or taken away again if it cannot be moved. -/

/-- Moves content to a path through a file with a temporary name beside it. -/
def replaceThrough (t : FileTree) (temporary : String) (p : Path) (bytes : ByteArray) :
    FileTree × Except FileFault Unit :=
  let beside := t.place p.parent ++ [temporary]
  let filled := t.put beside (.file bytes)
  if isCramped p then (t, .error ⟨.nameTooLong, p, .temporary⟩)
  else if p.parts.isEmpty || p.name = ".." then (filled.remove beside, .error ⟨.busy, p, .move⟩)
  else
    match filled.locate p with
    | .error cause => (filled.remove beside, .error ⟨cause, p, .move⟩)
    | .ok place =>
      match filled.entry? place with
      | some .directory => (filled.remove beside, .error ⟨.isDirectory, p, .move⟩)
      | _ => ((filled.remove beside).put place (.file bytes), .ok ())

theorem entry?_ne_none {entry : List String × Entry} (h : entry ∈ t.entries) : t.entry? entry.1 ≠ none := by
  unfold entry? entryAt?
  split
  · exact nofun
  · rw [Ne, Option.map_eq_none_iff, List.find?_eq_none]
    exact fun hall => hall entry h (decide_eq_true rfl)

/-- What is put where nothing was can be taken away again. -/
theorem Rooted.remove_put (h : Rooted t) {q : List String} (hq : t.entry? q = none) (e : Entry) :
    (t.put q e).remove q = t := by
  have hnew : q ∉ t.entries.map (·.1) := by
    intro hmem
    obtain ⟨entry, hentry, rfl⟩ := List.mem_map.mp hmem
    exact entry?_ne_none hentry hq
  have hkeep : t.entries.filter (fun entry => !q.isPrefixOf entry.1) = t.entries := by
    refine List.filter_eq_self.mpr fun entry hentry => ?_
    rw [Bool.not_eq_true', Bool.eq_false_iff]
    exact fun hfront => entry?_ne_none hentry (h.none_of_above hq (List.isPrefixOf_iff_prefix.mp hfront))
  have hself : q.isPrefixOf q = true := List.isPrefixOf_iff_prefix.mpr (List.prefix_refl q)
  unfold remove FileTree.put
  dsimp only
  rw [setEntry_eq_append e hnew, List.filter_append, hkeep, List.filter_singleton, hself]
  simp

/-- **Nothing is left of a temporary file.** Where its name was free, moving content through it leads to the same
tree and the same outcome as putting the content in place at once. -/
theorem replaceThrough_eq (h : Rooted t) (hparent : t.isDirectory p.parent = true) {temporary : String}
    (hfree : t.entry? (t.place p.parent ++ [temporary]) = none)
    (hother : t.place p ≠ t.place p.parent ++ [temporary]) (bytes : ByteArray) :
    t.replaceThrough temporary p bytes = match t.replace p bytes with
      | .ok written => (written, .ok ())
      | .error fault => (t, .error fault) := by
  have hdirectory : t.entry? (t.place p.parent ++ [temporary]) ≠ some .directory := by
    rw [hfree]
    exact nofun
  have hlocate : locate (t.put (t.place p.parent ++ [temporary]) (.file bytes)) p = t.locate p :=
    locate_of_parent rfl (fun _ hq => entry?_put_directory hdirectory _ hq) hparent
  unfold replaceThrough replace
  dsimp only
  rw [hlocate, h.remove_put hfree]
  split
  · rfl
  · split
    · rfl
    · cases hplace : t.locate p with
      | error _ => rfl
      | ok place =>
        obtain rfl := locate_eq_ok hplace
        dsimp only
        rw [entry?_put_of_ne hother]
        rcases t.entry? (t.place p) with _ | ⟨_ | _⟩
        all_goals rfl

end SchemaScribe.Files.FileTree
