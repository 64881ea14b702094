import SchemaScribe.Proofs.Files.Tree

/-!
# Ways through a file tree

In a tree as the system keeps it, everything stands in a directory (`FileTree.Rooted`). So a way through the tree
leads from directory to directory, and a way that goes down where something is missing ends at nothing
(`FileTree.Rooted.none_of_walk`). A path is followed in two steps: the way to the directory above it, and its last
name (`FileTree.locate_concat`).
-/

namespace SchemaScribe.Files

open SchemaScribe.Document

/-! ## Parts of paths -/

theorem Path.hasNull_parent {p : Path} (h : p.hasNull = false) : p.parent.hasNull = false :=
  FileTree.hasNull_of_subset (List.dropLast_subset p.parts) h

/-- The text of a path goes on where that of the path above it ends. -/
theorem Path.shown_concat (absolute : Bool) {above : List String} (habove : above ≠ []) (last : String) :
    (⟨absolute, above ++ [last]⟩ : Path).shown = (⟨absolute, above⟩ : Path).shown ++ "/" ++ last := by
  have hjoin : "/".intercalate (above ++ [last]) = "/".intercalate above ++ "/" ++ last := by
    rw [String.intercalate_append_of_ne_nil habove (List.cons_ne_nil _ _), String.intercalate_singleton]
  cases absolute with
  | true => simp [shown, hjoin, String.append_assoc]
  | false => simp [shown, hjoin, habove]

theorem Path.isTooLong_parent {p : Path} (h : p.isTooLong = false) : p.parent.isTooLong = false := by
  have hroot : ∀ absolute, (⟨absolute, []⟩ : Path).isTooLong = false := by decide
  obtain ⟨absolute, parts⟩ := p
  rcases List.eq_nil_or_concat parts with rfl | ⟨above, last, rfl⟩
  · exact hroot absolute
  · rw [List.concat_eq_append] at h
    rw [parent, List.concat_eq_append, List.dropLast_concat]
    by_cases habove : above = []
    · rw [habove]
      exact hroot absolute
    · simp only [isTooLong, shown_concat absolute habove, String.utf8ByteSize_append,
        decide_eq_false_iff_not, Nat.not_le] at h ⊢
      omega

theorem Path.parent_parts {p : Path} {above : List String} {last : String} (h : p.parts = above ++ [last]) :
    p.parent.parts = above := by
  unfold Path.parent
  rw [h, List.dropLast_concat]

namespace FileTree

variable {t t' : FileTree} {p : Path}

/-- **Every part of a path is short enough for a name.** -/
def Nameable (p : Path) : Prop := ∀ part ∈ p.parts, part.utf8ByteSize ≤ nameLimit

instance (p : Path) : Decidable (Nameable p) :=
  inferInstanceAs (Decidable (∀ part ∈ p.parts, part.utf8ByteSize ≤ nameLimit))

theorem nameable_concat {above : List String} {last : String} (hparts : p.parts = above ++ [last]) :
    Nameable p ↔ Nameable p.parent ∧ ¬ nameLimit < last.utf8ByteSize := by
  unfold Nameable
  rw [Path.parent_parts hparts, hparts, List.forall_mem_append, List.forall_mem_singleton, Nat.not_lt]

/-! ## Rooted trees -/

/-- **A tree as the system keeps it**: whatever stands in it stands in a directory, and so does the program. -/
structure Rooted (t : FileTree) : Prop where
  above : ∀ entry ∈ t.entries, t.entry? entry.1.dropLast = some .directory
  home : t.entry? t.home = some .directory
  down : ".." ∉ t.home

instance (t : FileTree) : Decidable (Rooted t) :=
  decidable_of_iff
    ((∀ entry ∈ t.entries, t.entry? entry.1.dropLast = some .directory) ∧
      t.entry? t.home = some .directory ∧ ".." ∉ t.home)
    ⟨fun h => ⟨h.1, h.2.1, h.2.2⟩, fun h => ⟨h.above, h.home, h.down⟩⟩

theorem exists_of_entry?_eq_some {q : List String} {e : Entry} (h : t.entry? q = some e) (hq : q ≠ []) :
    ∃ entry ∈ t.entries, entry.1 = q := by
  unfold entry? entryAt? at h
  rw [if_neg (by simpa using hq)] at h
  obtain ⟨entry, hfound, _⟩ := Option.map_eq_some_iff.mp h
  exact ⟨entry, List.mem_of_find?_eq_some hfound, by simpa using List.find?_some hfound⟩

/-- Directories stay where something is put in another place. -/
theorem entry?_put_directory {q q' : List String} (hq : t.entry? q ≠ some .directory) (e : Entry)
    (hq' : t.entry? q' = some .directory) : entry? (t.put q e) q' = some .directory := by
  have hne : q' ≠ q := by
    rintro rfl
    exact hq hq'
  rw [entry?_put_of_ne hne, hq']

namespace Rooted

variable (h : Rooted t)

include h

theorem dropLast {q : List String} {e : Entry} (hq : t.entry? q = some e) :
    t.entry? q.dropLast = some .directory := by
  by_cases hnil : q = []
  · rw [hnil]
    exact t.entry?_nil
  · obtain ⟨entry, hentry, rfl⟩ := exists_of_entry?_eq_some hq hnil
    exact h.above entry hentry

theorem of_append {q more : List String} {e : Entry} (hentry : t.entry? (q ++ more) = some e)
    (hmore : more ≠ []) : t.entry? q = some .directory := by
  induction more generalizing q with
  | nil => exact absurd rfl hmore
  | cons part rest ih =>
    rw [List.append_cons] at hentry
    have hpart : ∃ e', t.entry? (q ++ [part]) = some e' := by
      by_cases hrest : rest = []
      · rw [hrest, List.append_nil] at hentry
        exact ⟨e, hentry⟩
      · exact ⟨.directory, ih hentry hrest⟩
    obtain ⟨_, hpart⟩ := hpart
    have habove := h.dropLast hpart
    rw [List.dropLast_concat] at habove
    exact habove

/-- Where nothing is, nothing is below. -/
theorem none_of_above {q q' : List String} (hq : t.entry? q = none) (hfront : q <+: q') :
    t.entry? q' = none := by
  obtain ⟨more, rfl⟩ := hfront
  by_cases hmore : more = []
  · rw [hmore, List.append_nil]
    exact hq
  · by_contra hne
    obtain ⟨e, he⟩ := Option.ne_none_iff_exists'.mp hne
    rw [h.of_append he hmore] at hq
    cases hq

theorem start (p : Path) : t.entry? (t.start p) = some .directory := by
  unfold FileTree.start
  split
  · exact t.entry?_nil
  · exact h.home

theorem put {q : List String} (habove : t.entry? q.dropLast = some .directory)
    (hq : t.entry? q ≠ some .directory) (e : Entry) : Rooted (t.put q e) where
  above := by
    intro entry hentry
    rcases mem_setEntry hentry with rfl | hold
    · exact entry?_put_directory hq e habove
    · exact entry?_put_directory hq e (h.above entry hold)
  home := entry?_put_directory hq e h.home
  down := h.down

/-- A way from a directory leads to a directory. -/
theorem walk {place place' parts : List String} (hplace : t.entry? place = some .directory)
    (hwalk : t.walk place parts = .ok place') : t.entry? place' = some .directory := by
  induction parts generalizing place with
  | nil =>
    cases hwalk
    exact hplace
  | cons part rest ih =>
    rw [FileTree.walk] at hwalk
    split at hwalk
    · exact ih (h.dropLast hplace) hwalk
    · split at hwalk
      · cases hwalk
      · split at hwalk
        · next hentry => exact ih hentry hwalk
        · cases hwalk
        · cases hwalk

end Rooted

/-! ## Ways through a tree -/

theorem walk_append (t : FileTree) (place parts more : List String) :
    t.walk place (parts ++ more) = t.walk place parts >>= fun place' => t.walk place' more := by
  induction parts generalizing place with
  | nil => rfl
  | cons part rest ih =>
    rw [List.cons_append, walk, walk]
    split
    · exact ih _
    · split
      · rfl
      · split
        · exact ih _
        · rfl
        · rfl

/-- **A path that the system takes**, whatever the tree is. -/
structure Spellable (p : Path) : Prop where
  noNull : p.hasNull = false
  short : p.isTooLong = false

theorem Spellable.parent (h : Spellable p) : Spellable p.parent :=
  ⟨Path.hasNull_parent h.noNull, Path.isTooLong_parent h.short⟩

/-- Other paths lead nowhere in any tree. -/
theorem exists_cause_of_not_spellable (h : ¬ Spellable p) :
    ∃ cause, cause ≠ .missing ∧ ∀ t : FileTree, t.locate p = .error cause := by
  cases hnull : p.hasNull with
  | true =>
    refine ⟨.nullCharacter, nofun, fun t => ?_⟩
    unfold locate
    rw [if_pos hnull]
  | false =>
    cases hlong : p.isTooLong with
    | true =>
      refine ⟨.nameTooLong, nofun, fun t => ?_⟩
      unfold locate
      rw [if_neg (by simp [hnull]), if_pos hlong]
    | false => exact absurd ⟨hnull, hlong⟩ h

theorem spellable_of_locate_eq_ok {place : List String} (h : t.locate p = .ok place) : Spellable p := by
  by_contra hp
  obtain ⟨_, _, hcause⟩ := exists_cause_of_not_spellable hp
  rw [hcause t] at h
  cases h

theorem locate_nil (hp : Spellable p) (hparts : p.parts = []) : t.locate p = .ok (t.start p) := by
  unfold locate
  rw [if_neg (by simp [hp.noNull]), if_neg (by simp [hp.short]), hparts]
  rfl

theorem locate_concat (hp : Spellable p) {above : List String} {last : String}
    (hparts : p.parts = above ++ [last]) :
    t.locate p = t.walk (t.start p) above >>= fun place =>
      if last = ".." then .ok place.dropLast
      else if nameLimit < last.utf8ByteSize then .error .nameTooLong
      else .ok (place ++ [last]) := by
  unfold locate
  rw [if_neg (by simp [hp.noNull]), if_neg (by simp [hp.short]), hparts, List.getLast?_concat,
    List.dropLast_concat]
  rfl

/-- What can be walked through can be named. -/
theorem nameable_of_walk {place place' : List String} {parts : List String}
    (hwalk : t.walk place parts = .ok place') : ∀ part ∈ parts, part.utf8ByteSize ≤ nameLimit := by
  have hup : (".." : String).utf8ByteSize ≤ nameLimit := by decide
  induction parts generalizing place with
  | nil => exact List.forall_mem_nil _
  | cons part rest ih =>
    rw [walk] at hwalk
    split at hwalk
    · next heq => exact List.forall_mem_cons.mpr ⟨heq ▸ hup, ih hwalk⟩
    · split at hwalk
      · cases hwalk
      · next hshort =>
        split at hwalk
        · exact List.forall_mem_cons.mpr ⟨Nat.le_of_not_lt hshort, ih hwalk⟩
        · cases hwalk
        · cases hwalk

theorem walk_of_isDirectory (h : t.isDirectory p = true) : t.walk (t.start p) p.parts = .ok (t.place p) := by
  obtain ⟨hlocate, hentry⟩ := isDirectory_iff.mp h
  have hp := spellable_of_locate_eq_ok hlocate
  rcases List.eq_nil_or_concat p.parts with hparts | ⟨above, last, hparts⟩
  · unfold place
    rw [hparts]
    rfl
  · rw [List.concat_eq_append] at hparts
    rw [locate_concat hp hparts] at hlocate
    obtain ⟨place, habove, hlast⟩ := bind_eq_ok.mp hlocate
    rw [hparts, walk_append, habove]
    show t.walk place [last] = _
    rw [walk]
    split at hlast
    · next hup =>
      rw [if_pos hup]
      exact hlast
    · next hdown =>
      rw [if_neg hdown]
      split at hlast
      · cases hlast
      · next hshort =>
        rw [← Except.ok.inj hlast] at hentry
        rw [if_neg hshort, hentry]
        exact hlast

theorem isDirectory_of_walk (h : Rooted t) (hp : Spellable p) {place : List String}
    (hwalk : t.walk (t.start p) p.parts = .ok place) : t.isDirectory p = true := by
  have hentry := h.walk (h.start p) hwalk
  have hplace : place = t.place p := walk_eq_ok hwalk
  refine isDirectory_iff.mpr ⟨?_, hplace ▸ hentry⟩
  rw [← hplace]
  rcases List.eq_nil_or_concat p.parts with hparts | ⟨above, last, hparts⟩
  · rw [hparts] at hwalk
    exact (locate_nil hp hparts).trans hwalk
  · rw [List.concat_eq_append] at hparts
    rw [hparts, walk_append] at hwalk
    obtain ⟨place', habove, hlast⟩ := bind_eq_ok.mp hwalk
    rw [locate_concat hp hparts, habove]
    show (if last = ".." then _ else _) = _
    rw [walk] at hlast
    split at hlast
    · next hup =>
      rw [if_pos hup]
      exact hlast
    · next hdown =>
      rw [if_neg hdown]
      split at hlast
      · cases hlast
      · next hshort =>
        rw [if_neg hshort]
        split at hlast
        · exact hlast
        · cases hlast
        · cases hlast

/-- A way that goes down where something is missing ends at nothing. -/
theorem Rooted.none_of_walk (h : Rooted t) {place parts : List String} (hdown : ".." ∉ parts)
    (hwalk : t.walk place parts = .error .missing) : t.entry? (place ++ parts) = none := by
  induction parts generalizing place with
  | nil => cases hwalk
  | cons part rest ih =>
    obtain ⟨hpart, hrest⟩ := not_or.mp (List.mem_cons.not.mp hdown)
    rw [FileTree.walk, if_neg (Ne.symm hpart)] at hwalk
    rw [List.append_cons]
    split at hwalk
    · cases hwalk
    · split at hwalk
      · exact ih hrest hwalk
      · cases hwalk
      · next hentry => exact h.none_of_above hentry (List.prefix_append _ _)

/-- A way that goes down and meets no file is open, or something is missing, or a name is too long. -/
theorem walk_of_no_file {place parts : List String} (hdown : ".." ∉ parts)
    (hfree : ∀ more bytes, more <+: parts → more ≠ [] → t.entry? (place ++ more) ≠ some (.file bytes)) :
    (∃ place', t.walk place parts = .ok place') ∨ t.walk place parts = .error .missing ∨
      t.walk place parts = .error .nameTooLong ∧ ∃ part ∈ parts, nameLimit < part.utf8ByteSize := by
  induction parts generalizing place with
  | nil => exact .inl ⟨place, rfl⟩
  | cons part rest ih =>
    obtain ⟨hpart, hrest⟩ := not_or.mp (List.mem_cons.not.mp hdown)
    rw [walk, if_neg (Ne.symm hpart)]
    split
    · next hlong => exact .inr (.inr ⟨rfl, part, List.mem_cons_self, hlong⟩)
    · split
      · have hrestFree : ∀ more bytes, more <+: rest → more ≠ [] →
            t.entry? (place ++ [part] ++ more) ≠ some (.file bytes) := by
          intro more bytes hmore _
          rw [List.append_assoc]
          exact hfree ([part] ++ more) bytes ((List.prefix_append_right_inj [part]).mpr hmore)
            (List.cons_ne_nil part more)
        rcases ih hrest hrestFree with hopen | hmissing | ⟨hwalk, long, hlong, hsize⟩
        · exact .inl hopen
        · exact .inr (.inl hmissing)
        · exact .inr (.inr ⟨hwalk, long, List.mem_cons_of_mem part hlong, hsize⟩)
      · next bytes hentry => exact absurd hentry (hfree [part] bytes ⟨rest, rfl⟩ (List.cons_ne_nil part []))
      · exact .inr (.inl rfl)

/-! ## Places of paths -/

theorem place_concat {above : List String} {last : String} (hparts : p.parts = above ++ [last])
    (hlast : last ≠ "..") : t.place p = t.place p.parent ++ [last] := by
  unfold place
  rw [Path.parent_parts hparts, hparts, Path.follow_append, Path.follow, Path.follow, if_neg hlast]
  rfl

theorem place_of_down (hdown : ".." ∉ p.parts) : t.place p = t.start p ++ p.parts :=
  Path.follow_of_not_mem hdown (t.start p)

/-- The parts of a path that goes down only. -/
theorem down_concat {above : List String} {last : String} (hparts : p.parts = above ++ [last])
    (hdown : ".." ∉ p.parts) : ".." ∉ above ∧ last ≠ ".." := by
  rw [hparts, List.mem_append, List.mem_singleton] at hdown
  exact ⟨fun hmem => hdown (.inl hmem), fun heq => hdown (.inr heq.symm)⟩

/-- At the end of an open way only the last name can be wrong. -/
theorem locate_of_walk (hp : Spellable p) {above : List String} {last : String}
    (hparts : p.parts = above ++ [last]) (hlast : last ≠ "..") {place : List String}
    (hwalk : t.walk (t.start p) above = .ok place) :
    t.locate p = if nameLimit < last.utf8ByteSize then .error .nameTooLong else .ok (t.place p) := by
  have hplace : t.place p = place ++ [last] := by
    rw [place_concat hparts hlast, walk_eq_ok hwalk, ← Path.parent_parts hparts]
    rfl
  rw [hplace, locate_concat hp hparts, hwalk]
  exact if_neg hlast

theorem locate_of_walk_error (hp : Spellable p) {above : List String} {last : String}
    (hparts : p.parts = above ++ [last]) {cause : Cause} (hwalk : t.walk (t.start p) above = .error cause) :
    t.locate p = .error cause := by
  rw [locate_concat hp hparts, hwalk]
  rfl

/-- Where the directory above a path is there, the path leads to the same place whatever is new. -/
theorem locate_of_parent (hhome : t'.home = t.home)
    (hkept : ∀ q, t.entry? q = some .directory → t'.entry? q = some .directory)
    (hparent : t.isDirectory p.parent = true) : t'.locate p = t.locate p := by
  by_cases hp : Spellable p
  · rcases List.eq_nil_or_concat p.parts with hparts | ⟨above, last, hparts⟩
    · rw [locate_nil hp hparts, locate_nil hp hparts, start_of_home hhome]
    · rw [List.concat_eq_append] at hparts
      have hwalk : t.walk (t.start p) above = .ok (t.place p.parent) := by
        rw [← Path.parent_parts hparts]
        exact walk_of_isDirectory hparent
      rw [locate_concat hp hparts, locate_concat hp hparts, start_of_home hhome, hwalk,
        walk_of_directories hkept hwalk]
  · obtain ⟨_, _, hcause⟩ := exists_cause_of_not_spellable hp
    exact (hcause t').trans (hcause t).symm

end FileTree

end SchemaScribe.Files
