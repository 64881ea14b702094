import SchemaScribe.Files.Tree
import SchemaScribe.Proofs.Keys
import SchemaScribe.Proofs.Outcome
import SchemaScribe.Proofs.Text.Encoding
import SchemaScribe.Proofs.Text.Lines

/-!
# What writing does to a file tree

A path leads to one place, which follows from its spelling (`FileTree.place`), if it leads anywhere. Writing a
file touches this place alone: whatever stood elsewhere stays, directories may be new, and no other file is
(`FileTree.Touches`). So what was written is read again until something is written to the same place, and it
can be written again (`FileTree.Stored`).
-/

namespace SchemaScribe.Files

open SchemaScribe.Document SchemaScribe.Text

theorem Path.follow_append (start parts more : List String) :
    follow start (parts ++ more) = follow (follow start parts) more := by
  induction parts generalizing start with
  | nil => rfl
  | cons part rest ih => exact ih _

/-- Parts that go down only are put behind the place they start from. -/
theorem Path.follow_of_not_mem {parts : List String} (h : ".." ∉ parts) (start : List String) :
    follow start parts = start ++ parts := by
  induction parts generalizing start with
  | nil => exact (List.append_nil start).symm
  | cons part rest ih =>
    obtain ⟨hpart, hrest⟩ := not_or.mp (List.mem_cons.not.mp h)
    rw [follow, if_neg (Ne.symm hpart), ih hrest, List.append_assoc]
    rfl

/-- The parts of a path that are put together with slashes between them. -/
theorem Path.partsOf_eq {parts : List String} (hne : parts ≠ [])
    (h : ∀ part ∈ parts, '/' ∉ part.toList ∧ part ≠ "" ∧ part ≠ ".") :
    Path.partsOf ("/".intercalate parts).toList = parts := by
  have hsplit : ("/".intercalate parts).toList.splitOn '/' = parts.map String.toList := by
    rw [String.toList_intercalate]
    refine List.splitOn_intercalate '/' ?_ (by simpa using hne)
    exact List.forall_mem_map.mpr fun part hpart => (h part hpart).1
  unfold Path.partsOf
  rw [hsplit, List.map_map]
  have hself : parts.map (String.ofList ∘ String.toList) = parts := by
    refine List.map_id'' (fun part => ?_) parts
    exact String.ofList_toList
  rw [hself, List.filter_eq_self]
  intro part hpart
  simpa using (h part hpart).2

/-- **Parts with slashes between them** spell a path from the working directory. -/
theorem Path.ofString_intercalate {parts : List String} (hne : parts ≠ [])
    (h : ∀ part ∈ parts, '/' ∉ part.toList ∧ part ≠ "" ∧ part ≠ ".") :
    Path.ofString ("/".intercalate parts) = ⟨false, parts⟩ := by
  unfold Path.ofString
  rw [Path.partsOf_eq hne h, Path.mk.injEq, decide_eq_false_iff_not]
  refine ⟨?_, rfl⟩
  obtain ⟨first, rest, rfl⟩ := List.exists_cons_of_ne_nil hne
  obtain ⟨hslash, hfilled, _⟩ := h first List.mem_cons_self
  obtain ⟨c, more, hfirst⟩ := List.exists_cons_of_ne_nil (l := first.toList) (by simpa using hfilled)
  have hhead : ("/".intercalate (first :: rest)).toList.head? = some c := by
    cases rest with
    | nil => rw [String.intercalate_singleton, hfirst, List.head?_cons]
    | cons next rest =>
      rw [String.intercalate_cons_cons, String.toList_append, String.toList_append, hfirst]
      rfl
  rw [hhead]
  rintro ⟨⟩
  exact hslash (hfirst ▸ List.mem_cons_self)

/-- Bytes that encode a text are decoded to it. -/
theorem decode_toUTF8 (text : String) : decode text.toUTF8 = .ok text := by
  unfold decode String.fromUTF8?
  rw [String.toUTF8_eq_toByteArray, dif_pos text.isValidUTF8]
  rfl

/-- Bytes that are decoded to a text encode it. -/
theorem decode_eq_ok {bytes : ByteArray} {text : String} (h : decode bytes = .ok text) :
    bytes = text.toUTF8 := by
  unfold decode at h
  split at h
  · next decoded hdecoded =>
    cases h
    unfold String.fromUTF8? at hdecoded
    split at hdecoded
    · cases hdecoded
      rfl
    · cases hdecoded
  · cases h

namespace FileTree

variable {t t' : FileTree} {p q : Path}

/-! ## Places -/

/-- The place that a path leads to, if it leads anywhere. -/
def place (t : FileTree) (p : Path) : List String := Path.follow (t.start p) p.parts

theorem place_of_absolute (h : p.absolute = true) (t : FileTree) :
    t.place p = Path.follow [] p.parts := by
  unfold place start
  rw [if_pos h]

theorem walk_eq_ok {place place' parts : List String} (h : t.walk place parts = .ok place') :
    place' = Path.follow place parts := by
  induction parts generalizing place with
  | nil =>
    cases h
    rfl
  | cons part rest ih =>
    rw [walk] at h
    rw [Path.follow]
    split at h
    · next hup =>
      rw [if_pos hup]
      exact ih h
    · next hdown =>
      rw [if_neg hdown]
      split at h
      · cases h
      · split at h
        · exact ih h
        · cases h
        · cases h

theorem locate_eq_ok {at' : List String} (h : t.locate p = .ok at') : at' = t.place p := by
  unfold locate at h
  split at h
  · cases h
  · split at h
    · cases h
    · split at h
      · next hlast =>
        cases h
        unfold place
        rw [List.getLast?_eq_none_iff.mp hlast]
        rfl
      · next last hlast =>
        obtain ⟨parts, hparts⟩ := List.getLast?_eq_some_iff.mp hlast
        obtain ⟨above, habove, hrun⟩ := bind_eq_ok.mp h
        rw [hparts, List.dropLast_concat] at habove
        unfold place
        rw [hparts, Path.follow_append, ← walk_eq_ok habove, Path.follow, Path.follow]
        split at hrun
        · next hup =>
          cases hrun
          rw [if_pos hup]
        · next hdown =>
          rw [if_neg hdown]
          split at hrun
          · cases hrun
          · cases hrun
            rfl

theorem read_eq_ok {bytes : ByteArray} : t.read p = .ok bytes ↔
    t.locate p = .ok (t.place p) ∧ t.entry? (t.place p) = some (.file bytes) := by
  unfold read
  constructor
  · intro h
    split at h
    · cases h
    · next found hlocate =>
      have hfound := locate_eq_ok hlocate
      subst hfound
      split at h
      · next hentry =>
        cases h
        exact ⟨hlocate, hentry⟩
      · cases h
      · cases h
  · rintro ⟨hplace, hentry⟩
    rw [hplace]
    dsimp only
    rw [hentry]

theorem isDirectory_iff : t.isDirectory p = true ↔
    t.locate p = .ok (t.place p) ∧ t.entry? (t.place p) = some .directory := by
  unfold isDirectory at?
  rw [decide_eq_true_iff]
  constructor
  · intro h
    cases hlocate : t.locate p with
    | error _ =>
      rw [hlocate] at h
      cases h
    | ok place =>
      rw [hlocate] at h
      rw [locate_eq_ok hlocate] at h ⊢
      exact ⟨rfl, h⟩
  · rintro ⟨hplace, hentry⟩
    rw [hplace]
    exact hentry

/-! ## Ways

The way to a place stays open as long as the directories on it stay. -/

theorem start_of_home (hhome : t'.home = t.home) (p : Path) : t'.start p = t.start p := by
  unfold start
  rw [hhome]

theorem place_of_home (hhome : t'.home = t.home) (p : Path) : t'.place p = t.place p := by
  unfold place
  rw [start_of_home hhome]

section

variable (hhome : t'.home = t.home)
  (hkept : ∀ q, t.entry? q = some .directory → t'.entry? q = some .directory)

include hkept

theorem walk_of_directories {place place' parts : List String} (hwalk : t.walk place parts = .ok place') :
    t'.walk place parts = .ok place' := by
  induction parts generalizing place with
  | nil => exact hwalk
  | cons part rest ih =>
    rw [walk] at hwalk ⊢
    split at hwalk
    · next hup =>
      rw [if_pos hup]
      exact ih hwalk
    · next hdown =>
      rw [if_neg hdown]
      split at hwalk
      · cases hwalk
      · next hshort =>
        rw [if_neg hshort]
        split at hwalk
        · next hentry =>
          rw [hkept _ hentry]
          exact ih hwalk
        · cases hwalk
        · cases hwalk

include hhome

theorem locate_of_directories {q : List String} (hlocate : t.locate p = .ok q) : t'.locate p = .ok q := by
  unfold locate at hlocate ⊢
  split at hlocate
  · cases hlocate
  · next hnull =>
    rw [if_neg hnull]
    split at hlocate
    · cases hlocate
    · next hlong =>
      rw [if_neg hlong]
      split at hlocate
      · rw [start_of_home hhome]
        exact hlocate
      · obtain ⟨above, habove, hrun⟩ := bind_eq_ok.mp hlocate
        rw [start_of_home hhome, walk_of_directories hkept habove]
        exact hrun

theorem isDirectory_of_directories (hp : t.isDirectory p = true) : t'.isDirectory p = true := by
  obtain ⟨hlocate, hentry⟩ := isDirectory_iff.mp hp
  refine isDirectory_iff.mpr ⟨?_, ?_⟩
  · rw [place_of_home hhome]
    exact locate_of_directories hhome hkept hlocate
  · rw [place_of_home hhome]
    exact hkept _ hentry

end

/-! ## Entries -/

theorem entry?_nil (t : FileTree) : t.entry? [] = some .directory := rfl

theorem entry?_put_self {at' : List String} (h : at' ≠ []) (t : FileTree) (e : Entry) :
    entry? (t.put at' e) at' = some e := by
  unfold entry? put
  rw [if_neg (by simpa using h), entryAt?_setEntry_self]

theorem entry?_put_of_ne {at' at'' : List String} (h : at'' ≠ at') (t : FileTree) (e : Entry) :
    entry? (t.put at' e) at'' = t.entry? at'' := by
  unfold entry? put
  split
  · rfl
  · rw [entryAt?_setEntry_of_ne h]

/-- **A tree changed at one place**: elsewhere everything stays as it was, but for new directories. -/
structure Touches (t t' : FileTree) (at' : List String) : Prop where
  home : t'.home = t.home
  kept : ∀ q e, t.entry? q = some e → q ≠ at' ∨ e = .directory → t'.entry? q = some e
  files : ∀ q bytes, t'.entry? q = some (.file bytes) → q = at' ∨ t.entry? q = some (.file bytes)

namespace Touches

variable {at' : List String}

theorem refl (t : FileTree) (at' : List String) : Touches t t at' where
  home := rfl
  kept := fun _ _ h _ => h
  files := fun _ _ h => .inr h

theorem trans {t'' : FileTree} (h : Touches t t' at') (h' : Touches t' t'' at') :
    Touches t t'' at' where
  home := h'.home.trans h.home
  kept := fun q e hentry hq => h'.kept q e (h.kept q e hentry hq) hq
  files := by
    intro q bytes hentry
    rcases h'.files q bytes hentry with hq | hentry
    · exact .inl hq
    · exact h.files q bytes hentry

/-- Making a directory where nothing was touches no place in particular. -/
theorem put_directory {q : List String} (h : t.entry? q = none) (at' : List String) :
    Touches t (t.put q .directory) at' where
  home := rfl
  kept := by
    intro q' e hentry _
    have hne : q' ≠ q := by
      rintro rfl
      rw [h] at hentry
      cases hentry
    rw [entry?_put_of_ne hne, hentry]
  files := by
    intro q' bytes hentry
    by_cases hq : q' = q
    · subst hq
      by_cases hnil : q' = []
      · rw [hnil, entry?_nil] at hentry
        cases hentry
      · rw [entry?_put_self hnil] at hentry
        cases hentry
    · rw [entry?_put_of_ne hq] at hentry
      exact .inr hentry

theorem put_file (h : t.entry? at' ≠ some .directory) (bytes : ByteArray) :
    Touches t (t.put at' (.file bytes)) at' where
  home := rfl
  kept := by
    intro q e hentry hq
    have hne : q ≠ at' := by
      rcases hq with hne | rfl
      · exact hne
      · rintro rfl
        exact h hentry
    rw [entry?_put_of_ne hne, hentry]
  files := by
    intro q bytes' hentry
    by_cases hq : q = at'
    · exact .inl hq
    · rw [entry?_put_of_ne hq] at hentry
      exact .inr hentry

variable (h : Touches t t' at')

include h

theorem place (p : Path) : t'.place p = t.place p := place_of_home h.home p

theorem directories (q : List String) (hq : t.entry? q = some .directory) : t'.entry? q = some .directory :=
  h.kept q _ hq (.inr rfl)

theorem locate {q : List String} (hlocate : t.locate p = .ok q) : t'.locate p = .ok q :=
  locate_of_directories h.home h.directories hlocate

theorem isDirectory (hp : t.isDirectory p = true) : t'.isDirectory p = true :=
  isDirectory_of_directories h.home h.directories hp

/-- What is read from another place is read as before. -/
theorem read {bytes : ByteArray} (hp : t.place p ≠ at') (hread : t.read p = .ok bytes) :
    t'.read p = .ok bytes := by
  obtain ⟨hlocate, hentry⟩ := read_eq_ok.mp hread
  refine read_eq_ok.mpr ⟨?_, ?_⟩
  · rw [h.place]
    exact h.locate hlocate
  · rw [h.place]
    exact h.kept _ _ hentry (.inl hp)

end Touches

/-! ## Writing -/

theorem makeDirectory_eq_ok (h : t.makeDirectory p = .ok t') :
    (∀ at', Touches t t' at') ∧ t'.isDirectory p = true := by
  unfold makeDirectory at h
  split at h
  · cases h
  · next found hlocate =>
    have hfound := locate_eq_ok hlocate
    subst hfound
    split at h
    · cases h
    · next hnone =>
      cases h
      have hfree : t.entry? (t.place p) = none := by simpa using hnone
      have htouches := Touches.put_directory hfree
      refine ⟨htouches, isDirectory_iff.mpr ⟨?_, ?_⟩⟩
      · rw [(htouches []).place]
        exact (htouches []).locate hlocate
      · rw [(htouches []).place]
        refine entry?_put_self ?_ t .directory
        intro hnil
        rw [hnil, entry?_nil] at hfree
        cases hfree

theorem acceptDirectory_spec (t : FileTree) (p : Path) :
    (∀ at', Touches t (t.acceptDirectory p).1 at') ∧
      ((t.acceptDirectory p).2 = .ok () → (t.acceptDirectory p).1.isDirectory p = true) := by
  unfold acceptDirectory
  split
  · next made hmade =>
    obtain ⟨htouches, hdirectory⟩ := makeDirectory_eq_ok hmade
    exact ⟨htouches, fun _ => hdirectory⟩
  · refine ⟨Touches.refl t, fun hok => ?_⟩
    dsimp only at hok
    split at hok
    · next hdirectory => exact hdirectory
    · cases hok

theorem ensureParts_spec (t : FileTree) (absolute : Bool) (parts : List String) :
    (∀ at', Touches t (t.ensureParts absolute parts).1 at') ∧
      ((t.ensureParts absolute parts).2 = .ok () →
        (t.ensureParts absolute parts).1.isDirectory ⟨absolute, parts.reverse⟩ = true) := by
  induction parts with
  | nil => exact t.acceptDirectory_spec ⟨absolute, []⟩
  | cons last above ih =>
    unfold ensureParts
    dsimp only
    split
    · next made hmade =>
      obtain ⟨htouches, hdirectory⟩ := makeDirectory_eq_ok hmade
      exact ⟨htouches, fun _ => hdirectory⟩
    · next fault _ =>
      split
      · obtain ⟨habove, _⟩ := ih
        split
        · next made hmade =>
          rw [hmade] at habove
          obtain ⟨htouches, hdirectory⟩ := made.acceptDirectory_spec ⟨absolute, (last :: above).reverse⟩
          exact ⟨fun at' => (habove at').trans (htouches at'), hdirectory⟩
        · next failed hfailed =>
          refine ⟨habove, fun hok => ?_⟩
          exact (hfailed _ (Prod.ext rfl hok)).elim
      · refine ⟨Touches.refl t, fun hok => ?_⟩
        dsimp only at hok
        split at hok
        · next hdirectory => exact hdirectory
        · cases hok

/-- Making directories touches no file, and a success leaves the directory there. -/
theorem ensureDirectory_spec (t : FileTree) (p : Path) :
    (∀ at', Touches t (t.ensureDirectory p).1 at') ∧
      ((t.ensureDirectory p).2 = .ok () → (t.ensureDirectory p).1.isDirectory p = true) := by
  have hspec := t.ensureParts_spec p.absolute p.parts.reverse
  rw [List.reverse_reverse] at hspec
  exact hspec

/-- What is there already will do. -/
theorem ensureDirectory_of_isDirectory (h : t.isDirectory p = true) :
    t.ensureDirectory p = (t, .ok ()) := by
  have hmake : t.makeDirectory p = .error ⟨.exists, p, .path⟩ := by
    obtain ⟨hlocate, hentry⟩ := isDirectory_iff.mp h
    unfold makeDirectory
    rw [hlocate]
    dsimp only
    rw [hentry]
    rfl
  have hparts : ∀ parts : List String, parts.reverse = p.parts →
      t.ensureParts p.absolute parts = (t, .ok ()) := by
    intro parts hp
    cases parts with
    | nil =>
      have hroot : (⟨p.absolute, []⟩ : Path) = p := by rw [← List.reverse_nil, hp]
      unfold ensureParts acceptDirectory
      rw [hroot, hmake, h]
      rfl
    | cons last above =>
      have hpath : (⟨p.absolute, (last :: above).reverse⟩ : Path) = p := by rw [hp]
      unfold ensureParts
      dsimp only
      rw [hpath, hmake, h]
      rfl
  exact hparts p.parts.reverse (List.reverse_reverse p.parts)

/-- **A file that was written**: it is read, the directory above it is there, and its name leaves room for a
temporary one. -/
structure Stored (t : FileTree) (p : Path) (bytes : ByteArray) : Prop where
  read : t.read p = .ok bytes
  parent : t.isDirectory p.parent = true
  room : ¬ isCramped p = true
  named : ¬ (p.parts.isEmpty || p.name = "..") = true

theorem replace_eq_ok {bytes : ByteArray} (h : t.replace p bytes = .ok t')
    (hp : t.isDirectory p.parent = true) :
    Touches t t' (t.place p) ∧ Stored t' p bytes := by
  unfold replace at h
  split at h
  · cases h
  · next hroom =>
    split at h
    · cases h
    · next hnamed =>
      split at h
      · cases h
      · next found hlocate =>
        have hfound := locate_eq_ok hlocate
        subst hfound
        split at h
        · cases h
        · next hentry =>
          cases h
          have htouches := Touches.put_file hentry bytes
          have hne : t.place p ≠ [] := fun hnil => hentry (by rw [hnil, entry?_nil])
          refine ⟨htouches, read_eq_ok.mpr ⟨?_, ?_⟩, htouches.isDirectory hp, hroom, hnamed⟩
          · rw [htouches.place]
            exact htouches.locate hlocate
          · rw [htouches.place, entry?_put_self hne]

/-- A text without stand-ins is written as its bytes. -/
theorem writeText_nil (t : FileTree) (p : Path) (text : String) : t.writeText p text = t.write p text.toUTF8 := by
  unfold writeText
  rw [StandIns.encode_nil]

/-- **Writing a file touches its place alone**, be it that the writing fails. What was written is stored. The
tree and the path are arbitrary here; when writing comes to its end is told by `write_open`. -/
theorem write_spec (t : FileTree) (p : Path) (bytes : ByteArray) :
    Touches t (t.write p bytes).1 (t.place p) ∧
      ((t.write p bytes).2 = .ok () → Stored (t.write p bytes).1 p bytes) := by
  obtain ⟨hmade, hdirectory⟩ := t.ensureDirectory_spec p.parent
  unfold write
  split
  · next made hensure =>
    rw [hensure] at hmade hdirectory
    split
    · next written hreplace =>
      obtain ⟨htouches, hstored⟩ := replace_eq_ok hreplace (hdirectory rfl)
      rw [(hmade []).place] at htouches
      exact ⟨(hmade _).trans htouches, fun _ => hstored⟩
    · refine ⟨hmade _, fun hok => ?_⟩
      cases hok
  · next failed hfailed =>
    refine ⟨hmade _, fun hok => ?_⟩
    exact (hfailed _ (Prod.ext rfl hok)).elim

/-- A stored file can be written again. -/
theorem Stored.write {bytes : ByteArray} (h : Stored t p bytes) (bytes' : ByteArray) :
    (t.write p bytes').2 = .ok () := by
  obtain ⟨hlocate, hentry⟩ := read_eq_ok.mp h.read
  unfold FileTree.write replace
  rw [ensureDirectory_of_isDirectory h.parent]
  dsimp only
  rw [if_neg h.room, if_neg h.named, hlocate]
  dsimp only
  rw [hentry]

theorem Stored.touches {bytes : ByteArray} (h : Stored t p bytes) {at' : List String}
    (htouches : Touches t t' at') (hp : t.place p ≠ at') : Stored t' p bytes where
  read := htouches.read hp h.read
  parent := htouches.isDirectory h.parent
  room := h.room
  named := h.named

/-- **Nothing is below a path.** The path itself may be a directory. -/
def Vacant (t : FileTree) (p : Path) : Prop :=
  ∀ entry ∈ t.entries, t.place p <+: entry.1 → entry.1 = t.place p

instance (t : FileTree) (p : Path) : Decidable (t.Vacant p) :=
  inferInstanceAs (Decidable (∀ entry ∈ t.entries, t.place p <+: entry.1 → entry.1 = t.place p))

theorem Vacant.entry?_ne (h : t.Vacant p) {parts : List String} (hparts : parts ≠ []) (bytes : ByteArray) :
    t.entry? (t.place p ++ parts) ≠ some (.file bytes) := by
  intro hentry
  unfold entry? entryAt? at hentry
  split at hentry
  · cases hentry
  · obtain ⟨entry, hfound, _⟩ := Option.map_eq_some_iff.mp hentry
    have hplace : entry.1 = t.place p ++ parts := by simpa using List.find?_some hfound
    have hsame := h entry (List.mem_of_find?_eq_some hfound) (hplace ▸ List.prefix_append _ _)
    rw [hplace] at hsame
    exact hparts (List.append_right_eq_self.mp hsame)

/-! ## Texts -/

/-- A text as it is read, with every line end as a line feed. -/
def asRead (text : String) : String := .ofList (unifyNewlines text.toList)

theorem toList_asRead (text : String) : (asRead text).toList = unifyNewlines text.toList := String.toList_ofList

theorem textOf_toUTF8 (text : String) : textOf text.toUTF8 = .ok (asRead text) := by
  unfold textOf
  rw [decode_toUTF8]
  rfl

theorem return_notMem_asRead (text : String) : '\r' ∉ (asRead text).toList := by
  rw [toList_asRead]
  exact not_mem_unifyNewlines text.toList

theorem asRead_of_not_mem {text : String} (h : '\r' ∉ text.toList) : asRead text = text := by
  unfold asRead
  rw [unifyNewlines_of_not_mem h, String.ofList_toList]

theorem asRead_eq_self_iff {text : String} : asRead text = text ↔ '\r' ∉ text.toList :=
  ⟨fun h => h ▸ return_notMem_asRead text, asRead_of_not_mem⟩

/-- **What is read of a path**: nothing where no file can be read, and otherwise the text that its bytes encode,
with every line ending as a line feed. So a text that comes from reading has no carriage returns, and more than
one content may be read as one text. -/
theorem readText?_eq_ok {existing : Option String} (h : t.readText? p = .ok existing) :
    existing = none ∧ (∀ bytes, t.read p ≠ .ok bytes) ∨
      ∃ text : String, t.read p = .ok text.toUTF8 ∧ existing = some (asRead text) := by
  unfold readText? at h
  split at h
  · next fault hread =>
    split at h
    · cases h
      exact .inl ⟨rfl, fun bytes hbytes => nomatch hread.symm.trans hbytes⟩
    · cases h
  · next bytes hread =>
    right
    unfold textOf at h
    cases hdecode : decode bytes with
    | error _ =>
      rw [hdecode] at h
      cases h
    | ok text =>
      rw [hdecode] at h
      cases h
      exact ⟨text, hread.trans (congrArg Except.ok (decode_eq_ok hdecode)), rfl⟩

theorem readText?_eq_some {text : String} (h : t.readText? p = .ok (some text)) :
    ∃ bytes, t.read p = .ok bytes ∧ textOf bytes = .ok text := by
  rcases readText?_eq_ok h with ⟨hnone, _⟩ | ⟨stored, hread, hstored⟩
  · cases hnone
  · cases hstored
    exact ⟨stored.toUTF8, hread, textOf_toUTF8 stored⟩

/-- What is read has no carriage returns. -/
theorem return_notMem_of_readText? {text : String} (h : t.readText? p = .ok (some text)) :
    '\r' ∉ text.toList := by
  rcases readText?_eq_ok h with ⟨hnone, _⟩ | ⟨stored, _, hstored⟩
  · cases hnone
  · cases hstored
    exact return_notMem_asRead stored

/-- What is read from another place is read as before. -/
theorem Touches.readText? {at' : List String} (h : Touches t t' at') (hp : t.place p ≠ at') {text : String}
    (hread : t.readText? p = .ok (some text)) : t'.readText? p = .ok (some text) := by
  obtain ⟨bytes, hbytes, htext⟩ := readText?_eq_some hread
  unfold FileTree.readText?
  rw [h.read hp hbytes]
  dsimp only
  rw [htext]
  rfl

theorem Stored.readText? {text : String} (h : Stored t p text.toUTF8) :
    t.readText? p = .ok (some (asRead text)) := by
  unfold FileTree.readText?
  rw [h.read]
  dsimp only
  rw [textOf_toUTF8]
  rfl

theorem Stored.readText {text : String} (h : Stored t p text.toUTF8) : t.readText p = .ok (asRead text) := by
  unfold FileTree.readText
  rw [h.read]
  dsimp only
  rw [textOf_toUTF8]
  rfl

/-! ## Errors of the system -/

/-- **A failure that is an error of the system**, if the outcome is one. -/
def Sound {α : Type} (x : Except FileFault α) : Prop := ∀ fault, x = .error fault → fault.cause.isSystem = true

theorem sound_ok {α : Type} (a : α) : Sound (.ok a) := by
  intro fault h
  cases h

theorem sound_error {α : Type} {fault : FileFault} (h : fault.cause.isSystem = true) :
    Sound (.error fault : Except FileFault α) := by
  intro _ heq
  cases heq
  exact h

theorem hasNull_of_subset {p q : Path} (h : q.parts ⊆ p.parts) (hp : p.hasNull = false) :
    q.hasNull = false := by
  unfold Path.hasNull at hp ⊢
  rw [List.any_eq_false] at hp ⊢
  exact fun part hpart => hp part (h hpart)

theorem walk_isSystem {place parts : List String} {cause : Cause} (h : t.walk place parts = .error cause) :
    cause.isSystem = true := by
  induction parts generalizing place with
  | nil => cases h
  | cons part rest ih =>
    rw [walk] at h
    split at h
    · exact ih h
    · split at h
      · cases h
        exact rfl
      · split at h
        · exact ih h
        all_goals
          cases h
          exact rfl

theorem locate_isSystem (hp : p.hasNull = false) {cause : Cause} (h : t.locate p = .error cause) :
    cause.isSystem = true := by
  unfold locate at h
  rw [if_neg (by rw [hp]; exact Bool.false_ne_true)] at h
  split at h
  · cases h
    exact rfl
  · split at h
    · cases h
    · rcases bind_eq_error.mp h with habove | ⟨above, _, hrun⟩
      · exact walk_isSystem habove
      · split at hrun
        · cases hrun
        · split at hrun
          · cases hrun
            exact rfl
          · cases hrun

section

variable (hp : p.hasNull = false)

include hp

theorem read_sound : Sound (t.read p) := by
  unfold read
  split
  · next hlocate => exact sound_error (locate_isSystem hp hlocate)
  · split
    · exact sound_ok _
    all_goals exact sound_error rfl

theorem makeDirectory_sound : Sound (t.makeDirectory p) := by
  unfold makeDirectory
  split
  · next hlocate => exact sound_error (locate_isSystem hp hlocate)
  · split
    · exact sound_error rfl
    · exact sound_ok _

theorem acceptDirectory_sound : Sound (t.acceptDirectory p).2 := by
  have hmake := makeDirectory_sound (t := t) hp
  unfold acceptDirectory
  split
  · exact sound_ok _
  · next fault hfault =>
    dsimp only
    split
    · exact sound_ok _
    · exact sound_error (hmake fault hfault)

theorem replace_sound (bytes : ByteArray) : Sound (t.replace p bytes) := by
  unfold replace
  split
  · exact sound_error rfl
  · split
    · exact sound_error rfl
    · split
      · next hlocate => exact sound_error (locate_isSystem hp hlocate)
      · split
        · exact sound_error rfl
        · exact sound_ok _

end

theorem ensureParts_sound (absolute : Bool) {parts : List String}
    (h : (⟨absolute, parts⟩ : Path).hasNull = false) : Sound (t.ensureParts absolute parts).2 := by
  induction parts with
  | nil => exact acceptDirectory_sound h
  | cons last above ih =>
    have hp : (⟨absolute, (last :: above).reverse⟩ : Path).hasNull = false :=
      hasNull_of_subset (List.reverse_subset.mpr (List.Subset.refl _)) h
    have habove := ih (hasNull_of_subset (List.subset_cons_self last above) h)
    have hmake := makeDirectory_sound (t := t) hp
    unfold ensureParts
    dsimp only
    split
    · exact sound_ok _
    · next fault hfault =>
      split
      · split
        · exact acceptDirectory_sound hp
        · exact habove
      · dsimp only
        split
        · exact sound_ok _
        · exact sound_error (hmake fault hfault)

/-- **Writing to a path without null characters** fails by errors of the system only. -/
theorem write_sound (hp : p.hasNull = false) (bytes : ByteArray) : Sound (t.write p bytes).2 := by
  have hparent : (⟨p.parent.absolute, p.parent.parts.reverse⟩ : Path).hasNull = false :=
    hasNull_of_subset
      (List.reverse_subset.mpr (List.dropLast_subset p.parts)) hp
  have hensure : Sound (t.ensureDirectory p.parent).2 := ensureParts_sound p.parent.absolute hparent
  unfold write
  split
  · next made _ =>
    have hreplace := replace_sound (t := made) hp bytes
    split
    · exact sound_ok _
    · next fault hfault => exact sound_error (hreplace fault hfault)
  · exact hensure

theorem readText?_sound (hp : p.hasNull = false) {fault : FileFault}
    (h : t.readText? p = .error (.file fault)) : fault.cause.isSystem = true := by
  have hread := read_sound (t := t) hp
  unfold readText? at h
  split at h
  · next hsource =>
    split at h
    · cases h
    · cases h
      exact hread _ hsource
  · next bytes _ =>
    -- bytes that are no text are another kind of fault
    cases htext : textOf bytes with
    | error _ =>
      rw [htext] at h
      cases h
    | ok _ =>
      rw [htext] at h
      cases h

/-- A path with a null character cannot be read. -/
theorem read_of_hasNull (hp : p.hasNull = true) : t.read p = .error ⟨.nullCharacter, p, .path⟩ := by
  unfold read locate
  rw [if_pos hp]

end FileTree

end SchemaScribe.Files
