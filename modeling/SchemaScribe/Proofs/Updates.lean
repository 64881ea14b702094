import Mathlib.Data.List.Induction
import SchemaScribe.Proofs.Keys

/-!
# Entries set in turn

Entries are set in turn over others whose keys are distinct (`setEntries`). What comes of it is known from its
keys, each once and in the order in which they come first (`keys_setEntries`), and from the value of each: that
of the last entry set for it, or the one it had (`entryAt?_setEntries`). Nothing else tells two such lists apart
(`eq_of_entryAt?`), so it makes no difference whether the entries are made distinct first.
-/

namespace SchemaScribe

open SchemaScribe.Catalog SchemaScribe.Document

variable {α : Type u} {κ : Type v} [DecidableEq κ]


/-- Entries are set in turn over others. -/
def setEntries (base updates : List (κ × α)) : List (κ × α) :=
  updates.foldl (fun found (key, value) => setEntry key value found) base

theorem setEntries_concat (base updates : List (κ × α)) (entry : κ × α) :
    setEntries base (updates ++ [entry]) = setEntry entry.1 entry.2 (setEntries base updates) :=
  List.foldl_append

theorem keys_setEntry (key : κ) (value : α) (entries : List (κ × α)) :
    (setEntry key value entries).map (·.1) =
      if key ∈ entries.map (·.1) then entries.map (·.1) else entries.map (·.1) ++ [key] := by
  induction entries with
  | nil => rfl
  | cons entry rest ih =>
    rw [setEntry]
    by_cases hentry : entry.1 = key
    · simp [hentry]
    · have hne : key ≠ entry.1 := fun h => hentry h.symm
      rw [if_neg hentry, List.map_cons, ih]
      by_cases hrest : key ∈ rest.map (·.1)
      · rw [if_pos hrest, List.map_cons, if_pos (List.mem_cons_of_mem _ hrest)]
      · rw [if_neg hrest, List.map_cons, if_neg fun h => hrest ((List.mem_cons.mp h).resolve_left hne),
          List.cons_append]

theorem eraseDups_of_nodup {keys : List κ} (h : keys.Nodup) : keys.eraseDups = keys := by
  induction keys with
  | nil => rfl
  | cons key rest ih =>
    obtain ⟨hkey, hrest⟩ := List.nodup_cons.mp h
    have hothers : rest.filter (fun k => !k == key) = rest := by
      refine List.filter_eq_self.mpr fun k hk => ?_
      simpa using ne_of_mem_of_not_mem hk hkey
    rw [List.eraseDups_cons, hothers, ih hrest]

theorem eraseDups_concat (keys : List κ) (key : κ) :
    (keys ++ [key]).eraseDups = if key ∈ keys then keys.eraseDups else keys.eraseDups ++ [key] := by
  rw [List.eraseDups_append]
  split
  · next h => simp [List.removeAll, h]
  · next h => simp [List.removeAll, h, List.eraseDups_cons]

/-- The keys of entries set over others: each once, in the order in which they come first. -/
theorem keys_setEntries {base : List (κ × α)} (h : (base.map (·.1)).Nodup) (updates : List (κ × α)) :
    (setEntries base updates).map (·.1) = (base.map (·.1) ++ updates.map (·.1)).eraseDups := by
  induction updates using List.reverseRecOn with
  | nil =>
    rw [List.map_nil, List.append_nil, eraseDups_of_nodup h]
    rfl
  | append_singleton updates entry ih =>
    rw [setEntries_concat, keys_setEntry, ih, List.map_append, List.map_singleton, ← List.append_assoc,
      eraseDups_concat]
    simp only [List.mem_eraseDups]

/-- The value of a key is that of the last entry set for it, or the one it had. -/
theorem entryAt?_setEntries (key : κ) (base updates : List (κ × α)) :
    entryAt? key (setEntries base updates) =
      ((findLast? (fun entry => entry.1 = key) updates).map (·.2)).or (entryAt? key base) := by
  induction updates using List.reverseRecOn with
  | nil => rfl
  | append_singleton updates entry ih =>
    rw [setEntries_concat]
    unfold findLast?
    rw [List.reverse_append, List.reverse_singleton, List.singleton_append]
    by_cases hentry : entry.1 = key
    · rw [List.find?_cons_of_pos (by simpa using hentry), hentry, entryAt?_setEntry_self]
      rfl
    · rw [List.find?_cons_of_neg (by simpa using hentry), entryAt?_setEntry_of_ne (Ne.symm hentry), ih]
      rfl

/-- Where keys are distinct, the last entry of a key is the only one. -/
theorem entryAt?_eq_findLast? {entries : List (κ × α)} (h : (entries.map (·.1)).Nodup) (key : κ) :
    entryAt? key entries = (findLast? (fun entry => entry.1 = key) entries).map (·.2) := by
  have hset := entryAt?_setEntries key [] entries
  change entryAt? key (distinctEntries entries) = _ at hset
  rw [distinctEntries_of_nodup h] at hset
  rw [hset]
  exact Option.or_none

/-- Entries with distinct keys are told by their keys and the values of these. -/
theorem eq_of_entryAt? {first second : List (κ × α)} (hkeys : first.map (·.1) = second.map (·.1))
    (hn : (first.map (·.1)).Nodup) (h : ∀ key, entryAt? key first = entryAt? key second) : first = second := by
  refine List.ext_getElem? fun i => ?_
  have hkey : (first.map (·.1))[i]? = (second.map (·.1))[i]? := congrArg (·[i]?) hkeys
  rw [List.getElem?_map, List.getElem?_map] at hkey
  cases hfirst : first[i]? with
  | none =>
    rw [hfirst] at hkey
    exact (Option.map_eq_none_iff.mp hkey.symm).symm
  | some entry =>
    rw [hfirst] at hkey
    obtain ⟨entry', hsecond, hsame⟩ := Option.map_eq_some_iff.mp hkey.symm
    have hvalue : entryAt? entry.1 first = some entry.2 :=
      entryAt?_of_mem hn (List.mem_of_getElem? hfirst)
    have hvalue' : entryAt? entry'.1 second = some entry'.2 :=
      entryAt?_of_mem (hkeys ▸ hn) (List.mem_of_getElem? hsecond)
    have hvalues : some entry.2 = some entry'.2 := by
      rw [← hvalue, ← hvalue', h, show entry'.1 = entry.1 from hsame]
    rw [hsecond, Prod.ext hsame.symm (Option.some_inj.mp hvalues)]

theorem eraseDups_append_eraseDups (front back : List κ) :
    (front ++ back.eraseDups).eraseDups = (front ++ back).eraseDups := by
  induction back using List.reverseRecOn with
  | nil => rfl
  | append_singleton back key ih =>
    rw [eraseDups_concat, ← List.append_assoc, eraseDups_concat]
    split
    · next h => rw [ih, if_pos (List.mem_append_right _ h)]
    · next h =>
      rw [← List.append_assoc, eraseDups_concat, ih]
      simp only [List.mem_append, List.mem_eraseDups]

theorem keys_distinctEntries (entries : List (κ × α)) :
    (distinctEntries entries).map (·.1) = (entries.map (·.1)).eraseDups := by
  have hempty : (([] : List (κ × α)).map (·.1)).Nodup := .nil
  exact keys_setEntries hempty entries

theorem distinctEntries_nodup (entries : List (κ × α)) : ((distinctEntries entries).map (·.1)).Nodup := by
  rw [keys_distinctEntries]
  exact nodup_eraseDups _

/-- Making entries distinct first makes no difference to what is set. -/
theorem setEntries_distinctEntries {base : List (κ × α)} (h : (base.map (·.1)).Nodup)
    (updates : List (κ × α)) : setEntries base (distinctEntries updates) = setEntries base updates := by
  refine eq_of_entryAt? ?_ ?_ fun key => ?_
  · rw [keys_setEntries h, keys_setEntries h, keys_distinctEntries, eraseDups_append_eraseDups]
  · rw [keys_setEntries h]
    exact nodup_eraseDups _
  · have hlast := entryAt?_setEntries key [] updates
    change entryAt? key (distinctEntries updates) = _ at hlast
    rw [entryAt?_setEntries, entryAt?_setEntries, ← entryAt?_eq_findLast? (distinctEntries_nodup updates),
      hlast]
    exact congrArg (Option.or · (entryAt? key base)) Option.or_none

/-- What is set for keys outside a class leaves the entries of the class alone. -/
theorem filter_setEntries {p : κ → Bool} {updates : List (κ × α)} (h : ∀ entry ∈ updates, p entry.1 = false)
    (base : List (κ × α)) :
    (setEntries base updates).filter (fun entry => p entry.1) = base.filter fun entry => p entry.1 := by
  have hset : ∀ {key : κ}, p key = false → ∀ (value : α) (entries : List (κ × α)),
      (setEntry key value entries).filter (fun entry => p entry.1) =
        entries.filter fun entry => p entry.1 := by
    intro key hkey value entries
    induction entries with
    | nil => simp [setEntry, hkey]
    | cons entry rest ih =>
      rw [setEntry]
      split
      · next hentry => simp [hentry, hkey]
      · rw [List.filter_cons, List.filter_cons, ih]
  induction updates using List.reverseRecOn with
  | nil => rfl
  | append_singleton updates entry ih =>
    rw [List.forall_mem_append] at h
    rw [setEntries_concat, hset (h.2 entry List.mem_cons_self), ih h.1]

/-- Renaming keys one to one goes with setting entries. -/
theorem map_setEntries {κ' : Type w} [DecidableEq κ'] {β : Type x} {f : κ → κ'} (hf : Function.Injective f)
    (g : α → β) (base updates : List (κ × α)) :
    (setEntries base updates).map (Prod.map f g) =
      setEntries (base.map (Prod.map f g)) (updates.map (Prod.map f g)) := by
  have hset : ∀ (entry : κ × α) (entries : List (κ × α)),
      (setEntry entry.1 entry.2 entries).map (Prod.map f g) =
        setEntry (f entry.1) (g entry.2) (entries.map (Prod.map f g)) := by
    intro entry entries
    induction entries with
    | nil => rfl
    | cons first rest ih =>
      have hcons : ∀ (e : κ × α) (es : List (κ × α)),
          (e :: es).map (Prod.map f g) = (f e.1, g e.2) :: es.map (Prod.map f g) := fun _ _ => rfl
      rw [setEntry, hcons, setEntry]
      by_cases hkey : first.1 = entry.1
      · rw [if_pos hkey, if_pos (congrArg f hkey), hcons]
      · rw [if_neg hkey, if_neg fun h => hkey (hf h), hcons, ih]
  induction updates using List.reverseRecOn with
  | nil => rfl
  | append_singleton updates entry ih =>
    rw [setEntries_concat, hset, ih, List.map_append, List.map_singleton, setEntries_concat]
    rfl

end SchemaScribe
