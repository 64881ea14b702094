import Mathlib.Data.List.Nodup
import SchemaScribe.Catalog.Basic

/-!
# Entries with distinct keys

Where no two entries of a list have the same key, a key finds its entry whichever way one looks: filtering
finds it alone, and the first entry found is the last one too. Lists get distinct entries by taking one
more that is new, or by dropping repetitions. Setting the entry of one key leaves those of others alone.
-/

namespace SchemaScribe

open SchemaScribe.Catalog SchemaScribe.Document

variable {α : Type u} {κ : Type v}

/-! ## Distinct entries -/

theorem nodup_snoc {entries : List α} {entry : α} (h : entries.Nodup) (hn : entry ∉ entries) :
    (entries ++ [entry]).Nodup :=
  List.nodup_append.mpr ⟨h, List.nodup_singleton entry, fun _ hx _ hy hxy =>
    hn (List.mem_singleton.mp hy ▸ hxy ▸ hx)⟩

theorem nodup_eraseDups [DecidableEq α] : ∀ entries : List α, entries.eraseDups.Nodup
  | [] => by
    rw [List.eraseDups_nil]
    exact .nil
  | entry :: rest => by
    rw [List.eraseDups_cons]
    refine List.nodup_cons.mpr ⟨fun h => ?_, nodup_eraseDups _⟩
    have hself := (List.mem_filter.mp (List.mem_eraseDups.mp h)).2
    rw [beq_self_eq_true] at hself
    cases hself
termination_by entries => entries.length
decreasing_by exact Nat.lt_succ_of_le (List.length_filter_le _ rest)

/-- Entries have distinct values of one function if those with equal values agree in another, of which they
have distinct values. -/
theorem nodup_map_of_nodup_map {β : Type w} {f : α → κ} {g : α → β} {entries : List α}
    (hg : (entries.map g).Nodup) (h : ∀ x ∈ entries, ∀ y ∈ entries, f x = f y → g x = g y) :
    (entries.map f).Nodup := by
  refine List.pairwise_map.mpr ((List.pairwise_map.mp hg).imp_of_mem ?_)
  exact fun hx hy hne heq => hne (h _ hx _ hy heq)

/-! ## Looking up a key -/

variable [DecidableEq κ]

/-- A key that occurs once selects its entry alone. -/
theorem filter_key_eq_singleton {f : α → κ} {a : α} :
    ∀ {entries : List α}, (entries.map f).Nodup → a ∈ entries →
      entries.filter (fun x => f x = f a) = [a]
  | [], _, h => absurd h List.not_mem_nil
  | x :: rest, hn, h => by
    obtain ⟨hx, hrest⟩ := List.nodup_cons.mp hn
    rcases List.mem_cons.mp h with rfl | h
    · have hnone : rest.filter (fun x => f x = f a) = [] :=
        List.filter_eq_nil_iff.mpr fun y hy hya =>
          hx (List.mem_map.mpr ⟨y, hy, of_decide_eq_true hya⟩)
      rw [List.filter_cons_of_pos (by simp only [decide_true]), hnone]
    · have hne : f x ≠ f a := fun hxa => hx (List.mem_map.mpr ⟨a, h, hxa.symm⟩)
      rw [List.filter_cons_of_neg (by simpa only [decide_eq_true_eq] using hne)]
      exact filter_key_eq_singleton hrest h

theorem find?_key_eq_some {f : α → κ} {a : α} {entries : List α} (hn : (entries.map f).Nodup)
    (h : a ∈ entries) : entries.find? (fun x => f x = f a) = some a := by
  rw [← List.head?_filter, filter_key_eq_singleton hn h]
  rfl

theorem findLast?_key_eq_some {f : α → κ} {a : α} {entries : List α} (hn : (entries.map f).Nodup)
    (h : a ∈ entries) : findLast? (fun x => f x = f a) entries = some a := by
  refine find?_key_eq_some ?_ (List.mem_reverse.mpr h)
  rw [List.map_reverse]
  exact List.nodup_reverse.mpr hn

theorem entryAt?_of_mem {key : κ} {value : α} {entries : List (κ × α)}
    (hn : (entries.map (·.1)).Nodup) (h : (key, value) ∈ entries) :
    entryAt? key entries = some value := by
  unfold entryAt?
  rw [find?_key_eq_some (f := Prod.fst) hn h]
  rfl

/-! ## Grouping by a key -/

/-- Items can be grouped by a key if every item has one of the keys, and no key is used twice. -/
theorem flatMap_filter_perm {f : α → κ} {keys : List κ}
    (hkeys : keys.Nodup) {items : List α} (h : ∀ x ∈ items, f x ∈ keys) :
    (keys.flatMap fun key => items.filter fun x => f x = key).Perm items := by
  induction keys generalizing items with
  | nil =>
    rw [List.eq_nil_iff_forall_not_mem.mpr fun x hx => List.not_mem_nil (h x hx)]
    rfl
  | cons key rest ih =>
    obtain ⟨hkey, hrest⟩ := List.nodup_cons.mp hkeys
    have hothers : (rest.flatMap fun k => items.filter fun x => f x = k) =
        rest.flatMap fun k => (items.filter fun x => !decide (f x = key)).filter fun x => f x = k := by
      refine List.flatMap_congr fun k hk => ?_
      rw [List.filter_filter]
      refine List.filter_congr fun x _ => ?_
      have hne : k ≠ key := ne_of_mem_of_not_mem hk hkey
      by_cases hx : f x = k
      · simp [hx, hne]
      · simp [hx]
    rw [List.flatMap_cons, hothers]
    refine ((ih hrest fun x hx => ?_).append_left _).trans ?_
    · obtain ⟨hx, hne⟩ := List.mem_filter.mp hx
      exact (List.mem_cons.mp (h x hx)).resolve_left (by simpa using hne)
    · exact List.filter_append_perm _ items

/-! ## Setting an entry -/

theorem entryAt?_setEntry_self (key : κ) (value : α) (entries : List (κ × α)) :
    entryAt? key (setEntry key value entries) = some value := by
  induction entries with
  | nil => simp [setEntry, entryAt?]
  | cons entry rest ih =>
    rw [setEntry]
    split
    · next h => simp [entryAt?, h]
    · next h =>
      unfold entryAt? at ih ⊢
      rw [List.find?_cons_of_neg (by simpa using h), ih]

theorem entryAt?_setEntry_of_ne {key key' : κ} (h : key' ≠ key) (value : α)
    (entries : List (κ × α)) :
    entryAt? key' (setEntry key value entries) = entryAt? key' entries := by
  have hne : key ≠ key' := h.symm
  induction entries with
  | nil => simp [setEntry, entryAt?, hne]
  | cons entry rest ih =>
    rw [setEntry]
    split
    · next hkey => simp [entryAt?, hkey, hne]
    · unfold entryAt? at ih ⊢
      by_cases hentry : entry.1 = key'
      · simp [hentry]
      · rw [List.find?_cons_of_neg (by simpa using hentry),
          List.find?_cons_of_neg (by simpa using hentry), ih]

theorem mem_setEntry {key : κ} {value : α} {entries : List (κ × α)} {entry : κ × α}
    (h : entry ∈ setEntry key value entries) : entry = (key, value) ∨ entry ∈ entries := by
  induction entries with
  | nil => exact .inl (List.mem_singleton.mp h)
  | cons first rest ih =>
    rw [setEntry] at h
    split at h
    · next hkey =>
      rcases List.mem_cons.mp h with hnew | hrest
      · exact .inl (hkey ▸ hnew)
      · exact .inr (List.mem_cons_of_mem first hrest)
    · rcases List.mem_cons.mp h with rfl | hrest
      · exact .inr List.mem_cons_self
      · exact (ih hrest).imp_right (List.mem_cons_of_mem first)

/-- A new key is set behind the others. -/
theorem setEntry_eq_append {key : κ} (value : α) {entries : List (κ × α)}
    (h : key ∉ entries.map (·.1)) : setEntry key value entries = entries ++ [(key, value)] := by
  induction entries with
  | nil => rfl
  | cons entry rest ih =>
    rw [List.map_cons, List.mem_cons, not_or] at h
    obtain ⟨hentry, hrest⟩ := h
    rw [setEntry, if_neg (Ne.symm hentry), ih hrest, List.cons_append]

/-- Entries with distinct keys are kept as they are. -/
theorem distinctEntries_of_nodup {entries : List (κ × α)} (h : (entries.map (·.1)).Nodup) :
    distinctEntries entries = entries := by
  have hrun : ∀ {front : List (κ × α)}, ((front ++ entries).map (·.1)).Nodup →
      entries.foldl (fun found (key, value) => setEntry key value found) front = front ++ entries := by
    clear h
    induction entries with
    | nil => exact fun {front} _ => (List.append_nil front).symm
    | cons entry rest ih =>
      intro front hnodup
      have hnew : entry.1 ∉ front.map (·.1) := by
        rw [List.map_append, List.map_cons] at hnodup
        exact fun hmem => (List.nodup_append.mp hnodup).2.2 _ hmem _ List.mem_cons_self rfl
      have hset : setEntry entry.1 entry.2 front = front ++ [entry] := setEntry_eq_append entry.2 hnew
      rw [List.append_cons] at hnodup ⊢
      rw [List.foldl_cons, ← ih hnodup, ← hset]
  exact hrun h

end SchemaScribe
