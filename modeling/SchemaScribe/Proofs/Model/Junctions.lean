import SchemaScribe.Model.Junction
import SchemaScribe.Proofs.Keys

/-!
# Junctions and the tables they refer to

What the test of junctions established of one (`Junction.Tested`): its keys are all the keys of its table,
they refer to tables of the catalog, and no other table refers to it. So a table that a junction refers to
is no junction and becomes an entity, unless the junction refers to itself
(`Junction.mem_entityTables_iff`).
-/

namespace SchemaScribe

open SchemaScribe.Catalog

/-! ## Keys without repetitions -/

/-- A key that is kept is the first of its signature, and its signature was not seen before. -/
theorem mem_go_iff {k : ForeignKey} {keys : List ForeignKey}
    {seen : List (String × List String × String × List String)} :
    k ∈ Table.distinctKeys.go seen keys ↔
      k.signature ∉ seen ∧ keys.find? (fun k' => k'.signature = k.signature) = some k := by
  induction keys generalizing seen with
  | nil => simp [Table.distinctKeys.go]
  | cons first rest ih =>
    unfold Table.distinctKeys.go
    by_cases hsame : first.signature = k.signature
    · rw [List.find?_cons_of_pos (by simpa using hsame), Option.some.injEq]
      split
      · next hseen =>
        rw [List.contains_iff_mem, hsame] at hseen
        simp [ih, hseen]
      · next hseen =>
        rw [List.contains_iff_mem, hsame] at hseen
        simp [ih, hsame, hseen, eq_comm]
    · have hne : k ≠ first := fun heq => hsame (heq ▸ rfl)
      rw [List.find?_cons_of_neg (by simpa using hsame)]
      split
      · exact ih
      · simp [ih, hne, Ne.symm hsame]

/-- Of the keys with one signature the first is kept. -/
theorem mem_distinctKeys_iff {t : Table} {k : ForeignKey} :
    k ∈ t.distinctKeys ↔ t.foreignKeys.find? (fun k' => k'.signature = k.signature) = some k := by
  unfold Table.distinctKeys
  rw [mem_go_iff]
  simp

theorem mem_of_mem_distinctKeys {t : Table} {k : ForeignKey} (h : k ∈ t.distinctKeys) :
    k ∈ t.foreignKeys :=
  List.mem_of_find?_eq_some (mem_distinctKeys_iff.mp h)

theorem nodup_go {keys : List ForeignKey} {seen : List (String × List String × String × List String)} :
    ((Table.distinctKeys.go seen keys).map (·.signature)).Nodup := by
  induction keys generalizing seen with
  | nil => exact .nil
  | cons first rest ih =>
    unfold Table.distinctKeys.go
    split
    · exact ih
    · refine List.nodup_cons.mpr ⟨fun hmem => ?_, ih⟩
      obtain ⟨k, hk, hsignature⟩ := List.mem_map.mp hmem
      exact (mem_go_iff.mp hk).1 (hsignature ▸ List.mem_cons_self)

/-- No two keys that are kept have one signature. -/
theorem distinctKeys_nodup (t : Table) : (t.distinctKeys.map (·.signature)).Nodup := nodup_go

/-! ## Tested junctions -/

/-- What the test of junctions established of one. -/
structure Junction.Tested (s : Snapshot) (j : Junction) : Prop where
  table : j.table ∈ s.tables
  keys : j.table.distinctKeys = [j.first, j.second]
  resolved : ∀ k ∈ [j.first, j.second], isResolved s k = true
  unreferred : isReferred s j.table = false

theorem tested_of_mem {s : Snapshot} {j : Junction} (h : j ∈ junctions s) : j.Tested s := by
  obtain ⟨t, ht, hj⟩ := List.mem_filterMap.mp h
  unfold junction? at hj
  split at hj
  · next first second hkeys =>
    split at hj
    · next htest =>
      cases hj
      simp only [Bool.and_eq_true, Bool.not_eq_true'] at htest
      obtain ⟨⟨⟨_, hfirst⟩, hsecond⟩, hreferred⟩ := htest
      refine ⟨ht, hkeys, fun k hk => ?_, hreferred⟩
      rcases List.mem_cons.mp hk with rfl | hk
      · exact hfirst
      · exact List.mem_singleton.mp hk ▸ hsecond
    · cases hj
  · cases hj

/-- A table that a junction refers to is no junction, unless it is the same. -/
theorem Junction.Tested.target_ne {s : Snapshot} {j : Junction} (h : j.Tested s) {k : ForeignKey}
    (hk : k ∈ [j.first, j.second]) (hne : k.referredTable ≠ j.table.name) :
    ∀ j' ∈ junctions s, j'.table.name ≠ k.referredTable := by
  intro j' hj' heq
  have hkey : k ∈ j.table.foreignKeys := mem_of_mem_distinctKeys (h.keys ▸ hk)
  have hresolved := h.resolved k hk
  simp only [isResolved, Bool.and_eq_true] at hresolved
  have hreferred : isReferred s j'.table = true := by
    refine List.any_eq_true.mpr ⟨j.table, h.table, Bool.and_eq_true_iff.mpr ⟨?_, ?_⟩⟩
    · exact decide_eq_true fun hname => hne (heq.symm.trans hname.symm)
    · exact List.any_eq_true.mpr ⟨k, hkey, Bool.and_eq_true_iff.mpr
        ⟨decide_eq_true heq.symm, hresolved.1⟩⟩
  rw [(tested_of_mem hj').unreferred] at hreferred
  cases hreferred

theorem table_of_junction? {s : Snapshot} {t : Table} {j : Junction} (h : junction? s t = some j) :
    j.table = t := by
  unfold junction? at h
  split at h
  · split at h
    · cases h
      rfl
    · cases h
  · cases h

theorem junctions_tables (s : Snapshot) :
    (junctions s).map (·.table) = s.tables.filter fun t => (junction? s t).isSome := by
  unfold junctions
  rw [List.map_filterMap, ← List.filterMap_eq_filter]
  refine List.filterMap_congr fun t _ => ?_
  cases hj : junction? s t with
  | none => simp [Option.guard, hj]
  | some j => simp [Option.guard, hj, table_of_junction? hj]

theorem junctions_names (s : Snapshot) :
    (junctions s).map (·.table.name) =
      (s.tables.filter fun t => (junction? s t).isSome).map (·.name) := by
  rw [← junctions_tables, List.map_map]
  rfl

theorem mem_entityTables {s : Snapshot} {t : Table} :
    t ∈ entityTables s ↔ t ∈ s.tables ∧ ∀ j ∈ junctions s, j.table.name ≠ t.name := by
  unfold entityTables
  simp only [List.mem_filter, Bool.not_eq_true', List.contains_eq_mem, decide_eq_false_iff_not,
    List.mem_map, not_exists, not_and]

/-- What an entity refers to within the schema becomes an entity: a table that others refer to is no
junction. -/
theorem mem_entityTables_of_target {s : Snapshot} {t target : Table} (ht : t ∈ entityTables s)
    {k : ForeignKey} (hk : k ∈ t.foreignKeys) (hleaves : k.leaves s.schema = false)
    (htarget : target ∈ s.tables) (hname : target.name = k.referredTable) : target ∈ entityTables s := by
  obtain ⟨ht, hentity⟩ := mem_entityTables.mp ht
  refine mem_entityTables.mpr ⟨htarget, ?_⟩
  intro j hj hjunction
  have hreferred : isReferred s j.table = true := by
    refine List.any_eq_true.mpr ⟨t, ht, Bool.and_eq_true_iff.mpr ⟨?_, ?_⟩⟩
    · exact decide_eq_true fun hsame => hentity j hj hsame.symm
    · refine List.any_eq_true.mpr ⟨k, hk, Bool.and_eq_true_iff.mpr ⟨?_, ?_⟩⟩
      · exact decide_eq_true (hname.symm.trans hjunction.symm)
      · rw [hleaves]
        rfl
  rw [(tested_of_mem hj).unreferred] at hreferred
  cases hreferred

/-- Where table names differ, the tables that become entities are those that are no junctions. -/
theorem entityTables_eq {s : Snapshot} (h : s.tableNames.Nodup) :
    entityTables s = s.tables.filter fun t => (junction? s t).isNone := by
  unfold entityTables
  refine List.filter_congr fun t ht => ?_
  have hmem : t.name ∈ (junctions s).map (·.table.name) ↔ (junction? s t).isSome := by
    rw [junctions_names, List.mem_map]
    constructor
    · rintro ⟨t', ht', hname⟩
      obtain ⟨ht', hj⟩ := List.mem_filter.mp ht'
      rwa [List.inj_on_of_nodup_map h ht' ht hname] at hj
    · exact fun hj => ⟨t, List.mem_filter.mpr ⟨ht, hj⟩, rfl⟩
  rw [Bool.eq_iff_iff, Bool.not_eq_true', List.contains_eq_mem, decide_eq_false_iff_not, hmem,
    Bool.not_eq_true, Option.isSome_eq_false_iff]

/-- The tables that a junction refers to become entities, except for itself. -/
theorem Junction.mem_entityTables_iff {s : Snapshot} {j : Junction} (hj : j ∈ junctions s)
    {k : ForeignKey} (hk : k ∈ [j.first, j.second]) :
    k.referredTable ∈ (entityTables s).map (·.name) ↔ k.referredTable ≠ j.table.name := by
  have h := tested_of_mem hj
  constructor
  · intro hmem heq
    obtain ⟨t, ht, hname⟩ := List.mem_map.mp hmem
    exact (mem_entityTables.mp ht).2 j hj (heq.symm.trans hname.symm)
  · intro hne
    have hresolved := h.resolved k hk
    simp only [isResolved, Bool.and_eq_true] at hresolved
    obtain ⟨t, ht⟩ := Option.isSome_iff_exists.mp hresolved.2
    unfold Snapshot.table? findLast? at ht
    have hname : t.name = k.referredTable := by
      simpa only [decide_eq_true_eq] using List.find?_some ht
    have htable : t ∈ s.tables := List.mem_reverse.mp (List.mem_of_find?_eq_some ht)
    refine List.mem_map.mpr ⟨t, mem_entityTables.mpr ⟨htable, fun j' hj' => ?_⟩, hname⟩
    rw [hname]
    exact h.target_ne hk hne j' hj'

end SchemaScribe
