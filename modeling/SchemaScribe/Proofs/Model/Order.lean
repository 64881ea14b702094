import SchemaScribe.Model.Order
import SchemaScribe.Proofs.Keys

/-!
# The dependency order leaves no entity out

Placing goes on from a queue of names whose dependencies have all been placed (`Placing`). A name enters
the queue with its last dependency, so not before the dependency was placed and never again afterwards:
no name is placed twice. What cannot be placed follows at the end, so the order holds every name once
(`dependencyOrder_perm`). That names stand behind their dependencies is shown in `Proofs.Model.Precedence`.
-/

namespace SchemaScribe.Model

variable {edges : List (String × String)}

/-! ## One step -/

theorem mem_holders {target name : String} : name ∈ holders edges target ↔ (target, name) ∈ edges := by
  unfold holders
  rw [List.mem_reverse, List.mem_eraseDups, List.mem_reverse, List.mem_map]
  constructor
  · rintro ⟨edge, hedge, rfl⟩
    obtain ⟨hmem, htarget⟩ := List.mem_filter.mp hedge
    rw [← of_decide_eq_true htarget]
    exact hmem
  · intro hmem
    exact ⟨(target, name), List.mem_filter.mpr ⟨hmem, decide_eq_true rfl⟩, rfl⟩

theorem holders_nodup (edges : List (String × String)) (target : String) :
    (holders edges target).Nodup :=
  List.nodup_reverse.mpr (nodup_eraseDups _)

theorem isReady_iff {placed : List String} {name : String} :
    isReady edges placed name = true ↔ ∀ target, (target, name) ∈ edges → target ∈ placed := by
  unfold isReady
  simp only [List.all_eq_true, List.mem_filter, decide_eq_true_eq, List.contains_iff_mem, Prod.forall]
  constructor
  · intro h target hedge
    exact h target name ⟨hedge, rfl⟩
  · rintro h target _ ⟨hedge, rfl⟩
    exact h target hedge

/-- **What placing keeps**: no name is placed or waiting twice, and all of them are ready. -/
structure Placing (edges : List (String × String)) (placed queue : List String) : Prop where
  nodup : (placed ++ queue).Nodup
  ready : ∀ name ∈ placed ++ queue, isReady edges placed name = true

/-- The names that the front of the queue brings into it were neither placed nor waiting: they depend on
it, and it has not been placed. -/
theorem Placing.fresh {placed queue : List String} {name : String}
    (h : Placing edges placed (name :: queue)) :
    ∀ holder ∈ holders edges name, holder ∉ placed ++ name :: queue := by
  intro holder hholder hmem
  have hplaced : name ∈ placed := isReady_iff.mp (h.ready holder hmem) name (mem_holders.mp hholder)
  exact (List.nodup_append.mp h.nodup).2.2 name hplaced name List.mem_cons_self rfl

/-- Placing the front of the queue keeps all names in their order. -/
theorem placed_append_queue (placed queue more : List String) (name : String) :
    placed ++ [name] ++ (queue ++ more) = (placed ++ name :: queue) ++ more := by
  simp only [List.append_assoc, List.cons_append, List.nil_append]

theorem Placing.step {placed queue : List String} {name : String}
    (h : Placing edges placed (name :: queue)) :
    Placing edges (placed ++ [name])
      (queue ++ (holders edges name).filter (isReady edges (placed ++ [name]))) := by
  refine ⟨?_, fun other hother => ?_⟩
  · rw [placed_append_queue]
    refine List.nodup_append.mpr ⟨h.nodup, (holders_nodup edges name).filter _, ?_⟩
    rintro other hother holder hholder rfl
    exact h.fresh other (List.mem_filter.mp hholder).1 hother
  · rw [placed_append_queue] at hother
    rcases List.mem_append.mp hother with hother | hother
    · exact isReady_iff.mpr fun target hedge =>
        List.mem_append_left _ (isReady_iff.mp (h.ready other hother) target hedge)
    · exact (List.mem_filter.mp hother).2

/-! ## A whole run -/

theorem place_nodup : ∀ {fuel : Nat} {placed queue : List String}, Placing edges placed queue →
    (place edges fuel placed queue).Nodup
  | 0, _, _, h => (List.nodup_append.mp h.nodup).1
  | _ + 1, _, [], h => (List.nodup_append.mp h.nodup).1
  | fuel + 1, _, _ :: _, h => by
    rw [place]
    exact place_nodup h.step

/-- Only names that were waiting are placed, and such as depend on others. -/
theorem mem_place {x : String} : ∀ {fuel : Nat} {placed queue : List String},
    x ∈ place edges fuel placed queue → x ∈ placed ++ queue ∨ x ∈ edges.map (·.2)
  | 0, _, _, h => .inl (List.mem_append_left _ h)
  | _ + 1, _, [], h => .inl (List.mem_append_left _ h)
  | fuel + 1, placed, name :: queue, h => by
    rw [place] at h
    rcases mem_place h with h | h
    · rw [← List.append_assoc, List.append_assoc placed] at h
      rcases List.mem_append.mp h with h | h
      · exact .inl h
      · exact .inr (List.mem_map.mpr ⟨_, mem_holders.mp (List.mem_filter.mp h).1, rfl⟩)
    · exact .inr h

theorem dependencies_subset {m : Model} : m.dependencies.map (·.2) ⊆ m.names := by
  intro name hname
  obtain ⟨edge, hedge, rfl⟩ := List.mem_map.mp hname
  obtain ⟨e, he, hedge⟩ := List.mem_flatMap.mp hedge
  obtain ⟨r, _, hr⟩ := List.mem_filterMap.mp hedge
  split at hr
  · split at hr
    · cases hr
      exact List.mem_map_of_mem he
    · cases hr
  · cases hr

/-- In the beginning the names wait that depend on nothing. -/
theorem placing_start (m : Model) :
    Placing m.dependencies [] (m.names.eraseDups.filter (isReady m.dependencies [])) where
  nodup := (nodup_eraseDups m.names).filter _
  ready := fun _ hname => (List.mem_filter.mp hname).2

theorem placed_nodup (m : Model) : m.placed.Nodup := place_nodup m.placing_start

theorem placed_subset (m : Model) : m.placed ⊆ m.names := by
  intro name hname
  rcases mem_place hname with hname | hname
  · rw [List.nil_append] at hname
    exact List.mem_eraseDups.mp (List.mem_filter.mp hname).1
  · exact dependencies_subset hname

/-- **The dependency order is an order of all entities**, each once. Which of them come first is told by the law
on the entities that are not entangled. -/
theorem dependencyOrder_perm {m : Model} (h : m.names.Nodup) : m.dependencyOrder.Perm m.names := by
  have hnodup : m.dependencyOrder.Nodup := by
    refine List.nodup_append.mpr ⟨m.placed_nodup, h.filter _, ?_⟩
    rintro name hplaced _ hrest rfl
    simp only [List.mem_filter, Bool.not_eq_true', List.contains_eq_mem,
      decide_eq_false_iff_not] at hrest
    exact hrest.2 hplaced
  refine (List.perm_ext_iff_of_nodup hnodup h).mpr fun name => ⟨fun hname => ?_, fun hname => ?_⟩
  · rcases List.mem_append.mp hname with hname | hname
    · exact m.placed_subset hname
    · exact (List.mem_filter.mp hname).1
  · by_cases hplaced : name ∈ m.placed
    · exact List.mem_append_left _ hplaced
    · refine List.mem_append_right _ (List.mem_filter.mpr ⟨hname, ?_⟩)
      simpa only [Bool.not_eq_true', List.contains_eq_mem, decide_eq_false_iff_not] using hplaced

/-! ## Entities in order -/

/-- The entities in dependency order. -/
def ordered (m : Model) : List Entity := m.dependencyOrder.filterMap m.entity?

theorem name_of_entity? {m : Model} {name : String} {e : Entity} (h : m.entity? name = some e) :
    e.name = name := by
  unfold entity? Catalog.findLast? at h
  simpa only [decide_eq_true_eq] using List.find?_some h

/-- Where names are distinct, ordering the entities is no more than that. -/
theorem ordered_perm {m : Model} (h : m.names.Nodup) : m.ordered.Perm m.entities := by
  have hfound : m.names.filterMap m.entity? = m.entities := by
    calc m.names.filterMap m.entity?
        = m.entities.filterMap fun e => m.entity? e.name := List.filterMap_map
      _ = m.entities.filterMap some := List.filterMap_congr fun e he => findLast?_key_eq_some h he
      _ = m.entities := List.filterMap_some
  have hperm := (dependencyOrder_perm h).filterMap m.entity?
  rw [hfound] at hperm
  exact hperm

end SchemaScribe.Model
