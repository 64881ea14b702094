import Mathlib.Data.Fintype.Card
import Mathlib.Data.Fintype.EquivFin
import Mathlib.Data.Fintype.Sets
import Mathlib.Data.List.Perm.Subperm
import Mathlib.Logic.Relation
import SchemaScribe.Proofs.Model.Order

/-!
# Entities stand behind what they depend on

An entity depends on the other entities that it owns relations to (`Model.DependsOn`), and it is entangled if
that leads to a cycle (`Model.Entangled`). Placing goes on until nothing that is ready is left over
(`mem_place_of_ready`), and it only ever puts a name behind its dependencies (`Sorted`), which nothing
entangled can be put behind. So the names that are placed are those that are not entangled
(`mem_placed_iff`), and the others follow in the order of their declaration (`dependencyOrder_sorted`).
-/

namespace SchemaScribe.Model

variable {m : Model} {edges : List (String × String)} {names placed queue order : List String}
  {name target : String}

/-! ## Dependencies and cycles -/

/-- **An entity depends on another one of the model** if it owns a relation to it. -/
def DependsOn (m : Model) (name target : String) : Prop :=
  target ≠ name ∧ target ∈ m.names ∧
    ∃ e ∈ m.entities, e.name = name ∧ ∃ r ∈ e.relations, r.owning = true ∧ r.target = target

theorem dependency?_eq_some {r : Relation} {holder : String} :
    r.dependency? holder = some target ↔ r.owning = true ∧ r.target = target ∧ target ≠ holder := by
  unfold Relation.dependency?
  rw [Option.ite_none_right_eq_some, Bool.and_eq_true, decide_eq_true_eq, Option.some.injEq]
  constructor
  · rintro ⟨⟨howning, hother⟩, rfl⟩
    exact ⟨howning, rfl, hother⟩
  · rintro ⟨howning, rfl, hother⟩
    exact ⟨⟨howning, hother⟩, rfl⟩

theorem mem_dependencies : (target, name) ∈ m.dependencies ↔ m.DependsOn name target := by
  unfold dependencies DependsOn
  simp only [List.mem_flatMap, List.mem_filterMap]
  constructor
  · rintro ⟨e, he, r, hr, hedge⟩
    split at hedge
    · next found hfound =>
      obtain ⟨howning, htarget, hother⟩ := dependency?_eq_some.mp hfound
      rw [Option.ite_none_right_eq_some, List.contains_iff_mem] at hedge
      obtain ⟨hmem, hedge⟩ := hedge
      cases hedge
      exact ⟨hother, hmem, e, he, rfl, r, hr, howning, htarget⟩
    · cases hedge
  · rintro ⟨hother, hmem, e, he, rfl, r, hr, howning, htarget⟩
    refine ⟨e, he, r, hr, ?_⟩
    rw [dependency?_eq_some.mpr ⟨howning, htarget, hother⟩]
    exact if_pos (List.contains_iff_mem.mpr hmem)

theorem DependsOn.mem_names (h : m.DependsOn name target) : name ∈ m.names ∧ target ∈ m.names := by
  obtain ⟨_, htarget, e, he, rfl, _⟩ := h
  exact ⟨List.mem_map_of_mem he, htarget⟩

/-- An entity that depends on itself through others. -/
def OnCycle (m : Model) (name : String) : Prop := Relation.TransGen m.DependsOn name name

/-- **An entity on a cycle of dependencies or behind one.** -/
def Entangled (m : Model) (name : String) : Prop :=
  ∃ other, m.OnCycle other ∧ Relation.ReflTransGen m.DependsOn name other

theorem Entangled.of_dependsOn (h : m.DependsOn name target) (htarget : m.Entangled target) :
    m.Entangled name := by
  obtain ⟨other, hcycle, hleads⟩ := htarget
  exact ⟨other, hcycle, .head h hleads⟩

/-- An entangled entity depends on an entangled one: the next one on the way into the cycle or along it. -/
theorem Entangled.exists_dependsOn (h : m.Entangled name) :
    ∃ target, m.DependsOn name target ∧ m.Entangled target := by
  obtain ⟨other, hcycle, hleads⟩ := h
  rcases Relation.ReflTransGen.cases_head hleads with rfl | ⟨target, hfirst, hrest⟩
  · obtain ⟨target, hfirst, hrest⟩ := Relation.TransGen.head'_iff.mp hcycle
    exact ⟨target, hfirst, name, hcycle, hrest⟩
  · exact ⟨target, hfirst, other, hcycle, hrest⟩

/-! ## What is placed is sorted -/

/-- **Names behind their dependencies**: every name was added when all that it depends on was there. -/
inductive Sorted (edges : List (String × String)) : List String → Prop where
  | nil : Sorted edges []
  | snoc {order : List String} {name : String} (horder : Sorted edges order)
      (hready : ∀ target, (target, name) ∈ edges → target ∈ order) : Sorted edges (order ++ [name])

theorem place_sorted : ∀ {fuel : Nat} {placed queue : List String}, Placing edges placed queue →
    Sorted edges placed → Sorted edges (place edges fuel placed queue)
  | 0, _, _, _, hsorted => hsorted
  | _ + 1, _, [], _, hsorted => hsorted
  | fuel + 1, placed, name :: queue, h, hsorted => by
    rw [place]
    have hready := h.ready name (List.mem_append_right placed List.mem_cons_self)
    exact place_sorted h.step (hsorted.snoc (isReady_iff.mp hready))

/-- A name of a sorted list has its dependencies in front of it. -/
theorem Sorted.sublist (h : Sorted edges order) (hname : name ∈ order) (hedge : (target, name) ∈ edges) :
    [target, name].Sublist order := by
  induction h with
  | nil => cases hname
  | @snoc order last _ hready ih =>
    rcases List.mem_append.mp hname with hname | hlast
    · exact (ih hname).trans (List.sublist_append_left order [last])
    · obtain rfl := List.mem_singleton.mp hlast
      exact (List.singleton_sublist.mpr (hready target hedge)).append (List.Sublist.refl [name])

/-- Nothing entangled stands in a sorted list: the first such name would have another one in front of it. -/
theorem Sorted.not_entangled (h : Sorted m.dependencies order) : ∀ name ∈ order, ¬ m.Entangled name := by
  induction h with
  | nil => exact fun _ hname => absurd hname List.not_mem_nil
  | @snoc order last _ hready ih =>
    intro name hname hentangled
    rcases List.mem_append.mp hname with hname | hlast
    · exact ih name hname hentangled
    · obtain rfl := List.mem_singleton.mp hlast
      obtain ⟨target, hdepends, htarget⟩ := hentangled.exists_dependsOn
      exact ih target (hready target (mem_dependencies.mpr hdepends)) htarget

/-! ## What is ready is placed -/

/-- **What placing keeps of names**: only they are placed or wait, and those of them that are ready do. -/
structure Feeding (names : List String) (edges : List (String × String)) (placed queue : List String) : Prop
    extends Placing edges placed queue where
  subset : placed ++ queue ⊆ names
  waits : ∀ name ∈ names, isReady edges placed name = true → name ∈ placed ++ queue

theorem Feeding.step (hedges : ∀ edge ∈ edges, edge.2 ∈ names) (h : Feeding names edges placed (name :: queue)) :
    Feeding names edges (placed ++ [name])
      (queue ++ (holders edges name).filter (isReady edges (placed ++ [name]))) := by
  refine { toPlacing := h.toPlacing.step, subset := ?_, waits := ?_ }
  · rw [placed_append_queue]
    intro other hother
    rcases List.mem_append.mp hother with hother | hother
    · exact h.subset hother
    · exact hedges _ (mem_holders.mp (List.mem_filter.mp hother).1)
  · intro other hother hready
    rw [placed_append_queue]
    by_cases hholder : other ∈ holders edges name
    · exact List.mem_append_right _ (List.mem_filter.mpr ⟨hholder, hready⟩)
    · -- it does not depend on what was placed now, so it was ready before
      refine List.mem_append_left _ (h.waits other hother (isReady_iff.mpr fun target hedge => ?_))
      rcases List.mem_append.mp (isReady_iff.mp hready target hedge) with hplaced | hlast
      · exact hplaced
      · obtain rfl := List.mem_singleton.mp hlast
        exact absurd (mem_holders.mpr hedge) hholder

/-- With as many steps as there are names left, every name is placed that is ready in the end. -/
theorem mem_place_of_ready (hedges : ∀ edge ∈ edges, edge.2 ∈ names) : ∀ {fuel : Nat} {placed queue : List String},
    Feeding names edges placed queue → names.length ≤ placed.length + fuel → ∀ name ∈ names,
      isReady edges (place edges fuel placed queue) name = true → name ∈ place edges fuel placed queue
  | 0, placed, queue, h, hfuel, name, hname, hready => by
    have hlength := (h.nodup.subperm h.subset).length_le
    rw [List.length_append] at hlength
    have hqueue : queue = [] := List.length_eq_zero_iff.mp (by omega)
    have hmem := h.waits name hname hready
    rwa [hqueue, List.append_nil] at hmem
  | _ + 1, placed, [], h, _, name, hname, hready => by
    have hmem := h.waits name hname hready
    rwa [List.append_nil] at hmem
  | fuel + 1, placed, next :: queue, h, hfuel, name, hname, hready => by
    rw [place] at hready ⊢
    refine mem_place_of_ready hedges (h.step hedges) ?_ name hname hready
    rw [List.length_append, List.length_singleton]
    omega

theorem sorted_placed (m : Model) : Sorted m.dependencies m.placed := place_sorted m.placing_start .nil

theorem mem_placed_of_ready (hname : name ∈ m.names)
    (hready : ∀ target, m.DependsOn name target → target ∈ m.placed) : name ∈ m.placed := by
  have hstart : Feeding m.names.eraseDups m.dependencies []
      (m.names.eraseDups.filter (isReady m.dependencies [])) := by
    refine { toPlacing := m.placing_start, subset := ?_, waits := ?_ }
    · exact List.filter_subset_self _
    · exact fun other hother hready => List.mem_filter.mpr ⟨hother, hready⟩
  refine mem_place_of_ready (fun edge hedge => ?_) hstart (Nat.zero_add _).ge name
    (List.mem_eraseDups.mpr hname) (isReady_iff.mpr fun target hedge => ?_)
  · exact List.mem_eraseDups.mpr (dependencies_subset (List.mem_map_of_mem hedge))
  · exact hready target (mem_dependencies.mp hedge)

/-! ## Who is placed -/

/-- Where nothing is entangled, the dependencies of an entity lead to an end. -/
theorem wellFounded_dependsOn (m : Model) :
    WellFounded fun target name : { name // name ∈ m.names ∧ ¬ m.Entangled name } =>
      Relation.TransGen m.DependsOn name.1 target.1 := by
  have hfinite : Finite { name // name ∈ m.names ∧ ¬ m.Entangled name } :=
    Finite.of_injective (β := { name // name ∈ m.names }) (fun name => ⟨name.1, name.2.1⟩)
      fun _ _ heq => Subtype.ext (congrArg (·.1) heq)
  have htrans : IsTrans { name // name ∈ m.names ∧ ¬ m.Entangled name }
      fun target name => Relation.TransGen m.DependsOn name.1 target.1 := ⟨fun _ _ _ h h' => h'.trans h⟩
  have hirrefl : Std.Irrefl fun target name : { name // name ∈ m.names ∧ ¬ m.Entangled name } =>
      Relation.TransGen m.DependsOn name.1 target.1 := ⟨fun name hcycle => name.2.2 ⟨name.1, hcycle, .refl⟩⟩
  exact Finite.wellFounded_of_trans_of_irrefl _

/-- **The names that are placed are those of the entities that are not entangled**: none of the entities that
they lead to, step by step, is on a cycle. So what the order cannot place does not depend on how the entities
were declared. -/
theorem mem_placed_iff : name ∈ m.placed ↔ name ∈ m.names ∧ ¬ m.Entangled name := by
  constructor
  · exact fun hplaced => ⟨m.placed_subset hplaced, (sorted_placed m).not_entangled name hplaced⟩
  · intro hname
    -- along dependencies, which end somewhere as no cycle can be met
    suffices hall : ∀ other : { name // name ∈ m.names ∧ ¬ m.Entangled name }, other.1 ∈ m.placed from
      hall ⟨name, hname⟩
    intro other
    induction other using (wellFounded_dependsOn m).induction with
    | _ other ih =>
      refine mem_placed_of_ready other.2.1 fun target hdepends => ?_
      exact ih ⟨target, hdepends.mem_names.2, fun h => other.2.2 (.of_dependsOn hdepends h)⟩ (.single hdepends)

/-- **The dependency order has every entity once, and every entity that is not entangled behind all that it
depends on.** The entangled ones are at the end, as they were declared; if there is no cycle there are none. -/
theorem dependencyOrder_sorted (h : m.names.Nodup) :
    m.dependencyOrder.Perm m.names ∧
      (∀ name target, m.DependsOn name target → ¬ m.Entangled name →
        [target, name].Sublist m.dependencyOrder) ∧
      (∃ front back, m.dependencyOrder = front ++ back ∧ back.Sublist m.names ∧
        ∀ name ∈ m.names, name ∈ back ↔ m.Entangled name) ∧
      ((∀ name, ¬ m.OnCycle name) → ∀ name target, m.DependsOn name target →
        [target, name].Sublist m.dependencyOrder) := by
  have hbehind : ∀ name target, m.DependsOn name target → ¬ m.Entangled name →
      [target, name].Sublist m.dependencyOrder := by
    intro name target hdepends hnone
    have hplaced := mem_placed_iff.mpr ⟨hdepends.mem_names.1, hnone⟩
    exact ((sorted_placed m).sublist hplaced (mem_dependencies.mpr hdepends)).trans
      (List.sublist_append_left _ _)
  refine ⟨dependencyOrder_perm h, hbehind, ?_, ?_⟩
  · refine ⟨m.placed, m.names.filter (!m.placed.contains ·), rfl, List.filter_sublist, ?_⟩
    intro name hname
    simp only [List.mem_filter, hname, true_and, Bool.not_eq_true', List.contains_eq_mem,
      decide_eq_false_iff_not, mem_placed_iff, not_not]
  · intro hnone name target hdepends
    exact hbehind name target hdepends fun ⟨other, hcycle, _⟩ => hnone other hcycle

/-- An entity that owns relations to others. -/
def owner (name : String) (targets : List String) : Entity where
  name
  table := name
  fileName := name
  inputName := name
  inputFileName := name
  columns := []
  relations := targets.map fun target =>
    { name := target, kind := .manyToOne, entity := name, target, owning := true, constraintKey := target
      joined_iff := by decide }

/-- Hens and eggs depend on each other, and chicks on hens. A field has two relations to its farm. -/
def farm : Model where
  entities := [owner "Chick" ["Hen"], owner "Hen" ["Egg", "Farm", "Hen"], owner "Egg" ["Hen"],
    owner "Field" ["Farm", "Farm", "Village"], owner "Farm" []]

/-- A field stands behind its farm, chicks only among those that cannot be placed. -/
theorem dependencyOrder_sorted_farm :
    farm.names.Nodup ∧ ["Farm", "Field"].Sublist farm.dependencyOrder ∧ farm.Entangled "Chick" ∧
      ∃ front back, farm.dependencyOrder = front ++ back ∧ back.Sublist farm.names ∧ "Chick" ∈ back ∧
        "Field" ∉ back := by
  have hnodup : farm.names.Nodup := by decide +kernel
  have hfield : ¬ farm.Entangled "Field" := (mem_placed_iff.mp (by decide +kernel)).2
  have hdepends : ∀ edge ∈ [("Hen", "Chick"), ("Egg", "Hen"), ("Hen", "Egg"), ("Farm", "Field")],
      farm.DependsOn edge.2 edge.1 := by
    intro edge hedge
    refine mem_dependencies.mp ?_
    revert edge
    decide +kernel
  have hchick : farm.Entangled "Chick" := by
    refine ⟨"Hen", .head (hdepends ("Egg", "Hen") ?_) (.single (hdepends ("Hen", "Egg") ?_)),
      .single (hdepends ("Hen", "Chick") ?_)⟩
    all_goals decide
  obtain ⟨_, hbehind, ⟨front, back, horder, hback, hmem⟩, _⟩ := dependencyOrder_sorted hnodup
  refine ⟨hnodup, hbehind "Field" "Farm" (hdepends ("Farm", "Field") (by decide)) hfield, hchick, front, back,
    horder, hback, ?_, ?_⟩
  · exact (hmem "Chick" (by decide +kernel)).mpr hchick
  · exact fun h => hfield ((hmem "Field" (by decide +kernel)).mp h)

example : farm.dependencyOrder = ["Farm", "Field", "Chick", "Hen", "Egg"] := by decide +kernel

end SchemaScribe.Model
