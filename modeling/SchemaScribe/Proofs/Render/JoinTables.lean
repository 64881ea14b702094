import SchemaScribe.Proofs.Model.Accounts
import SchemaScribe.Proofs.Render.Imports
import SchemaScribe.Proofs.Text.Escapes
import SchemaScribe.Proofs.Text.Parts
import SchemaScribe.Proofs.Text.Runs

/-!
# Which table a relationship goes through

A many-to-many relation that owns its constraint names a variable of its module, and the prelude of the module
sets the variable to the join table. The relations of an entity have different join tables
(`Built.through_nodup`), but the variable is the name of the table as an identifier, and nothing makes it differ
from others: tables whose names have the same runs of letters and digits have one variable
(`joinVariable_eq_iff`). What a variable holds is then the table of the last relation that sets it (`holds_iff`).

So a relationship goes through its own table unless a later relation of the entity sets the variable again, or an
attribute in front of the relationship has its name, which the body of a class sees first
(`SourceUnit.JoinsThrough`).
-/

namespace SchemaScribe

open SchemaScribe.Catalog SchemaScribe.Text

/-! ## The join tables of an entity -/

/-- The table that a relation goes through. -/
def Relation.through (r : Relation) : String := r.joinTable.getD ""

/-- Whether a relation sets a variable to its join table. -/
def Relation.joins (r : Relation) : Bool := r.kind = .manyToMany && r.owning

/-- The relations of an entity that set a variable to their join table. -/
def Entity.joins (e : Entity) : List Relation := e.relations.filter Relation.joins

theorem Entity.joins_eq {e : Entity} {before after : List Relation} {r : Relation}
    (h : e.relations = before ++ r :: after) (hjoins : r.joins = true) :
    e.joins = before.filter Relation.joins ++ r :: after.filter Relation.joins := by
  unfold Entity.joins
  rw [h, List.filter_append, List.filter_cons_of_pos hjoins]

/-- What tells the relations with join tables apart tells each from the later ones. -/
theorem Entity.later_ne {α : Type} {f : Relation → α} {e : Entity} (hdistinct : (e.joins.map f).Nodup)
    {before after : List Relation} {r : Relation} (h : e.relations = before ++ r :: after)
    (hjoins : r.joins = true) : ∀ r' ∈ after.filter Relation.joins, f r' ≠ f r := by
  intro r' hr' heq
  rw [Entity.joins_eq h hjoins, List.map_append, List.map_cons, List.nodup_middle, List.nodup_cons] at hdistinct
  exact hdistinct.1 (List.mem_append_right _ (List.mem_map.mpr ⟨r', hr', heq⟩))

/-- The junction among the origins, if it is one. -/
def Origin.junction? : Origin → Option Junction
  | .key _ _ => none
  | .junction j => some j

/-- The pairs of junctions have one relation each that goes through the junction, those of keys have none. -/
theorem through_of_yields {m : Model} {origins : List Origin} {pairs : List (Relation × Relation)}
    (h : List.Forall₂ m.Yields origins pairs) :
    ((pairs.flatMap fun x => [x.1, x.2]).filter Relation.joins).map Relation.through =
      (origins.filterMap Origin.junction?).map (·.table.name) := by
  induction h with
  | nil => rfl
  | @cons origin x origins pairs hyields _ ih =>
    obtain ⟨r, r'⟩ := x
    rw [List.flatMap_cons, List.filter_append, List.map_append, ih]
    cases origin with
    | key t k =>
      obtain ⟨e, _, target, _, _, _, hspans, hkind, _⟩ := hyields
      have hkind' : r'.kind ≠ .manyToMany := by
        rw [hspans.mirrors.kind]
        intro hinverse
        refine hkind ?_
        cases hr : r.kind with
        | manyToMany => rfl
        | oneToOne | oneToMany | manyToOne =>
          rw [hr] at hinverse
          cases hinverse
      rw [List.filterMap_cons_none rfl]
      simp [Relation.joins, hkind, hkind']
    | junction j =>
      obtain ⟨e, _, target, _, _, _, hspans, hkind, htable, _, _⟩ := hyields
      have howning : r'.owning = false := by
        rw [hspans.mirrors.owning, hspans.owning]
        rfl
      simp [Relation.joins, Relation.through, Origin.junction?, hkind, hspans.owning, howning, htable]

/-- **The relations of an entity go through different join tables.** -/
theorem Built.through_nodup {o : Options} {s : Snapshot} (b : Built o s) (hs : s.Referring) {m : Model}
    (hentities : m.entities = b.drafts.map b.entity) {e : Entity} (he : e ∈ m.entities) :
    (e.joins.map Relation.through).Nodup := by
  have hall := ((b.relations_perm hentities).filter Relation.joins).map Relation.through
  rw [through_of_yields (b.pairs_yielded hs hentities)] at hall
  have hjunctions : (m.origins s).filterMap Origin.junction? = junctions s := by
    unfold Model.origins
    rw [List.filterMap_append, List.filterMap_map, List.filterMap_map]
    simp [Function.comp_def, Origin.junction?]
  have hnodup : ((m.relations.filter Relation.joins).map Relation.through).Nodup := by
    rw [hall.nodup_iff, hjunctions, junctions_names]
    exact (List.filter_sublist.map _).nodup hs.names
  unfold Model.relations at hnodup
  rw [List.filter_flatMap, List.map_flatMap] at hnodup
  exact (List.nodup_flatMap.mp hnodup).1 e he

namespace Render

/-! ## Variables of join tables -/

/-- The runs of a variable: those of the table, and one more. -/
theorem runs_joinVariable (table : String) :
    runs (joinVariable table).toList = runs table.toList ++ ["table".toList] := by
  have hending : "_table".toList = '_' :: "table".toList := by decide
  unfold joinVariable toIdentifier
  rw [String.toList_ofList, String.toList_append, runs_identifierChars, hending, runs_append_cons (by decide)]
  · rfl
  · rw [content_append]
    exact List.append_ne_nil_of_right_ne_nil _ (by decide)

/-- A variable begins with a letter if and only if its table does. -/
theorem head?_joinVariable (table : String) :
    (joinVariable table).toList.head?.any Char.isAlpha = table.toList.head?.any Char.isAlpha := by
  unfold joinVariable toIdentifier
  rw [String.toList_ofList, head?_identifierChars, String.toList_append]
  · cases table.toList with
    | nil => rfl
    | cons c rest => rfl
  · rw [String.toList_append, content_append]
    exact List.append_ne_nil_of_right_ne_nil _ (by decide)

/-- A variable is told by its runs, with an underscore in front if its table does not begin with a letter. -/
theorem joinVariable_eq (table : String) : (joinVariable table).toList =
    (if table.toList.head?.any Char.isAlpha then [] else ['_']) ++
      ['_'].intercalate (runs table.toList ++ ["table".toList]) := by
  have hname : IsIdentifier (joinVariable table).toList := toIdentifier_isName _
  have hlast : (joinVariable table).toList.getLast?.any Char.isAlphanum = true := by
    obtain ⟨front, hfront⟩ := suffix_joinVariable table
    rw [← hfront, List.getLast?_append]
    rfl
  have hlead : (joinVariable table).toList.head? = some '_' ↔ ¬ table.toList.head?.any Char.isAlpha = true := by
    rw [← head?_joinVariable]
    obtain ⟨c, rest, hcons⟩ := List.exists_cons_of_ne_nil hname.filled
    have hdigit : c.isDigit = false := hname.start c (by rw [hcons]; rfl)
    rw [hcons, List.head?_cons, Option.some_inj, Option.any_some, Bool.not_eq_true]
    constructor
    · rintro rfl
      rfl
    · intro halpha
      rcases hname.characters c (by rw [hcons]; exact List.mem_cons_self) with hc | hc
      · rw [Char.isAlphanum, halpha, hdigit] at hc
        cases hc
      · exact hc
  rw [eq_intercalate_runs hname.characters hname.apart hlast, runs_joinVariable]
  by_cases halpha : table.toList.head?.any Char.isAlpha = true
  · rw [if_pos halpha, if_neg (mt hlead.mp (not_not_intro halpha))]
  · rw [if_neg halpha, if_pos (hlead.mpr halpha)]

/-- **Tables have one variable** if and only if their names have the same runs of letters and digits, and both or
neither begin with a letter. -/
theorem joinVariable_eq_iff {table table' : String} : joinVariable table = joinVariable table' ↔
    runs table.toList = runs table'.toList ∧
      table.toList.head?.any Char.isAlpha = table'.toList.head?.any Char.isAlpha := by
  constructor
  · intro h
    have hruns := runs_joinVariable table
    have hhead := head?_joinVariable table
    rw [h] at hruns hhead
    rw [runs_joinVariable] at hruns
    rw [head?_joinVariable] at hhead
    exact ⟨(List.append_cancel_right hruns).symm, hhead.symm⟩
  · rintro ⟨hruns, hhead⟩
    rw [← String.toList_inj, joinVariable_eq, joinVariable_eq, hruns, hhead]

/-! ## What a variable holds -/

/-- The line that begins to set a variable to a table. -/
def setsTable (name : String) : String := name ++ " = Table("

/-- **What a variable holds** behind the prelude of a module: the table of the last declaration that sets it. -/
def SourceUnit.Holds (u : SourceUnit) (name table : String) : Prop :=
  ∃ before after, u.prelude = before ++ setsTable name :: after ∧ setsTable name ∉ after ∧
    after.head? = some (indent (Text.literal table ++ ","))

/-- A variable holds one table. -/
theorem SourceUnit.Holds.unique {u : SourceUnit} {name table table' : String} (h : u.Holds name table)
    (h' : u.Holds name table') : table = table' := by
  obtain ⟨before, after, hprelude, hlast, hhead⟩ := h
  obtain ⟨before', after', hprelude', hlast', hhead'⟩ := h'
  obtain ⟨_, rfl⟩ := append_cons_inj_last hlast hlast' (hprelude.symm.trans hprelude')
  rw [hhead, Option.some_inj] at hhead'
  exact literal_injective ((String.append_left_inj _).mp ((String.append_right_inj _).mp hhead'))

/-- The lines behind the first one of a declaration set nothing. -/
theorem setsTable_ne_indent {name : String} (h : IsName name) (line : String) :
    setsTable name ≠ indent line := by
  obtain ⟨c, hc, hblank, _⟩ := (bare_of_isName h).append " = Table("
  intro heq
  change name ++ " = Table(" = indent line at heq
  rw [heq, indent, String.toList_append] at hc
  cases hc
  exact hblank rfl

/-- The declaration of a join table sets its variable and no other. -/
theorem joinTableLines_eq (m : Model) (r : Relation) : ∃ behind,
    joinTableLines m r = setsTable (joinVariable r.through) :: behind ∧
      behind.head? = some (indent (Text.literal r.through ++ ",")) ∧
      ∀ name, IsName name → setsTable name ∉ behind := by
  refine ⟨_, rfl, rfl, fun name hname hmem => ?_⟩
  rcases List.mem_append.mp hmem with hargument | hclosing
  · obtain ⟨argument, _, hline⟩ := List.mem_map.mp hargument
    exact setsTable_ne_indent hname _ hline.symm
  · have hblank : ' ' ∈ (setsTable name).toList := by
      unfold setsTable
      rw [String.toList_append]
      exact List.mem_append_right _ (by decide)
    rw [List.mem_singleton.mp hclosing] at hblank
    exact absurd hblank (by decide)

theorem setsTable_mem_joinTableLines {m : Model} {r : Relation} {name : String} (h : IsName name) :
    setsTable name ∈ joinTableLines m r ↔ joinVariable r.through = name := by
  obtain ⟨behind, hlines, _, hbehind⟩ := joinTableLines_eq m r
  rw [hlines, List.mem_cons, or_iff_left (hbehind name h)]
  unfold setsTable
  rw [String.append_left_inj, eq_comm]

section

variable {m : Model} {u : SourceUnit} {front back : List Relation} {r : Relation}

/-- The last relation of a variable has its table held. -/
theorem holds_of_last (hprelude : u.prelude = (front ++ r :: back).flatMap (joinTableLines m))
    (hback : ∀ r' ∈ back, joinVariable r'.through ≠ joinVariable r.through) :
    u.Holds (joinVariable r.through) r.through := by
  obtain ⟨behind, hlines, hhead, hbehind⟩ := joinTableLines_eq m r
  have hname := joinVariable_isName r.through
  refine ⟨front.flatMap (joinTableLines m), behind ++ back.flatMap (joinTableLines m), ?_, ?_, ?_⟩
  · rw [hprelude, List.flatMap_append, List.flatMap_cons, hlines, List.cons_append]
  · rw [List.mem_append, or_iff_right (hbehind _ hname)]
    intro hmem
    obtain ⟨r', hr', hline⟩ := List.mem_flatMap.mp hmem
    exact hback r' hr' ((setsTable_mem_joinTableLines hname).mp hline)
  · rw [List.head?_append, hhead, Option.some_or]

/-- The variable of a relation holds the table of that relation or of a later one. -/
theorem exists_holds (hprelude : u.prelude = (front ++ back).flatMap (joinTableLines m)) (hr : r ∈ back) :
    ∃ r' ∈ back, u.Holds (joinVariable r.through) r'.through := by
  induction back generalizing front r with
  | nil => cases hr
  | cons first back ih =>
    by_cases hlater : ∃ r' ∈ back, joinVariable r'.through = joinVariable r.through
    · obtain ⟨r', hr', hsame⟩ := hlater
      rw [List.append_cons] at hprelude
      obtain ⟨last, hlast, hholds⟩ := ih hprelude hr'
      exact ⟨last, List.mem_cons_of_mem first hlast, hsame ▸ hholds⟩
    · have hfirst : r = first := (List.mem_cons.mp hr).resolve_right fun hback => hlater ⟨r, hback, rfl⟩
      rw [hfirst] at hlater ⊢
      exact ⟨first, List.mem_cons_self, holds_of_last hprelude fun r' hr' hsame => hlater ⟨r', hr', hsame⟩⟩

/-- **The variable of a relation holds its table** if and only if no later relation sets it. -/
theorem holds_iff (hprelude : u.prelude = (front ++ r :: back).flatMap (joinTableLines m))
    (hother : ∀ r' ∈ back, r'.through ≠ r.through) :
    u.Holds (joinVariable r.through) r.through ↔
      ∀ r' ∈ back, joinVariable r'.through ≠ joinVariable r.through := by
  refine ⟨fun hholds r' hr' hsame => ?_, holds_of_last hprelude⟩
  rw [List.append_cons] at hprelude
  obtain ⟨last, hlast, hholds'⟩ := exists_holds hprelude hr'
  rw [hsame] at hholds'
  exact hother last hlast (hholds'.unique hholds)

end

/-! ## What a relationship goes through -/

/-- **A relationship goes through a table**: the attribute of its name takes a variable that holds the table, and
no attribute in front of it has the name of the variable, which would hide it in the body of the class. -/
def SourceUnit.GoesThrough (u : SourceUnit) (relation table : String) : Prop :=
  ∃ front f back name rest, u.relations = front ++ f :: back ∧ f.name = relation ∧
    f.value = some (.call "relationship" (.named "secondary" (.plain name) :: rest)) ∧
    name ∉ (u.fields ++ front).map (·.name) ∧ u.Holds name table

/-- A relation that sets a variable takes it. -/
theorem relationArguments_joins {o : Options} {e : Entity} {r : Relation} (h : r.joins = true) :
    ∃ rest, relationArguments o e r = .named "secondary" (.plain (joinVariable r.through)) :: rest := by
  obtain ⟨hkind, howning⟩ := Bool.and_eq_true_iff.mp h
  unfold relationArguments joinArguments
  dsimp only
  rw [if_pos (of_decide_eq_true hkind), if_pos howning]
  exact ⟨_, rfl⟩

/-- A list of distinct items is split at one of them in one way. -/
theorem append_cons_inj_of_nodup {α : Type} {a : α} {xs ys xs' ys' : List α} (h : (xs ++ a :: ys).Nodup)
    (heq : xs ++ a :: ys = xs' ++ a :: ys') : xs = xs' ∧ ys = ys' := by
  have hfirst := (List.nodup_cons.mp (List.nodup_middle.mp h)).1
  have hsecond := (List.nodup_cons.mp (List.nodup_middle.mp (heq ▸ h))).1
  exact append_cons_inj (fun hmem => hfirst (List.mem_append_left ys hmem))
    (fun hmem => hsecond (List.mem_append_left ys' hmem)) heq

theorem goesThrough_iff_holds {m : Model} {o : Options} {e : Entity} {targets : List (Relation × Entity)}
    (htargets : withTargets m e.relations = .ok targets)
    (hnames : ((ownColumns e).map (·.property) ++ e.relations.map (·.name)).Nodup)
    {before after : List Relation} {r : Relation} (hrelations : e.relations = before ++ r :: after)
    (hjoins : r.joins = true) :
    (entityUnitOf m o e targets).GoesThrough r.name r.through ↔
      joinVariable r.through ∉ (ownColumns e).map (·.property) ++ before.map (·.name) ∧
        (entityUnitOf m o e targets).Holds (joinVariable r.through) r.through := by
  obtain ⟨rest, harguments⟩ := relationArguments_joins (o := o) (e := e) hjoins
  have hattributes := entityUnit_attributes (o := o) htargets
  have hnodup : (entityUnitOf m o e targets).attributes.Nodup := hattributes ▸ hnames
  have hgiven : (ownColumns e).map (·.property) ++ e.relations.map (·.name) =
      ((ownColumns e).map (·.property) ++ before.map (·.name)) ++ r.name :: after.map (·.name) := by
    rw [hrelations, List.map_append, List.map_cons, List.append_assoc]
  obtain ⟨target, htarget⟩ : ∃ target, (r, target) ∈ targets := by
    have hr : r ∈ targets.map (·.1) := by
      rw [(withTargets_relations htargets).1, hrelations]
      exact List.mem_append_right before List.mem_cons_self
    obtain ⟨⟨_, target⟩, hp, rfl⟩ := List.mem_map.mp hr
    exact ⟨target, hp⟩
  have hmem : relationFragment o e r target ∈ (entityUnitOf m o e targets).relations :=
    List.mem_map_of_mem htarget
  -- the attributes are distinct, so those in front of the relation are known from its name
  have hfront : ∀ {front back : List Fragment} {f : Fragment},
      (entityUnitOf m o e targets).relations = front ++ f :: back → f.name = r.name →
        ((entityUnitOf m o e targets).fields ++ front).map (·.name) =
          (ownColumns e).map (·.property) ++ before.map (·.name) := by
    intro front back f hsplit hname
    rw [hgiven] at hattributes
    unfold SourceUnit.attributes at hnodup hattributes
    rw [hsplit, ← List.append_assoc, List.map_append, List.map_cons, hname] at hnodup hattributes
    exact (append_cons_inj_of_nodup hnodup hattributes).1
  constructor
  · rintro ⟨front, f, back, name, rest', hsplit, hname, hvalue, hfree, hholds⟩
    have hself : f = relationFragment o e r target := by
      refine List.inj_on_of_nodup_map hnodup (List.mem_append_right _ ?_) (List.mem_append_right _ hmem) hname
      rw [hsplit]
      exact List.mem_append_right front List.mem_cons_self
    rw [hfront hsplit hname] at hfree
    rw [hself] at hvalue
    change some (Code.call "relationship" (relationArguments o e r)) = _ at hvalue
    simp only [harguments, Option.some.injEq, Code.call.injEq, List.cons.injEq, Code.named.injEq,
      Code.plain.injEq, true_and] at hvalue
    obtain ⟨rfl, _⟩ := hvalue
    exact ⟨hfree, hholds⟩
  · rintro ⟨hfree, hholds⟩
    obtain ⟨front, back, hsplit⟩ := List.append_of_mem hmem
    refine ⟨front, _, back, _, rest, hsplit, rfl, ?_, ?_, hholds⟩
    · rw [← harguments]
      rfl
    · rwa [hfront hsplit rfl]

/-- **What the relationships of an entity go through.** The relations that set a variable have different join
tables, but may have one variable. A relationship goes through its own table if and only if no attribute in front
of it hides its variable and no later relation sets that again. -/
structure SourceUnit.JoinsThrough (u : SourceUnit) (e : Entity) : Prop where
  distinct : (e.joins.map Relation.through).Nodup
  clash_iff : ∀ r ∈ e.joins, ∀ r' ∈ e.joins, joinVariable r.through = joinVariable r'.through ↔
    runs r.through.toList = runs r'.through.toList ∧
      r.through.toList.head?.any Char.isAlpha = r'.through.toList.head?.any Char.isAlpha
  goesThrough_iff : ∀ before r after, e.relations = before ++ r :: after → r.joins = true →
    (u.GoesThrough r.name r.through ↔
      joinVariable r.through ∉ (ownColumns e).map (·.property) ++ before.map (·.name) ∧
        ∀ r' ∈ after, r'.joins = true → joinVariable r'.through ≠ joinVariable r.through)
  apart : (e.joins.map fun r => joinVariable r.through).Nodup →
    (∀ r ∈ e.joins, joinVariable r.through ∉ e.propertyNames) → ∀ r ∈ e.joins, u.GoesThrough r.name r.through

theorem entityUnit_joinsThrough {m : Model} {o : Options} {e : Entity} {targets : List (Relation × Entity)}
    (htargets : withTargets m e.relations = .ok targets) (hnames : e.propertyNames.Nodup)
    (hdistinct : (e.joins.map Relation.through).Nodup) :
    (entityUnitOf m o e targets).JoinsThrough e := by
  have hown : ((ownColumns e).map (·.property) ++ e.relations.map (·.name)).Sublist e.propertyNames :=
    ((ownColumns_sublist e).map _).append_right _
  have hiff : ∀ before r after, e.relations = before ++ r :: after → r.joins = true →
      ((entityUnitOf m o e targets).GoesThrough r.name r.through ↔
        joinVariable r.through ∉ (ownColumns e).map (·.property) ++ before.map (·.name) ∧
          ∀ r' ∈ after, r'.joins = true → joinVariable r'.through ≠ joinVariable r.through) := by
    intro before r after hrelations hjoins
    have hprelude : (entityUnitOf m o e targets).prelude =
        (before.filter Relation.joins ++ r :: after.filter Relation.joins).flatMap (joinTableLines m) :=
      Entity.joins_eq hrelations hjoins ▸ rfl
    rw [goesThrough_iff_holds htargets (hown.nodup hnames) hrelations hjoins,
      holds_iff hprelude (Entity.later_ne hdistinct hrelations hjoins)]
    simp only [List.mem_filter, and_imp]
  refine ⟨hdistinct, fun r _ r' _ => joinVariable_eq_iff, hiff, fun hvariables hfree r hr => ?_⟩
  obtain ⟨hmem, hjoins⟩ := List.mem_filter.mp hr
  obtain ⟨before, after, hrelations⟩ := List.append_of_mem hmem
  refine (hiff before r after hrelations hjoins).mpr ⟨fun hhidden => hfree r hr (hown.subset ?_), ?_⟩
  · rw [hrelations, List.map_append, ← List.append_assoc]
    exact List.mem_append_left _ hhidden
  · intro r' hr' hjoins'
    exact Entity.later_ne hvariables hrelations hjoins r' (List.mem_filter.mpr ⟨hr', hjoins'⟩)

end Render

open Render

/-- **The relationships of a built model go through their join tables** as far as nothing else has the name of
their variable. For each of them it is decided what the variable holds: an attribute in front may hide it, and a
later join table may set it again. It is decided, too, which join tables come to one variable. -/
theorem buildModel_joinsThrough {p : Option Options} {o o' : Options} {s s' : Snapshot} {m : Model}
    (hprepared : (s.prepare p).outcome = .ok s') (h : buildModel o s' = .ok m) :
    ∀ e ∈ m.entities, ∃ u, entityUnit m o' e = .ok u ∧ u.JoinsThrough e := by
  intro e he
  obtain ⟨targets, htargets⟩ := exists_targets h he
  obtain ⟨b, hentities⟩ := exists_built h
  have hdistinct := b.through_nodup (referring_of_prepare hprepared) hentities he
  refine ⟨entityUnitOf m o' e targets, ?_, ?_⟩
  · unfold entityUnit
    rw [htargets]
    rfl
  · rw [hentities] at he
    obtain ⟨d, hd, rfl⟩ := List.mem_map.mp he
    exact entityUnit_joinsThrough htargets (b.propertyNames_givenInTurn hd).nodup hdistinct

/-- So do those of the school: both relations of a student set one variable, which holds the table of the second
one, and the first goes through that table as well. -/
theorem buildModel_joinsThrough_school :
    ∃ m, (school.prepare (some {})).outcome.toOption = some school ∧ buildModel {} school = .ok m ∧
      ∃ e ∈ m.entities, e.joins.map Relation.through = ["heard-in", "heard_in"] ∧
        ∃ u, entityUnit m {} e = .ok u ∧ ¬ u.GoesThrough "courses" "heard-in" ∧
          u.GoesThrough "courses2" "heard_in" := by
  obtain ⟨m, hm, htest⟩ := exists_ok_of_any (x := buildModel {} school)
    (p := fun m => m.entities.any fun e =>
      (e.relations.map fun r => (r.name, r.through, r.joins)) =
        [("courses", "heard-in", true), ("courses2", "heard_in", true)] ∧
      (ownColumns e).map (·.property) = ["id"])
    (by decide +kernel)
  have hprepared : (school.prepare (some {})).outcome.toOption = some school := by decide +kernel
  obtain ⟨e, he, hdecided⟩ := List.any_eq_true.mp htest
  obtain ⟨hrelations, hcolumns⟩ := of_decide_eq_true hdecided
  obtain ⟨u, hu, hjoined⟩ := buildModel_joinsThrough (toOption_eq_some.mp hprepared) hm e he
  obtain ⟨r, others, hsplit, hr, hothers⟩ := List.map_eq_cons_iff.mp hrelations
  obtain ⟨r', rest, rfl, hr', hrest⟩ := List.map_eq_cons_iff.mp hothers
  obtain rfl := List.map_eq_nil_iff.mp hrest
  simp only [Prod.mk.injEq] at hr hr'
  obtain ⟨hname, hthrough, hjoins⟩ := hr
  obtain ⟨hname', hthrough', hjoins'⟩ := hr'
  refine ⟨m, hprepared, hm, e, he, ?_, u, hu, fun hgoes => ?_, ?_⟩
  · unfold Entity.joins
    rw [hsplit, List.filter_cons_of_pos hjoins, List.filter_cons_of_pos hjoins']
    exact congrArg₂ (fun first second => [first, second]) hthrough hthrough'
  · have hlater := ((hjoined.goesThrough_iff [] r [r'] hsplit hjoins).mp (by rwa [hname, hthrough])).2
    have hclash : joinVariable "heard_in" = joinVariable "heard-in" := by decide +kernel
    rw [← hthrough, ← hthrough'] at hclash
    exact hlater r' List.mem_cons_self hjoins' hclash
  · have hfree : joinVariable "heard_in" ∉ ["id"] ++ ["courses"] := by decide +kernel
    rw [← hname', ← hthrough', hjoined.goesThrough_iff [r] r' [] hsplit hjoins']
    refine ⟨?_, List.forall_mem_nil _⟩
    rw [hcolumns, List.map_singleton, hname, hthrough']
    exact hfree

end SchemaScribe
