import SchemaScribe.Proofs.Model.Closure
import SchemaScribe.Proofs.Model.WellNamed
import SchemaScribe.Proofs.Render.Constraints
import SchemaScribe.Proofs.Render.Imports
import SchemaScribe.Proofs.Text.LegalName
import SchemaScribe.Proofs.Text.Parts

/-!
# Conditions of self-joins

A many-to-many relation that leads back to its entity writes down on which columns both sides are joined, one
comparison for each column pair. The text is evaluated as an expression, so its parts must be names. The class and
its properties always are, but the join table and its columns stand there as the catalog has them: a condition can
be evaluated if and only if all of these can name something (`Compares`). There is only one way to read a condition:
a comparison has no commas and three dots, so a name with a comma or a dot does not make up for it elsewhere.
-/

namespace SchemaScribe.Render

open SchemaScribe.Catalog SchemaScribe.Text

/-! ## Expressions -/

/-- **A comparison of a property of a class with a column of a table**, as an expression. -/
def IsComparison (text : String) : Prop :=
  ∃ entity property table column, text = entity ++ "." ++ property ++ " == " ++ table ++ ".c." ++ column ∧
    ∀ name ∈ [entity, property, table, column], CanName name.toList

/-- A text that is one clause, or puts clauses together. -/
def IsConjunction (clauses : List String) (text : String) : Prop :=
  clauses = [text] ∨ text = "and_(" ++ ", ".intercalate clauses ++ ")"

/-- **A condition of some comparisons**, as an expression. -/
def IsCondition (n : Nat) (text : String) : Prop :=
  ∃ clauses : List String, clauses.length = n ∧ (∀ clause ∈ clauses, IsComparison clause) ∧
    IsConjunction clauses text

/-- A text without the characters that stand between the names of a condition. -/
structure Unbroken (s : List Char) : Prop where
  dot : '.' ∉ s
  blank : ' ' ∉ s
  comma : ',' ∉ s
  bracket : '(' ∉ s

theorem unbroken_of_canName {s : List Char} (h : CanName s) : Unbroken s := by
  have hall : ['.', ' ', ',', '('].all (fun c => decide (isNameChar c = false)) = true := by decide +kernel
  have hother : ∀ c ∈ ['.', ' ', ',', '('], isNameChar c = false := by
    simpa only [List.all_eq_true, decide_eq_true_eq] using hall
  exact ⟨h.not_mem (hother _ (by simp)), h.not_mem (hother _ (by simp)), h.not_mem (hother _ (by simp)),
    h.not_mem (hother _ (by simp))⟩

/-! ## Reading comparisons -/

theorem toList_shown (c : JoinClause) : c.shown.toList =
    c.entity.toList ++ '.' :: (c.property.toList ++ ' ' :: '=' :: '=' :: ' ' ::
      (c.table.toList ++ '.' :: 'c' :: '.' :: c.column.toList)) := by
  have hequals : " == ".toList = [' ', '=', '=', ' '] := by decide
  have hcolumns : ".c.".toList = ['.', 'c', '.'] := by decide
  have hdot : ".".toList = ['.'] := by decide
  simp [JoinClause.shown, hequals, hcolumns, hdot]

/-- A comparison is that of a clause whose parts are names. -/
theorem isComparison_iff_exists {text : String} : IsComparison text ↔
    ∃ c : JoinClause, text = c.shown ∧ ∀ name ∈ [c.entity, c.property, c.table, c.column], CanName name.toList :=
  ⟨fun ⟨entity, property, table, column, h⟩ => ⟨⟨entity, property, table, column⟩, h⟩,
    fun ⟨c, h⟩ => ⟨c.entity, c.property, c.table, c.column, h⟩⟩

/-- A table and a column are read off behind a comparison if they are names. -/
theorem append_column_inj {table table' column column' : List Char} (htable : CanName table)
    (hcolumn : CanName column)
    (h : table ++ '.' :: 'c' :: '.' :: column = table' ++ '.' :: 'c' :: '.' :: column') :
    table = table' ∧ column = column' := by
  have htable := (unbroken_of_canName htable).dot
  have hcolumn := (unbroken_of_canName hcolumn).dot
  -- the dots of the names are all the dots there are
  have hcount := congrArg (List.count '.') h
  simp only [List.count_append, List.count_cons_self, List.count_cons_of_ne (show 'c' ≠ '.' by decide),
    List.count_eq_zero.mpr htable, List.count_eq_zero.mpr hcolumn] at hcount
  have hnone : '.' ∉ table' := List.count_eq_zero.mp (by omega)
  obtain ⟨htables, hrest⟩ := append_cons_inj htable hnone h
  exact ⟨htables, (List.cons.inj (List.cons.inj hrest).2).2⟩

/-- **A comparison of a class and a property that are names is one** if and only if the table and the column are
names as well. -/
theorem isComparison_shown_iff {c : JoinClause} (hentity : CanName c.entity.toList)
    (hproperty : CanName c.property.toList) :
    IsComparison c.shown ↔ CanName c.table.toList ∧ CanName c.column.toList := by
  rw [isComparison_iff_exists]
  constructor
  · rintro ⟨c', heq, hnames⟩
    simp only [List.forall_mem_cons] at hnames
    obtain ⟨hentity', hproperty', htable, hcolumn, _⟩ := hnames
    have htext := congrArg String.toList heq
    rw [toList_shown, toList_shown] at htext
    obtain ⟨_, hrest⟩ := append_cons_inj (unbroken_of_canName hentity).dot (unbroken_of_canName hentity').dot htext
    obtain ⟨_, hrest⟩ :=
      append_cons_inj (unbroken_of_canName hproperty).blank (unbroken_of_canName hproperty').blank hrest
    simp only [List.cons.injEq, true_and] at hrest
    obtain ⟨htables, hcolumns⟩ := append_column_inj htable hcolumn hrest.symm
    exact ⟨htables ▸ htable, hcolumns ▸ hcolumn⟩
  · rintro ⟨htable, hcolumn⟩
    refine ⟨c, rfl, ?_⟩
    simp only [List.forall_mem_cons]
    exact ⟨hentity, hproperty, htable, hcolumn, List.forall_mem_nil _⟩

/-! ## Reading conditions -/

theorem IsComparison.not_mem {text : String} (h : IsComparison text) : ',' ∉ text.toList := by
  obtain ⟨c, rfl, hnames⟩ := isComparison_iff_exists.mp h
  have hcomma : ∀ name ∈ [c.entity, c.property, c.table, c.column], ',' ∉ name.toList :=
    fun name hname => (unbroken_of_canName (hnames name hname)).comma
  rw [toList_shown]
  simp [hcomma]

theorem toList_comma : ", ".toList = [',', ' '] := by decide

/-- The commas of a list are those of its items and those between them. -/
theorem count_intercalate (item : String) (rest : List String) :
    (", ".intercalate (item :: rest)).toList.count ',' =
      ((item :: rest).flatMap String.toList).count ',' + rest.length := by
  have hone : List.count ',' [',', ' '] = 1 := by decide
  induction rest generalizing item with
  | nil => simp
  | cons next more ih =>
    rw [String.intercalate_cons_cons, String.toList_append, String.toList_append, List.count_append,
      List.count_append, ih next, toList_comma, hone]
    simp only [List.flatMap_cons, List.count_append, List.length_cons]
    omega

/-- Lists of one length whose items have no commas are told by their texts. -/
theorem intercalate_inj {items items' : List String} (hlength : items.length = items'.length)
    (h : ∀ item ∈ items, ',' ∉ item.toList) (h' : ∀ item ∈ items', ',' ∉ item.toList)
    (heq : ", ".intercalate items = ", ".intercalate items') : items = items' := by
  induction items generalizing items' with
  | nil => exact (List.length_eq_zero_iff.mp hlength.symm).symm
  | cons item rest ih =>
    obtain ⟨item', rest', rfl⟩ := List.exists_cons_of_length_eq_add_one hlength.symm
    obtain ⟨hitem, hrest⟩ := List.forall_mem_cons.mp h
    obtain ⟨hitem', hrest'⟩ := List.forall_mem_cons.mp h'
    have hlength := Nat.succ.inj hlength
    cases rest with
    | nil =>
      rw [List.length_eq_zero_iff.mp hlength.symm] at heq ⊢
      rw [String.intercalate_singleton, String.intercalate_singleton] at heq
      rw [heq]
    | cons next more =>
      obtain ⟨next', more', rfl⟩ := List.exists_cons_of_length_eq_add_one hlength.symm
      rw [String.intercalate_cons_cons, String.intercalate_cons_cons, ← String.toList_inj] at heq
      simp only [String.toList_append, toList_comma, List.append_assoc, List.cons_append, List.nil_append] at heq
      obtain ⟨hfirst, hbehind⟩ := append_cons_inj hitem hitem' heq
      rw [String.toList_inj.mp hfirst, ih hlength hrest hrest' (String.toList_inj.mp (List.cons.inj hbehind).2)]

/-- Texts that are put together are comparisons if they read as as many comparisons. -/
theorem eq_of_intercalate_eq {clauses texts : List String} (hlength : clauses.length = texts.length)
    (h : ∀ clause ∈ clauses, IsComparison clause)
    (heq : ", ".intercalate texts = ", ".intercalate clauses) : texts = clauses := by
  cases clauses with
  | nil => exact List.length_eq_zero_iff.mp hlength.symm
  | cons clause rest =>
    obtain ⟨text, more, rfl⟩ := List.exists_cons_of_length_eq_add_one hlength.symm
    have hnone : ∀ clause' ∈ clause :: rest, ',' ∉ clause'.toList := fun _ hmem => (h _ hmem).not_mem
    -- the separators are all the commas there are
    have hcount := congrArg (fun s => List.count ',' s.toList) heq
    simp only [count_intercalate] at hcount
    have hclauses : ((clause :: rest).flatMap String.toList).count ',' = 0 := by
      refine List.count_eq_zero.mpr fun hcomma => ?_
      obtain ⟨clause', hmem, hcomma⟩ := List.mem_flatMap.mp hcomma
      exact hnone clause' hmem hcomma
    have hlength' : rest.length = more.length := Nat.succ.inj hlength
    have htexts : ((text :: more).flatMap String.toList).count ',' = 0 := by omega
    refine intercalate_inj hlength.symm (fun text' hmem hcomma => ?_) hnone heq
    exact List.count_eq_zero.mp htexts (List.mem_flatMap.mpr ⟨text', hmem, hcomma⟩)

/-- A comparison does not start as a condition of several does. -/
theorem shown_ne_and {c : JoinClause} (hentity : CanName c.entity.toList) {clause : String}
    (h : IsComparison clause) : c.shown ≠ "and_(" ++ clause ++ ")" := by
  obtain ⟨c', rfl, hnames⟩ := isComparison_iff_exists.mp h
  have hunbroken := unbroken_of_canName hentity
  intro heq
  have htext := congrArg String.toList heq
  rw [toList_shown, String.toList_append, String.toList_append, toList_shown, List.append_assoc,
    List.append_assoc, ← List.append_assoc] at htext
  have hfront : '.' ∉ "and_(".toList ++ c'.entity.toList := by
    rw [List.mem_append, not_or]
    exact ⟨by decide, (unbroken_of_canName (hnames _ List.mem_cons_self)).dot⟩
  refine hunbroken.bracket ?_
  rw [(append_cons_inj hunbroken.dot hfront htext).1]
  exact List.mem_append_left _ (by decide)

theorem isConjunction_joinCondition (clauses : List JoinClause) :
    IsConjunction (clauses.map JoinClause.shown) (joinCondition clauses) := by
  unfold joinCondition
  split
  · exact .inl rfl
  · exact .inr rfl

/-- **A condition can be evaluated** if and only if the tables and the columns of its comparisons are names. -/
theorem isCondition_iff {clauses : List JoinClause} (hfilled : clauses ≠ [])
    (h : ∀ c ∈ clauses, CanName c.entity.toList ∧ CanName c.property.toList) :
    IsCondition clauses.length (joinCondition clauses) ↔
      ∀ c ∈ clauses, CanName c.table.toList ∧ CanName c.column.toList := by
  have hiff : (∀ clause ∈ clauses.map JoinClause.shown, IsComparison clause) ↔
      ∀ c ∈ clauses, CanName c.table.toList ∧ CanName c.column.toList := by
    rw [List.forall_mem_map]
    exact forall₂_congr fun c hc => isComparison_shown_iff (h c hc).1 (h c hc).2
  rw [← hiff]
  refine ⟨?_, fun hall => ⟨_, List.length_map _, hall, isConjunction_joinCondition clauses⟩⟩
  rintro ⟨texts, hlength, htexts, hconjunction⟩
  rw [← List.length_map JoinClause.shown] at hlength
  suffices hsame : clauses.map JoinClause.shown = texts by rwa [hsame]
  match clauses with
  | [] => exact absurd rfl hfilled
  | [c] =>
    obtain ⟨text, rfl⟩ := List.length_eq_one_iff.mp hlength
    rcases hconjunction with hone | hand
    · exact hone.symm
    · rw [String.intercalate_singleton] at hand
      have htext := htexts text (List.mem_singleton_self text)
      exact absurd hand (shown_ne_and (h c (List.mem_singleton_self c)).1 htext)
  | c :: next :: more =>
    rcases hconjunction with hone | hand
    · rw [hone] at hlength
      cases hlength
    · refine eq_of_intercalate_eq hlength htexts ?_
      have htext := congrArg String.toList hand
      simp only [joinCondition, String.toList_append, List.append_assoc, List.append_cancel_left_eq,
        List.append_cancel_right_eq] at htext
      exact String.toList_inj.mp htext

/-! ## Conditions of keys -/

/-- **A condition compares an entity with a table over a key** of the table: it has one comparison for each column
pair, of the property of the column that is referred to with the column that refers to it. It can be evaluated if
and only if the table and the columns of the key can name something. -/
structure Compares (e : Entity) (t : Table) (k : ForeignKey) (text : String) : Prop where
  clauses : ∃ clauses, IsConjunction clauses text ∧ List.Forall₂ (fun pair clause => ∃ x ∈ e.columns,
    x.name = pair.2 ∧ clause = e.name ++ "." ++ x.property ++ " == " ++ t.name ++ ".c." ++ pair.1) k.pairs clauses
  isCondition_iff : IsCondition k.columns.length text ↔
    CanName t.name.toList ∧ ∀ column ∈ k.columns, CanName column.toList

theorem pairs_columns (k : ForeignKey) : k.pairs.map (·.1) = k.columns :=
  List.map_fst_zip (Nat.le_of_eq k.length_eq)

/-- The condition over a key compares if the entity and its properties have names. -/
theorem compares_joinCondition {e : Entity} (he : e.WellNamed) {t : Table} {k : ForeignKey}
    (h : Joins t e k.pairs) : Compares e t k (joinCondition (joinClauses e t.name k.pairs)) := by
  have hfound : ∀ pair ∈ k.pairs, ∃ x ∈ e.columns, x.name = pair.2 ∧ e.column? pair.2 = some x := by
    intro pair hpair
    obtain ⟨x, hx, hname⟩ := List.mem_map.mp (h pair hpair).2
    obtain ⟨found, hfound⟩ := Option.isSome_iff_exists.mp
      (List.find?_isSome.mpr ⟨x, hx, decide_eq_true hname⟩ : (e.column? pair.2).isSome = true)
    have hnamed := List.find?_some hfound
    exact ⟨found, List.mem_of_find?_eq_some hfound, of_decide_eq_true hnamed, hfound⟩
  have hcolumns := pairs_columns k
  have hfilled : k.pairs ≠ [] := fun hnone => k.columns_ne (by rw [← hcolumns, hnone]; rfl)
  refine ⟨⟨_, isConjunction_joinCondition _, ?_⟩, ?_⟩
  · unfold joinClauses
    rw [List.map_map, List.forall₂_map_right_iff, List.forall₂_same]
    intro pair hpair
    obtain ⟨x, hx, hname, hcolumn⟩ := hfound pair hpair
    refine ⟨x, hx, hname, ?_⟩
    simp only [Function.comp_apply, hcolumn]
    rfl
  · have hnamed : ∀ c ∈ joinClauses e t.name k.pairs, CanName c.entity.toList ∧ CanName c.property.toList := by
      intro c hc
      obtain ⟨pair, hpair, rfl⟩ := List.mem_map.mp hc
      obtain ⟨x, hx, _, hcolumn⟩ := hfound pair hpair
      have hproperty := he.properties x.property (List.mem_append_left _ (List.mem_map_of_mem hx))
      simp only [hcolumn]
      exact ⟨he.name.canName, hproperty.isName.canName⟩
    have hlength : k.columns.length = (joinClauses e t.name k.pairs).length := by
      rw [← hcolumns, List.length_map, joinClauses, List.length_map]
    have hclauses : joinClauses e t.name k.pairs ≠ [] := fun hnone => hfilled (List.map_eq_nil_iff.mp hnone)
    rw [hlength, isCondition_iff hclauses hnamed, ← hcolumns]
    unfold joinClauses
    rw [List.forall_mem_map, List.forall_mem_map]
    -- the table stands in every comparison, and there is one
    constructor
    · intro hall
      obtain ⟨pair, hpair⟩ := List.exists_mem_of_ne_nil _ hfilled
      exact ⟨(hall pair hpair).1, fun pair hpair => (hall pair hpair).2⟩
    · exact fun ⟨htable, hall⟩ pair hpair => ⟨htable, hall pair hpair⟩

/-! ## Conditions of relationships -/

/-- **A relationship joins an entity with itself** over the keys of a junction: it has a condition for its own side
and one for the other. -/
def SourceUnit.JoinsItself (u : SourceUnit) (e : Entity) (r : Relation) (j : Junction) : Prop :=
  ∃ f ∈ u.relations, f.name = r.name ∧ ∃ table primary secondary rest,
    f.value = some (.call "relationship" (table :: .named "primaryjoin" (.literal primary) ::
      .named "secondaryjoin" (.literal secondary) :: rest)) ∧
    Compares e j.table (if r.owning then j.first else j.second) primary ∧
    Compares e j.table (if r.owning then j.second else j.first) secondary

/-- The arguments of a relationship that leads back through a junction. -/
theorem relationArguments_selfReferential {o : Options} {e : Entity} {r : Relation} (hkind : r.kind = .manyToMany)
    (hself : r.selfReferential = true) : ∃ table rest, relationArguments o e r = table ::
      .named "primaryjoin" (.literal (joinCondition (joinClauses e (r.joinTable.getD "") r.joinColumns))) ::
      .named "secondaryjoin" (.literal (joinCondition (joinClauses e (r.joinTable.getD "") r.inverseJoinColumns))) ::
      rest := by
  unfold relationArguments joinArguments
  dsimp only
  rw [if_pos hkind, if_pos hself]
  exact ⟨_, _, rfl⟩

end SchemaScribe.Render

namespace SchemaScribe

open SchemaScribe.Catalog SchemaScribe.Render SchemaScribe.Text

/-- A relation that leads back to its entity through a join table joins it with a junction on both sides. -/
theorem Built.exists_junction {o : Options} {s : Snapshot} (b : Built o s) (hs : s.Referring) {d : Draft}
    (hd : d ∈ b.drafts) {r : Relation} (hr : r ∈ (b.entity d).relations) (hkind : r.kind = .manyToMany)
    (hself : r.selfReferential = true) : ∃ j ∈ junctions s, r.joinTable = some j.table.name ∧
      r.joinColumns = (if r.owning then j.first else j.second).pairs ∧
      r.inverseJoinColumns = (if r.owning then j.second else j.first).pairs ∧
      Joins j.table (b.entity d) r.joinColumns ∧ Joins j.table (b.entity d) r.inverseJoinColumns := by
  obtain ⟨p, hp, rfl⟩ := List.mem_map.mp hr
  obtain ⟨hlink, hat⟩ := mem_endpoints.mp hp
  rcases b.mem_links (List.mem_of_getElem? hlink) with ⟨_, _, _, _, _, _, hkey⟩ | ⟨j, hj, hjoin⟩
  · have hjoined := (p.link.basis.joinTable_isSome_iff p.side).mpr hkind
    rw [hkey] at hjoined
    cases hjoined
  · obtain ⟨_, _, _, _, _, _, _, _, hbasis⟩ := joinLink_eq_ok hjoin
    have hloop : p.link.owner.table = p.link.other.table := of_decide_eq_true hself
    have hends : ∀ side, (p.link.endAt side).table = d.table.name := by
      intro side
      rw [← hat]
      cases side <;> cases p.side <;> first | rfl | exact hloop | exact hloop.symm
    have hjoins := fun side => b.joins_of_joinLink hs hj hjoin hd (hends side)
    refine ⟨j, hj, ?_, ?_, ?_, hjoins p.side, hjoins p.side.opposite⟩
    · show p.link.basis.joinTable = _
      rw [hbasis]
      rfl
    · show p.link.basis.joinColumns p.side = _
      rw [hbasis]
      cases hside : p.side <;> simp [Endpoint.relation, Link.relation, Basis.joinColumns, hside]
    · show p.link.basis.joinColumns p.side.opposite = _
      rw [hbasis]
      cases hside : p.side <;>
        simp [Endpoint.relation, Link.relation, Basis.joinColumns, Side.opposite, hside]

/-- **The relationships of a built model that join an entity with itself** have conditions over the keys of
their junction, which can be evaluated as far as the junction and its columns can name something. This is
decided for the condition of each side. Relations between two entities, which are written without conditions,
are left open. -/
theorem buildModel_joinsItself {p : Option Options} {o o' : Options} {s s' : Snapshot} {m : Model}
    (hprepared : (s.prepare p).outcome = .ok s') (h : buildModel o s' = .ok m) :
    ∀ e ∈ m.entities, ∃ u, entityUnit m o' e = .ok u ∧
      ∀ r ∈ e.relations, r.kind = .manyToMany → r.selfReferential = true →
        ∃ j ∈ junctions s', r.joinTable = some j.table.name ∧ u.JoinsItself e r j := by
  intro e he
  obtain ⟨targets, htargets⟩ := exists_targets h he
  obtain ⟨b, hentities⟩ := exists_built h
  refine ⟨entityUnitOf m o' e targets, ?_, fun r hr hkind hself => ?_⟩
  · unfold entityUnit
    rw [htargets]
    rfl
  rw [hentities] at he
  obtain ⟨d, hd, rfl⟩ := List.mem_map.mp he
  obtain ⟨j, hj, htable, hcolumns, hinverse, hjoins, hjoinsInverse⟩ :=
    b.exists_junction (referring_of_prepare hprepared) hd hr hkind hself
  obtain ⟨⟨_, target⟩, htarget, rfl⟩ := List.mem_map.mp ((withTargets_relations htargets).1 ▸ hr)
  obtain ⟨table, rest, harguments⟩ := relationArguments_selfReferential (o := o') (e := b.entity d) hkind hself
  refine ⟨j, hj, htable, _, List.mem_map_of_mem htarget, rfl, table, _, _, rest,
    congrArg (fun arguments => some (Code.call "relationship" arguments)) harguments, ?_, ?_⟩
  · rw [htable, hcolumns]
    exact compares_joinCondition (b.entity_wellNamed hd) (hcolumns ▸ hjoins)
  · rw [htable, hinverse]
    exact compares_joinCondition (b.entity_wellNamed hd) (hinverse ▸ hjoinsInverse)

/-- So do those of persons with their friends, whose conditions cannot be evaluated: a name with a dash is a
difference. -/
theorem buildModel_joinsItself_friends :
    ∃ m, (friends.prepare (some {})).outcome.toOption = some friends ∧ buildModel {} friends = .ok m ∧
      ∃ e ∈ m.entities, e.name = "Person" ∧ ∃ u, entityUnit m {} e = .ok u ∧ ∃ r ∈ e.relations,
        ∃ j ∈ junctions friends, u.JoinsItself e r j ∧
          ∀ k text, Compares e j.table k text → ¬ IsCondition k.columns.length text := by
  obtain ⟨m, hm, htest⟩ := exists_ok_of_any (x := buildModel {} friends)
    (p := fun m => m.entities.any fun e => e.name = "Person" ∧
      e.relations.any fun r => r.kind = .manyToMany ∧ r.selfReferential = true ∧ r.joinTable = some "friend-ship")
    (by decide +kernel)
  have hprepared : (friends.prepare (some {})).outcome.toOption = some friends := by decide +kernel
  obtain ⟨e, he, hdecided⟩ := List.any_eq_true.mp htest
  obtain ⟨hname, hrelated⟩ := of_decide_eq_true hdecided
  obtain ⟨r, hr, hdecided⟩ := List.any_eq_true.mp hrelated
  obtain ⟨hkind, hself, htable⟩ := of_decide_eq_true hdecided
  obtain ⟨u, hu, hjoined⟩ := buildModel_joinsItself (toOption_eq_some.mp hprepared) hm e he
  obtain ⟨j, hj, htable', hjoins⟩ := hjoined r hr hkind hself
  refine ⟨m, hprepared, hm, e, he, hname, u, hu, r, hr, j, hj, hjoins, fun k text hcompares hcondition => ?_⟩
  have hnamed := (hcompares.isCondition_iff.mp hcondition).1
  rw [← Option.some.inj (htable.symm.trans htable')] at hnamed
  have hdash : ¬ CanName "friend-ship".toList := by decide +kernel
  exact hdash hnamed

end SchemaScribe
