import SchemaScribe.Catalog.Selection
import SchemaScribe.Proofs.Model.Built
import SchemaScribe.Proofs.Model.Junctions

/-!
# What building fails with

Building announces its failures: a column without a type, a name that cannot be found, a key that strict
relations do not let it drop. One failure is not among them (`BuildError.isAnnounced`): a junction may
lead to a table that has no entity. A table that others refer to is no junction, so the keys of junctions
lead to entities, with one exception, which the test leaves open: a junction may refer to itself.

So building fails unannounced exactly where a junction refers to itself and nothing before the links of
junctions has failed (`buildModel_unannounced_iff`). Checks and selections of tables make no difference:
the law is about every catalog, and a catalog that passes its checks can have such a junction
(`replies_unannounced`).
-/

namespace SchemaScribe

open SchemaScribe.Catalog

/-- Whether a failure is one that building announces. -/
def BuildError.isAnnounced : BuildError → Bool
  | .noEntity _ => false
  | _ => true

/-- Whether a key of a junction refers to the junction. -/
def Junction.refersToItself (j : Junction) : Bool :=
  j.first.referredTable = j.table.name || j.second.referredTable = j.table.name

/-- What is built before the links of junctions: the drafts and the links of their keys. -/
def keyedDrafts (o : Options) (s : Snapshot) : Building (List Draft × List Link) := do
  let named ← nameTables o s.tables.length [] [] (entityTables s)
  let drafts ← typedDrafts o s.schema named
  let fromKeys ← keyLinks o.strictRelations s.schema drafts
  return (drafts, fromKeys)

/-! ## The links of junctions -/

/-- The keys of a junction lead to drafts, except for those that lead to itself. -/
def Junction.Anchored (drafts : List Draft) (j : Junction) : Prop :=
  ∀ k ∈ [j.first, j.second], (draft? drafts k.referredTable).isSome ↔ k.referredTable ≠ j.table.name

theorem draft?_isSome_iff {drafts : List Draft} {table : String} :
    (draft? drafts table).isSome ↔ table ∈ drafts.map (·.table.name) := by
  unfold draft?
  simp only [List.find?_isSome, decide_eq_true_eq, List.mem_map]

theorem joinedDraft_of_anchored {drafts : List Draft} {j : Junction} (h : j.Anchored drafts)
    {k : ForeignKey} (hk : k ∈ [j.first, j.second]) :
    (k.referredTable = j.table.name ∧ joinedDraft drafts k = .error (.noEntity j.table.name)) ∨
      (k.referredTable ≠ j.table.name ∧ ∃ d, joinedDraft drafts k = .ok d) := by
  have hiff := h k hk
  unfold joinedDraft
  cases hdraft : draft? drafts k.referredTable with
  | none =>
    rw [hdraft] at hiff
    have hself : k.referredTable = j.table.name := by
      by_contra hne
      cases hiff.mpr hne
    exact .inl ⟨hself, by rw [hself]⟩
  | some d =>
    rw [hdraft] at hiff
    exact .inr ⟨hiff.mp rfl, d, rfl⟩

/-- The link of a junction fails only where the junction refers to itself. -/
theorem joinLink_of_anchored {drafts : List Draft} {j : Junction} (h : j.Anchored drafts) :
    (j.refersToItself = true ∧ joinLink drafts j = .error (.noEntity j.table.name)) ∨
      (j.refersToItself = false ∧ ∃ l, joinLink drafts j = .ok l) := by
  unfold Junction.refersToItself joinLink
  rcases joinedDraft_of_anchored h List.mem_cons_self with ⟨hself, herror⟩ | ⟨hne, owner, howner⟩
  · rw [herror]
    exact .inl ⟨by simp only [hself, decide_true, Bool.true_or], rfl⟩
  · rw [howner]
    rcases joinedDraft_of_anchored h (List.mem_cons_of_mem _ List.mem_cons_self) with
      ⟨hself, herror⟩ | ⟨hne', other, hother⟩
    · rw [herror]
      exact .inl ⟨by simp only [hself, decide_true, Bool.or_true], rfl⟩
    · rw [hother]
      exact .inr ⟨by simp only [hne, hne', decide_false, Bool.or_self], _, rfl⟩

/-- The links of junctions fail with the first junction that refers to itself. -/
theorem joinLinks_eq_error_iff {drafts : List Draft} {e : BuildError} :
    ∀ {js : List Junction}, (∀ j ∈ js, j.Anchored drafts) →
      (joinLinks drafts js = .error e ↔
        ∃ j, js.find? Junction.refersToItself = some j ∧ e = .noEntity j.table.name)
  | [], _ => by simp only [joinLinks, reduceCtorEq, List.find?_nil, false_and, exists_false]
  | j :: rest, h => by
    have ih := joinLinks_eq_error_iff (e := e) fun j' hj' => h j' (List.mem_cons_of_mem j hj')
    rw [joinLinks]
    rcases joinLink_of_anchored (h j List.mem_cons_self) with ⟨hself, herror⟩ | ⟨hself, l, hlink⟩
    · rw [herror, List.find?_cons_of_pos hself]
      constructor
      · intro heq
        cases heq
        exact ⟨j, rfl, rfl⟩
      · rintro ⟨_, hj, rfl⟩
        cases hj
        rfl
    · rw [hlink, List.find?_cons_of_neg (by rw [hself]; exact Bool.false_ne_true), ← ih]
      show joinLinks drafts rest >>= _ = _ ↔ _
      rw [bind_eq_error]
      constructor
      · rintro (heq | ⟨_, _, heq⟩)
        · exact heq
        · cases heq
      · exact .inl

/-! ## What the stages fail with -/

/-- A stage whose failures are all of a kind. -/
def FailsWith (p : BuildError → Prop) (x : Except BuildError α) : Prop := ∀ e, x = .error e → p e

section

variable {p : BuildError → Prop}

theorem FailsWith.ok (a : α) : FailsWith p (.ok a) := by
  intro _ h
  cases h

theorem FailsWith.error {e : BuildError} (he : p e) : FailsWith p (.error e : Except BuildError α) := by
  intro _ h
  cases h
  exact he

/-- A sequence fails with what its parts fail with. -/
theorem FailsWith.bind {x : Except BuildError α} {f : α → Except BuildError β} (hx : FailsWith p x)
    (hf : ∀ a, FailsWith p (f a)) : FailsWith p (x >>= f) := by
  intro e h
  rcases bind_eq_error.mp h with h | ⟨a, _, h⟩
  · exact hx e h
  · exact hf a e h

theorem nameTables_failsWith (hp : ∀ table, p (.noEntityName table)) (o : Options) (limit : Nat)
    (tables : List Table) (taken : List String) (named : List NamedTable) :
    FailsWith p (nameTables o limit taken named tables).outcome := by
  induction tables generalizing taken named with
  | nil => exact .ok named
  | cons t rest ih =>
    rw [nameTables]
    split
    · exact .error (hp t.name)
    · simp only [Noted.outcome_bind, Noted.outcome_note]
      exact .bind (.ok ()) fun _ => ih _ _

theorem nameColumns_failsWith (hp : ∀ table column, p (.noPropertyName table column)) (o : Options)
    (schema : Option String) (named : List NamedTable) (t : Table) (columns : List Column)
    (taken : List String) : FailsWith p (nameColumns o schema named t taken columns) := by
  induction columns generalizing taken with
  | nil => exact .ok []
  | cons c rest ih =>
    rw [nameColumns]
    split
    · exact ih taken
    · split
      · exact .error (hp t.name c.name)
      · exact .bind (ih _) fun _ => .ok _

theorem draftTables_failsWith (hp : ∀ table column, p (.noPropertyName table column)) (o : Options)
    (schema : Option String) (named tables : List NamedTable) :
    FailsWith p (draftTables o schema named tables).outcome := by
  induction tables with
  | nil => exact .ok []
  | cons t rest ih =>
    rw [draftTables]
    simp only [Noted.outcome_bind, Noted.outcome_note, Noted.outcome_ofExcept]
    refine .bind (.ok ()) fun _ => .bind ?_ fun _ => .bind ih fun _ => .ok _
    exact nameColumns_failsWith hp o schema named t.table t.table.columns []

theorem typedDrafts_failsWith (hp : ∀ table column, p (.noPropertyName table column))
    (hp' : ∀ columns, p (.unsupportedTypes columns)) (o : Options) (schema : Option String)
    (named : List NamedTable) : FailsWith p (typedDrafts o schema named).outcome := by
  rw [typedDrafts, Noted.outcome_bind]
  refine .bind (draftTables_failsWith hp o schema named named) fun drafts => ?_
  split
  · exact .ok drafts
  · exact .error (hp' _)

theorem keyLinks_failsWith (hp : ∀ key, p (.droppedKey key)) (strict : Bool) (schema : Option String)
    (drafts : List Draft) : FailsWith p (keyLinks strict schema drafts).outcome := by
  unfold keyLinks
  dsimp only
  split
  · exact .ok _
  · split
    · exact .error (hp _)
    · exact .ok _

theorem joinedDraft_failsWith (hp : ∀ table, p (.noEntity table)) (drafts : List Draft)
    (k : ForeignKey) : FailsWith p (joinedDraft drafts k) := by
  unfold joinedDraft
  split
  · exact .ok _
  · exact .error (hp k.referredTable)

theorem joinLinks_failsWith (hp : ∀ table, p (.noEntity table)) (drafts : List Draft)
    (js : List Junction) : FailsWith p (joinLinks drafts js) := by
  induction js with
  | nil => exact .ok []
  | cons j rest ih =>
    refine .bind ?_ fun _ => .bind ih fun _ => .ok _
    exact .bind (joinedDraft_failsWith hp drafts j.first) fun _ =>
      .bind (joinedDraft_failsWith hp drafts j.second) fun _ => .ok _

theorem nameEnds_failsWith (hp : ∀ entity candidate attempts, p (.noRelationName entity candidate attempts))
    (o : Options) (entity : String) (limit : Nat) (ends : List Endpoint) (taken : List String) :
    FailsWith p (nameEnds o entity limit taken ends) := by
  induction ends generalizing taken with
  | nil => exact .ok []
  | cons e rest ih =>
    rw [nameEnds]
    split
    · exact .error (hp entity (e.candidate o) limit)
    · exact .bind (ih _) fun _ => .ok _

/-- What follows the links of junctions. -/
theorem finish_failsWith (hp : ∀ entity candidate attempts, p (.noRelationName entity candidate attempts))
    (o : Options) (s : Snapshot) (drafts : List Draft) (links : List Link) :
    FailsWith p (allEndNames o links drafts >>= fun names =>
      .ok (drafts.map (Draft.finish o s.schema drafts links names))) := by
  have hnames : ∀ drafts, FailsWith p (allEndNames o links drafts) := by
    intro drafts
    induction drafts with
    | nil => exact .ok []
    | cons d rest ih => exact .bind (nameEnds_failsWith hp o _ _ _ _) fun _ => .bind ih fun _ => .ok _
  exact .bind (hnames drafts) fun _ => .ok _

end

/-- What comes before the links of junctions announces its failures. -/
theorem keyedDrafts_announces (o : Options) (s : Snapshot) :
    FailsWith (fun e => e.isAnnounced = true) (keyedDrafts o s).outcome := by
  unfold keyedDrafts
  simp only [Noted.outcome_bind]
  refine .bind (nameTables_failsWith (fun _ => rfl) o _ _ _ _) fun named => ?_
  refine .bind (typedDrafts_failsWith (fun _ _ => rfl) (fun _ => rfl) o s.schema named) fun drafts => ?_
  exact .bind (keyLinks_failsWith (fun _ => rfl) o.strictRelations s.schema drafts) fun _ => .ok _

/-- So does what comes behind them. -/
theorem finish_announces (o : Options) (s : Snapshot) (drafts : List Draft) (links : List Link) :
    FailsWith (fun e => e.isAnnounced = true) (allEndNames o links drafts >>= fun names =>
      .ok (drafts.map (Draft.finish o s.schema drafts links names))) :=
  finish_failsWith (fun _ _ _ => rfl) o s drafts links

/-! ## The law -/

/-- The drafts before the links of junctions are those of the tables that become entities. -/
theorem keyedDrafts_anchored {o : Options} {s : Snapshot} {drafts : List Draft} {fromKeys : List Link}
    (h : (keyedDrafts o s).outcome = .ok (drafts, fromKeys)) :
    ∀ j ∈ junctions s, j.Anchored drafts := by
  unfold keyedDrafts at h
  simp only [Noted.outcome_bind] at h
  obtain ⟨named, hnamed, h⟩ := bind_eq_ok.mp h
  obtain ⟨drafts', hdrafts, h⟩ := bind_eq_ok.mp h
  obtain ⟨links, _, h⟩ := bind_eq_ok.mp h
  cases h
  have htables := (draftTables_eq_ok (typedDrafts_eq_ok hdrafts)).1
  intro j hj k hk
  rw [draft?_isSome_iff, ← Junction.mem_entityTables_iff hj hk]
  have hnames := mem_names_nameTables (x := k.referredTable) hnamed
  simp only [← htables, List.map_map, List.map_nil, List.not_mem_nil, false_or] at hnames
  exact hnames

theorem buildEntities_outcome (o : Options) (s : Snapshot) :
    (buildEntities o s).outcome = (keyedDrafts o s).outcome >>= fun (drafts, fromKeys) =>
      joinLinks drafts (junctions s) >>= fun fromJunctions =>
        allEndNames o (fromKeys ++ fromJunctions) drafts >>= fun names =>
          .ok (drafts.map (Draft.finish o s.schema drafts (fromKeys ++ fromJunctions) names)) := by
  unfold buildEntities keyedDrafts
  simp only [Noted.outcome_bind, Noted.outcome_ofExcept, Noted.outcome_pure, bind_assoc]
  rfl

theorem buildModel_eq_error_iff {o : Options} {s : Snapshot} {e : BuildError} :
    buildModel o s = .error e ↔ (buildEntities o s).outcome = .error e := by
  unfold buildModel
  rw [bind_eq_error]
  constructor
  · rintro (h | ⟨_, _, h⟩)
    · exact h
    · cases h
  · exact .inl

/-- **Building fails unannounced exactly where a junction refers to itself**, unless something before the links
of junctions has failed, and it fails with the first such junction. This is decided for every catalog and all
options, with no checks before it. Whether building fails in one of the announced ways is left open. -/
theorem buildModel_unannounced_iff (o : Options) (s : Snapshot) (e : BuildError) :
    buildModel o s = .error e ∧ e.isAnnounced = false ↔
      (keyedDrafts o s).outcome.isOk = true ∧
        ∃ j, (junctions s).find? Junction.refersToItself = some j ∧ e = .noEntity j.table.name := by
  rw [buildModel_eq_error_iff, buildEntities_outcome]
  cases hkeyed : (keyedDrafts o s).outcome with
  | error e' =>
    refine ⟨fun ⟨h, he⟩ => ?_, fun ⟨h, _⟩ => ?_⟩
    · cases h
      rw [keyedDrafts_announces o s e hkeyed] at he
      cases he
    · cases h
  | ok keyed =>
    obtain ⟨drafts, fromKeys⟩ := keyed
    have hjoin := joinLinks_eq_error_iff (e := e) (keyedDrafts_anchored hkeyed)
    show joinLinks drafts (junctions s) >>= _ = _ ∧ _ ↔ _
    rw [bind_eq_error, hjoin]
    constructor
    · rintro ⟨h | ⟨_, _, h⟩, he⟩
      · exact ⟨rfl, h⟩
      · rw [finish_announces o s drafts _ e h] at he
        cases he
    · rintro ⟨_, j, hj, rfl⟩
      exact ⟨.inl ⟨j, hj, rfl⟩, rfl⟩

/-- A catalog that passes its checks can have a junction that refers to itself, and then has no model. -/
theorem replies_unannounced :
    (replies.prepare (some {})).outcome.toOption = some replies ∧
      buildModel {} replies = .error (.noEntity "reply") := by
  refine ⟨by decide +kernel, ?_⟩
  have hjunction : ((junctions replies).find? Junction.refersToItself).map (·.table.name) =
      some "reply" := by decide +kernel
  obtain ⟨j, hj, hname⟩ := Option.map_eq_some_iff.mp hjunction
  have hkeyed : (keyedDrafts {} replies).outcome.isOk = true := by decide +kernel
  exact ((buildModel_unannounced_iff {} replies (.noEntity "reply")).mpr
    ⟨hkeyed, j, hj, by rw [hname]⟩).1

end SchemaScribe
