import SchemaScribe.Proofs.Model.Ends
import SchemaScribe.Proofs.Model.Junctions

/-!
# What a built model went through

A model that was built is what its stages made of the catalog, one after another (`Built`): tables were
named, drafted and linked, and the ends of the links were named. Each stage keeps what the earlier ones
established; here their laws are put together for the stages of one run. Laws about a model start from
`exists_built` and speak of the drafts and links behind its entities and relations.
-/

namespace SchemaScribe

open SchemaScribe.Catalog SchemaScribe.Document

/-- **The stages of a run that built a model**, each with what it made of the stages before. -/
structure Built (o : Options) (s : Snapshot) where
  named : List NamedTable
  drafts : List Draft
  fromKeys : List Link
  fromJunctions : List Link
  names : EndNames
  named_eq : (nameTables o s.tables.length [] [] (entityTables s)).outcome = .ok named
  drafts_eq : (typedDrafts o s.schema named).outcome = .ok drafts
  fromKeys_eq : (keyLinks o.strictRelations s.schema drafts).outcome = .ok fromKeys
  fromJunctions_eq : joinLinks drafts (junctions s) = .ok fromJunctions
  names_eq : allEndNames o (fromKeys ++ fromJunctions) drafts = .ok names

namespace Built

variable {o : Options} {s : Snapshot} (b : Built o s)

/-- All links. -/
def links : List Link := b.fromKeys ++ b.fromJunctions

/-- The entity of a draft of the run. -/
def entity (d : Draft) : Entity := d.finish o s.schema b.drafts b.links b.names

/-! ## Tables and entities -/

theorem entity_mem {m : Model} (hentities : m.entities = b.drafts.map b.entity) {d : Draft}
    (hd : d ∈ b.drafts) : b.entity d ∈ m.entities := by
  rw [hentities]
  exact List.mem_map_of_mem hd

theorem drafts_named :
    b.drafts.map (·.toNamedTable) = b.named ∧
      ∀ d ∈ b.drafts, nameColumns o s.schema b.named d.table [] d.table.columns = .ok d.columns :=
  draftTables_eq_ok (typedDrafts_eq_ok b.drafts_eq)

theorem housed : ∃ taken, Housed o taken b.named := nameTables_housed (Housed.nil o []) b.named_eq

theorem tables_nodup : (b.drafts.map (·.table.name)).Nodup := by
  obtain ⟨_, h⟩ := b.housed
  have ht := h.tables
  rw [← b.drafts_named.1, List.map_map] at ht
  exact ht

theorem entity_isName {d : Draft} (hd : d ∈ b.drafts) : IsName d.entity := by
  obtain ⟨_, h⟩ := b.housed
  refine h.names d.toNamedTable ?_
  rw [← b.drafts_named.1]
  exact List.mem_map_of_mem hd

/-- No two drafts have a class name or a module in common. -/
theorem disjoined : b.drafts.Pairwise fun d d' => Disjoined o d.entity d'.entity := by
  obtain ⟨_, h⟩ := b.housed
  have hd := h.disjoined
  rw [← b.drafts_named.1] at hd
  rw [List.pairwise_map] at hd
  exact hd

theorem entities_nodup : (b.drafts.map (·.entity)).Nodup := by
  refine List.pairwise_map.mpr (b.disjoined.imp fun {d d'} h heq => ?_)
  exact h d.entity List.mem_cons_self (heq ▸ List.mem_cons_self)

/-- A table has one draft. -/
theorem eq_of_table {d d' : Draft} (hd : d ∈ b.drafts) (hd' : d' ∈ b.drafts)
    (h : d.table.name = d'.table.name) : d = d' :=
  List.inj_on_of_nodup_map b.tables_nodup hd hd' h

/-- A draft is of a table of the catalog. -/
theorem table_mem {d : Draft} (hd : d ∈ b.drafts) : d.table ∈ s.tables := by
  have hnamed : d.toNamedTable ∈ b.named := b.drafts_named.1 ▸ List.mem_map_of_mem hd
  rcases mem_nameTables hnamed b.named_eq with h | h
  · cases h
  · exact (mem_entityTables.mp h).1

/-- A named table has a draft. -/
theorem exists_draft {t : NamedTable} (ht : t ∈ b.named) : ∃ d ∈ b.drafts, d.toNamedTable = t := by
  rw [← b.drafts_named.1] at ht
  exact List.mem_map.mp ht

/-! ## Columns, links and names -/

/-- A draft has the columns of its table. -/
theorem columns_names {d : Draft} (hd : d ∈ b.drafts) :
    d.columns.map (·.name) = d.table.columnNames := by
  have hnamed : d.toNamedTable ∈ b.named := b.drafts_named.1 ▸ List.mem_map_of_mem hd
  exact nameColumns_names (typedDrafts_typed b.drafts_eq d.toNamedTable hnamed)
    (b.drafts_named.2 d hd)

theorem columns_givenInTurn {d : Draft} (hd : d ∈ b.drafts) :
    GivenInTurn [] (d.columns.map (·.property)) :=
  nameColumns_givenInTurn .nil (b.drafts_named.2 d hd)

theorem columns_nodup {d : Draft} (hd : d ∈ b.drafts) : (d.columns.map (·.property)).Nodup :=
  (b.columns_givenInTurn hd).nodup

/-- Every link is that of a key of a draft to a draft, or that of a junction. -/
theorem mem_links {l : Link} : l ∈ b.links →
    (∃ d ∈ b.drafts, ∃ k ∈ d.table.distinctKeys, ∃ target,
      targetDraft? s.schema b.drafts k = some target ∧ l = keyLink d target k) ∨
    ∃ j ∈ junctions s, joinLink b.drafts j = .ok l := by
  intro hl
  rcases List.mem_append.mp hl with hl | hl
  · rw [keyLinks_eq_ok b.fromKeys_eq] at hl
    exact .inl (mem_linksOf_traceKeys.mp hl)
  · exact .inr (mem_joinLinks b.fromJunctions_eq hl)

theorem links_attached : ∀ l ∈ b.links, l.Attached b.drafts := by
  intro l hl
  rcases List.mem_append.mp hl with hl | hl
  · exact keyLinks_attached b.fromKeys_eq l hl
  · exact joinLinks_attached b.fromJunctions_eq l hl

theorem names_nodup : (b.names.map (·.1)).Nodup := by
  rw [allEndNames_keys (fun _ hd => b.columns_nodup hd) b.names_eq]
  exact draftKeys_nodup b.tables_nodup

/-- The ends at a draft have names, which were given behind those of its columns. -/
theorem ends_named {d : Draft} (hd : d ∈ b.drafts) :
    (∀ e ∈ endpoints b.links d.table.name, ∃ name, entryAt? e.key b.names = some name) ∧
      GivenInTurn (d.columns.map (·.property)) ((b.entity d).relations.map (·.name)) := by
  obtain ⟨own, hown, hsub⟩ := allEndNames_eq_ok b.names_eq d hd
  obtain ⟨hkeys, hgiven⟩ := endNames_givenInTurn (b.columns_nodup hd) hown
  constructor
  · intro e he
    have hkey : e.key ∈ own.map (·.1) := by
      rw [hkeys]
      exact List.mem_map_of_mem he
    obtain ⟨p, hp, hpk⟩ := List.mem_map.mp hkey
    exact ⟨p.2, hpk ▸ entryAt?_of_mem b.names_nodup (hsub hp)⟩
  · have hnames := relation_names b.names_nodup hsub hkeys
    show GivenInTurn _ (((endpoints b.links d.table.name).map _).map _)
    rw [List.map_map]
    exact hnames.symm ▸ hgiven

end Built

/-- **A built model has a run behind it**: its entities are the finished drafts of this run. Laws about models
are proved about the drafts and links of such a run. -/
theorem exists_built {o : Options} {s : Snapshot} {m : Model} (h : buildModel o s = .ok m) :
    ∃ b : Built o s, m.entities = b.drafts.map b.entity := by
  obtain ⟨entities, hentities, hm⟩ := bind_eq_ok.mp h
  cases hm
  unfold buildEntities at hentities
  simp only [Noted.outcome_bind, Noted.outcome_ofExcept] at hentities
  obtain ⟨named, hnamed, hrun⟩ := bind_eq_ok.mp hentities
  obtain ⟨drafts, hdrafts, hrun⟩ := bind_eq_ok.mp hrun
  obtain ⟨fromKeys, hkeys, hrun⟩ := bind_eq_ok.mp hrun
  obtain ⟨fromJunctions, hjunctions, hrun⟩ := bind_eq_ok.mp hrun
  obtain ⟨names, hnames, hrun⟩ := bind_eq_ok.mp hrun
  cases hrun
  exact ⟨⟨named, drafts, fromKeys, fromJunctions, names, hnamed, hdrafts, hkeys, hjunctions, hnames⟩,
    rfl⟩

theorem junctionTables_eq {o : Options} {s : Snapshot} {m : Model} (h : buildModel o s = .ok m) :
    m.junctionTables = sortedNames ((junctions s).map (·.table.name)) := by
  obtain ⟨_, _, hm⟩ := bind_eq_ok.mp h
  cases hm
  rfl

/-! ## Small catalogs -/

/-- People with their managers and acquaintances, and a table that differs from theirs in case only. -/
def staff : Snapshot where
  tables := [
    { name := "person"
      columns := [
        { name := "id", dataType := "integer", nullable := false },
        { name := "manager_id", dataType := "integer" },
        { name := "metadata", dataType := "text" }]
      primaryKey := ["id"]
      foreignKeys := [
        { table := "person", columns := ["manager_id"], referredTable := "person",
          referredColumns := ["id"] }] },
    { name := "Person"
      columns := [{ name := "class", dataType := "integer", nullable := false }]
      primaryKey := ["class"]
      foreignKeys := [
        { table := "Person", columns := ["class"], referredTable := "person",
          referredColumns := ["id"] }] },
    { name := "acquaintance"
      columns := [
        { name := "person_id", dataType := "integer", nullable := false },
        { name := "friend_id", dataType := "integer", nullable := false }]
      primaryKey := ["person_id", "friend_id"]
      foreignKeys := [
        { table := "acquaintance", columns := ["person_id"], referredTable := "person",
          referredColumns := ["id"] },
        { table := "acquaintance", columns := ["friend_id"], referredTable := "person",
          referredColumns := ["id"] }] }]

/-- The properties of the two entities that the staff becomes. -/
def staffProperties : List (List String) := [
  ["id", "manager_id", "metadata_", "manager", "people", "person2", "friends", "people2"],
  ["class_", "person"]]

/-- The model of the staff: a class name and a relation had to be numbered, a reserved attribute and a
keyword to be avoided, and one entity is at both ends of two links. -/
theorem exists_staffModel :
    ∃ m, buildModel {} staff = .ok m ∧ m.entities.map (·.name) = ["Person", "Person2"] ∧
      m.entities.map (·.propertyNames) = staffProperties ∧ m.relationCount = 6 := by
  obtain ⟨m, hm, hmodel⟩ := exists_ok_of_any (x := buildModel {} staff)
    (p := fun m => m.entities.map (·.name) = ["Person", "Person2"] ∧
      m.entities.map (·.propertyNames) = staffProperties ∧ m.relationCount = 6)
    (by decide +kernel)
  exact ⟨m, hm, of_decide_eq_true hmodel⟩

/-- Replies by users, keyed by the reply that they answer, which is one of them, and their author. -/
def replies : Snapshot where
  tables := [
    { name := "users"
      columns := [{ name := "id", dataType := "integer", nullable := false }]
      primaryKey := ["id"] },
    { name := "reply"
      columns := [
        { name := "parent_id", dataType := "integer", nullable := false },
        { name := "author_id", dataType := "integer", nullable := false }]
      primaryKey := ["parent_id", "author_id"]
      foreignKeys := [
        { table := "reply", columns := ["parent_id"], referredTable := "reply",
          referredColumns := ["parent_id"] },
        { table := "reply", columns := ["author_id"], referredTable := "users",
          referredColumns := ["id"] }] }]

/-- Guests, hosts and rooms of their houses. A badge is of a guest, whose number is its own, and its owner
is both a guest and a host; a stay is in a room. -/
def lodging : Snapshot where
  tables := [
    { name := "guest"
      columns := [{ name := "id", dataType := "integer", nullable := false }]
      primaryKey := ["id"] },
    { name := "host"
      columns := [{ name := "id", dataType := "integer", nullable := false }]
      primaryKey := ["id"] },
    { name := "room"
      columns := [
        { name := "house", dataType := "integer", nullable := false },
        { name := "number", dataType := "integer", nullable := false }]
      primaryKey := ["house", "number"] },
    { name := "badge"
      columns := [
        { name := "id", dataType := "integer", nullable := false, generated := true },
        { name := "owner_id", dataType := "integer" }]
      primaryKey := ["id"]
      foreignKeys := [
        { table := "badge", columns := ["id"], referredTable := "guest", referredColumns := ["id"] },
        { table := "badge", columns := ["owner_id"], referredTable := "guest",
          referredColumns := ["id"] },
        { table := "badge", columns := ["owner_id"], referredTable := "host",
          referredColumns := ["id"] }] },
    { name := "stay"
      columns := [
        { name := "day", dataType := "integer", nullable := false },
        { name := "house", dataType := "integer" },
        { name := "number", dataType := "integer" }]
      primaryKey := ["day"]
      foreignKeys := [
        { table := "stay", columns := ["house", "number"], referredTable := "room",
          referredColumns := ["house", "number"] }] }]

/-- Orders of goods by users, of whom there are others in the schema `audit`. Each key of an order stands
beside one over the same column to the users of the other schema, once in front of it and once behind. -/
def market : Snapshot where
  tables := [
    { name := "users"
      columns := [{ name := "id", dataType := "integer", nullable := false }]
      primaryKey := ["id"] },
    { name := "goods"
      columns := [{ name := "id", dataType := "integer", nullable := false }]
      primaryKey := ["id"] },
    { name := "orders"
      columns := [
        { name := "id", dataType := "integer", nullable := false },
        { name := "auditor_id", dataType := "integer" },
        { name := "buyer_id", dataType := "integer" }]
      primaryKey := ["id"]
      foreignKeys := [
        { table := "orders", columns := ["auditor_id"], referredTable := "users",
          referredSchema := some "audit", referredColumns := ["id"] },
        { table := "orders", columns := ["auditor_id"], referredTable := "users",
          referredColumns := ["id"] },
        { table := "orders", columns := ["buyer_id"], referredTable := "users",
          referredColumns := ["id"] },
        { table := "orders", columns := ["buyer_id"], referredTable := "users",
          referredSchema := some "audit", referredColumns := ["id"] }] },
    { name := "basket"
      columns := [
        { name := "order_id", dataType := "integer", nullable := false },
        { name := "goods_id", dataType := "integer", nullable := false }]
      primaryKey := ["order_id", "goods_id"]
      foreignKeys := [
        { table := "basket", columns := ["order_id"], referredTable := "orders",
          referredColumns := ["id"] },
        { table := "basket", columns := ["goods_id"], referredTable := "goods",
          referredColumns := ["id"] }] }]

/-- Notes with quotes in their names and comments, and paths that end in backslashes. -/
def quoting : Snapshot where
  tables := [
    { name := "note\"\"\"s"
      columns := [{ name := "id", dataType := "integer", nullable := false }]
      primaryKey := ["id"]
      comment := some "What \"people\" call \"notes\"" },
    { name := "path"
      columns := [{ name := "id", dataType := "integer", nullable := false }]
      primaryKey := ["id"]
      comment := some "Below C:\\" },
    { name := "title"
      columns := [{ name := "id", dataType := "integer", nullable := false }]
      primaryKey := ["id"]
      comment := some "Ends in \\\"" }]

/-- Notices with a text and a day, whose status starts as a default. -/
def notices : Snapshot where
  tables := [
    { name := "notice"
      columns := [
        { name := "id", dataType := "integer", nullable := false },
        { name := "text", dataType := "text", nullable := false },
        { name := "date", dataType := "date", nullable := false },
        { name := "status", dataType := "varchar", nullable := false, default := some "'new'" }]
      primaryKey := ["id"] }]

/-- Notes by persons, over a column that is not there. Its name has double quotes in it, with the name of a
type between them. -/
def stray : Snapshot where
  tables := [
    { name := "person"
      columns := [{ name := "id", dataType := "integer", nullable := false }]
      primaryKey := ["id"] },
    { name := "note"
      columns := [{ name := "id", dataType := "integer", nullable := false }]
      primaryKey := ["id"]
      foreignKeys := [
        { table := "note", columns := ["x\", Text, \""], referredTable := "person",
          referredColumns := ["id"] }] }]

/-- Members with a nickname that they need not have, and a log without a primary key. -/
def logbook : Snapshot where
  tables := [
    { name := "member"
      columns := [
        { name := "id", dataType := "integer", nullable := false, generated := true },
        { name := "nickname", dataType := "varchar" }]
      primaryKey := ["id"] },
    { name := "log"
      columns := [
        { name := "at", dataType := "datetime" },
        { name := "message", dataType := "text", nullable := false }] }]

/-- Plots of land and the marks on them. A plot has an owner in another schema, and the columns that join
plots and marks have no type either. -/
def survey : Snapshot where
  tables := [
    { name := "plot"
      columns := [
        { name := "id", dataType := "integer", nullable := false },
        { name := "outline", dataType := "geometry" },
        { name := "owner_id", dataType := "integer" },
        { name := "center", dataType := "Point" }]
      primaryKey := ["id"]
      foreignKeys := [
        { table := "plot", columns := ["owner_id"], referredTable := "owner",
          referredSchema := some "registry", referredColumns := ["id"] }] },
    { name := "plot_mark"
      columns := [
        { name := "plot_id", dataType := "geometry", nullable := false },
        { name := "mark_id", dataType := "geometry", nullable := false }]
      primaryKey := ["plot_id", "mark_id"]
      foreignKeys := [
        { table := "plot_mark", columns := ["plot_id"], referredTable := "plot",
          referredColumns := ["id"] },
        { table := "plot_mark", columns := ["mark_id"], referredTable := "mark",
          referredColumns := ["id"] }] },
    { name := "mark"
      columns := [
        { name := "id", dataType := "integer", nullable := false },
        { name := "spot", dataType := "POINT(2)", nullable := false },
        { name := "extent", dataType := "geometry" }]
      primaryKey := ["id"] }]

/-- Persons in clubs, and bills to members of a club. -/
def clubs : Snapshot where
  tables := [
    { name := "person"
      columns := [{ name := "id", dataType := "integer", nullable := false }]
      primaryKey := ["id"] },
    { name := "club"
      columns := [{ name := "id", dataType := "integer", nullable := false }]
      primaryKey := ["id"] },
    { name := "member"
      columns := [
        { name := "person_id", dataType := "integer", nullable := false },
        { name := "club_id", dataType := "integer", nullable := false }]
      primaryKey := ["person_id", "club_id"]
      foreignKeys := [
        { table := "member", columns := ["person_id"], referredTable := "person",
          referredColumns := ["id"] },
        { table := "member", columns := ["club_id"], referredTable := "club",
          referredColumns := ["id"] }] },
    { name := "visitor"
      columns := [
        { name := "person_id", dataType := "integer", nullable := false },
        { name := "club_id", dataType := "integer", nullable := false }]
      primaryKey := ["person_id", "club_id"]
      foreignKeys := [
        { table := "visitor", columns := ["person_id"], referredTable := "person",
          referredColumns := ["id"] },
        { table := "visitor", columns := ["club_id"], referredTable := "club",
          referredColumns := ["id"] }] },
    { name := "bill"
      columns := [
        { name := "id", dataType := "integer", nullable := false },
        { name := "member_id", dataType := "integer" },
        { name := "member_club", dataType := "integer" }]
      primaryKey := ["id"]
      foreignKeys := [
        { table := "bill", columns := ["member_id", "member_club"], referredTable := "member",
          referredColumns := ["person_id", "club_id"] }] }]

/-- Lines between stations, with a column whose name reads like a list of two others. -/
def railway : Snapshot where
  tables := [
    { name := "station"
      columns := [
        { name := "x", dataType := "integer", nullable := false },
        { name := "y", dataType := "integer", nullable := false },
        { name := "x,y", dataType := "integer", nullable := false }]
      primaryKey := ["x", "y"] },
    { name := "line"
      columns := [
        { name := "id", dataType := "integer", nullable := false },
        { name := "a", dataType := "integer" },
        { name := "b", dataType := "integer" },
        { name := "a,b", dataType := "integer" }]
      primaryKey := ["id"]
      foreignKeys := [
        { table := "line", columns := ["a", "b"], referredTable := "station",
          referredColumns := ["x", "y"] },
        { table := "line", columns := ["a,b"], referredTable := "station",
          referredColumns := ["x,y"] }] }]

/-- A table whose name is a letter and some digits. -/
def lettered (digits : String) : Table where
  name := "c" ++ digits
  columns := [{ name := "id", dataType := "integer", nullable := false }]
  primaryKey := ["id"]
  name_ne := by simp

/-- Twenty tables. Where the input suffix is `1`, the first one is in the way of `C` and `C11`, and `c21` is in
that of `C2` and `C21`, so there is nothing left for the last one. -/
def crowd : Snapshot where
  tables := ["1", "3", "4", "5", "6", "7", "8", "9", "10", "12", "13", "14", "15", "16", "17", "18", "19",
    "20", "21", ""].map lettered

/-- One table less of the crowd. -/
def smallCrowd : Snapshot := { crowd with tables := crowd.tables.filter (·.name ≠ "c20") }

/-- A table that joins students and courses. -/
def attendance (name : String) (h : name ≠ "") : Table where
  name := name
  name_ne := h
  columns := [
    { name := "student_id", dataType := "integer", nullable := false },
    { name := "course_id", dataType := "integer", nullable := false }]
  primaryKey := ["student_id", "course_id"]
  foreignKeys := [
    { table := name, table_ne := h, columns := ["student_id"], referredTable := "student",
      referredColumns := ["id"] },
    { table := name, table_ne := h, columns := ["course_id"], referredTable := "course",
      referredColumns := ["id"] }]

/-- Students and the courses they hear and have heard, in tables whose names are told apart by one separator. -/
def school : Snapshot where
  tables := [
    { name := "student"
      columns := [{ name := "id", dataType := "integer", nullable := false }]
      primaryKey := ["id"] },
    { name := "course"
      columns := [{ name := "id", dataType := "integer", nullable := false }]
      primaryKey := ["id"] },
    attendance "heard-in" (by decide), attendance "heard_in" (by decide)]

/-- Drawers, one of them numbered, and a cupboard with a configuration. -/
def cupboards : Snapshot where
  tables := [
    { name := "drawer"
      columns := [
        { name := "id", dataType := "integer", nullable := false, generated := true },
        { name := "1a", dataType := "varchar", nullable := false },
        { name := "field_1a", dataType := "varchar", nullable := false },
        { name := "created_at", dataType := "datetime" }]
      primaryKey := ["id"] },
    { name := "cupboard"
      columns := [
        { name := "2nd", dataType := "integer", nullable := false },
        { name := "model_config", dataType := "text" }]
      primaryKey := ["2nd"] }]

/-- Rooms of houses. A stay is in a house, and need not have a room yet; a visit may be to a room, and a key opens
one. -/
def houses : Snapshot where
  tables := [
    { name := "room"
      columns := [
        { name := "house", dataType := "integer", nullable := false },
        { name := "number", dataType := "integer", nullable := false }]
      primaryKey := ["house", "number"] },
    { name := "stay"
      columns := [
        { name := "id", dataType := "integer", nullable := false },
        { name := "house", dataType := "integer", nullable := false },
        { name := "number", dataType := "integer" }]
      primaryKey := ["id"]
      foreignKeys := [
        { table := "stay", columns := ["house", "number"], referredTable := "room",
          referredColumns := ["house", "number"] }] },
    { name := "visit"
      columns := [
        { name := "id", dataType := "integer", nullable := false },
        { name := "house", dataType := "integer" },
        { name := "number", dataType := "integer" }]
      primaryKey := ["id"]
      foreignKeys := [
        { table := "visit", columns := ["house", "number"], referredTable := "room",
          referredColumns := ["house", "number"] }] },
    { name := "opener"
      columns := [
        { name := "id", dataType := "integer", nullable := false },
        { name := "house", dataType := "integer", nullable := false },
        { name := "number", dataType := "integer", nullable := false }]
      primaryKey := ["id"]
      foreignKeys := [
        { table := "opener", columns := ["house", "number"], referredTable := "room",
          referredColumns := ["house", "number"] }] }]

/-- Persons and their friends, in a junction whose name is no name of the language. -/
def friends : Snapshot where
  tables := [
    { name := "person"
      columns := [{ name := "id", dataType := "integer", nullable := false }]
      primaryKey := ["id"] },
    { name := "friend-ship"
      columns := [
        { name := "person_id", dataType := "integer", nullable := false },
        { name := "friend_id", dataType := "integer", nullable := false }]
      primaryKey := ["person_id", "friend_id"]
      foreignKeys := [
        { table := "friend-ship", columns := ["person_id"], referredTable := "person", referredColumns := ["id"] },
        { table := "friend-ship", columns := ["friend_id"], referredTable := "person", referredColumns := ["id"] }] }]

/-- A lone surrogate, and a character for it. -/
def hushed : Text.StandIn := ⟨'\uf000', ⟨0xd800, by decide, by decide⟩, by decide⟩

/-- Guests, in a table that has the lone surrogate for a comment. -/
def garbled : Snapshot where
  tables := [
    { name := "guest"
      columns := [{ name := "id", dataType := "integer", nullable := false }]
      primaryKey := ["id"]
      comment := some "\uf000"
      standIns := [hushed] }]

end SchemaScribe
