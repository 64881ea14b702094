import SchemaScribe.Proofs.Model.Accounts
import SchemaScribe.Proofs.Text.Parts

/-!
# Which pair a constraint key tells

Both relations of a pair carry the text of what they come from: for a key, the tables and columns at its two
ends; for a junction, its name in front of the texts of both its keys. A text tells one pair if no other origin
has the same (`Model.Keyed`), and this is the whole condition.

The text of a key names the table that the key says it is of, and its separators can occur in names. Where
every key says the name of its table, and the brackets and the comma that take a text apart occur in none of
the names in front of them (`Snapshot.Legible`), a text is read back from left to right: a table up to its
bracket, columns up to theirs (`keyEnds_inj`). Then every constraint key tells one pair. A junction is told
from a key by the bar, for behind the text of one key there is nothing.
-/

namespace SchemaScribe

open SchemaScribe.Catalog SchemaScribe.Text

/-! ## Texts of keys -/

namespace Catalog

/-- A key whose text can be read back. -/
structure ForeignKey.Legible (k : ForeignKey) : Prop where
  table : '(' ∉ k.table.toList
  columns : Listable k.columns
  referredTable : '(' ∉ k.referredTable.toList
  referredColumns : Listable k.referredColumns

/-- **A catalog whose keys have texts that can be read back**: every key says the name of its table, no name of
a table has an opening bracket in it, and no name of a column a comma or a closing bracket. -/
structure Snapshot.Legible (s : Snapshot) : Prop where
  keys : ∀ t ∈ s.tables, ∀ k ∈ t.foreignKeys, k.table = t.name
  tables : ∀ t ∈ s.tables, '(' ∉ t.name.toList
  columns : ∀ t ∈ s.tables, ∀ c ∈ t.columnNames, ',' ∉ c.toList ∧ ')' ∉ c.toList

/-- A key of a legible catalog that refers to one of its tables is legible. -/
theorem Snapshot.Legible.key {s : Snapshot} (h : s.Legible) (hs : s.Referring) {t target : Table}
    (ht : t ∈ s.tables) {k : ForeignKey} (hk : k ∈ t.foreignKeys) (hleaves : k.leaves s.schema = false)
    (htarget : target ∈ s.tables) (hname : target.name = k.referredTable) : k.Legible where
  table := by
    rw [h.keys t ht k hk]
    exact h.tables t ht
  columns := ⟨k.columns_ne, fun c hc => h.columns t ht c (hs.own t ht k hk hc)⟩
  referredTable := by
    rw [← hname]
    exact h.tables target htarget
  referredColumns := by
    refine ⟨?_, fun c hc => h.columns target htarget c (hs.target t ht k hk hleaves target htarget hname hc)⟩
    rw [ne_eq, ← List.length_eq_zero_iff, ← k.length_eq, List.length_eq_zero_iff]
    exact k.columns_ne

end Catalog

/-- What the text of a key goes on with behind the bracket of its table, and a rest. -/
def keyEnds (k : ForeignKey) (rest : List Char) : List Char :=
  (",".intercalate k.columns).toList ++ ')' :: '-' :: '>' :: (k.referredTable.toList ++
    '(' :: ((",".intercalate k.referredColumns).toList ++ ')' :: rest))

theorem toList_keyText (k : ForeignKey) (rest : List Char) :
    (keyText k).toList ++ rest = k.table.toList ++ '(' :: keyEnds k rest := by
  have hopening : "(".toList = ['('] := by decide
  have harrow : ")->".toList = [')', '-', '>'] := by decide
  have hclosing : ")".toList = [')'] := by decide
  simp only [keyText, keyEnds, String.toList_append, hopening, harrow, hclosing, List.append_assoc,
    List.cons_append, List.nil_append]

/-- The ends of a key are read back one after another. -/
theorem keyEnds_inj {k k' : ForeignKey} {rest rest' : List Char} (h : k.Legible) (h' : k'.Legible)
    (heq : keyEnds k rest = keyEnds k' rest') :
    k.columns = k'.columns ∧ k.referredTable = k'.referredTable ∧
      k.referredColumns = k'.referredColumns ∧ rest = rest' := by
  obtain ⟨hcolumns, htarget⟩ := listed_inj h.columns h'.columns heq
  obtain ⟨hname, hends⟩ := append_cons_inj h.referredTable h'.referredTable
    (List.tail_eq_of_cons_eq (List.tail_eq_of_cons_eq htarget))
  obtain ⟨hreferred, hrest⟩ := listed_inj h.referredColumns h'.referredColumns hends
  exact ⟨hcolumns, String.toList_inj.mp hname, hreferred, hrest⟩

/-! ## Texts of origins -/

namespace Origin

/-- The text that stands for an origin. -/
def text : Origin → String
  | .key _ k => keyText k
  | .junction j => j.table.name ++ ":" ++ keyText j.first ++ "|" ++ keyText j.second

/-- What makes two origins the same: a key has its signature, a junction the name of its table. -/
def identity : Origin → (String × List String × String × List String) ⊕ String
  | .key _ k => .inl k.signature
  | .junction j => .inr j.table.name

/-- An origin whose text can be read back. -/
def Legible : Origin → Prop
  | .key _ k => k.Legible
  | .junction j => j.first.Legible ∧ j.first.table = j.table.name

/-- The text of a junction begins with two names and the bracket of its first key. -/
theorem toList_text_junction (j : Junction) : (Origin.junction j).text.toList =
    (j.table.name.toList ++ ':' :: j.first.table.toList) ++
      '(' :: keyEnds j.first ('|' :: (keyText j.second).toList) := by
  have hcolon : ":".toList = [':'] := by decide
  have hbar : "|".toList = ['|'] := by decide
  have hfirst := toList_keyText j.first ('|' :: (keyText j.second).toList)
  simp only [text, String.toList_append, hcolon, hbar, List.append_assoc, List.cons_append, List.nil_append,
    hfirst]

theorem not_mem_junction {j : Junction} (h : (Origin.junction j).Legible) :
    '(' ∉ j.table.name.toList ++ ':' :: j.first.table.toList := by
  have hname := h.1.table
  rw [h.2] at hname ⊢
  simp only [List.mem_append, List.mem_cons, not_or]
  exact ⟨hname, by decide, hname⟩

/-- The text of a junction is not that of a key, for it goes on behind one. -/
theorem text_key_ne {t : Table} {k : ForeignKey} {j : Junction} (hk : (Origin.key t k).Legible)
    (hj : (Origin.junction j).Legible) : (Origin.key t k).text ≠ (Origin.junction j).text := by
  intro heq
  have htext := congrArg String.toList heq
  have hkey := toList_keyText k []
  rw [List.append_nil] at hkey
  rw [toList_text_junction, show (Origin.key t k).text = keyText k from rfl, hkey] at htext
  have hends := (append_cons_inj hk.table (not_mem_junction hj) htext).2
  cases (keyEnds_inj hk hj.1 hends).2.2.2

/-- **Legible origins with one text are the same.** -/
theorem identity_eq_of_text {x y : Origin} (hx : x.Legible) (hy : y.Legible) (h : x.text = y.text) :
    x.identity = y.identity := by
  cases x with
  | key t k =>
    cases y with
    | key t' k' =>
      have htext := congrArg (·.toList ++ []) h
      dsimp only [text] at htext
      rw [toList_keyText, toList_keyText] at htext
      obtain ⟨htable, hends⟩ := append_cons_inj hx.table hy.table htext
      obtain ⟨hcolumns, hname, hreferred, _⟩ := keyEnds_inj hx hy hends
      have hsignature : k.signature = k'.signature := by
        unfold ForeignKey.signature
        rw [String.toList_inj.mp htable, hcolumns, hname, hreferred]
      exact congrArg Sum.inl hsignature
    | junction j => exact absurd h (text_key_ne hx hy)
  | junction j =>
    cases y with
    | key t k => exact absurd h.symm (text_key_ne hy hx)
    | junction j' =>
      have htext := congrArg String.toList h
      rw [toList_text_junction, toList_text_junction] at htext
      obtain ⟨hnames, _⟩ := append_cons_inj (not_mem_junction hx) (not_mem_junction hy) htext
      rw [hx.2, hy.2] at hnames
      -- both names are as long as each other, so the colons stand in one place
      have hlength : j.table.name.toList.length = j'.table.name.toList.length := by
        have htotal := congrArg List.length hnames
        simp only [List.length_append, List.length_cons] at htotal
        omega
      exact congrArg Sum.inr (String.toList_inj.mp (List.append_inj hnames hlength).1)

end Origin

/-- Distinct keys of a catalog whose keys say the names of their tables have distinct signatures. -/
theorem entityKeys_nodup {s : Snapshot} (hs : s.Referring) (hl : s.Legible) :
    (s.entityKeys.map (·.2.signature)).Nodup := by
  unfold Snapshot.entityKeys
  rw [List.map_flatMap, List.nodup_flatMap]
  constructor
  · intro t _
    rw [List.map_map]
    exact distinctKeys_nodup t
  · refine (List.pairwise_map.mp ((List.filter_sublist.map _).nodup hs.names)).imp_of_mem ?_
    intro t t' ht ht' hne signature hsignature hsignature'
    have htable : ∀ {t : Table}, t ∈ (s.tables.filter fun t => (junction? s t).isNone) →
        signature ∈ (t.distinctKeys.map (t, ·)).map (·.2.signature) → signature.1 = t.name := by
      intro t ht hmem
      rw [List.map_map] at hmem
      obtain ⟨k, hk, rfl⟩ := List.mem_map.mp hmem
      exact hl.keys t (List.mem_filter.mp ht).1 k (mem_of_mem_distinctKeys hk)
    exact hne ((htable ht hsignature).symm.trans (htable ht' hsignature'))

/-- The origins of a model of a legible catalog are distinct. -/
theorem origins_nodup {s : Snapshot} (hs : s.Referring) (hl : s.Legible) (m : Model) :
    ((m.origins s).map Origin.identity).Nodup := by
  unfold Model.origins
  rw [List.map_append, List.map_map, List.map_map, List.nodup_append]
  refine ⟨?_, ?_, ?_⟩
  · have hkeys := (List.filter_sublist (p := fun x => m.reaches s.schema x.2)).map
      (fun x : Table × ForeignKey => x.2.signature) |>.nodup (entityKeys_nodup hs hl)
    exact nodup_map_of_nodup_map hkeys fun x _ y _ heq => Sum.inl.inj heq
  · have hjunctions : ((junctions s).map (·.table.name)).Nodup := by
      rw [junctions_names]
      exact (List.filter_sublist.map _).nodup hs.names
    exact nodup_map_of_nodup_map hjunctions fun x _ y _ heq => Sum.inr.inj heq
  · intro x hx y hy heq
    obtain ⟨_, _, rfl⟩ := List.mem_map.mp hx
    obtain ⟨_, _, rfl⟩ := List.mem_map.mp hy
    cases heq

/-- The origins of a model of a legible catalog are legible. -/
theorem Built.origins_legible {o : Options} {s : Snapshot} (b : Built o s) (hs : s.Referring)
    (hl : s.Legible) {m : Model} (hentities : m.entities = b.drafts.map b.entity) :
    ∀ x ∈ m.origins s, x.Legible := by
  intro x hx
  unfold Model.origins at hx
  rcases List.mem_append.mp hx with hx | hx
  · obtain ⟨⟨t, k⟩, hmem, rfl⟩ := List.mem_map.mp hx
    obtain ⟨hmem, hreaches⟩ := List.mem_filter.mp hmem
    obtain ⟨t', ht', hmem⟩ := List.mem_flatMap.mp hmem
    obtain ⟨k', hk', heq⟩ := List.mem_map.mp hmem
    cases heq
    rw [b.reaches_eq hentities] at hreaches
    obtain ⟨target, htarget⟩ := Option.isSome_iff_exists.mp hreaches
    obtain ⟨hleaves, htarget, hname⟩ := targetDraft?_eq_some htarget
    exact hl.key hs (List.mem_filter.mp ht').1 (mem_of_mem_distinctKeys hk') hleaves (b.table_mem htarget) hname
  · obtain ⟨j, hj, rfl⟩ := List.mem_map.mp hx
    have htested := tested_of_mem hj
    have hkey : j.first ∈ j.table.foreignKeys :=
      mem_of_mem_distinctKeys (htested.keys ▸ List.mem_cons_self)
    have hresolved := htested.resolved j.first List.mem_cons_self
    unfold isResolved at hresolved
    rw [Bool.and_eq_true_iff, Bool.not_eq_true'] at hresolved
    obtain ⟨target, htarget⟩ := Option.isSome_iff_exists.mp hresolved.2
    obtain ⟨htarget, hname⟩ := (table?_eq_some_iff hs.names).mp htarget
    exact ⟨hl.key hs htested.table hkey hresolved.1 htarget hname, hl.keys _ htested.table _ hkey⟩

/-- **In a legible catalog no two origins have one text.** -/
theorem Built.texts_nodup {o : Options} {s : Snapshot} (b : Built o s) (hs : s.Referring) (hl : s.Legible)
    {m : Model} (hentities : m.entities = b.drafts.map b.entity) :
    ((m.origins s).map Origin.text).Nodup := by
  have hlegible := b.origins_legible hs hl hentities
  refine nodup_map_of_nodup_map (origins_nodup hs hl m) fun x hx y hy heq => ?_
  exact Origin.identity_eq_of_text (hlegible x hx) (hlegible y hy) heq

/-! ## Pairs behind a constraint key -/

/-- The relations that carry a constraint key. -/
def Model.carriers (m : Model) (key : String) : List Relation :=
  m.relations.filter fun r => r.constraintKey = key

/-- **A constraint key that tells one pair**: two relations carry it, which mirror each other, and the first of
them owns the constraint. -/
def Model.Identifies (m : Model) (key : String) : Prop :=
  ∃ r r', (m.carriers key).Perm [r, r'] ∧ r.owning = true ∧ r'.owning = false ∧ r.Mirrors r'

/-- How many origins have a text. -/
def Model.originCount (m : Model) (s : Snapshot) (key : String) : Nat :=
  ((m.origins s).map Origin.text).count key

/-- Both relations of a pair are selected or neither is, where the selection does not tell them apart. -/
theorem filter_pairs {pairs : List (Relation × Relation)} {p : Relation → Bool}
    (h : ∀ x ∈ pairs, p x.2 = p x.1) :
    (pairs.flatMap fun x => [x.1, x.2]).filter p =
      (pairs.filter fun x => p x.1).flatMap fun x => [x.1, x.2] := by
  induction pairs with
  | nil => rfl
  | cons x rest ih =>
    obtain ⟨hx, hrest⟩ := List.forall_mem_cons.mp h
    rw [List.flatMap_cons, List.filter_append, ih hrest, @List.filter_cons _ _ rest]
    cases hp : p x.1 with
    | true => simp [hp, hx]
    | false => simp [hp, hx]

/-- The owning relations of pairs are the first ones. -/
theorem filter_owning_pairs {pairs : List (Relation × Relation)}
    (h : ∀ x ∈ pairs, x.1.owning = true ∧ x.1.Mirrors x.2) :
    (pairs.flatMap fun x => [x.1, x.2]).filter (·.owning) = pairs.map (·.1) := by
  induction pairs with
  | nil => rfl
  | cons x rest ih =>
    obtain ⟨⟨howning, hmirrors⟩, hrest⟩ := List.forall_mem_cons.mp h
    have hinverse : x.2.owning = false := by
      rw [hmirrors.owning, howning]
      rfl
    rw [List.flatMap_cons, List.filter_append, ih hrest, List.map_cons]
    simp [howning, hinverse]

namespace Built

variable {o : Options} {s : Snapshot} (b : Built o s)

/-- A link carries the text of what it comes from. -/
theorem Comes.text {origin : Origin} {l : Link} (h : b.Comes origin l) : l.constraintKey = origin.text := by
  cases origin with
  | key t k =>
    obtain ⟨_, _, _, _, _, _, rfl⟩ := h
    rfl
  | junction j =>
    obtain ⟨_, _, h⟩ := bind_eq_ok.mp h
    obtain ⟨_, _, h⟩ := bind_eq_ok.mp h
    cases h
    rfl

/-- Each pair carries the text of its origin. -/
theorem pairs_texts (hs : s.tableNames.Nodup) {m : Model} (hentities : m.entities = b.drafts.map b.entity) :
    b.pairs.map (·.1.constraintKey) = (m.origins s).map Origin.text := by
  have htexts : List.Forall₂ (fun x y => x = y) ((m.origins s).map Origin.text)
      (b.links.map (·.constraintKey)) := by
    rw [List.forall₂_map_left_iff, List.forall₂_map_right_iff]
    exact (b.links_come hs hentities).imp fun _ _ h => (Comes.text b h).symm
  rw [List.forall₂_eq_eq_eq] at htexts
  rw [htexts, ← List.zipIdx_map_fst 0 b.links, List.map_map, pairs, List.map_map]
  rfl

theorem pair_mirrors {x : Relation × Relation} (hx : x ∈ b.pairs) :
    x.1.owning = true ∧ x.1.Mirrors x.2 := by
  obtain ⟨p, hp, rfl⟩ := List.mem_map.mp hx
  have hl : p.1 ∈ b.links := (List.mem_zipIdx' hp).2 ▸ List.getElem_mem _
  obtain ⟨d, hd, hat, _⟩ := b.links_attached p.1 hl .owning
  obtain ⟨target, htarget, hat', _⟩ := b.links_attached p.1 hl .inverse
  have hspans := b.spans hp hd htarget hat hat'
  exact ⟨hspans.owning, hspans.mirrors⟩

/-- The relations that carry a key are the pairs that do. -/
theorem carriers_perm {m : Model} (hentities : m.entities = b.drafts.map b.entity) (key : String) :
    (m.carriers key).Perm
      ((b.pairs.filter fun x => x.1.constraintKey = key).flatMap fun x => [x.1, x.2]) := by
  rw [← filter_pairs (p := fun r => decide (r.constraintKey = key))]
  · exact (b.relations_perm hentities).filter _
  · intro x hx
    rw [(b.pair_mirrors hx).2.constraintKey]

/-- As many pairs carry a key as origins have it for their text. -/
theorem length_pairs (hs : s.tableNames.Nodup) {m : Model} (hentities : m.entities = b.drafts.map b.entity)
    (key : String) :
    (b.pairs.filter fun x => x.1.constraintKey = key).length = m.originCount s key := by
  unfold Model.originCount
  rw [← b.pairs_texts hs hentities, List.count_eq_countP, List.countP_map, List.countP_eq_length_filter]
  rfl

/-- Two relations carry a key for each origin that has it for its text. -/
theorem length_carriers (hs : s.tableNames.Nodup) {m : Model} (hentities : m.entities = b.drafts.map b.entity)
    (key : String) : (m.carriers key).length = 2 * m.originCount s key := by
  rw [(b.carriers_perm hentities key).length_eq, flatMap_pair_length, b.length_pairs hs hentities]

/-- One of the two owns the constraint. -/
theorem length_owners (hs : s.tableNames.Nodup) {m : Model} (hentities : m.entities = b.drafts.map b.entity)
    (key : String) : ((m.carriers key).filter (·.owning)).length = m.originCount s key := by
  rw [((b.carriers_perm hentities key).filter _).length_eq, filter_owning_pairs, List.length_map,
    b.length_pairs hs hentities]
  exact fun x hx => b.pair_mirrors (List.mem_filter.mp hx).1

/-- The texts of the origins are the keys that relations carry. -/
theorem mem_texts_iff (hs : s.tableNames.Nodup) {m : Model} (hentities : m.entities = b.drafts.map b.entity)
    {key : String} :
    key ∈ (m.origins s).map Origin.text ↔ ∃ r ∈ m.relations, r.constraintKey = key := by
  have hlength := b.length_carriers hs hentities key
  have hcarried : 0 < m.originCount s key ↔ 0 < (m.carriers key).length := by omega
  unfold Model.originCount at hcarried
  rw [← List.count_pos_iff, hcarried, List.length_pos_iff_exists_mem]
  simp only [Model.carriers, List.mem_filter, decide_eq_true_eq]

/-- A key tells one pair if and only if one origin has it for its text. -/
theorem identifies_iff (hs : s.tableNames.Nodup) {m : Model} (hentities : m.entities = b.drafts.map b.entity)
    (key : String) : m.Identifies key ↔ m.originCount s key = 1 := by
  constructor
  · rintro ⟨r, r', hcarriers, _⟩
    have htwo := b.length_carriers hs hentities key
    rw [hcarriers.length_eq, List.length_cons, List.length_singleton] at htwo
    omega
  · intro hone
    have hlength := b.length_pairs hs hentities key
    rw [hone] at hlength
    obtain ⟨x, hx⟩ := List.length_eq_one_iff.mp hlength
    have hmem : x ∈ b.pairs := (List.mem_filter.mp (hx ▸ List.mem_singleton_self x)).1
    have hperm := b.carriers_perm hentities key
    rw [hx, List.flatMap_singleton] at hperm
    obtain ⟨howning, hmirrors⟩ := b.pair_mirrors hmem
    refine ⟨x.1, x.2, hperm, howning, ?_, hmirrors⟩
    rw [hmirrors.owning, howning]
    rfl

/-- All keys tell one pair if and only if no two origins have one text. -/
theorem all_identify_iff (hs : s.tableNames.Nodup) {m : Model}
    (hentities : m.entities = b.drafts.map b.entity) :
    (∀ r ∈ m.relations, m.Identifies r.constraintKey) ↔ ((m.origins s).map Origin.text).Nodup := by
  simp only [b.identifies_iff hs hentities]
  constructor
  · intro hone
    refine List.nodup_iff_count_le_one.mpr fun key => ?_
    by_cases hkey : key ∈ (m.origins s).map Origin.text
    · obtain ⟨r, hr, rfl⟩ := (b.mem_texts_iff hs hentities).mp hkey
      exact (hone r hr).le
    · rw [List.count_eq_zero_of_not_mem hkey]
      exact Nat.zero_le 1
  · intro hnodup r hr
    exact List.count_eq_one_of_mem hnodup ((b.mem_texts_iff hs hentities).mpr ⟨r, hr, rfl⟩)

end Built

/-! ## The law -/

/-- **What the constraint keys of a model tell**: a key is carried by two relations of each origin that has
it for its text, one of which owns the constraint. So every key tells one pair if and only if no two origins
have one text, as in a legible catalog. -/
structure Model.Keyed (s : Snapshot) (m : Model) : Prop where
  carriers : ∀ key, (m.carriers key).length = 2 * m.originCount s key
  owners : ∀ key, ((m.carriers key).filter (·.owning)).length = m.originCount s key
  identifies_iff : (∀ r ∈ m.relations, m.Identifies r.constraintKey) ↔
    ((m.origins s).map Origin.text).Nodup
  legible : s.Legible → ∀ r ∈ m.relations, m.Identifies r.constraintKey

/-- **The constraint keys of a model built of a prepared catalog tell its origins** as far as these have
different texts. For every text it is decided how many relations carry it and how many of them own the
constraint. So a text tells one pair if and only if no two origins have it; in a legible catalog no two do. -/
theorem buildModel_keyed {p : Option Options} {o : Options} {s s' : Snapshot} {m : Model}
    (hprepared : (s.prepare p).outcome = .ok s') (h : buildModel o s' = .ok m) : m.Keyed s' := by
  have hs := referring_of_prepare hprepared
  obtain ⟨b, hentities⟩ := exists_built h
  have hiff := b.all_identify_iff hs.names hentities
  exact ⟨b.length_carriers hs.names hentities, b.length_owners hs.names hentities, hiff,
    fun hl => hiff.mpr (b.texts_nodup hs hl hentities)⟩

/-- So do those of the market, which is legible: each tells one pair. The two pairs of the railway have one
constraint key between them. -/
theorem buildModel_keyed_market :
    (∃ m, (market.prepare (some {})).outcome.toOption = some market ∧ buildModel {} market = .ok m ∧
      m.relationCount = 4 ∧ market.Legible ∧ ∀ r ∈ m.relations, m.Identifies r.constraintKey) ∧
    ∃ m, (railway.prepare (some {})).outcome.toOption = some railway ∧ buildModel {} railway = .ok m ∧
      m.relationCount = 4 ∧ (m.carriers "line(a,b)->station(x,y)").length = 4 ∧
      ¬ ∀ r ∈ m.relations, m.Identifies r.constraintKey := by
  constructor
  · obtain ⟨m, hm, hcount⟩ := exists_ok_of_any (x := buildModel {} market) (p := fun m => m.relationCount = 4)
      (by decide +kernel)
    have hprepared : (market.prepare (some {})).outcome.toOption = some market := by decide +kernel
    have hlegible : market.Legible := ⟨by decide, by decide, by decide⟩
    refine ⟨m, hprepared, hm, of_decide_eq_true hcount, hlegible, ?_⟩
    exact (buildModel_keyed (toOption_eq_some.mp hprepared) hm).legible hlegible
  · obtain ⟨m, hm, htest⟩ := exists_ok_of_any (x := buildModel {} railway)
      (p := fun m => m.relationCount = 4 ∧ (m.carriers "line(a,b)->station(x,y)").length = 4)
      (by decide +kernel)
    obtain ⟨hcount, hcarriers⟩ := of_decide_eq_true htest
    have hprepared : (railway.prepare (some {})).outcome.toOption = some railway := by decide +kernel
    refine ⟨m, hprepared, hm, hcount, hcarriers, fun hidentify => ?_⟩
    have hkeyed := buildModel_keyed (toOption_eq_some.mp hprepared) hm
    have hone := List.nodup_iff_count_le_one.mp (hkeyed.identifies_iff.mp hidentify) "line(a,b)->station(x,y)"
    have htwo := hkeyed.carriers "line(a,b)->station(x,y)"
    unfold Model.originCount at htwo
    omega

end SchemaScribe
