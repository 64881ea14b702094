import SchemaScribe.Model.Draft
import SchemaScribe.Model.Junction

/-!
# Links

A **link** joins two drafts: it comes from a foreign key of one of them, or from a junction. Each link
has an owning end and an inverse end, and becomes a pair of relations that name each other. A draft can
be at both ends of a link.
-/

namespace SchemaScribe

open SchemaScribe.Catalog

/-- The ends of a link. -/
inductive Side where
  | owning
  | inverse
deriving DecidableEq, Repr

/-- The other end. -/
def Side.opposite : Side → Side
  | .owning => .inverse
  | .inverse => .owning

/-- What an end of a link is attached to; the property there is named after `base`. -/
structure LinkEnd where
  table : String
  entity : String
  base : String
deriving DecidableEq

/-- What a link comes from: a key with the properties it is stored in and those it refers to, or a
junction with its column pairs toward both ends. -/
inductive Basis where
  | key (exclusive nullable : Bool) (properties referred : List String)
  | junction (table : String) (schema : Option String) (toOwner toOther : List (String × String))
deriving DecidableEq

/-- A link between two drafts. -/
structure Link where
  constraintKey : String
  owner : LinkEnd
  other : LinkEnd
  basis : Basis
deriving DecidableEq

namespace Basis

/-- The kind of relation at an end. -/
def kind : Basis → Side → RelationKind
  | .key true _ _ _, _ => .oneToOne
  | .key false _ _ _, .owning => .manyToOne
  | .key false _ _ _, .inverse => .oneToMany
  | .junction _ _ _ _, _ => .manyToMany

/-- Whether the relation at an end may be empty. -/
def nullable : Basis → Side → Bool
  | .key _ nullable _ _, .owning => nullable
  | _, _ => true

/-- The join table. -/
def joinTable : Basis → Option String
  | .key _ _ _ _ => none
  | .junction table _ _ _ => some table

theorem joinTable_isSome_iff (b : Basis) (side : Side) :
    b.joinTable.isSome ↔ b.kind side = .manyToMany := by
  cases b with
  | junction => simp [joinTable, kind]
  | key exclusive => cases exclusive <;> cases side <;> simp [joinTable, kind]

/-- The schema of the join table. -/
def joinSchema : Basis → Option String
  | .key _ _ _ _ => none
  | .junction _ schema _ _ => schema

/-- The column pairs from the join table toward the draft at an end. -/
def joinColumns : Basis → Side → List (String × String)
  | .key _ _ _ _, _ => []
  | .junction _ _ toOwner _, .owning => toOwner
  | .junction _ _ _ toOther, .inverse => toOther

/-- The properties that hold the key. -/
def properties : Basis → List String
  | .key _ _ properties _ => properties
  | .junction _ _ _ _ => []

/-- The properties that the key refers to. -/
def referred : Basis → List String
  | .key _ _ _ referred => referred
  | .junction _ _ _ _ => []

/-- Whether the link comes from a key. -/
def isKey : Basis → Bool
  | .key _ _ _ _ => true
  | .junction _ _ _ _ => false

end Basis

namespace Link

/-- What an end is attached to. -/
def endAt (l : Link) : Side → LinkEnd
  | .owning => l.owner
  | .inverse => l.other

/-- Whether both ends are at one draft. -/
def isLoop (l : Link) : Bool := l.owner.table = l.other.table

/-- The relation at an end, given its name and the name at the other end. -/
def relation (l : Link) (side : Side) (name : String) (inverseName : Option String) : Relation where
  name
  kind := l.basis.kind side
  entity := (l.endAt side).entity
  target := (l.endAt side.opposite).entity
  owning := side = .owning
  inverseName
  constraintKey := l.constraintKey
  nullable := l.basis.nullable side
  fkEntity := if l.basis.isKey then some l.owner.entity else none
  fkProperties := l.basis.properties
  selfReferential := l.isLoop
  remoteProperties := if side = .owning && l.isLoop then l.basis.referred else []
  joinTable := l.basis.joinTable
  joinSchema := l.basis.joinSchema
  joinColumns := l.basis.joinColumns side
  inverseJoinColumns := l.basis.joinColumns side.opposite
  joined_iff := l.basis.joinTable_isSome_iff side

end Link

/-! ## Links of keys -/

/-- The text that identifies a key. -/
def keyText (k : ForeignKey) : String :=
  k.table ++ "(" ++ ",".intercalate k.columns ++ ")->" ++ k.referredTable ++ "(" ++
    ",".intercalate k.referredColumns ++ ")"

/-- The name a key's column gives the far end, if the key has one column with a key ending. -/
def farName? (k : ForeignKey) : Option String :=
  match k.columns with
  | [column] => withoutKeyEnding? column
  | _ => none

/-- The draft of a table. -/
def draft? (drafts : List Draft) (table : String) : Option Draft :=
  drafts.find? (·.table.name = table)

/-- The draft that a key refers to. -/
def targetDraft? (schema : Option String) (drafts : List Draft) (k : ForeignKey) : Option Draft :=
  if k.leaves schema then none else draft? drafts k.referredTable

/-- The link of a key from one draft to another. -/
def keyLink (d target : Draft) (k : ForeignKey) : Link where
  constraintKey := keyText k
  owner := ⟨d.table.name, d.entity, (farName? k).getD target.entity⟩
  other := ⟨target.table.name, target.entity, d.entity⟩
  basis := .key (k.columns.length = 1 && d.table.isUnique k.columns)
    (k.columns.all fun c => (d.table.column? c).all (·.nullable))
    (k.columns.map d.property) (k.referredColumns.map target.property)

/-- What becomes of a key of a draft. -/
def traceKey (schema : Option String) (drafts : List Draft) (d : Draft) (k : ForeignKey) :
    Except DroppedKey Link :=
  match targetDraft? schema drafts k with
  | some target => .ok (keyLink d target k)
  | none => .error ⟨d.table.name, k, k.leaves schema⟩

/-- What becomes of all keys of all drafts, in order. -/
def traceKeys (schema : Option String) (drafts : List Draft) : List (Except DroppedKey Link) :=
  drafts.flatMap fun d => d.table.distinctKeys.map (traceKey schema drafts d)

/-- The links among traced keys. -/
def linksOf (traced : List (Except DroppedKey Link)) : List Link :=
  traced.filterMap fun
    | .ok link => some link
    | .error _ => none

/-- The dropped keys among traced keys. -/
def droppedOf (traced : List (Except DroppedKey Link)) : List DroppedKey :=
  traced.filterMap fun
    | .ok _ => none
    | .error dropped => some dropped

/-- The links of all keys. A dropped key is an oddity, or a failure where relations are strict. -/
def keyLinks (strict : Bool) (schema : Option String) (drafts : List Draft) :
    Building (List Link) := do
  let traced := traceKeys schema drafts
  match droppedOf traced with
  | [] => return linksOf traced
  | first :: rest =>
    if strict then .fail (.droppedKey first)
    else do
      .note ((first :: rest).map .dropped)
      return linksOf traced

/-! ## Links of junctions -/

/-- The composite keys of a draft that lead to a draft. -/
def compositeKeys (schema : Option String) (drafts : List Draft) (d : Draft) : List ForeignKey :=
  d.table.distinctKeys.filter fun k =>
    1 < k.columns.length && (targetDraft? schema drafts k).isSome

/-- The draft that a key of a junction refers to. -/
def joinedDraft (drafts : List Draft) (k : ForeignKey) : Except BuildError Draft :=
  match draft? drafts k.referredTable with
  | some d => .ok d
  | none => .error (.noEntity k.referredTable)

/-- The link of a junction. Where it joins a draft to itself, its columns name the ends. -/
def joinLink (drafts : List Draft) (j : Junction) : Except BuildError Link := do
  let owner ← joinedDraft drafts j.first
  let other ← joinedDraft drafts j.second
  let loop := owner.table.name = other.table.name
  let base := fun (k : ForeignKey) (fallback : String) =>
    if loop then (farName? k).getD fallback else fallback
  return {
    constraintKey := j.table.name ++ ":" ++ keyText j.first ++ "|" ++ keyText j.second
    owner := ⟨owner.table.name, owner.entity, base j.second other.entity⟩
    other := ⟨other.table.name, other.entity, base j.first owner.entity⟩
    basis := .junction j.table.name j.table.schema j.first.pairs j.second.pairs }

/-- The links of junctions, in order. -/
def joinLinks (drafts : List Draft) : List Junction → Except BuildError (List Link)
  | [] => .ok []
  | j :: rest => do
    let link ← joinLink drafts j
    let more ← joinLinks drafts rest
    return link :: more

end SchemaScribe
