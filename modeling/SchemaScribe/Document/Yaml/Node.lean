import SchemaScribe.Document.Yaml.Meaning

/-!
# Nodes

The parts of a YAML text as they are written, each with what it is taken for, and the values they come to.
The parts of a node are looked at after the nodes beside it, so of several flaws the one that lies least
deep comes first, and of those equally deep the leftmost one.
-/

namespace SchemaScribe.Document.Yaml

/-! ## Roles -/

/-- What a node is taken for. Pairs are a list of mappings with one entry each. -/
inductive Role where
  | scalar (kind : Kind)
  | list
  | pairs
  | map
deriving DecidableEq, Repr

namespace Role

/-- What stands in front of the names of the standard tags. -/
def standardStem : String := "tag:yaml.org,2002:"

/-- The roles that the standard tags name. -/
def standard : List (String × Role) := [
  ("null", .scalar .null), ("bool", .scalar .truth), ("int", .scalar .whole), ("float", .scalar .pointed),
  ("timestamp", .scalar .moment), ("merge", .scalar .merge), ("value", .scalar .default),
  ("str", .scalar .text), ("seq", .list), ("omap", .pairs), ("pairs", .pairs), ("map", .map)]

/-- Whether a tag leaves open what a node is: it is missing or the mark alone. -/
def isOpenTag (tag : Option String) : Bool := tag = none || tag = some "!"

/-- The role of a node: the one that its tag names, or what it looks like. An unknown tag names none. -/
def of? (tag : Option String) (looks : Role) : Option Role :=
  if isOpenTag tag then some looks
  else (standard.find? fun entry => some (standardStem ++ entry.1) = tag).map (·.2)

end Role

/-- A part of a text: a scalar, a list or a mapping. It is taken for what its role says, which need not be
what it is. -/
inductive Node where
  | scalar (role : Option Role) (text : String)
  | list (role : Option Role) (items : List Node)
  | map (role : Option Role) (entries : List (Node × Node))

namespace Node

/-- Nothing, where a part is left out. -/
def absent : Node := .scalar (some (.scalar .null)) ""

/-- A scalar under a tag. A quoted one is a text, but under the mark alone it is what it looks like. -/
def ofScalar (tag : Option String) (plain : Bool) (text : String) : Node :=
  let kind := if plain || tag = some "!" then kindOf text else .text
  .scalar (Role.of? tag (.scalar kind)) text

/-- What a node is taken for. -/
def role : Node → Option Role
  | .scalar role _ | .list role _ | .map role _ => role

/-- Whether a node is a key in whose place the entries of its value are put. -/
def isMerge (node : Node) : Bool := node.role = some (.scalar .merge)

/-- Whether a node is the key of the text that its mapping stands for. -/
def isDefault (node : Node) : Bool := node.role = some (.scalar .default)

mutual

/-- The text of a node that is taken for a scalar. A mapping may have one under the key for it. -/
def text? : Node → Option String
  | .scalar _ text => some text
  | .list _ _ => none
  | .map _ entries => defaultText? entries

/-- The text that the entries of a mapping stand for. -/
def defaultText? : List (Node × Node) → Option String
  | [] => none
  | (k, v) :: rest => if k.isDefault then v.text? else defaultText? rest

end

/-! ## Outcomes -/

/-- What a part of a text comes to, or its flaw and how deep that lies inside. -/
abbrev Outcome (α : Type) := Except (Nat × Flaw) α

namespace Outcome

/-- A flaw of form at a depth. -/
def malformed (depth : Nat) : Outcome α := .error (depth, .malformed)

/-- Of two outcomes, the flaw that comes first, or else both results. -/
def both (x : Outcome α) (y : Outcome β) : Outcome (α × β) :=
  match x, y with
  | .ok a, .ok b => .ok (a, b)
  | .ok _, .error e | .error e, .ok _ => .error e
  | .error e, .error e' => .error (if e'.1 < e.1 then e' else e)

/-- Of several outcomes, the flaw that comes first, or else all results. -/
def every : List (Outcome α) → Outcome (List α)
  | [] => .ok []
  | x :: rest => (both x (every rest)).map fun (a, more) => a :: more

/-- The outcome of a part, seen from around it. -/
def deeper (x : Outcome α) : Outcome α := x.mapError fun (depth, flaw) => (depth + 1, flaw)

end Outcome

open Outcome

/-- The outcome of a node that is taken for a scalar, if it has a text. -/
def scalarOutcome (kind : Kind) (text : Option String) : Outcome Value :=
  match text with
  | some text => ((meaning kind text).map .scalar).mapError (0, ·)
  | none => malformed 0

/-- The key that a node is, told from its outcome. A list or a mapping is none, whatever is inside. -/
def keyOf (node : Node) (found : Outcome Value) : Outcome Scalar :=
  if node.isDefault then
    match node.text? with
    | some text => .ok (.text text)
    | none => malformed 0
  else
    match found with
    | .ok (.scalar s) => .ok s
    | .error (0, flaw) => .error (0, flaw)
    | _ => malformed 0

mutual

/-- What a node comes to. Whether a list or a mapping is one is seen only when its parts are looked at. -/
def outcome : Node → Outcome Value
  | .scalar role text =>
    match role with
    | some (.scalar kind) => scalarOutcome kind (some text)
    | some _ => malformed 1
    | none => malformed 0
  | .list role items =>
    match role with
    | some .list => deeper ((every (outcomes items)).map .list)
    | some .pairs => deeper ((every (pairOutcomes items)).map .list)
    | some .map => malformed 1
    | _ => malformed 0
  | .map role entries =>
    match role with
    | some .map =>
      match merged entries with
      | some found => deeper ((every (found ++ own entries)).map fun all => .map (distinctKeys all))
      | none => malformed 1
    | some .list | some .pairs => malformed 1
    | some (.scalar kind) => scalarOutcome kind (defaultText? entries)
    | none => malformed 0

/-- What the items of a list come to. -/
def outcomes : List Node → List (Outcome Value)
  | [] => []
  | item :: rest => item.outcome :: outcomes rest

/-- What the mappings of one entry come to as pairs. Anything can be a key of a pair. -/
def pairOutcomes : List Node → List (Outcome Value)
  | [] => []
  | .map _ [(k, v)] :: rest =>
    (both k.outcome v.outcome).map (fun (a, b) => .list [a, b]) :: pairOutcomes rest
  | _ :: rest => malformed 0 :: pairOutcomes rest

/-- What a mapping's own entries come to. -/
def own : List (Node × Node) → List (Outcome (Scalar × Value))
  | [] => []
  | (k, v) :: rest =>
    if k.isMerge then own rest else both (k.keyOf k.outcome) v.outcome :: own rest

/-- What the entries come to that are put in place of merge keys. -/
def merged : List (Node × Node) → Option (List (Outcome (Scalar × Value)))
  | [] => some []
  | (k, v) :: rest =>
    if k.isMerge then return (← v.mergeable) ++ (← merged rest) else merged rest

/-- What the entries come to that a node brings in place of a merge key: those of a mapping, or those of
the mappings of a list. -/
def mergeable : Node → Option (List (Outcome (Scalar × Value)))
  | .map _ entries => return (← merged entries) ++ own entries
  | .list _ items => mergeableItems items
  | .scalar _ _ => none

/-- What the entries of the mappings of a list come to, from the last mapping on. -/
def mergeableItems : List Node → Option (List (Outcome (Scalar × Value)))
  | [] => some []
  | .map _ entries :: rest => return (← mergeableItems rest) ++ ((← merged entries) ++ own entries)
  | _ :: _ => none

end

/-- The value of a document's node. -/
def value (node : Node) : Except Flaw Value := node.outcome.mapError (·.2)

end Node

end SchemaScribe.Document.Yaml
