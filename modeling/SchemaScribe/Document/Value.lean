import SchemaScribe.Text.Binary64
import SchemaScribe.Text.Surrogate

/-!
# Document values

What configuration files and database drivers answer with: scalars, lists and mappings of any shape.
Typed records are read from such values with their faults collected (`SchemaScribe.Document.Form`).
-/

namespace SchemaScribe.Document

open SchemaScribe.Text (Binary64 StandIns)

/-- A value without parts. A broken text is one with lone surrogates; a moment is a date or a time of a
configuration file, as it is written. -/
inductive Scalar where
  | null
  | bool (b : Bool)
  | int (n : Int)
  | real (x : Binary64)
  | text (s : String)
  | broken (s : String) (standIns : StandIns)
  | moment (written : String)
deriving DecidableEq, Repr, Inhabited

/-- A document value. The entries of a mapping keep their order and have distinct keys. -/
inductive Value where
  | scalar (s : Scalar)
  | list (items : List Value)
  | map (entries : List (Scalar × Value))
deriving Repr, Inhabited

namespace Value

/-- The null value. -/
@[match_pattern] abbrev null : Value := .scalar .null

/-- A truth value. -/
@[match_pattern] abbrev bool (b : Bool) : Value := .scalar (.bool b)

/-- An integer. -/
@[match_pattern] abbrev int (n : Int) : Value := .scalar (.int n)

/-- A floating-point number. -/
@[match_pattern] abbrev real (x : Binary64) : Value := .scalar (.real x)

/-- A text. -/
@[match_pattern] abbrev text (s : String) : Value := .scalar (.text s)

/-- A list of texts. -/
def texts (items : List String) : Value := .list (items.map .text)

/-- A record: a mapping with texts as keys. -/
def record (fields : List (String × Value)) : Value :=
  .map (fields.map fun (name, value) => (.text name, value))

/-- The null value or an integer. -/
def intOrNull : Option Int → Value
  | none => .null
  | some n => .int n

/-- A list of pairs of texts. -/
def textPairs (pairs : List (String × String)) : Value :=
  .list (pairs.map fun (a, b) => .texts [a, b])

/-- A record of texts. -/
def textRecord (fields : List (String × String)) : Value :=
  .record (fields.map fun (name, s) => (name, .text s))

/-- The null value or a text. -/
def textOrNull : Option String → Value
  | none => .null
  | some s => .text s

/-- A text some of whose characters may stand for lone surrogates. -/
def looseText (s : String) (standIns : StandIns) : Value :=
  if standIns.isEmpty then .text s else .scalar (.broken s standIns)

/-- The null value or a text some of whose characters may stand for lone surrogates. -/
def looseTextOrNull (s : Option String) (standIns : StandIns) : Value :=
  match s with
  | none => .null
  | some s => looseText s standIns

end Value

/-- Puts a value under a key; a key that is there keeps its place. -/
def setEntry [DecidableEq κ] (key : κ) (value : α) : List (κ × α) → List (κ × α)
  | [] => [(key, value)]
  | (k, v) :: rest => if k = key then (k, value) :: rest else (k, v) :: setEntry key value rest

/-- The value under a key. -/
def entryAt? [DecidableEq κ] (key : κ) (entries : List (κ × α)) : Option α :=
  (entries.find? fun entry => entry.1 = key).map (·.2)

/-- Entries with repeated keys made distinct: the last value counts, in the first place. -/
def distinctEntries [DecidableEq κ] (entries : List (κ × α)) : List (κ × α) :=
  entries.foldl (fun found (key, value) => setEntry key value found) []

/-- A scalar as keys are compared: truth values count as one and zero, and floating-point numbers without a
fraction as whole ones. -/
def Scalar.asKey : Scalar → Scalar
  | .bool b => .int (if b then 1 else 0)
  | .real x =>
    match x.toInt? with
    | some n => .int n
    | none => .real x
  | s => s

/-- Whether scalars are equal. Something that is not a number is not equal to anything. -/
def Scalar.same : Scalar → Scalar → Bool
  | .real .nan, _ | _, .real .nan => false
  | .broken s standIns, .broken t others => standIns.codePoints s = others.codePoints t
  | a, b => a.asKey = b.asKey

/-- Puts a value under a key; an equal key that is there keeps its place and its form. -/
def setKey (key : Scalar) (value : α) : List (Scalar × α) → List (Scalar × α)
  | [] => [(key, value)]
  | (k, v) :: rest =>
    if k.asKey = key.asKey then (k, value) :: rest else (k, v) :: setKey key value rest

/-- Entries with equal keys made distinct: the last value counts, under the first key. -/
def distinctKeys (entries : List (Scalar × α)) : List (Scalar × α) :=
  entries.foldl (fun found (key, value) => setKey key value found) []

/-- The entries of a mapping. -/
def Value.entries? : Value → Option (List (Scalar × Value))
  | .map entries => some entries
  | _ => none

/-- The value under a text key of a mapping. -/
def Value.get? (key : String) : Value → Option Value
  | .map entries => entryAt? (.text key) entries
  | _ => none

mutual

/-- Whether values are equal. The order of entries does not count. -/
def Value.same : Value → Value → Bool
  | .scalar a, .scalar b => a.same b
  | .list xs, .list ys => sameItems xs ys
  | .map xs, .map ys => xs.length = ys.length && sameEntries xs ys
  | _, _ => false

/-- Whether lists are equal item by item. -/
def sameItems : List Value → List Value → Bool
  | [], [] => true
  | x :: xs, y :: ys => x.same y && sameItems xs ys
  | _, _ => false

/-- Whether every entry is among others with an equal key and an equal value. -/
def sameEntries : List (Scalar × Value) → List (Scalar × Value) → Bool
  | [], _ => true
  | (key, value) :: rest, others =>
    (match others.find? fun entry => key.same entry.1 with
    | some (_, other) => value.same other
    | none => false) && sameEntries rest others

end

/-- Whether a scalar counts as absent: null, false, zero and the empty text do. -/
def Scalar.isVoid : Scalar → Bool
  | .null => true
  | .bool b => !b
  | .int n => n = 0
  | .real (.finite _ mantissa _) => mantissa = 0
  | .real _ => false
  | .text s | .broken s _ => s.isEmpty
  | .moment _ => false

/-- Whether a value counts as absent: void scalars, the empty list and the empty mapping do. -/
def Value.isVoid : Value → Bool
  | .scalar s => s.isVoid
  | .list items => items.isEmpty
  | .map entries => entries.isEmpty

/-- Whether a moment has a time of day. -/
def hasTimeOfDay (written : String) : Bool := written.toList.contains ':'

/-- The word for the kind of a scalar in messages. -/
def Scalar.kindWord : Scalar → String
  | .null => "NoneType"
  | .bool _ => "bool"
  | .int _ => "int"
  | .real _ => "float"
  | .text _ | .broken _ _ => "str"
  | .moment written => if hasTimeOfDay written then "datetime" else "date"

/-- The word for the kind of a value in messages. -/
def Value.kindWord : Value → String
  | .scalar s => s.kindWord
  | .list _ => "list"
  | .map _ => "dict"

/-- A scalar as it is written inside a list. -/
def Scalar.inner : Scalar → String
  | .null => "None"
  | .bool true => "True"
  | .bool false => "False"
  | .int n => toString n
  | .real x => x.shortest
  | .text s => Text.literal s
  | .broken s standIns => Text.literal (standIns.replaced s)
  | .moment written => written

mutual

/-- A value as it is written inside a list. -/
def Value.inner : Value → String
  | .scalar s => s.inner
  | .list items => "[" ++ ", ".intercalate (innerItems items) ++ "]"
  | .map entries => "\x7b" ++ ", ".intercalate (innerEntries entries) ++ "\x7d"

/-- The items of a list as written. -/
def innerItems : List Value → List String
  | [] => []
  | item :: rest => item.inner :: innerItems rest

/-- The entries of a mapping as written. -/
def innerEntries : List (Scalar × Value) → List String
  | [] => []
  | (key, value) :: rest => (key.inner ++ ": " ++ value.inner) :: innerEntries rest

end

/-- A value on its own: a text stands as it is, everything else as inside a list. -/
def Value.shown : Value → String
  | .text s => s
  | .scalar (.broken s standIns) => standIns.replaced s
  | value => value.inner

end SchemaScribe.Document
