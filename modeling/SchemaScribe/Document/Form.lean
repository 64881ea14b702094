import SchemaScribe.Document.Value
import SchemaScribe.Text.LooseInteger

/-!
# Reading records from values

A reader takes a value and answers with a typed result or with **all** the faults it finds, each with
the path of the offending part. Readers combine applicatively, so the faults of the fields of a record
add up; a check that needs the fields runs only when they are sound (`Checked.andThen`).
-/

namespace SchemaScribe.Document

open SchemaScribe.Text (Binary64 LooseInteger StandIns)

/-- One step on the way from a value to one of its parts. -/
inductive Step where
  | name (s : String)
  | index (n : Int)
deriving DecidableEq, Repr

/-- What is wrong with a part of a value. -/
inductive FaultKind where
  | missing
  | unknownField
  | badKey
  | notText
  | notUnicode
  | textTooShort
  | notChoice
  | notInteger
  | unreadableInteger
  | oversizedInteger
  | fractionalInteger
  | notFinite
  | tooSmall
  | tooLarge
  | notTruth
  | unreadableTruth
  | notList
  | listTooShort
  | listTooLong
  | notMapping
  | notRecord
  | rejected (message : String)
deriving DecidableEq, Repr

/-- The code that reports name a fault by. -/
def FaultKind.code : FaultKind → String
  | .missing => "missing"
  | .unknownField => "extra_forbidden"
  | .badKey => "invalid_key"
  | .notText => "string_type"
  | .notUnicode => "string_unicode"
  | .textTooShort => "string_too_short"
  | .notChoice => "enum"
  | .notInteger => "int_type"
  | .unreadableInteger => "int_parsing"
  | .oversizedInteger => "int_parsing_size"
  | .fractionalInteger => "int_from_float"
  | .notFinite => "finite_number"
  | .tooSmall => "greater_than_equal"
  | .tooLarge => "less_than_equal"
  | .notTruth => "bool_type"
  | .unreadableTruth => "bool_parsing"
  | .notList => "tuple_type"
  | .listTooShort => "too_short"
  | .listTooLong => "too_long"
  | .notMapping => "dict_type"
  | .notRecord => "model_type"
  | .rejected _ => "value_error"

/-- A fault with the path to the part it lies in. -/
structure Fault where
  path : List Step
  kind : FaultKind
deriving DecidableEq, Repr

/-- The outcome of a reader: a result, or faults. -/
inductive Checked (α : Type u) where
  | ok (result : α)
  | bad (faults : List Fault)

namespace Checked

/-- A single fault in the value itself. -/
def fail (kind : FaultKind) : Checked α := .bad [⟨[], kind⟩]

/-- Applies a function to the result. -/
def map (f : α → β) : Checked α → Checked β
  | .ok a => .ok (f a)
  | .bad faults => .bad faults

/-- Combines two outcomes; the faults of both are kept. -/
def both (f : Checked (α → β)) (x : Checked α) : Checked β :=
  match f, x with
  | .ok f, .ok a => .ok (f a)
  | .ok _, .bad faults => .bad faults
  | .bad faults, .ok _ => .bad faults
  | .bad faults, .bad more => .bad (faults ++ more)

instance : Functor Checked where
  map := map

instance : Applicative Checked where
  pure := .ok
  seq f x := both f (x ())

/-- A check that runs only on a sound result. -/
def andThen (x : Checked α) (f : α → Checked β) : Checked β :=
  match x with
  | .ok a => f a
  | .bad faults => .bad faults

/-- Moves faults below a step. -/
def under (step : Step) : Checked α → Checked α
  | .ok a => .ok a
  | .bad faults => .bad (faults.map fun fault => { fault with path := step :: fault.path })

/-- The result, if there is one. -/
def toOption : Checked α → Option α
  | .ok a => some a
  | .bad _ => none

end Checked

/-- A reader of values. -/
abbrev Reader (α : Type u) := Value → Checked α

namespace Read

/-- A text, with the characters in it that stand for lone surrogates. -/
def looseText : Reader (String × StandIns)
  | .text s => .ok (s, [])
  | .scalar (.broken s standIns) => .ok (s, standIns)
  | _ => .fail .notText

/-- A text. A lone surrogate in it counts as the replacement character. -/
def text : Reader String
  | .text s => .ok s
  | .scalar (.broken s standIns) => .ok (standIns.replaced s)
  | _ => .fail .notText

/-- A text with at least one character, and without lone surrogates. -/
def filledText : Reader { s : String // s ≠ "" }
  | .scalar (.broken _ _) => .fail .notUnicode
  | value => (text value).andThen fun s => if h : s = "" then .fail .textTooShort else .ok ⟨s, h⟩

/-- A part that may be null. -/
def optional (reader : Reader α) : Reader (Option α)
  | .null => .ok none
  | value => (reader value).map some

/-- A text out of a fixed choice. -/
def choice (options : List (String × α)) : Reader α
  | .text s =>
    match options.find? (·.1 = s) with
    | some (_, a) => .ok a
    | none => .fail .notChoice
  | _ => .fail .notChoice

/-- Whether an integer fits into 64 bits. -/
def isSmall (n : Int) : Bool := -9223372036854775808 ≤ n && n ≤ 9223372036854775807

/-- The integer that a floating-point number is. It has to lie strictly between the bounds of 64 bits. -/
def integerOfReal (x : Binary64) : Checked Int :=
  match x, x.toInt? with
  | .finite _ _ _, some n =>
    if isSmall n && n ≠ -9223372036854775808 then .ok n else .fail .oversizedInteger
  | .finite _ _ _, none => .fail .fractionalInteger
  | _, _ => .fail .notFinite

/-- An integer: a number without fraction, a truth value as one or zero, or a text that writes one. -/
def integer : Reader Int
  | .int n => .ok n
  | .bool b => .ok (if b then 1 else 0)
  | .real x => integerOfReal x
  | .text s =>
    match Text.readLoose s with
    | .found n => .ok n
    | .unreadable => .fail .unreadableInteger
    | .tooLong => .fail .oversizedInteger
  | .scalar (.broken _ _) => .fail .unreadableInteger
  | _ => .fail .notInteger

/-- An integer that is not below `low` and, if there is a bound, not above `high`. -/
def boundedInteger (low : Nat) (high : Option Nat) : Reader Nat := fun value =>
  (integer value).andThen fun n =>
    if n < low then .fail .tooSmall
    else if high.any fun bound => (bound : Int) < n then .fail .tooLarge
    else .ok n.toNat

/-- Words for yes. -/
def yesWords : List String := ["1", "on", "t", "true", "y", "yes"]

/-- Words for no. -/
def noWords : List String := ["0", "off", "f", "false", "n", "no"]

/-- The truth value that an integer stands for. -/
def truthOfInteger (n : Int) : Checked Bool :=
  if n = 0 then .ok false else if n = 1 then .ok true else .fail .unreadableTruth

/-- A truth value: itself, one or zero, or a word for yes or no in any case. Numbers that are no small
integers are of a wrong kind. -/
def truth : Reader Bool
  | .bool b => .ok b
  | .int n => if isSmall n then truthOfInteger n else .fail .notTruth
  | .real x =>
    match integerOfReal x with
    | .ok n => truthOfInteger n
    | .bad _ => .fail .notTruth
  | .text s =>
    let word := String.ofList (s.toList.map Char.toLower)
    if yesWords.contains word then .ok true
    else if noWords.contains word then .ok false
    else .fail .unreadableTruth
  | .scalar (.broken _ _) => .fail .unreadableTruth
  | _ => .fail .notTruth

/-- Reads items in turn, each under its index. -/
def items (reader : Reader α) (index : Nat) : List Value → Checked (List α)
  | [] => .ok []
  | value :: rest =>
    List.cons <$> ((reader value).under (.index index)) <*> items reader (index + 1) rest

/-- A list. -/
def list (reader : Reader α) : Reader (List α)
  | .list values => items reader 0 values
  | _ => .fail .notList

/-- How many values a reader accepts. -/
def soundCount (reader : Reader α) (values : List Value) : Nat :=
  values.countP fun value => (reader value).toOption.isSome

/-- A list with at least one item; only sound items are counted. -/
def filledList (reader : Reader α) : Reader { xs : List α // xs ≠ [] } := fun value =>
  match value with
  | .list values =>
    let short : Checked Unit :=
      if soundCount reader values = 0 then .fail .listTooShort else .ok ()
    let found := (fun xs _ => xs) <$> items reader 0 values <*> short
    found.andThen fun xs => if h : xs = [] then .fail .listTooShort else .ok ⟨xs, h⟩
  | _ => .fail .notList

/-- A list of exactly two items. -/
def pair {α β : Type u} (first : Reader α) (second : Reader β) : Reader (α × β)
  | .list [a, b] =>
    Prod.mk <$> (first a).under (.index 0) <*> (second b).under (.index 1)
  | .list [a] =>
    Prod.mk <$> (first a).under (.index 0) <*> (Checked.fail .missing).under (.index 1)
  | .list [] =>
    Prod.mk <$> (Checked.fail .missing).under (.index 0) <*>
      (Checked.fail .missing).under (.index 1)
  | .list (_ :: _ :: _ :: _) => .fail .listTooLong
  | _ => .fail .notList

/-- The step that a key is reported by. -/
def keyStep : Scalar → Step
  | .text s => .name s
  | .int n => .index n
  | .bool b => .index (if b then 1 else 0)
  | key => .name key.inner

/-- Reads the entries of a mapping from texts, each under its key. -/
def entries (reader : Reader α) : List (Scalar × Value) → Checked (List (String × α))
  | [] => .ok []
  | (key, value) :: rest =>
    let name : Checked String := match key with
      | .text s => .ok s
      | _ => ((Checked.fail .notText).under (.name "[key]")).under (keyStep key)
    List.cons <$> (Prod.mk <$> name <*> (reader value).under (keyStep key)) <*> entries reader rest

/-- A mapping from texts, in its order. -/
def mapping (reader : Reader α) : Reader (List (String × α))
  | .map found => entries reader found
  | _ => .fail .notMapping

/-- Faults in the keys of a record: keys that are no text or name no field. -/
def strayKeys (fields : List String) : List (Scalar × Value) → List Fault
  | [] => []
  | (.text s, _) :: rest =>
    if fields.contains s then strayKeys fields rest
    else ⟨[.name s], .unknownField⟩ :: strayKeys fields rest
  | (key, _) :: rest => ⟨[keyStep key], .badKey⟩ :: strayKeys fields rest

/-- A record: a mapping whose keys are among the fields. `body` reads the fields from its entries. -/
def record (fields : List String) (body : Value → Checked α) : Reader α := fun value =>
  match value with
  | .map found =>
    match strayKeys fields found with
    | [] => body value
    | stray => (fun a (_ : Unit) => a) <$> body value <*> .bad stray
  | _ => .fail .notRecord

/-- A field that must be there. -/
def field (name : String) (reader : Reader α) (value : Value) : Checked α :=
  match value.get? name with
  | some part => (reader part).under (.name name)
  | none => (Checked.fail .missing).under (.name name)

/-- A field with a default for when it is absent. -/
def fieldOr (name : String) (default : α) (reader : Reader α) (value : Value) : Checked α :=
  match value.get? name with
  | some part => (reader part).under (.name name)
  | none => .ok default

end Read

/-- A record of a kind could not be read. -/
structure Malformed where
  title : String
  faults : List Fault
deriving DecidableEq, Repr

/-- The headline of a malformed record. -/
def Malformed.message (m : Malformed) : String :=
  let count := m.faults.length
  toString count ++ " validation error" ++ (if count = 1 then "" else "s") ++ " for " ++ m.title

/-- The outcome of reading a titled record. -/
def Checked.titled (title : String) : Checked α → Except Malformed α
  | .ok a => .ok a
  | .bad faults => .error ⟨title, faults⟩

end SchemaScribe.Document
