import SchemaScribe.Document.Flaw
import SchemaScribe.Document.Value
import SchemaScribe.Document.Yaml.Plain
import SchemaScribe.Text.Decimal
import SchemaScribe.Text.Lowercase

/-!
# What scalars mean

The value of a text that is taken for a truth value, a number, nothing or a moment. A plain scalar is taken
for what it looks like, but a tag can have any text taken for anything; then there may be no such value.
-/

namespace SchemaScribe.Document.Yaml

open SchemaScribe.Text (Binary64 readInteger readDecimal? signed splitSign)

/-- A text without underscores. -/
def withoutGaps (s : List Char) : List Char := s.filter (· ≠ '_')

/-- A whole number in a base. -/
def wholeIn (base : Nat) (s : List Char) : Except Flaw Int := (readInteger base s).mapError .integer

/-- The sum of places of base sixty, the highest first. -/
def sixties (places : List Int) : Int := places.foldl (fun n place => n * 60 + place) 0

/-- A whole number behind its sign. A zero in front is the mark of a base. -/
def magnitude : List Char → Except Flaw Int
  | [] => .error .noDigits
  | ['0'] => .ok 0
  | '0' :: 'b' :: rest => wholeIn 2 rest
  | '0' :: 'x' :: rest => wholeIn 16 rest
  | '0' :: rest => wholeIn 8 ('0' :: rest)
  | s => if s.contains ':' then ((s.splitOn ':').mapM (wholeIn 10)).map sixties else wholeIn 10 s

/-- The whole number that a text stands for. -/
def wholeOf (text : String) : Except Flaw Int :=
  let (negative, body) := splitSign (withoutGaps text.toList)
  (magnitude body).map fun n => if negative then -n else n

/-- A number with a point, which may also be a whole one. -/
def decimal (s : List Char) : Except Flaw Binary64 :=
  match readDecimal? s with
  | some x => .ok x
  | none => .error (.real (.ofList s))

/-- The sum of places of base sixty, the lowest first; `unit` is the value of a one in the next place. Each
product and each sum is rounded. -/
def roundedSixties (unit : Nat) (sum : Binary64) : List Binary64 → Except Flaw Binary64
  | [] => .ok sum
  | place :: more =>
    match Binary64.ofInt unit with
    | .infinite _ => .error .realTooLarge
    | factor => roundedSixties (unit * 60) (sum.add (place.mul factor)) more

/-- A number with a point behind its sign. -/
def pointedMagnitude (s : List Char) : Except Flaw Binary64 :=
  if s = ".inf".toList then .ok (.infinite false)
  else if s = ".nan".toList then .ok .nan
  else if s.contains ':' then do
    roundedSixties 1 .zero (← (s.splitOn ':').mapM decimal).reverse
  else decimal s

/-- The number with a point that a text stands for. -/
def realOf (text : String) : Except Flaw Binary64 :=
  match (Text.lower (withoutGaps text.toList)) with
  | [] => .error .noDigits
  | s =>
    let (negative, body) := splitSign s
    (pointedMagnitude body).map fun x => if negative then x.neg else x

/-- The truth value that a text stands for. -/
def truthOf (text : String) : Except Flaw Bool :=
  let word := String.ofList (Text.lower text.toList)
  match entryAt? word truthWords with
  | some b => .ok b
  | none => .error (.truth word)

/-- The moment that a text stands for. -/
def momentOf (text : String) : Except Flaw Moment :=
  match Moment.read? (beforeFeed text.toList) with
  | none => .error .noMoment
  | some m =>
    match m.fault? with
    | some fault => .error (.moment fault)
    | none => .ok m

/-- The scalar that a text stands for if it is taken for something. What has a meaning only as a key, or has
no meaning, has none here. -/
def meaning (kind : Kind) (text : String) : Except Flaw Scalar :=
  match kind with
  | .null => .ok .null
  | .truth => (truthOf text).map .bool
  | .whole => (wholeOf text).map .int
  | .pointed => (realOf text).map .real
  | .moment => (momentOf text).map fun m => .moment m.shown
  | .text => .ok (.text text)
  | .merge | .default | .indicator => .error .malformed

end SchemaScribe.Document.Yaml
