import SchemaScribe.Text.Numeral

/-!
# Loosely written integers

Records accept integers as texts in a loose form: blanks around them, a sign, zeros in front, a point with
zeros behind, and single underscores. The loose form is tidied up into a **strict** one, an optional minus
with ASCII digits of which no needless zero comes first, and the strict form is read.
-/

namespace SchemaScribe.Text

/-- What reading an integer came to. -/
inductive LooseInteger where
  | found (n : Int)
  | unreadable
  | tooLong
deriving DecidableEq, Repr

/-- The value of ASCII digits. -/
def valueOfDigits (digits : List Char) : Nat :=
  digits.foldl (fun n c => n * 10 + (c.toNat - '0'.toNat)) 0

/-- Reads the strict form. A run of too many digits is told even if more than digits follows it; the minus
counts as one of them. -/
def readStrict (s : List Char) : LooseInteger :=
  let (negative, body) : Bool × List Char := match s with
    | '-' :: rest => (true, rest)
    | rest => (false, rest)
  let digits := body.takeWhile Char.isDigit
  let behind := body.drop digits.length
  match digits with
  | [] => .unreadable
  | '0' :: _ :: _ => .unreadable
  | digits =>
    if digitLimit < s.length - behind.length then .tooLong
    else if behind.isEmpty then .found (signed negative (valueOfDigits digits))
    else .unreadable

/-- Digits without needless zeros in front, among which underscores may stand. The last character stays,
and so does one in front of a point; a minus may come behind the zeros. -/
def withoutLeadingZeros : List Char → Option (List Char)
  | '0' :: rest => behindZero '0' rest
  | c :: rest => if c.isDigit || c = '-' then some (c :: rest) else none
  | [] => none
where
  /-- The same behind a zero or underscore. -/
  behindZero (last : Char) : List Char → Option (List Char)
    | [] => some [last]
    | c :: rest =>
      if c = '0' || c = '_' then behindZero c rest
      else if c = '.' then some (last :: c :: rest)
      else if c.isDigit || c = '-' then some (c :: rest)
      else none

/-- A number without its point, if zeros and nothing else stand behind the first one. -/
def withoutZeroFraction (s : List Char) : List Char :=
  match s.dropWhile (· ≠ '.') with
  | _ :: c :: rest => if (c :: rest).all (· = '0') then s.takeWhile (· ≠ '.') else s
  | _ => s

/-- Whether two underscores stand side by side. -/
def hasDoubleGap : List Char → Bool
  | '_' :: '_' :: _ => true
  | _ :: rest => hasDoubleGap rest
  | [] => false

/-- A number without underscores, unless they stand at an end or side by side. -/
def withoutInnerGaps (s : List Char) : List Char :=
  if s.head? = some '_' || s.getLast? = some '_' || hasDoubleGap s then s else s.filter (· ≠ '_')

/-- The strict form of a loose integer, as far as it can be tidied up. -/
def tidied (s : List Char) : Option (List Char) :=
  let tidy := fun (digits : List Char) =>
    (withoutLeadingZeros digits).map fun s => withoutInnerGaps (withoutZeroFraction s)
  match withoutOuterBlanks s with
  | '+' :: '-' :: _ => none
  | '+' :: digits => tidy digits
  | '-' :: digits => (tidy digits).map ('-' :: ·)
  | digits => tidy digits

/-- Reads a loosely written integer. -/
def readLoose (text : String) : LooseInteger :=
  match readStrict text.toList with
  | .unreadable => ((tidied text.toList).map readStrict).getD .unreadable
  | found => found

end SchemaScribe.Text
