import SchemaScribe.Document.Moment
import SchemaScribe.Text.Numeral

/-!
# Plain scalars

What a scalar without quotes looks like: a truth value, a number, nothing, a moment, or else a text. Numbers
may be written in base two, eight, sixteen or sixty and with underscores between their digits; a number with
a fraction needs its point.
-/

namespace SchemaScribe.Document.Yaml

open SchemaScribe.Text (digitIn? splitSign)

/-- What a scalar is taken for. Two kinds have a meaning only as keys, and an indicator has none. -/
inductive Kind where
  | null
  | truth
  | whole
  | pointed
  | moment
  | merge
  | default
  | indicator
  | text
deriving DecidableEq, Repr

/-! ## Truth values and nothing -/

/-- A word as it is, with a capital, and in capitals. -/
def spellings (word : String) : List (List Char) :=
  let s := word.toList
  [s, s.take 1 |>.map Char.toUpper |>.append (s.drop 1), s.map Char.toUpper]

/-- The words for yes and no. -/
def truthWords : List (String × Bool) :=
  [("yes", true), ("no", false), ("true", true), ("false", false), ("on", true), ("off", false)]

/-- Whether a text looks like a truth value. -/
def isTruth (s : List Char) : Bool := (truthWords.flatMap fun w => spellings w.1).contains s

/-- Whether a text looks like nothing. -/
def isNothing (s : List Char) : Bool := s = [] || s = ['~'] || (spellings "null").contains s

/-! ## Numbers -/

/-- Digits of a base or underscores. -/
def isDigitOrGap (base : Nat) (c : Char) : Bool := c.toNat < 0x80 && (digitIn? base c).isSome || c = '_'

/-- Whether a text is digits with underscores, a digit first. -/
def isDecimal : List Char → Bool
  | [] => false
  | c :: rest => c.isDigit && rest.all (isDigitOrGap 10)

/-- Whether a text is a place of base sixty behind a colon. -/
def isSixtieth : List Char → Bool
  | [a] => a.isDigit
  | [a, b] => '0' ≤ a && a ≤ '5' && b.isDigit
  | _ => false

/-- Whether a text is two or more places of base sixty. -/
def isSixties (s : List Char) : Bool :=
  match s.splitOn ':' with
  | first :: second :: more => isDecimal first && (second :: more).all isSixtieth
  | _ => false

/-- Whether a text looks like a whole number. -/
def isWhole (s : List Char) : Bool :=
  match (splitSign s).2 with
  | ['0'] => true
  | '0' :: 'b' :: rest => !rest.isEmpty && rest.all (isDigitOrGap 2)
  | '0' :: 'x' :: rest => !rest.isEmpty && rest.all (isDigitOrGap 16)
  | '0' :: rest => rest.all (isDigitOrGap 8)
  | body => isDecimal body || isSixties body

/-- Whether a text is the power behind a number, a letter, a sign and digits, or nothing. -/
def isPower : List Char → Bool
  | [] => true
  | e :: sign :: digits =>
    (e = 'e' || e = 'E') && (sign = '+' || sign = '-') && !digits.isEmpty && digits.all Char.isDigit
  | _ => false

/-- Whether a text looks like a number with a point. -/
def isPointed (s : List Char) : Bool :=
  let body := (splitSign s).2
  let whole := body.takeWhile (· ≠ '.')
  match body.drop whole.length with
  | [] => false
  | _ :: behind =>
    let digits := behind.takeWhile (isDigitOrGap 10)
    let power := behind.drop digits.length
    if whole.isEmpty then
      ["inf", "Inf", "INF"].any (·.toList = behind) ||
        (s.head? = some '.' &&
          (["nan", "NaN", "NAN"].any (·.toList = behind) || (isDecimal digits && isPower power)))
    else (isDecimal whole && isPower power) || (isSixties whole && power.isEmpty)

/-! ## All together -/

/-- What a scalar is looked at by: one line feed at its end does not count, but a line feed alone does. -/
def beforeFeed (s : List Char) : List Char :=
  if s.getLast? = some '\n' && 1 < s.length then s.dropLast else s

/-- Whether a text is one of the characters that mark a node. -/
def isIndicator (s : List Char) : Bool := s = ['!'] || s = ['&'] || s = ['*']

/-- What a scalar is taken for by its looks. -/
def kindOf (text : String) : Kind :=
  let s := beforeFeed text.toList
  if isTruth s then .truth
  else if isPointed s then .pointed
  else if isWhole s then .whole
  else if s = ['<', '<'] then .merge
  else if isNothing s then .null
  else if Moment.looksLike s then .moment
  else if s = ['='] then .default
  else if isIndicator s then .indicator
  else .text

/-- Whether a plain scalar is taken for the text it is. -/
def isPlainText (text : String) : Bool := kindOf text = .text

end SchemaScribe.Document.Yaml
