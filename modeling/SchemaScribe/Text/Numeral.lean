import SchemaScribe.Text.Blank
import SchemaScribe.Text.Literal

/-!
# Integers in text

An integer is written with an optional sign and digits of any script, in base ten or another base whose
mark may stand in front; blanks may surround it and single underscores may separate its digits. Decimal
digits are limited in number.
-/

namespace SchemaScribe.Text

/-- The code points of the zeros of all scripts; the other digits follow each of them in order. -/
def zeroCodes : List Nat := [
  0x30, 0x660, 0x6f0, 0x7c0, 0x966, 0x9e6, 0xa66, 0xae6, 0xb66, 0xbe6, 0xc66, 0xce6, 0xd66, 0xde6,
  0xe50, 0xed0, 0xf20, 0x1040, 0x1090, 0x17e0, 0x1810, 0x1946, 0x19d0, 0x1a80, 0x1a90, 0x1b50,
  0x1bb0, 0x1c40, 0x1c50, 0xa620, 0xa8d0, 0xa900, 0xa9d0, 0xa9f0, 0xaa50, 0xabf0, 0xff10, 0x104a0,
  0x10d30, 0x11066, 0x110f0, 0x11136, 0x111d0, 0x112f0, 0x11450, 0x114d0, 0x11650, 0x116c0,
  0x11730, 0x118e0, 0x11950, 0x11c50, 0x11d50, 0x11da0, 0x16a60, 0x16ac0, 0x16b50, 0x1d7ce,
  0x1d7d8, 0x1d7e2, 0x1d7ec, 0x1d7f6, 0x1e140, 0x1e2f0, 0x1e950, 0x1fbf0]

/-- The value of a decimal digit of any script. -/
def digitValue? (c : Char) : Option Nat :=
  (zeroCodes.find? fun first => first ≤ c.toNat && c.toNat ≤ first + 9).map (c.toNat - ·)

/-- The value of a letter as a digit above nine. -/
def letterValue? (c : Char) : Option Nat :=
  if 'a' ≤ c && c ≤ 'z' then some (c.toNat - 'a'.toNat + 10)
  else if 'A' ≤ c && c ≤ 'Z' then some (c.toNat - 'A'.toNat + 10)
  else none

/-- The value of a digit of a base. -/
def digitIn? (base : Nat) (c : Char) : Option Nat :=
  ((digitValue? c).or (letterValue? c)).filter (· < base)

/-- What reading digits came to: their value, how many there are, and what stands behind them. -/
structure DigitRun where
  value : Nat
  count : Nat
  rest : List Char

/-- Reads digits with single underscores between them, most significant first; `run` holds what has been
read, and `afterDigit` tells that the last character was a digit. Answers nothing where an underscore
stands elsewhere or no digit comes first. -/
def readDigits (base : Nat) (afterDigit : Bool) (run : DigitRun) : List Char → Option DigitRun
  | [] => if afterDigit then some run else none
  | c :: rest =>
    if c = '_' then
      if afterDigit then readDigits base false { run with rest } rest else none
    else
      match digitIn? base c with
      | some d => readDigits base true ⟨run.value * base + d, run.count + 1, rest⟩ rest
      | none => if afterDigit then some run else none

/-- The blanks that may surround an integer: all but the four information separators. -/
def isOuterBlank (c : Char) : Bool := isBlank c && !(0x1c ≤ c.toNat && c.toNat ≤ 0x1f)

/-- A text without the blanks that may surround an integer. -/
def withoutOuterBlanks (s : List Char) : List Char :=
  ((s.dropWhile isOuterBlank).reverse.dropWhile isOuterBlank).reverse

/-- The letter that marks a base behind a zero. -/
def baseMark? : Nat → Option Char
  | 2 => some 'b'
  | 8 => some 'o'
  | 16 => some 'x'
  | _ => none

/-- Digits without the mark of their base, behind which one underscore may stand. -/
def withoutBaseMark (base : Nat) (s : List Char) : List Char :=
  match s with
  | zero :: mark :: rest =>
    if digitValue? zero = some 0 && baseMark? base = some mark.toLower then
      match rest with
      | '_' :: digits => digits
      | digits => digits
    else s
  | _ => s

/-- A sign in front, and what follows it. -/
def splitSign : List Char → Bool × List Char
  | '-' :: rest => (true, rest)
  | '+' :: rest => (false, rest)
  | s => (false, s)

/-- A number under a sign. -/
def signed (negative : Bool) (n : Nat) : Int := if negative then -(n : Int) else (n : Int)

/-- The most digits that a decimal integer may have. -/
def digitLimit : Nat := 4300

/-- Why a text writes no integer. -/
inductive IntegerFault where
  | unreadable (base : Nat) (text : String)
  | tooLong (digits : Nat)
deriving DecidableEq, Repr

/-- The complaint about a text that writes no integer; at most 200 characters of it are shown. -/
def IntegerFault.message : IntegerFault → String
  | .unreadable base text =>
    "invalid literal for int() with base " ++ toString base ++ ": " ++
      .ofList ((literalChars text.toList).take 200)
  | .tooLong digits =>
    "Exceeds the limit (" ++ toString digitLimit ++ " digits) for integer string conversion: value has " ++
      toString digits ++ " digits; use sys.set_int_max_str_digits() to increase the limit"

/-- The integer that a text writes in a base. Too many decimal digits are told from other faults even
where more than digits follows them. -/
def readInteger (base : Nat) (text : List Char) : Except IntegerFault Int :=
  let (negative, digits) := splitSign (withoutOuterBlanks text)
  match readDigits base false ⟨0, 0, digits⟩ (withoutBaseMark base digits) with
  | none => .error (.unreadable base (.ofList text))
  | some run =>
    if base = 10 && digitLimit < run.count then .error (.tooLong run.count)
    else if run.rest.isEmpty then .ok (signed negative run.value)
    else .error (.unreadable base (.ofList text))

/-- Groups the digits of a number by thousands, counted from the right. -/
def groupThousands (digits : List Char) : List Char :=
  match digits.length % 3 with
  | 0 => [','].intercalate (groups digits)
  | lead => [','].intercalate (digits.take lead :: groups (digits.drop lead))
where
  /-- Cuts digits into threes. -/
  groups : List Char → List (List Char)
    | a :: b :: c :: rest => [a, b, c] :: groups rest
    | [] => []
    | rest => [rest]

/-- An integer with commas between its thousands. -/
def grouped (n : Int) : String :=
  let digits := groupThousands (toString n.natAbs).toList
  if n < 0 then "-" ++ .ofList digits else .ofList digits

end SchemaScribe.Text
