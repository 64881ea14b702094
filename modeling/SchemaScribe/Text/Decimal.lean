import SchemaScribe.Text.Binary64
import SchemaScribe.Text.Numeral

/-!
# Decimal fractions in text

A number is written with an optional sign, decimal digits of any script, an optional point among or around
them, and an optional power of ten; or it is a word for infinity or for no number. Blanks may surround it.
-/

namespace SchemaScribe.Text

/-- The digits at the front by their values, and what follows them. -/
def digitSpan : List Char → List Nat × List Char
  | [] => ([], [])
  | c :: rest =>
    match digitValue? c with
    | some d =>
      let (more, behind) := digitSpan rest
      (d :: more, behind)
    | none => ([], c :: rest)

/-- The number that digits make. -/
def valueOf (digits : List Nat) : Nat := digits.foldl (fun n d => n * 10 + d) 0

/-- The power of ten at the end of a number; without one it is zero. -/
def powerOf? : List Char → Option Int
  | [] => some 0
  | e :: rest =>
    if e.toLower = 'e' then
      let (negative, rest) := splitSign rest
      match digitSpan rest with
      | (d :: digits, []) => some (signed negative (valueOf (d :: digits)))
      | _ => none
    else none

/-- The number of digits with an optional point, under a sign. -/
def decimalOf? (negative : Bool) (s : List Char) : Option Binary64 :=
  let (whole, rest) := digitSpan s
  let (places, rest) := match rest with
    | '.' :: behind => digitSpan behind
    | rest => ([], rest)
  if whole.isEmpty && places.isEmpty then none
  else
    (powerOf? rest).map fun power =>
      .ofDecimal negative (valueOf (whole ++ places)) (power - places.length)

/-- The number that a text writes. -/
def readDecimal? (s : List Char) : Option Binary64 :=
  let (negative, body) := splitSign (withoutOuterBlanks s)
  let word := String.ofList (body.map Char.toLower)
  if ["inf", "infinity"].contains word then some (.infinite negative)
  else if word = "nan" then some .nan
  else decimalOf? negative body

end SchemaScribe.Text
