/-!
# Binary floating-point numbers

Numbers of the binary64 format, kept exactly as a signed whole number times a power of two, so that
reading, rounding and printing are done in whole-number arithmetic. A ratio is rounded to the nearest
number of the format, ties to the even one. A number is printed with the fewest digits that round back
to it, or with a fixed number of places.
-/

namespace SchemaScribe.Text

/-- A number of the binary64 format. A finite one is `± mantissa · 2 ^ exponent`; the mantissa has 53
bits unless the exponent is the least one. -/
inductive Binary64 where
  | finite (negative : Bool) (mantissa : Nat) (exponent : Int)
  | infinite (negative : Bool)
  | nan
deriving DecidableEq, Repr, Inhabited

namespace Binary64

/-- The least exponent of the format. -/
def leastExponent : Int := -1074

/-- Zero. -/
def zero : Binary64 := .finite false 0 leastExponent

/-- A power of two. -/
def twoTo (n : Nat) : Nat := Nat.pow 2 n

/-- A power of ten. -/
def tenTo (n : Nat) : Nat := Nat.pow 10 n

/-- The quotient rounded to a whole number, ties to the even one. -/
def divideToEven (num den : Nat) : Nat :=
  let q := num / den
  let twice := 2 * (num % den)
  if twice < den then q
  else if den < twice then q + 1
  else if q % 2 = 0 then q else q + 1

/-- The two sides of `num / den · 2 ^ shift` as whole numbers. -/
def scaleByTwo (num den : Nat) (shift : Int) : Nat × Nat :=
  if 0 ≤ shift then (num * twoTo shift.toNat, den) else (num, den * twoTo (-shift).toNat)

/-- The nearest number to `± num / den`. -/
def ofRatio (negative : Bool) (num den : Nat) : Binary64 :=
  if num = 0 || den = 0 then .finite negative 0 leastExponent
  else
    let guess : Int := (Nat.log2 num : Int) - (Nat.log2 den : Int)
    let (lhs, rhs) := scaleByTwo num den (-guess)
    let top := if rhs ≤ lhs then guess else guess - 1
    let exponent := max (top - 52) leastExponent
    let (lhs, rhs) := scaleByTwo num den (-exponent)
    let mantissa := divideToEven lhs rhs
    let (mantissa, exponent) :=
      if mantissa = twoTo 53 then (twoTo 52, exponent + 1) else (mantissa, exponent)
    if 971 < exponent then .infinite negative else .finite negative mantissa exponent

/-- The nearest number to `± digits · 10 ^ power`. -/
def ofDecimal (negative : Bool) (digits : Nat) (power : Int) : Binary64 :=
  let places : Int := (toString digits).length
  if digits = 0 || power + places < -400 then .finite negative 0 leastExponent
  else if 400 < power + places then .infinite negative
  else if 0 ≤ power then ofRatio negative (digits * tenTo power.toNat) 1
  else ofRatio negative digits (tenTo (-power).toNat)

/-- The nearest number to an integer. -/
def ofInt (n : Int) : Binary64 := ofRatio (n < 0) n.natAbs 1

/-- The integer that a number is, if it is one. -/
def toInt? : Binary64 → Option Int
  | .finite negative mantissa exponent =>
    let (num, den) := scaleByTwo mantissa 1 exponent
    if num % den = 0 then
      some (if negative then -((num / den : Nat) : Int) else ((num / den : Nat) : Int))
    else none
  | _ => none

/-- The nearest number to the difference of two numbers. -/
def sub : Binary64 → Binary64 → Binary64
  | .finite s m e, .finite s' m' e' =>
    let low := min e e'
    let lhs : Int := (m * twoTo (e - low).toNat : Nat)
    let rhs : Int := (m' * twoTo (e' - low).toNat : Nat)
    let d := (if s then -lhs else lhs) - (if s' then -rhs else rhs)
    if d = 0 then .finite (s && !s') 0 leastExponent
    else
      let (num, den) := scaleByTwo d.natAbs 1 low
      ofRatio (d < 0) num den
  | .nan, _ => .nan
  | _, .nan => .nan
  | .infinite s, .infinite s' => if s = s' then .nan else .infinite s
  | .infinite s, _ => .infinite s
  | _, .infinite s => .infinite !s

/-- The number with the other sign. -/
def neg : Binary64 → Binary64
  | .finite s m e => .finite (!s) m e
  | .infinite s => .infinite !s
  | .nan => .nan

/-- The nearest number to the sum of two numbers. -/
def add (x y : Binary64) : Binary64 := x.sub y.neg

/-- The nearest number to the product of two numbers. -/
def mul : Binary64 → Binary64 → Binary64
  | .finite s m e, .finite s' m' e' =>
    let (num, den) := scaleByTwo (m * m') 1 (e + e')
    ofRatio (s != s') num den
  | .nan, _ => .nan
  | _, .nan => .nan
  | .infinite s, .infinite s' => .infinite (s != s')
  | .infinite s, .finite s' m _ => if m = 0 then .nan else .infinite (s != s')
  | .finite s m _, .infinite s' => if m = 0 then .nan else .infinite (s != s')

/-- The sign of a number as text. -/
def signText (negative : Bool) : String := if negative then "-" else ""

/-- Whole-number digits with a point before the last `places` of them. -/
def pointBefore (places : Nat) (n : Nat) : String :=
  let digits := (toString n).toList
  let digits := List.replicate (places + 1 - digits.length) '0' ++ digits
  let whole := digits.take (digits.length - places)
  if places = 0 then .ofList whole
  else .ofList (whole ++ '.' :: digits.drop (digits.length - places))

/-- A number with a fixed count of places after the point; a tie goes to the even last digit. -/
def fixed (places : Nat) : Binary64 → String
  | .finite negative mantissa exponent =>
    let (num, den) := scaleByTwo (mantissa * tenTo places) 1 exponent
    signText negative ++ pointBefore places (divideToEven num den)
  | .infinite negative => signText negative ++ "inf"
  | .nan => "nan"

/-- The decimals that round to a number lie between two ratios over one denominator. -/
structure Interval where
  low : Nat
  value : Nat
  high : Nat
  denominator : Nat
  closed : Bool

/-- The interval of the reals that round to `mantissa · 2 ^ exponent`. -/
def interval (mantissa : Nat) (exponent : Int) : Interval :=
  let narrow := mantissa = twoTo 52 && leastExponent < exponent
  let (unit, den) := scaleByTwo 1 4 exponent
  { low := (4 * mantissa - (if narrow then 1 else 2)) * unit
    value := 4 * mantissa * unit
    high := (4 * mantissa + 2) * unit
    denominator := den
    closed := mantissa % 2 = 0 }

/-- Whether `n · 10 ^ power` lies in the interval. -/
def Interval.holds (i : Interval) (n : Nat) (power : Int) : Bool :=
  let (lhs, rhs) : Nat × Nat :=
    if 0 ≤ power then (n * tenTo power.toNat * i.denominator, 1)
    else (n * i.denominator, tenTo (-power).toNat)
  if i.closed then i.low * rhs ≤ lhs && lhs ≤ i.high * rhs
  else i.low * rhs < lhs && lhs < i.high * rhs

/-- How many digits stand before the point of `value / denominator`; not positive for small ones. -/
def Interval.magnitude (i : Interval) : Int :=
  if i.denominator ≤ i.value then ((toString (i.value / i.denominator)).length : Int)
  else 1 - (leadingZeros 400 i.value : Int)
where
  /-- How often a number must be multiplied by ten to reach the denominator. -/
  leadingZeros : Nat → Nat → Nat
    | 0, _ => 0
    | fuel + 1, n => if i.denominator ≤ n then 0 else leadingZeros fuel (n * 10) + 1

/-- The number of the grid `10 ^ power` that lies in the interval and is nearest to its value. -/
def Interval.onGrid (i : Interval) (power : Int) : Option Nat :=
  let (num, den) : Nat × Nat :=
    if 0 ≤ power then (i.value, i.denominator * tenTo power.toNat)
    else (i.value * tenTo (-power).toNat, i.denominator)
  let below := num / den
  let nearest := divideToEven num den
  let other := if nearest = below then below + 1 else below
  if i.holds nearest power then some nearest
  else if i.holds other power then some other
  else none

/-- The fewest digits in the interval with the power of ten of the last one. -/
def Interval.fewestDigits (i : Interval) : Nat × Int :=
  let magnitude := i.magnitude
  let grids := (List.range 17).map fun k => magnitude - (k + 1 : Nat)
  (grids.findSome? fun power => (i.onGrid power).map (·, power)).getD (0, 0)

/-- A number with the fewest digits that round back to it: with a point when the leading digit lies
between the fourth place after the point and the sixteenth before it, else with an exponent. -/
def shortest : Binary64 → String
  | .infinite negative => signText negative ++ "inf"
  | .nan => "nan"
  | .finite negative 0 _ => signText negative ++ "0.0"
  | .finite negative mantissa exponent =>
    let (n, power) := (interval mantissa exponent).fewestDigits
    let digits := (toString n).toList
    let kept := (digits.reverse.dropWhile (· = '0')).reverse
    let lead : Int := power + digits.length - 1
    signText negative ++
      if -4 ≤ lead && lead < 16 then
        if lead < 0 then
          .ofList ('0' :: '.' :: List.replicate (-lead - 1).toNat '0' ++ kept)
        else
          let whole := lead.toNat + 1
          let after := kept.drop whole
          .ofList (kept.take whole ++ List.replicate (whole - kept.length) '0' ++ '.' ::
            (if after.isEmpty then ['0'] else after))
      else
        let places := (toString lead.natAbs).toList
        .ofList (kept.take 1 ++ (if kept.length ≤ 1 then [] else '.' :: kept.drop 1) ++
          'e' :: (if lead < 0 then '-' else '+') ::
          (if places.length < 2 then '0' :: places else places))

end Binary64

end SchemaScribe.Text
