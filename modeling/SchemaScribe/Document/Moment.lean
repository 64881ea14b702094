/-!
# Moments

A moment is a day, or a day with a time of day and possibly an offset from the standard time. How it is
spelled says whether a text looks like one (`Moment.read?`); whether the calendar and the clock have it is
another question (`Moment.fault?`). However it is spelled, it is written in one way (`Moment.shown`).
-/

namespace SchemaScribe.Document

/-- A time of day to the millionth of a second, with an offset in minutes if one is given. -/
structure DayTime where
  hour : Nat
  minute : Nat
  second : Nat
  millionths : Nat
  offset : Option Int
deriving DecidableEq, Repr

/-- A moment, which the calendar and the clock need not have. -/
structure Moment where
  year : Nat
  month : Nat
  day : Nat
  time : Option DayTime
deriving DecidableEq, Repr

/-- Why there is no such moment. -/
inductive MomentFault where
  | year (n : Nat)
  | month
  | day
  | hour
  | minute
  | second
  | offset (minutes : Int)
deriving DecidableEq, Repr

/-- A span of minutes in days and seconds, of which only the days can be negative. -/
def spanText (minutes : Int) : String :=
  let days := minutes.fdiv 1440
  let seconds := minutes.fmod 1440 * 60
  let part := fun (name : String) (n : Int) => if n = 0 then [] else [name ++ "=" ++ toString n]
  let parts := part "days" days ++ part "seconds" seconds
  "datetime.timedelta(" ++ (if parts.isEmpty then "0" else ", ".intercalate parts) ++ ")"

/-- The complaint about a moment that is none. -/
def MomentFault.message : MomentFault → String
  | .year n => "year " ++ toString n ++ " is out of range"
  | .month => "month must be in 1..12"
  | .day => "day is out of range for month"
  | .hour => "hour must be in 0..23"
  | .minute => "minute must be in 0..59"
  | .second => "second must be in 0..59"
  | .offset minutes =>
    "offset must be a timedelta strictly between -timedelta(hours=24) and timedelta(hours=24), not " ++
      spanText minutes ++ "."

namespace Moment

/-! ## Spelling -/

/-- A number of `low` to `high` digits, and what follows. -/
def number? (low high : Nat) (s : List Char) : Option (Nat × List Char) :=
  let digits := (s.take high).takeWhile Char.isDigit
  if low ≤ digits.length then
    some (digits.foldl (fun n c => n * 10 + (c.toNat - '0'.toNat)) 0, s.drop digits.length)
  else none

/-- What follows a character. -/
def char? (c : Char) : List Char → Option (List Char)
  | d :: rest => if d = c then some rest else none
  | [] => none

/-- A space or a tab. -/
def isSpace (c : Char) : Bool := c = ' ' || c = '\t'

/-- The offset that the end of a text spells; there may be none. -/
def offset? (s : List Char) : Option (Option Int) :=
  match s, s.dropWhile isSpace with
  | [], _ => some none
  | _, ['Z'] => some (some 0)
  | _, sign :: rest =>
    if sign = '+' || sign = '-' then do
      let (hours, rest) ← number? 1 2 rest
      let (minutes, rest) ← match rest with
        | [] => some (0, [])
        | _ => char? ':' rest >>= number? 2 2
      let n : Int := (hours * 60 + minutes : Nat)
      if rest.isEmpty then some (some (if sign = '-' then -n else n)) else none
    else none
  | _, [] => none

/-- The digits of a fraction, which may be missing, and what follows. -/
def splitFraction : List Char → List Char × List Char
  | '.' :: rest => (rest.takeWhile Char.isDigit, rest.dropWhile Char.isDigit)
  | rest => ([], rest)

/-- The millionths that the digits of a fraction stand for; further digits are cut off. -/
def millionthsOf (digits : List Char) : Nat :=
  ((digits ++ List.replicate 6 '0').take 6).foldl (fun n c => n * 10 + (c.toNat - '0'.toNat)) 0

/-- A time of day with its offset. A fraction of a second may stand behind the seconds. -/
def time? (s : List Char) : Option DayTime := do
  let (hour, s) ← number? 1 2 s
  let (minute, s) ← char? ':' s >>= number? 2 2
  let (second, s) ← char? ':' s >>= number? 2 2
  let (digits, s) := splitFraction s
  return { hour, minute, second, millionths := millionthsOf digits, offset := ← offset? s }

/-- The moment that a text spells. -/
def read? (s : List Char) : Option Moment := do
  let (year, s) ← number? 4 4 s
  let (month, s) ← char? '-' s >>= number? 1 2
  let (day, s) ← char? '-' s >>= number? 1 2
  match s with
  | [] => return { year, month, day, time := none }
  | c :: rest =>
    if c = 'T' || c = 't' then return { year, month, day, time := some (← time? rest) }
    else if isSpace c then return { year, month, day, time := some (← time? (rest.dropWhile isSpace)) }
    else none

/-- Whether a text spells a moment without being told that it does: a day alone has all its digits. -/
def looksLike (s : List Char) : Bool :=
  match read? s with
  | some m => m.time.isSome || s.length = 10
  | none => false

/-! ## Writing -/

/-- A number in a fixed count of digits. -/
def digits (count n : Nat) : String :=
  let s := toString n
  .ofList (List.replicate (count - s.length) '0') ++ s

/-- An offset as hours and minutes behind its sign. -/
def offsetText (minutes : Int) : String :=
  (if minutes < 0 then "-" else "+") ++ digits 2 (minutes.natAbs / 60) ++ ":" ++
    digits 2 (minutes.natAbs % 60)

/-- A time of day as it is written. -/
def timeText (t : DayTime) : String :=
  digits 2 t.hour ++ ":" ++ digits 2 t.minute ++ ":" ++ digits 2 t.second ++
    (if t.millionths = 0 then "" else "." ++ digits 6 t.millionths) ++
    (match t.offset with
      | some n => offsetText n
      | none => "")

/-- A moment as it is written. -/
def shown (m : Moment) : String :=
  digits 4 m.year ++ "-" ++ digits 2 m.month ++ "-" ++ digits 2 m.day ++
    (match m.time with
      | some t => " " ++ timeText t
      | none => "")

/-! ## The calendar and the clock -/

/-- Whether a year has a leap day. -/
def isLeap (year : Nat) : Bool := year % 4 = 0 && (year % 100 ≠ 0 || year % 400 = 0)

/-- The number of days of a month. -/
def daysOf (year month : Nat) : Nat :=
  if month = 2 then (if isLeap year then 29 else 28)
  else if [4, 6, 9, 11].contains month then 30 else 31

/-- What is wrong with a day. -/
def dayFault? (m : Moment) : Option MomentFault :=
  if m.year = 0 then some (.year m.year)
  else if m.month = 0 || 12 < m.month then some .month
  else if m.day = 0 || daysOf m.year m.month < m.day then some .day
  else none

/-- What is wrong with a time of day. -/
def timeFault? (t : DayTime) : Option MomentFault :=
  if 23 < t.hour then some .hour
  else if 59 < t.minute then some .minute
  else if 59 < t.second then some .second
  else none

/-- What is wrong with an offset: it has to be less than a day. -/
def offsetFault? (t : DayTime) : Option MomentFault :=
  t.offset.bind fun n => if 1440 ≤ n.natAbs then some (.offset n) else none

/-- What is wrong with a moment: the offset is looked at first, then the day, then the time. -/
def fault? (m : Moment) : Option MomentFault :=
  (m.time.bind offsetFault?).or (m.dayFault?.or (m.time.bind timeFault?))

end Moment

end SchemaScribe.Document
