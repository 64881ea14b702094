import SchemaScribe.Document.Flaw
import SchemaScribe.Document.Value
import SchemaScribe.Text.Percent

/-!
# JSON

Reading and writing JSON. The reader takes exactly the grammar of RFC 8259 with three number words
added; of a repeated name the last value counts, and a string may hold lone surrogates. On any other text it tells only that its form is wrong,
because nothing in the program depends on more; a whole number may have too many digits. The writer is laid
out by an indentation.
-/

namespace SchemaScribe.Document.Json

open SchemaScribe.Text (Binary64 CodePoint StandIns digitLimit hexValue? hexPlaces spellCodePoints)

/-- White space between tokens. -/
def isGap (c : Char) : Bool := c = ' ' || c = '\t' || c = '\n' || c = '\r'

/-- Drops white space. -/
def skipGap (s : List Char) : List Char := s.dropWhile isGap

/-- The value of four hexadecimal digits, with the rest. -/
def fourHex : List Char → Option (Nat × List Char)
  | a :: b :: c :: d :: rest =>
    match hexValue? a, hexValue? b, hexValue? c, hexValue? d with
    | some a, some b, some c, some d => some (((a * 16 + b) * 16 + c) * 16 + d, rest)
    | _, _, _, _ => none
  | _ => none

/-- The second half of a surrogate pair behind the first one, with the rest. -/
def secondHalf? : List Char → Option (Nat × List Char)
  | '\\' :: 'u' :: more =>
    match fourHex more with
    | some (low, rest) => if 0xdc00 ≤ low && low < 0xe000 then some (low, rest) else none
    | none => none
  | _ => none

/-- The code point that an escape stands for; `code` was read after `\u`, and the second half of a
surrogate pair may follow it. A half without the other stands alone. -/
def unicodeEscape (code : Nat) (rest : List Char) : CodePoint × List Char :=
  if h : 0xd800 ≤ code ∧ code < 0xe000 then
    match if code < 0xdc00 then secondHalf? rest else none with
    | some (low, rest) => (.char (Char.ofNat (0x10000 + (code - 0xd800) * 0x400 + (low - 0xdc00))), rest)
    | none => (.lone ⟨code, h.1, h.2⟩, rest)
  else (.char (Char.ofNat code), rest)

/-- The character of a one-letter escape. -/
def shortEscape? : Char → Option Char
  | '"' => some '"'
  | '\\' => some '\\'
  | '/' => some '/'
  | 'b' => some '\x08'
  | 'f' => some '\x0c'
  | 'n' => some '\n'
  | 'r' => some '\r'
  | 't' => some '\t'
  | _ => none

/-- Reads a string behind its opening quote; `done` holds its code points in reverse. -/
def readString : Nat → List CodePoint → List Char → Option (List CodePoint × List Char)
  | 0, _, _ => none
  | fuel + 1, done, s =>
    match s with
    | [] => none
    | '"' :: rest => some (done.reverse, rest)
    | '\\' :: 'u' :: rest =>
      match fourHex rest with
      | some (code, rest) =>
        let (point, rest) := unicodeEscape code rest
        readString fuel (point :: done) rest
      | none => none
    | '\\' :: e :: rest =>
      match shortEscape? e with
      | some c => readString fuel (.char c :: done) rest
      | none => none
    | c :: rest => if c.toNat < 0x20 || c = '\\' then none else readString fuel (.char c :: done) rest

/-- The text that code points spell, as a value. -/
def textValue (points : List CodePoint) : Value :=
  let (s, standIns) := spellCodePoints points
  .looseText s standIns

/-- The name that code points spell. A lone surrogate in it counts as the replacement character. -/
def nameText (points : List CodePoint) : Scalar :=
  let (s, standIns) := spellCodePoints points
  .text (standIns.replaced s)

/-- The value of decimal digits. -/
def digitsValue (digits : List Char) : Nat :=
  digits.foldl (fun n c => n * 10 + (c.toNat - '0'.toNat)) 0

/-- Splits off the digits at the front. -/
def digitSpan (s : List Char) : List Char × List Char :=
  (s.takeWhile Char.isDigit, s.dropWhile Char.isDigit)

/-- The digits behind a point, if there is one with digits. -/
def fraction : List Char → List Char × List Char
  | '.' :: rest =>
    match digitSpan rest with
    | ([], _) => ([], '.' :: rest)
    | found => found
  | s => ([], s)

/-- The exponent, if there is one with digits. -/
def exponent (s : List Char) : Option Int × List Char :=
  match s with
  | e :: rest =>
    if e = 'e' || e = 'E' then
      let (negative, rest) : Bool × List Char := match rest with
        | '-' :: more => (true, more)
        | '+' :: more => (false, more)
        | more => (false, more)
      match digitSpan rest with
      | ([], _) => (none, s)
      | (digits, after) =>
        let n : Int := digitsValue digits
        (some (if negative then -n else n), after)
    else (none, s)
  | [] => (none, s)

/-- What was read at the front, with the rest. -/
abbrev Front := Except Flaw (Value × List Char)

/-- Reads the digits of a number behind its sign. -/
def readNumber (negative : Bool) (s : List Char) : Front :=
  let (whole, rest) : List Char × List Char := match s with
    | '0' :: rest => (['0'], rest)
    | _ => digitSpan s
  if whole.isEmpty then .error .malformed
  else
    let (after, rest') := fraction rest
    let (power, rest'') := exponent rest'
    if after.isEmpty && power.isNone then
      if digitLimit < whole.length then .error (.integer (.tooLong whole.length))
      else .ok (.int (Text.signed negative (digitsValue whole)), rest)
    else
      .ok (.real (.ofDecimal negative (digitsValue (whole ++ after))
        (power.getD 0 - after.length)), rest'')

/-- Reads a fixed word that stands for a value. -/
def readWord (word : List Char) (value : Value) (s : List Char) : Front :=
  if word.isPrefixOf s then .ok (value, s.drop word.length) else .error .malformed

/-- Reads a literal word or a number. -/
def readPlain (s : List Char) : Front :=
  match s with
  | 'n' :: _ => readWord "null".toList .null s
  | 't' :: _ => readWord "true".toList (.bool true) s
  | 'f' :: _ => readWord "false".toList (.bool false) s
  | 'N' :: _ => readWord "NaN".toList (.real .nan) s
  | 'I' :: _ => readWord "Infinity".toList (.real (.infinite false)) s
  | '-' :: 'I' :: _ => readWord "-Infinity".toList (.real (.infinite true)) s
  | '-' :: rest => readNumber true rest
  | _ => readNumber false s

mutual

/-- Reads a value at the front. -/
def readValue : Nat → List Char → Front
  | 0, _ => .error .malformed
  | fuel + 1, s =>
    match s with
    | '"' :: rest => do
      let (points, rest) ← wellFormed (readString rest.length.succ [] rest)
      return (textValue points, rest)
    | '[' :: rest =>
      match skipGap rest with
      | ']' :: rest => .ok (.list [], rest)
      | rest => readItems fuel [] rest
    | '\x7b' :: rest =>
      match skipGap rest with
      | '\x7d' :: rest => .ok (.map [], rest)
      | rest => readEntries fuel [] rest
    | _ => readPlain s

/-- Reads list items up to the closing bracket; `done` holds those before in reverse. -/
def readItems : Nat → List Value → List Char → Front
  | 0, _, _ => .error .malformed
  | fuel + 1, done, s => do
    let (item, rest) ← readValue fuel (skipGap s)
    match skipGap rest with
    | ',' :: rest => readItems fuel (item :: done) rest
    | ']' :: rest => return (.list (item :: done).reverse, rest)
    | _ => throw .malformed

/-- Reads entries up to the closing brace; `done` holds those before in reverse. -/
def readEntries : Nat → List (Scalar × Value) → List Char → Front
  | 0, _, _ => .error .malformed
  | fuel + 1, done, s =>
    match skipGap s with
    | '"' :: rest => do
      let (points, rest) ← wellFormed (readString rest.length.succ [] rest)
      let name := nameText points
      match skipGap rest with
      | ':' :: rest => do
        let (value, rest) ← readValue fuel (skipGap rest)
        match skipGap rest with
        | ',' :: rest => readEntries fuel ((name, value) :: done) rest
        | '\x7d' :: rest =>
          return (.map (distinctEntries ((name, value) :: done).reverse), rest)
        | _ => throw .malformed
      | _ => throw .malformed
    | _ => .error .malformed

end

/-- The value that a text writes, white space around it included. -/
def read (s : List Char) : Except Flaw Value := do
  let (value, rest) ← readValue (2 * s.length + 2) (skipGap s)
  if (skipGap rest).isEmpty then return value else throw .malformed

/-- How one character is written inside a string. -/
def stringChar (c : Char) : List Char :=
  if c = '"' then ['\\', '"']
  else if c = '\\' then ['\\', '\\']
  else if c = '\n' then ['\\', 'n']
  else if c = '\r' then ['\\', 'r']
  else if c = '\t' then ['\\', 't']
  else if c = '\x08' then ['\\', 'b']
  else if c = '\x0c' then ['\\', 'f']
  else if c.toNat < 0x20 then '\\' :: 'u' :: hexPlaces 4 c.toNat
  else [c]

/-- A string with its quotes. -/
def stringText (s : String) : String :=
  .ofList ('"' :: s.toList.flatMap stringChar ++ ['"'])

/-- How a code point is written inside a string. -/
def stringPoint : CodePoint → List Char
  | .char c => stringChar c
  | .lone half => '\\' :: 'u' :: hexPlaces 4 half.code

/-- A text with lone surrogates as a string with its quotes. -/
def brokenText (s : String) (standIns : StandIns) : String :=
  .ofList ('"' :: (standIns.codePoints s).flatMap stringPoint ++ ['"'])

/-- A scalar as a value. -/
def scalarText : Scalar → String
  | .null => "null"
  | .bool true => "true"
  | .bool false => "false"
  | .int n => toString n
  | .real .nan => "NaN"
  | .real (.infinite false) => "Infinity"
  | .real (.infinite true) => "-Infinity"
  | .real x => x.shortest
  | .text s => stringText s
  | .broken s standIns => brokenText s standIns
  | .moment written => stringText written

/-- A scalar as the name of an entry. -/
def keyText : Scalar → String
  | .text s | .moment s => stringText s
  | .broken s standIns => brokenText s standIns
  | key => "\"" ++ scalarText key ++ "\""

/-- How values are laid out: on one line, or an item a line with a step of indentation. -/
inductive Layout where
  | line
  | indented (step : Nat)

/-- Puts written parts between brackets; `depth` counts the brackets around. -/
def Layout.bracket (layout : Layout) (depth : Nat) (opening closing : String)
    (parts : List String) : String :=
  if parts.isEmpty then opening ++ closing
  else
    match layout with
    | .line => opening ++ ", ".intercalate parts ++ closing
    | .indented step =>
      let gap := fun n => "\n" ++ String.ofList (List.replicate (step * n) ' ')
      opening ++ gap (depth + 1) ++ ("," ++ gap (depth + 1)).intercalate parts ++ gap depth ++
        closing

mutual

/-- A value at a depth of nesting. -/
def writeAt (layout : Layout) (depth : Nat) : Value → String
  | .scalar s => scalarText s
  | .list items => layout.bracket depth "[" "]" (writeItems layout (depth + 1) items)
  | .map entries => layout.bracket depth "\x7b" "\x7d" (writeEntries layout (depth + 1) entries)

/-- The items of a list. -/
def writeItems (layout : Layout) (depth : Nat) : List Value → List String
  | [] => []
  | item :: rest => writeAt layout depth item :: writeItems layout depth rest

/-- The entries of a mapping. -/
def writeEntries (layout : Layout) (depth : Nat) : List (Scalar × Value) → List String
  | [] => []
  | (key, value) :: rest =>
    (keyText key ++ ": " ++ writeAt layout depth value) :: writeEntries layout depth rest

end

/-- A value as text. -/
def write (layout : Layout) (value : Value) : String := writeAt layout 0 value

end SchemaScribe.Document.Json
