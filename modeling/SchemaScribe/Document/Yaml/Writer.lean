import SchemaScribe.Document.Yaml.Cursor
import SchemaScribe.Document.Value
import SchemaScribe.Document.Yaml.Plain
import SchemaScribe.Text.Literal

/-!
# Writing YAML

Mappings with text keys, written in block style. A text stands plain if it is read back as that text,
between single quotes if that can hold it, and else between double quotes with escapes. A text that
grows beyond the width goes on in the next line where it has a space.
-/

namespace SchemaScribe.Document.Yaml

open SchemaScribe.Text (hexPlaces)

/-- The width beyond which a text goes on in the next line. -/
def width : Nat := 80

/-- How a text is written. -/
inductive ScalarStyle where
  | plain
  | single
  | double
deriving DecidableEq, Repr

/-- Characters that need double quotes: everything but line feeds and printable ASCII. -/
def needsEscape (c : Char) : Bool := !(c = '\n' || (0x20 ≤ c.toNat && c.toNat ≤ 0x7e))

/-- Whether a text has a space next to a line feed, in that order or the other. -/
def hasPair (a b : Char) : List Char → Bool
  | c :: d :: rest => (c = a && d = b) || hasPair a b (d :: rest)
  | _ => false

/-- Whether a character behind the first one means something outside quotes. -/
def hasIndicator : List Char → Bool
  | a :: b :: rest => (b = ':' && atGap rest) || (b = '#' && isGap a) || hasIndicator (b :: rest)
  | _ => false

/-- Whether a text means something else outside quotes because of how it starts. -/
def startsIndicator : List Char → Bool
  | [] => false
  | c :: rest =>
    "#,[]\x7b\x7d&*!|>'\"%@\x60".toList.contains c || ((c = '-' || c = '?' || c = ':') && atGap rest)

/-- Whether a text can stand without quotes. -/
def standsPlain (s : List Char) : Bool :=
  let isOuter := fun (c : Option Char) => c = some ' ' || c = some '\n'
  !s.isEmpty && !isOuter s.head? && !isOuter s.getLast? && !s.contains '\n' && !s.any needsEscape &&
    !startsIndicator s && !hasIndicator s && !"---".toList.isPrefixOf s &&
    !"...".toList.isPrefixOf s && isPlainText (.ofList s)

/-- The style of a text. -/
def styleOf (s : List Char) : ScalarStyle :=
  if standsPlain s then .plain
  else if s.any needsEscape || hasPair ' ' '\n' s || hasPair '\n' ' ' s then .double
  else .single

/-- Text being written: what stands there, in reverse, and the column behind it. -/
structure Line where
  done : List Char
  column : Nat

namespace Line

/-- Adds characters that hold no line feed. -/
def add (l : Line) (s : List Char) : Line := ⟨s.reverse ++ l.done, l.column + s.length⟩

/-- Goes on in the next line at an indentation. -/
def wrap (l : Line) (indent : Nat) : Line :=
  ⟨List.replicate indent ' ' ++ '\n' :: l.done, indent⟩

/-- Ends a line. -/
def feed (l : Line) : Line := ⟨'\n' :: l.done, 0⟩

end Line

/-- A stretch of a text: spaces, line feeds, or anything else. -/
inductive Stretch where
  | spaces (n : Nat)
  | feeds (n : Nat)
  | word (s : List Char)
deriving DecidableEq

/-- Cuts a text into stretches. -/
def stretches : List Char → List Stretch
  | [] => []
  | c :: rest =>
    match c, stretches rest with
    | ' ', .spaces n :: more => .spaces (n + 1) :: more
    | ' ', more => .spaces 1 :: more
    | '\n', .feeds n :: more => .feeds (n + 1) :: more
    | '\n', more => .feeds 1 :: more
    | c, .word s :: more => .word (c :: s) :: more
    | c, more => .word [c] :: more

/-- Writes stretches. A single space beyond the width becomes a line end, but in quotes not at the
start or the end of the text. Line feeds are doubled. -/
def writeStretches (quoted : Bool) (indent : Nat) (first : Bool) : List Stretch → Line → Line
  | [], l => l
  | .spaces n :: rest, l =>
    let l :=
      if n = 1 && width < l.column && !(quoted && (first || rest.isEmpty)) then l.wrap indent
      else l.add (List.replicate n ' ')
    writeStretches quoted indent false rest l
  | .feeds n :: rest, l =>
    let l := (List.range n).foldl (fun l _ => l.feed) l.feed
    let l : Line := ⟨List.replicate indent ' ' ++ l.done, indent⟩
    writeStretches quoted indent false rest l
  | .word s :: rest, l =>
    let s := if quoted then s.flatMap fun c => if c = '\'' then ['\'', '\''] else [c] else s
    writeStretches quoted indent false rest (l.add s)

/-- The letter of an escape. -/
def escapeLetter? : Char → Option Char
  | '\x00' => some '0'
  | '\x07' => some 'a'
  | '\x08' => some 'b'
  | '\t' => some 't'
  | '\n' => some 'n'
  | '\x0b' => some 'v'
  | '\x0c' => some 'f'
  | '\r' => some 'r'
  | '\x1b' => some 'e'
  | '"' => some '"'
  | '\\' => some '\\'
  | '\u0085' => some 'N'
  | '\u00a0' => some '_'
  | '\u2028' => some 'L'
  | '\u2029' => some 'P'
  | _ => none

/-- Capital hexadecimal places. -/
def capitalPlaces (n code : Nat) : List Char := (hexPlaces n code).map Char.toUpper

/-- The escape of a character, if it needs one between double quotes. -/
def escape? (c : Char) : Option (List Char) :=
  if c ≠ '"' && c ≠ '\\' && 0x20 ≤ c.toNat && c.toNat ≤ 0x7e then none
  else
    match escapeLetter? c with
    | some letter => some ['\\', letter]
    | none =>
      let code := c.toNat
      if code ≤ 0xff then some ('\\' :: 'x' :: capitalPlaces 2 code)
      else if code ≤ 0xffff then some ('\\' :: 'u' :: capitalPlaces 4 code)
      else some ('\\' :: 'U' :: capitalPlaces 8 code)

/-- Writes the inside of double quotes. `held` are characters that are still to be written, `index` is
the place of the next character in the text of `length` characters. Beyond the width the text goes on
in the next line behind a backslash, at a space or behind an escape. -/
def writeDouble (indent length : Nat) : Nat → List Char → List Char → Line → Line
  | _, held, [], l => l.add held
  | index, held, c :: rest, l =>
    let (held, l, gone) : List Char × Line × Bool := match escape? c with
      | some text => ([], (l.add held).add text, true)
      | none => (held, l, false)
    let reach : Int := (l.column : Int) + (if gone then -1 else (held.length : Int))
    if 0 < index && index + 1 < length && (c = ' ' || gone || held.isEmpty) && (width : Int) < reach then
      let l := (l.add (held ++ ['\\'])).wrap indent
      let next := if gone then rest.head? else some c
      let l := if next = some ' ' then l.add ['\\'] else l
      writeDouble indent length (index + 1) (if gone then [] else [c]) rest l
    else writeDouble indent length (index + 1) (if gone then [] else held ++ [c]) rest l

/-- Writes a text behind a key; its further lines are indented. -/
def writeText (indent : Nat) (text : String) (l : Line) : Line :=
  let s := text.toList
  match styleOf s with
  | .plain => writeStretches false indent true (stretches s) (l.add [' '])
  | .single => (writeStretches true indent true (stretches s) (l.add [' ', '\''])).add ['\'']
  | .double => (writeDouble indent s.length 0 [] s (l.add [' ', '"'])).add ['"']

/-- A value in a mapping: a text, a whole number, a truth value, or nothing. -/
def writeScalar (indent : Nat) (s : Scalar) (l : Line) : Line :=
  match s with
  | .text text => writeText indent text l
  | .bool b => l.add (if b then " true".toList else " false".toList)
  | .int n => l.add (' ' :: (toString n).toList)
  | _ => l.add " null".toList

/-- The lines of settings at an indentation. -/
def writeSettings (indent : Nat) (settings : List (String × Scalar)) : List Char :=
  settings.flatMap fun (key, value) =>
    let start : Line := ⟨[], 0⟩
    let l := start.add (List.replicate indent ' ' ++ key.toList ++ [':'])
    (writeScalar (indent + 2) value l).done.reverse ++ ['\n']

/-- A document of sections with settings. -/
def writeSections (sections : List (String × List (String × Scalar))) : String :=
  .ofList (sections.flatMap fun (name, settings) =>
    name.toList ++ ':' :: '\n' :: writeSettings 2 settings)

end SchemaScribe.Document.Yaml
