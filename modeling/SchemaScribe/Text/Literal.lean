import SchemaScribe.Text.Printable

/-!
# Quoted literals

The string literals of the generated code. A literal is written between single quotes, or between
double quotes when the text holds a single quote and no double one. The quote in use, the backslash
and everything unprintable are escaped.
-/

namespace SchemaScribe.Text

/-- The digit of a hexadecimal place, in small letters. -/
def hexDigit (n : Nat) : Char := "0123456789abcdef".toList.getD n '0'

/-- The last `width` hexadecimal places of a number. -/
def hexPlaces : Nat → Nat → List Char
  | 0, _ => []
  | width + 1, n => hexPlaces width (n / 16) ++ [hexDigit (n % 16)]

/-- The quote a literal of the text is written between. -/
def literalQuote (s : List Char) : Char :=
  if s.contains '\'' && !s.contains '"' then '"' else '\''

/-- The numeric escape of a character, as short as its code point allows. -/
def numericEscape (c : Char) : List Char :=
  let code := c.toNat
  if code ≤ 0xff then '\\' :: 'x' :: hexPlaces 2 code
  else if code ≤ 0xffff then '\\' :: 'u' :: hexPlaces 4 code
  else '\\' :: 'U' :: hexPlaces 8 code

/-- How one character is written inside a literal. -/
def literalChar (quote c : Char) : List Char :=
  if c = quote || c = '\\' then ['\\', c]
  else if c = '\n' then ['\\', 'n']
  else if c = '\r' then ['\\', 'r']
  else if c = '\t' then ['\\', 't']
  else if isPrintable c then [c]
  else numericEscape c

/-- The literal of a text, its quotes included. -/
def literalChars (s : List Char) : List Char :=
  let quote := literalQuote s
  quote :: s.flatMap (literalChar quote) ++ [quote]

/-- The literal of a text, its quotes included. -/
def literal (s : String) : String := .ofList (literalChars s.toList)

/-- A bracketed list of literals. -/
def literalList (items : List String) : String :=
  "[" ++ ", ".intercalate (items.map literal) ++ "]"

/-- A parenthesised tuple of literals; a single item is followed by a comma. -/
def literalTuple : List String → String
  | [item] => "(" ++ literal item ++ ",)"
  | items => "(" ++ ", ".intercalate (items.map literal) ++ ")"

end SchemaScribe.Text
