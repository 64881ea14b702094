/-!
# Identifiers of the generated code

Any text becomes an identifier: foreign characters and runs of underscores turn into one underscore,
a leading digit is put behind an underscore, and a keyword gets an underscore at its end.
-/

namespace SchemaScribe.Text

/-- Words that cannot name anything in the generated code. -/
def keywords : List String := [
  "False", "None", "True", "and", "as", "assert", "async", "await", "break", "class", "continue",
  "def", "del", "elif", "else", "except", "finally", "for", "from", "global", "if", "import", "in",
  "is", "lambda", "nonlocal", "not", "or", "pass", "raise", "return", "try", "while", "with",
  "yield"]

/-- The characters an identifier is made of. -/
def isIdentifierChar (c : Char) : Bool := c.isAlphanum || c = '_'

/-- Replaces every other character by an underscore. -/
def underscored (s : List Char) : List Char :=
  s.map fun c => if isIdentifierChar c then c else '_'

/-- Keeps one underscore of each run of them. -/
def squeeze : List Char → List Char
  | [] => []
  | c :: rest =>
    if c = '_' && rest.head? = some '_' then squeeze rest else c :: squeeze rest

/-- The name of what has no usable character. -/
def unnamed : List Char := "_unnamed".toList

/-- Puts a leading digit behind an underscore. -/
def guardDigit : List Char → List Char
  | [] => []
  | c :: rest => if c.isDigit then '_' :: c :: rest else c :: rest

/-- Puts an underscore after a keyword. -/
def guardKeyword (s : List Char) : List Char :=
  if keywords.any (·.toList = s) then s ++ ['_'] else s

/-- The identifier that stands for a text. -/
def identifierChars (s : List Char) : List Char :=
  let body := squeeze (underscored s)
  if body.all (· = '_') then unnamed else guardKeyword (guardDigit body)

/-- The identifier that stands for a text; its letters keep their case. -/
def toIdentifier (name : String) : String := .ofList (identifierChars name.toList)

end SchemaScribe.Text
