import SchemaScribe.Text.CaseTable

/-!
# Small letters

Lower-casing of a whole text. Two letters need more than a table: the capital I with a dot becomes
two characters, and the capital sigma has a form of its own at the end of a word.
-/

namespace SchemaScribe.Text

/-- Capital letters of every script. -/
def isCapital (c : Char) : Bool :=
  if c.toNat < 0x80 then c.isUpper else inTable capitalRuns c

/-- Letters with case, as the end of a word is judged. -/
def isCased (c : Char) : Bool := inTable casedRuns c

/-- Marks and the like, which do not end a word. -/
def isTransparent (c : Char) : Bool := inTable transparentRuns c

/-- The small letter that one character maps to; other characters stay. -/
def lowerChar (c : Char) : Char :=
  if c.toNat < 0x80 then c.toLower
  else
    match lowerShifts.find? (·.run.contains c.toNat) with
    | some shift => Char.ofNat ((c.toNat : Int) + shift.offset).toNat
    | none => c

/-- Whether the next character that is not transparent has case. -/
def casedAhead (rest : List Char) : Bool :=
  (rest.dropWhile isTransparent).head?.any isCased

/-- The small form of `c`, where `cased` tells whether the word has a cased letter just before it. -/
def lowerAt (cased : Bool) (c : Char) (rest : List Char) : List Char :=
  if c = 'Σ' then [if cased && !casedAhead rest then 'ς' else 'σ']
  else if c = 'İ' then ['i', '\u0307']
  else [lowerChar c]

/-- Lower-cases from a position on; `cased` is what stood before it. -/
def lowerFrom (cased : Bool) : List Char → List Char
  | [] => []
  | c :: rest =>
    lowerAt cased c rest ++ lowerFrom (if isTransparent c then cased else isCased c) rest

/-- The text in small letters. -/
def lower (s : List Char) : List Char := lowerFrom false s

end SchemaScribe.Text
