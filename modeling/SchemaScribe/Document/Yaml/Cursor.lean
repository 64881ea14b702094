/-!
# Cursors

A place in a YAML text with its line and column, and the classes of characters that the tokens of the
text are told apart by.
-/

namespace SchemaScribe.Document.Yaml

/-- Characters that end a line. -/
def isBreak (c : Char) : Bool :=
  c = '\n' || c = '\r' || c = '\u0085' || c = '\u2028' || c = '\u2029'

/-- Spaces, tabs and line ends. -/
def isGap (c : Char) : Bool := c = ' ' || c = '\t' || isBreak c

/-- Whether a text is at its end or at a gap. -/
def atGap : List Char → Bool
  | [] => true
  | c :: _ => isGap c

/-- Whether a text starts with the mark of a document's start or end. -/
def atMark (s : List Char) : Bool :=
  ("---".toList.isPrefixOf s || "...".toList.isPrefixOf s) && atGap (s.drop 3)

/-- Characters that a YAML text may hold. -/
def isAllowed (c : Char) : Bool :=
  let n := c.toNat
  c = '\t' || c = '\n' || c = '\r' || (0x20 ≤ n && n ≤ 0x7e) || n = 0x85 ||
    (0xa0 ≤ n && n ≤ 0xd7ff) || (0xe000 ≤ n && n ≤ 0xfffd) || 0x10000 ≤ n

/-- A place in a text. -/
structure Cursor where
  rest : List Char
  line : Nat := 0
  column : Nat := 0
  index : Nat := 0

namespace Cursor

/-- The place behind the next character. -/
def step (c : Cursor) : Cursor :=
  match c.rest with
  | [] => c
  | ch :: rest =>
    let ends := isBreak ch && !(ch = '\r' && rest.head? = some '\n')
    if ends then ⟨rest, c.line + 1, 0, c.index + 1⟩
    else ⟨rest, c.line, if ch = '\ufeff' then c.column else c.column + 1, c.index + 1⟩

/-- The place behind some characters. -/
def skip (c : Cursor) : Nat → Cursor
  | 0 => c
  | n + 1 => c.step.skip n

/-- The place behind all characters of a class. -/
def skipWhile (c : Cursor) (test : Char → Bool) : Cursor := c.skip (c.rest.takeWhile test).length

/-- A line end at the cursor and the place behind it. Separators of lines and paragraphs stand for
themselves, all others for a line feed. -/
def lineEnd? (c : Cursor) : Option (Char × Cursor) :=
  match c.rest with
  | '\r' :: '\n' :: _ => some ('\n', c.skip 2)
  | ch :: _ =>
    if ch = '\u2028' || ch = '\u2029' then some (ch, c.step)
    else if isBreak ch then some ('\n', c.step) else none
  | [] => none

end Cursor

end SchemaScribe.Document.Yaml
