import SchemaScribe.Text.CodeRun

/-!
# Blank characters

The white space of Unicode together with the four information separators. Trimming, collapsing and
the test for an empty region all use this one class.
-/

namespace SchemaScribe.Text

/-- The blank characters. -/
def blankRuns : List CodeRun := [
  ⟨0x9, 0xd, 1⟩, ⟨0x1c, 0x20, 1⟩, ⟨0x85, 0x85, 1⟩, ⟨0xa0, 0xa0, 1⟩, ⟨0x1680, 0x1680, 1⟩,
  ⟨0x2000, 0x200a, 1⟩, ⟨0x2028, 0x2029, 1⟩, ⟨0x202f, 0x202f, 1⟩, ⟨0x205f, 0x205f, 1⟩,
  ⟨0x3000, 0x3000, 1⟩]

/-- White space in the wide sense of this module. -/
def isBlank (c : Char) : Bool := inTable blankRuns c

/-- Drops blanks at the front. -/
def trimStart (s : List Char) : List Char := s.dropWhile isBlank

/-- Drops blanks at the back. -/
def trimEnd (s : List Char) : List Char := (s.reverse.dropWhile isBlank).reverse

/-- Drops blanks on both sides. -/
def trim (s : List Char) : List Char := trimEnd (trimStart s)

/-- A text of blanks only; the empty text is one. -/
def allBlank (s : List Char) : Bool := s.all isBlank

end SchemaScribe.Text
