/-!
# Paths

A path is a list of parts, taken from the root or from the working directory. Empty parts and single
dots vanish when a path is read; double dots stay, because what they lead to depends on the tree.
-/

namespace SchemaScribe.Files

/-- A path in a file tree. -/
structure Path where
  absolute : Bool := false
  parts : List String := []
deriving DecidableEq, Repr

namespace Path

/-- The parts of a text between slashes, without empty parts and single dots. -/
def partsOf (s : List Char) : List String :=
  ((s.splitOn '/').map String.ofList).filter fun part => part ≠ "" && part ≠ "."

/-- Reads a path. -/
def ofString (text : String) : Path := ⟨text.toList.head? = some '/', partsOf text.toList⟩

/-- The text of a path. -/
def shown (p : Path) : String :=
  if p.absolute then "/" ++ "/".intercalate p.parts
  else if p.parts.isEmpty then "." else "/".intercalate p.parts

/-- The last part. -/
def name (p : Path) : String := p.parts.getLast?.getD ""

/-- The path without its last part. -/
def parent (p : Path) : Path := ⟨p.absolute, p.parts.dropLast⟩

/-- A path seen from another; an absolute one stays as it is. -/
def join (p q : Path) : Path := if q.absolute then q else ⟨p.absolute, p.parts ++ q.parts⟩

/-- A path with one more part. -/
def child (p : Path) (part : String) : Path := ⟨p.absolute, p.parts ++ [part]⟩

/-- Follows parts from a directory by their spelling alone: double dots drop the part before them. -/
def follow (start : List String) : List String → List String
  | [] => start
  | part :: rest => follow (if part = ".." then start.dropLast else start ++ [part]) rest

/-- The absolute path that a path spells in a working directory. -/
def resolve (p : Path) (home : List String) : Path :=
  ⟨true, follow (if p.absolute then [] else home) p.parts⟩

/-- Whether a part holds the null character, which no name of the system can. -/
def hasNull (p : Path) : Bool := p.parts.any (·.toList.contains '\x00')

/-- The least number of bytes that is too many for a path as a whole. -/
def lengthLimit : Nat := 4096

/-- Whether a path as a whole is longer than the system takes. -/
def isTooLong (p : Path) : Bool := lengthLimit ≤ p.shown.utf8ByteSize

/-- The ending of the last part from its last dot on. A name has none if its last dot is its first or
its last character. -/
def ending (p : Path) : String :=
  let s := p.name.toList
  let after := (s.reverse.takeWhile (· ≠ '.')).reverse
  let before := s.take (s.length - after.length - 1)
  if s.contains '.' && !after.isEmpty && !before.isEmpty then .ofList ('.' :: after) else ""

end Path

end SchemaScribe.Files
