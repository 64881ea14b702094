/-!
# Lines

A line ends at a line feed and nowhere else. The canonical form of a text has no blanks at the ends
of its lines and exactly one line feed at its end.
-/

namespace SchemaScribe.Text

/-- The lines of a text, without their line feeds; a final line feed is followed by an empty line. -/
def splitLines (s : List Char) : List (List Char) := s.splitOn '\n'

/-- Puts lines together with a line feed between neighbours. -/
def joinLines (lines : List (List Char)) : List Char := ['\n'].intercalate lines

/-- Puts lines together with a line feed between neighbours. -/
def unlines (lines : List String) : String := "\n".intercalate lines

/-- Drops the spaces and tabs at the end of a line. -/
def trimLine (line : List Char) : List Char :=
  (line.reverse.dropWhile fun c => c = ' ' || c = '\t').reverse

/-- Drops all line feeds at the end. -/
def dropFinalFeeds (s : List Char) : List Char := (s.reverse.dropWhile (· = '\n')).reverse

/-- The canonical form of a text. -/
def canonicalChars (s : List Char) : List Char :=
  dropFinalFeeds (joinLines ((splitLines s).map trimLine)) ++ ['\n']

/-- The canonical form of a text. -/
def canonical (s : String) : String := .ofList (canonicalChars s.toList)

/-- How many lines a text has; the last one need not be ended. -/
def lineCount (s : String) : Nat :=
  let feeds := s.toList.count '\n'
  match s.toList.getLast? with
  | none => 0
  | some '\n' => feeds
  | some _ => feeds + 1

/-- Reads every line ending, bare or paired carriage returns included, as one line feed. -/
def unifyNewlines : List Char → List Char
  | [] => []
  | '\r' :: '\n' :: rest => '\n' :: unifyNewlines rest
  | '\r' :: rest => '\n' :: unifyNewlines rest
  | c :: rest => c :: unifyNewlines rest

end SchemaScribe.Text
