import SchemaScribe.Render.Unit
import SchemaScribe.Text.Blank

/-!
# Custom regions

Generated files have regions that people may fill, between an opening and a closing line. A text is cut
into **pieces**: lines, and regions with their bodies. Merging puts the bodies of an old text into the
regions of a new one, first into first. A text is the lines of its pieces (`Piece.joined_pieces`), so
merging changes nothing outside the bodies.
-/

namespace SchemaScribe.Output

open SchemaScribe.Text

/-- Drops the spaces and tabs at the front of a line. -/
def dropIndent (line : List Char) : List Char := line.dropWhile fun c => c = ' ' || c = '\t'

/-- Whether a line opens a region: the mark stands alone on it. -/
def opensRegion (line : List Char) : Bool :=
  trimLine (dropIndent line) = Render.customBegin.toList

/-- Whether a line closes a region: it starts with the mark. -/
def closesRegion (line : List Char) : Bool :=
  Render.customEnd.toList.isPrefixOf (dropIndent line)

/-- A line, or a region with its opening and closing lines. -/
inductive Piece where
  | line (text : List Char)
  | region (opening : List Char) (body : List (List Char)) (closing : List Char)
deriving DecidableEq

/-- The lines of a piece. -/
def Piece.lines : Piece → List (List Char)
  | .line text => [text]
  | .region opening body closing => opening :: body ++ [closing]

/-- The lines before the first closing line, that line, and the lines after it. -/
def splitAtClosing : List (List Char) → Option (List (List Char) × List Char × List (List Char))
  | [] => none
  | line :: rest =>
    if closesRegion line then some ([], line, rest)
    else (splitAtClosing rest).map fun (body, closing, after) => (line :: body, closing, after)

theorem splitAtClosing_eq {lines body after : List (List Char)} {closing : List Char}
    (h : splitAtClosing lines = some (body, closing, after)) :
    lines = body ++ closing :: after := by
  induction lines generalizing body with
  | nil => simp [splitAtClosing] at h
  | cons line rest ih =>
    rw [splitAtClosing] at h
    split at h
    · simp only [Option.some.injEq, Prod.mk.injEq] at h
      obtain ⟨rfl, rfl, rfl⟩ := h
      rfl
    · simp only [Option.map_eq_some_iff, Prod.mk.injEq] at h
      obtain ⟨⟨b, c, a⟩, hrest, rfl, rfl, rfl⟩ := h
      rw [ih hrest]
      rfl

/-- The pieces of lines. An opening line that nothing closes is a line like others. -/
def piecesOf (lines : List (List Char)) : List Piece :=
  match lines with
  | [] => []
  | line :: rest =>
    if opensRegion line then
      match _h : splitAtClosing rest with
      | some (body, closing, after) => .region line body closing :: piecesOf after
      | none => .line line :: piecesOf rest
    else .line line :: piecesOf rest
termination_by lines.length
decreasing_by
  · rw [splitAtClosing_eq _h]
    simp
    omega
  all_goals simp_wf

/-- Cutting into pieces keeps every line. -/
theorem lines_piecesOf (lines : List (List Char)) :
    (piecesOf lines).flatMap Piece.lines = lines := by
  fun_induction piecesOf lines with
  | case1 => rfl
  | case2 line rest _ body closing after h ih =>
    simp [Piece.lines, ih, splitAtClosing_eq h]
  | case3 line rest _ _ ih => simp [Piece.lines, ih]
  | case4 line rest _ ih => simp [Piece.lines, ih]

/-- The pieces of a text. -/
def pieces (text : List Char) : List Piece := piecesOf (splitLines text)

/-- The text of pieces. -/
def joinPieces (ps : List Piece) : List Char := joinLines (ps.flatMap Piece.lines)

/-- The bodies of the regions among pieces. -/
def bodies (ps : List Piece) : List (List (List Char)) :=
  ps.filterMap fun
    | .region _ body _ => some body
    | .line _ => none

/-- The text of a body; every line of it ends. -/
def bodyText (body : List (List Char)) : List Char := body.flatMap (· ++ ['\n'])

/-- The bodies of the custom regions of a text, in order. -/
def customRegions (text : String) : List String :=
  (bodies (pieces text.toList)).map fun body => .ofList (bodyText body)

/-- Puts bodies into the regions among pieces, first into first. -/
def fill : List Piece → List (List (List Char)) → List Piece
  | [], _ => []
  | .region opening _ closing :: rest, body :: more => .region opening body closing :: fill rest more
  | .region opening body closing :: rest, [] => .region opening body closing :: fill rest []
  | .line text :: rest, all => .line text :: fill rest all

/-- The bodies that merging carries over: those of the old text, if one of them is not blank. -/
def carriedBodies (old : String) : List (List (List Char)) :=
  let found := bodies (pieces old.toList)
  if found.all fun body => allBlank (bodyText body) then [] else found

/-- A new text with the custom regions of an old one. -/
def mergeRegions (new : String) (old : Option String) : String :=
  match carriedBodies (old.getD "") with
  | [] => new
  | carried => .ofList (joinPieces (fill (pieces new.toList) carried))

/-- How many carried regions have no place in the new text. -/
def lostRegions (new : String) (old : Option String) : Nat :=
  (carriedBodies (old.getD "")).length - (bodies (pieces new.toList)).length

end SchemaScribe.Output
