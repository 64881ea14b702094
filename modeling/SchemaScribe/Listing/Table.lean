import SchemaScribe.Model.Basic
import SchemaScribe.Text.Blank

/-!
# The listing of entities

A table for people: one row per entity with its table and the entities it is related to. Columns are as
wide as their widest cell, and rows end where their text ends.
-/

namespace SchemaScribe.Listing

/-- A row of the listing. -/
structure Row where
  name : String
  table : String
  related : List String := []
deriving DecidableEq, Repr

/-- The rows of a model, in its order. -/
def rowsOf (m : Model) : List Row := m.entities.map fun e => ⟨e.name, e.table, e.relatedEntities⟩

/-- The texts of a row. No related entities are written as a dash. -/
def Row.cells (r : Row) : List String :=
  let related := ", ".intercalate r.related
  [r.name, r.table, if related.isEmpty then "-" else related]

/-- The texts of the first line. -/
def headers : List String := ["Entity", "Table", "Related"]

/-- The widths of the columns of lines. -/
def widths (lines : List (List String)) : List Nat :=
  (List.range headers.length).map fun i =>
    (lines.map fun cells => (cells.getD i "").length).foldl max 0

/-- A text filled up to a width. -/
def fill (width : Nat) (text : String) : String :=
  text ++ .ofList (List.replicate (width - text.length) ' ')

/-- A line of cells without blanks at its end. -/
def lineOf (widths : List Nat) (cells : List String) : String :=
  .ofList (Text.trimEnd ("  ".intercalate (List.zipWith fill widths cells)).toList)

/-- The line below the headers. -/
def ruleOf (widths : List Nat) : String :=
  "  ".intercalate (widths.map fun n => .ofList (List.replicate n '-'))

/-- The number of rows in words. -/
def countLine (n : Nat) : String := toString n ++ if n = 1 then " entity" else " entities"

/-- The listing of rows. -/
def listing (rows : List Row) : String :=
  let w := widths (headers :: rows.map Row.cells)
  "\n".intercalate
    (lineOf w headers :: ruleOf w :: rows.map (fun r => lineOf w r.cells) ++
      ["\n" ++ countLine rows.length])

end SchemaScribe.Listing
