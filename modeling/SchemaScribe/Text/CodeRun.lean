/-!
# Runs of code points

The properties of characters that the program relies on beyond ASCII are kept as tables of runs. A
run is an arithmetic progression, because small and capital letters alternate in much of Unicode.
-/

namespace SchemaScribe.Text

/-- The code points `first`, `first + step`, … up to `last`. -/
structure CodeRun where
  first : Nat
  last : Nat
  step : Nat

/-- Membership of a code point in a run. -/
def CodeRun.contains (run : CodeRun) (code : Nat) : Bool :=
  run.first ≤ code && code ≤ run.last && (code - run.first) % run.step == 0

/-- A character belongs to a table when one of its runs holds its code point. -/
def inTable (table : List CodeRun) (c : Char) : Bool :=
  table.any (·.contains c.toNat)

end SchemaScribe.Text
