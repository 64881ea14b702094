import SchemaScribe.Text.Binary64

/-!
# Times of steps

A clock is read as a whole number or as a floating-point number. The time between two readings is exact
as long as both are whole; otherwise it is the nearest floating-point number to their difference.
-/

namespace SchemaScribe.Generation

open SchemaScribe.Text (Binary64)

/-- A reading of a clock, or a time between two. -/
inductive Reading where
  | whole (n : Int)
  | real (x : Binary64)
deriving DecidableEq, Repr

namespace Reading

/-- A reading as a floating-point number; a whole number may be too large for one. -/
def toReal? : Reading → Option Binary64
  | .real x => some x
  | .whole n =>
    match Binary64.ofInt n with
    | .infinite _ => none
    | x => some x

/-- The time from one reading to another. -/
def since? (stop start : Reading) : Option Reading :=
  match stop, start with
  | .whole n, .whole m => some (.whole (n - m))
  | _, _ => do return .real ((← stop.toReal?).sub (← start.toReal?))

end Reading

/-- The complaint about a whole number that no floating-point number comes near. -/
def tooLargeMessage : String := "int too large to convert to float"

/-- A timer as text, with its time in seconds to four places. -/
def timerText? (label : String) (elapsed : Reading) : Option String := do
  return "<Timer " ++ label ++ ": " ++ (← elapsed.toReal?).fixed 4 ++ "s>"

end SchemaScribe.Generation
