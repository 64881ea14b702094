import SchemaScribe.Document.Value
import SchemaScribe.Notice

/-!
# Findings

What checks report: errors, warnings and remarks, each with a code, a message and a context. A report
counts them and lists them.
-/

namespace SchemaScribe.Catalog

open SchemaScribe.Document

/-- How grave a finding is. -/
inductive Level where
  | error
  | warning
  | info
deriving DecidableEq, Repr

/-- The name of a level. -/
def Level.name : Level → String
  | .error => "error"
  | .warning => "warning"
  | .info => "info"

/-- The name of a level in capitals. -/
def Level.capitals : Level → String
  | .error => "ERROR"
  | .warning => "WARNING"
  | .info => "INFO"

/-- Something a check found. -/
structure Finding where
  level : Level
  code : String
  message : String
  context : List (String × Value) := []

/-- A finding on one line. -/
def Finding.shown (f : Finding) : String :=
  "[" ++ f.level.capitals ++ "] " ++ f.code ++ ": " ++ f.message

/-- The lines of a finding in a report. -/
def Finding.reportLines (f : Finding) : List String :=
  ("  [" ++ f.level.capitals ++ "] [" ++ f.code ++ "] " ++ f.message) ::
    f.context.map fun (key, value) => "       " ++ key ++ ": " ++ value.shown

/-- All findings of some checks, in order. -/
abbrev Findings := List Finding

namespace Findings

/-- The errors. -/
def errors (fs : Findings) : Findings := fs.filter (·.level = .error)

/-- The warnings. -/
def warnings (fs : Findings) : Findings := fs.filter (·.level = .warning)

/-- Whether there is no error. -/
def sound (fs : Findings) : Bool := fs.errors.isEmpty

/-- The counts. -/
def summary (fs : Findings) : String :=
  "Validation: " ++ toString fs.errors.length ++ " error(s), " ++
    toString fs.warnings.length ++ " warning(s), " ++ toString fs.length ++ " total item(s)."

/-- Findings for people. -/
def shown (fs : Findings) : String := "<ValidationResult " ++ fs.summary ++ ">"

/-- The counts and the findings; remarks are listed only on request. -/
def report (fs : Findings) (withRemarks : Bool) : String :=
  "\n".intercalate <| [fs.summary, ""] ++
    (fs.filter fun f => withRemarks || f.level ≠ .info).flatMap Finding.reportLines

end Findings

end SchemaScribe.Catalog
