import SchemaScribe.Catalog.Check

/-!
# Selecting tables

A catalog is checked as a whole before the patterns of the options select tables from it. Keys into
tables that are not selected stay; what becomes of them is decided when the model is built.
-/

namespace SchemaScribe.Catalog

open SchemaScribe.Text

/-- Whether the patterns select a table. -/
def selects (o : Options) (table : String) : Bool :=
  (o.includeTables.isEmpty || o.includeTables.any (globMatches · table)) &&
    !o.excludeTables.any (globMatches · table)

/-- The tables that the patterns select. -/
def Snapshot.select (s : Snapshot) (o : Options) : Snapshot :=
  { s with tables := s.tables.filter fun t => selects o t.name }

/-- A catalog that its checks reject. -/
structure Inconsistent where
  dialect : String
  findings : Findings

/-- The complaint about a rejected catalog, with the report of the checks. -/
def Inconsistent.message (e : Inconsistent) : String :=
  "Catalog of '" ++ e.dialect ++ "' schema is inconsistent (" ++
    toString e.findings.errors.length ++ " error(s)).\n" ++ e.findings.report false

/-- Checks a catalog and selects its tables. -/
def Snapshot.prepare (s : Snapshot) (o : Option Options) : Noted Notice Inconsistent Snapshot :=
  let findings := s.validate o
  ⟨findings.notices,
    if findings.sound then .ok ((o.map s.select).getD s) else .error ⟨s.dialect, findings⟩⟩

end SchemaScribe.Catalog
