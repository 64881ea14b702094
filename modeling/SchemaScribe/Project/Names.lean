import SchemaScribe.Text.Blank
import SchemaScribe.Text.Identifier
import SchemaScribe.Text.Words

/-!
# Names of projects

A requested name becomes two: that of the folder, in small words joined by hyphens, and that of the
package, an identifier of the same words joined by underscores.
-/

namespace SchemaScribe.Project

/-- The names of a project. -/
structure Names where
  folder : String
  package : String
deriving DecidableEq, Repr

/-- The names for a requested name, unless no word is in it. -/
def Names.ofRequest? (request : String) : Option Names :=
  let folder := Text.toKebab (.ofList (Text.trim request.toList))
  if folder.isEmpty then none
  else some { folder, package := Text.toIdentifier (Text.toSnake folder) }

end SchemaScribe.Project
