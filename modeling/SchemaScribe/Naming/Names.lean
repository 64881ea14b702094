import SchemaScribe.Options
import SchemaScribe.Text.Identifier
import SchemaScribe.Text.Inflection
import SchemaScribe.Text.Words

/-!
# Names in generated code

From the names of a catalog and the options to the names of classes, properties, modules and relations.
Every such name is an identifier, and where it must differ from others a number is appended.
-/

namespace SchemaScribe

open SchemaScribe.Text

/-- A name in a style. -/
def applyCase (name : String) : CaseStyle → String
  | .camel => toCamel name
  | .pascal => toPascal name
  | .snake => toSnake name
  | .preserve => name

/-- The name with its last word in the singular; words are what underscores separate. -/
def singularLastWord (name : String) : String :=
  let s := name.toList
  let last := (s.reverse.takeWhile (· ≠ '_')).reverse
  .ofList (s.take (s.length - last.length) ++ singularChars last)

/-- The class name of a table's entity. -/
def entityName (table : String) (o : Options) : String :=
  toIdentifier (applyCase (if o.pluralize then singularLastWord table else table) o.entityCase)

/-- The property name of a column. -/
def propertyName (column : String) (o : Options) : String :=
  toIdentifier (applyCase column o.propertyCase)

/-- The module name of an entity. -/
def fileName (entity : String) (o : Options) : String :=
  toIdentifier (applyCase entity o.fileCase)

/-- The class name of an entity's input model. -/
def inputName (entity : String) (o : Options) : String :=
  toIdentifier (entity ++ o.inputSuffix)

/-- The module name of an entity's input model. -/
def inputFileName (entity : String) (o : Options) : String :=
  fileName (inputName entity o) o

/-- The property name of a relation, from a key column without its ending or from an entity name. -/
def relationName (base : String) (toMany : Bool) (o : Options) : String :=
  let name := applyCase base o.propertyCase
  toIdentifier (if toMany && o.pluralize then toPlural name else name)

/-- The endings that mark the column of a foreign key. -/
def keyEndings : List (List Char) :=
  [['_', 'i', 'd'], ['I', 'd'], ['I', 'D'], ['_', 'f', 'k'], ['_', 'F', 'K']]

/-- The text without a key ending. -/
def dropKeyEnding? (s : List Char) : Option (List Char) :=
  keyEndings.findSome? fun ending =>
    if ending.isSuffixOf s then some (s.take (s.length - ending.length)) else none

/-- A column name without its key ending, if it has one and something besides underscores is left.
One line feed at the end is looked through and kept. -/
def withoutKeyEnding? (column : String) : Option String :=
  let s := column.toList
  let stripped := match dropKeyEnding? s with
    | some front => some front
    | none =>
      if s.getLast? = some '\n' then (dropKeyEnding? s.dropLast).map (· ++ ['\n']) else none
  match stripped with
  | some front => if front.all (· = '_') then none else some (.ofList front)
  | none => none

/-- The candidate with a number. -/
def numbered (candidate : String) (n : Nat) : String := candidate ++ toString n

/-- The first of the candidates numbered from `n` on of which `free` holds, within `limit` attempts. -/
def firstNumbered (candidate : String) (free : String → Bool) (n : Nat) : (limit : Nat) → Option String
  | 0 => none
  | limit + 1 =>
    if free (numbered candidate n) then some (numbered candidate n)
    else firstNumbered candidate free (n + 1) limit

/-- The candidate, or the first of `candidate2`, `candidate3`, … of which `free` holds. -/
def firstFree (candidate : String) (free : String → Bool) (limit : Nat) : Option String :=
  if free candidate then some candidate else firstNumbered candidate free 2 limit

/-- The candidate, or the first numbered one, that is not taken. -/
def uniqueName (candidate : String) (taken : List String) (limit : Nat) : Option String :=
  firstFree candidate (fun name => !taken.contains name) limit

end SchemaScribe
