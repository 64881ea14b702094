import SchemaScribe.Text.Literal

/-!
# Code

The expressions and type hints of generated code. They are built as terms and turned into text only
by `Code.shown`, so what an expression uses can be told without reading its text.
-/

namespace SchemaScribe.Render

/-- An expression or type hint. Plain code is a name, a number or a constant as it stands; quoted
text is put between double quotes unchanged. -/
inductive Code where
  | plain (text : String)
  | literal (text : String)
  | quoted (text : String)
  | call (callee : String) (arguments : List Code)
  | named (parameter : String) (value : Code)
  | subscript (head : String) (items : List Code)
  | list (items : List Code)
  | dict (key : String) (value : Code)
deriving Repr, Inhabited

/-- A truth value. -/
def Code.truth (b : Bool) : Code := .plain (if b then "True" else "False")

/-- A list of literals. -/
def Code.literals (items : List String) : Code := .list (items.map .literal)

mutual

/-- The text of an expression. -/
def Code.shown : Code → String
  | .plain text => text
  | .literal text => Text.literal text
  | .quoted text => "\"" ++ text ++ "\""
  | .call callee arguments => callee ++ "(" ++ ", ".intercalate (shownAll arguments) ++ ")"
  | .named parameter value => parameter ++ "=" ++ value.shown
  | .subscript head items => head ++ "[" ++ ", ".intercalate (shownAll items) ++ "]"
  | .list items => "[" ++ ", ".intercalate (shownAll items) ++ "]"
  | .dict key value => "\x7b" ++ Text.literal key ++ ": " ++ value.shown ++ "\x7d"

/-- The texts of expressions. -/
def shownAll : List Code → List String
  | [] => []
  | code :: rest => code.shown :: shownAll rest

end

mutual

/-- The plain pieces that an expression uses, names of parameters and quoted text left out. -/
def Code.pieces : Code → List String
  | .plain text => [text]
  | .literal _ => []
  | .quoted _ => []
  | .call callee arguments => callee :: piecesAll arguments
  | .named _ value => value.pieces
  | .subscript head items => head :: piecesAll items
  | .list items => piecesAll items
  | .dict _ value => value.pieces

/-- The plain pieces that expressions use. -/
def piecesAll : List Code → List String
  | [] => []
  | code :: rest => code.pieces ++ piecesAll rest

end

end SchemaScribe.Render
