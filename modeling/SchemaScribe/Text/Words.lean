/-!
# Words inside names

A name such as `getHTTPResponse_v2` is cut into pieces wherever one of two rules says so, and the
pieces that hold letters or digits are put together again in another style. Both rules keep every
letter and digit: cutting loses nothing (`flatten_cut`), so a style changes only separators and case.

The classes of letters and digits here are those of ASCII; every other character is a separator.
-/

namespace SchemaScribe.Text

/-- A **hump** starts at `c`, after `before`, when `c` is a capital that follows a small letter or a
digit, or the last capital of a run when a small letter comes next. -/
def startsHump (before c : Char) (next : Option Char) : Bool :=
  c.isUpper &&
    (before.isLower || before.isDigit || (before.isUpper && next.any Char.isLower))

/-- A **word** starts at a hump, and wherever digits meet letters. -/
def startsWord (before c : Char) (next : Option Char) : Bool :=
  startsHump before c next || before.isDigit != c.isDigit

/-- Cuts a text before every character at which `starts` holds of its neighbours. -/
def cut (starts : Char → Char → Option Char → Bool) : List Char → List (List Char)
  | [] => []
  | [c] => [[c]]
  | c :: d :: rest =>
    match cut starts (d :: rest) with
    | [] => [[c]]
    | piece :: pieces =>
      if starts c d rest.head? then [c] :: piece :: pieces else (c :: piece) :: pieces

theorem cut_ne_nil (starts : Char → Char → Option Char → Bool) (c : Char) (s : List Char) :
    cut starts (c :: s) ≠ [] := by
  cases s with
  | nil => simp [cut]
  | cons d rest =>
    simp only [cut]
    split
    · simp
    · split <;> simp

/-- Cutting loses nothing and adds nothing. -/
theorem flatten_cut (starts : Char → Char → Option Char → Bool) (s : List Char) :
    (cut starts s).flatten = s := by
  induction s with
  | nil => rfl
  | cons c s ih =>
    cases s with
    | nil => rfl
    | cons d rest =>
      simp only [cut]
      split
      · next h => exact absurd h (cut_ne_nil starts d rest)
      · next piece pieces h =>
        rw [h] at ih
        split <;> simp_all

/-- The pieces of letters and digits of a name, cut by a rule and at every separator. -/
def pieces (starts : Char → Char → Option Char → Bool) (s : List Char) : List (List Char) :=
  (cut (fun before c next => !before.isAlphanum || !c.isAlphanum || starts before c next) s).filter
    (·.all Char.isAlphanum)

/-- Lower-cases the ASCII letters of a piece. -/
def lowerPiece (piece : List Char) : List Char := piece.map Char.toLower

/-- Lower-cases a piece but for a leading capital. -/
def capitalise : List Char → List Char
  | [] => []
  | c :: rest => c.toUpper :: lowerPiece rest

/-- The humps of a name in small letters, joined by underscores. -/
def snakeChars (s : List Char) : List Char :=
  ['_'].intercalate ((pieces startsHump s).map lowerPiece)

/-- The words of a name in small letters, joined by hyphens. -/
def kebabChars (s : List Char) : List Char :=
  ['-'].intercalate ((pieces startsWord s).map lowerPiece)

/-- The words of a name, each with a leading capital. -/
def pascalChars (s : List Char) : List Char :=
  ((pieces startsWord s).map capitalise).flatten

/-- The words of a name, each but the first with a leading capital. -/
def camelChars (s : List Char) : List Char :=
  match pieces startsWord s with
  | [] => []
  | first :: rest => lowerPiece first ++ (rest.map capitalise).flatten

/-- `snake_case`. -/
def toSnake (name : String) : String := .ofList (snakeChars name.toList)

/-- `kebab-case`. -/
def toKebab (name : String) : String := .ofList (kebabChars name.toList)

/-- `PascalCase`. -/
def toPascal (name : String) : String := .ofList (pascalChars name.toList)

/-- `camelCase`. -/
def toCamel (name : String) : String := .ofList (camelChars name.toList)

end SchemaScribe.Text
