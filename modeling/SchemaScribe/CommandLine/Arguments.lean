import SchemaScribe.Document.Value
import SchemaScribe.Text.Numeral

/-!
# Arguments

How the words of a command line are read under a **grammar**: flags with the words they take, and at
most one positional argument. Long flags may be shortened as long as only one flag fits, short flags
may be bundled, and two dashes alone end the flags. Words that fit nowhere are left over; they are an
error only for the caller.
-/

namespace SchemaScribe.CommandLine

open SchemaScribe.Document
open SchemaScribe.Text (literal)

/-! ## Grammars -/

/-- What a flag does with its words. -/
inductive FlagKind where
  | help
  | version
  | count
  | constant (value : Value)
  | text
  | integer
  | choice (names : List String)
  | collect
  | several
deriving Repr

/-- How many words a flag takes. -/
inductive Arity where
  | none
  | one
  | many
deriving DecidableEq, Repr

/-- The words that a kind of flag takes. -/
def FlagKind.arity : FlagKind → Arity
  | .help | .version | .count | .constant _ => .none
  | .text | .integer | .choice _ | .collect => .one
  | .several => .many

/-- A flag: its spellings and the field that it sets. -/
structure Flag where
  spellings : List String
  field : String
  kind : FlagKind
deriving Repr

/-- The flag in messages. -/
def Flag.label (f : Flag) : String := "/".intercalate f.spellings

/-- The positional argument of a grammar: one word, or a word and all that follows it. -/
structure Positional where
  label : String
  takesRest : Bool := false
deriving DecidableEq, Repr

/-- What the words of a program may be. -/
structure Grammar where
  program : String
  flags : List Flag := []
  positional : Option Positional := none
deriving Repr

/-- All spellings with their flags, in order. -/
def Grammar.spellings (g : Grammar) : List (String × Flag) :=
  g.flags.flatMap fun f => f.spellings.map (·, f)

/-- The flag of a spelling. -/
def Grammar.flag? (g : Grammar) (spelling : String) : Option Flag := entryAt? spelling g.spellings

/-! ## Complaints -/

/-- What is wrong with the words of a command line. -/
inductive UsageError where
  | ambiguous (word : String) (candidates : List String)
  | ignoredValue (label value : String)
  | expectedOne (label : String)
  | expectedMore (label : String)
  | notInteger (label value : String)
  | notChoice (label value : String) (choices : List String)
  | required (label : String)
  | unrecognized (words : List String)
deriving DecidableEq, Repr

/-- The complaint about an argument. -/
def aboutArgument (label text : String) : String := "argument " ++ label ++ ": " ++ text

/-- The complaint about the words. -/
def UsageError.message : UsageError → String
  | .ambiguous word candidates =>
    "ambiguous option: " ++ word ++ " could match " ++ ", ".intercalate candidates
  | .ignoredValue label value => aboutArgument label ("ignored explicit argument " ++ literal value)
  | .expectedOne label => aboutArgument label "expected one argument"
  | .expectedMore label => aboutArgument label "expected at least one argument"
  | .notInteger label value => aboutArgument label ("invalid int value: " ++ literal value)
  | .notChoice label value choices =>
    aboutArgument label ("invalid choice: " ++ literal value ++ " (choose from " ++
      ", ".intercalate (choices.map literal) ++ ")")
  | .required label => "the following arguments are required: " ++ label
  | .unrecognized words => "unrecognized arguments: " ++ " ".intercalate words

/-- Why reading ended before all words were read. -/
inductive Stop where
  | usage (program : String) (error : UsageError)
  | help (program : String)
  | version
deriving DecidableEq, Repr

/-! ## Words -/

/-- What a word is before its place is known: a flag with the text attached to it, a word that looks like
an unknown flag, or any other word. Two dashes end the flags. -/
inductive Mark where
  | flag (flag : Flag) (spelling : String) (attached : Option (List Char))
  | unknown
  | word
  | dashes
deriving Repr

/-- Whether a mark is one of a flag, known or not. -/
def Mark.isFlag : Mark → Bool
  | .flag _ _ _ | .unknown => true
  | _ => false

/-- Whether a text is a dash and a number. -/
def isNegativeNumber : List Char → Bool
  | '-' :: rest =>
    let rest := if rest.getLast? = some '\n' then rest.dropLast else rest
    let isDigit := fun c => (Text.digitValue? c).isSome
    let whole := rest.takeWhile isDigit
    match rest.drop whole.length with
    | [] => !whole.isEmpty
    | '.' :: places => !places.isEmpty && places.all isDigit
    | _ => false
  | _ => false

/-- Splits a word at its first equals sign. -/
def splitEquals (s : List Char) : List Char × Option (List Char) :=
  let front := s.takeWhile (· ≠ '=')
  match s.drop front.length with
  | [] => (s, none)
  | _ :: text => (front, some text)

/-- The flags that a shortened or bundled word may stand for, with the text attached to them. -/
def Grammar.candidates (g : Grammar) (word : List Char) : List (Flag × String × Option (List Char)) :=
  if ['-', '-'].isPrefixOf word then
    let (front, attached) := splitEquals word
    (g.spellings.filter fun s => front.isPrefixOf s.1.toList).map fun (s, f) => (f, s, attached)
  else
    (g.spellings.filter fun s => s.1.toList = word.take 2).map fun (s, f) => (f, s, some (word.drop 2))

/-- What a word is. -/
def Grammar.mark (g : Grammar) (word : String) : Except UsageError Mark :=
  let s := word.toList
  if s.head? ≠ some '-' then .ok .word
  else
    match g.flag? word with
    | some f => .ok (.flag f word none)
    | none =>
      if s.length = 1 then .ok .word
      else
        let (front, attached) := splitEquals s
        match attached.bind fun _ => g.flag? (.ofList front) with
        | some f => .ok (.flag f (.ofList front) attached)
        | none =>
          match g.candidates s with
          | [(f, spelling, attached)] => .ok (.flag f spelling attached)
          | [] => .ok (if isNegativeNumber s || s.contains ' ' then .word else .unknown)
          | several => .error (.ambiguous word (several.map (·.2.1)))

/-- What all words are. Behind two dashes every word is just a word. -/
def Grammar.marks (g : Grammar) : List String → Except UsageError (List (String × Mark))
  | [] => .ok []
  | word :: rest =>
    if word = "--" then .ok ((word, .dashes) :: rest.map (·, .word))
    else do
      let mark ← g.mark word
      let more ← g.marks rest
      return (word, mark) :: more

/-! ## Fields -/

/-- What the flags set. -/
abbrev Fields := List (String × Value)

/-- The field of a name, null if it is not set. -/
def Fields.at (fields : Fields) (name : String) : Value := (entryAt? name fields).getD .null

/-- The value of a word under a kind of flag. -/
def Flag.read (f : Flag) (word : String) : Except UsageError Value :=
  match f.kind with
  | .integer =>
    match Text.readInteger 10 word.toList with
    | .ok n => .ok (.int n)
    | .error _ => .error (.notInteger f.label word)
  | .choice names =>
    if names.contains word then .ok (.text word) else .error (.notChoice f.label word names)
  | _ => .ok (.text word)

/-- A single value as it is, anything else as a list. -/
def soleValue : List Value → Value
  | [value] => value
  | values => .list values

/-- The values that a field has collected. -/
def collected : Value → List Value
  | .list values => values
  | _ => []

/-- The number of times that a field was counted. -/
def counted : Value → Int
  | .int n => n
  | _ => 0

/-- Sets the field of a flag. Two dashes among its words are dropped once, so a flag with nothing but two
dashes attached to it has no value, which is an empty list. -/
def applyFlag (program : String) (fields : Fields) (f : Flag) (words : List String) :
    Except Stop Fields := do
  let values ← ((words.erase "--").mapM f.read).mapError (.usage program)
  let current := fields.at f.field
  let set := fun (value : Value) => (setEntry f.field value fields : Fields)
  match f.kind with
  | .help => .error (.help program)
  | .version => .error .version
  | .count => return set (.int (counted current + 1))
  | .constant value => return set value
  | .collect => return set (.list (collected current ++ [soleValue values]))
  | .several => return set (.list values)
  | .text | .integer | .choice _ => return set (soleValue values)

/-! ## Reading -/

/-- A flag with the words that it takes. -/
abbrev Taken := Flag × List String

/-- What one word of flags comes to: the flags that are complete, and a last one that still has to take
words from behind. -/
structure Bundle where
  taken : List Taken := []
  last : Option Flag := none

/-- A bundle with a flag in front that takes no words. -/
def Bundle.behind (f : Flag) (b : Bundle) : Bundle := { b with taken := (f, []) :: b.taken }

/-- The flags of a word: what is attached to a short flag that takes no words is read as further short
flags. -/
def Grammar.unbundle (g : Grammar) (f : Flag) (spelling : String) :
    List Char → Except UsageError Bundle
  | [] =>
    if f.kind.arity = .none then .error (.ignoredValue f.label "") else .ok { taken := [(f, [""])] }
  | c :: rest =>
    if f.kind.arity ≠ .none then .ok { taken := [(f, [.ofList (c :: rest)])] }
    else if "--".toList.isPrefixOf spelling.toList then
      .error (.ignoredValue f.label (.ofList (c :: rest)))
    else
      let short := String.ofList ['-', c]
      match g.flag? short with
      | none => .error (.ignoredValue f.label (.ofList (c :: rest)))
      | some next =>
        if rest.isEmpty then .ok (.behind f { last := some next })
        else (g.unbundle next short rest).map (.behind f)

/-- Whether a marked word is just a word. -/
def isWord : String × Mark → Bool
  | (_, .word) => true
  | _ => false

/-- The words that a flag takes from behind, and what is left. -/
def Flag.takeBehind (f : Flag) (behind : List (String × Mark)) :
    Except UsageError (Taken × List (String × Mark)) :=
  let words := behind.takeWhile isWord
  match f.kind.arity, words with
  | .none, _ => .ok ((f, []), behind)
  | .one, (word, _) :: _ => .ok ((f, [word]), behind.drop 1)
  | .one, [] => .error (.expectedOne f.label)
  | .many, [] => .error (.expectedMore f.label)
  | .many, words => .ok ((f, words.map (·.1)), behind.drop words.length)

/-- All that a word of flags takes, and what is left. -/
def Grammar.takeFlag (g : Grammar) (f : Flag) (spelling : String) (attached : Option (List Char))
    (behind : List (String × Mark)) : Except UsageError (Bundle × List (String × Mark)) := do
  let bundle ← match attached with
    | none => .ok { last := some f }
    | some text => g.unbundle f spelling text
  match bundle.last with
  | none => return (bundle, behind)
  | some last =>
    let (more, left) ← last.takeBehind behind
    return ({ bundle with taken := bundle.taken ++ [more], last := none }, left)

/-- The words that a positional argument takes from the front, and what is left. Two dashes may stand
before its word, and behind it if it does not take the rest. -/
def Positional.take (p : Positional) (words : List (String × Mark)) :
    Option (List String × List (String × Mark)) :=
  let isDashes := fun (w : String × Mark) => match w.2 with
    | .dashes => true
    | _ => false
  let front := words.takeWhile isDashes
  match words.drop front.length with
  | (word, .word) :: rest =>
    if p.takesRest then some (words.map (·.1), [])
    else
      let back := rest.takeWhile isDashes
      some ((front.map (·.1) ++ word :: back.map (·.1)), rest.drop back.length)
  | _ => none

/-- What has been read. -/
structure Reading where
  fields : Fields := []
  positional : Option (List String) := none
  leftOver : List String := []

/-- Takes the positional argument, if it is still to come and its word is next. -/
def Grammar.takePositional (g : Grammar) (r : Reading) (words : List (String × Mark)) :
    Option (Reading × List (String × Mark)) :=
  match r.positional, g.positional with
  | none, some p => (p.take words).map fun (taken, left) => ({ r with positional := some taken }, left)
  | _, _ => none

/-- Reads marked words. -/
def Grammar.readMarked (g : Grammar) : Nat → Reading → List (String × Mark) → Except Stop Reading
  | 0, r, _ => .ok r
  | fuel + 1, r, words =>
    match words with
    | [] => .ok r
    | (word, .unknown) :: rest =>
      g.readMarked fuel { r with leftOver := r.leftOver ++ [word] } rest
    | (_, .flag f spelling attached) :: rest => do
      let (bundle, left) ← (g.takeFlag f spelling attached rest).mapError (.usage g.program)
      let fields ← bundle.taken.foldlM
        (fun fields (f, words) => applyFlag g.program fields f words) r.fields
      g.readMarked fuel { r with fields } left
    | words =>
      match g.takePositional r words with
      | some (r, left) => g.readMarked fuel r left
      | none =>
        let front := words.takeWhile fun w => !w.2.isFlag
        g.readMarked fuel { r with leftOver := r.leftOver ++ front.map (·.1) }
          (words.drop front.length)

/-- Reads words under a grammar, with some fields set beforehand. -/
def Grammar.read (g : Grammar) (defaults : Fields) (words : List String) : Except Stop Reading := do
  let marked ← (g.marks words).mapError (.usage g.program)
  let reading ← g.readMarked (words.length + 1) { fields := defaults } marked
  match g.positional, reading.positional with
  | some p, none => .error (.usage g.program (.required p.label))
  | _, _ => return reading

end SchemaScribe.CommandLine
