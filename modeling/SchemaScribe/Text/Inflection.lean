import SchemaScribe.Text.Lowercase

/-!
# Singular and plural

English inflection as far as table names need it: a short list of irregular nouns, then suffix rules.
Words that already look right are left alone.
-/

namespace SchemaScribe.Text

/-- Irregular nouns, singular and plural. -/
def irregularNouns : List (String × String) := [
  ("person", "people"), ("child", "children"), ("man", "men"), ("woman", "women"),
  ("mouse", "mice"), ("goose", "geese"), ("tooth", "teeth"), ("foot", "feet"),
  ("datum", "data"), ("index", "indices"), ("matrix", "matrices"), ("vertex", "vertices"),
  ("axis", "axes"), ("crisis", "crises"), ("analysis", "analyses"), ("status", "statuses"),
  ("address", "addresses")]

/-- The plural of an irregular singular. -/
def irregularPlural? (word : List Char) : Option (List Char) :=
  irregularNouns.findSome? fun (one, many) => if one.toList = word then some many.toList else none

/-- The singular of an irregular plural. -/
def irregularSingular? (word : List Char) : Option (List Char) :=
  irregularNouns.findSome? fun (one, many) => if many.toList = word then some one.toList else none

/-- Gives `word` the capital that the text `like` starts with. -/
def withCapitalOf (like : List Char) : List Char → List Char
  | [] => []
  | c :: rest => if like.head?.any isCapital then c.toUpper :: rest else c :: rest

/-- Whether a text ends in one of some endings. -/
def endsInAny (s : List Char) (endings : List String) : Bool :=
  endings.any fun ending => ending.toList.isSuffixOf s

/-- The text without its last `n` characters. -/
def withoutLast (n : Nat) (s : List Char) : List Char := s.take (s.length - n)

/-- Whether the last character but one is a consonant, or any character but a vowel. -/
def consonantBeforeLast (s : List Char) : Bool :=
  match s.reverse with
  | _ :: c :: _ => !"aeiou".toList.contains c
  | _ => true

/-- The plural of a word. The suffix rules look at the small letters and act on the word as it is. -/
def pluralChars (word : List Char) : List Char :=
  if word.isEmpty then []
  else
    let small := lower word
    match irregularPlural? small with
    | some many => withCapitalOf word many
    | none =>
      if (irregularSingular? small).isSome then word
      else if endsInAny small ["s"] && !endsInAny small ["ss", "us", "is"] then word
      else if endsInAny small ["sh", "ch", "x", "z", "ss", "us"] then word ++ ['e', 's']
      else if endsInAny small ["y"] && word.length > 1 && consonantBeforeLast small then
        withoutLast 1 word ++ ['i', 'e', 's']
      else word ++ ['s']

/-- The singular of a word. Words in `ss`, `us` and `is` count as singular. -/
def singularChars (word : List Char) : List Char :=
  if word.isEmpty then []
  else
    let small := lower word
    match irregularSingular? small with
    | some one => withCapitalOf word one
    | none =>
      if (irregularPlural? small).isSome then word
      else if endsInAny small ["ss", "us", "is"] then word
      else if endsInAny small ["ies"] && word.length > 3 then withoutLast 3 word ++ ['y']
      else if endsInAny small ["sses", "xes", "ches", "shes"] then withoutLast 2 word
      else if endsInAny small ["s"] && word.length > 1 then withoutLast 1 word
      else word

/-- The plural of a word. -/
def toPlural (word : String) : String := .ofList (pluralChars word.toList)

/-- The singular of a word. -/
def toSingular (word : String) : String := .ofList (singularChars word.toList)

end SchemaScribe.Text
