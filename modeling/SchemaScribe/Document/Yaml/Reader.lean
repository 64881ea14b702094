import SchemaScribe.Document.Yaml.Node
import SchemaScribe.Document.Yaml.Token

/-!
# Reading YAML

From the tokens of a text to the value of its one document. Only the tags of the standard types are known,
under the handles that directives give a meaning; a name can be given to one node only, and a collection
cannot be a key of a mapping. What is wrong at a token comes before a flaw that keeps the text from being
read behind it.
-/

namespace SchemaScribe.Document.Yaml

/-- The flaw of tokens that cannot go on as they do. -/
def flawAt : List Token → Flaw
  | .unreadable flaw :: _ => flaw
  | _ => .malformed

/-! ## Directives -/

/-- What directives say: the version of the language, and the meanings of handles. -/
structure Directives where
  hasAny : Bool := false
  version : Option Nat := none
  handles : List (String × String) := []

namespace Directives

/-- Reads the directives in front of tokens. The version can be asked for once and has to be some version
one, and a handle has one meaning. -/
def read (d : Directives) : List Token → Option (Directives × List Token)
  | .version major :: rest =>
    if d.version.isSome || major ≠ 1 then none
    else read { d with hasAny := true, version := some major } rest
  | .handle handle stem :: rest =>
    if (entryAt? handle d.handles).isSome then none
    else read { d with hasAny := true, handles := d.handles ++ [(handle, stem)] } rest
  | .directive :: rest => read { d with hasAny := true } rest
  | tokens => some (d, tokens)

/-- The stem that a handle stands for. Two handles have a meaning of their own. -/
def stem? (d : Directives) (handle : String) : Option String :=
  entryAt? handle (d.handles ++ [("!", "!"), ("!!", Role.standardStem)])

/-- The whole name of a tag. -/
def fullName (d : Directives) (handle : Option String) (name : String) : Except Flaw String :=
  match handle with
  | none => .ok name
  | some h => wellFormed ((d.stem? h).map (· ++ name))

end Directives

/-! ## Nodes -/

/-- What tokens were read to: a result, the named nodes so far, and the tokens behind. -/
abbrev Parsed (α : Type) := α × List (String × Node) × List Token

/-- The tokens of the next part in brackets. A comma stands in front of every part but the first. -/
def behindComma (first : Bool) (tokens : List Token) : Except Flaw (List Token) :=
  if first then .ok tokens
  else
    match tokens with
    | .comma :: rest => .ok rest
    | rest => .error (flawAt rest)

mutual

/-- Reads a node. `block` allows block collections, `flat` a list that is not indented. -/
def readNode (d : Directives) (block flat : Bool) :
    Nat → List (String × Node) → List Token → Except Flaw (Parsed Node)
  | 0, _, _ => .error .malformed
  | fuel + 1, names, tokens =>
    match tokens with
    | .reference name :: rest => (wellFormed (entryAt? name names)).map fun node => (node, names, rest)
    | .anchor name :: .tag handle tag :: rest => do
      readContent d block flat fuel (some name) (some (← d.fullName handle tag)) names rest
    | .tag _ _ :: .unreadable flaw :: _ => .error flaw
    | .tag handle tag :: .anchor name :: rest => do
      readContent d block flat fuel (some name) (some (← d.fullName handle tag)) names rest
    | .anchor name :: rest => readContent d block flat fuel (some name) none names rest
    | .tag handle tag :: rest => do
      readContent d block flat fuel none (some (← d.fullName handle tag)) names rest
    | rest => readContent d block flat fuel none none names rest

/-- Reads what stands behind a name and a tag. Inside a list or a mapping, its own name stands for it left
empty, so that no value contains itself. -/
def readContent (d : Directives) (block flat : Bool) :
    Nat → Option String → Option String → List (String × Node) → List Token → Except Flaw (Parsed Node)
  | 0, _, _, _, _ => .error .malformed
  | fuel + 1, name, tag, names, tokens =>
    let isTaken := name.any fun n => (entryAt? n names).isSome
    let named := fun (node : Node) (names : List (String × Node)) =>
      match name with
      | none => names
      | some n => (n, node) :: names
    let finish := fun (node : Node) (names : List (String × Node)) (rest : List Token) =>
      .ok (node, named node names, rest)
    let asList := Node.list (Role.of? tag .list)
    let asMap := Node.map (Role.of? tag .map)
    let inList := named (asList []) names
    let inMap := named (asMap []) names
    let listed := fun (found : Except Flaw (Parsed (List Node))) => do
      let (items, names, rest) ← found
      finish (asList items) names rest
    let mapped := fun (found : Except Flaw (Parsed (List (Node × Node)))) => do
      let (entries, names, rest) ← found
      finish (asMap entries) names rest
    let leftOut := fun (rest : List Token) =>
      if name.isSome || tag.isSome then finish (.ofScalar tag true "") names rest else .error .malformed
    match tokens with
    | .unreadable flaw :: _ => .error flaw
    | tokens =>
      if isTaken then .error .malformed
      else
        match tokens with
        | .scalar plain text :: rest => finish (.ofScalar tag plain text) names rest
        | .listStart :: rest => listed (readFlowItems d fuel true [] inList rest)
        | .mapStart :: rest => mapped (readFlowEntries d fuel true [] inMap rest)
        | .blockList :: rest =>
          if block then listed (readBlockItems d fuel [] inList rest) else leftOut tokens
        | .blockMap :: rest =>
          if block then mapped (readBlockEntries d fuel [] inMap rest) else leftOut tokens
        | .entry :: _ => if flat then listed (readFlatItems d fuel [] inList tokens) else leftOut tokens
        | _ => leftOut tokens

/-- Reads the items of a block list. -/
def readBlockItems (d : Directives) :
    Nat → List Node → List (String × Node) → List Token → Except Flaw (Parsed (List Node))
  | 0, _, _, _ => .error .malformed
  | fuel + 1, done, names, tokens =>
    match tokens with
    | .entry :: rest =>
      match rest with
      | .entry :: _ | .blockEnd :: _ => readBlockItems d fuel (done ++ [.absent]) names rest
      | _ => do
        let (node, names, rest) ← readNode d true false fuel names rest
        readBlockItems d fuel (done ++ [node]) names rest
    | .blockEnd :: rest => .ok (done, names, rest)
    | rest => .error (flawAt rest)

/-- Reads the items of a list that is not indented below its key. -/
def readFlatItems (d : Directives) :
    Nat → List Node → List (String × Node) → List Token → Except Flaw (Parsed (List Node))
  | 0, _, _, _ => .error .malformed
  | fuel + 1, done, names, tokens =>
    match tokens with
    | .entry :: rest =>
      match rest with
      | .entry :: _ | .key :: _ | .value :: _ | .blockEnd :: _ =>
        readFlatItems d fuel (done ++ [.absent]) names rest
      | _ => do
        let (node, names, rest) ← readNode d true false fuel names rest
        readFlatItems d fuel (done ++ [node]) names rest
    | rest => .ok (done, names, rest)

/-- Reads the entries of a block mapping. -/
def readBlockEntries (d : Directives) :
    Nat → List (Node × Node) → List (String × Node) → List Token →
    Except Flaw (Parsed (List (Node × Node)))
  | 0, _, _, _ => .error .malformed
  | fuel + 1, done, names, tokens =>
    match tokens with
    | .key :: rest => do
      let (key, names, rest) ← readBlockPart d fuel names rest
      match rest with
      | .value :: rest =>
        let (value, names, rest) ← readBlockPart d fuel names rest
        readBlockEntries d fuel (done ++ [(key, value)]) names rest
      | rest => readBlockEntries d fuel (done ++ [(key, .absent)]) names rest
    | .blockEnd :: rest => .ok (done, names, rest)
    | rest => .error (flawAt rest)

/-- Reads a key or value of a block mapping, which may be left out. -/
def readBlockPart (d : Directives) : Nat → List (String × Node) → List Token → Except Flaw (Parsed Node)
  | 0, _, _ => .error .malformed
  | fuel + 1, names, tokens =>
    match tokens with
    | .key :: _ | .value :: _ | .blockEnd :: _ => .ok (.absent, names, tokens)
    | _ => readNode d true true fuel names tokens

/-- Reads a key or value in brackets, which may be left out. -/
def readFlowPart (d : Directives) (isKey : Bool) (ending : Token) :
    Nat → List (String × Node) → List Token → Except Flaw (Parsed Node)
  | 0, _, _ => .error .malformed
  | fuel + 1, names, tokens =>
    match tokens with
    | [] => .error .malformed
    | t :: _ =>
      if t = .comma || t = ending || (isKey && t = .value) then .ok (.absent, names, tokens)
      else readNode d false false fuel names tokens

/-- Reads a pair in brackets behind the token of its key. -/
def readFlowPair (d : Directives) (ending : Token) :
    Nat → List (String × Node) → List Token → Except Flaw (Parsed (Node × Node))
  | 0, _, _ => .error .malformed
  | fuel + 1, names, tokens => do
    let (key, names, rest) ← readFlowPart d true ending fuel names tokens
    match rest with
    | .value :: rest =>
      let (value, names, rest) ← readFlowPart d false ending fuel names rest
      return ((key, value), names, rest)
    | rest => return ((key, .absent), names, rest)

/-- Reads the items of a list in brackets. -/
def readFlowItems (d : Directives) :
    Nat → Bool → List Node → List (String × Node) → List Token → Except Flaw (Parsed (List Node))
  | 0, _, _, _, _ => .error .malformed
  | fuel + 1, first, done, names, tokens =>
    match tokens with
    | .listEnd :: rest => .ok (done, names, rest)
    | _ => do
      let rest ← behindComma first tokens
      match rest with
      | .key :: rest =>
        let (pair, names, rest) ← readFlowPair d .listEnd fuel names rest
        readFlowItems d fuel false (done ++ [.map (some .map) [pair]]) names rest
      | .listEnd :: rest => return (done, names, rest)
      | rest =>
        let (node, names, rest) ← readNode d false false fuel names rest
        readFlowItems d fuel false (done ++ [node]) names rest

/-- Reads the entries of a mapping in brackets. -/
def readFlowEntries (d : Directives) :
    Nat → Bool → List (Node × Node) → List (String × Node) → List Token →
    Except Flaw (Parsed (List (Node × Node)))
  | 0, _, _, _, _ => .error .malformed
  | fuel + 1, first, done, names, tokens =>
    match tokens with
    | .mapEnd :: rest => .ok (done, names, rest)
    | _ => do
      let rest ← behindComma first tokens
      match rest with
      | .key :: rest =>
        let (pair, names, rest) ← readFlowPair d .mapEnd fuel names rest
        readFlowEntries d fuel false (done ++ [pair]) names rest
      | .mapEnd :: rest => return (done, names, rest)
      | rest =>
        let (key, names, rest) ← readNode d false false fuel names rest
        readFlowEntries d fuel false (done ++ [(key, .absent)]) names rest

end

/-! ## Documents -/

/-- Whether a document with a start has nothing behind it. -/
def isBare : List Token → Bool
  | .documentEnd :: _ | [] => true
  | _ => false

/-- Whether nothing stands behind a document but marks of its end. -/
def checkEnd (tokens : List Token) : Except Flaw Unit :=
  match tokens.dropWhile (· = .documentEnd) with
  | [] => .ok ()
  | rest =>
    match Directives.read {} rest with
    | some (_, rest) => .error (flawAt rest)
    | none => .error .malformed

/-- Reads the tokens of a text that holds one document or none. -/
def readDocument (tokens : List Token) : Except Flaw Node := do
  let (directives, tokens) ← wellFormed (Directives.read {} tokens)
  match tokens with
  | .documentStart :: content =>
    let (node, _, rest) ←
      if isBare content then .ok (.absent, [], content)
      else readNode directives true false (4 * content.length + 8) [] content
    checkEnd rest
    return node
  | [] => if directives.hasAny then .error .malformed else return .absent
  | content =>
    if directives.hasAny then .error (flawAt content)
    else
      let (node, _, rest) ← readNode directives true false (4 * content.length + 8) [] content
      checkEnd rest
      return node

/-- The value of a YAML text. -/
def read (s : List Char) : Except Flaw Value := do (← readDocument (tokens s)).value

end SchemaScribe.Document.Yaml
