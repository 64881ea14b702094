import SchemaScribe.Document.Yaml.Quoted

/-!
# Tokens

A YAML text as a sequence of tokens. Indentation becomes tokens that open and close blocks. A key is
known by the colon behind it only: until the colon comes, a place where a key may have started is kept
as a candidate, and the token of the key is put in there afterwards. Where a text breaks the rules of
indentation, keys or scalars, a token with the flaw ends the sequence.
-/

namespace SchemaScribe.Document.Yaml

open SchemaScribe.Text (hexValue?)

/-- A token of a YAML text. The last one may be the flaw that keeps the text from being read on. -/
inductive Token where
  | blockList
  | blockMap
  | blockEnd
  | listStart
  | listEnd
  | mapStart
  | mapEnd
  | entry
  | comma
  | key
  | value
  | reference (name : String)
  | anchor (name : String)
  | tag (handle : Option String) (name : String)
  | scalar (plain : Bool) (text : String)
  | documentStart
  | documentEnd
  | version (major : Nat)
  | handle (handle stem : String)
  | directive
  | unreadable (flaw : Flaw)
deriving DecidableEq, Repr

/-- A place where a key may have started. -/
structure Candidate where
  depth : Nat
  number : Nat
  required : Bool
  line : Nat
  column : Nat
  index : Nat

/-- A text read up to a place. -/
structure Lexer where
  cursor : Cursor
  depth : Nat := 0
  indent : Int := -1
  outer : List Int := []
  keyAllowed : Bool := true
  candidates : List Candidate := []
  tokens : List Token := []

namespace Lexer

/-- Adds a token. -/
def push (l : Lexer) (t : Token) : Lexer := { l with tokens := l.tokens ++ [t] }

/-- Moves on. -/
def skip (l : Lexer) (n : Nat) : Lexer := { l with cursor := l.cursor.skip n }

/-- Skips spaces, comments and line ends. Outside brackets a key may start on a new line. -/
def skipGaps : Nat → Lexer → Lexer
  | 0, l => l
  | fuel + 1, l =>
    let c := l.cursor.skipWhile (· = ' ')
    let c := if c.rest.head? = some '#' then c.skipWhile (!isBreak ·) else c
    match c.lineEnd? with
    | none => { l with cursor := c }
    | some (_, next) =>
      skipGaps fuel { l with cursor := next, keyAllowed := l.keyAllowed || l.depth = 0 }

/-- Drops candidates that are too far back; one that had to be a key must not be dropped. -/
def dropStale (l : Lexer) : Option Lexer :=
  let isStale := fun (k : Candidate) =>
    k.line ≠ l.cursor.line || 1024 < l.cursor.index - k.index
  if l.candidates.any fun k => isStale k && k.required then none
  else some { l with candidates := l.candidates.filter (!isStale ·) }

/-- Drops the candidate at this depth of brackets; one that had to be a key must not be dropped. -/
def dropCandidate (l : Lexer) : Option Lexer :=
  if l.candidates.any fun k => k.depth = l.depth && k.required then none
  else some { l with candidates := l.candidates.filter (·.depth ≠ l.depth) }

/-- Keeps this place as a candidate, if a key may start here. -/
def keepCandidate (l : Lexer) : Option Lexer :=
  if !l.keyAllowed then some l
  else do
    let l ← l.dropCandidate
    let k : Candidate := {
      depth := l.depth, number := l.tokens.length
      required := l.depth = 0 && l.indent = l.cursor.column
      line := l.cursor.line, column := l.cursor.column, index := l.cursor.index }
    return { l with candidates := k :: l.candidates }

/-- Closes the blocks that are indented more than a column. -/
def closeBlocks (column : Int) : List Int → Lexer → Lexer
  | [], l => l
  | outer :: rest, l =>
    if column < l.indent then
      closeBlocks column rest { l with indent := outer, outer := rest, tokens := l.tokens ++ [.blockEnd] }
    else l

/-- Closes the blocks that end at a column, outside brackets. -/
def unwind (l : Lexer) (column : Int) : Lexer :=
  if l.depth = 0 then closeBlocks column l.outer l else l

/-- Opens a block at a column, unless one is open there: its token is put in at a place. -/
def openBlock (l : Lexer) (column : Nat) (number : Nat) (t : Token) : Lexer :=
  if l.indent < column then
    { l with indent := column, outer := l.indent :: l.outer, tokens := l.tokens.insertIdx number t }
  else l

/-- An item of a block list. -/
def takeEntry (l : Lexer) : Option Lexer := do
  if l.depth = 0 && !l.keyAllowed then none
  else
    let l := if l.depth = 0 then l.openBlock l.cursor.column l.tokens.length .blockList else l
    let l ← { l with keyAllowed := true }.dropCandidate
    return (l.push .entry).skip 1

/-- A key that is marked as one. -/
def takeKey (l : Lexer) : Option Lexer := do
  if l.depth = 0 && !l.keyAllowed then none
  else
    let l := if l.depth = 0 then l.openBlock l.cursor.column l.tokens.length .blockMap else l
    let l ← { l with keyAllowed := l.depth = 0 }.dropCandidate
    return (l.push .key).skip 1

/-- A value: what came since the candidate at this depth is its key. -/
def takeValue (l : Lexer) : Option Lexer := do
  match l.candidates.find? (·.depth = l.depth) with
  | some k =>
    let l := { l with
      candidates := l.candidates.filter (·.depth ≠ l.depth)
      tokens := l.tokens.insertIdx k.number .key }
    let l := if l.depth = 0 then l.openBlock k.column k.number .blockMap else l
    return ({ l with keyAllowed := false }.push .value).skip 1
  | none =>
    if l.depth = 0 && !l.keyAllowed then none
    else
      let l := if l.depth = 0 then l.openBlock l.cursor.column l.tokens.length .blockMap else l
      let l ← { l with keyAllowed := l.depth = 0 }.dropCandidate
      return (l.push .value).skip 1

/-- Adds a scanned scalar. -/
def takeScalar (l : Lexer) (plain : Bool) (s : Scanned) : Lexer :=
  { l with cursor := s.cursor, keyAllowed := s.keyAllowed }.push (.scalar plain (.ofList s.text))

/-- Characters of the names of anchors. -/
def isNameChar (c : Char) : Bool := c.isAlphanum || c = '-' || c = '_'

/-- A reference or an anchor. -/
def takeName (l : Lexer) (make : String → Token) : Option Lexer := do
  let l ← l.keepCandidate
  let name := (l.cursor.rest.drop 1).takeWhile isNameChar
  let behind := l.cursor.rest.drop (1 + name.length)
  if name.isEmpty || !(atGap behind || behind.head?.any "?:,]\x7d%@`".toList.contains) then none
  else return ({ l with keyAllowed := false }.push (make (.ofList name))).skip (1 + name.length)

/-- Whether a text is at its end, at a space or at a line end. -/
def atSpace : List Char → Bool
  | [] => true
  | c :: _ => c = ' ' || isBreak c

/-- Characters of the names of tags. -/
def isTagChar (c : Char) : Bool :=
  c.toNat < 0x80 && (c.isAlphanum || "-;/?:@&=+$,_.!~*'()[]%".toList.contains c)

/-- The bytes that the name of a tag stands for. -/
def tagBytes : List Char → Option (List UInt8)
  | [] => some []
  | '%' :: a :: b :: rest => do
    let byte := (← hexValue? a) * 16 + (← hexValue? b)
    return byte.toUInt8 :: (← tagBytes rest)
  | '%' :: _ => none
  | c :: rest => (tagBytes rest).map (c.toNat.toUInt8 :: ·)

/-- The name of a tag at the front, and what follows it. -/
def splitTagName (s : List Char) : Option (String × List Char) := do
  let raw := s.takeWhile isTagChar
  let name ← (Text.decode ⟨(← tagBytes raw).toArray⟩).toOption
  if raw.isEmpty then none else return (name, s.drop raw.length)

/-- The handle of a tag at the front, two exclamation marks with letters between them, and what follows. -/
def splitHandle : List Char → Option (String × List Char)
  | '!' :: rest =>
    let word := rest.takeWhile isNameChar
    match rest.drop word.length with
    | '!' :: behind => some (.ofList ('!' :: word ++ ['!']), behind)
    | _ => none
  | _ => none

/-- A tag at the front: its handle, its name and what follows. A tag in angle brackets and the mark alone
have no handle. -/
def splitTag (s : List Char) : Option (Option String × String × List Char) := do
  let (handle, name, rest) ← match s.drop 1 with
    | '<' :: inner =>
      match ← splitTagName inner with
      | (name, '>' :: rest) => some (none, name, rest)
      | _ => none
    | rest =>
      if atGap rest then some (none, "!", rest)
      else do
        let named := (rest.takeWhile fun c => !(c = ' ' || isBreak c)).contains '!'
        let (handle, rest) ← if named then splitHandle s else some ("!", rest)
        let (name, rest) ← splitTagName rest
        some (some handle, name, rest)
  if atSpace rest then return (handle, name, rest) else none

/-- A tag. -/
def takeTag (l : Lexer) : Option Lexer := do
  let l ← l.keepCandidate
  let s := l.cursor.rest
  let (handle, name, rest) ← splitTag s
  return ({ l with keyAllowed := false }.push (.tag handle name)).skip (s.length - rest.length)

/-- A mark that stands at the start of a line. -/
def takeMark (l : Lexer) (t : Token) (n : Nat) : Option Lexer := do
  let l ← (l.unwind (-1)).dropCandidate
  return ({ l with keyAllowed := false }.push t).skip n

/-- A number in ASCII digits at the front, and what follows it. -/
def splitNumber (s : List Char) : Option (Nat × List Char) :=
  let digits := s.takeWhile Char.isDigit
  if digits.isEmpty then none
  else some (digits.foldl (fun n c => n * 10 + (c.toNat - '0'.toNat)) 0, s.drop digits.length)

/-- The version that a directive asks for. -/
def splitVersion (s : List Char) : Option (Token × List Char) := do
  match ← splitNumber (s.dropWhile (· = ' ')) with
  | (major, '.' :: rest) =>
    let (_, rest) ← splitNumber rest
    if atSpace rest then return (.version major, rest) else none
  | _ => none

/-- The handle that a directive gives a meaning. The mark alone may be one. -/
def splitHandleMeaning (s : List Char) : Option (Token × List Char) := do
  let s := s.dropWhile (· = ' ')
  let (handle, rest) ← match s with
    | '!' :: ' ' :: rest => some ("!", ' ' :: rest)
    | _ => splitHandle s
  if rest.head? ≠ some ' ' then none
  else
    let (stem, rest) ← splitTagName (rest.dropWhile (· = ' '))
    if atSpace rest then return (.handle handle stem, rest) else none

/-- A directive behind its percent sign, and what follows its line but for the line end. -/
def splitDirective (s : List Char) : Option (Token × List Char) := do
  let name := s.takeWhile isNameChar
  let rest := s.drop name.length
  if name.isEmpty || !atSpace rest then none
  else
    let (token, rest) ←
      if name = "YAML".toList then splitVersion rest
      else if name = "TAG".toList then splitHandleMeaning rest
      else some (.directive, rest.dropWhile (!isBreak ·))
    let rest := rest.dropWhile (· = ' ')
    let rest := if rest.head? = some '#' then rest.dropWhile (!isBreak ·) else rest
    if rest.isEmpty || rest.head?.any isBreak then return (token, rest) else none

/-- A directive. -/
def takeDirective (l : Lexer) : Option Lexer := do
  let s := l.cursor.rest
  let (token, rest) ← splitDirective (s.drop 1)
  takeMark l token (s.length - rest.length)

/-- The start of a collection in brackets. -/
def takeStart (l : Lexer) (t : Token) : Option Lexer := do
  let l ← l.keepCandidate
  return ({ l with depth := l.depth + 1, keyAllowed := true }.push t).skip 1

/-- The end of a collection in brackets. -/
def takeEnd (l : Lexer) (t : Token) : Option Lexer := do
  let l ← l.dropCandidate
  return ({ l with depth := l.depth - 1, keyAllowed := false }.push t).skip 1

/-- Whether a plain scalar starts here. -/
def startsPlain (flow : Bool) : List Char → Bool
  | [] => false
  | c :: rest =>
    !(isGap c || "-?:,[]\x7b\x7d#&*!|>'\"%@`".toList.contains c) ||
      (!atGap rest && (c = '-' || (!flow && (c = '?' || c = ':'))))

/-- The next token, after gaps have been skipped. -/
def next (l : Lexer) : Except Flaw Lexer :=
  let flow := 0 < l.depth
  let s := l.cursor.rest
  let fuel := s.length + 1
  let atStart := l.cursor.column = 0
  match s with
  | [] => .error .malformed
  | c :: rest =>
    if atStart && c = '%' then wellFormed l.takeDirective
    else if atStart && atMark s then
      wellFormed (takeMark l (if c = '-' then .documentStart else .documentEnd) 3)
    else if c = '[' then wellFormed (takeStart l .listStart)
    else if c = '\x7b' then wellFormed (takeStart l .mapStart)
    else if c = ']' then wellFormed (takeEnd l .listEnd)
    else if c = '\x7d' then wellFormed (takeEnd l .mapEnd)
    else if c = ',' then wellFormed do
      let l ← { l with keyAllowed := true }.dropCandidate
      return (l.push .comma).skip 1
    else if c = '-' && atGap rest then wellFormed (takeEntry l)
    else if c = '?' && (flow || atGap rest) then wellFormed (takeKey l)
    else if c = ':' && (flow || atGap rest) then wellFormed (takeValue l)
    else if c = '*' then wellFormed (takeName l .reference)
    else if c = '&' then wellFormed (takeName l .anchor)
    else if c = '!' then wellFormed (takeTag l)
    else if (c = '|' || c = '>') && !flow then wellFormed do
      let l ← { l with keyAllowed := true }.dropCandidate
      return l.takeScalar false (← scanBlock (c = '>') l.indent l.cursor.step)
    else if c = '\'' || c = '"' then do
      let l ← wellFormed l.keepCandidate
      return l.takeScalar false (← scanQuoted (c = '"') fuel [] l.cursor.step)
    else if startsPlain flow s then wellFormed do
      let l ← l.keepCandidate
      return l.takeScalar true (scanPlain flow (l.indent + 1) fuel [] [] false l.cursor)
    else .error .malformed

/-- How many tokens are settled: no key can be put in among them any more. -/
def settled (l : Lexer) : Nat := l.candidates.foldl (fun n k => min n k.number) l.tokens.length

/-- The settled tokens, with a flaw at their end. -/
def broken (l : Lexer) (flaw : Flaw) : List Token := l.tokens.take l.settled ++ [.unreadable flaw]

/-- Reads tokens up to the end of the text or the first flaw. -/
def run : Nat → Lexer → List Token
  | 0, l => l.broken .malformed
  | fuel + 1, l =>
    match l.dropStale with
    | none => l.broken .malformed
    | some l =>
      match (skipGaps (l.cursor.rest.length + 1) l).dropStale with
      | none => l.broken .malformed
      | some here =>
        let here := here.unwind here.cursor.column
        if here.cursor.rest.isEmpty then
          match (here.unwind (-1)).dropCandidate with
          | none => l.broken .malformed
          | some l => l.tokens
        else
          match here.next with
          | .error flaw => l.broken flaw
          | .ok l => run fuel l

end Lexer

/-- The tokens of a text. A mark of the byte order in front is passed over. -/
def tokens (s : List Char) : List Token :=
  if !s.all isAllowed then [.unreadable .malformed]
  else
    let c : Cursor := { rest := s }
    let c := if s.head? = some '\ufeff' then c.step else c
    Lexer.run (s.length + 2) { cursor := c }

end SchemaScribe.Document.Yaml
