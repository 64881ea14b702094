import SchemaScribe.Document.Flaw
import SchemaScribe.Document.Yaml.Cursor
import SchemaScribe.Text.Percent

/-!
# Scalars as they are spelled

The texts of plain, quoted and block scalars. A line end inside a plain or quoted scalar is a space;
several of them are one less. Flaws are scalars that are not closed, unknown escapes, and escapes of
characters that there are not.
-/

namespace SchemaScribe.Document.Yaml

open SchemaScribe.Text (hexValue?)

/-- What a gap with line ends stands for: the first line end and those after it. -/
def foldBreaks (first : Char) (more : List Char) : List Char :=
  (if first ≠ '\n' then [first] else if more.isEmpty then [' '] else []) ++ more

/-! ## Plain scalars -/

/-- How many characters of a plain scalar come without a gap. -/
def plainLength (flow : Bool) : List Char → Nat
  | [] => 0
  | c :: rest =>
    if isGap c then 0
    else if c = ':' && (atGap rest || (flow && rest.head?.any ",[]\x7b\x7d".toList.contains)) then 0
    else if flow && ",?[]\x7b\x7d".toList.contains c then 0
    else plainLength flow rest + 1

/-- What follows part of a plain scalar: the text of the gap, whether the scalar may go on behind it,
and whether it held a line end. -/
structure PlainGap where
  text : List Char
  open_ : Bool
  crossed : Bool
  cursor : Cursor

/-- The line ends and spaces at a cursor; a document mark behind a line end stops. -/
def gapBreaks : Nat → List Char → Cursor → List Char × Bool × Cursor
  | 0, found, c => (found, true, c)
  | fuel + 1, found, c =>
    if c.rest.head? = some ' ' then gapBreaks fuel found c.step
    else
      match c.lineEnd? with
      | none => (found, true, c)
      | some (ch, next) =>
        if atMark next.rest then (found ++ [ch], false, next) else gapBreaks fuel (found ++ [ch]) next

/-- The gap behind part of a plain scalar. -/
def plainGap (c : Cursor) : PlainGap :=
  let spaces := c.rest.takeWhile (· = ' ')
  let behind := c.skip spaces.length
  match behind.lineEnd? with
  | none => ⟨spaces, !spaces.isEmpty, false, behind⟩
  | some (first, next) =>
    if atMark next.rest then ⟨[], false, true, next⟩
    else
      let (more, isOpen, after) := gapBreaks (next.rest.length + 1) [] next
      ⟨foldBreaks first more, isOpen, true, after⟩

/-- A scanned scalar: its text, where it ends, and whether a key may start there. -/
structure Scanned where
  text : List Char
  cursor : Cursor
  keyAllowed : Bool := false

/-- Reads a plain scalar. It ends before a comment, and outside brackets where a line is indented less
than `indent`. -/
def scanPlain (flow : Bool) (indent : Int) : Nat → List Char → List Char → Bool → Cursor → Scanned
  | 0, done, _, keyAllowed, c => ⟨done, c, keyAllowed⟩
  | fuel + 1, done, gap, keyAllowed, c =>
    let n := plainLength flow c.rest
    if c.rest.head? = some '#' || n = 0 then ⟨done, c, keyAllowed⟩
    else
      let done := done ++ gap ++ c.rest.take n
      let found := plainGap (c.skip n)
      let next := found.cursor
      if !found.open_ || next.rest.head? = some '#' || (!flow && (next.column : Int) < indent) then
        ⟨done, next, found.crossed⟩
      else scanPlain flow indent fuel done found.text found.crossed next

/-! ## Quoted scalars -/

/-- The character of a one-letter escape. -/
def escaped? : Char → Option Char
  | '0' => some '\x00'
  | 'a' => some '\x07'
  | 'b' => some '\x08'
  | 't' => some '\t'
  | '\t' => some '\t'
  | 'n' => some '\n'
  | 'v' => some '\x0b'
  | 'f' => some '\x0c'
  | 'r' => some '\r'
  | 'e' => some '\x1b'
  | ' ' => some ' '
  | '"' => some '"'
  | '\\' => some '\\'
  | '/' => some '/'
  | 'N' => some '\u0085'
  | '_' => some '\u00a0'
  | 'L' => some '\u2028'
  | 'P' => some '\u2029'
  | _ => none

/-- How many hexadecimal digits an escape takes. -/
def escapeWidth? : Char → Option Nat
  | 'x' => some 2
  | 'u' => some 4
  | 'U' => some 8
  | _ => none

/-- The value of hexadecimal digits. -/
def hexNumber? (digits : List Char) : Option Nat :=
  digits.foldlM (fun n c => (hexValue? c).map (n * 16 + ·)) 0

/-- The character with a number. Half of a surrogate pair stands for the replacement character. -/
def charOf (code : Nat) : Char := if code.isValidChar then Char.ofNat code else '\ufffd'

/-- The line ends at a cursor with the spaces and tabs around them; none where a document mark stands. -/
def quotedBreaks : Nat → List Char → Cursor → Option (List Char × Cursor)
  | 0, _, _ => none
  | fuel + 1, found, c =>
    if c.column = 0 && atMark c.rest then none
    else
      let next := c.skipWhile fun ch => ch = ' ' || ch = '\t'
      match next.lineEnd? with
      | none => some (found, next)
      | some (ch, after) => quotedBreaks fuel (found ++ [ch]) after

/-- Reads a quoted scalar behind its opening quote. -/
def scanQuoted (double : Bool) : Nat → List Char → Cursor → Except Flaw Scanned
  | 0, _, _ => .error .malformed
  | fuel + 1, done, c =>
    match c.rest with
    | [] => .error .malformed
    | '\'' :: rest =>
      if double then scanQuoted double fuel (done ++ ['\'']) c.step
      else if rest.head? = some '\'' then scanQuoted double fuel (done ++ ['\'']) (c.skip 2)
      else .ok ⟨done, c.step, false⟩
    | '"' :: _ =>
      if double then .ok ⟨done, c.step, false⟩
      else scanQuoted double fuel (done ++ ['"']) c.step
    | '\\' :: rest =>
      if !double then scanQuoted double fuel (done ++ ['\\']) c.step
      else
        match rest with
        | [] => .error .malformed
        | e :: digits =>
          match escaped? e, escapeWidth? e with
          | some ch, _ => scanQuoted double fuel (done ++ [ch]) (c.skip 2)
          | none, some width =>
            if digits.length < width then .error .malformed
            else
              match hexNumber? (digits.take width) with
              | some code =>
                if 0x110000 ≤ code then .error (.code code)
                else scanQuoted double fuel (done ++ [charOf code]) (c.skip (2 + width))
              | none => .error .malformed
          | none, none =>
            match c.step.lineEnd? with
            | none => .error .malformed
            | some (_, after) => do
              let (more, next) ← wellFormed (quotedBreaks (after.rest.length + 1) [] after)
              scanQuoted double fuel (done ++ more) next
    | ch :: _ =>
      if !isGap ch then scanQuoted double fuel (done ++ [ch]) c.step
      else
        let spaces := c.rest.takeWhile fun ch => ch = ' ' || ch = '\t'
        let behind := c.skip spaces.length
        match behind.lineEnd? with
        | none => scanQuoted double fuel (done ++ spaces) behind
        | some (first, after) => do
          let (more, next) ← wellFormed (quotedBreaks (after.rest.length + 1) [] after)
          scanQuoted double fuel (done ++ foldBreaks first more) next

/-! ## Block scalars -/

/-- What is kept of the line ends at the end of a block scalar. -/
inductive Chomping where
  | clip
  | strip
  | keep
deriving DecidableEq

/-- The indicators of a block scalar: what is kept at its end, and its indentation. -/
def blockIndicators (s : List Char) : Chomping × Option Nat × List Char :=
  let chomping := fun (c : Char) =>
    if c = '+' then some Chomping.keep else if c = '-' then some Chomping.strip else none
  let width := fun (c : Char) => if '1' ≤ c && c ≤ '9' then some (c.toNat - '0'.toNat) else none
  match s with
  | a :: b :: rest =>
    match chomping a, width a, chomping b, width b with
    | some k, _, _, some n => (k, some n, rest)
    | some k, _, _, none => (k, none, b :: rest)
    | none, some n, some k, _ => (k, some n, rest)
    | none, some n, none, _ => (.clip, some n, b :: rest)
    | none, none, _, _ => (.clip, none, s)
  | [a] =>
    match chomping a, width a with
    | some k, _ => (k, none, [])
    | none, some n => (.clip, some n, [])
    | none, none => (.clip, none, s)
  | [] => (.clip, none, [])

/-- The line ends at the start of a block scalar, and the widest indentation among its first lines. -/
def blockIndent : Nat → List Char → Nat → Cursor → List Char × Nat × Cursor
  | 0, found, widest, c => (found, widest, c)
  | fuel + 1, found, widest, c =>
    if c.rest.head? = some ' ' then blockIndent fuel found (max widest c.step.column) c.step
    else
      match c.lineEnd? with
      | none => (found, widest, c)
      | some (ch, next) => blockIndent fuel (found ++ [ch]) widest next

/-- Skips spaces up to a column. -/
def skipToColumn (indent : Nat) (c : Cursor) : Cursor :=
  c.skip (min (indent - c.column) (c.rest.takeWhile (· = ' ')).length)

/-- The line ends between the lines of a block scalar. -/
def blockBreaks (indent : Nat) : Nat → List Char → Cursor → List Char × Cursor
  | 0, found, c => (found, c)
  | fuel + 1, found, c =>
    let c := skipToColumn indent c
    match c.lineEnd? with
    | none => (found, c)
    | some (ch, next) => blockBreaks indent fuel (found ++ [ch]) next

/-- The lines of a block scalar. -/
def blockLines (folded : Bool) (chomping : Chomping) (indent : Nat) :
    Nat → List Char → List Char → List Char → Cursor → List Char × Cursor
  | 0, done, _, _, c => (done, c)
  | fuel + 1, done, lineEnd, breaks, c =>
    if c.column = indent && !c.rest.isEmpty then
      let solid := fun (s : List Char) => !(s.head? = some ' ' || s.head? = some '\t')
      let leading := solid c.rest
      let text := c.rest.takeWhile (!isBreak ·)
      let done := done ++ breaks ++ text
      let behind := c.skip text.length
      let (ending, next) : List Char × Cursor := match behind.lineEnd? with
        | some (ch, next) => ([ch], next)
        | none => ([], behind)
      let (more, next) := blockBreaks indent (next.rest.length + 1) [] next
      if next.column = indent && !next.rest.isEmpty then
        if folded && ending = ['\n'] && leading && solid next.rest then
          blockLines folded chomping indent fuel (if more.isEmpty then done ++ [' '] else done) ending
            more next
        else blockLines folded chomping indent fuel (done ++ ending) ending more next
      else
        (match chomping with
          | .strip => done
          | .clip => done ++ ending
          | .keep => done ++ ending ++ more, next)
    else
      (match chomping with
        | .strip => done
        | .clip => done ++ lineEnd
        | .keep => done ++ lineEnd ++ breaks, c)

/-- Reads a block scalar behind its indicator. -/
def scanBlock (folded : Bool) (indent : Int) (c : Cursor) : Option Scanned :=
  let (chomping, width, rest) := blockIndicators c.rest
  let c := c.skip (c.rest.length - rest.length)
  if !atGap c.rest then none
  else
    let c := c.skipWhile (· = ' ')
    let c := if c.rest.head? = some '#' then c.skipWhile (!isBreak ·) else c
    let start : Option Cursor := match c.lineEnd? with
      | some (_, next) => some next
      | none => if c.rest.isEmpty then some c else none
    start.map fun c =>
      let least := max (indent + 1) 1
      let (breaks, indent, c) : List Char × Nat × Cursor := match width with
        | none =>
          let (breaks, widest, c) := blockIndent (c.rest.length + 1) [] 0 c
          (breaks, max least.toNat widest, c)
        | some n =>
          let indent := (least + n - 1).toNat
          let (breaks, c) := blockBreaks indent (c.rest.length + 1) [] c
          (breaks, indent, c)
      let (text, next) := blockLines folded chomping indent (c.rest.length + 1) [] [] breaks c
      ⟨text, next, true⟩

end SchemaScribe.Document.Yaml
