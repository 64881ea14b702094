import SchemaScribe.Text.Literal

/-!
# Lone surrogates

What a database or a document calls a text may hold halves of surrogate pairs that stand alone. They
are code points, but no characters, and no bytes encode them. Such a text is given as characters some of
which stand for lone surrogates (`StandIns`). A stand-in comes from behind the surrogates, so it is none of
the characters that the program looks for, and it is none of the other characters of its text. Only encoding
tells it from other characters.
-/

namespace SchemaScribe.Text

/-- Half of a surrogate pair. -/
structure Surrogate where
  code : Nat
  low : 0xd800 ≤ code
  high : code < 0xe000
deriving DecidableEq, Repr

/-- A code point of a text: a character, or half of a surrogate pair that stands alone. -/
inductive CodePoint where
  | char (c : Char)
  | lone (half : Surrogate)
deriving DecidableEq, Repr

/-- A character that stands for a lone surrogate. -/
structure StandIn where
  char : Char
  half : Surrogate
  behind : 0xe000 ≤ char.toNat
deriving DecidableEq, Repr

/-- A character for a lone surrogate that is not among those in use. -/
def StandIn.fresh (used : List Char) (half : Surrogate) : StandIn :=
  let candidates := (List.range (used.length + 1)).map fun n => Char.ofNat (0xf0000 + n)
  let c := (candidates.find? fun c => !used.contains c).getD '\ufffd'
  if h : 0xe000 ≤ c.toNat then ⟨c, half, h⟩ else ⟨'\ufffd', half, by decide⟩

/-- The characters that stand for lone surrogates. -/
abbrev StandIns := List StandIn

namespace StandIns

/-- The lone surrogate that a character stands for. -/
def surrogate? (standIns : StandIns) (c : Char) : Option Surrogate :=
  (standIns.find? (·.char = c)).map (·.half)

/-- Spells code points as characters beside those in use. -/
def spell (standIns : StandIns) (used : List Char) : List CodePoint → List Char × StandIns
  | [] => ([], standIns)
  | .char c :: rest =>
    let (text, standIns) := spell standIns used rest
    (c :: text, standIns)
  | .lone half :: rest =>
    let (c, standIns) : Char × StandIns :=
      match standIns.find? (·.half = half) with
      | some known => (known.char, standIns)
      | none =>
        let new := StandIn.fresh (standIns.map (·.char) ++ used) half
        (new.char, new :: standIns)
    let (text, standIns) := spell standIns used rest
    (c :: text, standIns)

/-- The code points that a text spells. -/
def codePoints (standIns : StandIns) (s : String) : List CodePoint :=
  s.toList.map fun c => ((standIns.surrogate? c).map .lone).getD (.char c)

/-- A text with the replacement character for every lone surrogate. -/
def replaced (standIns : StandIns) (s : String) : String :=
  .ofList (s.toList.map fun c => if (standIns.surrogate? c).isSome then '\ufffd' else c)

end StandIns

/-- The characters among code points. -/
def CodePoint.char? : CodePoint → Option Char
  | .char c => some c
  | .lone _ => none

/-- The text that code points spell, with what stands for the lone surrogates among them. -/
def spellCodePoints (points : List CodePoint) : String × StandIns :=
  let (text, standIns) := StandIns.spell [] (points.filterMap CodePoint.char?) points
  (.ofList text, standIns)

/-! ## Encoding -/

/-- The first lone surrogates of a text: where they stand, how many follow each other there, and the first
of them. -/
structure EncodeFault where
  position : Nat
  length : Nat
  first : Surrogate
deriving DecidableEq, Repr

/-- The complaint about a text that cannot be encoded. -/
def EncodeFault.message (fault : EncodeFault) : String :=
  let place :=
    if fault.length ≤ 1 then
      "character '\\u" ++ .ofList (hexPlaces 4 fault.first.code) ++ "' in position " ++
        toString fault.position
    else
      "characters in position " ++ toString fault.position ++ "-" ++
        toString (fault.position + fault.length - 1)
  "'utf-8' codec can't encode " ++ place ++ ": surrogates not allowed"

namespace StandIns

/-- The first lone surrogates at or after a position. -/
def firstLone (standIns : StandIns) (position : Nat) : List Char → Option EncodeFault
  | [] => none
  | c :: rest =>
    match standIns.surrogate? c with
    | some half =>
      some ⟨position, (rest.takeWhile fun d => (standIns.surrogate? d).isSome).length + 1, half⟩
    | none => firstLone standIns (position + 1) rest

/-- The bytes that encode a text, or the lone surrogates that no bytes encode. -/
def encode (standIns : StandIns) (s : String) : Except EncodeFault ByteArray :=
  -- Most texts have no stand-ins, and these are not searched for any.
  if standIns.isEmpty then .ok s.toUTF8
  else
    match standIns.firstLone 0 s.toList with
    | some fault => .error fault
    | none => .ok s.toUTF8

end StandIns

end SchemaScribe.Text
