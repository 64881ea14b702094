import SchemaScribe.Document.Moment
import SchemaScribe.Text.Numeral

/-!
# Flaws of documents

Why a text is no document. Most flaws are those of form, about which no more is told. The others lie in a
single scalar: it has a meaning by its looks or by its tag, and there is no such value.
-/

namespace SchemaScribe.Document

open SchemaScribe.Text (literal IntegerFault)

/-- Why a text is no document. -/
inductive Flaw where
  | malformed
  | integer (fault : IntegerFault)
  | real (text : String)
  | realTooLarge
  | noDigits
  | truth (word : String)
  | moment (fault : MomentFault)
  | noMoment
  | code (n : Nat)
deriving DecidableEq, Repr

namespace Flaw

/-- Whether the number of a character is beyond even 31 bits. -/
def isHugeCode (n : Nat) : Bool := 2147483648 ≤ n

/-- The complaint about a flaw; flaws of form have none of their own. -/
def message : Flaw → String
  | .malformed => ""
  | .integer fault => fault.message
  | .real text => "could not convert string to float: " ++ literal text
  | .realTooLarge => "int too large to convert to float"
  | .noDigits => "string index out of range"
  | .truth word => literal word
  | .moment fault => fault.message
  | .noMoment => "'NoneType' object has no attribute 'groupdict'"
  | .code n =>
    if isHugeCode n then "Python int too large to convert to C int" else "chr() arg not in range(0x110000)"

/-- The kind of a flaw in messages. -/
def kindWord : Flaw → String
  | .malformed | .integer _ | .real _ | .moment _ => "ValueError"
  | .realTooLarge => "OverflowError"
  | .noDigits => "IndexError"
  | .truth _ => "KeyError"
  | .noMoment => "AttributeError"
  | .code n => if isHugeCode n then "OverflowError" else "ValueError"

/-- Whether a flaw is one of the input, which is reported and not left to end the program. -/
def isReported (f : Flaw) : Bool := f.kindWord = "ValueError"

end Flaw

/-- An answer that is missing only where the form is wrong. -/
def wellFormed : Option α → Except Flaw α
  | some a => .ok a
  | none => .error .malformed

end SchemaScribe.Document
