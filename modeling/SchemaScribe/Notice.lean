/-!
# Notices

What a run tells its log while it works: warnings and errors, each from a part of the program. A
computation that may fail keeps what it noted before it failed (`Noted`).
-/

namespace SchemaScribe

/-- How serious a notice is. -/
inductive Severity where
  | warning
  | error
deriving DecidableEq, Repr

/-- The word for a severity in a log. -/
def Severity.word : Severity → String
  | .warning => "WARNING"
  | .error => "ERROR"

/-- A line of the log. -/
structure Notice where
  severity : Severity
  source : String
  text : String
deriving DecidableEq, Repr

/-- A computation that leaves notes whether it succeeds or fails. -/
structure Noted (ν : Type w) (ε : Type u) (α : Type v) where
  notes : List ν
  outcome : Except ε α

namespace Noted

/-- A result without notes. -/
def pure (a : α) : Noted ν ε α := ⟨[], .ok a⟩

/-- A failure without notes. -/
def fail (e : ε) : Noted ν ε α := ⟨[], .error e⟩

/-- Notes alone. -/
def note (notes : List ν) : Noted ν ε Unit := ⟨notes, .ok ()⟩

/-- An outcome without notes. -/
def ofExcept (outcome : Except ε α) : Noted ν ε α := ⟨[], outcome⟩

/-- One computation after another; the second runs if the first succeeds. -/
def bind (x : Noted ν ε α) (f : α → Noted ν ε β) : Noted ν ε β :=
  match x.outcome with
  | .ok a => ⟨x.notes ++ (f a).notes, (f a).outcome⟩
  | .error e => ⟨x.notes, .error e⟩

instance : Monad (Noted ν ε) where
  pure := pure
  bind := bind

/-- The same computation with another reading of its failure. -/
def mapError (f : ε → ε') (x : Noted ν ε α) : Noted ν ε' α := ⟨x.notes, x.outcome.mapError f⟩

@[simp] theorem outcome_pure (a : α) : (Pure.pure a : Noted ν ε α).outcome = .ok a := rfl

@[simp] theorem outcome_fail (e : ε) : (fail e : Noted ν ε α).outcome = .error e := rfl

@[simp] theorem outcome_note (notes : List ν) :
    (note notes : Noted ν ε Unit).outcome = .ok () := rfl

@[simp] theorem outcome_ofExcept (x : Except ε α) : (ofExcept x : Noted ν ε α).outcome = x := rfl

/-- The outcome of a sequence does not depend on notes. -/
@[simp] theorem outcome_bind (x : Noted ν ε α) (f : α → Noted ν ε β) :
    (x >>= f).outcome = x.outcome >>= fun a => (f a).outcome := by
  show (bind x f).outcome = _
  unfold bind
  cases h : x.outcome <;> simp [Bind.bind, Except.bind]

end Noted

end SchemaScribe
