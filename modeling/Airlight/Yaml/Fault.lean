import Airlight.Document.Misspelling

/-!
# Faults of documents
-/

namespace Airlight.Yaml

/-- Why a document has no value. -/
inductive Fault where
  /-- The text breaks the rules of the format or uses a form that is reserved. -/
  | malformed
  /-- A scalar has the form of a number, of a time or of an escape, but there is none like it, or
  the number of a version has too many digits. -/
  | spelling (cause : Misspelling)
  /-- An escape gives a number beyond all code points that could ever be, or a digit of base sixty
  weighs more than any number. -/
  | range
  /-- A scalar with the tag of a flag is no word for one. -/
  | flag
  /-- A scalar with the tag of a time does not have its form. -/
  | time
  /-- A scalar with the tag of a number is empty. -/
  | empty
  /-- Something else than a scalar has the tag of a time. -/
  | noText
  /-- There are too many collections inside each other. -/
  | depth
  deriving DecidableEq, Repr

/-- A fault that is found while the text is being read. -/
structure Stop where
  cause : Fault
  /-- How many characters had been looked at. -/
  reach : Nat
  deriving DecidableEq, Repr

/-- Whatever breaks the rules of the format, wherever that is found. -/
def Stop.malformed : Stop := ⟨.malformed, 0⟩

/-- What can be read, unless the format is broken. -/
def orStop {β : Type} : Option β → Except Stop β
  | some x => .ok x
  | none => .error .malformed

/-- A result that is missing only where the format is broken. -/
def orMalformed {β : Type} : Option β → Except Fault β
  | some x => .ok x
  | none => .error .malformed

end Airlight.Yaml
