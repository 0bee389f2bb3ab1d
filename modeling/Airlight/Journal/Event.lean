import Airlight.Document.Quantity

/-!
# Events of a run

A long run tells what it does: notices about what it has begun or finished, and for an observer how
far it has come.
-/

namespace Airlight

/-- A file that has been written, or the files in a directory. -/
inductive FileNotice where
  | archiveSaved (path : Text)
  | imageSaved (path : Text) (shape : List Nat)
  | written (path : Text)

/-- Something that a run has begun or finished. Sizes and counts are as they were given. -/
inductive Notice (α : Type) where
  | precomputing (bottom top unit : α) (grid : List (Quantity α))
  | tableStarted (width height count : Value α)
  | tableDone (largest smallest : α)
  | passStarted (voxels blocks : Nat) (workers : Value α)
  | passDone (largest : α)
  | file (notice : FileNotice)

/-- The stages of a run that an observer hears about. -/
inductive Stage where
  | initializing
  | transmittance
  | block (done total : Nat)
  | complete
  deriving DecidableEq, Repr

/-- How far a run has come: the part that is done, from 0 to 1, and the stage reached. -/
structure Progress (α : Type) where
  fraction : α
  stage : Stage

/-- An entry of a journal. -/
inductive Event (α : Type) where
  | notice (notice : Notice α)
  | progress (progress : Progress α)

/-- One who is told about progress and may stop the run by answering with a failure. -/
structure Observer (α : Type) where
  /-- What is heard of progress that has been made. -/
  hears : Progress α → Progress α
  answer : Progress α → Option (Failure α)

namespace Observer

/-- An observer who hears everything as it is and never stops a run. -/
def patient {α : Type} : Observer α := ⟨id, fun _ => none⟩

/-- The observer of a part of a run: the fractions of the part become fractions of the whole. -/
def ofPart {α : Type} (convert : α → α) (o : Observer α) : Observer α :=
  { o with hears := fun p => o.hears { p with fraction := convert p.fraction } }

end Observer

end Airlight
