import Airlight.Failure.Message
import Airlight.Journal.Run

/-!
# Consoles

The lines of a run are shown on a console, in an encoding that may not have all code points. Only
the lines about files can be refused: they name a path, and all other lines are written with the
characters that every encoding has. A line that is refused ends the run.
-/

namespace Airlight

/-- The mark in front of every notice. -/
def noticeMark : String := "[Skylight] "

namespace FileNotice

/-- What is said about a file. -/
def body : FileNotice → Text
  | archiveSaved path => "Saved textures: " ++ path
  | imageSaved path shape => "Saved EXR: " ++ path ++ " " ++ showShape shape
  | written path => "LUTs written to " ++ path

/-- The line that is shown about a file. -/
def message (n : FileNotice) : Text := noticeMark ++ n.body

end FileNotice

/-- Where the lines of a run are shown. -/
structure Console where
  /-- What the encoding of the console says about a line that it cannot express. -/
  refusal : Text → Option Text

namespace Console

/-- A console that shows every line. -/
def complete : Console := ⟨fun _ => none⟩

/-- A console that shows all characters, but no surrogates. -/
def characters : Console :=
  ⟨fun line =>
    if line.toString?.isSome then none else some (refusalMessage line (soundLength line))⟩

end Console

/-- Shows that a file has been written. A line that the console refuses is not noted. -/
def Run.announce {α σ : Type} (console : Console) (n : FileNotice) : Run α σ Unit :=
  match console.refusal n.message with
  | none => note (.file n)
  | some reason => throw (.encoding reason)

end Airlight
