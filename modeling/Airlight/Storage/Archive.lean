import Airlight.Journal.Console
import Airlight.Storage.Update

/-!
# Texture archives

An archive is one file that holds textures by name.
-/

namespace Airlight.Storage

variable {α : Type}

/-- The path at which an archive is saved: the ending of archives is added if it is missing. -/
def archivePath (path : Text) : Text :=
  if path.endsWith ".npz" then path else path ++ ".npz"

/-- Saves textures in an archive, and then shows that on the console. -/
def saveArchive (path : Text) (textures : NamedTextures α) (console : Console := .complete) :
    Run α (FileStore α) Unit := do
  update (·.write (archivePath path) (.archive textures))
  Run.announce console (.archiveSaved path)

/-- Loads the textures of an archive, which has to contain all grids. -/
def loadArchive (files : FileStore α) (path : Text) : Except (Failure α) (TextureSet α) :=
  match files.lookup? path with
  | none => .error (.missingArchive path)
  | some .directory => .error (.storage .isDirectory)
  | some (.file (.archive textures)) =>
    match TextureSet.ofNamed textures with
    | .ok set => .ok set
    | .error missing => .error (.argument (.missingTextures path (missing.map TextureName.text)))
  | some (.file _) => .error (.storage .notAnArchive)

end Airlight.Storage
