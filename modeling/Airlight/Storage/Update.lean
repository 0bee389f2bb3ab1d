import Airlight.Journal.Run
import Airlight.Storage.FileStore

/-!
# Changes of the files

A change that the file store refuses ends the run and leaves the files as they were.
-/

namespace Airlight.Storage

/-- Changes the files by a step that may leave a part of the change when it is refused. -/
def attempt {α : Type} (step : FileStore α → Except StorageFault Unit × FileStore α) :
    Run α (FileStore α) Unit := do
  let (result, files) := step (← Run.state)
  Run.change fun _ => files
  match result with
  | .ok () => pure ()
  | .error fault => throw (.storage fault)

/-- Changes the files unless that is refused. -/
def update {α : Type} (change : FileStore α → Except StorageFault (FileStore α)) :
    Run α (FileStore α) Unit :=
  attempt fun files =>
    match change files with
    | .ok changed => (.ok (), changed)
    | .error fault => (.error fault, files)

end Airlight.Storage
