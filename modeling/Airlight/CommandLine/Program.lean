import Airlight.CommandLine.Arguments
import Airlight.Failure.Message
import Airlight.Model
import Airlight.Storage.Configuration

/-!
# The program

Precomputes the textures of the configured atmosphere and writes them. Causes that lie in the
configuration, the arguments or the files are reported; any other failure ends the program.
-/

namespace Airlight.CommandLine

open Grid Storage

/-- How the program ends. -/
inductive Outcome (α : Type) where
  | done
  /-- Help was asked for or the arguments make no sense. -/
  | usage (help : Bool)
  /-- A failure that is reported. -/
  | reported (failure : Failure α)
  /-- A failure that is not the user's. -/
  | escaped (failure : Failure α)

namespace Outcome

/-- The exit code, if the program ends in an orderly way. -/
def exitCode? {α : Type} : Outcome α → Option Nat
  | done => some 0
  | usage true => some 0
  | usage false => some 2
  | reported _ => some 1
  | escaped _ => none

/-- The line that reports a failure. -/
def complaint? : Outcome Float → Option Text
  | reported failure => some ("Error: " ++ failure.report)
  | _ => none

end Outcome

/-- Whether failures of a class are reported. -/
def isReported : FailureKind → Bool
  | .configuration | .missingFile | .value | .encoding | .runtime | .recursion => true
  | _ => false

variable {α : Type} [Scalar α]

/-- The value of a setting, which has to be there. -/
def Setting.valueOrFail {β : Type} (s : Setting β) : Except (Failure α) β :=
  match s with
  | .value v => .ok v
  | .blank => .error .type

/-- The value of a count; one that has been taken away is an empty list. -/
def Setting.toValue : Setting Int → Value α
  | .value n => .integer n
  | .blank => .list []

/-- The work that the options ask for. -/
def Options.effort (o : Options) : Effort α :=
  { Effort.standard with
    workers := o.workers.toValue
    blockSize := o.blockSize.toValue
    sampleCount := o.sampleCount.toValue
    tableSampleCount := o.tableSampleCount.toValue }

/-- The parameters that the options name. Without a path, or with an empty one, they are those of
the Earth. -/
def Options.parameters (o : Options) (files : FileStore α) (read : DocumentReader α) :
    Except (Failure α) (Parameters α) :=
  match o.config.bind Setting.value? with
  | none => Parameters.earthDefault true
  | some path =>
    if path.isEmpty then Parameters.earthDefault true else loadParameters files path read

/-- The sizes of the grid that the options name. -/
def Options.sizes (o : Options) : Except (Failure α) (GridSizes α) :=
  match o.resolution with
  | none => .ok (.ofExtents .standard)
  | some sizes =>
    let size (i : Fin 4) : Value α := .integer (sizes.get i)
    GridSizes.ofSizes (size 0) (size 1) (size 2) (size 3)

/-- The name of the archive that the program writes. -/
def archiveName : String := "skylight_luts.npz"

/-- Precomputes the textures that the options ask for and writes them. The result is the path at
which they were written. Without a form the textures become an archive. -/
@[specialize] def precompute [Inhabited α] (images : ImageSupport α) (o : Options)
    (console : Console) (read : DocumentReader α) : Run α (FileStore α) Text := do
  let parameters ← Run.lift (o.parameters (← Run.state) read)
  let sizes ← Run.lift o.sizes
  let (_, model) ← Run.within (Model.new parameters sizes Model.standardUnit)
    (Model.init o.effort (images.round .single) (some .patient))
  let output ← Run.lift o.output.valueOrFail
  attempt (FileStore.makeDirectories output)
  match o.format with
  | .value .images => do
    model.saveImages images output o.half console
    return output
  | .value .archive | .blank => do
    let path := Path.join output archiveName
    model.save path console
    return path

/-- Runs the program on its arguments and the files, which it may change. What the console says
about the last line is not reported. -/
@[specialize] def execute [Inhabited α] (images : ImageSupport α) (arguments : List Text)
    (files : FileStore α) (console : Console := .complete)
    (read : DocumentReader α := readYaml) : Outcome α × Journal α (FileStore α) :=
  match Request.ofArguments arguments with
  | .help => (.usage true, ⟨files, #[]⟩)
  | .refused => (.usage false, ⟨files, #[]⟩)
  | .run o =>
    match Run.start files (precompute images o console read) with
    | (.error failure, journal) =>
      (if isReported failure.kind then .reported failure else .escaped failure, journal)
    | (.ok path, journal) =>
      match Run.announce console (.written path) journal with
      | (.ok (), journal) => (.done, journal)
      | (.error failure, journal) => (.escaped failure, journal)

end Airlight.CommandLine
