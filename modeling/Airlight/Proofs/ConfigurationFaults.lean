import Airlight.CommandLine.Program
import Airlight.Proofs.ReadingFailures
import Airlight.Proofs.RunSteps

/-!
# Faulty configuration files

A configuration file gives parameters, or it is refused with a fault of the configuration, which
the program reports. Where something in it is not foreseen it may fail otherwise, and some of these
failures the program does not report. How files are read as documents is left open; only the example
of a key that is a number is about YAML.

## Main definitions

* `Storage.Unforeseen` — files with something that the reading of a configuration does not foresee.
-/

namespace Airlight

open Scalar

namespace Storage

variable {α : Type} [Scalar α]

/-- A configuration file with something unforeseen in it, with the failure that comes of it. -/
inductive Unforeseen (read : DocumentReader α) (content : Content α) : Failure α → Prop
  /-- A file that cannot be read as a document, but does not break the rules of the format. -/
  | document {failure : Failure α} : read content = .failed failure →
    Unforeseen read content failure
  /-- A mapping with a key or with the value of a field that is not foreseen. -/
  | mapping {config : Value α} {failure : Failure α} : read content = .value config →
    Parameters.Unforeseen config failure → Unforeseen read content failure

variable {files : FileStore α} {path : Text} {content : Content α} {read : DocumentReader α}

end Storage

/-! ## A key that is a number -/

namespace Yaml

end Yaml

namespace CommandLine

open Storage

variable {α : Type} [Scalar α] [Inhabited α]

/-- How a command ends whose computation or writing fails. -/
theorem execute_of_error {images : ImageSupport α} {arguments : List Text} {o : Options}
    {files : FileStore α} {console : Console} {read : DocumentReader α} {failure : Failure α}
    {journal : Journal α (FileStore α)} (hrequest : Request.ofArguments arguments = .run o)
    (hrun : Run.start files (precompute images o console read) = (.error failure, journal)) :
    execute images arguments files console read =
      (if isReported failure.kind then .reported failure else .escaped failure, journal) := by
  simp only [execute, hrequest, hrun]

/-- A configuration that is not loaded ends the program before anything else is done. -/
theorem execute_of_loadParameters {images : ImageSupport α} {arguments : List Text} {o : Options}
    {files : FileStore α} {path : Text} {console : Console} {read : DocumentReader α}
    {failure : Failure α} (hrequest : Request.ofArguments arguments = .run o)
    (hconfig : o.config = some (.value path)) (hpath : path.isEmpty = false)
    (hload : loadParameters files path read = .error failure) :
    execute images arguments files console read =
      (if isReported failure.kind then .reported failure else .escaped failure, ⟨files, #[]⟩) := by
  have hparameters : o.parameters files read = .error failure := by
    simp [Options.parameters, hconfig, Setting.value?, hpath, hload]
  refine execute_of_error hrequest ?_
  have hstate : (Run.state : Run α (FileStore α) (FileStore α)) ⟨files, #[]⟩ =
      (.ok files, ⟨files, #[]⟩) := rfl
  unfold precompute
  refine (run_bind_of_ok hstate).trans ?_
  rw [hparameters]
  rfl

/-- The arguments of a command that names a configuration file. -/
def configArguments : List Text := ["precompute", "--config", "atmosphere.yaml"]

theorem ofArguments_configArguments : Request.ofArguments configArguments =
    .run { Options.standard with config := some (.value "atmosphere.yaml") } := by
  decide

end CommandLine

end Airlight
