import Airlight.Atmosphere.Configuration
import Airlight.Storage.FileStore
import Airlight.Yaml.Document

/-!
# Configuration files

A configuration file is a document that describes an atmosphere. A document without content stands
for an empty mapping. How a file is read as a document is left open; by default it is a YAML
document in the encoding of characters.
-/

namespace Airlight.Storage

variable {α : Type} [Scalar α]

/-- What a file gives that is read as a document. -/
inductive Reading (α : Type) where
  | value (value : Value α)
  /-- The document breaks the rules of its format. -/
  | malformed
  /-- The document cannot be read for another reason. -/
  | failed (failure : Failure α)

/-- How files are read as documents. -/
abbrev DocumentReader (α : Type) := Content α → Reading α

/-- The reading of a YAML document with a fault. -/
def Reading.ofFault {α : Type} : Yaml.Fault → Reading α
  | .malformed => .malformed
  | .spelling cause => .failed (.spelling cause)
  | .range => .failed .overflow
  | .flag => .failed .noFlag
  | .time => .failed .noTime
  | .empty => .failed .index
  | .noText => .failed .type
  | .depth => .failed .nesting

/-- What is said about bytes that are no text, without telling which of them it is. -/
def undecodedMessage : String := "'utf-8' codec can't decode the file"

/-- Reads a file as a YAML document. Its bytes have to be characters. -/
def readYaml : DocumentReader α
  | .text text =>
    match text.toString? with
    | none => .failed (.encoding undecodedMessage)
    | some characters =>
      match Yaml.read characters with
      | .ok value => .value value
      | .error fault => .ofFault fault
  | _ => .failed (.encoding undecodedMessage)

/-- The parameters that a configuration file describes. -/
def loadParameters (files : FileStore α) (path : Text) (read : DocumentReader α := readYaml) :
    Except (Failure α) (Parameters α) :=
  match files.lookup? path with
  | none => .error (.missingConfig path)
  | some .directory => .error (.storage .isDirectory)
  | some (.file content) =>
    match read content with
    | .malformed => .error (.config (.malformed path))
    | .failed failure => .error failure
    | .value .null => Parameters.ofValue (.mapping [])
    | .value value => Parameters.ofValue value

end Airlight.Storage
