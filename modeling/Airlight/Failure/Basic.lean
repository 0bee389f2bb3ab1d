import Airlight.Atmosphere.Field
import Airlight.Document.Value

/-!
# Failures

Everything that can go wrong, by cause. `Failure.kind` sorts the causes into the classes that
callers tell apart.
-/

namespace Airlight

/-- What is wrong with a configuration. -/
inductive ConfigFault (α : Type) where
  | notAMapping (kind : String)
  | unknownKeys (keys : List Text)
  | malformed (path : Text)
  | notNumbers (field : Field) (count : Nat)
  | wrongCount (field : Field) (count found : Nat)
  | notFinite (field : Field)
  | invalidLayer (field : Field)
  | notALayer (field : Field)
  | negativeWidth (field : Field)
  | notANumber (field : Field) (value : Value α)
  | radiiNotFinite
  | radiiOrder (bottom top : α)
  | negativeValues (field : Field)
  | wavelengthsNotPositive
  | sunRadiusNegative
  | sunLimit (value : α)
  | phaseAsymmetry
  | unitNotPositive
  | noLayer (field : Field)

/-- What is wrong with an argument. Sizes and counts are shown as they were given. -/
inductive ArgumentFault (α : Type) where
  | spectrumShape (spectrum wavelengths : List Nat)
  | tooFewSamples
  | wavelengthShape (shape : List Nat)
  | gridSizes (nu muS mu r : Value α)
  | muSize (size : Value α)
  | blockSize (size : Value α)
  | sampleCount (count : Value α)
  | tableShape (shape : List Nat)
  | tableSize (width height : Value α)
  | tableChannels (count : Nat)
  | projectionShape (shape : List Nat)
  | voxelShape (shape : List Nat)
  | tiling (width : Nat) (depth : Value α)
  | imageShape (shape : List Nat)
  | noChannels (path : Text)
  | missingTextures (path : Text) (names : List String)
  | gridMismatch (found : List Nat) (expected : List (Value α))

/-- The parameters of a ray. -/
inductive RayParameter where
  | radius
  | viewCosine
  | sunCosine
  | viewSunCosine
  deriving DecidableEq, Repr

/-- What the file store refuses to do with a path. -/
inductive StorageFault where
  | missing (path : Text)
  | exists
  | isDirectory
  | notDirectory
  /-- A name or a path that is too long. -/
  | tooLong
  /-- A path with a zero character. -/
  | zeroCharacter
  /-- A path with a surrogate that stands for no byte. -/
  | surrogate (path : Text)
  | notAnArchive
  /-- A file that cannot be written or read as an image. -/
  | imageRefused
  deriving DecidableEq, Repr

/-- Why the sizes of arrays cannot be used. -/
inductive ShapeFault where
  /-- Arrays of these sizes cannot be combined. -/
  | apart (shapes : List (List Nat))
  /-- Values of some sizes do not fit the positions that they are for. -/
  | unfit (values positions : List Nat)
  /-- A sum has other sizes than the array that is to keep it. -/
  | outgrown (kept sum : List Nat)
  /-- A nested list is no array: its parts share only some sizes. -/
  | ragged (shared : List Nat)
  /-- A size that no index reaches. -/
  | tooLong
  /-- More bytes than indices reach. -/
  | tooLarge
  /-- Sizes that an operation does not take. -/
  | other
  deriving DecidableEq, Repr

/-- Why an operation failed. -/
inductive Failure (α : Type) where
  | config (fault : ConfigFault α)
  | argument (fault : ArgumentFault α)
  | missingConfig (path : Text)
  | missingImage (path : Text)
  | missingArchive (path : Text)
  /-- A ray parameter outside its range. -/
  | rayOutside (parameter : RayParameter)
  | voxelOutside (width height depth : Nat)
  | writtenTwice
  | unwritten
  | notInitialized
  /-- No support for images, found when writing or when reading one. -/
  | noImageSupport (writing : Bool)
  /-- Sizes of arrays that cannot be used. -/
  | shapes (fault : ShapeFault)
  /-- More axes than a lookup takes. -/
  | axes
  /-- No workers were asked for. -/
  | noWorkers
  /-- An index outside an array. -/
  | index
  /-- A value of a kind that the operation is not defined for. -/
  | type
  /-- Something that the arithmetic of arrays does not take, such as a text. -/
  | operand
  /-- An undefined number where an integer has to be. -/
  | undefined
  /-- A text that has the form of a value but names none. -/
  | spelling (cause : Misspelling)
  /-- A text that is no word for a flag where a flag has to be. -/
  | noFlag
  /-- A text that has not the form of a time where a time has to be. -/
  | noTime
  /-- An integer beyond the range of the number type. -/
  | overflow
  /-- An array that no memory holds. -/
  | memory
  | divisionByZero
  /-- Too many collections inside each other. -/
  | nesting
  /-- There is nothing to act on: no model, or no textures. -/
  | noModel
  | storage (fault : StorageFault)
  /-- A text that an encoding cannot express, or bytes that are no text in it, with what the
  encoding says about them. -/
  | encoding (reason : Text)
  /-- The observer of a run stopped it. -/
  | interrupted

/-- The classes of failures that callers tell apart. -/
inductive FailureKind where
  | configuration
  | value
  | missingFile
  | runtime
  | index
  | assertion
  | type
  | operation
  | key
  | encoding
  | overflow
  | memory
  | divisionByZero
  | recursion
  | attribute
  | fileExists
  | isDirectory
  | notDirectory
  | system
  | interrupt
  deriving DecidableEq, Repr

namespace Failure

variable {α : Type}

/-- The class of a failure. -/
def kind : Failure α → FailureKind
  | config _ => .configuration
  | argument _ | shapes _ | undefined | spelling _ | noWorkers => .value
  | storage .notAnArchive | storage .zeroCharacter => .value
  | storage (.surrogate _) | encoding _ => .encoding
  | missingConfig _ | missingImage _ | missingArchive _ | storage (.missing _) => .missingFile
  | rayOutside _ => .assertion
  | voxelOutside .. | index => .index
  | noFlag => .key
  | writtenTwice | unwritten | notInitialized | noImageSupport _ | axes => .runtime
  | type => .type
  | operand => .operation
  | overflow => .overflow
  | memory => .memory
  | divisionByZero => .divisionByZero
  | nesting => .recursion
  | noModel | noTime => .attribute
  | storage .exists => .fileExists
  | storage .isDirectory => .isDirectory
  | storage .notDirectory => .notDirectory
  | storage .tooLong | storage .imageRefused => .system
  | interrupted => .interrupt

/-- The failure of an operation on a value that is no number. -/
def ofNotANumber : NotANumber → Failure α
  | .kind => type
  | .spelling => spelling .number
  | .range => overflow

end Failure

end Airlight
