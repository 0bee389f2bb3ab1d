import Airlight.Failure.Basic
import Airlight.Document.Literal

/-!
# Texts of failures

The message of a failure, for the causes that the library describes itself.
-/

namespace Airlight

/-- Sizes between parentheses; a single size is followed by a comma. -/
def showSizes : List String → String
  | [n] => "(" ++ n ++ ",)"
  | sizes => "(" ++ ", ".intercalate sizes ++ ")"

/-- The sizes of an array. -/
def showShape (shape : List Nat) : String := showSizes (shape.map toString)

/-- The sizes of a grid as they were given. -/
def showGrid (sizes : List (Value Float)) : String := showSizes (sizes.map Value.literal)

/-- The sizes of an array in a text about arrays that do not fit together. -/
def showAxes : List Nat → String
  | [n] => "(" ++ toString n ++ ",)"
  | shape => "(" ++ ",".intercalate (shape.map toString) ++ ")"

/-- The text of a fault of sizes. -/
def ShapeFault.message : ShapeFault → String
  | apart shapes =>
    "operands could not be broadcast together with shapes " ++
      String.join (shapes.map fun shape => showAxes shape ++ " ")
  | unfit values positions =>
    "shape mismatch: value array of shape " ++ showAxes values ++
      " could not be broadcast to indexing result of shape " ++ showAxes positions
  | outgrown kept sum =>
    "non-broadcastable output operand with shape " ++ showAxes kept ++
      " doesn't match the broadcast shape " ++ showAxes sum
  | ragged shared =>
    "setting an array element with a sequence. The requested array " ++
      if shared.length = Value.maxAxes then
        "would exceed the maximum number of dimension of " ++ toString shared.length ++ "."
      else
        "has an inhomogeneous shape after " ++ toString shared.length ++
          " dimensions. The detected shape was " ++ showShape shared ++ " + inhomogeneous part."
  | tooLong => "Maximum allowed dimension exceeded"
  | tooLarge =>
    "array is too big; `arr.size * arr.dtype.itemsize` is larger than the maximum possible size."
  | other => ""

/-- The text of a configuration fault. -/
def ConfigFault.message : ConfigFault Float → Text
  | notAMapping kind => "Expected a mapping, got " ++ kind
  | unknownKeys keys => "Unknown atmosphere parameter(s): " ++ Text.join ", " keys
  | malformed path => "Invalid YAML in " ++ path
  | notNumbers field count => field.name ++ ": expected " ++ toString count ++ " numbers"
  | wrongCount field count found =>
    field.name ++ ": expected " ++ toString count ++ " values, got " ++ toString found
  | notFinite field => field.name ++ ": values must be finite"
  | invalidLayer field => field.name ++ ": invalid layer"
  | notALayer field => field.name ++ ": layers must be DensityProfileLayer or mappings"
  | negativeWidth field => field.name ++ ": layer width must be non-negative"
  | notANumber field value => field.name ++ ": expected a number, got " ++ value.literal
  | radiiNotFinite => "Radii must be finite"
  | radiiOrder bottom top =>
    "Expected 0 < bottom_radius < top_radius, got bottom_radius=" ++ Decimal.identifying bottom ++
      ", top_radius=" ++ Decimal.identifying top
  | negativeValues field => field.name ++ ": values must be non-negative"
  | wavelengthsNotPositive => "wavelengths: values must be positive"
  | sunRadiusNegative => "sun_angular_radius must be non-negative"
  | sunLimit value => "mu_s_min must lie in [-1, 1), got " ++ Decimal.identifying value
  | phaseAsymmetry => "mie_phase_function_g must lie in (-1, 1)"
  | unitNotPositive => "length_unit_in_meters must be positive"
  | noLayer field => field.name ++ ": at least one layer is required"

/-- The text of an argument fault. -/
def ArgumentFault.message : ArgumentFault Float → Text
  | spectrumShape spectrum wavelengths =>
    "Spectrum shape " ++ showShape spectrum ++ " does not match wavelengths " ++
      showShape wavelengths
  | tooFewSamples => "At least two spectral samples are required"
  | wavelengthShape shape => "Expected 4 wavelengths, got shape " ++ showShape shape
  | gridSizes nu muS mu r =>
    "Grid sizes must be at least 2, got ScatteringGridExtents(nu_size=" ++ nu.literal ++
      ", mu_s_size=" ++ muS.literal ++ ", mu_size=" ++ mu.literal ++ ", r_size=" ++
      r.literal ++ ")"
  | muSize size => "mu_size must be even and at least 4, got " ++ size.display
  | blockSize size => "block_size must be positive, got " ++ size.display
  | sampleCount count => "sample_count must be positive, got " ++ count.display
  | tableShape shape =>
    "Expected (height, width, channels) data, got shape " ++ showShape shape
  | tableSize width height =>
    "Transmittance table must be at least 2x2, got " ++ width.display ++ "x" ++ height.display
  | tableChannels count => "Transmittance table must have 4 channels, got " ++ toString count
  | projectionShape shape => "rad_to_lum must be 4x4, got shape " ++ showShape shape
  | voxelShape shape => "Expected an (n, 3) voxel array, got shape " ++ showShape shape
  | tiling width depth =>
    "Image width " ++ toString width ++ " is not a multiple of depth " ++ depth.display
  | imageShape shape =>
    "Expected (H, W, C) or (D, H, W, C) data with 1-4 channels, got shape " ++ showShape shape
  | noChannels path => "No R/G/B/A channels in " ++ path
  | missingTextures path names =>
    path ++ (" is missing texture(s): " ++ ", ".intercalate names)
  | gridMismatch found expected =>
    "Texture grid " ++ showShape found ++ " does not match model grid " ++ showGrid expected

/-- The text for a ray parameter outside its range. -/
def RayParameter.message : RayParameter → String
  | radius => "r outside [bottom_radius, top_radius]"
  | viewCosine => "mu outside [-1, 1]"
  | sunCosine => "mu_s outside [-1, 1]"
  | viewSunCosine => "nu outside [-1, 1]"

/-- The number of characters at the start of a text. -/
def soundLength (text : Text) : Nat := (text.points.takeWhile fun p => p.toChar?.isSome).length

/-- The text for a text with surrogates that are refused from a place on. -/
def refusalMessage (text : Text) (start : Nat) : String :=
  let place := match (text.points.drop start).takeWhile fun p => p.toChar?.isNone with
    | [p] =>
      "character '" ++ String.ofList (Text.escape '\x27' p) ++ "' in position " ++ toString start
    | run =>
      "characters in position " ++ toString start ++ "-" ++ toString (start + run.length - 1)
  "'utf-8' codec can't encode " ++ place ++ ": surrogates not allowed"

/-- The text for a path with surrogates: it tells where the first of them stand that are no bytes,
or the first ones if all of them are bytes. -/
def surrogateMessage (path : Text) : String :=
  let sound := (path.points.takeWhile fun p => p.toChar?.isSome || p.isByte).length
  refusalMessage path (if sound < path.points.length then sound else soundLength path)

/-- The text for a whole number with too many digits. -/
def tooLongMessage (digits : Option Nat) : String :=
  let found := match digits with
    | some n => ": value has " ++ toString n ++ " digits"
    | none => ""
  "Exceeds the limit (" ++ toString Numeral.maxDigits ++
    " digits) for integer string conversion" ++ found ++
    "; use sys.set_int_max_str_digits() to increase the limit"

/-- How much of a text that is no whole number is shown. -/
def shownLength : Nat := 200

/-- The text of a misspelling. -/
def Misspelling.message : Misspelling → Text
  | number => "could not convert string to float"
  | fraction text => "could not convert string to float: " ++ Text.quoted text
  | digits base text =>
    "invalid literal for int() with base " ++ toString base ++ ": " ++
      String.ofList ((Text.quoted text).toList.take shownLength)
  | tooLong count => tooLongMessage count
  | year value => "year " ++ toString value ++ " is out of range"
  | month => "month must be in 1..12"
  | day => "day is out of range for month"
  | hour => "hour must be in 0..23"
  | minute => "minute must be in 0..59"
  | second => "second must be in 0..59"
  | offset minutes =>
    "offset must be a timedelta strictly between -timedelta(hours=24) and timedelta(hours=24), " ++
      "not " ++ Moment.spanLiteral minutes ++ "."
  | codePoint => "chr() arg not in range(0x110000)"

namespace Failure

/-- The message of a failure that the library describes itself. -/
def message? : Failure Float → Option Text
  | config fault => some fault.message
  | argument fault => some fault.message
  | missingConfig path => some ("Atmosphere config not found: " ++ path)
  | missingImage path => some ("EXR file not found: " ++ path)
  | missingArchive path => some ("Texture archive not found: " ++ path)
  | rayOutside parameter => some parameter.message
  | voxelOutside width height depth =>
    some ↑("Voxel outside grid of shape (width=" ++ toString width ++ ", height=" ++
      toString height ++ ", depth=" ++ toString depth ++ ")")
  | writtenTwice => some "Voxel written twice in the same pass"
  | unwritten => some "Single scattering pass finished with unwritten voxels"
  | notInitialized => some "Model not initialized."
  | noImageSupport true =>
    some "OpenEXR module not available. Install with: pip install OpenEXR"
  | noImageSupport false => some "OpenEXR module not available"
  | _ => none

/-- The text by which the command line reports a failure. -/
def report (failure : Failure Float) : Text :=
  match failure with
  | shapes fault => fault.message
  | noWorkers => "n_jobs == 0 in Parallel has no meaning"
  | storage (.missing path) => "[Errno 2] No such file or directory: " ++ Text.quoted path
  | storage .zeroCharacter => "embedded null byte"
  | nesting => "maximum recursion depth exceeded"
  | storage (.surrogate path) => surrogateMessage path
  | encoding reason => reason
  | spelling cause => cause.message
  | _ => failure.message?.getD ""

end Failure

end Airlight
