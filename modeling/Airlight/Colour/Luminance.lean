import Airlight.Atmosphere.Earth
import Airlight.Colour.Matching
import Airlight.Tensor.Product

/-!
# From radiance to luminance

A sampled spectrum is integrated over wavelength with the trapezoidal rule. The four channels of a
radiance are projected with a matrix whose first three rows hold the weights of the display
primaries.
-/

namespace Airlight.Colour

open Scalar

variable {α : Type} [Scalar α]

/-- A spectral sample: a wavelength and a value. -/
structure Sample (α : Type) where
  wavelength : α
  value : α

/-- Whether one sample comes before another: by wavelength, undefined wavelengths last. -/
def Sample.before (a b : Sample α) : Bool :=
  decide (a.wavelength ≤ b.wavelength) || !decide (b.wavelength ≤ b.wavelength)

/-- Half the distance from each sample to the one before it plus half the distance to the next. -/
def trapezoidWeights (previous : Option α) : List α → List α
  | [] => []
  | [x] => [match previous with | none => 0.0 | some p => 0.0 + 0.5 * (x - p)]
  | x :: y :: rest =>
    let ahead := 0.0 + 0.5 * (y - x)
    (match previous with | none => ahead | some p => ahead + 0.5 * (x - p)) ::
      trapezoidWeights (some x) (y :: rest)

/-- The display primaries of a spectrum that is sampled at increasing wavelengths. -/
def integrateSorted (samples : List (Sample α)) : Triple α :=
  let weights := trapezoidWeights none (samples.map Sample.wavelength)
  let xyz : Triple α := (samples.zip weights).foldl
    (fun sum (s, w) =>
      let response := matching s.wavelength
      Vector.ofFn fun i => sum.get i + response.get i * (s.value * w))
    (Vector.ofFn fun _ => 0.0)
  Vector.ofFn fun i => maxLuminousEfficacy * (toDisplay xyz).get i

/-- The display primaries of a spectrum, in whatever order its samples are given. -/
def integrate (samples : List (Sample α)) : Triple α :=
  integrateSorted (samples.mergeSort Sample.before)

/-- The display primaries of a spectrum given as two arrays. They need the same shape, at least two
samples and a single axis. -/
def ofArrays (wavelengths values : Tensor α) : Except (Failure α) (Triple α) :=
  if wavelengths.shape ≠ values.shape then
    .error (.argument (.spectrumShape values.shape wavelengths.shape))
  else if wavelengths.data.size < 2 then .error (.argument .tooFewSamples)
  else
    match wavelengths.shape with
    | [_] => .ok (integrate ((wavelengths.data.toList.zip values.data.toList).map
        fun (w, v) => ⟨w, v⟩))
    | first :: rest =>
      let tooMany := Value.maxAxes ≤ 2 * rest.length
      .error (if tooMany || first < rest.getLastD 0 then .index else .shapes .other)
    | [] => .error (.shapes .other)

/-- The matrix that projects a radiance: one row for each display primary and a row of zeros. -/
abbrev Projection (α : Type) := Vector (Spectrum α) 4

namespace Projection

/-- The projection for channels of the given wavelengths, with a bandwidth for each display primary
and each channel. -/
def ofBandwidths (wavelengths : Spectrum α) (bandwidth : Fin 3 → Fin 4 → α) : Projection α :=
  let columns := wavelengths.map fun w => toDisplay (matching w)
  let row (i : Fin 3) : Spectrum α := Vector.ofFn fun c => (columns.get c).get i * bandwidth i c
  #v[row 0, row 1, row 2, Vector.ofFn fun _ => 0.0]

/-- The projection for channels of the given wavelengths that each stand for `bandwidth`. -/
def ofWavelengths (wavelengths : Spectrum α) (bandwidth : α) : Projection α :=
  ofBandwidths wavelengths fun _ _ => bandwidth

/-- The projection for wavelengths given as an array, which has to hold four in a single row. The
bandwidth is repeated over display primaries and channels. -/
def ofArrays [Inhabited α] (wavelengths bandwidth : Tensor α) :
    Except (Failure α) (Projection α) :=
  if h : wavelengths.data.size = 4 ∧ wavelengths.shape = [4] then
    match bandwidth.fitTo? [3, 4] with
    | some b => .ok (ofBandwidths ⟨wavelengths.data, h.1⟩ fun i c =>
        b.data.getD (4 * i.val + c.val) default)
    | none => .error (.shapes .other)
  else .error (.argument (.wavelengthShape wavelengths.shape))

/-- The projection given by an array, which has to hold four rows of four weights. -/
def ofMatrix (matrix : Tensor α) : Except (Failure α) (Projection α) :=
  if h : matrix.data.size = 16 ∧ matrix.shape = [4, 4] then
    .ok (Vector.ofFn fun i => Vector.ofFn fun c => matrix.data[4 * i.val + c.val])
  else .error (.argument (.projectionShape matrix.shape))

/-- The projection as an array. -/
def toTensor [Inhabited α] (m : Projection α) : Tensor α :=
  Tensor.ofVectors [4] m.toArray

/-- The sum over the channels of weight times radiance. -/
@[inline] def weigh (weights radiance : Spectrum α) : α :=
  radiance[0] * weights[0] + radiance[1] * weights[1] + radiance[2] * weights[2] +
    radiance[3] * weights[3]

/-- The luminance of a radiance: the first three rows applied to it. -/
def apply (m : Projection α) (radiance : Spectrum α) : Triple α :=
  #v[weigh m[0] radiance, weigh m[1] radiance, weigh m[2] radiance]

end Projection

/-- Projects the spectra along the last axis of an array with any matrix that fits, and keeps the
first three components. -/
def project [Inhabited α] (matrix radiance : Tensor α) : Except (Failure α) (Tensor α) := do
  (← Tensor.product radiance matrix.transposed).takeLast 3

end Airlight.Colour
