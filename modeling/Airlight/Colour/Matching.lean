import Airlight.Spectrum

/-!
# Colour matching

The colour matching functions of the standard observer, as a fit by several Gaussian lobes whose two
sides have different widths, and the passage from tristimulus values to linear display primaries.
-/

namespace Airlight.Colour

open Scalar

variable {α : Type} [Scalar α]

/-- Three colour components. -/
abbrev Triple (α : Type) := Vector α 3

/-- Lumens per watt at the wavelength where the eye is most sensitive. -/
def maxLuminousEfficacy : α := 683.0

/-- The rows give the display primaries from tristimulus values. -/
def displayRows : Vector (Triple α) 3 :=
  #v[#v[3.2406, -1.5372, -0.4986], #v[-0.9689, 1.8758, 0.0415], #v[0.0557, -0.2040, 1.0570]]

/-- A lobe around `center` that falls off with width `below` on the short side and `above` from the
center on. -/
@[specialize] def lobe (wavelength center below above : α) : α :=
  let t := (wavelength - center) / (if wavelength < center then below else above)
  exp (-0.5 * t * t)

/-- The tristimulus response to a wavelength. -/
@[specialize] def matching (wavelength : α) : Triple α :=
  #v[1.056 * lobe wavelength 599.8 37.9 31.0 + 0.362 * lobe wavelength 442.0 16.0 26.7 -
      0.065 * lobe wavelength 501.1 20.4 26.2,
    0.821 * lobe wavelength 568.8 46.9 40.5 + 0.286 * lobe wavelength 530.9 16.3 31.1,
    1.217 * lobe wavelength 437.0 11.8 36.0 + 0.681 * lobe wavelength 459.0 26.0 13.8]

/-- The sum of the products of two triples. -/
@[inline] def dot (a b : Triple α) : α := a[0] * b[0] + a[1] * b[1] + a[2] * b[2]

/-- The display primaries of tristimulus values. -/
def toDisplay (xyz : Triple α) : Triple α := Vector.ofFn fun i => dot displayRows[i] xyz

end Airlight.Colour
