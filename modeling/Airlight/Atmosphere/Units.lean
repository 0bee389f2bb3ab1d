import Airlight.Atmosphere.Parameters

/-!
# Length units

The same atmosphere expressed in another length unit: lengths are divided by the ratio of the units,
quantities per length multiplied by it, all others stay.
-/

namespace Airlight

open Scalar

namespace DensityLayer

variable {α : Type} [Scalar α]

/-- A layer of document values in a length unit `factor` times larger. -/
def scaledValues (layer : DensityLayer (Value α)) (factor : α) :
    Except (Failure α) (DensityLayer (Value α)) := do
  let width ← layer.width.operandOrFail
  let _ ← divide? width factor
  let expScale ← layer.expScale.operandOrFail
  let linearTerm ← layer.linearTerm.operandOrFail
  let scaled := ({ empty with width, expScale, linearTerm } : DensityLayer α).scaled factor
  return { layer with
    width := .real scaled.width
    expScale := .real scaled.expScale
    linearTerm := .real scaled.linearTerm }

end DensityLayer

namespace Parameters

variable {α : Type} [Scalar α]

/-- The fields that change with the length unit, when it grows by `factor` to `unit`. -/
def rescaled (p : Parameters α) (unit factor : α) :
    Except (Failure α) (List (Field × Value α)) := do
  let bottom ← divide? p.bottom factor
  let top ← divide? p.top factor
  let perLength (f : SpectralField) : Field × Value α :=
    (.spectral f, listOf ((p.spectrum f).map (· * factor)))
  let profile (f : ProfileField) : Except (Failure α) (Field × Value α) := do
    return (.profile f, profileValue (← (p.profile f).mapM (DensityLayer.scaledValues · factor)))
  let rayleigh ← profile .rayleighDensity
  let mie ← profile .mieDensity
  let absorption ← profile .absorptionDensity
  return [(.scalar .bottomRadius, .real bottom), (.scalar .topRadius, .real top),
    (.scalar .lengthUnit, .real unit), perLength .rayleighScattering, perLength .mieScattering,
    perLength .mieExtinction, perLength .absorptionExtinction, rayleigh, mie, absorption]

/-- The same atmosphere in the length unit of `unit` metres. Everything is checked again. -/
def toLengthUnit (p : Parameters α) (unit : α) : Except (Failure α) (Parameters α) :=
  if unit ≤ 0.0 then .error (.config .unitNotPositive)
  else do
    let changes ← p.rescaled unit (unit / p.lengthUnit)
    build (override p.draft changes)

/-- The same atmosphere in a length unit that is given as a document value. -/
def toLengthUnitValue (p : Parameters α) (unit : Value α) :
    Except (Failure α) (Parameters α) := do
  if ← unit.atMostZero then throw (.config .unitNotPositive)
  p.toLengthUnit (← unit.operandOrFail)

end Parameters

end Airlight
