import Airlight.Atmosphere.Layer
import Airlight.Grid.RayMap
import Airlight.Spectrum

/-!
# Atmospheres

An atmosphere is a lit shell with the scattering and absorbing constituents of its air. The type `φ`
of the layer coefficients is the number type itself for an atmosphere that can be computed with, and
a document value for one whose layers are still as a configuration gave them.
-/

namespace Airlight

/-- A complete description of an atmosphere. Scattering and extinction coefficients are per length
unit, wavelengths in nanometres. -/
structure Atmosphere (φ α : Type) extends LitShell α where
  wavelengths : Spectrum α
  solarIrradiance : Spectrum α
  sunAngularRadius : α
  rayleighDensity : Profile φ
  rayleighScattering : Spectrum α
  mieDensity : Profile φ
  mieScattering : Spectrum α
  mieExtinction : Spectrum α
  miePhaseAsymmetry : α
  absorptionDensity : Profile φ
  absorptionExtinction : Spectrum α
  groundAlbedo : Spectrum α
  whitepoint : Vector α 3
  lengthUnit : α
  deriving Inhabited

namespace Atmosphere

variable {φ α : Type}

/-- The shell that the atmosphere fills. -/
abbrev shell (a : Atmosphere φ α) : Shell α := a.toLitShell.toShell

/-- The thickness of the atmosphere. -/
def thickness [Scalar α] (a : Atmosphere φ α) : α := a.top - a.bottom

end Atmosphere

end Airlight
