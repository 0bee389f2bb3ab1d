import Airlight.Text.Basic

/-!
# Fields of an atmosphere

The names under which a configuration gives the parts of an atmosphere.
-/

namespace Airlight

/-- Fields with one value for each spectral channel. -/
inductive SpectralField where
  | wavelengths
  | solarIrradiance
  | rayleighScattering
  | mieScattering
  | mieExtinction
  | absorptionExtinction
  | groundAlbedo
  deriving DecidableEq, Repr

/-- Fields that hold a layered density profile. -/
inductive ProfileField where
  | rayleighDensity
  | mieDensity
  | absorptionDensity
  deriving DecidableEq, Repr

/-- Fields that hold one number. -/
inductive ScalarField where
  | bottomRadius
  | topRadius
  | sunAngularRadius
  | miePhaseAsymmetry
  | muSMin
  | lengthUnit
  deriving DecidableEq, Repr

/-- A field of an atmosphere. -/
inductive Field where
  | spectral (field : SpectralField)
  | whitepoint
  | profile (field : ProfileField)
  | scalar (field : ScalarField)
  deriving DecidableEq, Repr

namespace Field

/-- The key of a field. -/
def name : Field → String
  | spectral .wavelengths => "wavelengths"
  | spectral .solarIrradiance => "solar_irradiance"
  | spectral .rayleighScattering => "rayleigh_scattering"
  | spectral .mieScattering => "mie_scattering"
  | spectral .mieExtinction => "mie_extinction"
  | spectral .absorptionExtinction => "absorption_extinction"
  | spectral .groundAlbedo => "ground_albedo"
  | whitepoint => "whitepoint"
  | profile .rayleighDensity => "rayleigh_density"
  | profile .mieDensity => "mie_density"
  | profile .absorptionDensity => "absorption_density"
  | scalar .bottomRadius => "bottom_radius"
  | scalar .topRadius => "top_radius"
  | scalar .sunAngularRadius => "sun_angular_radius"
  | scalar .miePhaseAsymmetry => "mie_phase_function_g"
  | scalar .muSMin => "mu_s_min"
  | scalar .lengthUnit => "length_unit_in_meters"

/-- All fields. -/
def all : List Field :=
  [spectral .wavelengths, spectral .solarIrradiance, spectral .rayleighScattering,
    spectral .mieScattering, spectral .mieExtinction, spectral .absorptionExtinction,
    spectral .groundAlbedo, whitepoint, profile .rayleighDensity, profile .mieDensity,
    profile .absorptionDensity, scalar .bottomRadius, scalar .topRadius,
    scalar .sunAngularRadius, scalar .miePhaseAsymmetry, scalar .muSMin, scalar .lengthUnit]

/-- The field with a given key. -/
def ofName? (key : Text) : Option Field := all.find? fun field => field.name = key

end Field

end Airlight
