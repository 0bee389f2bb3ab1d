import Airlight.Atmosphere.Basic
import Airlight.Atmosphere.Earth
import Airlight.Atmosphere.LayerArrays

/-!
# Checked parameters

`Parameters` are an atmosphere as a configuration gives it: every number has been read and checked,
the coefficients of the layers are still document values. All parameters come from
`Parameters.build`, which reads each field from a document value and then checks the invariants, in
a fixed order.
-/

namespace Airlight

open Scalar

/-- An atmosphere whose layers are as a configuration gave them. -/
abbrev Parameters (α : Type) := Atmosphere (Value α) α

namespace DensityLayer

variable {α : Type} [Scalar α]

/-- The keys of a layer. -/
def keys : List String := ["width", "exp_term", "exp_scale", "linear_term", "constant_term"]

/-- A layer as a document value. -/
def toValue (layer : DensityLayer (Value α)) : Value α :=
  .mapping [(.text "width", layer.width), (.text "exp_term", layer.expTerm),
    (.text "exp_scale", layer.expScale), (.text "linear_term", layer.linearTerm),
    (.text "constant_term", layer.constantTerm)]

/-- The layer of a mapping, in which absent coefficients are zero. No other key is allowed. -/
def ofEntries? (entries : List (Value α × Value α)) : Option (DensityLayer (Value α)) :=
  let known : Value α × Value α → Bool
    | (.text key, _) => keys.any fun name => key = name
    | _ => false
  let field (name : String) : Value α := (Value.lookup? name entries).getD (.real 0.0)
  if entries.all known then
    some ⟨field "width", field "exp_term", field "exp_scale", field "linear_term",
      field "constant_term"⟩
  else none

/-- Whether a width is negative; only numbers can be compared. -/
def negativeWidth? : Value α → Option Bool
  | .real x => some (decide (x < 0.0))
  | .integer n => some (decide (n < 0))
  | .flag _ => some false
  | _ => none

/-- The layer with every coefficient a document value. -/
def toValues (layer : DensityLayer α) : DensityLayer (Value α) :=
  ⟨.real layer.width, .real layer.expTerm, .real layer.expScale, .real layer.linearTerm,
    .real layer.constantTerm⟩

end DensityLayer

namespace Parameters

variable {α : Type} [Scalar α]

/-- The value of a spectral field. -/
def spectrum (p : Parameters α) : SpectralField → Spectrum α
  | .wavelengths => p.wavelengths
  | .solarIrradiance => p.solarIrradiance
  | .rayleighScattering => p.rayleighScattering
  | .mieScattering => p.mieScattering
  | .mieExtinction => p.mieExtinction
  | .absorptionExtinction => p.absorptionExtinction
  | .groundAlbedo => p.groundAlbedo

/-- The value of a profile field. -/
def profile (p : Parameters α) : ProfileField → Profile (Value α)
  | .rayleighDensity => p.rayleighDensity
  | .mieDensity => p.mieDensity
  | .absorptionDensity => p.absorptionDensity

/-- The value of a scalar field. -/
def scalar (p : Parameters α) : ScalarField → α
  | .bottomRadius => p.bottom
  | .topRadius => p.top
  | .sunAngularRadius => p.sunAngularRadius
  | .miePhaseAsymmetry => p.miePhaseAsymmetry
  | .muSMin => p.muSMin
  | .lengthUnit => p.lengthUnit

/-- A vector as a document value. -/
def listOf {n : Nat} (v : Vector α n) : Value α := .list (v.toList.map Value.real)

/-- A profile as a document value. -/
def profileValue (layers : Profile (Value α)) : Value α :=
  .list (layers.map DensityLayer.toValue)

/-- Every field as a document value. -/
def draft (p : Parameters α) : Field → Value α
  | .spectral f => listOf (p.spectrum f)
  | .whitepoint => listOf p.whitepoint
  | .profile f => profileValue (p.profile f)
  | .scalar f => .real (p.scalar f)

/-- Reads a field that holds `count` finite numbers. -/
def readNumbers (field : Field) (count : Nat) (v : Value α) :
    Except (Failure α) (Vector α count) :=
  match v.numbers with
  | .error .range => .error .overflow
  | .error _ => .error (.config (.notNumbers field count))
  | .ok xs =>
    if h : xs.length = count then
      if xs.all isFinite then .ok ⟨xs.toArray, by simpa using h⟩
      else .error (.config (.notFinite field))
    else .error (.config (.wrongCount field count xs.length))

/-- Reads one layer of a profile. -/
def readLayer (field : Field) (v : Value α) : Except (Failure α) (DensityLayer (Value α)) :=
  match v.opened with
  | .mapping entries =>
    match DensityLayer.ofEntries? entries with
    | none => .error (.config (.invalidLayer field))
    | some layer =>
      match DensityLayer.negativeWidth? layer.width with
      | none => .error .type
      | some true => .error (.config (.negativeWidth field))
      | some false => .ok layer
  | _ => .error (.config (.notALayer field))

/-- The values that a profile field lists; a mapping is a single layer. -/
def layerValues? (v : Value α) : Option (List (Value α)) :=
  match v.opened with
  | .mapping entries => some [.mapping entries]
  | v => v.listed?

/-- Reads a profile field. -/
def readProfile (field : Field) (v : Value α) : Except (Failure α) (Profile (Value α)) :=
  match layerValues? v with
  | none => .error .type
  | some values => values.mapM (readLayer field)

/-- Reads a field that holds one number. Anything else is shown, if it can be. -/
def readNumber (field : Field) (v : Value α) : Except (Failure α) α :=
  match v.number with
  | .ok x => .ok x
  | .error .range => .error .overflow
  | .error _ =>
    if v.hasLongInteger then .error (.spelling (.tooLong none))
    else .error (.config (.notANumber field v))

/-- Fails with a configuration fault unless a condition holds. -/
def require (condition : Bool) (fault : ConfigFault α) : Except (Failure α) Unit :=
  if condition then .ok () else .error (.config fault)

/-- Checks the invariants of parameters. -/
def validate (p : Parameters α) : Except (Failure α) Unit := do
  require (isFinite p.bottom && isFinite p.top) .radiiNotFinite
  require (decide (0.0 < p.bottom) && decide (p.bottom < p.top)) (.radiiOrder p.bottom p.top)
  let nonNegative (f : SpectralField) : Except (Failure α) Unit :=
    require (!(p.spectrum f).any fun x => decide (x < 0.0)) (.negativeValues (.spectral f))
  nonNegative .wavelengths
  nonNegative .solarIrradiance
  nonNegative .rayleighScattering
  nonNegative .mieScattering
  nonNegative .mieExtinction
  nonNegative .absorptionExtinction
  nonNegative .groundAlbedo
  require (!p.wavelengths.any fun x => decide (x ≤ 0.0)) .wavelengthsNotPositive
  require (!decide (p.sunAngularRadius < 0.0)) .sunRadiusNegative
  require (decide (-1.0 ≤ p.muSMin) && decide (p.muSMin < 1.0)) (.sunLimit p.muSMin)
  require (decide (-1.0 < p.miePhaseAsymmetry) && decide (p.miePhaseAsymmetry < 1.0))
    .phaseAsymmetry
  require (!decide (p.lengthUnit ≤ 0.0)) .unitNotPositive
  require (!p.rayleighDensity.isEmpty) (.noLayer (.profile .rayleighDensity))
  require (!p.mieDensity.isEmpty) (.noLayer (.profile .mieDensity))

/-- Reads every field, in a fixed order. -/
def read (draft : Field → Value α) : Except (Failure α) (Parameters α) := do
  let spectrum (f : SpectralField) : Except (Failure α) (Spectrum α) :=
    readNumbers (.spectral f) 4 (draft (.spectral f))
  let profile (f : ProfileField) := readProfile (.profile f) (draft (.profile f))
  let number (f : ScalarField) := readNumber (.scalar f) (draft (.scalar f))
  let wavelengths ← spectrum .wavelengths
  let solarIrradiance ← spectrum .solarIrradiance
  let rayleighScattering ← spectrum .rayleighScattering
  let mieScattering ← spectrum .mieScattering
  let mieExtinction ← spectrum .mieExtinction
  let absorptionExtinction ← spectrum .absorptionExtinction
  let groundAlbedo ← spectrum .groundAlbedo
  let whitepoint ← readNumbers .whitepoint 3 (draft .whitepoint)
  let rayleighDensity ← profile .rayleighDensity
  let mieDensity ← profile .mieDensity
  let absorptionDensity ← profile .absorptionDensity
  let bottom ← number .bottomRadius
  let top ← number .topRadius
  let sunAngularRadius ← number .sunAngularRadius
  let miePhaseAsymmetry ← number .miePhaseAsymmetry
  let muSMin ← number .muSMin
  let lengthUnit ← number .lengthUnit
  return { bottom, top, muSMin, wavelengths, solarIrradiance, sunAngularRadius, rayleighDensity,
           rayleighScattering, mieDensity, mieScattering, mieExtinction, miePhaseAsymmetry,
           absorptionDensity, absorptionExtinction, groundAlbedo, whitepoint, lengthUnit }

/-- Reads every field and checks the invariants. -/
def build (draft : Field → Value α) : Except (Failure α) (Parameters α) := do
  let p ← read draft
  p.validate
  return p

/-- The atmosphere of the Earth, in metres. -/
def earth : Parameters α where
  bottom := Earth.radius
  top := Earth.topRadius
  muSMin := cos Earth.maxSunZenithAngle
  wavelengths := Earth.wavelengths
  solarIrradiance := Earth.solarIrradiance
  sunAngularRadius := Earth.sunAngularRadius
  rayleighDensity :=
    [{ DensityLayer.empty with
        expTerm := 1.0, expScale := -1.0 / Earth.rayleighScaleHeight }].map DensityLayer.toValues
  rayleighScattering := Earth.wavelengths.map Earth.rayleighScattering
  mieDensity :=
    [{ DensityLayer.empty with
        expTerm := 1.0, expScale := -1.0 / Earth.mieScaleHeight }].map DensityLayer.toValues
  mieScattering := Earth.wavelengths.map (Earth.mieScattering Earth.angstromBeta)
  mieExtinction := Earth.wavelengths.map fun w =>
    Earth.mieScattering Earth.angstromBeta w / Earth.mieSingleScatteringAlbedo
  miePhaseAsymmetry := Earth.miePhaseAsymmetry
  absorptionDensity := Earth.ozoneProfile.map DensityLayer.toValues
  absorptionExtinction := Earth.ozoneAbsorption
  groundAlbedo := Spectrum.constant Earth.groundAlbedo
  whitepoint := Vector.replicate 3 1.0
  lengthUnit := 1.0

/-- A draft with some of its fields replaced. -/
def override (draft : Field → Value α) (changes : List (Field × Value α)) : Field → Value α :=
  fun f => (changes.lookup f).getD (draft f)

/-- The atmosphere of the Earth, with or without ozone. -/
def earthDefault (ozone : Bool) : Except (Failure α) (Parameters α) :=
  if ozone then .ok earth
  else build (override (earth (α := α)).draft
    [(.spectral .absorptionExtinction, listOf (Vector.replicate 4 (0.0 : α)))])

/-- The fields that named values set; `none` when a name is unknown. -/
def fieldsOf? (named : List (Text × Value α)) : Option (List (Field × Value α)) :=
  named.mapM fun (name, v) => (Field.ofName? name).map (·, v)

/-- Parameters with some fields replaced by name. Everything is checked again. -/
def replaceNamed (p : Parameters α) (named : List (Text × Value α)) :
    Except (Failure α) (Parameters α) :=
  match fieldsOf? named with
  | none => .error .type
  | some changes => build (override p.draft changes)

end Parameters

end Airlight
