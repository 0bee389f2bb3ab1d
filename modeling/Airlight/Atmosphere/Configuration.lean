import Airlight.Atmosphere.Units

/-!
# Configurations

Two ways to describe an atmosphere other than field by field: a mapping that overrides the Earth's
values, and a few artistic controls.
-/

namespace Airlight

open Scalar

namespace Parameters

variable {α : Type} [Scalar α]

/-- The key of a mapping entry, if it is a text. -/
def textKey? : Value α × Value α → Option Text
  | (.text key, _) => some key
  | _ => none

/-- The keys that name no field, in ascending order; fails when one of them is no text. -/
def unknownKeys (entries : List (Value α × Value α)) : Except (Failure α) (List Text) :=
  let unknown := entries.filter fun entry =>
    match textKey? entry with
    | some key => (Field.ofName? key).isNone
    | none => true
  match unknown.mapM textKey? with
  | some keys => .ok (keys.mergeSort fun a b => decide (a ≤ b))
  | none => .error .type

/-- The entries of a mapping that have a text key. -/
def namedEntries (entries : List (Value α × Value α)) : List (Text × Value α) :=
  entries.filterMap fun entry => (textKey? entry).map (·, entry.2)

/-- The parameters that a mapping describes. Its keys override the Earth's values, which are taken
in the length unit of the mapping. -/
def ofValue (config : Value α) : Except (Failure α) (Parameters α) := do
  match config.opened with
  | .mapping entries =>
    let unknown ← unknownKeys entries
    if !unknown.isEmpty then throw (.config (.unknownKeys unknown))
    let field : Field := .scalar .lengthUnit
    let unit ← readNumber field ((Value.lookup? field.name entries).getD (.real 1.0))
    let defaults ← earth.toLengthUnit unit
    defaults.replaceNamed (namedEntries entries)
  | other => throw (.config (.notAMapping other.kind))

end Parameters

/-- Controls that describe an atmosphere relative to that of the Earth. -/
structure ArtisticControls (α : Type) where
  rayleighDensityScale : Value α
  mieDensityScale : Value α
  miePhaseAsymmetry : Value α
  rayleighHeight : Value α
  mieHeight : Value α
  groundAlbedo : Value α
  useOzone : Value α
  ozoneDensity : Value α
  angstromBeta : Value α

namespace ArtisticControls

variable {α : Type} [Scalar α]

/-- The controls of the Earth. -/
def standard : ArtisticControls α where
  rayleighDensityScale := .real 1.0
  mieDensityScale := .real 1.0
  miePhaseAsymmetry := .real Earth.miePhaseAsymmetry
  rayleighHeight := .real Earth.rayleighScaleHeight
  mieHeight := .real Earth.mieScaleHeight
  groundAlbedo := .real Earth.groundAlbedo
  useOzone := .flag true
  ozoneDensity := .real 1.0
  angstromBeta := .real Earth.angstromBeta

/-- Sets a control by name; `none` when there is no such control. -/
def set? (c : ArtisticControls α) (name : Text) (v : Value α) : Option (ArtisticControls α) :=
  match name.toString?.getD "" with
  | "rayleigh_density_scale" => some { c with rayleighDensityScale := v }
  | "mie_density_scale" => some { c with mieDensityScale := v }
  | "mie_phase_g" => some { c with miePhaseAsymmetry := v }
  | "rayleigh_height" => some { c with rayleighHeight := v }
  | "mie_height" => some { c with mieHeight := v }
  | "ground_albedo" => some { c with groundAlbedo := v }
  | "use_ozone" => some { c with useOzone := v }
  | "ozone_density" => some { c with ozoneDensity := v }
  | "mie_angstrom_beta" => some { c with angstromBeta := v }
  | _ => none

/-- The controls with some set by name. -/
def ofNamed (named : List (Text × Value α)) : Except (Failure α) (ArtisticControls α) :=
  match named.foldlM (fun c (name, v) => set? c name v) standard with
  | some c => .ok c
  | none => .error .type

/-- The text as which a flag stands in an array of texts. -/
def flagAsText : Value α → Value α
  | .flag b => .text (if b then "True" else "False")
  | v => v

/-- A value in every channel: a list has to hold one value for each channel, or a single one; it may
stand in lists of its own. -/
def inEveryChannel (v : Value α) : Except (Failure α) (Value α) := do
  match (← Operand.tensorOf v).fitTo? [4] with
  | none => throw (.shapes .other)
  | some t =>
    let texts := t.data.any Operand.isText && !t.data.any Operand.isObject
    return .list ((if texts then t.map flagAsText else t).data.toList)

/-- The largest magnitude of the phase asymmetry that the controls give. -/
def asymmetryLimit : α := 0.999

/-- The phase asymmetry that a value gives, limited in magnitude. An integer may lie beyond the
range of the number type. -/
def limitedAsymmetry (v : Value α) : Except (Failure α) α := do
  match v with
  | .integer n =>
    match ofInt? n with
    | some x => return clamp x (-asymmetryLimit) asymmetryLimit
    | none => return if n < 0 then -asymmetryLimit else asymmetryLimit
  | v =>
    match ← Operand.ofValue v with
    | .texts => throw .operand
    | .objects _ => throw .type
    | .numbers t =>
      if t.isSingle then return clamp (← v.operandOrFail) (-asymmetryLimit) asymmetryLimit
      else throw .type

/-- The parameters that the controls describe. The strength of the aerosols only scales their
amount; their scale height sets the profile. -/
def parameters [Inhabited α] (c : ArtisticControls α) : Except (Failure α) (Parameters α) := do
  let listOf (t : Tensor α) : Value α := .list (t.data.toList.map .real)
  let row (v : Spectrum α) : Tensor α := .row v.toList
  let beta ← c.angstromBeta.operandOrFail
  let mie ← (row (Earth.wavelengths.map (Earth.mieScattering beta))).scaledBy c.mieDensityScale
  let withOzone ← if c.useOzone.holds then (!·) <$> c.ozoneDensity.atMostZero else pure false
  let absorption : Tensor α ←
    if withOzone then (row Earth.ozoneAbsorption).scaledBy c.ozoneDensity
    else pure (row (Spectrum.constant 0.0))
  let exponential (height : Value α) : Except (Failure α) (Value α) := do
    let layers ← Profile.exponential (← height.operandOrFail)
    return Parameters.profileValue (layers.map DensityLayer.toValues)
  let rayleighProfile ← exponential c.rayleighHeight
  let rayleigh ← (row (Earth.wavelengths.map Earth.rayleighScattering)).scaledBy
    c.rayleighDensityScale
  let mieProfile ← exponential c.mieHeight
  let asymmetry ← limitedAsymmetry c.miePhaseAsymmetry
  let albedo ← inEveryChannel c.groundAlbedo
  Parameters.build (Parameters.override (Parameters.earth (α := α)).draft
    [(.profile .rayleighDensity, rayleighProfile),
      (.spectral .rayleighScattering, listOf rayleigh),
      (.profile .mieDensity, mieProfile),
      (.spectral .mieScattering, listOf mie),
      (.spectral .mieExtinction, listOf (mie.map (· / Earth.mieSingleScatteringAlbedo))),
      (.scalar .miePhaseAsymmetry, .real asymmetry),
      (.spectral .absorptionExtinction, listOf absorption),
      (.spectral .groundAlbedo, albedo)])

end ArtisticControls

end Airlight
