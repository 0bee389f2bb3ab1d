import Airlight.Transmittance.Lookup

/-!
# Light scattered once into a ray

The light that reaches the origin of a ray after a single scattering is the integral, over the ray
up to the nearest boundary, of the light that arrives from the sun, is scattered and survives the
way back. Molecules and aerosols are integrated side by side with the trapezoidal rule.
-/

namespace Airlight

open Scalar

variable {α : Type} [Scalar α]

/-- Two spectra, one for each scattering constituent. -/
structure Scattered (α : Type) where
  rayleigh : Spectrum α
  mie : Spectrum α

/-- What a single scattering integral reads of an atmosphere: absorption enters only through the
transmittance. -/
structure ScatteringMedium (α : Type) extends Shell α where
  rayleighDensity : LayerStack α
  mieDensity : LayerStack α
  rayleighScattering : Spectrum α
  mieScattering : Spectrum α
  solarIrradiance : Spectrum α
  deriving Inhabited

namespace ScatteringMedium

/-- The integrands at distance `d` along a ray: the transmittance from the sun to the point and on
to the origin of the ray, times the density there. -/
@[specialize] def integrand (m : ScatteringMedium α) (oracle : Oracle α) (ray : Ray α) (d : α)
    (ground : Bool) : Except (Failure α) (Scattered α) := do
  let rD := m.clampRadius (Shell.radiusAlong ray.r ray.mu d)
  let muSD := clampCosine ((ray.r * ray.muS + d * ray.nu) / rD)
  let back ← oracle.between ray.r ray.mu d ground
  let sun ← oracle.toSun rD muSD
  let altitude := rD - m.bottom
  let rayleigh := m.rayleighDensity.density altitude
  let mie := m.mieDensity.density altitude
  let transmittance := Spectrum.combine (· * ·) back sun
  return ⟨transmittance.each (· * rayleigh), transmittance.each (· * mie)⟩

/-- Adds weighted terms to the two running sums. -/
@[inline] def accumulate (sum term : Scattered α) (weight : α) : Scattered α :=
  ⟨Spectrum.combine (fun s t => s + t * weight) sum.rayleigh term.rayleigh,
    Spectrum.combine (fun s t => s + t * weight) sum.mie term.mie⟩

/-- Adds the terms of `remaining` samples from sample `i` on, of `n` intervals of length `dx`. -/
@[specialize] def sumSamples (m : ScatteringMedium α) (oracle : Oracle α) (ray : Ray α)
    (ground : Bool) (dx : α) (n i : Nat) :
    Nat → Scattered α → Except (Failure α) (Scattered α)
  | 0, sum => .ok sum
  | remaining + 1, sum => do
    let term ← m.integrand oracle ray ((i : α) * dx) ground
    m.sumSamples oracle ray ground dx n (i + 1) remaining
      (accumulate sum term (trapezoidWeight n i))

/-- The light scattered into a ray, by the trapezoidal rule with `n` intervals. -/
@[specialize] def integrate (m : ScatteringMedium α) (oracle : Oracle α) (n : Nat) (ray : Ray α)
    (ground : Bool) : Except (Failure α) (Scattered α) := do
  let dx := m.distanceToNearest ray.r ray.mu ground / (n : α)
  let zero : Spectrum α := Spectrum.constant 0.0
  let sum ← m.sumSamples oracle ray ground dx n 0 (n + 1) ⟨zero, zero⟩
  let finish (sum coefficient : Spectrum α) : Spectrum α :=
    Vector.ofFn fun c => sum.get c * dx * m.solarIrradiance.get c * coefficient.get c
  return ⟨finish sum.rayleigh m.rayleighScattering, finish sum.mie m.mieScattering⟩

end ScatteringMedium

/-- Arrays of spectra, one for each scattering constituent. -/
structure ScatteredArrays (α : Type) where
  rayleigh : Tensor (Spectrum α)
  mie : Tensor (Spectrum α)

namespace Parameters

/-- What a single scattering integral reads, with the given layers. -/
def medium (p : Parameters α) (rayleigh mie : LayerStack α) : ScatteringMedium α where
  toShell := p.shell
  rayleighDensity := rayleigh
  mieDensity := mie
  rayleighScattering := p.rayleighScattering
  mieScattering := p.mieScattering
  solarIrradiance := p.solarIrradiance

/-- The medium of an atmosphere whose scattering layers have numbers as coefficients. -/
def medium? (p : Parameters α) : Option (ScatteringMedium α) := do
  return p.medium (← p.rayleighDensity.stack?) (← p.mieDensity.stack?)

end Parameters

end Airlight
