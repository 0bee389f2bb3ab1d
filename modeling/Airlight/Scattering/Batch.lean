import Airlight.Scattering.Integral

/-!
# Batches of rays

The parameters of several rays are given as arrays, which are combined position by position. What
cannot be combined or looked up is noticed in the order in which the integrands are computed: the
points on the rays, the transmittance, the densities of the molecules and those of the aerosols.

The layers may have lists of coefficients. Lists that are not alike give the constituents arrays of
different sizes.
-/

namespace Airlight

open Scalar

/-- Arrays of ray parameters, and of the flags that say whether the rays hit the ground. -/
structure RayBatch (α : Type) where
  r : Tensor α
  mu : Tensor α
  muS : Tensor α
  nu : Tensor α
  ground : Tensor Bool

namespace RayBatch

variable {α : Type} [Scalar α] [Inhabited α]

/-- The batch of given rays with their flags. -/
def ofRays (rays : Tensor (Ray α × Bool)) : RayBatch α where
  r := rays.map (·.1.r)
  mu := rays.map (·.1.mu)
  muS := rays.map (·.1.muS)
  nu := rays.map (·.1.nu)
  ground := rays.map Prod.snd

/-- Checks the ranges of all parameters. -/
def check (b : RayBatch α) (s : Shell α) : Except (Failure α) Unit :=
  Ray.checkRanges s b.r.data b.mu.data b.muS.data b.nu.data

/-- The transmittances times the densities that a profile has at some altitudes. -/
def weighed (transmittance : Tensor (Spectrum α)) (layers : Profile (Value α))
    (altitudes : Tensor α) : Except (Failure α) (Tensor (Spectrum α)) := do
  let columns ← layers.stacksAt altitudes.shape
  let densities ← Tensor.map₂ LayerStack.density columns altitudes
  Tensor.map₂ (fun t density => t.each (· * density)) transmittance densities

/-- The integrands at given distances along the rays. Nothing is checked. -/
def integrands (b : RayBatch α) (p : Parameters α) (x : Transmittance α) (d : Tensor α) :
    Except (Failure α) (ScatteredArrays α) := do
  let s := p.shell
  let rD ← Tensor.map₃ (fun r mu d => s.clampRadius (Shell.radiusAlong r mu d)) b.r b.mu d
  let views ← Tensor.map₂ (· * ·) b.r b.muS
  let steps ← Tensor.map₂ (· * ·) d b.nu
  let muSD ← Tensor.map₃ (fun view step rD => clampCosine ((view + step) / rD)) views steps rD
  let back ← x.betweenAll b.r b.mu d b.ground
  let sun ← x.toSunAll rD muSD
  let transmittance ← Tensor.map₂ (Spectrum.combine (· * ·)) back sun
  let altitudes := rD.map (· - s.bottom)
  let rayleigh ← weighed transmittance p.rayleighDensity altitudes
  let mie ← weighed transmittance p.mieDensity altitudes
  return ⟨rayleigh, mie⟩

/-- Adds the terms of `remaining` samples from sample `i` on, of `n` intervals of lengths `dx`. -/
def sumSamples (b : RayBatch α) (p : Parameters α) (x : Transmittance α) (dx : Tensor α)
    (n i : Nat) : Nat → ScatteredArrays α → Except (Failure α) (ScatteredArrays α)
  | 0, sum => .ok sum
  | remaining + 1, sum => do
    let term ← b.integrands p x (dx.map ((i : α) * ·))
    let add (sum term : Spectrum α) : Spectrum α :=
      Spectrum.combine (fun s t => s + t * trapezoidWeight n i) sum term
    let rayleigh ← Tensor.map₂ add sum.rayleigh term.rayleigh
    let mie ← Tensor.map₂ add sum.mie term.mie
    b.sumSamples p x dx n (i + 1) remaining ⟨rayleigh, mie⟩

/-- The light scattered into the rays, by the trapezoidal rule with `n` intervals. -/
def integrate (b : RayBatch α) (p : Parameters α) (x : Transmittance α) (n : Nat)
    (dx : Tensor α) : Except (Failure α) (ScatteredArrays α) := do
  let zero : Tensor (Spectrum α) := .single (Spectrum.constant 0.0)
  let sums ← b.sumSamples p x dx n 0 (n + 1) ⟨zero, zero⟩
  let finish (sums : Tensor (Spectrum α)) (coefficient : Spectrum α) :
      Except (Failure α) (Tensor (Spectrum α)) :=
    Tensor.map₂ (fun (sum : Spectrum α) dx =>
      Vector.ofFn fun k => sum.get k * dx * p.solarIrradiance.get k * coefficient.get k) sums dx
  let rayleigh ← finish sums.rayleigh p.rayleighScattering
  let mie ← finish sums.mie p.mieScattering
  return ⟨rayleigh, mie⟩

/-- The light scattered once into the rays. The sample count and the ranges are checked first. -/
def scattered (b : RayBatch α) (p : Parameters α) (x : Transmittance α) (count : Value α) :
    Except (Failure α) (ScatteredArrays α) := do
  if ← count.isBelow 1 then throw (.argument (.sampleCount count))
  b.check p.shell
  let lengths ← Tensor.map₃ p.shell.distanceToNearest b.r b.mu b.ground
  let n ← count.operandOrFail
  b.integrate p x (← count.intervals lengths.shape).toNat (lengths.map (· / n))

end RayBatch

namespace Parameters

variable {α : Type} [Scalar α] [Inhabited α]

/-- The light scattered into rays, each given with the flag that says whether it hits the ground.
The sample count and the ranges of the rays are checked before anything is integrated. Rays in a
medium whose layers have numbers as coefficients are integrated one by one, unless they have too
many axes for the lookups, which the batch notices. -/
@[specialize] def scatterInto (p : Parameters α) (x : Transmittance α) (count : Value α)
    (rays : Tensor (Ray α × Bool)) : Except (Failure α) (ScatteredArrays α) := do
  match p.medium?.filter fun _ => rays.shape.length < Tensor.maxLookupAxes with
  | none => (RayBatch.ofRays rays).scattered p x count
  | some m =>
    if ← count.isBelow 1 then throw (.argument (.sampleCount count))
    Ray.checkAll p.shell (rays.data.map Prod.fst)
    let n := (← count.intervals rays.shape).toNat
    let oracle := x.oracle
    let found ← rays.mapM fun (ray, ground) => m.integrate oracle n ray ground
    return ⟨found.map Scattered.rayleigh, found.map Scattered.mie⟩

end Parameters

end Airlight
