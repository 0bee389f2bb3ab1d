import Airlight.Atmosphere.Parameters

/-!
# Optical depth

The optical length of a constituent from a point to the top of the atmosphere is the integral of its
density along the ray, by the trapezoidal rule. The transmittance is the exponential of the negated
optical depth.
-/

namespace Airlight

open Scalar

variable {α : Type} [Scalar α]

/-- The weight of sample `i` of the trapezoidal rule over `n` intervals: one half at both ends. -/
@[inline] def trapezoidWeight (n i : Nat) : α := if i = 0 ∨ i = n then 0.5 else 1.0

/-- The sum of the terms `f 0`, …, `f (n - 1)`, added from the first to the last. -/
@[specialize] def sumTo (f : Nat → α) : Nat → α
  | n => go 0 n 0.0
where
  /-- Adds `remaining` terms from index `i` on. -/
  @[specialize] go (i : Nat) : Nat → α → α
    | 0, sum => sum
    | remaining + 1, sum => go (i + 1) remaining (sum + f i)

namespace Shell

/-- The contribution of sample `i` to the optical length, for intervals of length `dx`. -/
@[specialize] def opticalTerm (s : Shell α) (density : α → α) (r mu dx : α) (n i : Nat) : α :=
  density (radiusAlong r mu ((i : α) * dx) - s.bottom) * trapezoidWeight n i * dx

/-- The integral of a density, a function of the altitude, from a point to the top of the
atmosphere, with `n` intervals. -/
@[specialize] def opticalLength (s : Shell α) (density : α → α) (n : Nat) (r mu : α) : α :=
  let dx := s.distanceToTop r mu / (n : α)
  sumTo (s.opticalTerm density r mu dx n) (n + 1)

/-- The integral for any interval count; a negative count has no samples. -/
@[specialize] def opticalLengthOf (s : Shell α) (density : α → α) (count : Int) (r mu : α) : α :=
  if count < 0 then 0.0 else s.opticalLength density count.toNat r mu

/-- The integrals of a profile with arrays of coefficients for arrays of points and directions. Only
samples ask for the density. -/
def opticalLengths [Inhabited α] (s : Shell α) (layers : Profile (Tensor α)) (count : Value α)
    (r mu : Tensor α) : Except (Failure α) (Tensor α) := do
  let places ← Tensor.map₂ Prod.mk r mu
  let count ← count.intervals places.shape
  let columns ← if count < 0 then pure (.single .empty) else layers.arrayStacks
  Tensor.map₂ (fun stack (r, mu) => s.opticalLengthOf stack.density count r mu) columns places

end Shell

/-- The layers of the three constituents of the air. -/
structure Constituents (α : Type) where
  rayleigh : LayerStack α
  mie : LayerStack α
  absorption : LayerStack α

/-- No air. -/
def Constituents.empty : Constituents α := ⟨.empty, .empty, .empty⟩

instance : Inhabited (Constituents α) := ⟨.empty⟩

namespace Atmosphere

variable {φ : Type}

/-- The attenuation in a channel by optical lengths of the three constituents. -/
@[inline] def attenuation (a : Atmosphere φ α) (rayleigh mie absorption : α) (c : Fin 4) : α :=
  exp (-(a.rayleighScattering.get c * rayleigh + a.mieExtinction.get c * mie +
    a.absorptionExtinction.get c * absorption))

/-- The transmittance from a point to the top of the atmosphere. -/
@[specialize] def transmittanceToTop (a : Atmosphere φ α) (air : Constituents α) (count : Int)
    (r mu : α) : Spectrum α :=
  let rayleigh := a.shell.opticalLengthOf air.rayleigh.density count r mu
  let mie := a.shell.opticalLengthOf air.mie.density count r mu
  let absorption := a.shell.opticalLengthOf air.absorption.density count r mu
  Vector.ofFn (a.attenuation rayleigh mie absorption)

end Atmosphere

namespace Profile

/-- The stacks of a constituent for altitudes of the given sizes, and the sizes of its optical
lengths, which have to get an axis for the channels. -/
def absorbing [Inhabited α] (layers : Profile (Value α)) (altitude : List Nat) :
    Except (Failure α) (Tensor (LayerStack α) × List Nat) := do
  let columns ← layers.stacksAt altitude
  let shape ← Tensor.joinShapes columns.shape altitude
  Tensor.checkNewAxis shape
  return (columns, shape)

end Profile

namespace Parameters

/-- The constituents for transmittances at altitudes of the given sizes. There is no exponential of
densities that are kept as they are. -/
def constituents [Inhabited α] (p : Parameters α) (altitude : List Nat) :
    Except (Failure α) (Tensor (Constituents α)) := do
  let (rayleigh, molecules) ← p.rayleighDensity.absorbing altitude
  let (mie, aerosols) ← p.mieDensity.absorbing altitude
  let scattering ← Tensor.joinShapes (molecules ++ [4]) (aerosols ++ [4])
  let (absorption, absorbers) ← p.absorptionDensity.absorbing altitude
  let shape ← Tensor.joinShapes scattering (absorbers ++ [4])
  let layers := p.rayleighDensity ++ p.mieDensity ++ p.absorptionDensity
  if layers.any DensityLayer.keepsElements && volume shape ≠ 0 then throw .type
  Tensor.map₃ Constituents.mk rayleigh mie absorption

/-- The transmittances from arrays of points and directions to the top of the atmosphere. Only
samples ask for the densities. -/
@[specialize] def transmittances [Inhabited α] (p : Parameters α) (count : Value α)
    (r mu : Tensor α) : Except (Failure α) (Tensor (Spectrum α)) := do
  let places ← Tensor.map₂ Prod.mk r mu
  let count ← count.intervals places.shape
  if count < 0 then Tensor.checkNewAxis places.shape
  let air ← if count < 0 then pure (.single .empty) else p.constituents places.shape
  Tensor.map₂ (fun air (r, mu) => p.transmittanceToTop air count r mu) air places

end Parameters

end Airlight
