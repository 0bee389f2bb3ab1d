import Airlight.Failure.Basic

/-!
# Density layers

The density of a constituent is given by layers, stacked from the ground up. Each layer but the last
covers its width; the last one has no upper end. A layer gives the density as a function of the
altitude above the ground.
-/

namespace Airlight

open Scalar

/-- A layer in which the density at altitude `h` is
`expTerm * exp (expScale * h) + linearTerm * h + constantTerm`, limited to the range from 0 to 1. -/
structure DensityLayer (φ : Type) where
  width : φ
  expTerm : φ
  expScale : φ
  linearTerm : φ
  constantTerm : φ

/-- Layers from the ground up. -/
abbrev Profile (φ : Type) := List (DensityLayer φ)

namespace DensityLayer

variable {α : Type} [Scalar α]

/-- The layer of density zero and width zero. -/
def empty : DensityLayer α := ⟨0.0, 0.0, 0.0, 0.0, 0.0⟩

/-- The density that a layer gives at an altitude. -/
@[specialize] def density (layer : DensityLayer α) (h : α) : α :=
  clamp (layer.expTerm * exp (layer.expScale * h) + layer.linearTerm * h + layer.constantTerm)
    0.0 1.0

/-- The layer in a length unit `factor` times larger. -/
def scaled (layer : DensityLayer α) (factor : α) : DensityLayer α :=
  { layer with
    width := layer.width / factor
    expScale := layer.expScale * factor
    linearTerm := layer.linearTerm * factor }

/-- Converts every field. -/
def mapM {φ ψ ε : Type} (f : φ → Except ε ψ) (layer : DensityLayer φ) :
    Except ε (DensityLayer ψ) := do
  let width ← f layer.width
  let expTerm ← f layer.expTerm
  let expScale ← f layer.expScale
  let linearTerm ← f layer.linearTerm
  let constantTerm ← f layer.constantTerm
  return { width, expTerm, expScale, linearTerm, constantTerm }

end DensityLayer

/-- A quotient with a divisor that must not be zero. -/
def divide? {α : Type} [Scalar α] (a b : α) : Except (Failure α) α :=
  if same b 0.0 then .error .divisionByZero else .ok (a / b)

namespace Profile

variable {α : Type} [Scalar α]

/-- The density of a profile whose lowest layer starts at `base`: that of the first layer whose
upper end lies above the altitude, and of the last layer when there is none. -/
@[specialize] def densityFrom (base : α) : Profile α → α → α
  | [], _ => 0.0
  | [layer], h => layer.density h
  | layer :: next :: rest, h =>
    let upper := base + layer.width
    if h < upper then layer.density h else densityFrom upper (next :: rest) h

/-- The density of a profile at an altitude. -/
@[specialize] def density (layers : Profile α) (h : α) : α := densityFrom 0.0 layers h

/-- A density that falls by the factor e over each scale height. -/
def exponential (scaleHeight : α) : Except (Failure α) (Profile α) := do
  let scale ← divide? (-1.0) scaleHeight
  return [{ DensityLayer.empty with expTerm := 1.0, expScale := scale }]

/-- The same density everywhere. -/
def uniform (density : α) : Profile α := [{ DensityLayer.empty with constantTerm := density }]

end Profile

end Airlight
