import Airlight.Atmosphere.Units
import Airlight.Precompute
import Airlight.Storage.Archive
import Airlight.Storage.Image

/-!
# Models

A model is an atmosphere together with its textures once they are known: they are precomputed, in a
length unit of the model's own, or loaded from an archive.
-/

namespace Airlight

open Colour Grid Storage

/-- An atmosphere, the grid on which it is precomputed and the textures, once they are known. -/
structure Model (α : Type) where
  parameters : Parameters α
  sizes : GridSizes α
  /-- The length unit of the textures in metres, as it was given. -/
  unit : Value α
  textures : Option (TextureSet α)
  /-- Whether the textures have been precomputed or loaded. -/
  isInitialized : Bool

namespace Model

variable {α : Type} [Scalar α]

/-- A model without textures. -/
def new (parameters : Parameters α) (sizes : GridSizes α) (unit : Value α) : Model α :=
  ⟨parameters, sizes, unit, none, false⟩

/-- The length unit used when none is given: a kilometre. -/
def standardUnit : Value α := .real 1000.0

/-- The projection of radiances to luminances. -/
def projection (m : Model α) : Projection α := m.parameters.projection

/-- The solar irradiance as linear display primaries. -/
def solarColour (m : Model α) : Triple α :=
  integrate ((m.parameters.wavelengths.zip m.parameters.solarIrradiance).toList.map fun (w, v) =>
    ⟨w, v⟩)

/-- The model with textures that have been precomputed or loaded. -/
def withTextures (m : Model α) (textures : TextureSet α) : Model α :=
  { m with textures := some textures, isInitialized := true }

/-- Computes the textures of a model. -/
@[specialize] def precompute [Inhabited α] (m : Model α) (effort : Effort α) (store : α → α)
    (observer : Option (Observer α)) : Run α Unit (TextureSet α) := do
  Run.tell observer ⟨0.0, .initializing⟩
  let p ← Run.lift (m.parameters.toLengthUnitValue m.unit)
  let unit ← Run.lift m.unit.operandOrFail
  let shape ← Run.lift m.sizes.shape
  if shape.any fun size => size.toValue.hasLongInteger then throw (.spelling (.tooLong none))
  Run.note (.precomputing p.bottom p.top unit shape)
  p.precompute m.sizes effort (some m.projection.toTensor) store observer

/-- Precomputes the textures. The model has them before the observer hears that this is done. -/
@[specialize] def init [Inhabited α] (effort : Effort α) (store : α → α)
    (observer : Option (Observer α)) : Run α (Model α) Unit := do
  let m ← Run.state
  let (textures, _) ← Run.within () (m.precompute effort store observer)
  Run.change (·.withTextures textures)
  Run.tell observer ⟨1.0, .complete⟩

/-- The textures of an initialized model. -/
def texturesOrFail (m : Model α) : Except (Failure α) (TextureSet α) :=
  if m.isInitialized then
    match m.textures with
    | some textures => .ok textures
    | none => .error .noModel
  else .error .notInitialized

/-- Saves the textures in an archive. -/
def save (m : Model α) (path : Text) (console : Console := .complete) :
    Run α (FileStore α) Unit := do
  saveArchive path (← Run.lift m.texturesOrFail).named console

/-- Saves the textures as image files in a directory. -/
def saveImages [Inhabited α] (m : Model α) (images : ImageSupport α) (directory : Text)
    (half : Bool) (console : Console := .complete) : Run α (FileStore α) Unit := do
  images.saveAll directory half (← Run.lift m.texturesOrFail).named console

/-- Loads the textures from an archive. The grid of the scattered light has to fit the model. -/
def load (m : Model α) (files : FileStore α) (path : Text) : Except (Failure α) (Model α) := do
  let textures ← loadArchive files path
  let found := textures.scattering.shape.take 3
  let expected ← m.sizes.shape
  if found.length ≠ 3 || !(found.zip expected).all fun (n, q) => q.equals n then
    throw (.argument (.gridMismatch found (expected.map Quantity.toValue)))
  return m.withTextures textures

end Model

end Airlight
