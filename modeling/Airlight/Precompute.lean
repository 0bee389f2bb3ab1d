import Airlight.Scattering.Pass

/-!
# Precomputation

Tabulates the transmittance of an atmosphere and then runs one pass of single scattering.
-/

namespace Airlight

open Colour Grid Texture

/-- The sizes and counts that a precomputation works with, as they were given. -/
structure Effort (α : Type) where
  workers : Value α
  blockSize : Value α
  sampleCount : Value α
  tableWidth : Value α
  tableHeight : Value α
  tableSampleCount : Value α

namespace Effort

/-- The sizes and counts used when none are given. -/
def standard {α : Type} : Effort α where
  workers := .integer 1
  blockSize := .integer 8192
  sampleCount := .integer 50
  tableWidth := .integer 256
  tableHeight := .integer 64
  tableSampleCount := .integer 500

end Effort

namespace Parameters

variable {α : Type} [Scalar α]

/-- The projection for the spectral channels of an atmosphere. -/
def projection (p : Parameters α) : Projection α :=
  Projection.ofWavelengths p.wavelengths Earth.channelBandwidth

/-- Computes all textures of an atmosphere. Tabulating the transmittance counts as a tenth of the
work. -/
@[specialize] def precompute [Inhabited α] (p : Parameters α) (sizes : GridSizes α)
    (effort : Effort α) (matrix : Option (Tensor α)) (store : α → α)
    (observer : Option (Observer α)) : Run α Unit (TextureSet α) := do
  Run.tell observer ⟨0.0, .transmittance⟩
  Run.note (.tableStarted effort.tableWidth effort.tableHeight effort.tableSampleCount)
  let table ← Run.lift
    (p.transmittanceTable store effort.tableWidth effort.tableHeight effort.tableSampleCount)
  let texels := table.toTensor
  Run.note (.tableDone ((largest? texels.data).getD 0.0) ((smallest? texels.data).getD 0.0))
  let plan ← Run.lift
    (PassPlan.make p sizes effort.workers effort.blockSize effort.sampleCount)
  let pass := plan.run store (.ofTable p table) (matrix.getD p.projection.toTensor)
    (observer.map (Observer.ofPart fun done => 0.1 + 0.9 * done))
  return (← Run.within .zero pass).1

end Parameters

end Airlight
