import Airlight.Colour.Luminance
import Airlight.Scattering.Batch
import Airlight.Texture.VoxelGrid

/-!
# The single scattering kernel

The kernel computes the light scattered once for voxels of the grid: each voxel stands for a ray,
the light scattered into the rays is integrated, and the results are written to two grids. A block
of voxels is evaluated as a whole before anything is written.
-/

namespace Airlight

open Grid Texture

/-- The two grids that the kernel fills, one for each scattering constituent. -/
structure ScatterGrids (α : Type) where
  rayleigh : VoxelGrid α 4
  mie : VoxelGrid α 4

namespace ScatterGrids

variable {α : Type}

/-- The number of bytes that a value in a grid takes. -/
def valueBytes : Nat := 4

/-- Two grids in which nothing has been written, if there is room for them. -/
def make {φ : Type} (shape : GridShape) : Except (Failure φ) (ScatterGrids α) :=
  return ⟨← VoxelGrid.make shape valueBytes, ← VoxelGrid.make shape valueBytes⟩

/-- Whether every voxel of both grids has been written. -/
def isComplete (g : ScatterGrids α) : Bool := g.rayleigh.isComplete && g.mie.isComplete

end ScatterGrids

/-- Steps on the two grids. What was written before a failure stays. -/
abbrev GridStep (α β : Type) := ExceptT (Failure α) (StateM (ScatterGrids α)) β

namespace GridStep

variable {α : Type}

/-- Why values for some voxels cannot be written to a grid: the voxels are refused, or there is not
one spectrum for each of them. -/
def refusal? (g : VoxelGrid α 4) (voxels : List Voxel) (values : Tensor (Spectrum α)) :
    Option (Failure α) :=
  (g.refusal? voxels).or <|
    if values.data.size = voxels.length then none
    else some (.shapes (.unfit (values.shape ++ [4]) [voxels.length, 4]))

/-- Writes the light scattered by molecules. -/
def writeRayleigh (store : α → α) (voxels : List Voxel) (values : Tensor (Spectrum α)) :
    GridStep α Unit :=
  ExceptT.mk fun ⟨rayleigh, mie⟩ =>
    match refusal? rayleigh voxels values with
    | some failure => (.error failure, ⟨rayleigh, mie⟩)
    | none => (.ok (), ⟨rayleigh.fill store (voxels.zip values.data.toList), mie⟩)

/-- Writes the light scattered by aerosols. -/
def writeMie (store : α → α) (voxels : List Voxel) (values : Tensor (Spectrum α)) :
    GridStep α Unit :=
  ExceptT.mk fun ⟨rayleigh, mie⟩ =>
    match refusal? mie voxels values with
    | some failure => (.error failure, ⟨rayleigh, mie⟩)
    | none => (.ok (), ⟨rayleigh, mie.fill store (voxels.zip values.data.toList)⟩)

end GridStep

/-- What the evaluation of a voxel reads. -/
structure Kernel (α : Type) where
  extents : Extents
  atmosphere : Parameters α
  transmittance : Transmittance α
  sampleCount : Value α

namespace Kernel

variable {α : Type} [Scalar α] {β : Type}

/-- The light scattered once into the rays of some voxels. -/
@[specialize] def evaluate [Inhabited α] (k : Kernel α) (voxels : Tensor Voxel) :
    Except (Failure α) (ScatteredArrays α) :=
  k.atmosphere.scatterInto k.transmittance k.sampleCount
    (voxels.map (k.extents.scale.rayAt k.atmosphere.toLitShell))

/-- Evaluates voxels, writes the results to both grids and then projects them. -/
@[specialize] def run [Inhabited α] (k : Kernel α) (store : α → α)
    (project : ScatteredArrays α → Except (Failure α) β) (voxels : Tensor Voxel) :
    GridStep α β := do
  let scattered ← ExceptT.mk (pure (k.evaluate voxels))
  GridStep.writeRayleigh store voxels.data.toList scattered.rayleigh
  GridStep.writeMie store voxels.data.toList scattered.mie
  ExceptT.mk (pure (project scattered))

/-- The luminances of scattered light, as two arrays with an axis for the components. Any matrix
that fits can be used. -/
def luminances [Inhabited α] (matrix : Tensor α) (scattered : ScatteredArrays α) :
    Except (Failure α) (Tensor α × Tensor α) := do
  return (← Colour.project matrix scattered.rayleigh.components,
    ← Colour.project matrix scattered.mie.components)

/-- Runs the kernel on a voxel given by its coordinates. Surplus coordinates are noticed only when
the results are to be written. -/
def runAt [Inhabited α] (k : Kernel α) (store : α → α) (matrix : Tensor α)
    (coordinates : Tensor Int) : GridStep α (Tensor α × Tensor α) := do
  let voxels ← ExceptT.mk (pure (Voxel.ofTensor coordinates))
  if coordinates.data.size = 3 then k.run store (luminances matrix) voxels
  else do
    let _ ← ExceptT.mk (pure (k.evaluate voxels))
    throw (.shapes .other)

/-- Runs the kernel on a block of voxels given as an array with three coordinates in each row. -/
def runOn [Inhabited α] (k : Kernel α) (store : α → α) (matrix : Tensor α)
    (coordinates : Tensor Int) : GridStep α (Tensor α × Tensor α) := do
  let coordinates ← ExceptT.mk (pure coordinates.indices)
  match coordinates.shape with
  | [_, 3] => do
    let voxels ← ExceptT.mk (pure (Voxel.ofTensor coordinates))
    k.run store (luminances matrix) voxels
  | shape => throw (.argument (.voxelShape shape))

end Kernel

end Airlight
