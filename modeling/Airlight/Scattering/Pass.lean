import Airlight.Grid.Sizes
import Airlight.Journal.Run
import Airlight.Scattering.Kernel
import Airlight.Texture.Set

/-!
# Passes over the grid

A pass runs the kernel on every voxel of the grid, block by block, and adds the luminance of the
scattered light to running sums. The sums belong to a sequence of passes: they are changed after
each block, so a pass that fails leaves the blocks before the failure in them.
-/

namespace Airlight

open Colour Grid Scalar Texture

/-- The luminance of the light scattered once, summed up at each of `n` voxels. -/
structure LuminanceSums (α : Type) (n : Nat) where
  scattering : Vector (Triple α) n
  singleMie : Vector (Triple α) n

namespace LuminanceSums

variable {α : Type} [Scalar α] {n : Nat}

/-- Sums to which nothing has been added. -/
def zero : LuminanceSums α n :=
  ⟨Vector.replicate n (Vector.replicate 3 0.0), Vector.replicate n (Vector.replicate 3 0.0)⟩

/-- Adds values to the sums from position `i` on, kept with the given rounding. -/
@[specialize] def addFrom (store : α → α) :
    Nat → List (Triple α) → Vector (Triple α) n → Vector (Triple α) n
  | _, [], sums => sums
  | i, value :: rest, sums =>
    if h : i < n then
      let old := sums[i]
      addFrom store (i + 1) rest (sums.set i (Vector.ofFn fun c => store (old[c] + value[c])) h)
    else sums

/-- Adds the luminances of a block that begins at a position to the sums of all scattered light. -/
@[specialize] def addScattering (store : α → α) (start : Nat) (values : List (Triple α))
    (s : LuminanceSums α n) : LuminanceSums α n :=
  { s with scattering := addFrom store start values s.scattering }

/-- Adds the luminances of a block that begins at a position to the sums of the light scattered by
aerosols. -/
@[specialize] def addSingleMie (store : α → α) (start : Nat) (values : List (Triple α))
    (s : LuminanceSums α n) : LuminanceSums α n :=
  { s with singleMie := addFrom store start values s.singleMie }

/-- The sums at all voxels as an array of three components. -/
def toTensor [Inhabited α] (shape : List Nat) (sums : Vector (Triple α) n) : Tensor α :=
  Tensor.ofVectors shape sums.toArray

end LuminanceSums

/-- The largest of some numbers; an undefined number is passed on. -/
def largest? {α : Type} [Scalar α] (xs : Array α) : Option α :=
  xs.foldl (fun m x => match m with
    | none => some x
    | some m => some (larger m x)) none

/-- The smallest of some numbers; an undefined number is passed on. -/
def smallest? {α : Type} [Scalar α] (xs : Array α) : Option α :=
  xs.foldl (fun m x => match m with
    | none => some x
    | some m => some (smaller m x)) none

/-- What all passes of a sequence have in common. Counts are as they were given: those of a pass are
looked at when it begins. -/
structure PassPlan (α : Type) where
  atmosphere : Parameters α
  extents : Extents
  workers : Value α
  blockSize : Value α
  sampleCount : Value α

namespace PassPlan

variable {α : Type} [Scalar α]

/-- The plan of passes over a grid, if the counts are positive, the sizes of the grid whole, and
there is room for the sums. -/
def make (atmosphere : Parameters α) (sizes : GridSizes α)
    (workers blockSize sampleCount : Value α) : Except (Failure α) (PassPlan α) := do
  if ← blockSize.isBelow 1 then throw (.argument (.blockSize blockSize))
  if ← sampleCount.isBelow 1 then throw (.argument (.sampleCount sampleCount))
  let extents ← sizes.extents
  Tensor.checkRoom (extents.shape.sizes ++ [3]) ScatterGrids.valueBytes
  return { atmosphere, extents, workers, blockSize, sampleCount }

/-- The kernel of a pass. -/
def kernel (p : PassPlan α) (transmittance : Transmittance α) : Kernel α where
  extents := p.extents
  atmosphere := p.atmosphere
  transmittance
  sampleCount := p.sampleCount

/-- The blocks of a pass. -/
def blocks (p : PassPlan α) : Except (Failure α) (List Extents.Block) :=
  (GridSizes.ofExtents p.extents).blocks p.blockSize

/-- The running sums of a sequence of passes. -/
abbrev Sums (p : PassPlan α) := LuminanceSums α p.extents.voxelCount

/-- The luminances of scattered light that is added to sums: a row of spectra, made of numbers. -/
def addends (projection : Projection α) (layers : Profile (Value α))
    (scattered : Tensor (Spectrum α)) : Except (Failure α) (List (Triple α)) := do
  if layers.any DensityLayer.keepsElements then throw .operand
  match scattered.shape with
  | [_] => return (scattered.map projection.apply).data.toList
  | shape => throw (.shapes (.outgrown [scattered.data.size, 3] (shape ++ [3])))

/-- Adds the light that was scattered in a block to the sums, first all of it and then that of the
aerosols. -/
@[specialize] def addBlock (p : PassPlan α) (store : α → α) (projection : Projection α)
    (start : Nat) (scattered : ScatteredArrays α) : Run α p.Sums Unit := do
  let all ← Run.lift (addends projection p.atmosphere.rayleighDensity scattered.rayleigh)
  Run.change (LuminanceSums.addScattering store start all)
  let aerosols ← Run.lift (addends projection p.atmosphere.mieDensity scattered.mie)
  Run.change (LuminanceSums.addSingleMie store start aerosols)

/-- Runs the kernel on blocks and adds each block's luminance to the sums. -/
@[specialize] def runBlocks [Inhabited α] (p : PassPlan α) (store : α → α)
    (transmittance : Transmittance α) (projection : Projection α)
    (observer : Option (Observer α)) (total : Nat) :
    Nat → List Extents.Block → ScatterGrids α → Run α p.Sums (ScatterGrids α)
  | _, [], grids => pure grids
  | done, block :: rest, grids => do
    let (result, grids) :=
      ((p.kernel transmittance).run store .ok (.row (p.extents.voxels block))).run grids
    p.addBlock store projection block.1 (← Run.lift result)
    Run.tell observer
      ⟨((done + 1 : Nat) : α) / ((total : Nat) : α), .block (done + 1) total⟩
    p.runBlocks store transmittance projection observer total (done + 1) rest grids

/-- The number of workers that a value asks for; there has to be one. Without a value there is. -/
def checkWorkers : Value α → Except (Failure α) Unit
  | .null => .ok ()
  | v => do if (← v.truncated) = 0 then throw .noWorkers

/-- Runs a pass. The table of the transmittance, if it has one, becomes part of the result. -/
@[specialize] def run [Inhabited α] (p : PassPlan α) (store : α → α)
    (transmittance : Transmittance α) (matrix : Tensor α) (observer : Option (Observer α)) :
    Run α p.Sums (TextureSet α) := do
  let projection ← Run.lift (Projection.ofMatrix matrix)
  let empty ← Run.lift (ScatterGrids.make p.extents.shape)
  let blocks ← Run.lift p.blocks
  Run.note (.passStarted p.extents.voxelCount blocks.length p.workers)
  Run.lift (checkWorkers p.workers)
  let grids ←
    p.runBlocks store transmittance projection observer blocks.length 0 blocks empty
  if !grids.isComplete then throw .unwritten
  let sums ← Run.state
  let scattering := LuminanceSums.toTensor p.extents.shape.sizes sums.scattering
  Run.note (.passDone ((largest? scattering.data).getD 0.0))
  return { transmittance := transmittance.texels?
           deltaRayleigh := grids.rayleigh.toTensor
           deltaMie := grids.mie.toTensor
           scattering
           singleMie := LuminanceSums.toTensor p.extents.shape.sizes sums.singleMie }

end PassPlan

end Airlight
