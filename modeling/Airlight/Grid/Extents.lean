import Airlight.Texture.VoxelGrid

/-!
# Extents of the scattering grid

The scattered light is a function of four ray parameters. It is stored in a three-dimensional grid:
the cosine between view and sun and the sun cosine are packed along the width, the view cosine runs
along the height and the radius along the depth.
-/

namespace Airlight.Grid

open Texture (Voxel GridShape)

/-- The number of grid points along each ray parameter. The points of the view cosine are split
evenly between rays that hit the ground and rays that do not. -/
structure Extents where
  nuSize : Nat
  muSSize : Nat
  muSize : Nat
  rSize : Nat
  two_le_nuSize : 2 ≤ nuSize := by decide
  two_le_muSSize : 2 ≤ muSSize := by decide
  two_le_rSize : 2 ≤ rSize := by decide
  four_le_muSize : 4 ≤ muSize := by decide
  even_muSize : muSize % 2 = 0 := by decide
  deriving DecidableEq, Repr

namespace Extents

/-- The extents used when none are given. -/
def standard : Extents := { nuSize := 8, muSSize := 32, muSize := 128, rSize := 32 }

instance : Inhabited Extents := ⟨standard⟩

/-- Extents from four sizes, if they are large enough and the view cosine has an even number. -/
def ofSizes {α : Type} (nu muS mu r : Int) : Except (Failure α) Extents :=
  if h : 2 ≤ nu ∧ 2 ≤ muS ∧ 2 ≤ r then
    if h' : 4 ≤ mu ∧ mu % 2 = 0 then
      .ok {
        nuSize := nu.toNat
        muSSize := muS.toNat
        muSize := mu.toNat
        rSize := r.toNat
        two_le_nuSize := by omega
        two_le_muSSize := by omega
        two_le_rSize := by omega
        four_le_muSize := by omega
        even_muSize := by omega }
    else .error (.argument (.muSize (.integer mu)))
  else
    .error (.argument (.gridSizes (.integer nu) (.integer muS) (.integer mu) (.integer r)))

def width (e : Extents) : Nat := e.nuSize * e.muSSize

def height (e : Extents) : Nat := e.muSize

def depth (e : Extents) : Nat := e.rSize

/-- The sizes of the grid. -/
def shape (e : Extents) : GridShape := ⟨e.depth, e.height, e.width⟩

/-- The number of voxels. -/
def voxelCount (e : Extents) : Nat := e.width * e.height * e.depth

/-- The voxel at a position in row-major order. -/
def voxelAt (e : Extents) (i : Nat) : Voxel :=
  ⟨(i % e.width : Nat), (i / e.width % e.height : Nat), (i / (e.width * e.height) : Nat)⟩

/-- The voxels at several positions, which have to lie in the grid. The array of positions has to
get an axis for the coordinates. -/
def voxelsAt {α : Type} (e : Extents) (positions : Tensor Int) :
    Except (Failure α) (Tensor Voxel) := do
  let positions ← positions.indices
  if Value.maxAxes ≤ positions.shape.length then throw (.shapes .other)
  if e.voxelCount ≤ Tensor.indexLimit &&
      positions.data.all fun i => 0 ≤ i && i < (e.voxelCount : Int) then
    return positions.map fun i => e.voxelAt i.toNat
  else throw (.shapes .other)

/-- Half-open ranges of positions. -/
abbrev Block := Nat × Nat

/-- The consecutive blocks of `size` positions from `start` up to `stop`; the last may be
shorter. -/
def blocksFrom (start stop size : Nat) : List Block :=
  (List.range ((stop - start + size - 1) / size)).map fun k =>
    (start + k * size, min (start + (k + 1) * size) stop)

/-- The blocks of `size` positions that make up the grid. -/
def blocks (e : Extents) (size : Nat) : List Block := blocksFrom 0 e.voxelCount size

/-- The voxels of a block. -/
def voxels (e : Extents) (block : Block) : List Voxel :=
  (List.range' block.1 (block.2 - block.1)).map e.voxelAt

end Extents

end Airlight.Grid
