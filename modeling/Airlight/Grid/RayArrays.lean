import Airlight.Grid.RayMap
import Airlight.Grid.Sizes

/-!
# Arrays of rays and coordinates

The maps between ray parameters, coordinates and voxels, for arrays that are combined position by
position. The sizes of the grid need not be whole, but they have to be numbers that the computation
can use.
-/

namespace Airlight.Grid.GridSizes

open Scalar Texture

variable {α : Type} [Scalar α] [Inhabited α]

/-- The coordinates of rays, in the order of the grid axes from the fastest on. -/
def encodeArrays (g : GridSizes α) (s : LitShell α) (r mu muS nu : Tensor α)
    (ground : Tensor Bool) : Except (Failure α) (List (Tensor α)) := do
  let rSize ← g.r.number
  let _ ← Tensor.joinShapes r.shape mu.shape
  let halfMu ← g.mu.half.number
  let uMu ← Tensor.map₃ (s.toShell.viewCoord halfMu) r mu ground
  let muSSize ← g.muS.number
  return [nu.map nuCoord, muS.map (s.sunCoord muSSize), uMu,
    r.map (s.toShell.radiusCoord rSize)]

/-- The parameters `r`, `mu`, `muS` and `nu` of the rays at given coordinates, and the flags that
say whether they hit the ground. -/
def decodeArrays (g : GridSizes α) (s : LitShell α) (uNu uMuS uMu uR : Tensor α) :
    Except (Failure α) (List (Tensor α) × Tensor Bool) := do
  let rSize ← g.r.number
  let halfMu ← g.mu.half.number
  let mu ← Tensor.map₂ (s.toShell.viewCosineAt halfMu rSize) uMu uR
  let muSSize ← g.muS.number
  return ([uR.map fun u => (s.toShell.radiusAt rSize u).1, mu,
    uMuS.map (s.sunCosineAt muSSize), uNu.map nuAt], uMu.map fun u => decide (u < 0.5))

/-- The numbers by which the sizes enter the maps. -/
def scale (g : GridSizes α) : Except (Failure α) (GridScale α) := do
  let muS ← g.muS.number
  let nuSteps ← g.nu.pred.number
  let mu ← g.mu.number
  let r ← g.r.number
  let halfMu ← g.mu.half.number
  return { nuSteps, muS, mu, halfMu, r }

/-- The coordinates of the centres of voxels. -/
def centres (g : GridSizes α) (voxels : Tensor Voxel) : Except (Failure α) (Tensor (Coords α)) :=
  return voxels.map (← g.scale).centre

/-- The rays at the centres of voxels, with the flags that say whether they hit the ground. -/
def raysAt (g : GridSizes α) (s : LitShell α) (voxels : Tensor Voxel) :
    Except (Failure α) (Tensor (Ray α × Bool)) :=
  return voxels.map ((← g.scale).rayAt s)

end Airlight.Grid.GridSizes
