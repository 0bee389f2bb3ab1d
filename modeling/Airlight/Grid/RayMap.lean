import Airlight.Grid.Extents
import Airlight.Shell
import Airlight.Texture.Coordinate

/-!
# Ray parameters and grid coordinates

A ray in lit air is given by the radius `r` of its origin, the cosine `mu` of its angle with the
upward direction, the cosine `muS` of the angle between the sun and the upward direction and the
cosine `nu` of the angle between ray and sun. Each parameter has a coordinate from 0 to 1:

* `r` through the distance to the horizon;
* `mu` through the distance to the boundary that the ray meets, rays that hit the ground below one
  half and the others above;
* `muS` through the distance from the ground to the top in the direction of the sun;
* `nu` linearly.

The maps in both directions are here, and the map from a voxel to the ray at its centre.
-/

namespace Airlight

open Scalar Texture

/-- A shell and the smallest sun cosine that the grid holds. -/
structure LitShell (α : Type) extends Shell α where
  muSMin : α
  deriving Inhabited

/-- The parameters of a ray. -/
structure Ray (α : Type) where
  r : α
  mu : α
  muS : α
  nu : α
  deriving Repr, Inhabited

namespace Shell

variable {α : Type} [Scalar α]

/-- The distance from a radius to the horizon. -/
@[specialize] def horizonDistance (s : Shell α) (r : α) : α :=
  safeSqrt (r * r - s.bottom * s.bottom)

/-- The coordinate of a radius among `size` grid points. -/
@[specialize] def radiusCoord (s : Shell α) (size r : α) : α :=
  coordOfUnit (s.horizonDistance r / s.horizonLength) size

/-- The coordinate of a view cosine, with `half` grid points for either kind of ray. -/
@[specialize] def viewCoord (s : Shell α) (half r mu : α) (ground : Bool) : α :=
  let rMu := r * mu
  let discriminant := rMu * rMu - r * r + s.bottom * s.bottom
  let rho := s.horizonDistance r
  if ground then
    let d := -rMu - safeSqrt discriminant
    let dMin := r - s.bottom
    let span := rho - dMin
    let x := if 0.0 < span then (d - dMin) / span else 0.0
    0.5 - 0.5 * coordOfUnit x half
  else
    let h := s.horizonLength
    let d := -rMu + safeSqrt (discriminant + h * h)
    let dMin := s.top - r
    let dMax := rho + h
    0.5 + 0.5 * coordOfUnit ((d - dMin) / (dMax - dMin)) half

/-- The radius at a coordinate among `size` grid points, together with its distance to the
horizon. -/
@[specialize] def radiusAt (s : Shell α) (size u : α) : α × α :=
  let rho := s.horizonLength * unitOfCoord u size
  (s.clampRadius (sqrt (rho * rho + s.bottom * s.bottom)), rho)

/-- The distance to the boundary that the ray meets, at the coordinates `u` of the view cosine and
`uR` of the radius. -/
@[specialize] def viewDistanceAt (s : Shell α) (half rSize u uR : α) : α :=
  let (r, rho) := s.radiusAt rSize uR
  if u < 0.5 then
    let dMin := r - s.bottom
    dMin + (rho - dMin) * unitOfCoord (1.0 - 2.0 * u) half
  else
    let dMin := s.top - r
    dMin + (rho + s.horizonLength - dMin) * unitOfCoord (2.0 * u - 1.0) half

/-- The view cosine at the coordinates `u` of the cosine and `uR` of the radius. -/
@[specialize] def viewCosineAt (s : Shell α) (half rSize u uR : α) : α :=
  let (r, rho) := s.radiusAt rSize uR
  let h := s.horizonLength
  let d := s.viewDistanceAt half rSize u uR
  clampCosine <|
    if u < 0.5 then
      if same d 0.0 then -1.0 else -(rho * rho + d * d) / (2.0 * r * d)
    else
      if same d 0.0 then 1.0 else (h * h - rho * rho - d * d) / (2.0 * r * d)

end Shell

namespace LitShell

variable {α : Type} [Scalar α]

/-- Where the distance from the ground to the top in a direction lies between that of the zenith and
that of the horizon. -/
@[specialize] def sunFraction (s : LitShell α) (muS : α) : α :=
  let dMin := s.top - s.bottom
  (s.toShell.distanceToTop s.bottom muS - dMin) / (s.toShell.horizonLength - dMin)

/-- The coordinate of a sun cosine among `size` grid points: 0 for the smallest stored cosine and 1
for a sun in the zenith, with a steep slope around the horizon. -/
@[specialize] def sunCoord (s : LitShell α) (size muS : α) : α :=
  let a := s.sunFraction muS
  coordOfUnit (larger (1.0 - a / s.sunFraction s.muSMin) 0.0 / (1.0 + a)) size

/-- The sun cosine at a coordinate. -/
@[specialize] def sunCosineAt (s : LitShell α) (size u : α) : α :=
  let x := unitOfCoord u size
  let h := s.toShell.horizonLength
  let dMin := s.top - s.bottom
  let limit := s.sunFraction s.muSMin
  let a := (limit - x * limit) / (1.0 + x * limit)
  let d := dMin + smaller a limit * (h - dMin)
  clampCosine (if same d 0.0 then 1.0 else (h * h - d * d) / (2.0 * s.bottom * d))

end LitShell

namespace Grid

variable {α : Type} [Scalar α]

/-- The coordinate of the cosine between view and sun. -/
@[inline] def nuCoord (nu : α) : α := (nu + 1.0) / 2.0

/-- The cosine between view and sun at a coordinate. -/
@[inline] def nuAt (u : α) : α := clampCosine (u * 2.0 - 1.0)

/-- Four coordinates in the grid. -/
structure Coords (α : Type) where
  uNu : α
  uMuS : α
  uMu : α
  uR : α
  deriving Repr

/-- The numbers by which the sizes of a grid enter its maps. -/
structure GridScale (α : Type) where
  /-- The number of steps between the grid points of the cosine between view and sun. -/
  nuSteps : α
  muS : α
  mu : α
  /-- The number of grid points for the view cosines of either kind of ray. -/
  halfMu : α
  r : α

/-- The numbers of extents. -/
def Extents.scale (e : Extents) : GridScale α where
  nuSteps := ((e.nuSize - 1 : Nat) : α)
  muS := (e.muSSize : α)
  mu := (e.muSize : α)
  halfMu := ((e.muSize / 2 : Nat) : α)
  r := (e.rSize : α)

/-- Limits the cosine between view and sun to the values possible for given view and sun cosines. -/
def limitNu (mu muS nu : α) : α :=
  let spread := sqrt ((1.0 - mu * mu) * (1.0 - muS * muS))
  clamp nu (mu * muS - spread) (mu * muS + spread)

namespace GridScale

/-- The coordinates of a ray; the flag says whether it counts as hitting the ground. -/
def encode (g : GridScale α) (s : LitShell α) (ray : Ray α) (ground : Bool) : Coords α where
  uNu := nuCoord ray.nu
  uMuS := s.sunCoord g.muS ray.muS
  uMu := s.toShell.viewCoord g.halfMu ray.r ray.mu ground
  uR := s.toShell.radiusCoord g.r ray.r

/-- The ray at given coordinates and whether it hits the ground. -/
def decode (g : GridScale α) (s : LitShell α) (u : Coords α) : Ray α × Bool :=
  ({ r := (s.toShell.radiusAt g.r u.uR).1
     mu := s.toShell.viewCosineAt g.halfMu g.r u.uMu u.uR
     muS := s.sunCosineAt g.muS u.uMuS
     nu := nuAt u.uNu },
    decide (u.uMu < 0.5))

/-- The coordinates of a voxel centre. The first and last columns of `nu` hold exactly -1 and 1. -/
def centre (g : GridScale α) (v : Voxel) : Coords α :=
  let x : α := ofInt v.x + 0.5
  { uNu := floor (x / g.muS) / g.nuSteps
    uMuS := floorMod x g.muS / g.muS
    uMu := (ofInt v.y + 0.5) / g.mu
    uR := (ofInt v.z + 0.5) / g.r }

/-- The ray at a voxel centre and whether it hits the ground. -/
def rayAt (g : GridScale α) (s : LitShell α) (v : Voxel) : Ray α × Bool :=
  let (ray, ground) := g.decode s (g.centre v)
  ({ ray with nu := limitNu ray.mu ray.muS ray.nu }, ground)

end GridScale

end Grid

namespace Ray

variable {α : Type} [Scalar α]

/-- Whether every number lies between two limits. -/
def allWithin (lo hi : α) (xs : Array α) : Bool := xs.all fun x => lo ≤ x && x ≤ hi

/-- Checks the ranges of ray parameters: all radii first, then the view cosines, the sun cosines and
the cosines between view and sun. -/
def checkRanges (s : Shell α) (r mu muS nu : Array α) : Except (Failure α) Unit :=
  if !allWithin s.bottom s.top r then .error (.rayOutside .radius)
  else if !allWithin (-1.0) 1.0 mu then .error (.rayOutside .viewCosine)
  else if !allWithin (-1.0) 1.0 muS then .error (.rayOutside .sunCosine)
  else if !allWithin (-1.0) 1.0 nu then .error (.rayOutside .viewSunCosine)
  else .ok ()

/-- Checks the ranges of the parameters of several rays. -/
def checkAll (s : Shell α) (rays : Array (Ray α)) : Except (Failure α) Unit :=
  checkRanges s (rays.map Ray.r) (rays.map Ray.mu) (rays.map Ray.muS) (rays.map Ray.nu)

end Ray

end Airlight
