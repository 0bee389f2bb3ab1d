import Airlight.Shell
import Airlight.Texture.Coordinate

/-!
# Coordinates in the transmittance table

The table is indexed by the view cosine along its width and by the radius along its height: `u`
follows the distance to the top of the atmosphere between its extremes at that radius, `v` the
distance to the horizon.
-/

namespace Airlight.Shell

open Scalar Texture

variable {α : Type} [Scalar α]

/-- The coordinate of a view cosine in a table `width` texels wide. -/
@[specialize] def tableU (s : Shell α) (width r mu : α) : α :=
  let rho := safeSqrt (r * r - s.bottom * s.bottom)
  let dMin := s.top - r
  let dMax := rho + s.horizonLength
  coordOfUnit ((s.distanceToTop r mu - dMin) / (dMax - dMin)) width

/-- The coordinate of a radius in a table `height` texels high. -/
@[specialize] def tableV (s : Shell α) (height r : α) : α :=
  coordOfUnit (safeSqrt (r * r - s.bottom * s.bottom) / s.horizonLength) height

/-- The distance to the horizon at a coordinate. -/
@[inline] def tableRho (s : Shell α) (height v : α) : α := s.horizonLength * unitOfCoord v height

/-- The radius at a coordinate. -/
@[specialize] def tableRadius (s : Shell α) (height v : α) : α :=
  let rho := s.tableRho height v
  sqrt (rho * rho + s.bottom * s.bottom)

/-- The view cosine at two coordinates. -/
@[specialize] def tableCosine (s : Shell α) (width height u v : α) : α :=
  let h := s.horizonLength
  let rho := s.tableRho height v
  let r := s.tableRadius height v
  let dMin := s.top - r
  let dMax := rho + h
  let d := dMin + unitOfCoord u width * (dMax - dMin)
  clampCosine (if same d 0.0 then 1.0 else (h * h - rho * rho - d * d) / (2.0 * r * d))

end Airlight.Shell
