import Airlight.Scalar.Basic

/-!
# Rays in a spherical shell

An atmosphere fills the shell between the ground and an outer sphere. A ray is given by the radius
`r` of its origin and the cosine `mu` of its angle with the upward direction.
-/

namespace Airlight

open Scalar

variable {α : Type} [Scalar α]

/-- Limits a cosine to the range of cosines. -/
@[inline] def clampCosine (mu : α) : α := clamp mu (-1.0) 1.0

/-- Replaces a negative distance by zero. -/
@[inline] def clampDistance (d : α) : α := larger d 0.0

/-- The square root, zero for negative numbers. -/
@[inline] def safeSqrt (a : α) : α := sqrt (larger a 0.0)

/-- The cubic that rises smoothly from 0 at `edge0` to 1 at `edge1`; a step when the edges meet. -/
@[specialize] def smoothstep (edge0 edge1 x : α) : α :=
  let width := edge1 - edge0
  if 0.0 < width then
    let t := clamp ((x - edge0) / width) 0.0 1.0
    t * t * (3.0 - 2.0 * t)
  else if edge0 ≤ x then 1.0 else 0.0

/-- The radii of the ground and of the top of the atmosphere. -/
structure Shell (α : Type) where
  bottom : α
  top : α
  deriving Inhabited

namespace Shell

/-- Limits a radius to the shell. -/
@[inline] def clampRadius (s : Shell α) (r : α) : α := clamp r s.bottom s.top

/-- The distance along a ray to the top of the atmosphere. -/
@[specialize] def distanceToTop (s : Shell α) (r mu : α) : α :=
  clampDistance (-r * mu + safeSqrt (r * r * (mu * mu - 1.0) + s.top * s.top))

/-- The distance along a ray to the ground. -/
@[specialize] def distanceToBottom (s : Shell α) (r mu : α) : α :=
  clampDistance (-r * mu - safeSqrt (r * r * (mu * mu - 1.0) + s.bottom * s.bottom))

/-- Whether a ray hits the ground: it points downwards and meets the ground sphere. -/
@[specialize] def meetsGround (s : Shell α) (r mu : α) : Bool :=
  decide (mu < 0.0) && decide (0.0 ≤ r * r * (mu * mu - 1.0) + s.bottom * s.bottom)

/-- The distance to the ground if the ray hits it, otherwise to the top of the atmosphere. -/
@[specialize] def distanceToNearest (s : Shell α) (r mu : α) (ground : Bool) : α :=
  if ground then s.distanceToBottom r mu else s.distanceToTop r mu

/-- The radius of the point at distance `d` along a ray. -/
@[specialize] def radiusAlong (r mu d : α) : α :=
  sqrt (d * d + 2.0 * r * mu * d + r * r)

/-- The length of the tangent from the top of the atmosphere to the ground. -/
@[specialize] def horizonLength (s : Shell α) : α :=
  sqrt (s.top * s.top - s.bottom * s.bottom)

end Shell

end Airlight
