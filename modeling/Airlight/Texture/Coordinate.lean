import Airlight.Document.Quantity

/-!
# Texel coordinates

A table of `size` texels stores the range from 0 to 1 between the centres of its first and last
texel, so that no lookup in that range leaves the centres.
-/

namespace Airlight.Texture

open Scalar

variable {α : Type} [Scalar α]

/-- The coordinate of `x`: 0 falls on the first texel centre and 1 on the last. -/
@[inline] def coordOfUnit (x size : α) : α := 0.5 / size + x * (1.0 - 1.0 / size)

/-- The value stored at a coordinate. -/
@[inline] def unitOfCoord (u size : α) : α := (u - 0.5 / size) / (1.0 - 1.0 / size)

/-- The size of a table as a number, for coordinates that are to be decoded. A table of one texel
stores a single value, so there is no range in which a single coordinate could be decoded; those of
an array become undefined. -/
def spanNumber (u : Tensor α) (size : Value α) : Except (Failure α) α := do
  let n ← size.divisor
  if u.isSingle && same (1.0 - 1.0 / n) (0.0 : α) then throw .divisionByZero
  return n

end Airlight.Texture
