import Airlight.Atmosphere.Parameters
import Airlight.Texture.Table
import Airlight.Transmittance.OpticalDepth
import Airlight.Transmittance.TableMap

/-!
# The transmittance table

A table of the transmittance from every point and direction to the top of the atmosphere, and the
lookups it serves: the light that survives up to the top, between two points of a ray, and from the
sun.
-/

namespace Airlight

open Scalar Texture

variable {α : Type} [Scalar α]

namespace Atmosphere

/-- The transmittance at the centre of the texel in column `i` of row `j`, in a table of given width
and height. -/
@[specialize] def texelTransmittance {φ : Type} (a : Atmosphere φ α) (air : Constituents α)
    (width height : α) (count : Int) (j i : Nat) : Spectrum α :=
  let u := ((i : α) + 0.5) / width
  let v := ((j : α) + 0.5) / height
  a.transmittanceToTop air count (a.shell.tableRadius height v)
    (a.shell.tableCosine width height u v)

end Atmosphere

/-- Checks the sizes of a table: it needs two texels each way and a positive sample count. -/
def checkTableSizes (width height count : Value α) : Except (Failure α) Unit := do
  if ← Value.anyBelow 2 [width, height] then
    throw (.argument (.tableSize width height))
  if ← count.isBelow 1 then throw (.argument (.sampleCount count))

namespace Parameters

/-- The transmittance at all texel centres of a table. The sizes are checked before the layers are
read, and need not be whole. Arrays of coefficients are combined with the rows and columns. -/
@[specialize] def transmittanceTexels [Inhabited α] (p : Parameters α)
    (width height count : Value α) : Except (Failure α) (Tensor α) := do
  checkTableSizes width height count
  let rows ← (← height.quantity).positions
  Tensor.checkRoom [rows] 8
  let columns ← (← width.quantity).positions
  Tensor.checkRoom [columns] 8
  Tensor.checkRoom [rows, columns] 8
  let w ← width.operandOrFail
  let h ← height.operandOrFail
  let count ← count.intervals [rows, columns]
  let air ← p.constituents [rows, columns]
  let texels ← Tensor.map₂ (fun air (j, i) => p.texelTransmittance air w h count j i) air
    (Tensor.ofFn [rows, columns] fun k => (k / columns, k % columns))
  return texels.components

/-- Computes the transmittance table, kept with the given rounding. -/
@[specialize] def transmittanceTable [Inhabited α] (p : Parameters α) (store : α → α)
    (width height count : Value α) : Except (Failure α) (Table α 4) := do
  (← AnyTable.ofTensor store (← p.transmittanceTexels width height count)).spectral

end Parameters

/-- What a lookup in a transmittance table depends on besides the table. -/
structure SunlitShell (α : Type) extends Shell α where
  sunAngularRadius : α

namespace Atmosphere

/-- The shell and the size of the sun. -/
def sunlit {φ : Type} (a : Atmosphere φ α) : SunlitShell α :=
  { toShell := a.shell, sunAngularRadius := a.sunAngularRadius }

end Atmosphere

namespace SunlitShell

/-- The part of the sun disc above the horizon, for an observer whose horizon has the sine
`sine`. -/
@[specialize] def visiblePart (s : SunlitShell α) (sine muS : α) : α :=
  let cosine := -safeSqrt (1.0 - sine * sine)
  smoothstep (-sine * s.sunAngularRadius) (sine * s.sunAngularRadius) (muS - cosine)

end SunlitShell

/-- A quotient, zero where the divisor is not positive. -/
@[inline] def ratioOrZero (a b : α) : α := if 0.0 < b then a / b else 0.0

namespace Texture.Table

/-- The transmittance to the top of the atmosphere. -/
@[specialize] def toTop (t : Table α 4) (s : Shell α) (r mu : α) :
    Except (Failure α) (Spectrum α) :=
  t.sample (s.tableU (t.width : α) r mu) (s.tableV (t.height : α) r)

/-- The transmittance up to distance `d` along a ray, as a quotient of two lookups. Rays that hit
the ground are looked up in the opposite direction. The lookups in both directions have to
succeed. -/
@[specialize] def between (t : Table α 4) (s : Shell α) (r mu d : α) (ground : Bool) :
    Except (Failure α) (Spectrum α) := do
  let rD := s.clampRadius (Shell.radiusAlong r mu d)
  let muD := clampCosine ((r * mu + d) / rD)
  let farBack ← t.toTop s rD (-muD)
  let nearBack ← t.toTop s r (-mu)
  let near ← t.toTop s r mu
  let far ← t.toTop s rD muD
  let (whole, rest) := if ground then (farBack, nearBack) else (near, far)
  return Spectrum.combine (fun a b => smaller (ratioOrZero a b) 1.0) whole rest

/-- The transmittance to the sun, weakened by the part of its disc below the horizon. -/
@[specialize] def toSun (t : Table α 4) (s : SunlitShell α) (r muS : α) :
    Except (Failure α) (Spectrum α) := do
  let visible := s.visiblePart (s.bottom / r) muS
  let top ← t.toTop s.toShell r muS
  return top.each (· * visible)

end Texture.Table

/-- What a scattering integral asks about transmittance. -/
structure Oracle (α : Type) where
  /-- The transmittance to the top of the atmosphere from a radius in a direction. -/
  toTop : (r mu : α) → Except (Failure α) (Spectrum α)
  /-- The transmittance up to a distance along a ray. -/
  between : (r mu d : α) → (ground : Bool) → Except (Failure α) (Spectrum α)
  /-- The transmittance to the sun. -/
  toSun : (r muS : α) → Except (Failure α) (Spectrum α)

namespace Oracle

/-- The lookups of a table. -/
@[specialize] def ofTable (s : SunlitShell α) (t : Table α 4) : Oracle α where
  toTop := t.toTop s.toShell
  between := t.between s.toShell
  toSun := t.toSun s

/-- The same transmittance everywhere. -/
def constant (value : Spectrum α) : Oracle α where
  toTop _ _ := .ok value
  between _ _ _ _ := .ok value
  toSun _ _ := .ok value

end Oracle

end Airlight
