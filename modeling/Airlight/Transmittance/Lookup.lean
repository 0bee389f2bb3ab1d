import Airlight.Transmittance.Table

/-!
# Transmittances of arrays of rays

The transmittance is tabulated, or it is the same everywhere. Both are asked for single rays,
through an oracle, and for arrays of rays that are combined position by position. A lookup takes
arrays of at most `Tensor.maxLookupAxes` axes; a table is looked up at all positions before anything
is combined.
-/

namespace Airlight

open Scalar Texture

/-- How much light survives. -/
inductive Transmittance (α : Type) where
  /-- The lookups of a table. -/
  | table (shell : SunlitShell α) (table : Table α 4)
  /-- The same transmittance everywhere. -/
  | constant (value : Spectrum α)

variable {α : Type} [Scalar α] [Inhabited α]

namespace Texture.Table

/-- The transmittances to the top of the atmosphere. -/
def toTopAll (t : Table α 4) (s : Shell α) (r mu : Tensor α) :
    Except (Failure α) (Tensor (Spectrum α)) := do
  Tensor.checkLookupAxes (← Tensor.joinShapes r.shape mu.shape)
  Tensor.tryMap₂ (t.toTop s) r mu

/-- Quotients of spectra, zero where the divisor is not positive. The channels count as an axis. -/
def ratios (a b : Tensor (Spectrum α)) : Except (Failure α) (Tensor (Spectrum α)) := do
  Tensor.checkLookupAxes (a.shape ++ [4])
  Tensor.checkLookupAxes (b.shape ++ [4])
  Tensor.map₂ (Spectrum.combine ratioOrZero) a b

/-- The transmittances up to some distances along rays. -/
def betweenAll (t : Table α 4) (s : Shell α) (r mu d : Tensor α) (ground : Tensor Bool) :
    Except (Failure α) (Tensor (Spectrum α)) := do
  let rD ← Tensor.map₃ (fun r mu d => s.clampRadius (Shell.radiusAlong r mu d)) r mu d
  let along ← Tensor.map₃ (fun r mu d => r * mu + d) r mu d
  let muD ← Tensor.map₂ (fun x rD => clampCosine (x / rD)) along rD
  let back ← ratios (← t.toTopAll s rD (muD.map (-·))) (← t.toTopAll s r (mu.map (-·)))
  let ahead ← ratios (← t.toTopAll s r mu) (← t.toTopAll s rD muD)
  Tensor.checkNewAxis ground.shape
  Tensor.map₃ (fun ground (back ahead : Spectrum α) =>
    (if ground then back else ahead).each (smaller · 1.0)) ground back ahead

/-- The transmittances to the sun. -/
def toSunAll (t : Table α 4) (s : SunlitShell α) (r muS : Tensor α) :
    Except (Failure α) (Tensor (Spectrum α)) := do
  let visible ← Tensor.map₂ (fun r muS => s.visiblePart (s.bottom / r) muS) r muS
  let top ← t.toTopAll s.toShell r muS
  Tensor.map₂ (fun top visible => top.each (· * visible)) top visible

end Texture.Table

namespace Transmittance

/-- The transmittance of a table in an atmosphere. -/
def ofTable {φ : Type} (a : Atmosphere φ α) (t : Table α 4) : Transmittance α := table a.sunlit t

/-- The same transmittance everywhere, given by one value for all channels or one for each. -/
def ofValues (values : Tensor α) : Except (Failure α) (Transmittance α) :=
  if Tensor.join? values.shape [4] = some [4] then
    .ok (constant (Vector.ofFn fun c => values.repeated [4] c))
  else .error (.shapes .other)

/-- The transmittance as single rays see it. -/
@[specialize] def oracle : Transmittance α → Oracle α
  | table s t => .ofTable s t
  | constant value => .constant value

/-- The texels of the table, if there is one. -/
def texels? : Transmittance α → Option (Tensor α)
  | table _ t => some t.toTensor
  | constant _ => none

/-- A value at all positions of the common sizes of several arrays. -/
def everywhere (value : Spectrum α) (shapes : List (List Nat)) :
    Except (Failure α) (Tensor (Spectrum α)) := do
  shapes.forM Tensor.checkLookupAxes
  return Tensor.ofFn (← Tensor.joinAll shapes) fun _ => value

/-- The transmittances to the top of the atmosphere. -/
def toTopAll (x : Transmittance α) (r mu : Tensor α) :
    Except (Failure α) (Tensor (Spectrum α)) :=
  match x with
  | table s t => t.toTopAll s.toShell r mu
  | constant value => everywhere value [r.shape, mu.shape]

/-- The transmittances up to some distances along rays. -/
def betweenAll (x : Transmittance α) (r mu d : Tensor α) (ground : Tensor Bool) :
    Except (Failure α) (Tensor (Spectrum α)) :=
  match x with
  | table s t => t.betweenAll s.toShell r mu d ground
  | constant value => everywhere value [r.shape, mu.shape, d.shape, ground.shape]

/-- The transmittances to the sun. -/
def toSunAll (x : Transmittance α) (r muS : Tensor α) :
    Except (Failure α) (Tensor (Spectrum α)) :=
  match x with
  | table s t => t.toSunAll s r muS
  | constant value => everywhere value [r.shape, muS.shape]

/-- The transmittances to the sun for radii as they are given: a table has none for a single radius
of zero. -/
def toSunFrom (x : Transmittance α) (r muS : Tensor α) :
    Except (Failure α) (Tensor (Spectrum α)) := do
  if let table s _ := x then
    if r.isSingle then let _ ← divide? s.bottom (r.repeated [] 0)
  x.toSunAll r muS

end Transmittance

end Airlight
