import Airlight.Spectrum
import Airlight.Tensor
import Airlight.Texture.Coordinate

/-!
# Sampled tables

A table is read at coordinates from 0 to 1, `u` along the width and `v` along the height. Between
the centres of four neighbouring texels the value is interpolated linearly in both directions;
beyond the outermost centres the nearest edge counts.
-/

namespace Airlight.Texture

open Scalar

/-- A table of `height` rows of `width` texels with `n` channels each. -/
structure Table (α : Type) (n : Nat) where
  height : Nat
  width : Nat
  texels : Vector (Vector α n) (height * width)

namespace Table

variable {α : Type} [Scalar α] {n : Nat}

/-- The texel in column `i` of row `j`. -/
@[inline] def texel? (t : Table α n) (j i : Nat) : Option (Vector α n) :=
  if i < t.width then t.texels[j * t.width + i]? else none

/-- The index of a whole coordinate, limited to `count` texels. An undefined coordinate has none. -/
@[inline] def edgeIndex? (x : α) (count : Nat) : Option Nat :=
  toNat? (clamp x 0.0 ((count : α) - 1.0))

/-- The four texel values weighted by the fractions `fx` and `fy`. -/
@[inline] def blend (a b c d fx fy : α) : α :=
  a * (1.0 - fx) * (1.0 - fy) + b * fx * (1.0 - fy) + c * (1.0 - fx) * fy + d * fx * fy

/-- The interpolated value at a coordinate. -/
@[specialize] def sample (t : Table α n) (u v : α) : Except (Failure α) (Vector α n) :=
  let x := u * (t.width : α) - 0.5
  let y := v * (t.height : α) - 0.5
  let x0 := floor x
  let y0 := floor y
  let fx := x - x0
  let fy := y - y0
  match edgeIndex? x0 t.width, edgeIndex? (x0 + 1.0) t.width,
      edgeIndex? y0 t.height, edgeIndex? (y0 + 1.0) t.height with
  | some i0, some i1, some j0, some j1 =>
    match t.texel? j0 i0, t.texel? j0 i1, t.texel? j1 i0, t.texel? j1 i1 with
    | some t00, some t01, some t10, some t11 =>
      .ok (Vector.ofFn fun k => blend t00[k] t01[k] t10[k] t11[k] fx fy)
    | _, _, _, _ => .error .index
  | _, _, _, _ => .error .index

/-- The interpolated values at arrays of coordinates. -/
def sampleAll [Inhabited α] (t : Table α n) (u v : Tensor α) :
    Except (Failure α) (Tensor (Vector α n)) := do
  Tensor.checkLookupAxes u.shape
  Tensor.checkLookupAxes v.shape
  Tensor.tryMap₂ t.sample u v

/-- The table whose texel in column `i` of row `j` is `f j i`, kept with the given rounding. -/
@[specialize] def ofFn (height width : Nat) (store : α → α) (f : Nat → Nat → Vector α n) :
    Table α n :=
  ⟨height, width, Vector.ofFn fun k => (f (k / width) (k % width)).map store⟩

/-- The table as an array of rows, columns and channels. -/
def toTensor [Inhabited α] (t : Table α n) : Tensor α :=
  Tensor.ofVectors [t.height, t.width] t.texels.toArray

end Table

/-- A table with any number of channels. -/
structure AnyTable (α : Type) where
  channels : Nat
  table : Table α channels

namespace AnyTable

variable {α : Type} [Scalar α]

/-- Reads a table from an array of rows, columns and channels, kept with the given rounding. -/
def ofTensor [Inhabited α] (store : α → α) (t : Tensor α) : Except (Failure α) (AnyTable α) :=
  match t.shape with
  | [height, width, n] => .ok ⟨n, Table.ofFn height width store fun j i =>
      Vector.ofFn fun c => t.data.getD ((j * width + i) * n + c) default⟩
  | shape => .error (.argument (.tableShape shape))

/-- The table, if its channels are those of a spectrum. -/
def spectral : AnyTable α → Except (Failure α) (Table α 4)
  | ⟨4, table⟩ => .ok table
  | ⟨n, _⟩ => .error (.argument (.tableChannels n))

end AnyTable

end Airlight.Texture
