import Airlight.Document.Quantity

/-!
# Grids as images

A grid of depth slices is stored as one image with the slices side by side: slice `d` of a grid that
is `w` wide occupies the columns from `d * w` on.
-/

namespace Airlight.Storage

variable {α φ : Type} [Inhabited α]

/-- The image of a grid of the given sizes. -/
def tile (depth height width channels : Nat) (data : Array α) : Tensor α :=
  Tensor.ofFn [height, depth * width, channels] fun k =>
    let c := k % channels
    let x := k / channels % (depth * width)
    let y := k / channels / (depth * width)
    data.getD (((x / width * height + y) * width + x % width) * channels + c) default

/-- The grid that an image shows as `depth` slices of the given sizes. -/
def untile (depth height width channels : Nat) (data : Array α) : Tensor α :=
  Tensor.ofFn [depth, height, width, channels] fun k =>
    let c := k % channels
    let x := k / channels % width
    let y := k / channels / width % height
    let d := k / channels / width / height
    data.getD ((y * (depth * width) + d * width + x) * channels + c) default

/-- The image of an array, which has to be a grid. -/
def tileTensor (t : Tensor α) : Except (Failure φ) (Tensor α) :=
  match t.shape with
  | [depth, height, width, channels] => .ok (tile depth height width channels t.data)
  | _ => .error (.shapes .other)

/-- The grid of an image that shows `depth` slices, if the width can be divided into them. An image
with values has room for them, however it is divided. -/
def untileTensor [Scalar α] (t : Tensor α) (depth : Value α) : Except (Failure α) (Tensor α) := do
  match t.shape with
  | [height, tiledWidth, channels] =>
    let slices ← depth.quantity
    if slices.isBelow 1 || !slices.divides tiledWidth then
      throw (.argument (.tiling tiledWidth depth))
    let slices := (← depth.axisLength).toNat
    let width := tiledWidth / slices
    if t.data.isEmpty then Tensor.checkRoom [height, slices, width, channels] 8
    return untile slices height width channels t.data
  | _ => throw (.shapes .other)

end Airlight.Storage
