import Airlight.Scalar.Basic
import Airlight.Tensor

/-!
# Products of arrays

The matrix product of two arrays. The last two axes of each are those of a matrix, and matrices are
combined over the axes in front of them; an array with a single axis is a row on the left and a
column on the right, and loses that axis in the product.
-/

namespace Airlight.Tensor

variable {α φ : Type}

/-- The flat position of the indices of `k` in the reverse order of axes. -/
def mirrored (shape : List Nat) (k : Nat) : Nat :=
  shape.foldr (fun n (i : Nat × Nat) => (i.1 / n, i.2 * n + i.1 % n)) (k, 0) |>.2

/-- The array with its axes in reverse order. -/
def transposed [Inhabited α] (t : Tensor α) : Tensor α :=
  ofFn t.shape.reverse fun k => t.data.getD (mirrored t.shape.reverse k) default

/-- The axes of an array of matrices: those in front, and the numbers of rows and columns. A single
axis counts as the columns of one row. -/
def matrixAxes? : List Nat → Option (List Nat × Option Nat × Nat)
  | [] => none
  | shape =>
    match shape.reverse with
    | [columns] => some ([], none, columns)
    | columns :: rows :: outer => some (outer.reverse, some rows, columns)
    | [] => none

variable [Scalar α] [Inhabited α]

/-- The sum of `terms` products, the first one alone. -/
def sumOfProducts (a b : Nat → α) (terms : Nat) : α :=
  match terms with
  | 0 => 0.0
  | n + 1 => (List.range n).foldl (fun sum i => sum + a (i + 1) * b (i + 1)) (a 0 * b 0)

/-- The product of two arrays of matrices. -/
def product (a b : Tensor α) : Except (Failure φ) (Tensor α) := do
  match matrixAxes? a.shape, matrixAxes? b.shape with
  | some (aOuter, aRows, inner), some (bOuter, bRows, bColumns) =>
    let (height, rows) := (aRows.getD 1, aRows.toList)
    let (depth, width, columns) := match bRows with
      | none => (bColumns, 1, [])
      | some depth => (depth, bColumns, [bColumns])
    if inner ≠ depth then throw (.shapes .other)
    let outer ← joinShapes aOuter bOuter
    return ofFn (outer ++ rows ++ columns) fun k =>
      let (p, i, j) := (k / width / height, k / width % height, k % width)
      let matrix (own : List Nat) : Nat := sourceReversed own.reverse outer.reverse p
      let left := (matrix aOuter * height + i) * inner
      let right := matrix bOuter * depth * width + j
      sumOfProducts (fun l => a.data.getD (left + l) default)
        (fun l => b.data.getD (right + l * width) default) inner
  | _, _ => throw (.shapes .other)

/-- The first `count` positions along the last axis, or all if there are fewer; fails without an
axis. -/
def takeLast (t : Tensor α) (count : Nat) : Except (Failure φ) (Tensor α) :=
  match t.shape.reverse with
  | [] => .error .index
  | n :: outer =>
    let kept := min n count
    .ok (ofFn (outer.reverse ++ [kept]) fun k =>
      t.data.getD (k / kept * n + k % kept) default)

end Airlight.Tensor
