import Airlight.Document.Quantity

/-!
# Write-once grids

A grid has one cell for each voxel `(x, y, z)`; the cells are kept in row-major order, `x` running
fastest. A cell is empty until it is written and is written at most once. A block of voxels is
written as a whole or not at all.
-/

namespace Airlight.Texture

/-- Integer coordinates of a cell, which may lie outside a grid. -/
structure Voxel where
  x : Int
  y : Int
  z : Int
  deriving DecidableEq, Repr, Inhabited

namespace Voxel

/-- The coordinates of a voxel. -/
def coordinates (v : Voxel) : Vector Int 3 := #v[v.x, v.y, v.z]

/-- The voxels whose coordinates run along the last axis of an array. Surplus coordinates do not
count. -/
def ofTensor {φ : Type} (t : Tensor Int) : Except (Failure φ) (Tensor Voxel) := do
  let t ← t.indices
  match t.shape.reverse with
  | [] => throw .index
  | n :: outer =>
    if n < 3 then throw .index
    let coordinate (k c : Nat) : Int := t.data.getD (k * n + c) 0
    return Tensor.ofFn outer.reverse fun k => ⟨coordinate k 0, coordinate k 1, coordinate k 2⟩

end Voxel

/-- The sizes of a grid. -/
structure GridShape where
  depth : Nat
  height : Nat
  width : Nat
  deriving DecidableEq, Repr

namespace GridShape

/-- The number of cells. -/
def count (s : GridShape) : Nat := s.depth * s.height * s.width

/-- The sizes from the slowest axis to the fastest. -/
def sizes (s : GridShape) : List Nat := [s.depth, s.height, s.width]

/-- The sizes of a grid that a value lists, and a number of channels. All of them have to be whole,
and none may be negative. -/
def ofValues {α : Type} [Scalar α] (sizes channels : Value α) :
    Except (Failure α) (GridShape × Nat) := do
  let some sizes := sizes.listed? | throw .type
  if sizes.length ≠ 3 then throw (.shapes .other)
  let numbers ← (sizes ++ [channels]).mapM (·.axisLength)
  match numbers with
  | [depth, height, width, n] =>
    if numbers.any (· < 0) then throw (.shapes .other)
    return (⟨depth.toNat, height.toNat, width.toNat⟩, n.toNat)
  | _ => throw (.shapes .other)

/-- Whether a voxel lies in the grid. -/
def contains (s : GridShape) (v : Voxel) : Bool :=
  0 ≤ v.x && v.x < s.width && 0 ≤ v.y && v.y < s.height && 0 ≤ v.z && v.z < s.depth

/-- The position of a voxel in row-major order. -/
def position (s : GridShape) (v : Voxel) : Nat :=
  (v.z.toNat * s.height + v.y.toNat) * s.width + v.x.toNat

end GridShape

/-- A grid of cells with `n` channels, each of which holds a value once it has been written. -/
structure VoxelGrid (α : Type) (n : Nat) where
  shape : GridShape
  cells : Vector (Option (Vector α n)) shape.count

namespace VoxelGrid

variable {α : Type} {n : Nat}

/-- The grid in which nothing has been written. -/
def empty (shape : GridShape) : VoxelGrid α n := ⟨shape, Vector.replicate _ none⟩

/-- The grid in which nothing has been written, if there is room for values of some bytes each. -/
def make {φ : Type} (shape : GridShape) (bytes : Nat) : Except (Failure φ) (VoxelGrid α n) := do
  Tensor.checkRoom (shape.sizes ++ [n]) bytes
  return empty shape

/-- What has been written at a voxel. -/
def read (g : VoxelGrid α n) (v : Voxel) : Option (Vector α n) :=
  if g.shape.contains v then (g.cells[g.shape.position v]?).join else none

/-- The number of written cells. -/
def writtenCount (g : VoxelGrid α n) : Nat := g.cells.toArray.countP Option.isSome

/-- Whether every cell has been written. -/
def isComplete (g : VoxelGrid α n) : Bool := g.cells.all Option.isSome

/-- Why a block of voxels cannot be written: one lies outside, or one has been written before. -/
def refusal? {φ : Type} (g : VoxelGrid α n) (voxels : List Voxel) : Option (Failure φ) :=
  if voxels.all g.shape.contains then
    if voxels.any fun v => (g.read v).isSome then some .writtenTwice else none
  else some (.voxelOutside g.shape.width g.shape.height g.shape.depth)

/-- Puts values into cells one after another, so the last value for a voxel stays. -/
def fillCells (shape : GridShape) (store : α → α) :
    List (Voxel × Vector α n) → Vector (Option (Vector α n)) shape.count →
      Vector (Option (Vector α n)) shape.count
  | [], cells => cells
  | (v, value) :: rest, cells =>
    fillCells shape store rest
      (cells.setIfInBounds (shape.position v) (some (value.map store)))

/-- Puts values into the grid, kept with the given rounding. -/
def fill (g : VoxelGrid α n) (store : α → α) (entries : List (Voxel × Vector α n)) :
    VoxelGrid α n :=
  ⟨g.shape, fillCells g.shape store entries g.cells⟩

/-- Writes a block of voxels with their values, kept with the given rounding. -/
def write {φ : Type} (g : VoxelGrid α n) (store : α → α) (entries : List (Voxel × Vector α n)) :
    Except (Failure φ) (VoxelGrid α n) :=
  match g.refusal? (entries.map Prod.fst) with
  | some failure => .error failure
  | none => .ok (g.fill store entries)

/-- Writes an array of voxels with values that are repeated over the voxels and over the channels.
The voxels are checked before the values. -/
def writeArray {φ : Type} [Inhabited α] (g : VoxelGrid α n) (store : α → α)
    (voxels : Tensor Voxel) (values : Tensor α) : Except (Failure φ) (VoxelGrid α n) :=
  match g.refusal? voxels.data.toList with
  | some failure => .error failure
  | none =>
    match values.fitTo? (voxels.shape ++ [n]) with
    | some t =>
      g.write store <| voxels.data.toList.zipIdx.map fun (v, i) =>
        (v, Vector.ofFn fun c => t.data.getD (i * n + c) default)
    | none => .error (.shapes .other)

/-- Writes the voxel with given coordinates, of which there have to be three, with values that are
repeated over the channels. -/
def writeAt {φ : Type} [Inhabited α] (g : VoxelGrid α n) (store : α → α)
    (coordinates : Tensor Int) (values : Tensor α) : Except (Failure φ) (VoxelGrid α n) := do
  match (← coordinates.indices).data.toList with
  | [x, y, z] =>
    let row : Tensor α := .ofFn [1, values.data.size] fun k => values.data.getD k default
    g.writeArray store (.row [⟨x, y, z⟩]) row
  | _ => throw (.shapes .other)

/-- All cells in order, zeros where nothing has been written. -/
def toTensor [Scalar α] [Inhabited α] (g : VoxelGrid α n) : Tensor α :=
  Tensor.ofVectors g.shape.sizes
    (g.cells.toArray.map fun cell => cell.getD (Vector.replicate n 0.0))

end VoxelGrid

end Airlight.Texture
