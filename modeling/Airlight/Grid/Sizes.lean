import Airlight.Document.Quantity
import Airlight.Grid.Extents

/-!
# Sizes of a grid as they were given

The sizes of a grid may be given as real numbers. The maps between rays and coordinates take them as
they are; for voxels they have to be whole, and then they are extents.
-/

namespace Airlight.Grid

/-- Four sizes that are large enough, the third of them even. -/
structure GridSizes (α : Type) where
  nu : Quantity α
  muS : Quantity α
  mu : Quantity α
  r : Quantity α

namespace GridSizes

variable {α : Type}

/-- The sizes of extents. -/
def ofExtents (e : Extents) : GridSizes α :=
  ⟨.whole e.nuSize, .whole e.muSSize, .whole e.muSize, .whole e.rSize⟩

variable [Scalar α]

/-- Sizes from four values. -/
def ofSizes (nu muS mu r : Value α) : Except (Failure α) (GridSizes α) := do
  if ← Value.anyBelow 2 [nu, muS, r] then throw (.argument (.gridSizes nu muS mu r))
  let size ← mu.quantity
  if size.isBelow 4 || !size.isEven then throw (.argument (.muSize mu))
  return ⟨← nu.quantity, ← muS.quantity, size, ← r.quantity⟩

/-- Sizes from the values that a document value lists. Those that are missing at its end are the
standard ones. -/
def ofValue (v : Value α) : Except (Failure α) (GridSizes α) := do
  let some sizes := v.listed? | throw .type
  if 4 < sizes.length then throw .type
  let size (i standard : Nat) : Value α := sizes.getD i (.integer standard)
  let e := Extents.standard
  ofSizes (size 0 e.nuSize) (size 1 e.muSSize) (size 2 e.muSize) (size 3 e.rSize)

/-- The extents of whole sizes. -/
def extents (s : GridSizes α) : Except (Failure α) Extents := do
  Extents.ofSizes (← s.nu.toInt) (← s.muS.toInt) (← s.mu.toInt) (← s.r.toInt)

def width (s : GridSizes α) : Except (Failure α) (Quantity α) := s.nu.mul s.muS

/-- The sizes of the grid from the slowest axis to the fastest. -/
def shape (s : GridSizes α) : Except (Failure α) (List (Quantity α)) :=
  return [s.r, s.mu, ← s.width]

/-- The number of voxels. -/
def voxelCount (s : GridSizes α) : Except (Failure α) (Quantity α) := do
  (← (← s.width).mul s.mu).mul s.r

/-- The blocks of a given size, which has to be positive. -/
def blocks (s : GridSizes α) (size : Value α) : Except (Failure α) (List Extents.Block) := do
  if ← size.isBelow 1 then throw (.argument (.blockSize size))
  let stop ← (← s.voxelCount).toInt
  let size ← (← size.quantity).toInt
  return Extents.blocksFrom 0 stop.toNat size.toNat

end GridSizes

end Airlight.Grid
