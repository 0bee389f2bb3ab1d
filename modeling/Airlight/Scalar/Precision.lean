import Airlight.Scalar.Binary64

/-!
# Storage precisions

A table keeps its values in one of three binary formats. Storing rounds to the nearest value of the
format, a half to the even neighbour, and to infinity beyond its range.
-/

namespace Airlight

/-- The formats in which a table can keep its values. -/
inductive Precision where
  | half
  | single
  | double
  deriving DecidableEq, Repr

namespace Precision

/-- The number of bytes that a value takes. -/
def bytes : Precision → Nat
  | half => 2
  | single => 4
  | double => 8

/-- The value that is read back after storing `x`. -/
def round : Precision → Float → Float
  | .double, x => x
  | .single, x => x.toFloat32.toFloat
  | .half, x =>
    match Binary64.ofFloat? x with
    | none => x
    | some b =>
      let stored := b.narrow 11 (-24)
      if stored.reaches 16 then (if b.negative then -1.0 / 0.0 else 1.0 / 0.0)
      else stored.toFloat

end Precision

end Airlight
