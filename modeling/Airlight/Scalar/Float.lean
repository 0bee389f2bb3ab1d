import Airlight.Scalar.Basic
import Airlight.Scalar.Binary64

/-!
# Floats as scalars
-/

namespace Airlight

/-- The float nearest to a written number. Exponents that no float reaches are cut off first. -/
def Float.ofNumeral : Numeral → Float
  | .finite negative digits exponent =>
    let magnitude : Float :=
      if digits = 0 then 0.0
      else if 400 < exponent then 1.0 / 0.0
      else if exponent + (digits.log2 : Int) < -1200 then 0.0
      else Float.ofScientific digits (exponent < 0) exponent.natAbs
    if negative then -magnitude else magnitude
  | .infinite negative => if negative then -1.0 / 0.0 else 1.0 / 0.0
  | .undefined => 0.0 / 0.0

/-- The float nearest to an integer, unless that would be infinite. -/
def Float.ofInt? (n : Int) : Option Float :=
  let x := Float.ofInt n
  if x.isFinite then some x else none

/-- The natural number equal to a float, if there is one below `2 ^ 63`. -/
def Float.toNat? (x : Float) : Option Nat :=
  let n := x.toUInt64
  if n < 9223372036854775808 && n.toFloat == x then some n.toNat else none

/-- The integer equal to a float, if there is one. -/
def Float.toInt? (x : Float) : Option Int :=
  match Binary64.ofFloat? x with
  | none => none
  | some b =>
    let scale := Nat.pow 2 b.exponent.natAbs
    let size? := if 0 ≤ b.exponent then some (b.significand * scale)
      else if b.significand % scale = 0 then some (b.significand / scale)
      else none
    size?.map fun size => if b.negative then -(size : Int) else size

instance : Scalar Float where
  natCast n := if n < 9223372036854775808 then n.toUInt64.toFloat else Float.ofNat n
  sqrt := Float.sqrt
  exp := Float.exp
  cos := Float.cos
  pow := Float.pow
  pi := 3.141592653589793
  floor := Float.floor
  floorMod := Float.floorMod
  toNat? := Float.toNat?
  toInt? := Float.toInt?
  ofInt? := Float.ofInt?
  ofNumeral := Float.ofNumeral

end Airlight
