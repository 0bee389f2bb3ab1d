import Airlight.Decimal.Rounding

/-!
# Finite binary numbers

A finite `Float` is a sign and a natural number times a power of two. Exact work on floats (decimal
digits, remainders, narrower storage formats) is done on that form.
-/

namespace Airlight

/-- The finite number `± significand * 2 ^ exponent`. -/
structure Binary64 where
  negative : Bool
  significand : Nat
  exponent : Int
  deriving DecidableEq, Repr

namespace Binary64

/-- The sign, significand and exponent of a finite float; `none` for the other values. -/
def ofFloat? (x : Float) : Option Binary64 :=
  let bits := x.toBits.toNat
  let negative := bits / Nat.pow 2 63 == 1
  let biased : Nat := bits / Nat.pow 2 52 % 2048
  let fraction : Nat := bits % Nat.pow 2 52
  if biased = 2047 then none
  else if biased = 0 then some ⟨negative, fraction, -1074⟩
  else some ⟨negative, Nat.pow 2 52 + fraction, (biased : Int) - 1075⟩

/-- The float of a number that has one: its significand fits in 53 bits. -/
def toFloat (b : Binary64) : Float :=
  let x := Float.scaleB (Float.ofNat b.significand) b.exponent
  if b.negative then -x else x

/-- The significand and exponent after rounding to at most `precision` bits, where no bit may weigh
less than `2 ^ least`. -/
def narrow (b : Binary64) (precision : Nat) (least : Int) : Binary64 :=
  let width : Int := b.significand.log2 + 1
  let target := max (b.exponent + width - precision) least
  if target ≤ b.exponent then b
  else { b with
    significand := Decimal.roundDiv b.significand (Nat.pow 2 (target - b.exponent).toNat)
    exponent := target }

/-- Whether the magnitude is at least `2 ^ limit`. -/
def reaches (b : Binary64) (limit : Int) : Bool :=
  b.significand ≠ 0 && limit ≤ b.exponent + b.significand.log2

end Binary64

/-- The remainder of a division whose quotient is rounded down, taken exactly; it has the sign of
the divisor. -/
def Float.floorMod (x y : Float) : Float :=
  match Binary64.ofFloat? x, Binary64.ofFloat? y with
  | some a, some b =>
    if b.significand = 0 then x / y * y
    else
      let shift := min a.exponent b.exponent
      let aligned (c : Binary64) : Int :=
        let m : Int := (c.significand * Nat.pow 2 (c.exponent - shift).toNat : Nat)
        if c.negative then -m else m
      let r := (aligned a).fmod (aligned b)
      ((Binary64.mk (r < 0) r.natAbs shift).narrow 53 (-1074)).toFloat
  | some a, none =>
    if y.isNaN then y
    else if a.significand = 0 || a.negative == (y < 0) then x else y
  | none, _ => x - x

end Airlight
