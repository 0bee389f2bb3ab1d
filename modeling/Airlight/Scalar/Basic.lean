import Airlight.Decimal.Numeral

/-!
# Numbers

`Scalar` lists what the radiometric formulas ask of a number. The formulas are written once over it:
they run on `Float` and can be read over any other number type with these operations. Nothing here
assumes a law. A comparison with an undefined value is false, and `larger`, `smaller` and `clamp`
pass an undefined operand on.
-/

namespace Airlight

/-- The operations that the radiometric formulas ask of a number. -/
class Scalar (α : Type) extends
    Add α, Sub α, Mul α, Div α, Neg α, LT α, LE α, NatCast α, OfScientific α where
  [decidableLT : DecidableLT α]
  [decidableLE : DecidableLE α]
  sqrt : α → α
  exp : α → α
  cos : α → α
  pow : α → α → α
  pi : α
  /-- The greatest whole number that is not larger. -/
  floor : α → α
  /-- What is left after taking away the divisor as often as `floor` of the quotient says. -/
  floorMod : α → α → α
  /-- The natural number equal to a whole value that is not negative. -/
  toNat? : α → Option Nat
  /-- The integer equal to a whole value. -/
  toInt? : α → Option Int
  /-- The value of an integer, unless it lies outside the range of the type. -/
  ofInt? : Int → Option α
  ofNumeral : Numeral → α

attribute [reducible, instance] Scalar.decidableLT Scalar.decidableLE

namespace Scalar

variable {α : Type} [Scalar α]

/-- The larger of two numbers; an undefined operand is passed on. -/
@[inline] def larger (a b : α) : α := if b ≤ a ∨ ¬ a ≤ a then a else b

/-- The smaller of two numbers; an undefined operand is passed on. -/
@[inline] def smaller (a b : α) : α := if a ≤ b ∨ ¬ a ≤ a then a else b

/-- Limits `x` from below by `lo`, then from above by `hi`. -/
@[inline] def clamp (x lo hi : α) : α := smaller (larger x lo) hi

/-- Whether two numbers are equal; an undefined value equals nothing. -/
@[inline] def same (a b : α) : Bool := decide (a ≤ b) && decide (b ≤ a)

/-- Whether a number is defined and finite: taking it from itself leaves a defined value. -/
@[inline] def isFinite (a : α) : Bool := decide (a - a ≤ a - a)

/-- The value of an integer. -/
@[inline] def ofInt (n : Int) : α :=
  match n with
  | .ofNat k => (k : α)
  | .negSucc k => -((k + 1 : Nat) : α)

end Scalar

end Airlight
