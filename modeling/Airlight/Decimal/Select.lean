import Airlight.Scalar.Binary64

/-!
# Decimal digits of binary numbers

`leading` gives a fixed number of correctly rounded digits. `shortest` gives the fewest digits that
identify a number among all floats. Both work on exact natural numbers.
-/

namespace Airlight.Decimal

/-- The digits `d₀d₁d₂…` of the decimal `d₀.d₁d₂… * 10 ^ scale`; the digits are written as one
natural number with `count` places. -/
structure Digits where
  digits : Nat
  count : Nat
  scale : Int
  deriving DecidableEq, Repr

/-- Numerator and denominator of `m * 2 ^ q / 10 ^ p`. -/
def ratio (m : Nat) (q p : Int) : Nat × Nat :=
  (m * Nat.pow 2 q.toNat * Nat.pow 10 (-p).toNat, Nat.pow 2 (-q).toNat * Nat.pow 10 p.toNat)

/-- Whether `10 ^ p ≤ m * 2 ^ q`. -/
def reachesPower (m : Nat) (q p : Int) : Bool :=
  let (num, den) := ratio m q p
  den ≤ num

/-- The decimal exponent of the leading digit of `m * 2 ^ q`, for `m ≠ 0`. The binary logarithm
gives it up to one. -/
def scale (m : Nat) (q : Int) : Int :=
  let guess := (((m.log2 : Int) + q) * 30103).fdiv 100000
  if reachesPower m q (guess + 1) then guess + 1
  else if reachesPower m q guess then guess
  else guess - 1

/-- The number rounded to `count` significant digits. -/
def leading (b : Binary64) (count : Nat) : Digits :=
  if b.significand = 0 then ⟨0, count, 0⟩
  else
    let k := scale b.significand b.exponent
    let (num, den) := ratio b.significand b.exponent (k - count + 1)
    let d := roundDiv num den
    if d = Nat.pow 10 count then ⟨Nat.pow 10 (count - 1), count, k + 1⟩ else ⟨d, count, k⟩

/-- The number times `10 ^ places`, rounded to an integer. -/
def fixed (b : Binary64) (places : Nat) : Nat :=
  let (num, den) := ratio b.significand b.exponent (-(places : Int))
  roundDiv num den

/-- Whether the decimal `d * 10 ^ p` lies among the reals that round to the binary number: at most
half a unit in the last place away, where the unit below a power of two is half as large, and the
ends count exactly when the significand is even. -/
def readsBack (b : Binary64) (d : Nat) (p : Int) : Bool :=
  let m := b.significand
  let below := if m = Nat.pow 2 52 && b.exponent ≠ -1074 then 4 * m - 1 else 4 * m - 2
  let above := 4 * m + 2
  let q := b.exponent - 2
  let left := d * Nat.pow 10 p.toNat * Nat.pow 2 (-q).toNat
  let weigh (n : Nat) := n * Nat.pow 2 q.toNat * Nat.pow 10 (-p).toNat
  if m % 2 = 0 then weigh below ≤ left && left ≤ weigh above
  else weigh below < left && left < weigh above

/-- The closest decimal with `count` digits that reads back, if there is one. -/
def atCount? (b : Binary64) (k : Int) (count : Nat) : Option (Nat × Int) :=
  let p := k - count + 1
  let (num, den) := ratio b.significand b.exponent p
  let lower := num / den
  let twice := 2 * (num % den)
  let low := readsBack b lower p
  let high := readsBack b (lower + 1) p
  if low && (!high || twice < den || (twice = den && lower % 2 = 0)) then some (lower, p)
  else if high then some (lower + 1, p)
  else none

/-- Moves trailing zeros into the exponent, at most `fuel` of them. -/
def strip : Nat → Nat → Int → Nat × Int
  | 0, d, p => (d, p)
  | fuel + 1, d, p => if d ≠ 0 ∧ d % 10 = 0 then strip fuel (d / 10) (p + 1) else (d, p)

/-- The number of decimal places of a natural number. -/
def places (n : Nat) : Nat := (Nat.toDigits 10 n).length

/-- The fewest digits that read back; of several such decimals the closest. -/
def shortest (b : Binary64) : Digits :=
  if b.significand = 0 then ⟨0, 1, 0⟩
  else
    let k := scale b.significand b.exponent
    let (d, p) := ((List.range' 1 17).findSome? (atCount? b k)).getD
      (b.significand * Nat.pow 2 b.exponent.toNat * Nat.pow 5 (-b.exponent).toNat, min b.exponent 0)
    let (d, p) := strip (places d) d p
    ⟨d, places d, p + places d - 1⟩

end Airlight.Decimal
