import Airlight.Decimal.Select

/-!
# Written forms of floats

Four layouts of selected digits: the identifying form of messages, a set number of places, a set
number of significant digits, and the scientific form.
-/

namespace Airlight.Decimal

/-- The word for a float that is not finite. -/
def specialWord (x : Float) : String :=
  if x.isNaN then "nan" else if x < 0.0 then "-inf" else "inf"

/-- Pads on the left with zeros to a width. -/
def padLeft (width : Nat) (cs : List Char) : List Char :=
  List.replicate (width - cs.length) '0' ++ cs

/-- The digits of a natural number, padded to a width. -/
def digitChars (width n : Nat) : List Char := padLeft width (Nat.toDigits 10 n)

/-- An exponent: the mark, a sign and at least two digits. -/
def exponentChars (e : Int) : List Char :=
  'e' :: (if e < 0 then '-' else '+') :: digitChars 2 e.natAbs

/-- The digits with a point after the first, and an exponent. -/
def scientificChars (ds : List Char) (e : Int) : List Char :=
  match ds with
  | [] => exponentChars e
  | [d] => d :: exponentChars e
  | d :: rest => d :: '.' :: rest ++ exponentChars e

/-- The digits with the point where the exponent `e` of the leading digit puts it. A whole number
gets the fraction `wholeFraction`. -/
def positionalChars (ds : List Char) (e : Int) (wholeFraction : List Char) : List Char :=
  if e < 0 then '0' :: '.' :: List.replicate ((-e).toNat - 1) '0' ++ ds
  else
    let before := e.toNat + 1
    if ds.length ≤ before then
      ds ++ List.replicate (before - ds.length) '0' ++ wholeFraction
    else ds.take before ++ '.' :: ds.drop before

/-- Writes the sign in front of a magnitude. -/
def signed (negative : Bool) (cs : List Char) : String :=
  String.ofList (if negative then '-' :: cs else cs)

/-- The form of messages: the fewest digits that identify the float, positional from `10 ^ -4` up to
below `10 ^ 16`, with a fraction also for whole values. -/
def identifying (x : Float) : String :=
  match Binary64.ofFloat? x with
  | none => specialWord x
  | some b =>
    let d := shortest b
    let ds := digitChars d.count d.digits
    signed b.negative <|
      if -4 ≤ d.scale ∧ d.scale < 16 then positionalChars ds d.scale ['.', '0']
      else scientificChars ds d.scale

/-- A set number of places after the point. -/
def withPlaces (places : Nat) (x : Float) : String :=
  match Binary64.ofFloat? x with
  | none => specialWord x
  | some b =>
    let ds := digitChars (places + 1) (fixed b places)
    let whole := ds.length - places
    signed b.negative (if places = 0 then ds else ds.take whole ++ '.' :: ds.drop whole)

/-- At most `count` significant digits without trailing zeros, positional from `10 ^ -4` up to below
`10 ^ count`. -/
def withSignificant (count : Nat) (x : Float) : String :=
  match Binary64.ofFloat? x with
  | none => specialWord x
  | some b =>
    let d := leading b count
    let ds := ((digitChars d.count d.digits).reverse.dropWhile (· = '0')).reverse
    let ds := if ds.isEmpty then ['0'] else ds
    signed b.negative <|
      if -4 ≤ d.scale ∧ d.scale < count then positionalChars ds d.scale []
      else scientificChars ds d.scale

/-- Scientific form with `places` digits after the point. Zero has no sign. -/
def scientific (places : Nat) (x : Float) : String :=
  match Binary64.ofFloat? x with
  | none => specialWord x
  | some b =>
    let d := leading b (places + 1)
    signed (b.negative && b.significand ≠ 0) (scientificChars (digitChars d.count d.digits) d.scale)

end Airlight.Decimal
