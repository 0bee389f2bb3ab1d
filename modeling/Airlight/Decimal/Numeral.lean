import Airlight.Text.Blank
import Airlight.Text.DecimalDigit

/-!
# Written numbers

A `Numeral` is a number as a document spells it. `Numeral.read?` accepts the free form in which a
text field gives a number, `readInteger?` the free form of a whole number.
-/

namespace Airlight

/-- A number as it is written: a sign, digits and a power of ten, or one of the special values. -/
inductive Numeral where
  | finite (negative : Bool) (digits : Nat) (exponent : Int)
  | infinite (negative : Bool)
  | undefined
  deriving DecidableEq, Repr

namespace Numeral

/-- Removes blanks at both ends. -/
def strip (cs : List Char) : List Char :=
  ((cs.dropWhile Text.isBlank).reverse.dropWhile Text.isBlank).reverse

/-- Splits off a leading sign; the flag says whether it was a minus. -/
def sign : List Char → Bool × List Char
  | '-' :: cs => (true, cs)
  | '+' :: cs => (false, cs)
  | cs => (false, cs)

/-- A run of digits in which single underscores may stand between two digits. The result is the
value of the run, its length in digits and what follows it; `none` when no digit comes first. -/
def digitRun? (cs : List Char) : Option (Nat × Nat × List Char) :=
  match cs with
  | [] => none
  | c :: rest => (Text.digitValue? c).map fun d => more d 1 rest
where
  more (value count : Nat) : List Char → Nat × Nat × List Char
    | [] => (value, count, [])
    | '_' :: c :: rest =>
      match Text.digitValue? c with
      | some d => more (10 * value + d) (count + 1) rest
      | none => (value, count, '_' :: c :: rest)
    | c :: rest =>
      match Text.digitValue? c with
      | some d => more (10 * value + d) (count + 1) rest
      | none => (value, count, c :: rest)

/-- An exponent part that ends the text; no exponent part counts as zero. -/
def exponent? : List Char → Option Int
  | [] => some 0
  | c :: cs =>
    if c = 'e' ∨ c = 'E' then
      let (negative, rest) := sign cs
      match digitRun? rest with
      | some (value, _, []) => some (if negative then -(value : Int) else value)
      | _ => none
    else none

/-- Digits, an optional fraction and an optional exponent. At least one digit has to stand before or
after the point. -/
def decimal? (negative : Bool) (cs : List Char) : Option Numeral :=
  match digitRun? cs with
  | some (whole, _, '.' :: rest) =>
    match digitRun? rest with
    | some (fraction, places, rest) =>
      (exponent? rest).map fun e =>
        finite negative (whole * Nat.pow 10 places + fraction) (e - places)
    | none => (exponent? rest).map fun e => finite negative whole e
  | some (whole, _, rest) => (exponent? rest).map fun e => finite negative whole e
  | none =>
    match cs with
    | '.' :: rest =>
      match digitRun? rest with
      | some (fraction, places, rest) =>
        (exponent? rest).map fun e => finite negative fraction (e - places)
      | none => none
    | _ => none

/-- Reads a number in free form: blanks around it, a sign, digits with underscores between them, a
fraction, an exponent, or one of the words for infinity and for an undefined value in any case. -/
def read? (text : String) : Option Numeral :=
  let (negative, body) := sign (strip text.toList)
  let word := String.ofList (body.map Char.toLower)
  if word = "inf" ∨ word = "infinity" then some (infinite negative)
  else if word = "nan" then some undefined
  else decimal? negative body

/-- The largest number of digits with which a whole number is read or shown. -/
def maxDigits : Nat := 4300

/-- Reads a whole number in free form: blanks around it, a sign, digits with underscores between
them, of which there must not be too many. -/
def readInteger? (text : String) : Option Int :=
  let (negative, body) := sign (strip text.toList)
  match digitRun? body with
  | some (value, count, []) =>
    if count ≤ maxDigits then some (if negative then -(value : Int) else value) else none
  | _ => none

end Numeral

end Airlight
