import Airlight.Text.Basic

/-!
# Misspellings

Why a text that has the form of a value names none.
-/

namespace Airlight

/-- What is wrong with a text that has the form of a value. -/
inductive Misspelling where
  /-- It does not spell a number. -/
  | number
  /-- A fractional number that is none. -/
  | fraction (text : Text)
  /-- A whole number in a base that is none. -/
  | digits (base : Nat) (text : Text)
  /-- A whole number with too many digits, as many as are given where they were written. -/
  | tooLong (digits : Option Nat)
  | year (value : Nat)
  | month
  | day
  | hour
  | minute
  | second
  /-- A clock that is a day or more off, in minutes. -/
  | offset (minutes : Int)
  /-- An escape gives a number that belongs to no code point. -/
  | codePoint
  deriving DecidableEq, Repr

end Airlight
