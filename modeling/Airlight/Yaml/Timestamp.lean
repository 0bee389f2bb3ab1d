import Airlight.Document.Moment

/-!
# Timestamps

The forms in which a plain scalar gives a day or a time of a day. Which numbers the calendar and the
clock have does not matter for the form.
-/

namespace Airlight.Yaml

/-- The value of decimal digits. -/
def decimalValue (cs : List Char) : Nat :=
  cs.foldl (fun n c => 10 * n + (c.toNat - '0'.toNat)) 0

/-- Takes a number with a limited count of digits from the front of a text. -/
def takeNumber? (least most : Nat) (cs : List Char) : Option (Nat × List Char) :=
  let digits := (cs.take most).takeWhile Char.isDigit
  if digits.length < least then none else some (decimalValue digits, cs.drop digits.length)

/-- Takes a number after a character that stands in front of it. -/
def takeNumberAfter? (mark : Char) (least most : Nat) : List Char → Option (Nat × List Char)
  | c :: rest => if c = mark then takeNumber? least most rest else none
  | [] => none

/-- The offset of a clock that a text gives, in minutes. Nothing means that it is not known. -/
def clockOffset? : List Char → Option (Option Int)
  | [] => some none
  | ['Z'] => some (some 0)
  | sign :: rest => do
    if sign ≠ '+' ∧ sign ≠ '-' then none
    let (hours, rest) ← takeNumber? 1 2 rest
    let (minutes, rest) ← if rest.isEmpty then some (0, []) else takeNumberAfter? ':' 2 2 rest
    if !rest.isEmpty then none
    let offset : Int := (60 * hours + minutes : Nat)
    return some (if sign = '-' then -offset else offset)

/-- The place after the mark between a day and a time: a letter or blanks. -/
def afterDayMark? : List Char → Option (List Char)
  | 'T' :: rest | 't' :: rest => some rest
  | cs =>
    let rest := cs.dropWhile isBlank
    if rest.length = cs.length then none else some rest
where
  isBlank (c : Char) : Bool := c = ' ' || c = '\t'

/-- The microseconds that follow the seconds of a time, and what follows them. Further digits do not
count. -/
def takeFraction : List Char → Nat × List Char
  | '.' :: rest =>
    let digits := rest.takeWhile Char.isDigit
    (decimalValue ((digits ++ List.replicate 6 '0').take 6), rest.drop digits.length)
  | rest => (0, rest)

/-- The numbers of a day, with `least` digits or two for the month and for the day. -/
def dayForm? (least : Nat) (cs : List Char) : Option (Nat × Nat × Nat) := do
  let (year, rest) ← takeNumber? 4 4 cs
  let (month, rest) ← takeNumberAfter? '-' least 2 rest
  let (day, rest) ← takeNumberAfter? '-' least 2 rest
  if rest.isEmpty then some (year, month, day) else none

/-- The numbers of a moment. -/
def momentForm? (cs : List Char) : Option Moment := do
  let (year, rest) ← takeNumber? 4 4 cs
  let (month, rest) ← takeNumberAfter? '-' 1 2 rest
  let (day, rest) ← takeNumberAfter? '-' 1 2 rest
  let (hour, rest) ← takeNumber? 1 2 (← afterDayMark? rest)
  let (minute, rest) ← takeNumberAfter? ':' 2 2 rest
  let (second, rest) ← takeNumberAfter? ':' 2 2 rest
  let (microsecond, rest) := takeFraction rest
  let offset ← clockOffset? (rest.dropWhile afterDayMark?.isBlank)
  if offset.isNone ∧ !rest.isEmpty then none
  return ⟨⟨year, month, day⟩, hour, minute, second, microsecond, offset⟩

end Airlight.Yaml
