import Airlight.Decimal.Numeral
import Airlight.Document.Value
import Airlight.Text.Base64
import Airlight.Text.LowerCase
import Airlight.Yaml.Fault
import Airlight.Yaml.Plain

/-!
# The value of a scalar

The kind of a scalar says how its content is read. Numbers may be written as freely as in a text
field, and may be given by parts between colons, which are digits of base sixty. Underscores in
numbers never count.
-/

namespace Airlight.Yaml

open Scalar

variable {α : Type} [Scalar α]

/-- A text without underscores. -/
def withoutBars (content : Text) : Text := ⟨content.points.filter (· ≠ .char '_')⟩

/-- Splits off a sign; the flag says whether it was a minus. -/
def takeSign : List CodePoint → Bool × List CodePoint
  | .char '-' :: rest => (true, rest)
  | .char '+' :: rest => (false, rest)
  | rest => (false, rest)

/-- The size of a whole number in a base after its sign, which the mark of the base may precede. -/
def magnitude? (base : Nat) (cs : List Char) : Option Nat := do
  let digits := match cs with
    | '0' :: mark :: rest => if isMark mark then rest else cs
    | _ => cs
  if digits.isEmpty then none
  digits.foldlM (fun n c => do
    let d ← digit? c
    if base ≤ d then none
    return base * n + d) 0
where
  /-- Whether a letter after a zero is the mark of the base. -/
  isMark (c : Char) : Bool :=
    (base = 2 && c.toLower = 'b') || (base = 8 && c.toLower = 'o') || (base = 16 && c.toLower = 'x')
  /-- The value of a digit of any base. -/
  digit? (c : Char) : Option Nat :=
    if c.isAlpha then some (c.toLower.toNat - 'a'.toNat + 10) else Text.digitValue? c

/-- A whole number in a base in free form: blanks around it, a sign, the mark of the base. Only in
base ten there may be too many digits. -/
def freeInteger (base : Nat) (points : List CodePoint) : Except Fault Int :=
  let misspelled : Except Fault Int := .error (.spelling (.digits base ⟨points⟩))
  match (Text.mk points).toString? with
  | none => misspelled
  | some s =>
    let (negative, body) := Numeral.sign (Numeral.strip s.toList)
    let count := (body.takeWhile fun c => (Text.digitValue? c).isSome).length
    if base = 10 ∧ Numeral.maxDigits < count then .error (.spelling (.tooLong count))
    else match magnitude? base body with
      | some n => .ok (if negative then -(n : Int) else n)
      | none => misspelled

/-- A fractional number in free form. -/
def freeReal (points : List CodePoint) : Except Fault α :=
  match (Text.mk points).toString?.bind Numeral.read? with
  | some n => .ok (ofNumeral n)
  | none => .error (.spelling (.fraction ⟨points⟩))

/-- The whole number that a text gives. -/
def integerOf (content : Text) : Except Fault Int := do
  let content := withoutBars content
  if content.isEmpty then throw .empty
  let (negative, body) := takeSign content.points
  let n ← match body with
    | [] => throw .empty
    | [.char '0'] => pure 0
    | .char '0' :: .char 'b' :: digits => freeInteger 2 digits
    | .char '0' :: .char 'x' :: digits => freeInteger 16 digits
    | .char '0' :: _ => freeInteger 8 body
    | _ =>
      if body.contains (.char ':') then do
        let parts ← (partsAt (.char ':') body).mapM (freeInteger 10)
        pure (parts.foldl (fun n part => 60 * n + part) 0)
      else freeInteger 10 body
  return if negative then -n else n

/-- The number whose digits of base sixty are given from the last one on. The digit that weighs
`base` is the first of them; the weight must be within the range of the number type. -/
def sixtieths (sum : α) (base : Nat) : List α → Except Fault α
  | [] => .ok sum
  | x :: rest =>
    match ofInt? (base : Int) with
    | some weight => sixtieths (sum + x * weight) (60 * base) rest
    | none => .error .range

/-- The fractional number that a text gives. -/
def realOf (content : Text) : Except Fault α := do
  let content := (withoutBars content).toLower
  if content.isEmpty then throw .empty
  let (negative, body) := takeSign content.points
  if body = (Text.ofString ".nan").points then return ofNumeral .undefined
  let x ←
    if body = (Text.ofString ".inf").points then pure (ofNumeral (.infinite false))
    else if body.contains (.char ':') then do
      let parts ← (partsAt (.char ':') body).mapM freeReal
      sixtieths 0.0 1 parts.reverse
    else freeReal body
  return if negative then -x else x

/-- Whether a text gives the undefined number by its word. -/
def isUndefinedWord (content : Text) : Bool :=
  (takeSign (withoutBars content).toLower.points).2 = (Text.ofString ".nan").points

/-- The flag that a text gives. -/
def flagOf (content : Text) : Except Fault Bool :=
  let word := content.toLower
  if word = "yes" ∨ word = "true" ∨ word = "on" then .ok true
  else if word = "no" ∨ word = "false" ∨ word = "off" then .ok false
  else .error .flag

/-- The value of something that may be misspelled. -/
def spelledAs {β : Type} (value : β → Value α) : Except Misspelling β → Except Fault (Value α)
  | .ok x => .ok (value x)
  | .error cause => .error (.spelling cause)

/-- The day or the moment that a text gives. A line feed at the end does not count. -/
def timeOf (content : Text) : Except Fault (Value α) :=
  match content.toString?.map String.toList with
  | none => .error .time
  | some cs =>
    let cs := if cs.getLast? = some '\n' then cs.dropLast else cs
    match dayForm? 1 cs, momentForm? cs with
    | some (year, month, day), _ => spelledAs .day (Day.ofNumbers year month day)
    | none, some m => spelledAs .moment m.checked
    | none, none => .error .time

/-- The bytes that a text gives. -/
def bytesOf (content : Text) : Except Fault (List UInt8) :=
  match content.toString? with
  | some s =>
    if s.toList.all (·.toNat < 0x80) then orMalformed (Base64.bytes? s.toList)
    else .error .malformed
  | none => .error .malformed

/-- The value of a scalar of a kind. -/
def Kind.value (kind : Kind) (content : Text) : Except Fault (Value α) :=
  match kind with
  | .null => .ok .null
  | .flag => return .flag (← flagOf content)
  | .integer => return .integer (← integerOf content)
  | .real => return .real (← realOf content)
  | .time => timeOf content
  | .text => .ok (.text content)
  | .binary => return .bytes (← bytesOf content)
  | .sequence | .mapping | .set | .pairs | .merge | .default | .unknown => .error .malformed

end Airlight.Yaml
