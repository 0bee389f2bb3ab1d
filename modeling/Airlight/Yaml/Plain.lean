import Airlight.Yaml.Kind
import Airlight.Yaml.Timestamp

/-!
# The kind of a plain scalar

A scalar without quotes is a text unless it has the form of a null, a flag, a number, a day or a
time of a day, or is one of the two special keys. A number may contain underscores; a whole number
may be written in base two, eight, sixteen or sixty. A fractional number needs a point, and its
exponent needs a sign. A line feed at the end does not matter.
-/

namespace Airlight.Yaml

/-- Whether a character is a decimal digit or an underscore. -/
def isDigitOrBar (c : Char) : Bool := c.isDigit || c = '_'

/-- Whether a text is a digit followed by digits and underscores. -/
def isDigitRun : List Char → Bool
  | [] => false
  | c :: rest => c.isDigit && rest.all isDigitOrBar

/-- Whether a text has further characters, all with a property. -/
def isRunOf (p : Char → Bool) (cs : List Char) : Bool := !cs.isEmpty && cs.all p

/-- The parts of a list between the occurrences of an element. -/
def partsAt {β : Type} [DecidableEq β] (separator : β) : List β → List (List β)
  | [] => [[]]
  | x :: rest =>
    match partsAt separator rest with
    | [] => []
    | part :: parts => if x = separator then [] :: part :: parts else (x :: part) :: parts

/-- Whether a text is a number below sixty, with one or two digits. -/
def isBelowSixty : List Char → Bool
  | [c] => c.isDigit
  | [c, d] => '0' ≤ c && c ≤ '5' && d.isDigit
  | _ => false

/-- Whether the parts between colons are digits of base sixty, at least two of them. -/
def areSixtieths : List (List Char) → Bool
  | first :: second :: rest => isDigitRun first && (second :: rest).all isBelowSixty
  | _ => false

/-- Whether a text is a whole number without its sign. -/
def isWhole (cs : List Char) : Bool :=
  match cs with
  | '0' :: 'b' :: bits => isRunOf (fun c => c = '0' || c = '1' || c = '_') bits
  | '0' :: 'x' :: digits =>
    isRunOf (fun c => isDigitOrBar c || ('a' ≤ c.toLower && c.toLower ≤ 'f')) digits
  | ['0'] => true
  | '0' :: digits => isRunOf (fun c => ('0' ≤ c && c ≤ '7') || c = '_') digits
  | _ => isDigitRun cs || areSixtieths (partsAt ':' cs)

/-- Whether a text is nothing or an exponent with its sign. -/
def isExponent : List Char → Bool
  | [] => true
  | e :: sign :: digits =>
    (e = 'e' || e = 'E') && (sign = '+' || sign = '-') && isRunOf Char.isDigit digits
  | _ => false

/-- Whether a text is a number with a point, without its sign. Nothing stands before the point only
if `bare` allows it. -/
def isPointed (bare : Bool) (cs : List Char) : Bool :=
  let whole := cs.takeWhile isDigitOrBar
  match cs.drop whole.length with
  | '.' :: rest =>
    let fraction := rest.takeWhile isDigitOrBar
    (isDigitRun whole || (whole.isEmpty && bare && isDigitRun fraction)) &&
      isExponent (rest.drop fraction.length)
  | _ => false

/-- Whether a text is a number of base sixty whose last part has a point, without its sign. -/
def isPointedSixtieths (cs : List Char) : Bool :=
  let whole := cs.takeWhile (· ≠ '.')
  match cs.drop whole.length with
  | '.' :: fraction => areSixtieths (partsAt ':' whole) && fraction.all isDigitOrBar
  | _ => false

/-- Splits off a sign; the flag says whether there was one. -/
def withoutSign : List Char → Bool × List Char
  | '+' :: cs | '-' :: cs => (true, cs)
  | cs => (false, cs)

/-- Whether a text has the form of a fractional number. -/
def isFractional (cs : List Char) : Bool :=
  let (signed, body) := withoutSign cs
  [".inf", ".Inf", ".INF"].contains (String.ofList body) ||
    [".nan", ".NaN", ".NAN"].contains (String.ofList cs) ||
    isPointed (!signed) body || isPointedSixtieths body

/-- The words for a flag. -/
def flagWords : List String := [
  "yes", "Yes", "YES", "no", "No", "NO", "true", "True", "TRUE", "false", "False", "FALSE",
  "on", "On", "ON", "off", "Off", "OFF"]

/-- The kind of a text without a line feed at its end. -/
def Kind.ofForm (cs : List Char) : Kind :=
  let word := String.ofList cs
  if word = "<<" then merge
  else if word = "=" then default
  else if ["", "~", "null", "Null", "NULL"].contains word then null
  else if flagWords.contains word then flag
  else if isFractional cs then real
  else if isWhole (withoutSign cs).2 then integer
  else if (dayForm? 2 cs).isSome || (momentForm? cs).isSome then time
  else text

/-- The kind of a plain scalar. -/
def Kind.ofPlain (content : Text) : Kind :=
  match content.toString?.map String.toList with
  | none | some ['\n'] => text
  | some cs => ofForm (if cs.getLast? = some '\n' then cs.dropLast else cs)

/-- The kind of a scalar. The tag `!` makes any scalar a plain one. -/
def Kind.ofScalar (tag : Option String) (isPlain : Bool) (content : Text) : Kind :=
  match tag with
  | none => if isPlain then ofPlain content else text
  | some tag => if tag = "!" then ofPlain content else ofTag tag

/-- The kind of a collection. -/
def Kind.ofCollection (tag : Option String) (own : Kind) : Kind :=
  match tag with
  | none => own
  | some tag => if tag = "!" then own else ofTag tag

end Airlight.Yaml
