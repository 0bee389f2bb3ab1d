import Airlight.Tensor

/-!
# Sizes and counts as they were given

A size or a count may be given as a whole number or as a real one. A whole number is exact and may
be larger than any number of the number type; what is computed from whole numbers is whole.
-/

namespace Airlight

open Scalar

/-- A number as it was given. -/
inductive Quantity (α : Type) where
  | whole (value : Int)
  | real (value : α)

namespace Quantity

variable {α : Type} [Scalar α]

/-- The number of a quantity, unless it lies outside the range of the number type. -/
def number : Quantity α → Except (Failure α) α
  | whole n => (Value.ofIntegerChecked n).mapError .ofNotANumber
  | real x => .ok x

/-- The integer of a quantity, which has to be whole. -/
def toInt : Quantity α → Except (Failure α) Int
  | whole n => .ok n
  | real _ => .error .type

/-- The quantity as a document value. -/
def toValue : Quantity α → Value α
  | whole n => .integer n
  | real x => .real x

/-- Whether a quantity lies below an integer. -/
def isBelow (q : Quantity α) (limit : Int) : Bool :=
  match q with
  | whole n => n < limit
  | real x => decide (x < ofInt limit)

/-- Whether a quantity equals an integer. -/
def equals (q : Quantity α) (n : Int) : Bool :=
  match q with
  | whole m => m = n
  | real x => same x (ofInt n)

/-- Whether a quantity is zero. -/
def isZero (q : Quantity α) : Bool := q.equals 0

/-- Whether half of a quantity is whole. -/
def isEven : Quantity α → Bool
  | whole n => n % 2 = 0
  | real x => same (floorMod x 2.0) 0.0

/-- Whether nothing is left when an integer is divided by a quantity that is not zero. -/
def divides (q : Quantity α) (n : Int) : Bool :=
  match q with
  | whole m => n % m = 0
  | real x => same (floorMod (ofInt n) x) 0.0

/-- The quantity less one. -/
def pred : Quantity α → Quantity α
  | whole n => whole (n - 1)
  | real x => real (x - 1.0)

/-- Half of a quantity, rounded down. -/
def half : Quantity α → Quantity α
  | whole n => whole (n / 2)
  | real x => real (floor (x / 2.0))

/-- The sum of two quantities. -/
def add (a b : Quantity α) : Except (Failure α) (Quantity α) :=
  match a, b with
  | whole m, whole n => .ok (whole (m + n))
  | a, b => do return real ((← a.number) + (← b.number))

/-- The product of two quantities. -/
def mul (a b : Quantity α) : Except (Failure α) (Quantity α) :=
  match a, b with
  | whole m, whole n => .ok (whole (m * n))
  | a, b => do return real ((← a.number) * (← b.number))

/-- The smallest number of positions that reaches a quantity. -/
def positions : Quantity α → Except (Failure α) Nat
  | whole n => .ok n.toNat
  | real x =>
    match toNat? (-floor (-x)) with
    | some n => .ok n
    | none => .error (.shapes .other)

end Quantity

namespace Value

variable {α : Type} [Scalar α]

/-- The quantity that a value is. A flag counts as zero or one. -/
def quantity : Value α → Except (Failure α) (Quantity α)
  | integer n => .ok (.whole n)
  | flag b => .ok (.whole (if b then 1 else 0))
  | real x => .ok (.real x)
  | _ => .error .type

/-- The length of an axis that a value gives, which no flag does. -/
def axisLength (v : Value α) : Except (Failure α) Int := do
  if v matches flag _ then throw .type
  let n ← (← v.quantity).toInt
  if Tensor.isIndex n then return n else throw (.shapes .tooLong)

/-- Whether a value lies below an integer; only numbers can be compared. -/
def isBelow (v : Value α) (limit : Int) : Except (Failure α) Bool :=
  v.quantity.map (·.isBelow limit)

/-- Whether one of some values lies below a limit. Those after it are not looked at. -/
def anyBelow (limit : Int) : List (Value α) → Except (Failure α) Bool
  | [] => .ok false
  | v :: rest => do
    if ← v.isBelow limit then return true
    anyBelow limit rest

/-- The number of a value by which something is divided, which must not be zero. -/
def divisor (v : Value α) : Except (Failure α) α := do
  let q ← v.quantity
  if q.isZero then throw .divisionByZero
  q.number

/-- The integer that is left of a value without its fraction. A text has to spell an integer. -/
def truncated (v : Value α) : Except (Failure α) Int :=
  match v with
  | text s =>
    match (withoutPadding s).toString?.bind Numeral.readInteger? with
    | some n => .ok n
    | none => .error (.spelling .number)
  | v => do
    match ← v.quantity with
    | .whole n => return n
    | .real x =>
      match toInt? (if x < 0.0 then -floor (-x) else floor x) with
      | some n => return n
      | none => throw (if x ≤ x then .overflow else .undefined)

/-- The index that a value gives. -/
def index (v : Value α) : Except (Failure α) Int := do
  let i ← v.truncated
  if Tensor.isIndex i then return i else throw .overflow

end Value

end Airlight
