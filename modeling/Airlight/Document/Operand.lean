import Airlight.Document.Nested
import Airlight.Document.Quantity

/-!
# Values as operands

A value can stand beside an array of numbers in arithmetic: a number counts for every position, and
a nested list is an array of its own that is combined with the other one. Lists that hold anything
but numbers and texts are combined before their elements are looked at; a text is refused at once.
-/

namespace Airlight

/-- The number of an arithmetic operand, or a failure. -/
def Value.operandOrFail {α : Type} [Scalar α] (v : Value α) : Except (Failure α) α :=
  match v.operand with
  | .ok x => .ok x
  | .error reason => .error (.ofNotANumber reason)

/-- Whether the number of a value is at most zero, which is known of integers beyond the range of
the number type too. -/
def Value.atMostZero {α : Type} [Scalar α] (v : Value α) : Except (Failure α) Bool := do
  match v with
  | .integer n => return n ≤ 0
  | v => return (← v.operandOrFail) ≤ 0.0

/-- How a value takes part in the arithmetic of arrays. -/
inductive Operand (α : Type) where
  /-- As an array of numbers. -/
  | numbers (values : Tensor α)
  /-- Not at all: it consists of texts and perhaps numbers. -/
  | texts
  /-- As an array of values that are read one by one when they are used. -/
  | objects (values : Tensor (Value α))

namespace Operand

variable {α : Type} [Scalar α]

/-- Whether an integer lies outside the range of the numbers that an array of integers holds. -/
def isWide (n : Int) : Bool := n < -(Nat.pow 2 63 : Int) || (Nat.pow 2 64 : Int) ≤ n

/-- Whether an element is kept as it is, which makes all others be kept too. -/
def isObject : Value α → Bool
  | .integer n => isWide n
  | .flag _ | .real _ | .text _ | .bytes _ => false
  | _ => true

/-- Whether a value is a list, which may contain itself. -/
def isList : Value α → Bool
  | .list _ | .knot _ (.list _) => true
  | _ => false

/-- Whether a value is a list whose elements are kept as they are. They can be added and multiplied,
but no other function takes them. -/
def keepsElements (v : Value α) : Bool := isList v && v.leaves.any isObject

/-- Whether a value is a text or bytes. -/
def isText : Value α → Bool
  | .text _ | .bytes _ => true
  | _ => false

/-- The array that a nested list forms. -/
def tensorOf (v : Value α) : Except (Failure α) (Tensor (Value α)) := v.toTensor .ok

/-- The way in which a value takes part. -/
def ofValue (v : Value α) : Except (Failure α) (Operand α) := do
  if isList v then
    let t ← tensorOf v
    if t.data.any isObject then return objects t
    else if t.data.any isText then return texts
    else return numbers (← t.mapM Value.operandOrFail)
  else if isText v then return texts
  else return numbers (.single (← v.operandOrFail))

/-- The numbers of an operand that is combined with an array, and the sizes of the result. From the
sizes of the operand `join` finds those of the result. -/
def combine (o : Operand α) (join : List Nat → Except (Failure α) (List Nat)) :
    Except (Failure α) (Tensor α × List Nat) := do
  match o with
  | numbers t => return (t, ← join t.shape)
  | texts => throw .operand
  | objects t =>
    let common ← join t.shape
    if volume common = 0 then return (Tensor.ofFn common fun _ => 0.0, common)
    return (← t.mapM Value.operandOrFail, common)

end Operand

/-- The numbers of a value that is combined with an array, and the sizes of the result. -/
def Value.combine {α : Type} [Scalar α] (v : Value α) (shape : List Nat) :
    Except (Failure α) (Tensor α × List Nat) := do
  (← Operand.ofValue v).combine (Tensor.joinShapes · shape)

/-- The numbers of a value with which an array is combined, and the sizes of the result. -/
def Value.combineAfter {α : Type} [Scalar α] (v : Value α) (shape : List Nat) :
    Except (Failure α) (Tensor α × List Nat) := do
  (← Operand.ofValue v).combine (Tensor.joinShapes shape)

/-- The number of intervals that a value gives for an array of lengths, which are divided by it.
Only then is it noticed that a count has to be whole. -/
def Value.intervals {α : Type} [Scalar α] (v : Value α) (shape : List Nat) :
    Except (Failure α) Int := do
  if Operand.isList v then
    let t ← Operand.tensorOf v
    let kept := t.data.any Operand.isObject
    if !kept && t.data.any Operand.isText then throw .type
    let common ← Tensor.joinShapes t.shape shape
    if kept && volume common ≠ 0 then let _ ← t.mapM Value.divisor
    throw .type
  let q ← v.quantity
  let _ ← q.number
  q.toInt

/-- The products of an array with a value. -/
def Tensor.scaledBy {α : Type} [Scalar α] [Inhabited α] (t : Tensor α) (v : Value α) :
    Except (Failure α) (Tensor α) := do
  let (factors, _) ← v.combine t.shape
  Tensor.map₂ (· * ·) t factors

end Airlight
