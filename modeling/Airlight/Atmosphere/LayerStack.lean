import Airlight.Atmosphere.Layer
import Airlight.Document.Operand

/-!
# Stacks of layers

A stack is a profile with the altitudes at which its layers end. The ends are the running sums of
the widths. Widths that are all whole numbers are summed up as integers of a fixed width, whose sums
wrap around, or exactly when one of them is too large for that.
-/

namespace Airlight

open Scalar

/-- A layer as part of a stack. -/
structure Stratum (φ : Type) where
  layer : DensityLayer φ
  /-- Whether an undefined density counts as none. -/
  clears : Bool

/-- Layers from the ground up. -/
structure LayerStack (α : Type) where
  /-- The layers that end, each with its upper end. -/
  bounded : List (α × Stratum α)
  /-- The layer above them, if there is one. -/
  top : Option (Stratum α)

variable {α : Type} [Scalar α]

/-- The density that a layer gives at an altitude. -/
@[specialize] def Stratum.density (s : Stratum α) (h : α) : α :=
  let d := s.layer.density h
  if s.clears && !decide (d ≤ d) then 0.0 else d

namespace LayerStack

/-- The stack without layers. -/
def empty : LayerStack α := ⟨[], none⟩

instance : Inhabited (LayerStack α) := ⟨empty⟩

/-- The density of the first layer whose upper end lies above the altitude, and of the top layer
when there is none. -/
@[specialize] def densityAmong (top : Option (Stratum α)) (h : α) : List (α × Stratum α) → α
  | [] =>
    match top with
    | none => 0.0
    | some s => s.density h
  | (upper, s) :: rest => if h < upper then s.density h else densityAmong top h rest

/-- The density of a stack at an altitude. -/
@[specialize] def density (stack : LayerStack α) (h : α) : α :=
  densityAmong stack.top h stack.bounded

end LayerStack

namespace Profile

/-- The running results of an operation that may fail: the first value, the first two combined, the
first three, … -/
def running {β ε : Type} (f : β → β → Except ε β) : List β → Except ε (List β)
  | [] => .ok []
  | x :: rest => go x rest
where
  /-- The running results from one that is already known on. -/
  go (sum : β) : List β → Except ε (List β)
    | [] => .ok [sum]
    | x :: rest => do return sum :: (← go (← f sum x) rest)

/-- The sums of the first number, the first two, the first three, … -/
def runningSums (xs : List α) : List α :=
  match running (fun a b => (.ok (a + b) : Except Unit α)) xs with
  | .ok sums => sums
  | .error _ => []

/-- How widths are summed up. -/
inductive WidthSum where
  /-- As integers with a sign, which wrap around. -/
  | signed
  /-- As integers without a sign, which wrap around. -/
  | unsigned
  /-- As they are, whole numbers exactly. -/
  | exact
  /-- As numbers of the number type. -/
  | plain
  deriving DecidableEq, Repr

/-- How given widths are summed up. -/
def widthSum (widths : List (Value α)) : WidthSum :=
  let isFlag : Value α → Bool
    | .flag _ => true
    | _ => false
  let isSigned : Value α → Bool
    | .integer n => Tensor.isIndex n
    | v => isFlag v
  let isUnsigned : Value α → Bool
    | .integer n => !Tensor.isIndex n && !Operand.isWide n
    | v => isFlag v
  if widths.any Operand.isObject then .exact
  else if widths.isEmpty then .plain
  else if widths.all isSigned then .signed
  else if widths.all isUnsigned then .unsigned
  else .plain

/-- The sum of two widths. -/
def addWidths (how : WidthSum) (a b : Quantity α) : Except (Failure α) (Quantity α) :=
  match how, a, b with
  | .signed, .whole m, .whole n => .ok (.whole (Int.bmod (m + n) (Nat.pow 2 64)))
  | .unsigned, .whole m, .whole n => .ok (.whole ((m + n) % (Nat.pow 2 64 : Nat)))
  | _, a, b => a.add b

/-- The upper ends of layers of given widths. -/
def upperEnds (widths : List (Value α)) : Except (Failure α) (List (Quantity α)) := do
  let how := widthSum widths
  let read (v : Value α) : Except (Failure α) (Quantity α) := do
    let q ← v.quantity
    if how = .plain then return .real (← q.number) else return q
  running (addWidths how) (← widths.mapM read)

end Profile

namespace DensityLayer

/-- The layer whose coefficients are numbers, if they are. The width does not matter for the
density. -/
def plain? (layer : DensityLayer (Value α)) : Option (DensityLayer α) :=
  ({ layer with width := Value.real 0.0 }.mapM Value.operand).toOption

end DensityLayer

namespace Profile

/-- The stack of layers whose coefficients are numbers, if they are. The width of the top layer does
not count. -/
def stack? (layers : Profile (Value α)) : Option (LayerStack α) := do
  let strata ← layers.mapM fun layer => layer.plain?.map (Stratum.mk · false)
  let ends ← (upperEnds (layers.dropLast.map DensityLayer.width)).toOption
  let ends ← (ends.mapM Quantity.number).toOption
  return ⟨ends.zip strata, strata.getLast?⟩

end Profile

end Airlight
