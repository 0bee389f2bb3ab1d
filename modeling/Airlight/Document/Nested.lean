import Airlight.Document.Value
import Airlight.Tensor

/-!
# Nested lists as arrays

A nested list whose parts have equal lengths forms an array; any other value is a single one.
-/

namespace Airlight.Value

/-- The common start of some lists. -/
def commonStart : List (List Nat) → List Nat
  | [] => []
  | xs :: rest => rest.foldl (fun a b => ((a.zip b).takeWhile fun (m, n) => m = n).map Prod.fst) xs

/-- The lengths that all parts of a nested list share, along the first axes and at most the given
number of them. -/
def sharedAxes {α : Type} : Nat → Value α → List Nat
  | 0, _ => []
  | axes + 1, v =>
    match v.opened with
    | list items => items.length :: commonStart (items.map (sharedAxes axes))
    | pair first second => 2 :: commonStart [sharedAxes axes first, sharedAxes axes second]
    | _ => []

/-- The array that a value forms, when `leaf` reads its leaves. -/
def toTensor {α β : Type} (leaf : Value α → Except (Failure α) β) (v : Value α) :
    Except (Failure α) (Tensor β) :=
  match v.axes? with
  | none => .error (.shapes (.ragged (sharedAxes maxAxes v)))
  | some shape => do
    if maxAxes < shape.length then throw (.shapes (.ragged (shape.take maxAxes)))
    let data ← v.leaves.toArray.mapM leaf
    match Tensor.ofArray? shape data with
    | some t => .ok t
    | none => .error (.shapes .other)

end Airlight.Value
