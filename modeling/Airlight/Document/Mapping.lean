import Airlight.Document.Value

/-!
# Entries of mappings

A mapping has one entry for each key. Keys that are numbers are compared by value.
-/

namespace Airlight.Value

open Scalar

variable {α : Type} [Scalar α]

/-- The number that a key counts as. -/
def keyNumber? : Value α → Option α
  | .flag b => some (if b then 1.0 else 0.0)
  | .integer n => ofInt? n
  | .real x => some x
  | _ => none

/-- Whether two values are the same key. -/
def sameKey (a b : Value α) : Bool :=
  match a, b with
  | .null, .null => true
  | .text s, .text t => s = t
  | .integer m, .integer n => m = n
  | .bytes a, .bytes b => a = b
  | .integer n, .real x | .real x, .integer n => toInt? x = some n
  | .day d, .day e => d = e
  | .moment m, .moment n => m.same n
  | _, _ =>
    match keyNumber? a, keyNumber? b with
    | some x, some y => same x y
    | _, _ => false

/-- Adds an entry to a mapping. For a key that is there already the value is replaced. -/
def insertEntry (entries : List (Value α × Value α)) (entry : Value α × Value α) :
    List (Value α × Value α) :=
  if entries.any fun e => sameKey e.1 entry.1 then
    entries.map fun e => if sameKey e.1 entry.1 then (e.1, entry.2) else e
  else entries ++ [entry]

end Airlight.Value
