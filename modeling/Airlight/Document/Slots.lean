import Airlight.Document.Value
import Airlight.Scalar.Binary64

/-!
# The order of sets

A set has no order of its own, but it is shown in one. Numbers have slots in a table that depend
only on their values, and a set of numbers is shown slot by slot. Other sets are shown in the order
in which their members were given.
-/

namespace Airlight.Slots

/-- The prime number modulo which numbers are condensed. -/
def modulus : Nat := Nat.pow 2 61 - 1

/-- Gives a residue the sign of a number; minus one is not used. -/
def signed (negative : Bool) (residue : Nat) : Int :=
  let n : Int := if negative then -(residue : Int) else residue
  if n = -1 then -2 else n

/-- The condensed form of an integer. -/
def ofInt (n : Int) : Int := signed (n < 0) (n.natAbs % modulus)

/-- The condensed form of a float, which equals that of an integer of the same value. Division by
two is a rotation by one of the 61 bits of a residue. -/
def ofFloat? (x : Float) : Option Int :=
  match Binary64.ofFloat? x with
  | some b =>
    let shift := (b.exponent.emod 61).toNat
    some (signed b.negative (b.significand * Nat.pow 2 shift % modulus))
  | none => if x.isNaN then none else some (if x < 0.0 then -314159 else 314159)

/-- The condensed form of a number. -/
def ofValue? : Value Float → Option Int
  | .integer n => some (ofInt n)
  | .flag b => some (if b then 1 else 0)
  | .real x => ofFloat? x
  | _ => none

/-- The least power of two from `size` on that is larger than `n`. -/
def powerAbove (n : Nat) : Nat → Nat → Nat
  | 0, size => size
  | fuel + 1, size => if n < size then size else powerAbove n fuel (2 * size)

/-- The number of slots for some members: eight, or more than two for each of five or more. -/
def countFor (members : Nat) : Nat := if members < 5 then 8 else powerAbove (2 * members) 64 8

/-- How many slots in a row are tried, if the table does not end before. -/
def rowLength : Nat := 10

/-- The slot for a condensed number in a table of `count` slots: the first free one of those that
are tried. -/
def freeSlot (free : Nat → Bool) (count : Nat) : Nat → Nat → Nat → Nat
  | 0, start, _ => start
  | fuel + 1, start, rest =>
    let row := if start + rowLength ≤ count then List.range' start rowLength else [start]
    match row.find? free with
    | some slot => slot
    | none =>
      let rest := rest / 32
      freeSlot free count fuel ((start * 5 + 1 + rest) % count) rest

/-- Puts things with their condensed numbers into the slots of a table. -/
def place {β : Type} : List (Int × β) → Array (Option β) → Array (Option β)
  | [], slots => slots
  | (n, x) :: rest, slots =>
    let n := (n.emod (Nat.pow 2 64 : Int)).toNat
    let free (i : Nat) : Bool := (slots.getD i none).isNone
    let slot := freeSlot free slots.size (slots.size + 16) (n % slots.size) n
    place rest (slots.setIfInBounds slot (some x))

/-- What belongs to the members of a set, in the order in which they are shown. -/
def order {β : Type} (members : List (Value Float × β)) : List β :=
  match members.mapM fun (v, x) => (ofValue? v).map (·, x) with
  | some numbers =>
    (place numbers (Array.replicate (countFor members.length) none)).toList.filterMap id
  | none => members.map (·.2)

end Airlight.Slots
