import Airlight.Decimal.Notation
import Airlight.Document.Slots
import Airlight.Text.Quoted

/-!
# How messages show a value

Texts are quoted, floats have the fewest digits that identify them, collections are written with
their elements in order. A collection inside itself is shown as dots.
-/

namespace Airlight.Value

/-- What stands for a collection inside itself. -/
def dots (isMapping : Bool) : String := if isMapping then "\x7b...\x7d" else "[...]"

/-- Whether a value is a mapping. -/
def isMapping : Value Float → Bool
  | mapping _ | again _ true => true
  | _ => false

mutual

/-- The form in which messages show a value inside the knots of the given names. -/
def literalWithin (names : List Nat) : Value Float → String
  | null => "None"
  | flag b => if b then "True" else "False"
  | integer n => toString n
  | real x => Decimal.identifying x
  | text s => Text.quoted s
  | bytes data => Text.quotedBytes data
  | day d => d.literal
  | moment m => m.literal
  | list items => "[" ++ ", ".intercalate (literals names items) ++ "]"
  | pair first second =>
    "(" ++ literalWithin names first ++ ", " ++ literalWithin names second ++ ")"
  | mapping entries => "\x7b" ++ ", ".intercalate (entryLiterals names entries) ++ "\x7d"
  | set members =>
    if members.isEmpty then "set()"
    else
      let shown := Slots.order (members.zip (literals names members))
      "\x7b" ++ ", ".intercalate shown ++ "\x7d"
  | knot name whole =>
    if names.contains name then dots whole.isMapping else literalWithin (name :: names) whole
  | again _ isMapping => dots isMapping

/-- The forms of several values. -/
def literals (names : List Nat) : List (Value Float) → List String
  | [] => []
  | v :: rest => literalWithin names v :: literals names rest

/-- The forms of the entries of a mapping. -/
def entryLiterals (names : List Nat) : List (Value Float × Value Float) → List String
  | [] => []
  | (k, v) :: rest =>
    (literalWithin names k ++ ": " ++ literalWithin names v) :: entryLiterals names rest

end

/-- The form in which messages show a value. -/
def literal (v : Value Float) : String := literalWithin [] v

/-- The form of a value as part of a sentence, where texts stand without quotes. -/
def display : Value Float → Text
  | text s => s
  | v => v.literal

end Airlight.Value
