import Airlight.Document.Moment
import Airlight.Scalar.Basic
import Airlight.Text.Basic

/-!
# Values of a configuration document

A configuration is a tree of values whose shape is not known in advance. Mappings keep the order in
which their keys were first given. A list or a mapping may contain itself: it is then written as a
`knot` with a name, inside which `again` with that name stands for the whole. `Value.opened` puts
the whole in the places where it stands.
-/

namespace Airlight

/-- A value of a configuration document. -/
inductive Value (α : Type) where
  | null
  | flag (value : Bool)
  | integer (value : Int)
  | real (value : α)
  | text (value : Text)
  | bytes (data : List UInt8)
  | day (value : Day)
  | moment (value : Moment)
  | list (items : List (Value α))
  | pair (first second : Value α)
  | mapping (entries : List (Value α × Value α))
  /-- Members that differ, in the order in which they were given. -/
  | set (members : List (Value α))
  /-- A list or a mapping that may contain itself. -/
  | knot (name : Nat) (whole : Value α)
  /-- The knot of a name around this place; the flag says whether it is a mapping. -/
  | again (name : Nat) (isMapping : Bool)

namespace Value

variable {α : Type}

instance : Inhabited (Value α) := ⟨null⟩

/-- The word by which messages name the kind of a value. -/
def kind : Value α → String
  | null => "NoneType"
  | flag _ => "bool"
  | integer _ => "int"
  | real _ => "float"
  | text _ => "str"
  | bytes _ => "bytes"
  | day _ => "date"
  | moment _ => "datetime"
  | list _ => "list"
  | pair _ _ => "tuple"
  | mapping _ => "dict"
  | set _ => "set"
  | knot _ whole => kind whole
  | again _ isMapping => if isMapping then "dict" else "list"

/-- Whether a condition given as this value holds: the empty values and the zeros do not. -/
def holds [Scalar α] : Value α → Bool
  | null => false
  | flag b => b
  | integer n => n ≠ 0
  | real x => !Scalar.same x 0.0
  | text s => !s.isEmpty
  | bytes data => !data.isEmpty
  | list items | set items => !items.isEmpty
  | mapping entries => !entries.isEmpty
  | knot _ whole => holds whole
  | day _ | moment _ | pair _ _ | again _ _ => true

mutual

/-- The value with the whole of a knot in the places where it stands. -/
def fill (name : Nat) (whole : Value α) : Value α → Value α
  | list items => list (fillAll name whole items)
  | pair first second => pair (fill name whole first) (fill name whole second)
  | mapping entries => mapping (fillEntries name whole entries)
  | knot inner content => knot inner (if inner = name then content else fill name whole content)
  | again other isMapping => if other = name then whole else again other isMapping
  | v => v

/-- Several values with the whole of a knot in the places where it stands. -/
def fillAll (name : Nat) (whole : Value α) : List (Value α) → List (Value α)
  | [] => []
  | v :: rest => fill name whole v :: fillAll name whole rest

/-- The entries of a mapping with the whole of a knot in the places where it stands. -/
def fillEntries (name : Nat) (whole : Value α) :
    List (Value α × Value α) → List (Value α × Value α)
  | [] => []
  | (k, v) :: rest => (k, fill name whole v) :: fillEntries name whole rest

end

/-- The list or the mapping that a knot is; other values stay. -/
def opened : Value α → Value α
  | knot name whole => fill name (knot name whole) whole
  | v => v

/-- The values that a value lists: the items of a list or of a set, the characters of a text, the
numbers of bytes, or the keys of a mapping. Other values list nothing. -/
def listed? (v : Value α) : Option (List (Value α)) :=
  match v.opened with
  | list items | set items => some items
  | pair first second => some [first, second]
  | text s => some (s.points.map fun p => text ⟨[p]⟩)
  | bytes data => some (data.map fun b => integer b.toNat)
  | mapping entries => some (entries.map Prod.fst)
  | _ => none

end Value

/-- Why a value is not a number. -/
inductive NotANumber where
  /-- The kind of the value has no numeric reading. -/
  | kind
  /-- A text that does not spell a number. -/
  | spelling
  /-- An integer beyond the range of the number type. -/
  | range
  deriving DecidableEq, Repr

namespace Value

variable {α : Type} [Scalar α]

/-- The number that an integer stands for. -/
def ofIntegerChecked (n : Int) : Except NotANumber α :=
  match Scalar.ofInt? n with
  | some x => .ok x
  | none => .error .range

/-- The number of an arithmetic operand: only numbers and flags are accepted. -/
def operand : Value α → Except NotANumber α
  | real x => .ok x
  | integer n => ofIntegerChecked n
  | flag b => .ok (if b then 1.0 else 0.0)
  | _ => .error .kind

/-- The characters of bytes that spell something: all of them belong to ASCII. -/
def spellingOf? (data : List UInt8) : Option String :=
  if data.all (· < 0x80) then some (String.ofList (data.map fun b => Char.ofNat b.toNat)) else none

/-- The number that is spelled. -/
def spelled (spelling : Option String) : Except NotANumber α :=
  match spelling.bind Numeral.read? with
  | some n => .ok (Scalar.ofNumeral n)
  | none => .error .spelling

/-- The number of a scalar field: an operand, or a text or bytes that spell a number. -/
def number : Value α → Except NotANumber α
  | text s => spelled s.toString?
  | bytes data => spelled (spellingOf? data)
  | v => v.operand

/-- A text without the zero characters at its end. -/
def withoutPadding (t : Text) : Text :=
  ⟨(t.points.reverse.dropWhile (· = .char '\x00')).reverse⟩

/-- The number of one element of a numeric array: a missing element is undefined, and a text and
bytes may be padded with zeros. -/
def element : Value α → Except NotANumber α
  | null => .ok (Scalar.ofNumeral .undefined)
  | text s => (text (withoutPadding s)).number
  | bytes data => (bytes (data.reverse.dropWhile (· = 0)).reverse).number
  | v => v.number

mutual

/-- The lengths along the axes of a nested list, `none` when it is ragged or has no end. Anything
else has no axes. -/
def axes? : Value α → Option (List Nat)
  | list items => (commonAxes? items).map fun inner => items.length :: inner.getD []
  | pair first second =>
    match axes? first, axes? second with
    | some a, some b => if a = b then some (2 :: a) else none
    | _, _ => none
  | knot _ whole => axes? whole
  | again _ isMapping => if isMapping then some [] else none
  | _ => some []

/-- The axes that all the items share; `some none` when there is no item. -/
def commonAxes? : List (Value α) → Option (Option (List Nat))
  | [] => some none
  | v :: rest =>
    match axes? v, commonAxes? rest with
    | some a, some none => some (some a)
    | some a, some (some b) => if a = b then some (some a) else none
    | _, _ => none

end

mutual

/-- The leaves of a nested list, from left to right. -/
def leaves : Value α → List (Value α)
  | list items => leavesOf items
  | pair first second => leaves first ++ leaves second
  | knot _ whole => leaves whole
  | v => [v]

/-- The leaves of several values, one after another. -/
def leavesOf : List (Value α) → List (Value α)
  | [] => []
  | v :: rest => leaves v ++ leavesOf rest

end

mutual

/-- Whether a value contains a whole number with too many digits to be shown. -/
def hasLongInteger : Value α → Bool
  | integer n => Nat.pow 10 Numeral.maxDigits ≤ n.natAbs
  | list items | set items => hasLongIntegerAmong items
  | pair first second => hasLongInteger first || hasLongInteger second
  | mapping entries => hasLongIntegerInEntries entries
  | knot _ whole => hasLongInteger whole
  | _ => false

/-- Whether one of several values contains a whole number with too many digits to be shown. -/
def hasLongIntegerAmong : List (Value α) → Bool
  | [] => false
  | v :: rest => hasLongInteger v || hasLongIntegerAmong rest

/-- Whether a key or a value of a mapping contains a whole number with too many digits. -/
def hasLongIntegerInEntries : List (Value α × Value α) → Bool
  | [] => false
  | (k, v) :: rest => hasLongInteger k || hasLongInteger v || hasLongIntegerInEntries rest

end

/-- The largest number of axes of an array. -/
def maxAxes : Nat := 64

/-- The numbers of a nested list or of a single value, flattened. -/
def numbers (v : Value α) : Except NotANumber (List α) :=
  match axes? v with
  | none => .error .spelling
  | some axes => if maxAxes < axes.length then .error .spelling else v.leaves.mapM element

/-- Looks up a text key. -/
def lookup? (key : Text) : List (Value α × Value α) → Option (Value α)
  | [] => none
  | (text k, v) :: rest => if k = key then some v else lookup? key rest
  | _ :: rest => lookup? key rest

end Value

end Airlight
