/-!
# Texts

A `Text` is a sequence of code points. Unlike a `String` it may hold one half of a surrogate pair on
its own, which is no character but can be spelled by an escape in a document.
-/

namespace Airlight

/-- A code point: a character, or a surrogate given by its distance from the first one. -/
inductive CodePoint where
  | char (c : Char)
  | surrogate (offset : Fin 0x800)
  deriving DecidableEq, Repr

namespace CodePoint

/-- The number of a code point. -/
def number : CodePoint → Nat
  | char c => c.toNat
  | surrogate k => 0xD800 + k.val

/-- The code point with a given number. -/
def ofNumber? (n : Nat) : Option CodePoint :=
  if h : 0xD800 ≤ n ∧ n < 0xE000 then some (surrogate ⟨n - 0xD800, by omega⟩)
  else if n.isValidChar then some (char (Char.ofNat n))
  else none

/-- The character, unless it is a surrogate. -/
def toChar? : CodePoint → Option Char
  | char c => some c
  | surrogate _ => none

/-- Whether a surrogate stands for a byte that is part of no character. -/
def isByte : CodePoint → Bool
  | char _ => false
  | surrogate k => 0x480 ≤ k.val && k.val < 0x500

/-- The number of bytes that a code point takes; a surrogate stands for a single one. -/
def size : CodePoint → Nat
  | char c => c.utf8Size
  | surrogate _ => 1

end CodePoint

/-- A sequence of code points. -/
structure Text where
  points : List CodePoint
  deriving DecidableEq, Repr, Inhabited

namespace Text

/-- The text of a string. -/
def ofString (s : String) : Text := ⟨s.toList.map .char⟩

instance : Coe String Text := ⟨ofString⟩

instance : Append Text := ⟨fun s t => ⟨s.points ++ t.points⟩⟩

/-- The string with the same characters, unless there is a surrogate. -/
def toString? (t : Text) : Option String := (t.points.mapM CodePoint.toChar?).map String.ofList

/-- The number of bytes that a text takes. -/
def size (t : Text) : Nat := t.points.foldl (fun n p => n + p.size) 0

/-- The parts of a list between the occurrences of an element. -/
def partsBetween (separator : CodePoint) : List CodePoint → List CodePoint × List (List CodePoint)
  | [] => ([], [])
  | p :: rest =>
    let (first, others) := partsBetween separator rest
    if p = separator then ([], first :: others) else (p :: first, others)

/-- The parts of a text between the occurrences of a code point. -/
def split (separator : CodePoint) (t : Text) : List Text :=
  let (first, others) := partsBetween separator t.points
  (first :: others).map Text.mk

/-- Whether nothing is written. -/
def isEmpty (t : Text) : Bool := t.points.isEmpty

/-- Whether the first list of numbers is not behind the second in the order of dictionaries. -/
def precedes : List CodePoint → List CodePoint → Bool
  | [], _ => true
  | _ :: _, [] => false
  | a :: s, b :: t => a.number < b.number || (a.number = b.number && precedes s t)

/-- The order of texts: by the number of the first code point in which they differ. -/
instance : LE Text := ⟨fun s t => precedes s.points t.points = true⟩

instance (s t : Text) : Decidable (s ≤ t) := inferInstanceAs (Decidable (_ = true))

/-- Texts one after another with a separator between them. -/
def join (separator : Text) : List Text → Text
  | [] => ⟨[]⟩
  | [t] => t
  | t :: rest => t ++ separator ++ join separator rest

/-- Whether a text ends with a string. -/
def endsWith (t : Text) (ending : String) : Bool :=
  (ofString ending).points.isSuffixOf t.points

instance : ToString Text := ⟨fun t => String.ofList (t.points.map fun p => p.toChar?.getD '\ufffd')⟩

end Text

end Airlight
