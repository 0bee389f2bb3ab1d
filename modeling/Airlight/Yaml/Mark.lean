import Airlight.Decimal.Numeral
import Airlight.Yaml.Cursor
import Airlight.Yaml.Fault

/-!
# Anchors, tags and directives

What a document writes with a mark in front: `&name` gives a node a name, `*name` stands for the
node of that name, `!tag` says what kind of value a node has, and a line after `%` is a directive
that may give short forms of tags. Each reader takes what it reads from the front of a text and
gives the text that follows.
-/

namespace Airlight.Yaml

/-- Whether a character may stand in a name. -/
def isNameChar (c : Char) : Bool := c.isAlphanum || c = '-' || c = '_'

/-- Whether a tag or a directive may end before `next`, which a tab does not allow. -/
def endsMark (next : Option Char) : Bool := next ≠ some '\t' && endsToken next

/-- Takes a name. -/
def takeName? (cs : List Char) : Option (String × List Char) :=
  let name := cs.takeWhile isNameChar
  if name.isEmpty then none else some (String.ofList name, cs.drop name.length)

/-- Takes the name of a node. -/
def takeAnchor? (cs : List Char) : Option (String × List Char) := do
  let (name, rest) ← takeName? cs
  if endsToken rest.head? || rest.head?.any ("?:,]\x7d%@\x60".contains ·) then some (name, rest)
  else none

/-! ## Tags -/

/-- A tag as it is written. -/
structure Tag where
  /-- The short form that the tag begins with; without one the tag is written in full. -/
  handle : Option String
  text : String
  deriving DecidableEq, Repr

/-- Whether a character may stand in a tag. -/
def isTagChar (c : Char) : Bool := isNameChar c || "-;/?:@&=+$,_.!~*\x27()[]%".contains c

/-- The value of a hexadecimal digit. -/
def hexDigit? (c : Char) : Option Nat :=
  if '0' ≤ c ∧ c ≤ '9' then some (c.toNat - '0'.toNat)
  else if 'a' ≤ c ∧ c ≤ 'f' then some (c.toNat - 'a'.toNat + 10)
  else if 'A' ≤ c ∧ c ≤ 'F' then some (c.toNat - 'A'.toNat + 10)
  else none

/-- The bytes of the characters of a tag. After a percent sign two digits give a byte. -/
def tagBytes? : List Char → Option (List UInt8)
  | '%' :: high :: low :: rest => do
    let byte := 16 * (← hexDigit? high) + (← hexDigit? low)
    return UInt8.ofNat byte :: (← tagBytes? rest)
  | '%' :: _ => none
  | c :: rest => do return UInt8.ofNat c.toNat :: (← tagBytes? rest)
  | [] => some []

/-- Takes a tag, or the part of it after its short form. -/
def takeTagText? (cs : List Char) : Option (String × List Char) := do
  let text := cs.takeWhile isTagChar
  if text.isEmpty then none
  let decoded ← String.fromUTF8? ⟨(← tagBytes? text).toArray⟩
  return (decoded, cs.drop text.length)

/-- Takes the short form of a tag. -/
def takeHandle? : List Char → Option (String × List Char)
  | '!' :: ' ' :: rest => some ("!", ' ' :: rest)
  | '!' :: rest =>
    let name := rest.takeWhile isNameChar
    match rest.drop name.length with
    | '!' :: rest => some ("!" ++ String.ofList name ++ "!", rest)
    | _ => none
  | _ => none

/-- Takes a tag that is written in full or with a short form. -/
def takeAnyTag? : List Char → Option (Tag × List Char)
  | '!' :: '<' :: rest => do
    let (text, rest) ← takeTagText? rest
    if rest.head? = some '>' then some (⟨none, text⟩, rest.tail) else none
  | '!' :: rest =>
    if endsToken rest.head? then some (⟨none, "!"⟩, rest)
    else do
      let word := rest.takeWhile fun c => !endsMark (some c)
      let (handle, rest) ← if word.contains '!' then takeHandle? ('!' :: rest) else some ("!", rest)
      let (text, rest) ← takeTagText? rest
      return (⟨some handle, text⟩, rest)
  | _ => none

/-- Takes a tag with its mark. -/
def takeTag? (cs : List Char) : Option (Tag × List Char) := do
  let (tag, rest) ← takeAnyTag? cs
  if endsMark rest.head? then some (tag, rest) else none

/-! ## Directives -/

/-- A directive in front of a document. -/
inductive Directive where
  /-- The version of the format. -/
  | version (major : Nat)
  /-- A short form of tags and what it stands for. -/
  | handle (name meaning : String)
  /-- A directive that has no effect. -/
  | other
  deriving DecidableEq, Repr

/-- Takes a number, which must not have too many digits. The text ends at the place `last` of the
document. -/
def takeDigits (last : Nat) (cs : List Char) : Except Stop (Nat × List Char) :=
  let digits := cs.takeWhile Char.isDigit
  let rest := cs.drop digits.length
  if digits.isEmpty then .error .malformed
  else if Numeral.maxDigits < digits.length then
    .error ⟨.spelling (.tooLong digits.length), last - rest.length + 1⟩
  else .ok (digits.foldl (fun n c => 10 * n + (c.toNat - '0'.toNat)) 0, rest)

/-- Takes the number of a version. -/
def takeVersion (last : Nat) (cs : List Char) : Except Stop (Directive × List Char) := do
  let (major, rest) ← takeDigits last (cs.dropWhile (· = ' '))
  if rest.head? ≠ some '.' then throw .malformed
  let (_, rest) ← takeDigits last rest.tail
  if endsMark rest.head? then return (.version major, rest) else throw .malformed

/-- Takes a short form of tags and what it stands for. -/
def takeShortForm? (cs : List Char) : Option (Directive × List Char) := do
  let (name, rest) ← takeHandle? (cs.dropWhile (· = ' '))
  if rest.head? ≠ some ' ' then none
  let (meaning, rest) ← takeTagText? (rest.dropWhile (· = ' '))
  if endsMark rest.head? then some (.handle name meaning, rest) else none

/-- Takes a directive without its mark, from a text that ends at the place `last` of the
document. -/
def takeDirective (last : Nat) (cs : List Char) : Except Stop (Directive × List Char) := do
  let (name, rest) ← orStop (takeName? cs)
  if !endsMark rest.head? then throw .malformed
  if name = "YAML" then takeVersion last rest
  else if name = "TAG" then orStop (takeShortForm? rest)
  else return (.other, rest.dropWhile (!isBreak ·))

end Airlight.Yaml
