import Airlight.Yaml.Cursor

/-!
# Block scalars

A block scalar begins with `|` or `>`, and its text stands on the lines below, further to the right
than what is around it. After `|` each line end is part of the text. After `>` a line end is folded
if neither of the lines at it begins with a blank.
-/

namespace Airlight.Yaml

/-- What becomes of the line ends after the last line of a block scalar. -/
inductive Chomping where
  /-- One of them is part of the text. -/
  | clip
  /-- None of them is part of the text. -/
  | strip
  /-- All of them are part of the text. -/
  | keep
  deriving DecidableEq, Repr

/-- What the first line of a block scalar says. -/
structure BlockHeader where
  chomping : Chomping
  /-- How many columns the text is indented by. -/
  indent : Option Nat

/-- What becomes of the last line ends after a sign. -/
def Chomping.ofSign? : Char → Option Chomping
  | '-' => some strip
  | '+' => some keep
  | _ => none

/-- The columns that a digit gives. -/
def indentOf? (c : Char) : Option Nat :=
  if c.isDigit ∧ c ≠ '0' then some (c.toNat - '0'.toNat) else none

/-- What the characters after `|` or `>` say. -/
def BlockHeader.ofMarks? : List Char → Option BlockHeader
  | [] => some ⟨.clip, none⟩
  | [a] =>
    if a.isDigit then (indentOf? a).map fun n => ⟨.clip, some n⟩
    else (Chomping.ofSign? a).map fun chomping => ⟨chomping, none⟩
  | [a, b] => do
    let (sign, digit) := if a.isDigit then (b, a) else (a, b)
    return ⟨← Chomping.ofSign? sign, some (← indentOf? digit)⟩
  | _ => none

namespace Cursor

/-- Passes the rest of a line that holds nothing but a comment. -/
def endLine? (c : Cursor) : Option Cursor :=
  let c := c.skipWhile (· = ' ')
  let c := if c.rest.head? = some '#' then c.skipWhile (!isBreak ·) else c
  match c.rest with
  | [] => some c
  | x :: _ => if isBreak x then some c.next else none

/-- Passes the empty lines in front of the text. Gives their line ends, the last column that spaces
reach, and the place after them. -/
def skipLeadingLines : Nat → List Char → Nat → Cursor → List Char × Nat × Cursor
  | 0, breaks, column, c => (breaks.reverse, column, c)
  | fuel + 1, breaks, column, c =>
    match c.rest with
    | x :: _ =>
      if x = ' ' then skipLeadingLines fuel breaks (max column c.next.column) c.next
      else if isBreak x then skipLeadingLines fuel (lineEnd x :: breaks) column c.next
      else (breaks.reverse, column, c)
    | [] => (breaks.reverse, column, c)

/-- Passes spaces up to a column. -/
def skipIndent (indent : Nat) (c : Cursor) : Cursor :=
  c.skip (min (indent - c.column) (c.rest.takeWhile (· = ' ')).length)

/-- Passes empty lines and the indentation of the next line. Gives the line ends and the place after
them. -/
def skipIndentedLines (indent : Nat) : Nat → List Char → Cursor → List Char × Cursor
  | 0, breaks, c => (breaks.reverse, c)
  | fuel + 1, breaks, c =>
    let c := c.skipIndent indent
    match c.rest with
    | x :: _ =>
      if isBreak x then skipIndentedLines indent fuel (lineEnd x :: breaks) c.next
      else (breaks.reverse, c)
    | [] => (breaks.reverse, c)

end Cursor

/-- The text that stands for a line end `ends` and the empty lines after it, between lines that
begin with `first` and `next`. -/
def joinLines (folded : Bool) (first next : Option Char) (ends breaks : List Char) : List Char :=
  if folded && ends = ['\n'] && !first.any isBlank && !next.any isBlank then
    (if breaks.isEmpty then [' '] else breaks)
  else ends ++ breaks

/-- Reads the lines of a block scalar from the beginning of one of them. Gives the text in reverse,
its last line end, the line ends after that, and the place after them. -/
def blockLines (folded : Bool) (indent : Nat) :
    Nat → List Char → Cursor → List Char × List Char × List Char × Cursor
  | 0, text, c => (text, [], [], c)
  | fuel + 1, text, c =>
    let line := c.rest.takeWhile (!isBreak ·)
    let text := line.reverse ++ text
    let c := c.skip line.length
    let ends := (c.rest.take 1).map lineEnd
    let (breaks, c) := c.next.skipIndentedLines indent (fuel + 1) []
    if c.column = indent ∧ !c.rest.isEmpty then
      let joined := joinLines folded line.head? c.rest.head? ends breaks
      blockLines folded indent fuel (joined.reverse ++ text) c
    else (text, ends, breaks, c)

/-- Reads a block scalar whose text is indented by `least` columns or more. Gives the text and the
place after it. There is fuel for each character that follows. -/
def blockText? (folded : Bool) (least fuel : Nat) (c : Cursor) : Option (String × Cursor) := do
  let marks := c.rest.tail.takeWhile fun x => x ≠ ' ' && !isBreak x
  let header ← BlockHeader.ofMarks? marks
  let c ← (c.skip (marks.length + 1)).endLine?
  let (breaks, indent, c) :=
    match header.indent with
    | none =>
      let (breaks, column, c) := c.skipLeadingLines fuel [] 0
      (breaks, max least column, c)
    | some n =>
      let indent := least + n - 1
      let (breaks, c) := c.skipIndentedLines indent fuel []
      (breaks, indent, c)
  let (text, ends, breaks, c) :=
    if c.column = indent ∧ !c.rest.isEmpty then blockLines folded indent fuel breaks.reverse c
    else ([], [], breaks, c)
  let last := match header.chomping with
    | .clip => ends
    | .strip => []
    | .keep => ends ++ breaks
  return (String.ofList (text.reverse ++ last), c)

end Airlight.Yaml
