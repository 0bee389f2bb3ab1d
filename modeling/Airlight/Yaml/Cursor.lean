/-!
# Reading positions

A `Cursor` is a place in a document: the characters that follow and the line and column reached.
Line structure is significant in YAML, so every scalar and every token is read from a cursor.
-/

namespace Airlight.Yaml

/-- Whether a character ends a line. -/
def isBreak (c : Char) : Bool := c = '\n' || c = '\x85' || c = '\u2028' || c = '\u2029'

/-- The character that a line end counts as. -/
def lineEnd (c : Char) : Char := if c = '\x85' then '\n' else c

/-- Whether a character is a space or a tab. -/
def isBlank (c : Char) : Bool := c = ' ' || c = '\t'

/-- Whether a token may end before `next`: at a blank, at the end of a line or of the document. -/
def endsToken (next : Option Char) : Bool :=
  match next with
  | none => true
  | some c => isBlank c || isBreak c

/-- A place in a document. -/
structure Cursor where
  rest : List Char
  line : Nat
  column : Nat
  offset : Nat

namespace Cursor

/-- The beginning of a document. -/
def start (text : List Char) : Cursor := ⟨text, 0, 0, 0⟩

/-- The place after the next character. A byte order mark takes no column. -/
def next (c : Cursor) : Cursor :=
  match c.rest with
  | [] => c
  | x :: rest =>
    if isBreak x then ⟨rest, c.line + 1, 0, c.offset + 1⟩
    else if x = '\ufeff' then ⟨rest, c.line, c.column, c.offset + 1⟩
    else ⟨rest, c.line, c.column + 1, c.offset + 1⟩

/-- The place after the next `n` characters. -/
def skip : Nat → Cursor → Cursor
  | 0, c => c
  | n + 1, c => skip n c.next

/-- The place at which `rest` is what follows. -/
def goTo (rest : List Char) (c : Cursor) : Cursor := c.skip (c.rest.length - rest.length)

/-- The place after all characters with a property. -/
def skipWhile (p : Char → Bool) (c : Cursor) : Cursor := c.skip (c.rest.takeWhile p).length

/-- Whether a marker of three equal characters stands alone at the beginning of a line. -/
def atMarker (mark : Char) (c : Cursor) : Bool :=
  c.column == 0 && c.rest.take 3 == [mark, mark, mark] && endsToken (c.rest.drop 3).head?

/-- Whether a marker between documents stands at the beginning of a line. -/
def atAnyMarker (c : Cursor) : Bool := c.atMarker '-' || c.atMarker '.'

/-- The place after blanks, comments and line ends, and whether a line end was passed. -/
def skipToToken : Nat → Bool → Cursor → Bool × Cursor
  | 0, passed, c => (passed, c)
  | fuel + 1, passed, c =>
    let c := c.skipWhile (· = ' ')
    let c := if c.rest.head? = some '#' then c.skipWhile (!isBreak ·) else c
    match c.rest with
    | x :: _ => if isBreak x then skipToToken fuel true c.next else (passed, c)
    | [] => (passed, c)

/-- Passes the blanks and empty lines that follow a line end inside a scalar. Gives the further line
ends, whether a marker between documents stopped the passage, and the place reached. -/
def skipEmptyLines (blank : Char → Bool) : Nat → List Char → Cursor → List Char × Bool × Cursor
  | 0, breaks, c => (breaks.reverse, c.atAnyMarker, c)
  | fuel + 1, breaks, c =>
    match c.rest with
    | x :: _ =>
      if c.atAnyMarker then (breaks.reverse, true, c)
      else if blank x then skipEmptyLines blank fuel breaks c.next
      else if isBreak x then
        skipEmptyLines blank fuel (lineEnd x :: breaks) c.next
      else (breaks.reverse, false, c)
    | [] => (breaks.reverse, false, c)

end Cursor

/-- The text that stands for a line end `first` followed by further line ends: a single one counts
as a space, and the first of several is dropped. -/
def foldLines (first : Char) (breaks : List Char) : List Char :=
  if first = '\u2028' ∨ first = '\u2029' then first :: breaks
  else if breaks.isEmpty then [' '] else breaks

end Airlight.Yaml
