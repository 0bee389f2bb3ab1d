import Airlight.Yaml.Block
import Airlight.Yaml.Scalar

/-!
# Tokens

The structure of a document as a flat list. Indentation is made explicit: a block collection begins
and ends with a token of its own. A key is recognised by the colon after it, so the token that marks
it is put in front of it only then. A fault ends the list: what comes before it may still be found
to break the rules, and that counts first.
-/

namespace Airlight.Yaml

/-- A piece of a document. -/
inductive Token where
  | documentStart
  | documentEnd
  | blockSequence
  | blockMapping
  | blockEnd
  | flowSequence
  | flowSequenceEnd
  | flowMapping
  | flowMappingEnd
  | entry
  | comma
  | key
  | value
  | plain (text : String)
  /-- A scalar between quotes or in a block of its own. -/
  | quoted (text : Text)
  | anchor (name : String)
  | reference (name : String)
  | tag (tag : Tag)
  | directive (directive : Directive)
  /-- What follows cannot be read. -/
  | fault (stop : Stop)
  deriving DecidableEq, Repr

/-- A token that turns out to begin a key if a colon follows on its line. -/
structure PendingKey where
  /-- How many tokens stand before it. -/
  position : Nat
  /-- Whether it can be nothing but a key. -/
  required : Bool
  line : Nat
  column : Nat
  offset : Nat

/-- The state of reading tokens. -/
structure TokenReader where
  cursor : Cursor
  /-- The tokens read so far, the last one first. -/
  tokens : List Token
  /-- How many tokens have been read. -/
  count : Nat
  /-- The columns of the open block collections, innermost first. -/
  columns : List Nat
  /-- Whether a key may begin here. -/
  keyAllowed : Bool
  /-- The pending key inside the innermost brackets. -/
  pending : Option PendingKey
  /-- The pending keys around each open bracket, innermost first. -/
  outer : List (Option PendingKey)

namespace TokenReader

/-- The state at the beginning of a document. -/
def start (text : List Char) : TokenReader where
  cursor := .start text
  tokens := []
  count := 0
  columns := []
  keyAllowed := true
  pending := none
  outer := []

/-- Whether a bracket is open. -/
def inFlow (s : TokenReader) : Bool := !s.outer.isEmpty

/-- Adds a token. -/
def push (s : TokenReader) (t : Token) : TokenReader :=
  { s with tokens := t :: s.tokens, count := s.count + 1 }

/-- Adds a token in front of those from a position on. -/
def insert (s : TokenReader) (position : Nat) (t : Token) : TokenReader :=
  let later := s.count - position
  { s with
    tokens := s.tokens.take later ++ t :: s.tokens.drop later
    count := s.count + 1 }

/-- Moves past `n` characters. -/
def skip (s : TokenReader) (n : Nat) : TokenReader := { s with cursor := s.cursor.skip n }

/-- Whether a pending key is too far back to be followed by its colon. -/
def isStale (s : TokenReader) (k : PendingKey) : Bool :=
  k.line ≠ s.cursor.line || k.offset + 1024 < s.cursor.offset

/-- Keeps a pending key unless it is stale; fails if it is stale and required. -/
def refresh? (s : TokenReader) : Option PendingKey → Option (Option PendingKey)
  | none => some none
  | some k => if s.isStale k then (if k.required then none else some none) else some (some k)

/-- Drops all stale pending keys. -/
def dropStale? (s : TokenReader) : Option TokenReader := do
  let pending ← s.refresh? s.pending
  let outer ← s.outer.mapM s.refresh?
  return { s with pending, outer }

/-- Drops the pending key, which must not be required. -/
def dropPending? (s : TokenReader) : Option TokenReader :=
  if s.pending.any (·.required) then none else some { s with pending := none }

/-- Notes that a key may begin here. -/
def savePending? (s : TokenReader) : Option TokenReader :=
  if !s.keyAllowed then some s
  else do
    let c := s.cursor
    let required := !s.inFlow && s.columns.head? = some c.column
    let s ← s.dropPending?
    return { s with pending := some ⟨s.count, required, c.line, c.column, c.offset⟩ }

/-- Ends the innermost `n` block collections. -/
def close (s : TokenReader) (n : Nat) : TokenReader :=
  { s with
    columns := s.columns.drop n
    tokens := List.replicate n .blockEnd ++ s.tokens
    count := s.count + n }

/-- Ends the block collections further to the right than a column. -/
def closeTo (s : TokenReader) (column : Nat) : TokenReader :=
  if s.inFlow then s else s.close (s.columns.takeWhile (column < ·)).length

/-- Ends all block collections. -/
def closeAll (s : TokenReader) : TokenReader :=
  if s.inFlow then s else s.close s.columns.length

/-- Begins a block collection at a column, unless one is open there, with its token at a
position. -/
def openAt (s : TokenReader) (column : Nat) (t : Token) (position : Nat) : TokenReader :=
  if s.columns.head?.all (· < column) then
    { s.insert position t with columns := column :: s.columns }
  else s

/-- Begins a block collection at the current place, where a key or an entry has to be allowed. -/
def openHere? (s : TokenReader) (t : Token) : Option TokenReader :=
  if s.inFlow then some s
  else if s.keyAllowed then some (s.openAt s.cursor.column t s.count)
  else none

/-- Reads a marker between documents. -/
def readMarker? (s : TokenReader) (t : Token) : Option TokenReader := do
  let s ← s.closeAll.dropPending?
  return { (s.skip 3).push t with keyAllowed := false }

/-- Reads an opening bracket. -/
def readOpening? (s : TokenReader) (t : Token) : Option TokenReader := do
  let s ← s.savePending?
  return { (s.skip 1).push t with
    keyAllowed := true
    pending := none
    outer := s.pending :: s.outer }

/-- Reads a closing bracket. -/
def readClosing? (s : TokenReader) (t : Token) : Option TokenReader := do
  let s ← s.dropPending?
  match s.outer with
  | [] => none
  | pending :: outer => return { (s.skip 1).push t with keyAllowed := false, pending, outer }

/-- Reads a comma between entries. -/
def readComma? (s : TokenReader) : Option TokenReader := do
  let s ← s.dropPending?
  return { (s.skip 1).push .comma with keyAllowed := true }

/-- Reads the dash in front of an entry. -/
def readEntry? (s : TokenReader) : Option TokenReader := do
  let s ← (← s.openHere? .blockSequence).dropPending?
  return { (s.skip 1).push .entry with keyAllowed := true }

/-- Reads the question mark in front of a key. -/
def readKey? (s : TokenReader) : Option TokenReader := do
  let s ← (← s.openHere? .blockMapping).dropPending?
  return { (s.skip 1).push .key with keyAllowed := !s.inFlow }

/-- Reads the colon in front of a value. The pending key, if there is one, becomes its key. -/
def readValue? (s : TokenReader) : Option TokenReader :=
  match s.pending with
  | some k =>
    let s := { s.insert k.position .key with pending := none }
    let s := if s.inFlow then s else s.openAt k.column .blockMapping k.position
    some { (s.skip 1).push .value with keyAllowed := false }
  | none => do
    let s ← s.openHere? .blockMapping
    return { (s.skip 1).push .value with keyAllowed := !s.inFlow }

/-- Reads a quoted scalar. -/
def readQuoted (s : TokenReader) (fuel : Nat) (double : Bool) : Except Stop TokenReader := do
  let s ← orStop s.savePending?
  let (text, cursor) ← quotedText double fuel [] s.cursor.next
  return { s.push (.quoted text) with cursor, keyAllowed := false }

/-- The least column of the further lines of a scalar. -/
def indent (s : TokenReader) : Nat :=
  match s.columns with
  | [] => 0
  | column :: _ => column + 1

/-- Reads a plain scalar. -/
def readPlain? (s : TokenReader) (fuel : Nat) : Option TokenReader := do
  let s ← s.savePending?
  let (text, passed, cursor) := plainText s.inFlow s.indent fuel [] [] false s.cursor
  return { s.push (.plain text) with cursor, keyAllowed := passed }

/-- Reads a scalar in a block of its own. -/
def readBlock? (s : TokenReader) (fuel : Nat) (folded : Bool) : Option TokenReader := do
  let s ← s.dropPending?
  let (text, cursor) ← blockText? folded (max 1 s.indent) fuel s.cursor
  return { s.push (.quoted text) with cursor, keyAllowed := true }

/-- Reads what is written in front of a node, or a reference to one. -/
def readProperty? (s : TokenReader) (t : Token) (rest : List Char) : Option TokenReader := do
  let s ← s.savePending?
  return { s.push t with cursor := s.cursor.goTo rest, keyAllowed := false }

/-- Reads a directive. -/
def readDirective (s : TokenReader) : Except Stop TokenReader := do
  let s ← orStop s.closeAll.dropPending?
  let last := s.cursor.offset + s.cursor.rest.length
  let (directive, rest) ← takeDirective last s.cursor.rest.tail
  let cursor ← orStop (s.cursor.goTo rest).endLine?
  return { s.push (.directive directive) with cursor, keyAllowed := false }

/-- Whether a plain scalar can begin with `c`. -/
def beginsPlain (s : TokenReader) (c : Char) (next : Option Char) : Bool :=
  if "-?:,[]\x7b\x7d#&*!|>\x27\x22%@\x60".contains c then
    !endsToken next && (c = '-' || (!s.inFlow && (c = '?' || c = ':')))
  else !endsToken (some c)

/-- How many brackets may be open. Nodes are not read as far down as that, even if there are keys
pending on a whole line. -/
def maxOpen : Nat := 4096

/-- Reads the token that begins with `c`. -/
def readToken (s : TokenReader) (fuel : Nat) (c : Char) (next : Option Char) :
    Except Stop TokenReader :=
  if c = '\x27' then s.readQuoted fuel false
  else if c = '\x22' then s.readQuoted fuel true
  else if maxOpen ≤ s.outer.length then .error ⟨.depth, 0⟩
  else if c = '%' && s.cursor.column = 0 then s.readDirective
  else orStop <|
    if s.cursor.atMarker '-' then s.readMarker? .documentStart
    else if s.cursor.atMarker '.' then s.readMarker? .documentEnd
    else if c = '[' then s.readOpening? .flowSequence
    else if c = '\x7b' then s.readOpening? .flowMapping
    else if c = ']' then s.readClosing? .flowSequenceEnd
    else if c = '\x7d' then s.readClosing? .flowMappingEnd
    else if c = ',' then s.readComma?
    else if c = '-' && endsToken next then s.readEntry?
    else if c = '?' && (s.inFlow || endsToken next) then s.readKey?
    else if c = ':' && (s.inFlow || endsToken next) then s.readValue?
    else if c = '*' then do
      let (name, rest) ← takeAnchor? s.cursor.rest.tail
      s.readProperty? (.reference name) rest
    else if c = '&' then do
      let (name, rest) ← takeAnchor? s.cursor.rest.tail
      s.readProperty? (.anchor name) rest
    else if c = '!' then do
      let (tag, rest) ← takeTag? s.cursor.rest
      s.readProperty? (.tag tag) rest
    else if !s.inFlow && (c = '|' || c = '>') then s.readBlock? fuel (c = '>')
    else if s.beginsPlain c next then s.readPlain? fuel
    else none

/-- Reads the next token. The flag says whether there was one. There is fuel for each character that
follows and for the end. -/
def readNext (s : TokenReader) (fuel : Nat) : Except Stop (Bool × TokenReader) := do
  let (passed, cursor) := s.cursor.skipToToken fuel false
  let s := { s with cursor, keyAllowed := s.keyAllowed || (passed && !s.inFlow) }
  let s ← orStop s.dropStale?
  match s.cursor.rest with
  | [] => return (false, ← orStop s.closeAll.dropPending?)
  | c :: rest => return (true, ← (s.closeTo s.cursor.column).readToken fuel c rest.head?)

/-- How many tokens are settled: no key begins in front of them any more. -/
def settled (s : TokenReader) : Nat :=
  (s.pending :: s.outer).foldl (fun n pending =>
    match pending with
    | some k => if s.isStale k then n else min n k.position
    | none => n) s.count

/-- Reads all tokens. After a fault only those that were settled before it stay. -/
def readAll : Nat → TokenReader → List Token
  | 0, _ => [.fault .malformed]
  | fuel + 1, s =>
    match s.readNext (fuel + 1) with
    | .ok (true, s) => readAll fuel s
    | .ok (false, s) => s.tokens.reverse
    | .error stop => (.fault stop :: s.tokens.drop (s.count - s.settled)).reverse

end TokenReader

/-- The tokens of a document. -/
def Token.ofText (text : List Char) : List Token :=
  TokenReader.readAll (text.length + 1) (.start text)

end Airlight.Yaml
