import Airlight.Text.Basic
import Airlight.Yaml.Fault
import Airlight.Yaml.Mark

/-!
# Scalars

A scalar is plain or stands between quotes. A line end inside a scalar is folded: it counts as a
space, unless empty lines follow it.
-/

namespace Airlight.Yaml

/-! ## Quoted scalars -/

/-- The character that an escape letter stands for. -/
def escapeOf? : Char → Option Char
  | '0' => some '\x00'
  | 'a' => some '\x07'
  | 'b' => some '\x08'
  | 't' => some '\t'
  | '\t' => some '\t'
  | 'n' => some '\n'
  | 'v' => some '\x0b'
  | 'f' => some '\x0c'
  | 'r' => some '\r'
  | 'e' => some '\x1b'
  | ' ' => some ' '
  | '\x22' => some '\x22'
  | '\\' => some '\\'
  | '/' => some '/'
  | 'N' => some '\x85'
  | '_' => some '\xa0'
  | 'L' => some '\u2028'
  | 'P' => some '\u2029'
  | _ => none

/-- How many hexadecimal digits follow an escape letter. -/
def escapeWidth? : Char → Option Nat
  | 'x' => some 2
  | 'u' => some 4
  | 'U' => some 8
  | _ => none

/-- The code point with the hexadecimal number that the next `width` digits give, which begin at a
place in the text. -/
def hexPoint (width place : Nat) (cs : List Char) : Except Stop CodePoint := do
  let digits ← orStop ((cs.take width).mapM hexDigit?)
  if digits.length ≠ width then throw .malformed
  let code := digits.foldl (fun n d => 16 * n + d) 0
  match CodePoint.ofNumber? code with
  | some p => return p
  | none =>
    let cause : Fault := if code < Nat.pow 2 31 then .spelling .codePoint else .range
    throw ⟨cause, place + width⟩

/-- Code points for characters, in reverse. -/
def reversed (cs : List Char) : List CodePoint := (cs.map CodePoint.char).reverse

/-- Reads the rest of a quoted scalar after its opening quote. The code points read so far are kept
in reverse. -/
def quotedText (double : Bool) : Nat → List CodePoint → Cursor → Except Stop (Text × Cursor)
  | 0, _, _ => .error .malformed
  | fuel + 1, text, c =>
    match c.rest with
    | [] => .error .malformed
    | x :: following =>
      if x = (if double then '\x22' else '\x27') then
        if !double && following.head? = some '\x27' then
          quotedText double fuel (.char '\x27' :: text) (c.skip 2)
        else .ok (⟨text.reverse⟩, c.next)
      else if double && x = '\\' then
        match following with
        | [] => .error .malformed
        | y :: digits =>
          match escapeOf? y, escapeWidth? y with
          | some z, _ => quotedText double fuel (.char z :: text) (c.skip 2)
          | none, some width =>
            match hexPoint width (c.offset + 2) digits with
            | .ok z => quotedText double fuel (z :: text) (c.skip (width + 2))
            | .error stop => .error stop
          | none, none =>
            if isBreak y then
              let (breaks, marker, c) := (c.skip 2).skipEmptyLines isBlank (fuel + 1) []
              if marker then .error .malformed
              else quotedText double fuel (reversed breaks ++ text) c
            else .error .malformed
      else if isBlank x || isBreak x then
        let blanks := c.rest.takeWhile isBlank
        let c := c.skip blanks.length
        match c.rest with
        | [] => .error .malformed
        | y :: _ =>
          if isBreak y then
            let (breaks, marker, c) := c.next.skipEmptyLines isBlank (fuel + 1) []
            if marker then .error .malformed
            else quotedText double fuel (reversed (foldLines y breaks) ++ text) c
          else quotedText double fuel (reversed blanks ++ text) c
      else quotedText double fuel (.char x :: text) c.next

/-! ## Plain scalars -/

/-- The characters that have a meaning of their own inside brackets. -/
def flowIndicators : List Char := [',', '[', ']', '\x7b', '\x7d']

/-- Whether a plain scalar ends before `c`: at a blank, at a colon that separates a key from its
value, and inside brackets at their indicators. -/
def endsPlain (inFlow : Bool) (c : Char) (next : Option Char) : Bool :=
  isBlank c || isBreak c ||
    (c = ':' && (endsToken next || (inFlow && next.any flowIndicators.contains))) ||
    (inFlow && (c = '?' || flowIndicators.contains c))

/-- The length of the part of a plain scalar before its next blank. -/
def plainLength (inFlow : Bool) : List Char → Nat
  | [] => 0
  | c :: rest => if endsPlain inFlow c rest.head? then 0 else plainLength inFlow rest + 1

/-- The blanks after a part of a plain scalar: the text they stand for if another part follows,
whether they contain a line end, and the place after them. -/
def plainGap (fuel : Nat) (c : Cursor) : List Char × Bool × Cursor :=
  let spaces := c.rest.takeWhile (· = ' ')
  let c := c.skip spaces.length
  match c.rest with
  | x :: _ =>
    if isBreak x then
      let (breaks, marker, c) := c.next.skipEmptyLines (· = ' ') fuel []
      (if marker then [] else foldLines x breaks, true, c)
    else (spaces, false, c)
  | [] => (spaces, false, c)

/-- Reads a plain scalar whose further lines are indented by `indent` columns at least. The parts
read so far are kept in reverse, and `gap` is the text between them and the next part. The flag in
the result says whether a line end was passed after the last part. -/
def plainText (inFlow : Bool) (indent : Nat) :
    Nat → List Char → List Char → Bool → Cursor → String × Bool × Cursor
  | 0, text, _, passed, c => (String.ofList text.reverse, passed, c)
  | fuel + 1, text, gap, passed, c =>
    let n := if c.rest.head? = some '#' then 0 else plainLength inFlow c.rest
    if n = 0 then (String.ofList text.reverse, passed, c)
    else
      let text := (c.rest.take n).reverse ++ (gap.reverse ++ text)
      let (gap, passed, c) := plainGap (fuel + 1) (c.skip n)
      if gap.isEmpty || c.rest.head? = some '#' || (!inFlow && c.column < indent) then
        (String.ofList text.reverse, passed, c)
      else plainText inFlow indent fuel text gap passed c

end Airlight.Yaml
