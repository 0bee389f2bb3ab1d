import Airlight.Decimal.Notation
import Airlight.Document.Mapping

/-!
# Documents in JSON

Reads a document in the notation of JSON and writes texts in it. Numbers with a point or an exponent
are reals, all others integers. The halves of a surrogate pair that are escaped one after the other
form a character. Words stand for the values that no digits spell: `NaN`, `Infinity`, `-Infinity`.
-/

namespace Airlight.Json

/-- Whether a character may stand between the parts of a document. -/
def isSpace (c : Char) : Bool := c = ' ' || c = '\t' || c = '\n' || c = '\r'

/-- What follows the next spaces. -/
def skipSpace (cs : List Char) : List Char := cs.dropWhile isSpace

/-- The value of a hexadecimal digit. -/
def hexValue? (c : Char) : Option Nat :=
  if '0' ≤ c ∧ c ≤ '9' then some (c.toNat - '0'.toNat)
  else if 'a' ≤ c ∧ c ≤ 'f' then some (c.toNat - 'a'.toNat + 10)
  else if 'A' ≤ c ∧ c ≤ 'F' then some (c.toNat - 'A'.toNat + 10)
  else none

/-- The number that the next four hexadecimal digits give, and what follows them. -/
def unit? (cs : List Char) : Option (Nat × List Char) := do
  let digits ← (cs.take 4).mapM hexValue?
  if digits.length < 4 then none
  return (digits.foldl (fun n d => 16 * n + d) 0, cs.drop 4)

/-- The character that an escape letter stands for. -/
def escaped? : Char → Option Char
  | '\x22' => some '\x22'
  | '\\' => some '\\'
  | '/' => some '/'
  | 'b' => some '\x08'
  | 'f' => some '\x0c'
  | 'n' => some '\n'
  | 'r' => some '\r'
  | 't' => some '\t'
  | _ => none

/-- The code point that begins with an escaped unit. A second unit after it is taken along if the
two are a surrogate pair. -/
def pointOf? (high : Nat) (rest : List Char) : Option (CodePoint × List Char) :=
  let alone := (CodePoint.ofNumber? high).map (·, rest)
  match rest with
  | '\\' :: 'u' :: more =>
    match unit? more with
    | some (low, more) =>
      if 0xD800 ≤ high ∧ high < 0xDC00 ∧ 0xDC00 ≤ low ∧ low < 0xE000 then
        (CodePoint.ofNumber? (0x10000 + (high - 0xD800) * 0x400 + (low - 0xDC00))).map (·, more)
      else alone
    | none => alone
  | _ => alone

/-- Reads the rest of a text after its opening quote. The code points read so far are kept in
reverse. -/
def readText? : Nat → List CodePoint → List Char → Option (Text × List Char)
  | 0, _, _ => none
  | fuel + 1, text, cs =>
    match cs with
    | [] => none
    | '\x22' :: rest => some (⟨text.reverse⟩, rest)
    | '\\' :: 'u' :: rest => do
      let (high, rest) ← unit? rest
      let (p, rest) ← pointOf? high rest
      readText? fuel (p :: text) rest
    | '\\' :: c :: rest => do readText? fuel (.char (← escaped? c) :: text) rest
    | c :: rest => readText? fuel (.char c :: text) rest

variable {α : Type} [Scalar α]

/-- The value of a number without spaces around it. -/
def numberOf? (cs : List Char) : Option (Value α) :=
  let text := String.ofList cs
  if cs.any fun c => c = '.' || c = 'e' || c = 'E' then
    (Numeral.read? text).map fun n => .real (Scalar.ofNumeral n)
  else (Numeral.readInteger? text).map .integer

/-- The words that stand for values. -/
def words : List (String × Value α) :=
  [("true", .flag true), ("false", .flag false), ("null", .null),
    ("NaN", .real (Scalar.ofNumeral .undefined)),
    ("Infinity", .real (Scalar.ofNumeral (.infinite false))),
    ("-Infinity", .real (Scalar.ofNumeral (.infinite true)))]

/-- Reads a number or a word. -/
def readPlain? (cs : List Char) : Option (Value α × List Char) :=
  match words.find? fun (word, _) => word.toList.isPrefixOf cs with
  | some (word, v) => some (v, cs.drop word.length)
  | none =>
    let digits := cs.takeWhile fun c => c.isDigit || ['+', '-', '.', 'e', 'E'].contains c
    (numberOf? digits).map (·, cs.drop digits.length)

mutual

/-- Reads a value. -/
def readValue? : Nat → List Char → Option (Value α × List Char)
  | 0, _ => none
  | fuel + 1, cs =>
    match skipSpace cs with
    | '\x7b' :: rest => readEntries? fuel [] (skipSpace rest)
    | '[' :: rest => readItems? fuel [] (skipSpace rest)
    | '\x22' :: rest => (readText? fuel [] rest).map fun (t, rest) => (.text t, rest)
    | cs => readPlain? cs

/-- Reads the items of a list up to its end. Those read so far are kept in reverse. -/
def readItems? : Nat → List (Value α) → List Char → Option (Value α × List Char)
  | 0, _, _ => none
  | fuel + 1, items, cs =>
    match cs with
    | ']' :: rest => some (.list items.reverse, rest)
    | ',' :: rest => readItems? fuel items (skipSpace rest)
    | cs => do
      let (v, rest) ← readValue? fuel cs
      readItems? fuel (v :: items) (skipSpace rest)

/-- Reads the entries of a mapping up to its end. -/
def readEntries? : Nat → List (Value α × Value α) → List Char → Option (Value α × List Char)
  | 0, _, _ => none
  | fuel + 1, entries, cs =>
    match cs with
    | '\x7d' :: rest => some (.mapping entries, rest)
    | ',' :: rest => readEntries? fuel entries (skipSpace rest)
    | '\x22' :: rest => do
      let (key, rest) ← readText? fuel [] rest
      match skipSpace rest with
      | ':' :: rest => do
        let (v, rest) ← readValue? fuel rest
        readEntries? fuel (Value.insertEntry entries (.text key, v)) (skipSpace rest)
      | _ => none
    | _ => none

end

/-- The value of a document; `none` when it is no JSON. -/
def read? (document : String) : Option (Value α) :=
  let cs := document.toList
  match readValue? (cs.length + 1) cs with
  | some (v, rest) => if (skipSpace rest).isEmpty then some v else none
  | none => none

/-- An escaped unit. -/
def escapedUnit (n : Nat) : String :=
  "\\u" ++ String.ofList (Decimal.padLeft 4 (Nat.toDigits 16 n))

/-- An escaped code point: one unit, or the two of a surrogate pair. -/
def escapedPoint (n : Nat) : String :=
  if n < 0x10000 then escapedUnit n
  else
    escapedUnit (0xD800 + (n - 0x10000) / 0x400) ++ escapedUnit (0xDC00 + (n - 0x10000) % 0x400)

/-- A code point between quotes. All but the visible characters of ASCII are escaped. -/
def showPoint (p : CodePoint) : String :=
  match p with
  | .char '\x22' => "\\\x22"
  | .char '\\' => "\\\\"
  | .char c => if ' ' ≤ c ∧ c ≤ '~' then String.singleton c else escapedPoint c.toNat
  | .surrogate _ => escapedUnit p.number

/-- A text between quotes. -/
def quote (t : Text) : String :=
  t.points.foldl (fun out p => out ++ showPoint p) "\x22" ++ "\x22"

end Airlight.Json
