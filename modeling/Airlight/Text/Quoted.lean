import Airlight.Text.Basic
import Airlight.Text.Printable

/-!
# Quoted text

Messages show a text between quotes. Single quotes are used unless the text holds a single quote and
no double quote. The quote in use, the backslash, every character that cannot be printed and every
surrogate are escaped. Bytes are shown like the characters of ASCII, all others escaped.
-/

namespace Airlight.Text

/-- The hexadecimal digits of `n`, padded with zeros to a width. -/
def hex (width n : Nat) : List Char :=
  let ds := Nat.toDigits 16 n
  List.replicate (width - ds.length) '0' ++ ds

/-- One character of a text between the given quotes. -/
def escapeChar (quote c : Char) : List Char :=
  if c = quote ∨ c = '\\' then ['\\', c]
  else if c = '\n' then ['\\', 'n']
  else if c = '\r' then ['\\', 'r']
  else if c = '\t' then ['\\', 't']
  else if isPrintable c then [c]
  else if c.toNat < 0x100 then '\\' :: 'x' :: hex 2 c.toNat
  else if c.toNat < 0x10000 then '\\' :: 'u' :: hex 4 c.toNat
  else '\\' :: 'U' :: hex 8 c.toNat

/-- One code point of a text between the given quotes. -/
def escape (quote : Char) : CodePoint → List Char
  | .char c => escapeChar quote c
  | .surrogate k => '\\' :: 'u' :: hex 4 (CodePoint.surrogate k).number

/-- A text between quotes. -/
def quoted (text : Text) : String :=
  let quote : Char :=
    if .char '\x27' ∈ text.points ∧ .char '\x22' ∉ text.points then '\x22' else '\x27'
  String.ofList (quote :: text.points.flatMap (escape quote) ++ [quote])

/-- One byte between the given quotes. -/
def escapeByte (quote : Char) (b : UInt8) : List Char :=
  if b < 0x7f then escapeChar quote (Char.ofNat b.toNat) else '\\' :: 'x' :: hex 2 b.toNat

/-- Bytes between quotes. -/
def quotedBytes (data : List UInt8) : String :=
  let quote : Char := if 0x27 ∈ data ∧ 0x22 ∉ data then '\x22' else '\x27'
  String.ofList ('b' :: quote :: data.flatMap (escapeByte quote) ++ [quote])

end Airlight.Text
