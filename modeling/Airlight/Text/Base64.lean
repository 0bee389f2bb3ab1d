/-!
# Bytes in base 64

Four digits of six bits each give three bytes. Padding marks fill up the last four when there are
fewer bytes. Characters that are neither digits nor padding do not count.
-/

namespace Airlight.Base64

/-- The value of a digit. -/
def digit? (c : Char) : Option Nat :=
  if 'A' ≤ c ∧ c ≤ 'Z' then some (c.toNat - 'A'.toNat)
  else if 'a' ≤ c ∧ c ≤ 'z' then some (c.toNat - 'a'.toNat + 26)
  else if c.isDigit then some (c.toNat - '0'.toNat + 52)
  else if c = '+' then some 62
  else if c = '/' then some 63
  else none

/-- The bytes of the text after `place` digits of four, the last of them `last`, and `pads` padding
marks. Once padding has filled up four digits the rest does not count; without it no digits may
be missing. -/
def bytesFrom? (place last pads : Nat) : List Char → Option (List UInt8)
  | [] => if place = 0 then some [] else none
  | c :: rest =>
    if c = '=' then
      if place < 2 then bytesFrom? place last pads rest
      else if 4 ≤ place + (pads + 1) then some []
      else bytesFrom? place last (pads + 1) rest
    else
      match digit? c with
      | none => bytesFrom? place last pads rest
      | some d =>
        let bytes := bytesFrom? ((place + 1) % 4) d 0 rest
        match place with
        | 0 => bytes
        | 1 => bytes.map (UInt8.ofNat (last * 4 + d / 16) :: ·)
        | 2 => bytes.map (UInt8.ofNat (last % 16 * 16 + d / 4) :: ·)
        | _ => bytes.map (UInt8.ofNat (last % 4 * 64 + d) :: ·)

/-- The bytes that a text gives. -/
def bytes? (text : List Char) : Option (List UInt8) := bytesFrom? 0 0 0 text

end Airlight.Base64
