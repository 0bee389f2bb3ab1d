/-!
# Bytes of numbers

File formats write a number with its lowest byte first.
-/

namespace Airlight.Storage

/-- Appends the lowest `width` bytes of a number. -/
def pushNumber (out : ByteArray) : (width value : Nat) → ByteArray
  | 0, _ => out
  | width + 1, value => pushNumber (out.push value.toUInt8) width (value / 256)

/-- Appends numbers that are given with their widths. -/
def pushFields (out : ByteArray) (fields : List (Nat × Nat)) : ByteArray :=
  fields.foldl (fun out (width, value) => pushNumber out width value) out

end Airlight.Storage
