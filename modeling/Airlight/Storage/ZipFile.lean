import Airlight.Storage.Bytes

/-!
# Zip files

A zip file holds each member behind a header of its own and ends with a directory of all members.
The members are stored as they are, and guarded by a checksum.
-/

namespace Airlight.Storage.Zip

/-- One step of the division that yields the checksum, for `count` bits. -/
def reduce : (count : Nat) → UInt32 → UInt32
  | 0, c => c
  | count + 1, c =>
    reduce count (if c &&& 1 = 1 then (c >>> 1) ^^^ 0xedb88320 else c >>> 1)

/-- The remainders of all bytes. -/
def remainders : Vector UInt32 256 := Vector.ofFn fun i => reduce 8 i.val.toUInt32

/-- The checksum of bytes. -/
def checksum (bytes : ByteArray) : UInt32 :=
  let table := remainders
  let rest := bytes.foldl
    (fun c b => table[((c ^^^ b.toUInt32) &&& 0xff).toNat % 256] ^^^ (c >>> 8)) 0xffffffff
  rest ^^^ 0xffffffff

/-- The fields that a member's header and its entry in the directory have in common. -/
def memberFields (name bytes : ByteArray) : List (Nat × Nat) :=
  [(2, 20), (2, 0), (2, 0), (2, 0), (2, 33), (4, (checksum bytes).toNat), (4, bytes.size),
    (4, bytes.size), (2, name.size), (2, 0)]

/-- A member behind its header. -/
def member (name bytes : ByteArray) : ByteArray :=
  pushFields .empty ((4, 0x04034b50) :: memberFields name bytes) ++ name ++ bytes

/-- The entry in the directory of a member that begins at an offset. -/
def entry (name bytes : ByteArray) (offset : Nat) : ByteArray :=
  pushFields .empty
    ((4, 0x02014b50) :: (2, 20) :: memberFields name bytes ++
      [(2, 0), (2, 0), (2, 0), (4, 0), (4, offset)]) ++ name

/-- The file with the given members. -/
def encode (members : List (String × ByteArray)) : ByteArray :=
  let (body, directory) := members.foldl
    (fun (body, directory) (name, bytes) =>
      (body ++ member name.toUTF8 bytes, directory ++ entry name.toUTF8 bytes body.size))
    (ByteArray.empty, ByteArray.empty)
  body ++ directory ++ pushFields .empty
    [(4, 0x06054b50), (2, 0), (2, 0), (2, members.length), (2, members.length),
      (4, directory.size), (4, body.size), (2, 0)]

end Airlight.Storage.Zip
