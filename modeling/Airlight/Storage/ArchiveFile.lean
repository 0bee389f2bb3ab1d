import Airlight.Failure.Message
import Airlight.Storage.FileStore
import Airlight.Storage.ZipFile

/-!
# Archive files

The file of a texture archive is a zip file with one member for each texture: a line that gives the
type of the values and the sizes, and the values in single precision.
-/

namespace Airlight.Storage

/-- The marks with which the file of an array begins. -/
def arrayMark : ByteArray := ⟨#[0x93, 0x4e, 0x55, 0x4d, 0x50, 0x59, 1, 0]⟩

/-- The line that describes an array, padded so that the values begin at a multiple of 64 bytes. -/
def arrayHeader (shape : List Nat) : String :=
  let text := "\x7b'descr': '<f4', 'fortran_order': False, 'shape': " ++ showShape shape ++ ", \x7d"
  text.pushn ' ' (63 - (text.length + 10) % 64) ++ "\n"

/-- The file of an array. -/
def encodeArray (t : Tensor Float) : ByteArray :=
  let header := (arrayHeader t.shape).toUTF8
  let start := pushNumber arrayMark 2 header.size ++ header
  t.data.foldl (fun out x => pushNumber out 4 x.toFloat32.toBits.toNat) start

/-- The file of an archive. -/
def encodeArchive (textures : NamedTextures Float) : ByteArray :=
  Zip.encode (textures.map fun (name, t) => (name.text ++ ".npy", encodeArray t))

end Airlight.Storage
