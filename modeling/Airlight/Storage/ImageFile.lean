import Airlight.Scalar.Precision
import Airlight.Storage.Bytes
import Airlight.Storage.ChannelImage

/-!
# Image files

The file of an image gives its sizes and channels as attributes; the rows follow from top to bottom,
the channels of a row one after another in alphabetical order.
-/

namespace Airlight.Storage

/-- The bits of a value in half precision. -/
def halfBits (x : Float) : Nat :=
  if x.isNaN then 0x7e00
  else
    let sign := if x.toBits.toNat / Nat.pow 2 63 = 1 then 0x8000 else 0
    match Binary64.ofFloat? x with
    | none => sign + 0x7c00
    | some b =>
      let stored := b.narrow 11 (-24)
      sign + (stored.exponent + 24).toNat * 1024 + stored.significand

/-- Appends a value of an image. -/
def pushPixel (half : Bool) (out : ByteArray) (x : Float) : ByteArray :=
  if half then pushNumber out 2 (halfBits x) else pushNumber out 4 x.toFloat32.toBits.toNat

/-- A text with the zero byte that ends it. -/
def endedText (text : String) : ByteArray := text.toUTF8.push 0

/-- An attribute of an image. -/
def imageAttribute (name type : String) (value : ByteArray) : ByteArray :=
  pushNumber (endedText name ++ endedText type) 4 value.size ++ value

/-- The attributes of an image. -/
def imageHeader (half : Bool) (height width : Nat) (channels : List Channel) : ByteArray :=
  let one : Nat := 0x3f800000
  let window := pushFields .empty [(4, 0), (4, 0), (4, width - 1), (4, height - 1)]
  let list := channels.foldl
    (fun out c =>
      pushFields (out ++ endedText c.name) [(4, if half then 1 else 2), (4, 0), (4, 1), (4, 1)])
    ByteArray.empty
  let attributes :=
    [imageAttribute "channels" "chlist" (list.push 0),
      imageAttribute "compression" "compression" (pushNumber .empty 1 0),
      imageAttribute "dataWindow" "box2i" window,
      imageAttribute "displayWindow" "box2i" window,
      imageAttribute "lineOrder" "lineOrder" (pushNumber .empty 1 0),
      imageAttribute "pixelAspectRatio" "float" (pushNumber .empty 4 one),
      imageAttribute "screenWindowCenter" "v2f" (pushFields .empty [(4, 0), (4, 0)]),
      imageAttribute "screenWindowWidth" "float" (pushNumber .empty 4 one)]
  (attributes.foldl (· ++ ·) (pushFields .empty [(4, 20000630), (4, 2)])).push 0

/-- The file of an image. -/
def encodeImage (half : Bool) (image : ChannelImage Float) : ByteArray :=
  let listed := Channel.alphabetical.filterMap fun c => (image.find? c).map (c, ·)
  let header := imageHeader half image.height image.width (listed.map Prod.fst)
  let rowSize := (if half then 2 else 4) * listed.length * image.width
  let rowsAt := header.size + 8 * image.height
  let table := (List.range image.height).foldl
    (fun out y => pushNumber out 8 (rowsAt + y * (rowSize + 8))) header
  (List.range image.height).foldl
    (fun out y =>
      listed.foldl
        (fun out (_, plane) => (List.range image.width).foldl
          (fun out x => pushPixel half out (plane.toArray.getD (y * image.width + x) 0.0)) out)
        (pushFields out [(4, y), (4, rowSize)]))
    table

end Airlight.Storage
