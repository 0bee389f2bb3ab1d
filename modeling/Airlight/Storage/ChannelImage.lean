import Airlight.Tensor

/-!
# Images by channel

An image file keeps the values of each channel apart from those of the others and finds them by the
name of the channel. An array of pixels is split into channels when it is stored; the channels that
a file has are put together again in a fixed order.
-/

namespace Airlight.Storage

/-- The channels that an image can have. -/
inductive Channel where
  | red
  | green
  | blue
  | alpha
  deriving DecidableEq, Repr

namespace Channel

def name : Channel → String
  | red => "R"
  | green => "G"
  | blue => "B"
  | alpha => "A"

/-- The channels in the order of the values of a pixel. -/
def all : List Channel := [red, green, blue, alpha]

/-- The channels by name, as files list them. -/
def alphabetical : List Channel := [alpha, blue, green, red]

end Channel

/-- An image of some channels, each with its values row by row. -/
structure ChannelImage (α : Type) where
  height : Nat
  width : Nat
  planes : List (Channel × Vector α (height * width))

namespace ChannelImage

variable {α : Type} [Inhabited α]

/-- The values of one place in the pixels. -/
def plane (height width channels : Nat) (data : Array α) (place : Nat) :
    Vector α (height * width) :=
  Vector.ofFn fun k => data.getD (k * channels + place) default

/-- Splits pixels of up to four values into the first channels. -/
def split (height width channels : Nat) (data : Array α) : ChannelImage α where
  height := height
  width := width
  planes := (Channel.all.take channels).zipIdx.map fun (channel, place) =>
    (channel, plane height width channels data place)

omit [Inhabited α] in
/-- The values of a channel, if the image has it. -/
def find? (image : ChannelImage α) (channel : Channel) :
    Option (Vector α (image.height * image.width)) := image.planes.lookup channel

/-- The values of the channels that the image has, in the order of the values of a pixel. -/
def present (image : ChannelImage α) : List (Vector α (image.height * image.width)) :=
  Channel.all.filterMap image.find?

/-- The pixels of the channels that the image has. -/
def pixels (image : ChannelImage α) : Tensor α :=
  let planes := image.present
  Tensor.ofFn [image.height, image.width, planes.length] fun k =>
    match planes[k % planes.length]? with
    | some plane => plane.toArray.getD (k / planes.length) default
    | none => default

/-- An image stands for its pixels. -/
instance : Coe (ChannelImage α) (Tensor α) := ⟨pixels⟩

end ChannelImage

end Airlight.Storage
