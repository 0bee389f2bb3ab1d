import Airlight.Journal.Console
import Airlight.Scalar.Precision
import Airlight.Storage.Tiling
import Airlight.Storage.Update

/-!
# Image files

An image file holds an array of rows, columns and one to four channels in single or half precision,
channel by channel.
A grid is written as the image of its depth slices.
-/

namespace Airlight.Storage

variable {α : Type} [Inhabited α]

/-- How images are stored. -/
structure ImageSupport (α : Type) where
  /-- Whether images can be stored at all. -/
  available : Bool
  round : Precision → α → α

namespace ImageSupport

/-- The image of an array: a grid has its depth slices side by side. -/
def layOut (t : Tensor α) : Except (Failure α) (Tensor α) :=
  if t.shape.length = 4 then tileTensor t else .ok t

/-- The image by which a file keeps an array. There has to be a pixel. -/
def encode (s : ImageSupport α) (half : Bool) (t : Tensor α) :
    Except (Failure α) (ChannelImage α) := do
  let image ← layOut (t.map (s.round .single))
  match image.shape with
  | [rows, columns, channels] =>
    if channels = 0 ∨ 4 < channels then throw (.argument (.imageShape image.shape))
    if rows = 0 ∨ columns = 0 then throw (.storage .imageRefused)
    let image := if half then image.map (s.round .half) else image
    return .split rows columns channels image.data
  | shape => throw (.argument (.imageShape shape))

/-- Refuses paths with surrogates, also with those that stand for bytes. -/
def checkPath {α : Type} (path : Text) : Except (Failure α) Unit :=
  if path.toString?.isSome then .ok () else .error (.storage (.surrogate path))

/-- Writes an array as an image file. Whatever keeps the file from being written, it is the image
that is refused. -/
def write (s : ImageSupport α) (path : Text) (half : Bool) (t : Tensor α) :
    Run α (FileStore α) Unit := do
  if !s.available then throw (.noImageSupport true)
  let image ← Run.lift (s.encode half t)
  Run.lift (checkPath path)
  update fun files => (files.write path (.image half image)).mapError fun _ => .imageRefused

/-- Reads an image file, as the grid of its depth slices unless their number is missing. -/
def read [Scalar α] (s : ImageSupport α) (files : FileStore α) (path : Text) (depth : Value α) :
    Except (Failure α) (Tensor α) :=
  if !s.available then .error (.noImageSupport false)
  else
    match files.lookup? path with
    | none => .error (.missingImage path)
    | some entry => do
      checkPath path
      match entry with
      | .file (.image _ image) =>
        if image.present.isEmpty then throw (.argument (.noChannels path))
        match depth with
        | .null => return image.pixels
        | depth => untileTensor image.pixels depth
      | _ => throw (.storage .imageRefused)

/-- Writes textures as image files, one each, into a directory, and shows each on the console. -/
def writeAll (s : ImageSupport α) (directory : Text) (half : Bool) (console : Console) :
    NamedTextures α → Run α (FileStore α) Unit
  | [] => pure ()
  | (name, t) :: rest => do
    let path := Path.join directory (name.text ++ ".exr")
    s.write path half t
    Run.announce console (.imageSaved path t.shape)
    s.writeAll directory half console rest

/-- Makes a directory and writes textures into it as image files. -/
def saveAll (s : ImageSupport α) (directory : Text) (half : Bool) (textures : NamedTextures α)
    (console : Console := .complete) : Run α (FileStore α) Unit := do
  attempt (FileStore.makeDirectories directory)
  s.writeAll directory half console textures

end ImageSupport

end Airlight.Storage
