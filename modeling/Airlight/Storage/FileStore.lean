import Airlight.Storage.ChannelImage
import Airlight.Texture.Set

/-!
# File store

The files that a program reads and writes. A path is written as a text. It is followed name by name:
every name but the last has to lead to a directory, and so has the last one before a slash. Files
hold a text, an archive of textures or an image.
-/

namespace Airlight.Storage

/-- The names on the way to a file, from the outermost directory on. An absolute path begins with an
empty name, a path that leads out of the working directory with two points. -/
abbrev Path := List Text

/-- What a file holds. -/
inductive Content (α : Type) where
  /-- A text, in which a surrogate stands for a byte that is part of no character. -/
  | text (value : Text)
  | archive (textures : NamedTextures α)
  /-- An image, in half or in single precision. -/
  | image (half : Bool) (image : ChannelImage α)

/-- What a path leads to. -/
inductive Entry (α : Type) where
  | directory
  | file (content : Content α)

/-- The files and directories below the places that always exist. -/
structure FileStore (α : Type) where
  entries : List (Path × Entry α)

namespace Path

/-- The outermost directory. -/
def root : Path := [⟨[]⟩]

/-- The name that leads out of a directory. -/
def out : Text := ".."

/-- The directory around a path. Above the outermost one there is nothing else. -/
def parent (path : Path) : Path :=
  if path = root then path
  else if path.all (· = out) then path ++ [out]
  else path.dropLast

/-- The path that a name leads to. One point stays, two points lead out of a directory. -/
def enter (path : Path) (name : Text) : Path :=
  if name = "" ∨ name = "." then path
  else if name = out then path.parent
  else path ++ [name]

/-- Where a path begins. -/
def origin (text : Text) : Path := if text.points.head? = some (.char '/') then root else []

/-- The names on a path as it is written. -/
def names (text : Text) : List Text := text.split (.char '/')

/-- The path that a text leads to if every name on it is that of a directory. -/
def ofText (text : Text) : Path := (names text).foldl enter (origin text)

/-- The text of a path. -/
def toText (path : Path) : Text := Text.join "/" path

/-- Puts a name behind a directory. A name that begins with a slash stands alone. -/
def join (directory name : Text) : Text :=
  if name.points.head? = some (.char '/') then name
  else if directory.isEmpty ∨ directory.endsWith "/" then directory ++ name
  else directory ++ "/" ++ name

/-- Splits a text before its last name. Slashes at the end of the first part are left out unless
there is nothing else. -/
def split (text : Text) : Text × Text :=
  let isSlash (p : CodePoint) : Bool := p = .char '/'
  let backwards := text.points.reverse
  let name := backwards.takeWhile (!isSlash ·)
  let directory := backwards.drop name.length
  let stripped := directory.dropWhile isSlash
  (⟨(if stripped.isEmpty then directory else stripped).reverse⟩, ⟨name.reverse⟩)

/-- The largest number of bytes of a path. -/
def maxSize : Nat := 4095

/-- The largest number of bytes of a name. -/
def maxNameSize : Nat := 255

/-- Refuses paths that cannot be followed. -/
def check (text : Text) : Except StorageFault Unit :=
  if text.points.any fun p => p.toChar?.isNone && !p.isByte then .error (.surrogate text)
  else if text.isEmpty then .error (.missing text)
  else if text.points.contains (.char '\x00') then .error .zeroCharacter
  else if maxSize < text.size then .error .tooLong
  else .ok ()

end Path

namespace FileStore

variable {α : Type}

/-- What a path leads to. The places where paths begin are directories, and so are those around
them. -/
def find? (s : FileStore α) (path : Path) : Option (Entry α) :=
  if path = Path.root ∨ path.all (· = Path.out) then some .directory else s.entries.lookup path

/-- Puts an entry at a path in place of an earlier one. -/
def put (s : FileStore α) (path : Path) (entry : Entry α) : FileStore α :=
  ⟨s.entries.filter (·.1 ≠ path) ++ [(path, entry)]⟩

/-- Puts a file at a path, in directories that are made where there are none. -/
def install (s : FileStore α) (path : Path) (content : Content α) : FileStore α :=
  let outer := (List.range (path.length - 1)).map fun k => path.take (k + 1)
  let s := outer.foldl (fun s p => if (s.find? p).isSome then s else s.put p .directory) s
  s.put path (.file content)

/-- Follows the names of the path `text` from a place on. -/
def follow (s : FileStore α) (text : Text) :
    Path → List Text → Except StorageFault (Path × Entry α)
  | here, names =>
    match s.find? here, names with
    | none, _ => .error (.missing text)
    | some entry, [] => .ok (here, entry)
    | some (.file _), _ :: _ => .error .notDirectory
    | some .directory, name :: rest =>
      if Path.maxNameSize < name.size then .error .tooLong
      else s.follow text (here.enter name) rest

/-- The place that a text leads to and what stands there. -/
def resolve (s : FileStore α) (text : Text) : Except StorageFault (Path × Entry α) := do
  Path.check text
  s.follow text (Path.origin text) (Path.names text)

/-- What a text leads to; `none` when it leads nowhere. -/
def lookup? (s : FileStore α) (text : Text) : Option (Entry α) :=
  (s.resolve text).toOption.map Prod.snd

/-- Whether a text leads to a directory. -/
def isDirectory (s : FileStore α) (text : Text) : Bool :=
  match s.lookup? text with
  | some .directory => true
  | _ => false

/-- The path of the last of some names, which need not exist, in the directory that the names before
it lead to; `none` when the last name only leads back. -/
def target (s : FileStore α) (text : Text) (names : List Text) :
    Except StorageFault (Option Path) := do
  match ← s.follow text (Path.origin text) names.dropLast with
  | (_, .file _) => throw .notDirectory
  | (directory, .directory) =>
    let name := names.getLastD ""
    if Path.maxNameSize < name.size then throw .tooLong
    return if name = "" ∨ name = "." ∨ name = Path.out then none else some (directory ++ [name])

/-- Writes a file into an existing directory. -/
def write (s : FileStore α) (text : Text) (content : Content α) :
    Except StorageFault (FileStore α) := do
  Path.check text
  match ← s.target text (Path.names text) with
  | none => throw .isDirectory
  | some path =>
    match s.find? path with
    | some .directory => throw .isDirectory
    | _ => return s.put path (.file content)

/-- Makes a directory in an existing one. -/
def makeDirectory (s : FileStore α) (text : Text) : Except StorageFault (FileStore α) := do
  Path.check text
  let names := ((Path.names text).reverse.dropWhile Text.isEmpty).reverse
  match ← s.target text names with
  | none => throw .exists
  | some path => if (s.find? path).isSome then throw .exists else return s.put path .directory

/-- Makes a directory and those on the way to it, unless they exist. The directories on the way stay
when the last one cannot be made; something else in the place of one of them is noticed only by the
next name. -/
def makeDirectories (text : Text) (s : FileStore α) : Except StorageFault Unit × FileStore α :=
  go (text.points.length + 1) text s
where
  /-- Makes the directories of a text that has fewer code points than `fuel`. -/
  go : Nat → Text → FileStore α → Except StorageFault Unit × FileStore α
    | 0, text, s => (.error (.missing text), s)
    | fuel + 1, text, s =>
      let (directory, name) := match Path.split text with
        | (directory, ⟨[]⟩) => Path.split directory
        | parts => parts
      if directory.isEmpty ∨ name.isEmpty ∨ (s.lookup? directory).isSome then last text s
      else
        match go fuel directory s with
        | (.ok (), s) | (.error .exists, s) => if name = "." then (.ok (), s) else last text s
        | failed => failed
  /-- Makes the last directory, which may exist. -/
  last (text : Text) (s : FileStore α) : Except StorageFault Unit × FileStore α :=
    match s.makeDirectory text with
    | .ok s => (.ok (), s)
    | .error fault => (if s.isDirectory text then .ok () else .error fault, s)

/-- The names in a directory. -/
def namesIn (s : FileStore α) (directory : Text) : List Text :=
  match s.resolve directory with
  | .ok (here, .directory) => s.entries.filterMap fun (path, _) =>
    if path.length = here.length + 1 ∧ here.isPrefixOf path then path.getLast? else none
  | _ => []

/-- The files below a directory, by the names that lead to them from there. -/
def filesBelow (s : FileStore α) (directory : Text) : List (Path × Content α) :=
  match s.resolve directory with
  | .ok (here, .directory) => s.entries.filterMap fun (path, entry) =>
    match entry with
    | .file content =>
      if here.isPrefixOf path && path ≠ here then some (path.drop here.length, content) else none
    | .directory => none
  | _ => []

end FileStore

end Airlight.Storage
