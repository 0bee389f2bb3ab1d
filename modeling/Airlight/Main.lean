import Airlight.CommandLine.Program
import Airlight.Journal.Message
import Airlight.Scalar.Float
import Airlight.Storage.ArchiveFile
import Airlight.Storage.ImageFile

/-!
# The command

Reads the files that the program asks for, runs it, writes the files that it leaves and prints its
lines.
-/

namespace Airlight.CommandLine

open Storage

/-- The text of a file. If it is none, every byte beyond the first 128 stands for itself. -/
def textOf (bytes : ByteArray) : Text :=
  match String.fromUTF8? bytes with
  | some text => text
  | none => ⟨bytes.toList.map fun b =>
      if b < 128 then .char (Char.ofNat b.toNat) else .surrogate (Fin.ofNat _ (0x400 + b.toNat))⟩

/-- What stands at a path. A directory exists but cannot be read. -/
def look (path : String) : IO (Option (Entry Float)) := do
  try
    let bytes ← IO.FS.readBinFile path
    return some (.file (.text (textOf bytes)))
  catch _ =>
    try
      let _ ← IO.FS.realPath path
      return some .directory
    catch _ => return none

/-- The paths on the way to a path, and the path itself. -/
def pathsTo (text : Text) : List Path :=
  let path := Path.ofText text
  (List.range path.length).map fun k => path.take (k + 1)

/-- The files on which a run depends. -/
def filesFor (o : Options) : IO (FileStore Float) := do
  let output := o.output.value?.getD ""
  let names := archiveName :: TextureName.all.map fun name => name.text ++ ".exr"
  let outputs := names.map fun (name : String) => Path.join output name
  let inputs := (o.config.bind Setting.value?).toList
  let mut files : FileStore Float := ⟨[]⟩
  for path in (inputs ++ outputs).flatMap pathsTo do
    if let some entry ← look (toString (Path.toText path)) then files := files.put path entry
  return files

/-- Writes what a path leads to. A text was there before. -/
def save (path : String) : Entry Float → IO Unit
  | .directory => IO.FS.createDirAll path
  | .file (.text _) => pure ()
  | .file (.archive textures) => IO.FS.writeBinFile path (encodeArchive textures)
  | .file (.image half image) => IO.FS.writeBinFile path (encodeImage half image)

/-- The text that shows how the command is used. -/
def usage : String :=
  "usage: airlight precompute [--config FILE] [--output DIRECTORY] [--format npz|exr] [--half]\n" ++
  "  [--resolution NU MU_S MU R] [--sample-count N] [--transmittance-sample-count N]\n" ++
  "  [--jobs N] [--block-size N]"

/-- Runs the program on its arguments. -/
def runProgram (arguments : List Text) : IO UInt32 := do
  let files ← match Request.ofArguments arguments with
    | .run o => filesFor o
    | _ => pure ⟨[]⟩
  let (outcome, journal) := execute ⟨true, Precision.round⟩ arguments files .characters
  for e in journal.events do IO.println e.message
  for (path, entry) in journal.state.entries do
    save (toString (Path.toText path)) entry
  match outcome with
  | .done => pure ()
  | .usage help => if help then IO.println usage else IO.eprintln usage
  | .reported _ => IO.eprintln (outcome.complaint?.getD "")
  | .escaped failure => IO.eprintln (failure.message?.getD "the program failed")
  return (outcome.exitCode?.getD 1).toUInt32

end Airlight.CommandLine

/-- The command line program. -/
def main (arguments : List String) : IO UInt32 :=
  Airlight.CommandLine.runProgram (arguments.map Airlight.Text.ofString)
