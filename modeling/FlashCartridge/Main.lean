import FlashCartridge.CommandLine.Program
import FlashCartridge.Log.Lines

/-!
# Entry point

The outer layer of the command line program: it looks up the files that the options name, runs the
program on what it found, writes the save file, and prints.
-/

namespace FlashCartridge
namespace CommandLine

open Storage

/-- All further bytes of a stream. -/
partial def readAll (stream : IO.FS.Stream) (bytes : ByteArray) : IO ByteArray := do
  let chunk ← stream.read 0x10000
  if chunk.isEmpty then return bytes else readAll stream (bytes ++ chunk)

/-- The paths of all directories above a path, and the path itself. -/
def pathsTo (path : String) : List String :=
  let fronts := (List.range path.length).map fun count => path.toList.take (count + 1)
  let whole := fun (front : List Char) =>
    front.length = path.length || front.getLast? = some '/'
  (fronts.filter whole).map String.ofList

/-- Add what there really is at a path. What exists and yet cannot be read is a directory. -/
def observe (files : FileSystem) (path : String) : IO FileSystem := do
  try
    return files.place path (← IO.FS.readBinFile path)
  catch
    | .noFileOrDirectory .. | .invalidArgument .. => return files
    | .inappropriateType .. =>
      try
        let _ ← IO.FS.realPath path
        return files.makeDirectories path
      catch _ => return files
    | error => throw error

/-- The paths that the options name. -/
def Options.paths (options : Options) : List String :=
  options.rom :: options.save.toList ++ options.script.toList

/-- Write the save file, if the program has changed it. -/
def writeBack (options : Options) (before after : FileSystem) : IO Unit := do
  match options.save with
  | none => return
  | some path =>
    match before.read path, after.read path with
    | .ok old, .ok new => if old != new then IO.FS.writeBinFile path new
    | _, .ok new => IO.FS.writeBinFile path new
    | _, _ => return

end CommandLine
end FlashCartridge

open FlashCartridge CommandLine in
/-- Run the program. -/
def main (arguments : List String) : IO UInt32 := do
  match Options.parse arguments with
  | .error refusal => return refusal.status.toUInt32
  | .ok options =>
    let files ← (options.paths.flatMap pathsTo).foldlM observe Storage.FileSystem.empty
    let input ← if options.script.isNone then readAll (← IO.getStdin) .empty else pure .empty
    let outcome := run options files input
    for entry in outcome.log do
      IO.eprintln s!"[{entry.level.name}] {entry.firstLine}"
      (entry.lines.drop 1).forM IO.eprintln
    outcome.output.forM IO.println
    writeBack options files outcome.files
    return outcome.status.toUInt32
