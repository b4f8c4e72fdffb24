import FlashCartridge.SaveStore
import FlashCartridge.Storage.FileSystem
import FlashCartridge.Text.Quoted
import FlashCartridge.Text.Record

/-!
# Save files

A save file holds exactly the bytes that were last saved. Loading demands a file of the right size;
where there is no file yet, there is nothing to load and that is no error.
-/

namespace FlashCartridge
namespace Storage

/-- A save file, known by its path. -/
structure SaveFile where
  /-- Where the file is. -/
  path : String
  deriving DecidableEq, Repr

namespace SaveFile

/-- Read a file that has to hold `size` bytes. There is nothing to read if it does not exist. -/
def read (file : SaveFile) (size : Nat) (files : FileSystem) :
    Except StoreError (Option ByteArray) × List Log.Entry :=
  match files.read file.path with
  | .ok content =>
    if content.size = size then
      (.ok (some content), [⟨.info, s!"[save] loaded '{file.path}'"⟩])
    else
      (.error (.wrongSize file.path content.size size), [])
  | .error .noSuchFile => (.ok none, [⟨.info, s!"[save] no save file at '{file.path}'"⟩])
  | .error reason => (.error (.unreadable file.path reason), [])

/-- Load a region: it becomes the content of the file, or stays as it was if there is no file or an
error. The result says whether it was loaded. -/
def load (file : SaveFile) (region : ByteArray) (files : FileSystem) :
    ByteArray × Except StoreError Bool × List Log.Entry :=
  match file.read region.size files with
  | (.ok (some content), log) => (content, .ok true, log)
  | (.ok none, log) => (region, .ok false, log)
  | (.error reason, log) => (region, .error reason, log)

/-- Make the file hold exactly the given bytes. -/
def save (file : SaveFile) (bytes : ByteArray) (files : FileSystem) :
    Except StoreError FileSystem × List Log.Entry :=
  match files.write file.path bytes with
  | .ok saved =>
    (.ok saved, [⟨.info, s!"[save] wrote {bytes.size} bytes to '{file.path}'"⟩])
  | .error reason => (.error (.unwritable file.path reason), [])

/-- The description of a save file. -/
def describe (file : SaveFile) : String :=
  Text.record "FileSave" [("path", Text.quoted file.path)]

end SaveFile

/-- A save file in its file system. -/
structure FileStore where
  /-- The save file. -/
  file : SaveFile
  /-- The file system that holds it. -/
  files : FileSystem

/-- A save file keeps the written form of an image. -/
instance : SaveStore FileStore where
  load store :=
    let (result, log) := store.file.read SaveImage.byteSize store.files
    { store, result := result.map (·.bind SaveImage.ofBytes?), log }
  save image store :=
    match store.file.save image.toBytes store.files with
    | (.ok files, log) => { store := { store with files }, result := .ok (), log }
    | (.error reason, log) => { store, result := .error reason, log }

end Storage
end FlashCartridge
