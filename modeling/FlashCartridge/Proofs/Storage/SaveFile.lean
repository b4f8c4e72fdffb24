import FlashCartridge.Storage.SaveFile

/-!
# A save file keeps what is saved

A write only changes what is at the place that its path means, and resolving the path passes
through directories alone, so the path still means that place afterwards and reads what was written.
A disk may refuse writes for reasons of its own, and then leaves files behind that nobody can
foresee.
-/

namespace FlashCartridge
namespace Storage
namespace FileSystem

theorem enter_eq_ok_iff {files : FileSystem} {location child : Location} {name : String} :
    files.enter location name = .ok child ↔
      files.find location = .ok (some .directory) ∧
        child = if name = "." then location else if name = ".." then location.dropLast
          else location ++ [name] := by
  rw [enter]
  rcases files.find location with reason | _ | _ | _ <;> simp [eq_comm]

theorem find_put_of_ne (files : FileSystem) {target location : Location} (other : location ≠ target)
    (node : Node) : (files.put target node).find location = files.find location := by
  rw [find, find]
  by_cases root : location = []
  · simp [root, node?]
  · rw [node?_put files root, if_neg other]

theorem find_put_self (files : FileSystem) {target : Location} {found : Option Node}
    (named : target ≠ []) (short : files.find target = .ok found) (node : Node) :
    (files.put target node).find target = .ok (some node) := by
  rw [find] at short ⊢
  split at short
  · contradiction
  · rename_i fits
    rw [if_neg fits, node?_put files named, if_pos rfl]

section Put

variable {files : FileSystem} {target : Location}
  (notDirectory : files.find target ≠ .ok (some .directory)) (node : Node)
include notDirectory

/-- Only directories are entered, and the place that changes is none. -/
theorem enter_put {location child : Location} {name : String}
    (entered : files.enter location name = .ok child) :
    (files.put target node).enter location name = .ok child := by
  obtain ⟨directory, rfl⟩ := enter_eq_ok_iff.mp entered
  have other : location ≠ target := by
    rintro rfl
    exact notDirectory directory
  exact enter_eq_ok_iff.mpr ⟨(find_put_of_ne files other node).trans directory, rfl⟩

theorem foldlM_enter_put {names : List String} {location reached : Location}
    (resolved : names.foldlM files.enter location = .ok reached) :
    names.foldlM (files.put target node).enter location = .ok reached := by
  induction names generalizing location with
  | nil => exact resolved
  | cons name names ih =>
      rw [List.foldlM_cons] at resolved ⊢
      cases entered : files.enter location name with
      | error reason =>
          rw [entered] at resolved
          contradiction
      | ok child =>
          rw [entered] at resolved
          rw [enter_put notDirectory node entered]
          exact ih resolved

theorem locate_put {path : String} {reached : Location}
    (located : files.locate path = .ok reached) :
    (files.put target node).locate path = .ok reached := by
  rw [locate] at located ⊢
  split at located
  · contradiction
  · split at located
    · contradiction
    · split at located
      · contradiction
      · rename_i noZero notEmpty short
        rw [if_neg noZero, if_neg notEmpty, if_neg short]
        exact foldlM_enter_put notDirectory node located

end Put

theorem write_eq_ok {files saved : FileSystem} {path : String} {content : ByteArray}
    (written : files.write path content = .ok saved) :
    endsInSlash path = false ∧ ∃ location found, files.locate path = .ok location ∧
      files.find location = .ok found ∧ found ≠ some .directory ∧
        saved = files.put location (.file content) := by
  rw [write] at written
  cases located : files.locate path with
  | error reason => simp [located, bind, Except.bind] at written
  | ok location =>
      cases isDirectory : endsInSlash path with
      | true => simp [located, isDirectory, bind, Except.bind] at written
      | false =>
          cases there : files.find location with
          | error reason => simp [located, isDirectory, there, bind, Except.bind] at written
          | ok found =>
              refine ⟨rfl, location, found, rfl, there, ?_⟩
              rcases found with _ | _ | _ <;>
                simp [located, isDirectory, there, bind, Except.bind] at written
              all_goals exact ⟨by simp, written.symm⟩

/-- No content is refused at a path. -/
def Writable (files : FileSystem) (path : String) : Prop :=
  ∀ content, ∃ saved, files.write path content = .ok saved

/-- There is a file at a path: its place has one, and the path does not insist on a directory. -/
def HoldsFile (files : FileSystem) (path : String) (content : ByteArray) : Prop :=
  endsInSlash path = false ∧ ∃ location, files.locate path = .ok location ∧
    files.find location = .ok (some (.file content))

/-- There can be a file at a path: no directory is at its place, and the path does not insist on
one. -/
def AcceptsFile (files : FileSystem) (path : String) : Prop :=
  endsInSlash path = false ∧ ∃ location found, files.locate path = .ok location ∧
    files.find location = .ok found ∧ found ≠ some .directory

section HoldsFile

variable {files : FileSystem} {path : String} {content : ByteArray}

theorem HoldsFile.read (holds : files.HoldsFile path content) : files.read path = .ok content := by
  obtain ⟨isFile, location, located, there⟩ := holds
  simp [FileSystem.read, bind, Except.bind, located, there, isFile]

theorem read_eq_ok_iff : files.read path = .ok content ↔ files.HoldsFile path content := by
  refine ⟨?_, HoldsFile.read⟩
  intro found
  rw [FileSystem.read] at found
  cases located : files.locate path with
  | error reason => simp [located, bind, Except.bind] at found
  | ok location =>
      cases there : files.find location with
      | error reason => simp [located, there, bind, Except.bind] at found
      | ok node? =>
          rcases node? with _ | held | _
          · simp [located, there, bind, Except.bind] at found
          · cases isDirectory : endsInSlash path with
            | true => simp [located, there, isDirectory, bind, Except.bind] at found
            | false =>
                have same : held = content := by
                  simpa [located, there, isDirectory, bind, Except.bind] using found
                exact ⟨isDirectory, location, located, same ▸ there⟩
          · simp [located, there, bind, Except.bind] at found

theorem HoldsFile.acceptsFile (holds : files.HoldsFile path content) : files.AcceptsFile path := by
  obtain ⟨isFile, location, located, there⟩ := holds
  exact ⟨isFile, location, _, located, there, by simp⟩

/-- Where a file of some size can be, one of any size can be. -/
theorem AcceptsFile.writable (accepts : files.AcceptsFile path) : files.Writable path := by
  obtain ⟨isFile, location, found, located, there, other⟩ := accepts
  intro content
  rcases found with _ | _ | _
  · simp [write, bind, Except.bind, located, there, isFile]
  · simp [write, bind, Except.bind, located, there, isFile]
  · contradiction

end HoldsFile

theorem acceptsFile_of_write {files saved : FileSystem} {path : String} {content : ByteArray}
    (written : files.write path content = .ok saved) : files.AcceptsFile path := by
  obtain ⟨isFile, location, found, located, there, other, _⟩ := write_eq_ok written
  exact ⟨isFile, location, found, located, there, other⟩

theorem holdsFile_of_write {files saved : FileSystem} {path : String} {content : ByteArray}
    (written : files.write path content = .ok saved) : saved.HoldsFile path content := by
  obtain ⟨isFile, location, found, located, there, other, rfl⟩ := write_eq_ok written
  have notDirectory : files.find location ≠ .ok (some .directory) := by
    simpa [there] using other
  have named : location ≠ [] := by
    rintro rfl
    exact notDirectory rfl
  exact ⟨isFile, location, locate_put notDirectory _ located, find_put_self files named there _⟩

theorem read_of_write {files saved : FileSystem} {path : String} {content : ByteArray}
    (written : files.write path content = .ok saved) : saved.read path = .ok content :=
  (holdsFile_of_write written).read

theorem Writable.of_write {files saved : FileSystem} {path : String} {content : ByteArray}
    (written : files.write path content = .ok saved) : saved.Writable path :=
  (holdsFile_of_write written).acceptsFile.writable

/-- The image that a session finds at a path, which is blank as long as there is no file. -/
def Keeps (files : FileSystem) (path : String) (image : SaveImage) : Prop :=
  (files.read path = .error .noSuchFile ∧ image = .blank) ∨ files.read path = .ok image.toBytes

/-- A path keeps an image exactly if there is no file or one of the right size. -/
theorem exists_keeps_iff {files : FileSystem} {path : String} :
    (∃ image, files.Keeps path image) ↔
      files.read path = .error .noSuchFile ∨
        ∃ content, files.read path = .ok content ∧ content.size = SaveImage.byteSize := by
  constructor
  · rintro ⟨image, ⟨missing, -⟩ | present⟩
    · exact .inl missing
    · exact .inr ⟨_, present, image.size_toBytes⟩
  · rintro (missing | ⟨content, present, complete⟩)
    · exact ⟨.blank, .inl ⟨missing, rfl⟩⟩
    · refine ⟨.ofBytes content complete, .inr ?_⟩
      rw [present, SaveImage.toBytes_ofBytes]

end FileSystem

/-- The image in the save file at a path. It is blank if there is no file. -/
def savedImage (path : String) (files : FileSystem) : Except StoreError SaveImage :=
  match files.read path with
  | .ok content =>
    match SaveImage.ofBytes? content with
    | some image => .ok image
    | none => .error (.wrongSize path content.size SaveImage.byteSize)
  | .error .noSuchFile => .ok .blank
  | .error reason => .error (.unreadable path reason)

theorem load_fileStore (path : String) (files : FileSystem) :
    (SaveStore.load (⟨⟨path⟩, files⟩ : FileStore)).result.map (·.getD .blank) =
      savedImage path files := by
  cases found : files.read path with
  | ok content =>
      by_cases complete : content.size = SaveImage.byteSize <;>
        simp [SaveStore.load, SaveFile.read, savedImage, found, SaveImage.ofBytes?, complete,
          Except.map]
  | error reason =>
      cases reason <;> simp [SaveStore.load, SaveFile.read, savedImage, found, Except.map]

/-- A file that can be written holds whatever is saved to it, and can be written again. -/
theorem save_fileStore {path : String} {files : FileSystem} (writable : files.Writable path)
    (image : SaveImage) :
    (SaveStore.save image (⟨⟨path⟩, files⟩ : FileStore)).result = .ok () ∧
      ∃ saved, (SaveStore.save image (⟨⟨path⟩, files⟩ : FileStore)).store = ⟨⟨path⟩, saved⟩ ∧
        saved.Writable path ∧ saved.read path = .ok image.toBytes := by
  obtain ⟨saved, written⟩ := writable image.toBytes
  simp only [SaveStore.save, SaveFile.save, written]
  exact ⟨trivial, saved, rfl, .of_write written, FileSystem.read_of_write written⟩

/-- Files on a device that may refuse to write. -/
structure Disk where
  /-- The files now. -/
  files : FileSystem
  /-- What comes of the next writes. A refusal has a reason and leaves any files behind, and after
  the last entry nothing more is refused. -/
  refusals : List (Option (SystemError × FileSystem))

/-- A save file on such a disk. -/
structure DiskStore where
  /-- The save file. -/
  file : SaveFile
  /-- The disk that holds it. -/
  disk : Disk

/-- Unless the disk refuses, everything is as for a save file in its file system. -/
instance : SaveStore DiskStore where
  load store :=
    let reply := SaveStore.load (⟨store.file, store.disk.files⟩ : FileStore)
    { store, result := reply.result, log := reply.log }
  save image store :=
    match store.disk.refusals.head?.join with
    | some (reason, files) =>
      { store := ⟨store.file, ⟨files, store.disk.refusals.tail⟩⟩
        result := .error (.unwritable store.file.path reason), log := [] }
    | none =>
      let reply := SaveStore.save image (⟨store.file, store.disk.files⟩ : FileStore)
      { store := ⟨store.file, ⟨reply.store.files, store.disk.refusals.tail⟩⟩
        result := reply.result, log := reply.log }

namespace DiskStore

theorem load_of_keeps {file : SaveFile} {disk : Disk} {image : SaveImage}
    (keeps : disk.files.Keeps file.path image) :
    ∃ kept, (SaveStore.load (⟨file, disk⟩ : DiskStore)).result = .ok kept ∧
      kept.getD .blank = image := by
  rcases keeps with ⟨missing, rfl⟩ | present
  · refine ⟨none, ?_, rfl⟩
    simp [SaveStore.load, SaveFile.read, missing, Except.map]
  · refine ⟨some image, ?_, rfl⟩
    simp [SaveStore.load, SaveFile.read, present, Except.map]

/-- Saving is about the same file afterwards, which has the image unless a failure is reported. -/
theorem exists_store_save (image : SaveImage) (file : SaveFile) (disk : Disk) :
    ∃ left, (SaveStore.save image (⟨file, disk⟩ : DiskStore)).store = ⟨file, left⟩ ∧
      ((SaveStore.save image (⟨file, disk⟩ : DiskStore)).result = .ok () →
        left.files.Keeps file.path image) := by
  cases refusal : disk.refusals.head?.join with
  | some refused =>
      refine ⟨⟨refused.2, disk.refusals.tail⟩, ?_⟩
      simp [SaveStore.save, refusal]
  | none =>
      cases written : disk.files.write file.path image.toBytes with
      | error reason =>
          refine ⟨⟨disk.files, disk.refusals.tail⟩, ?_⟩
          simp [SaveStore.save, refusal, SaveFile.save, written]
      | ok saved =>
          have keeps : saved.Keeps file.path image := .inr (FileSystem.read_of_write written)
          refine ⟨⟨saved, disk.refusals.tail⟩, ?_⟩
          simp [SaveStore.save, refusal, SaveFile.save, written, keeps]

end DiskStore

end Storage
end FlashCartridge
