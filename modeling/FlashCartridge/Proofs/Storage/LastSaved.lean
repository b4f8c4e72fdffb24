import FlashCartridge.Proofs.Storage.SaveFile

/-!
# Loading and saving are all or nothing

A save file is loaded, saved, and changed by others in any order. A load either takes the whole file
or leaves the region alone, and says which of the two it was and why. A save either replaces the
whole file or is reported to have failed. Between two changes by others, a load of the right size
therefore finds what was last saved, whatever was in the file before. On a disk that refuses some
writes, a refused save is no more than another change by others.
-/

namespace FlashCartridge
namespace Storage

namespace SaveFile

variable {file : SaveFile}

/-! ## One load -/

/-- What loading a region comes to: what is left in it, and the result. -/
structure Loads (file : SaveFile) (files : FileSystem) (region left : ByteArray)
    (result : Except StoreError Bool) : Prop where
  /-- The region is loaded exactly if there is a file of its size. -/
  loaded : result = .ok true ↔
    ∃ content, files.HoldsFile file.path content ∧ content.size = region.size
  /-- It is then the whole file. -/
  whole : ∀ content, files.HoldsFile file.path content → content.size = region.size →
    left = content
  /-- It is otherwise as it was. -/
  untouched : result ≠ .ok true → left = region
  /-- There is nothing to load exactly if no file is found. -/
  missing : result = .ok false ↔ files.read file.path = .error .noSuchFile
  /-- A file of another size is an error that names it and both sizes. -/
  wrongSize : ∀ path actual expected, result = .error (.wrongSize path actual expected) ↔
    path = file.path ∧ expected = region.size ∧ actual ≠ expected ∧
      ∃ content, files.read file.path = .ok content ∧ content.size = actual
  /-- Any other refusal of the operating system is an error that names its reason. -/
  refused : ∀ reason, result = .error (.unreadable file.path reason) ↔
    files.read file.path = .error reason ∧ reason ≠ .noSuchFile
  /-- Nothing else can come of it. -/
  exhausted : result = .ok true ∨ result = .ok false ∨
    (∃ actual, result = .error (.wrongSize file.path actual region.size)) ∨
      ∃ reason, result = .error (.unreadable file.path reason)

theorem loads (file : SaveFile) (files : FileSystem) (region : ByteArray) :
    file.Loads files region (file.load region files).1 (file.load region files).2.1 := by
  have holds_iff (content : ByteArray) :
      files.HoldsFile file.path content ↔ files.read file.path = .ok content :=
    FileSystem.read_eq_ok_iff.symm
  cases found : files.read file.path with
  | ok content =>
      by_cases fits : content.size = region.size
      · have answer : (file.load region files).1 = content ∧
            (file.load region files).2.1 = .ok true := by simp [load, read, found, fits]
        rw [answer.1, answer.2]
        constructor
        case wrongSize =>
          simp only [found, Except.ok.injEq, exists_eq_left', reduceCtorEq, false_iff]
          omega
        all_goals simp [holds_iff, found, fits]
      · have answer : (file.load region files).1 = region ∧ (file.load region files).2.1 =
            .error (.wrongSize file.path content.size region.size) := by
          simp [load, read, found, fits]
        rw [answer.1, answer.2]
        constructor
        case wrongSize =>
          intro path actual expected
          constructor
          · rintro ⟨⟩
            exact ⟨rfl, rfl, fits, content, found, rfl⟩
          · rintro ⟨rfl, rfl, -, _, same, rfl⟩
            obtain rfl := Except.ok.inj (found.symm.trans same)
            rfl
        all_goals simp [holds_iff, found, fits]
  | error reason =>
      by_cases missing : reason = .noSuchFile
      · have answer : (file.load region files).1 = region ∧
            (file.load region files).2.1 = .ok false := by simp [load, read, found, missing]
        rw [answer.1, answer.2]
        constructor <;> simp [holds_iff, found, missing]
      · have answer : (file.load region files).1 = region ∧
            (file.load region files).2.1 = .error (.unreadable file.path reason) := by
          simp [load, read, found]
        rw [answer.1, answer.2]
        constructor <;> simp [holds_iff, found, missing]

/-! ## One save -/

/-- What saving some bytes comes to: the files that are left, or an error. -/
structure Saves (file : SaveFile) (files : FileSystem) (bytes : ByteArray)
    (result : Except StoreError FileSystem) : Prop where
  /-- The file is exactly what was saved. -/
  replaced : ∀ saved, result = .ok saved → saved.HoldsFile file.path bytes
  /-- Nothing but a directory in its place, or no way to that place, keeps a file from being made or
  replaced. -/
  accepted : (∃ saved, result = .ok saved) ↔ files.AcceptsFile file.path
  /-- A refusal is an error that names its reason. -/
  refused : ∀ reason, files.write file.path bytes = .error reason →
    result = .error (.unwritable file.path reason)

theorem saves (file : SaveFile) (files : FileSystem) (bytes : ByteArray) :
    file.Saves files bytes (file.save bytes files).1 := by
  cases written : files.write file.path bytes with
  | ok saved =>
      have answer : (file.save bytes files).1 = .ok saved := by simp [save, written]
      rw [answer]
      constructor
      · rintro _ ⟨⟩
        exact FileSystem.holdsFile_of_write written
      · exact iff_of_true ⟨saved, rfl⟩ (FileSystem.acceptsFile_of_write written)
      · simp [written]
  | error reason =>
      have answer : (file.save bytes files).1 = .error (.unwritable file.path reason) := by
        simp [save, written]
      rw [answer]
      constructor
      · intro saved accepted
        contradiction
      · constructor
        · rintro ⟨saved, accepted⟩
          contradiction
        · intro accepts
          obtain ⟨saved, accepted⟩ := accepts.writable bytes
          rw [written] at accepted
          contradiction
      · simp [written]

/-! ## A course of loads, saves and changes by others -/

/-- One thing that happens to a save file. -/
inductive Use
  /-- A region is loaded. -/
  | load (region : ByteArray)
  /-- Bytes are saved. -/
  | save (bytes : ByteArray)
  /-- Something else changes the files. -/
  | change (files : FileSystem → FileSystem)

/-- The files, and what was saved to one of them since they last changed otherwise. -/
structure Course where
  /-- The files. -/
  files : FileSystem
  /-- What was saved last. -/
  saved? : Option ByteArray

/-- The course after one use. A failed save leaves everything as it is. -/
def step (file : SaveFile) (course : Course) : Use → Course
  | .load _ => course
  | .save bytes =>
    match (file.save bytes course.files).1 with
    | .ok files => ⟨files, some bytes⟩
    | .error _ => course
  | .change files => ⟨files course.files, none⟩

/-- The course after some uses. -/
def run (file : SaveFile) (course : Course) (uses : List Use) : Course :=
  uses.foldl file.step course

/-- The file is what was saved last. -/
def Kept (file : SaveFile) (course : Course) : Prop :=
  ∀ bytes ∈ course.saved?, course.files.HoldsFile file.path bytes

theorem Kept.step {course : Course} (kept : file.Kept course) (use : Use) :
    file.Kept (file.step course use) := by
  cases use with
  | load region => exact kept
  | change files => nofun
  | save bytes =>
      rw [SaveFile.step]
      split
      · rename_i files saved
        rintro _ ⟨⟩
        exact (file.saves course.files bytes).replaced files saved
      · exact kept

theorem Kept.run {course : Course} (kept : file.Kept course) (uses : List Use) :
    file.Kept (file.run course uses) := by
  induction uses generalizing course with
  | nil => exact kept
  | cons use later ih => exact ih (kept.step use)

/-- A load takes the whole file or leaves the region alone, a save replaces the whole file or fails,
and what was saved last is what a load of its size finds. -/
theorem all_or_nothing (file : SaveFile) (start : FileSystem) (uses : List Use) :
    let course := file.run ⟨start, none⟩ uses
    (∀ region, file.Loads course.files region (file.load region course.files).1
      (file.load region course.files).2.1) ∧
    (SaveStore.load (⟨file, course.files⟩ : FileStore)).store = ⟨file, course.files⟩ ∧
    (∀ bytes, file.Saves course.files bytes (file.save bytes course.files).1) ∧
    ∀ bytes ∈ course.saved?, ∀ region : ByteArray, region.size = bytes.size →
      (file.load region course.files).1 = bytes ∧
        (file.load region course.files).2.1 = .ok true := by
  intro course
  have kept : file.Kept course := Kept.run (by simp [Kept]) uses
  refine ⟨file.loads course.files, rfl, file.saves course.files, ?_⟩
  intro bytes saved region fits
  have holds := kept bytes saved
  have law := file.loads course.files region
  exact ⟨law.whole bytes holds fits.symm, law.loaded.mpr ⟨bytes, holds, fits.symm⟩⟩

/-- A shorter file is saved over a longer one, and a load of the wrong size does not disturb it. -/
theorem all_or_nothing_of_shorter :
    let file : SaveFile := ⟨"game.sav"⟩
    let course := file.run ⟨.empty, none⟩ [.save ⟨#[1, 2, 3]⟩, .save ⟨#[9]⟩, .load ⟨#[0, 0]⟩]
    (file.load ⟨#[0]⟩ course.files).1 = ⟨#[9]⟩ ∧
      (file.load ⟨#[0]⟩ course.files).2.1 = .ok true ∧
      (file.load ⟨#[0, 0]⟩ course.files).2.1 = .error (.wrongSize "game.sav" 1 2) := by
  intro file course
  have names : pathNames "game.sav" = ["game.sav"] := by cbv
  have noZero : "game.sav".contains '\x00' = false := by simp
  have located : FileSystem.empty.locate "game.sav" = .ok ["work", "game.sav"] := by
    rw [FileSystem.locate, noZero, names]
    rfl
  obtain ⟨first, made⟩ : ∃ files, FileSystem.empty.write "game.sav" ⟨#[1, 2, 3]⟩ = .ok files := by
    rw [FileSystem.write, located]
    exact ⟨_, rfl⟩
  obtain ⟨second, shortened⟩ := FileSystem.Writable.of_write made ⟨#[9]⟩
  have reached : course = ⟨second, some ⟨#[9]⟩⟩ := by
    simp [course, run, step, save, file, made, shortened]
  obtain ⟨loads, -, -, found⟩ :=
    all_or_nothing file .empty [.save ⟨#[1, 2, 3]⟩, .save ⟨#[9]⟩, .load ⟨#[0, 0]⟩]
  obtain ⟨whole, loaded⟩ := found ⟨#[9]⟩ (congrArg Course.saved? reached) ⟨#[0]⟩ rfl
  have read : course.files.read "game.sav" = .ok ⟨#[9]⟩ := by
    rw [reached]
    exact FileSystem.read_of_write shortened
  have refused := (loads ⟨#[0, 0]⟩).wrongSize "game.sav" 1 2
  exact ⟨whole, loaded, refused.mpr ⟨rfl, rfl, by decide, _, read, rfl⟩⟩

end SaveFile

/-! ## A disk that may refuse to write -/

namespace DiskStore

/-- One thing that happens to a save file on a disk. -/
inductive Use
  /-- An image is saved. -/
  | save (image : SaveImage)
  /-- Something else changes the files. -/
  | change (files : FileSystem → FileSystem)

/-- What a use is to the files. A save that the disk refuses may change them in any way. -/
def Use.onFiles (disk : Disk) : Use → SaveFile.Use
  | .save image =>
    match disk.refusals.head?.join with
    | some (_, left) => .change fun _ => left
    | none => .save image.toBytes
  | .change files => .change files

/-- The store after one use. -/
def step (store : DiskStore) : Use → DiskStore
  | .save image => (SaveStore.save image store).store
  | .change files => { store with disk.files := files store.disk.files }

/-- The store after some uses. -/
def run (store : DiskStore) (uses : List Use) : DiskStore := uses.foldl step store

/-- The course that the files take, with what was saved last. -/
def course (store : DiskStore) (start : SaveFile.Course) : List Use → SaveFile.Course
  | [] => start
  | use :: later =>
    (store.step use).course (store.file.step start (use.onFiles store.disk)) later

/-- The files are where their course has led, and what was saved last is still there. -/
def Follows (store : DiskStore) (course : SaveFile.Course) : Prop :=
  course.files = store.disk.files ∧ store.file.Kept course

theorem Follows.step {store : DiskStore} {course : SaveFile.Course} (follows : store.Follows course)
    (use : Use) : (store.step use).Follows (store.file.step course (use.onFiles store.disk)) := by
  obtain ⟨same, kept⟩ := follows
  have keptAfter := kept.step (use.onFiles store.disk)
  cases use with
  | change files => exact ⟨congrArg files same, keptAfter⟩
  | save image =>
      cases refusal : store.disk.refusals.head?.join with
      | some refused =>
          simp only [Use.onFiles, refusal] at keptAfter ⊢
          simp only [DiskStore.step, SaveStore.save, refusal]
          exact ⟨rfl, keptAfter⟩
      | none =>
          simp only [Use.onFiles, refusal] at keptAfter ⊢
          rcases saved : store.file.save image.toBytes store.disk.files with ⟨_ | files, log⟩ <;>
            simp only [DiskStore.step, SaveStore.save, SaveFile.step, refusal, same, saved]
              at keptAfter ⊢
          · exact ⟨same, keptAfter⟩
          · exact ⟨rfl, keptAfter⟩

theorem Follows.run {store : DiskStore} {course : SaveFile.Course} (follows : store.Follows course)
    (uses : List Use) : (store.run uses).Follows (store.course course uses) := by
  induction uses generalizing store course with
  | nil => exact follows
  | cons use later ih => exact ih (follows.step use)

theorem load_of_holdsFile {store : DiskStore} {image : SaveImage}
    (holds : store.disk.files.HoldsFile store.file.path image.toBytes) :
    (SaveStore.load store).result = .ok (some image) := by
  simp [SaveStore.load, SaveFile.read, holds.read, Except.map]

theorem save_eq_ok_iff {store : DiskStore} {image : SaveImage} :
    (SaveStore.save image store).result = .ok () ↔
      store.disk.refusals.head?.join = none ∧ store.disk.files.AcceptsFile store.file.path := by
  rw [← (store.file.saves store.disk.files image.toBytes).accepted]
  cases refusal : store.disk.refusals.head?.join with
  | some refused => simp [SaveStore.save, refusal]
  | none =>
      rcases saved : store.file.save image.toBytes store.disk.files with ⟨_ | files, log⟩ <;>
        simp [SaveStore.save, refusal, saved]

/-- However often the disk has refused, what was saved last is loaded again, and the next save is
only refused by the disk or for want of a place. -/
theorem load_run_of_saved (store : DiskStore) (uses : List Use) :
    let after := store.run uses
    (∀ image : SaveImage,
      (store.course ⟨store.disk.files, none⟩ uses).saved? = some image.toBytes →
        (SaveStore.load after).result = .ok (some image)) ∧
    ∀ image, (SaveStore.save image after).result = .ok () ↔
      after.disk.refusals.head?.join = none ∧ after.disk.files.AcceptsFile after.file.path := by
  intro after
  have start : store.Follows ⟨store.disk.files, none⟩ := ⟨rfl, nofun⟩
  obtain ⟨same, kept⟩ := start.run uses
  refine ⟨?_, fun image => save_eq_ok_iff⟩
  intro image saved
  have holds := kept image.toBytes saved
  rw [same] at holds
  exact load_of_holdsFile holds

end DiskStore

end Storage
end FlashCartridge
