import FlashCartridge.Storage.SystemError
import FlashCartridge.Text.Lines

/-!
# A file system

Files and directories form a tree. A path is resolved name by name, starting at the root or at the
working directory, and every name but the last has to lead to a directory. A read or write that is
refused leaves everything as it was.
-/

namespace FlashCartridge
namespace Storage

/-- A place in the tree: the names that lead to it from the root. -/
abbrev Location := List String

/-- What there is at a place. -/
inductive Node
  /-- A file with its content. -/
  | file (content : ByteArray)
  /-- A directory. -/
  | directory

/-- The names on a path. -/
def pathNames (path : String) : List String := (Text.runs (· == '/') path.toList).map String.ofList

/-- A path that ends in a slash can only mean a directory. -/
def endsInSlash (path : String) : Bool := path.toList.getLast? == some '/'

/-- The greatest number of bytes in one name. -/
def maxNameSize : Nat := 255

/-- The greatest number of bytes in a whole path. -/
def maxPathSize : Nat := 4095

/-- A tree of files and directories. -/
structure FileSystem where
  /-- What there is at each place but the root, the latest entry first. -/
  entries : List (Location × Node)
  /-- The directory in which relative paths start. -/
  working : Location

theorem lookup_filter_ne (entries : List (Location × Node)) {target location : Location}
    (different : location ≠ target) :
    (entries.filter (·.1 != target)).lookup location = entries.lookup location := by
  induction entries with
  | nil => rfl
  | cons entry rest ih =>
      obtain ⟨place, node⟩ := entry
      by_cases dropped : place = target
      · subst dropped
        simpa [List.lookup_cons, show (location == place) = false by simpa using different]
          using ih
      · rw [List.filter_cons_of_pos (by simpa using dropped), List.lookup_cons,
          List.lookup_cons, ih]

namespace FileSystem

/-- A file system with nothing but an empty working directory. -/
def empty : FileSystem := ⟨[(["work"], .directory)], ["work"]⟩

/-- What there is at a place, if anything. -/
def node? (files : FileSystem) (location : Location) : Option Node :=
  if location = [] then some .directory else files.entries.lookup location

/-- Replace what there is at a place. -/
def put (files : FileSystem) (location : Location) (node : Node) : FileSystem :=
  { files with entries := (location, node) :: files.entries.filter (·.1 != location) }

/-- Empty a place. -/
def erase (files : FileSystem) (location : Location) : FileSystem :=
  { files with entries := files.entries.filter (·.1 != location) }

theorem node?_put (files : FileSystem) {target location : Location} (named : location ≠ [])
    (node : Node) :
    (files.put target node).node? location =
      if location = target then some node else files.node? location := by
  rw [node?, if_neg named, node?, if_neg named, put]
  by_cases same : location = target
  · simp [same]
  · rw [if_neg same, List.lookup_cons, show (location == target) = false by simpa using same]
    exact lookup_filter_ne files.entries same

/-- Look for a place, whose last name may not be too long. -/
def find (files : FileSystem) (location : Location) : Except SystemError (Option Node) :=
  if location.getLast?.any (maxNameSize < ·.utf8ByteSize) then
    .error .nameTooLong
  else
    .ok (files.node? location)

/-- Follow one name from a place, which has to be a directory. -/
def enter (files : FileSystem) (location : Location) (name : String) :
    Except SystemError Location :=
  match files.find location with
  | .error reason => .error reason
  | .ok none => .error .noSuchFile
  | .ok (some (.file _)) => .error .notDirectory
  | .ok (some .directory) =>
    .ok (if name = "." then location else if name = ".." then location.dropLast
      else location ++ [name])

/-- Where the resolution of a path starts. -/
def start (files : FileSystem) (path : String) : Location :=
  if path.toList.head? = some '/' then [] else files.working

/-- The place that a path means. Nothing needs to be there. -/
def locate (files : FileSystem) (path : String) : Except SystemError Location :=
  if path.contains '\x00' then
    .error .zeroInPath
  else if path = "" then
    .error .noSuchFile
  else if maxPathSize < path.utf8ByteSize then
    .error .nameTooLong
  else
    (pathNames path).foldlM files.enter (files.start path)

/-- The content of the file at a path. -/
def read (files : FileSystem) (path : String) : Except SystemError ByteArray := do
  let location ← files.locate path
  match ← files.find location with
  | none => .error .noSuchFile
  | some .directory => .error .isDirectory
  | some (.file content) => if endsInSlash path then .error .notDirectory else .ok content

/-- The file system after giving a new content to the file at a path, which is made if it is not
there. -/
def write (files : FileSystem) (path : String) (content : ByteArray) :
    Except SystemError FileSystem := do
  let location ← files.locate path
  if endsInSlash path then
    .error .isDirectory
  else
    match ← files.find location with
    | some .directory => .error .isDirectory
    | _ => .ok (files.put location (.file content))

/-- The file system without the file at a path. -/
def remove (files : FileSystem) (path : String) : Except SystemError FileSystem := do
  let location ← files.locate path
  match ← files.find location with
  | none => .error .noSuchFile
  | some .directory => .error .isDirectory
  | some (.file _) =>
    if endsInSlash path then .error .notDirectory else .ok (files.erase location)

/-- One step of making directories: follow a name, and make a directory if there is nothing. -/
def makeDirectory (state : FileSystem × Location) (name : String) : FileSystem × Location :=
  let (files, location) := state
  if name = "." then (files, location)
  else if name = ".." then (files, location.dropLast)
  else
    let child := location ++ [name]
    match files.node? child with
    | none => (files.put child .directory, child)
    | some _ => (files, child)

/-- Make the directory at a path and all directories above it, as far as they are missing. -/
def makeDirectories (files : FileSystem) (path : String) : FileSystem :=
  ((pathNames path).foldl makeDirectory (files, files.start path)).1

/-- The path of the directory that a path leads through last. -/
def parentPath (path : String) : String :=
  String.ofList (path.toList.reverse.dropWhile (· != '/')).reverse

/-- Put a file at a path, and make the directories above it as far as they are missing. -/
def place (files : FileSystem) (path : String) (content : ByteArray) : FileSystem :=
  let files := files.makeDirectories (parentPath path)
  match files.write path content with
  | .ok placed => placed
  | .error _ => files

end FileSystem

end Storage
end FlashCartridge
