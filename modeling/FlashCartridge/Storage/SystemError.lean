/-!
# Refusals of the operating system

Why a file could not be read or written.
-/

namespace FlashCartridge
namespace Storage

/-- Why the operating system refused an operation on a file. -/
inductive SystemError
  /-- A name on the path, or the path itself, names nothing. -/
  | noSuchFile
  /-- A name that has to be a directory is a file. -/
  | notDirectory
  /-- A directory cannot be read or written as a file. -/
  | isDirectory
  /-- A name or the whole path exceeds its greatest length. -/
  | nameTooLong
  /-- A path cannot hold a zero character. -/
  | zeroInPath
  deriving DecidableEq, Repr

/-- The wording of a numbered reason. -/
def numbered (description : String) (code : Nat) : String := s!"{description} (os error {code})"

/-- The wording of a refusal. -/
def SystemError.message : SystemError → String
  | .noSuchFile => numbered "No such file or directory" 2
  | .notDirectory => numbered "Not a directory" 20
  | .isDirectory => numbered "Is a directory" 21
  | .nameTooLong => numbered "File name too long" 36
  | .zeroInPath => "file name contained an unexpected NUL byte"

end Storage
end FlashCartridge
