import FlashCartridge.Log
import FlashCartridge.Report
import FlashCartridge.SaveImage
import FlashCartridge.Storage.SystemError

/-!
# Save stores

A save store keeps the image of a cartridge between sessions. Any type of stores can serve as the
battery of a cartridge once it is an instance of `SaveStore`.
-/

namespace FlashCartridge

/-- Why a save store could not do its work. -/
inductive StoreError
  /-- The device failed for a reason of its own. -/
  | device (reason : String)
  /-- A save file could not be read. -/
  | unreadable (path : String) (reason : Storage.SystemError)
  /-- A save file could not be written. -/
  | unwritable (path : String) (reason : Storage.SystemError)
  /-- A save file has another size than it must have. -/
  | wrongSize (path : String) (actual expected : Nat)
  deriving DecidableEq, Repr

/-- The texts that describe the failure of a store. -/
def StoreError.report : StoreError → Report
  | .device reason => .root reason
  | .unreadable path reason =>
    (Report.root reason.message).within s!"failed to read save file '{path}'"
  | .unwritable path reason =>
    (Report.root reason.message).within s!"failed to write save file '{path}'"
  | .wrongSize path actual expected =>
    let found := s!"save file '{path}' has {actual} bytes"
    .root s!"{found}, but the cartridge needs exactly {expected}"

/-- The answer of a store to one request. -/
structure StoreReply (σ α : Type) where
  /-- The store afterwards. -/
  store : σ
  /-- The result of the request. -/
  result : Except StoreError α
  /-- What the store reports. -/
  log : List Log.Entry

/-- Something that keeps an image between sessions. -/
class SaveStore (σ : Type) where
  /-- The kept image, or nothing if none was saved yet. -/
  load : σ → StoreReply σ (Option SaveImage)
  /-- Replace the kept image. -/
  save : SaveImage → σ → StoreReply σ Unit

/-- A failure of the store as the cartridge sees it. -/
inductive SaveError
  /-- The image of the last session could not be loaded. -/
  | load (cause : StoreError)
  /-- The present image could not be saved. -/
  | write (cause : StoreError)
  deriving DecidableEq, Repr

/-- The texts that describe a failed load or save. -/
def SaveError.report : SaveError → Report
  | .load cause => cause.report.within "failed to load cartridge save"
  | .write cause => cause.report.within "failed to write cartridge save"

end FlashCartridge
