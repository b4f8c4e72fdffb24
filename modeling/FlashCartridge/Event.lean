import FlashCartridge.Flash.Action
import FlashCartridge.SaveStore

/-!
# What happens in a cartridge

Everything that a cartridge does besides moving to its next state is an event: writes that were
noticed, writes that reached the flash chip, and attempts to save. The log shows some of the
events, and the history of a run is the list of all of them.
-/

namespace FlashCartridge

/-- One thing that happened in a cartridge. -/
inductive Event
  /-- A cartridge was powered on. -/
  | poweredOn (romSize : Nat) (battery : Bool)
  /-- A byte was stored outside of the areas of the cartridge. -/
  | unmappedStore (address : UInt16) (byte : UInt8)
  /-- A byte was stored into the ROM area. -/
  | romAreaStore (address : UInt16) (byte : UInt8)
  /-- The byte was meant for a ROM bank, which cannot be written. -/
  | romWrite (address : UInt16) (byte : UInt8)
  /-- The byte was meant for the flash chip, which is write protected. -/
  | protectedWrite (address : UInt16) (byte : UInt8)
  /-- The enable bit of the flash chip was stored before the chip was identified. -/
  | lockedEnable (byte : UInt8)
  /-- A byte reached the flash chip, which took the given action. -/
  | flashWrite (address : Flash.Address) (byte : UInt8) (action : Flash.Action)
  /-- The save store was asked to keep an image. -/
  | saveAttempt (image : SaveImage) (result : Except StoreError Unit)
  /-- A save failed where nobody could be told. -/
  | saveFailed (error : SaveError)
  /-- The save store reported something. -/
  | storeNote (entry : Log.Entry)

/-- The message that the log holds for an event. -/
def Event.entry? : Event → Option Log.Entry
  | .poweredOn romSize battery =>
    some ⟨.info, s!"[cartridge] MBC6, {romSize / 1024}KiB ROM, battery: {battery}"⟩
  | .unmappedStore address byte =>
    some ⟨.trace, s!"[cartridge] ignored write {Text.byte byte} to {Text.word address}"⟩
  | .romAreaStore address byte =>
    some ⟨.trace, s!"[mbc6] store {Text.byte byte} at {Text.word address}"⟩
  | .romWrite address byte =>
    some ⟨.trace, s!"[mbc6] write {Text.byte byte} to ROM at {Text.word address} ignored"⟩
  | .protectedWrite address byte =>
    let write := s!"[mbc6] write {Text.byte byte} to flash at {Text.word address}"
    some ⟨.warn, s!"{write} while flash is write protected"⟩
  | .lockedEnable byte =>
    let write := s!"[flash] enable write {Text.byte byte} ignored"
    some ⟨.trace, s!"{write}, software ID not issued"⟩
  | .flashWrite address byte action => action.entry? address byte
  | .saveAttempt _ _ => none
  | .saveFailed error => some ⟨.error, s!"[mbc6] failed to write save: {error.report.message}"⟩
  | .storeNote entry => some entry

/-- The messages that the log holds for some events. -/
def Event.messages (events : List Event) : List Log.Entry := events.filterMap Event.entry?

/-- The outcome of one operation on a device in state `μ`. -/
structure Reply (μ α : Type) where
  /-- The state afterwards. -/
  state : μ
  /-- The result of the operation. -/
  value : α
  /-- What happened meanwhile. -/
  events : List Event

end FlashCartridge
