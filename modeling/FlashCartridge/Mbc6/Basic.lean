import FlashCartridge.Bus
import FlashCartridge.Mbc6.Target

/-!
# The bank controller MBC6

The controller connects the bus with ROM, RAM and flash chip. It remembers whether RAM or flash
have changed since the last successful save, and saves them when the RAM is disabled, on a flush,
and when the power goes off. A failed save leaves the memories changed in this sense, so that the
next occasion tries again.
-/

namespace FlashCartridge

/-- The state of a controller whose battery is a save store in `σ`. -/
structure Mbc6 (σ : Type) where
  /-- The cartridge ROM. -/
  rom : Rom
  /-- RAM and flash. -/
  memory : SaveImage
  /-- The bank registers. -/
  registers : Mbc6.Registers
  /-- The command interpreter of the flash chip. -/
  chip : Flash.Chip
  /-- The save store, if the cartridge has a battery. -/
  battery : Option σ
  /-- Whether RAM or flash have changed since the last successful save. -/
  dirty : Bool

/-- Why a cartridge could not be powered on. -/
inductive PowerOnError
  /-- The ROM is not one. -/
  | fault (fault : Fault)
  /-- The save store failed. -/
  | save (error : SaveError)
  deriving DecidableEq, Repr

namespace Mbc6

variable {σ : Type}

/-- The controller after power on, with the given ROM and memories. -/
def initial (rom : Rom) (memory : SaveImage) (battery : Option σ) : Mbc6 σ where
  rom
  memory
  registers := .initial
  chip := .initial
  battery
  dirty := false

/-- Power on. The length of the ROM is checked first. A battery then restores the image of the
last session; where there is none, RAM and flash are blank. -/
def powerOn [SaveStore σ] (bytes : ByteArray) (battery : Option σ) :
    Except PowerOnError (Mbc6 σ) × List Event :=
  match Rom.ofBytes bytes with
  | .error fault => (.error (.fault fault), [])
  | .ok rom =>
    match battery with
    | none => (.ok (initial rom .blank none), [])
    | some store =>
      let reply := SaveStore.load store
      let events := reply.log.map .storeNote
      match reply.result with
      | .error cause => (.error (.save (.load cause)), events)
      | .ok kept => (.ok (initial rom (kept.getD .blank) (some reply.store)), events)

/-- Read through a window of the ROM area. -/
def loadWindow (controller : Mbc6 σ) (window : Window) (address : UInt16) : UInt8 :=
  let mapping := controller.registers.mapping.get window
  let offset := mapping.offset address
  if mapping.flash then
    controller.chip.load controller.memory.flash offset
  else
    controller.rom.read offset

/-- Read a byte of the ROM area. -/
def loadRom (controller : Mbc6 σ) (address : UInt16) : Except Fault UInt8 :=
  match LoadTarget.ofAddress? address with
  | some .fixed => .ok (controller.rom.read address.toNat)
  | some (.window window) => .ok (controller.loadWindow window address)
  | none => .error (.outsideRomArea address)

/-- Read a byte of the RAM area, in which every bit is set while the RAM is disabled. -/
def loadRam (controller : Mbc6 σ) (address : UInt16) : UInt8 :=
  if controller.registers.ramEnabled then
    controller.memory.ram.get (controller.registers.ramOffset address)
  else
    0xFF

/-- Write a byte of the RAM area, which has no effect while the RAM is disabled. Only another byte
than the present one counts as a change. -/
def storeRam (controller : Mbc6 σ) (address : UInt16) (byte : UInt8) : Mbc6 σ :=
  if controller.registers.ramEnabled then
    let offset := controller.registers.ramOffset address
    if controller.memory.ram.get offset = byte then
      controller
    else
      { controller with
        memory := { controller.memory with ram := controller.memory.ram.set offset byte }
        dirty := true }
  else
    controller

/-- Write a byte that reaches the flash chip. -/
def storeFlash (controller : Mbc6 σ) (address : Flash.Address) (byte : UInt8) :
    Reply (Mbc6 σ) Unit :=
  let action := controller.chip.action address byte
  { state :=
      { controller with
        chip := controller.chip.perform action
        memory := { controller.memory with flash := action.apply controller.memory.flash }
        dirty := controller.dirty || action.modifies }
    value := ()
    events := [.flashWrite address byte action] }

/-- Write through a window of the ROM area. Only the flash chip can be written, and only while it
is not write protected. -/
def storeWindow (controller : Mbc6 σ) (window : Window) (address : UInt16) (byte : UInt8) :
    Reply (Mbc6 σ) Unit :=
  let mapping := controller.registers.mapping.get window
  if !mapping.flash then
    ⟨controller, (), [.romWrite address byte]⟩
  else if !controller.chip.master.writeEnabled then
    ⟨controller, (), [.protectedWrite address byte]⟩
  else
    controller.storeFlash (mapping.offset address) byte

section Saving

variable [SaveStore σ]

/-- Save RAM and flash if they have changed and there is a battery. -/
def flush (controller : Mbc6 σ) : Reply (Mbc6 σ) (Except SaveError Unit) :=
  if controller.dirty then
    match controller.battery with
    | none => ⟨controller, .ok (), []⟩
    | some store =>
      let reply := SaveStore.save controller.memory store
      let events := .saveAttempt controller.memory reply.result :: reply.log.map .storeNote
      match reply.result with
      | .ok () =>
        ⟨{ controller with battery := some reply.store, dirty := false }, .ok (), events⟩
      | .error cause =>
        ⟨{ controller with battery := some reply.store }, .error (.write cause), events⟩
  else
    ⟨controller, .ok (), []⟩

/-- Save where nobody can be told about a failure, so that the log has to. -/
def flushQuietly (controller : Mbc6 σ) : Reply (Mbc6 σ) Unit :=
  let reply := controller.flush
  match reply.value with
  | .ok () => ⟨reply.state, (), reply.events⟩
  | .error error => ⟨reply.state, (), reply.events ++ [.saveFailed error]⟩

/-- Enable or disable the RAM. Disabling it saves, and happens whether or not the save succeeds. -/
def storeRamEnable (controller : Mbc6 σ) (byte : UInt8) : Reply (Mbc6 σ) Unit :=
  let enable := byte == 0x0A
  let reply : Reply (Mbc6 σ) Unit :=
    if controller.registers.ramEnabled && !enable then
      controller.flushQuietly
    else
      ⟨controller, (), []⟩
  { reply with
    state :=
      { reply.state with
        registers := { reply.state.registers with ramEnabled := enable } } }

/-- Write a byte to what an address of the ROM area reaches. -/
def storeTarget (controller : Mbc6 σ) (address : UInt16) (byte : UInt8) :
    StoreTarget → Reply (Mbc6 σ) Unit
  | .ramEnable => controller.storeRamEnable byte
  | .ramBank window =>
    ⟨{ controller with registers := controller.registers.setRamBank window byte }, (), []⟩
  | .flashEnable =>
    ⟨{ controller with chip := controller.chip.storeEnable byte }, (),
      if controller.chip.identified then [] else [.lockedEnable byte]⟩
  | .flashWriteEnable =>
    ⟨{ controller with chip := controller.chip.storeWriteEnable byte }, (), []⟩
  | .nothing => ⟨controller, (), []⟩
  | .bank window =>
    ⟨{ controller with
        registers := controller.registers.modifyMapping window (·.setBank byte) }, (), []⟩
  | .memory window =>
    ⟨{ controller with
        registers := controller.registers.modifyMapping window (·.setFlash byte) }, (), []⟩
  | .window window => controller.storeWindow window address byte

/-- Write a byte of the ROM area. -/
def storeRom (controller : Mbc6 σ) (address : UInt16) (byte : UInt8) :
    Reply (Mbc6 σ) (Except Fault Unit) :=
  let stored := Event.romAreaStore address byte
  match StoreTarget.ofAddress? address with
  | none => ⟨controller, .error (.outsideRomArea address), [stored]⟩
  | some target =>
    let reply := controller.storeTarget address byte target
    ⟨reply.state, .ok (), stored :: reply.events⟩

/-- Power off, with a last attempt to save. -/
def powerOff (controller : Mbc6 σ) : Reply (Option σ) Unit :=
  let reply := controller.flushQuietly
  ⟨reply.state.battery, (), reply.events⟩

/-- The controller answers the two areas of the bus. Reading has no effect on it. -/
instance : BankController (Mbc6 σ) where
  loadRom address controller := ⟨controller, controller.loadRom address, []⟩
  storeRom address byte controller := controller.storeRom address byte
  loadRam address controller := ⟨controller, controller.loadRam address, []⟩
  storeRam address byte controller := ⟨controller.storeRam address byte, (), []⟩
  flush controller := controller.flush

end Saving

end Mbc6

/-- Power on a cartridge with this controller, and report that. -/
def powerOnCartridge {σ : Type} [SaveStore σ] (rom : ByteArray) (battery : Option σ) :
    Except PowerOnError (Mbc6 σ) × List Event :=
  let (result, events) := Mbc6.powerOn rom battery
  match result with
  | .error error => (.error error, events)
  | .ok controller =>
    (.ok controller, events ++ [.poweredOn rom.size battery.isSome])

end FlashCartridge
