import FlashCartridge.Mbc6.Basic
import FlashCartridge.Text.Record

/-!
# The controller as text

A controller is described by its registers and its protocol state, without its memories.
-/

namespace FlashCartridge

/-- The description of what a window of the ROM area shows. -/
def Mbc6.Mapping.describe (mapping : Mbc6.Mapping) : String :=
  Text.wrapped "RomBank" (toString mapping.register)

/-- The description of the bank registers. -/
def Mbc6.Registers.describe (registers : Mbc6.Registers) : String :=
  Text.record "BankRegisters"
    [("ram_enabled", toString registers.ramEnabled),
      ("ram_bank_a", toString registers.ramBank.a.val),
      ("ram_bank_b", toString registers.ramBank.b.val),
      ("rom_bank_a", registers.mapping.a.describe),
      ("rom_bank_b", registers.mapping.b.describe)]

/-- The description of the control bits of the flash chip. -/
def Flash.MasterBits.describe (master : Flash.MasterBits) : String :=
  Text.record "FlashMaster"
    [("enabled", toString master.enabled), ("write_enabled", toString master.writeEnabled)]

/-- The description of a controller. -/
def Mbc6.describe {σ : Type} (controller : Mbc6 σ) : String :=
  Text.record "Mbc6"
    [("rom_len", toString controller.rom.bytes.size),
      ("regs", controller.registers.describe),
      ("flash_state", controller.chip.state.name),
      ("flash_master", controller.chip.master.describe),
      ("battery", toString controller.battery.isSome),
      ("dirty", toString controller.dirty)]

/-- The description of a cartridge, which shows nothing of what is inside. -/
def Bus.description : String := "Cartridge"

end FlashCartridge
