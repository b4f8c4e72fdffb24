import FlashCartridge.Mbc6.Registers

/-!
# What the ROM area reaches

Reads from the ROM area go to the fixed bank or through one of the two windows. Writes to it reach
a register, or the memory behind a window.
-/

namespace FlashCartridge
namespace Mbc6

/-- What a read from the ROM area reaches. -/
inductive LoadTarget
  /-- The first 16 KiB of the ROM. -/
  | fixed
  /-- The memory behind a window. -/
  | window (window : Window)
  deriving DecidableEq, Repr

/-- What a read from an address reaches, unless it lies outside of the ROM area. -/
def LoadTarget.ofAddress? (address : UInt16) : Option LoadTarget :=
  if address < 0x4000 then some .fixed
  else if address < 0x6000 then some (.window .a)
  else if address < 0x8000 then some (.window .b)
  else none

/-- What a write to the ROM area reaches. -/
inductive StoreTarget
  /-- The RAM enable register. -/
  | ramEnable
  /-- The register of a RAM bank. -/
  | ramBank (window : Window)
  /-- The enable bit of the flash chip. -/
  | flashEnable
  /-- The write enable bit of the flash chip, which has one address only. -/
  | flashWriteEnable
  /-- Nothing. -/
  | nothing
  /-- The register for the bank of a window. -/
  | bank (window : Window)
  /-- The register that chooses between ROM and flash for a window. -/
  | memory (window : Window)
  /-- The memory behind a window. -/
  | window (window : Window)
  deriving DecidableEq, Repr

/-- What a write to an address reaches, unless it lies outside of the ROM area. -/
def StoreTarget.ofAddress? (address : UInt16) : Option StoreTarget :=
  if address < 0x0400 then some .ramEnable
  else if address < 0x0800 then some (.ramBank .a)
  else if address < 0x0C00 then some (.ramBank .b)
  else if address < 0x1000 then some .flashEnable
  else if address = 0x1000 then some .flashWriteEnable
  else if address < 0x2000 then some .nothing
  else if address < 0x2800 then some (.bank .a)
  else if address < 0x3000 then some (.memory .a)
  else if address < 0x3800 then some (.bank .b)
  else if address < 0x4000 then some (.memory .b)
  else if address < 0x6000 then some (.window .a)
  else if address < 0x8000 then some (.window .b)
  else none

end Mbc6
end FlashCartridge
