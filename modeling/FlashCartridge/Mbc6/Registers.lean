import FlashCartridge.Flash.Geometry

/-!
# Bank registers

The switchable part of the ROM area and the RAM area are both seen through two windows, each with a
bank register of its own. A window of the ROM area shows a bank of 8 KiB of either the ROM or the
flash chip; a window of the RAM area shows a bank of 4 KiB.
-/

namespace FlashCartridge
namespace Mbc6

/-- The first or the second window of an area. -/
inductive Window
  | a
  | b
  deriving DecidableEq, Repr

/-- One value for each window. -/
structure PerWindow (α : Type) where
  /-- The value of the first window. -/
  a : α
  /-- The value of the second window. -/
  b : α

namespace PerWindow

variable {α : Type}

/-- The value of a window. -/
def get (values : PerWindow α) : Window → α
  | .a => values.a
  | .b => values.b

/-- Replace the value of a window. -/
def set (values : PerWindow α) (window : Window) (value : α) : PerWindow α :=
  match window with
  | .a => { values with a := value }
  | .b => { values with b := value }

theorem get_set (values : PerWindow α) (target window : Window) (value : α) :
    (values.set target value).get window =
      if target = window then value else values.get window := by
  cases target <;> cases window <;> rfl

end PerWindow

/-- What a window of the ROM area shows. -/
structure Mapping where
  /-- The bank of 8 KiB. -/
  bank : Fin 128
  /-- Whether the bank belongs to the flash chip. -/
  flash : Bool
  deriving DecidableEq, Repr

namespace Mapping

/-- Number of bytes in a bank. -/
abbrev bankSize : Nat := 0x2000

/-- The bank is chosen by the low seven bits of a byte. -/
def setBank (mapping : Mapping) (byte : UInt8) : Mapping :=
  { mapping with bank := ⟨byte.toNat % 128, Nat.mod_lt _ (by decide)⟩ }

/-- The flash chip is chosen by bit 0 of a byte. -/
def setFlash (mapping : Mapping) (byte : UInt8) : Mapping :=
  { mapping with flash := byte &&& 1 != 0 }

/-- The register byte of a mapping: the bank, with the choice of the flash chip as bit 7. -/
def register (mapping : Mapping) : Nat := mapping.bank.val + if mapping.flash then 0x80 else 0

/-- The place in the ROM or the flash chip that an address on the bus shows. -/
def offset (mapping : Mapping) (address : UInt16) : Flash.Address :=
  ⟨mapping.bank.val * bankSize + address.toNat % bankSize, by
    have := mapping.bank.isLt
    have := Nat.mod_lt address.toNat (show 0 < bankSize by decide)
    simp only [Flash.size, bankSize] at *
    omega⟩

end Mapping

/-- The registers of the bank controller. -/
structure Registers where
  /-- Whether the RAM can be read and written. -/
  ramEnabled : Bool
  /-- The bank that each window of the RAM area shows. -/
  ramBank : PerWindow (Fin 8)
  /-- What each window of the ROM area shows. -/
  mapping : PerWindow Mapping

namespace Registers

/-- Number of bytes in a RAM bank. -/
abbrev ramBankSize : Nat := 0x1000

/-- After power on the RAM is disabled and every window shows bank 0 of the ROM or RAM. -/
def initial : Registers where
  ramEnabled := false
  ramBank := ⟨0, 0⟩
  mapping := ⟨⟨0, false⟩, ⟨0, false⟩⟩

/-- The RAM bank of a window is chosen by the low three bits of a byte. -/
def setRamBank (registers : Registers) (window : Window) (byte : UInt8) : Registers :=
  let bank : Fin 8 := ⟨byte.toNat % 8, Nat.mod_lt _ (by decide)⟩
  { registers with ramBank := registers.ramBank.set window bank }

/-- Change what a window of the ROM area shows. -/
def modifyMapping (registers : Registers) (window : Window) (change : Mapping → Mapping) :
    Registers :=
  { registers with
    mapping := registers.mapping.set window (change (registers.mapping.get window)) }

/-- The window of the RAM area that an address belongs to, counted from the start of the area. -/
def ramWindow (address : UInt16) : Window := if address < 0x1000 then .a else .b

/-- The place in the RAM that an address shows, counted from the start of the RAM area. -/
def ramOffset (registers : Registers) (address : UInt16) : Fin 0x8000 :=
  let bank := registers.ramBank.get (ramWindow address)
  ⟨bank.val * ramBankSize + address.toNat % ramBankSize, by
    have := bank.isLt
    have := Nat.mod_lt address.toNat (show 0 < ramBankSize by decide)
    simp only [ramBankSize] at *
    omega⟩

end Registers

end Mbc6
end FlashCartridge
