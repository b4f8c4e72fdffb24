import FlashCartridge.Event
import FlashCartridge.Rom

/-!
# The cartridge on the bus

A cartridge owns two areas of the bus: the ROM area, which also reaches the registers of its bank
controller, and the RAM area. Everything else belongs to the console: reads from there give zero
and writes are ignored.
-/

namespace FlashCartridge

/-- A device that answers both areas of a cartridge. Addresses of the ROM area are those of the
bus; addresses of the RAM area count from its start. -/
class BankController (μ : Type) where
  /-- Read a byte of the ROM area. -/
  loadRom : UInt16 → μ → Reply μ (Except Fault UInt8)
  /-- Write a byte to the ROM area. -/
  storeRom : UInt16 → UInt8 → μ → Reply μ (Except Fault Unit)
  /-- Read a byte of the RAM area. -/
  loadRam : UInt16 → μ → Reply μ UInt8
  /-- Write a byte to the RAM area. -/
  storeRam : UInt16 → UInt8 → μ → Reply μ Unit
  /-- Save everything that has changed since the last save. A controller without a battery has
  nothing to do. -/
  flush : μ → Reply μ (Except SaveError Unit) := fun controller => ⟨controller, .ok (), []⟩

namespace Bus

/-- Who answers an address on the bus. -/
inductive Area
  /-- The ROM area of the cartridge. -/
  | rom
  /-- The RAM area of the cartridge, at an address counted from its start. -/
  | ram (offset : UInt16)
  /-- Nobody in the cartridge. -/
  | unmapped
  deriving DecidableEq, Repr

/-- The area that an address belongs to. -/
def area (address : UInt16) : Area :=
  if address < 0x8000 then .rom
  else if 0xA000 ≤ address ∧ address < 0xC000 then .ram (address - 0xA000)
  else .unmapped

theorem area_eq_rom_iff {address : UInt16} : area address = .rom ↔ address.toNat < 0x8000 := by
  simp only [area, UInt16.lt_iff_toNat_lt]
  split
  · rename_i below
    simpa using below
  · rename_i above
    have : ¬ address.toNat < 0x8000 := above
    split <;> simp [this]

theorem area_eq_ram_iff {address offset : UInt16} :
    area address = .ram offset ↔
      offset.toNat < 0x2000 ∧ address.toNat = 0xA000 + offset.toNat := by
  have half : (0x8000 : UInt16).toNat = 0x8000 := rfl
  have start : (0xA000 : UInt16).toNat = 0xA000 := rfl
  have stop : (0xC000 : UInt16).toNat = 0xC000 := rfl
  have := address.toNat_lt
  simp only [area, UInt16.lt_iff_toNat_lt, UInt16.le_iff_toNat_le, half, start, stop]
  split
  · simp
    omega
  · split
    · have behind : (0xA000 : UInt16) ≤ address := UInt16.le_iff_toNat_le.mpr (by omega)
      rw [Area.ram.injEq, ← UInt16.toNat_inj, UInt16.toNat_sub_of_le _ _ behind]
      omega
    · simp
      omega

variable {μ : Type} [BankController μ]

/-- Read a byte from the bus. -/
def load (address : UInt16) (controller : μ) : Reply μ (Except Fault UInt8) :=
  match area address with
  | .rom => BankController.loadRom address controller
  | .ram offset =>
    let reply := BankController.loadRam offset controller
    ⟨reply.state, .ok reply.value, reply.events⟩
  | .unmapped => ⟨controller, .ok 0x00, []⟩

/-- Write a byte to the bus. -/
def store (address : UInt16) (byte : UInt8) (controller : μ) : Reply μ (Except Fault Unit) :=
  match area address with
  | .rom => BankController.storeRom address byte controller
  | .ram offset =>
    let reply := BankController.storeRam offset byte controller
    ⟨reply.state, .ok reply.value, reply.events⟩
  | .unmapped => ⟨controller, .ok (), [.unmappedStore address byte]⟩

/-- Save everything that has changed. -/
def flush (controller : μ) : Reply μ (Except SaveError Unit) := BankController.flush controller

end Bus

end FlashCartridge
