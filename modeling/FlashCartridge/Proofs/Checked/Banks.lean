import FlashCartridge.Mbc6.Registers
import FlashCartridge.SaveImage
import FlashCartridge.Proofs.Checked.Operations

/-!
# Banks on words and blocks

Both windows of an area compute the place of a byte from a bank register and the low bits of an
address. A register of the ROM area is one byte, in which bit 7 chooses the flash chip. RAM and
flash are the two parts of one block, and each use of a part is a slice of that block.
-/

namespace FlashCartridge
namespace Checked

open Mbc6 (Mapping PerWindow Window)

/-- The place of an address in a bank of a given size. -/
def bankOffset (bank : UInt8) (size : Nat) (address : UInt16) : Checked UInt32 := do
  let start ← mul (.ofNat bank.toNat) (.ofNat size)
  let mask ← sub (.ofNat size) (.ofNat 1)
  add start (.ofNat address.toNat &&& mask)

/-- Banks of up to 8 KiB that are numbered by bytes do not leave the range of words. -/
theorem bankOffset_eq_ok (bank : UInt8) {size : Nat} (power : size.isPowerOfTwo)
    (small : size ≤ 0x2000) (address : UInt16) :
    bankOffset bank size address =
      .ok (.ofNat (bank.toNat * size + address.toNat % size)) := by
  have size_pos : 0 < size := Nat.pos_of_isPowerOfTwo power
  have bank_le : bank.toNat ≤ 0xFF := Nat.le_of_lt_succ bank.toNat_lt
  have start_le : bank.toNat * size ≤ 0xFF * 0x2000 := Nat.mul_le_mul bank_le small
  have within : address.toNat % size < size := Nat.mod_lt _ size_pos
  have wide : 0xFF * 0x2000 + 0x2000 < UInt32.size := by decide
  have start : mul (.ofNat bank.toNat) (.ofNat size) = .ok (.ofNat (bank.toNat * size)) :=
    mul_ofNat (by omega) (by omega) (by omega)
  have mask : sub (.ofNat size) (.ofNat 1) = .ok (.ofNat (size - 1)) :=
    sub_ofNat (by omega) size_pos
  rw [bankOffset, start, ok_bind, mask, ok_bind, ofNat_and_mask power, add_ofNat (by omega)]

/-! ## The registers as bytes -/

/-- The bank registers. -/
structure Registers where
  /-- Whether the RAM can be read and written. -/
  ramEnabled : Bool
  /-- The bank that each window of the RAM area shows. -/
  ramBank : PerWindow UInt8
  /-- The bank that each window of the ROM area shows, and whether it is one of the flash chip. -/
  romBank : PerWindow UInt8

/-- Store the bank of a window of the RAM area. -/
def Registers.setRamBank (registers : Registers) (window : Window) (byte : UInt8) : Registers :=
  { registers with ramBank := registers.ramBank.set window (byte &&& 7) }

/-- Change the register of a window of the ROM area. -/
def Registers.modifyRomBank (registers : Registers) (window : Window) (change : UInt8 → UInt8) :
    Registers :=
  { registers with
    romBank := registers.romBank.set window (change (registers.romBank.get window)) }

/-- Whether a register of the ROM area chooses the flash chip. -/
def showsFlash (register : UInt8) : Bool := register &&& 0x80 != 0

/-- Store the bank of a register of the ROM area. -/
def setBank (register byte : UInt8) : UInt8 := register &&& 0x80 ||| byte &&& 0x7F

/-- Store the choice of the flash chip of a register of the ROM area. -/
def setFlash (register byte : UInt8) : UInt8 := (byte &&& 1) <<< 7 ||| register &&& 0x7F

/-- The place in the ROM or the flash chip that an address shows. -/
def windowOffset (register : UInt8) (address : UInt16) : Checked UInt32 :=
  bankOffset (register &&& 0x7F) Mapping.bankSize address

/-- The place in the RAM that an address shows. -/
def ramOffset (registers : Registers) (address : UInt16) : Checked UInt32 :=
  let bank := registers.ramBank.get (Mbc6.Registers.ramWindow address)
  bankOffset bank Mbc6.Registers.ramBankSize address

/-- The byte in a register of the ROM area. -/
def ofMapping (mapping : Mapping) : UInt8 := .ofNat mapping.register

/-- The registers as bytes. -/
def ofRegisters (registers : Mbc6.Registers) : Registers where
  ramEnabled := registers.ramEnabled
  ramBank := ⟨.ofNat registers.ramBank.a.val, .ofNat registers.ramBank.b.val⟩
  romBank := ⟨ofMapping registers.mapping.a, ofMapping registers.mapping.b⟩

theorem bank_ofMapping : ∀ mapping, (ofMapping mapping &&& 0x7F).toNat = mapping.bank.val := by
  have all : ∀ bank flash, (ofMapping ⟨bank, flash⟩ &&& 0x7F).toNat = bank.val := by decide
  exact fun mapping => all mapping.bank mapping.flash

theorem showsFlash_ofMapping : ∀ mapping, showsFlash (ofMapping mapping) = mapping.flash := by
  have all : ∀ bank flash, showsFlash (ofMapping ⟨bank, flash⟩) = flash := by decide
  exact fun mapping => all mapping.bank mapping.flash

theorem byte_and_mask (byte : UInt8) {size : Nat} (power : size.isPowerOfTwo) :
    byte &&& .ofNat (size - 1) = .ofNat (byte.toNat % size) := by
  obtain ⟨bits, rfl⟩ := power
  rw [← Nat.and_two_pow_sub_one_eq_mod, UInt8.ofNat_and, UInt8.ofNat_toNat]

theorem setBank_ofMapping (mapping : Mapping) (byte : UInt8) :
    setBank (ofMapping mapping) byte = ofMapping (mapping.setBank byte) := by
  have kept : ∀ bank flash, ofMapping ⟨bank, flash⟩ &&& 0x80 = ofMapping ⟨0, flash⟩ := by decide
  have joined : ∀ (bank : Fin 128) (flash : Bool),
      ofMapping ⟨0, flash⟩ ||| .ofNat bank.val = ofMapping ⟨bank, flash⟩ := by decide
  have low : byte &&& 0x7F = .ofNat (byte.toNat % 128) :=
    byte_and_mask byte ⟨7, rfl⟩
  rw [setBank, kept mapping.bank mapping.flash, low]
  exact joined ⟨byte.toNat % 128, Nat.mod_lt _ (by decide)⟩ mapping.flash

theorem setFlash_ofMapping (mapping : Mapping) (byte : UInt8) :
    setFlash (ofMapping mapping) byte = ofMapping (mapping.setFlash byte) := by
  have bit : (byte &&& 1) <<< 7 = if byte &&& 1 != 0 then 0x80 else 0 := by
    have all : ∀ number : Fin 256, (UInt8.ofNat number &&& 1) <<< 7 =
        if UInt8.ofNat number &&& 1 != 0 then 0x80 else 0 := by decide +kernel
    have byteCase := all ⟨byte.toNat, byte.toNat_lt⟩
    rwa [UInt8.ofNat_toNat] at byteCase
  have kept : ∀ bank flash, ofMapping ⟨bank, flash⟩ &&& 0x7F = .ofNat bank.val := by decide
  have joined : ∀ (bank : Fin 128) (flash : Bool),
      (if flash then 0x80 else 0) ||| .ofNat bank.val = ofMapping ⟨bank, flash⟩ := by decide
  rw [setFlash, bit, kept mapping.bank mapping.flash]
  exact joined mapping.bank _

theorem setRamBank_ofRegisters (registers : Mbc6.Registers) (window : Window) (byte : UInt8) :
    (ofRegisters registers).setRamBank window byte =
      ofRegisters (registers.setRamBank window byte) := by
  have low : byte &&& 7 = .ofNat (byte.toNat % 8) :=
    byte_and_mask byte ⟨3, rfl⟩
  rw [Registers.setRamBank, low]
  cases window <;> rfl

theorem romBank_ofRegisters (registers : Mbc6.Registers) (window : Window) :
    (ofRegisters registers).romBank.get window = ofMapping (registers.mapping.get window) := by
  cases window <;> rfl

theorem modifyRomBank_ofRegisters (registers : Mbc6.Registers) (window : Window)
    {change : UInt8 → UInt8} {intended : Mapping → Mapping}
    (agrees : ∀ mapping, change (ofMapping mapping) = ofMapping (intended mapping)) :
    (ofRegisters registers).modifyRomBank window change =
      ofRegisters (registers.modifyMapping window intended) := by
  rw [Registers.modifyRomBank, romBank_ofRegisters, agrees]
  cases window <;> rfl

theorem windowOffset_ofMapping (mapping : Mapping) (address : UInt16) :
    windowOffset (ofMapping mapping) address = .ok (.ofNat (mapping.offset address).val) := by
  have offset := bankOffset_eq_ok (ofMapping mapping &&& 0x7F)
    (show Mapping.bankSize.isPowerOfTwo from ⟨13, rfl⟩) (by decide) address
  rw [bank_ofMapping] at offset
  exact offset

theorem ramOffset_ofRegisters (registers : Mbc6.Registers) (address : UInt16) :
    ramOffset (ofRegisters registers) address = .ok (.ofNat (registers.ramOffset address).val) := by
  have bank : ∀ window, ((ofRegisters registers).ramBank.get window).toNat =
      (registers.ramBank.get window).val := by
    have small : ∀ bank : Fin 8, (UInt8.ofNat bank.val).toNat = bank.val := by decide
    intro window
    cases window <;> exact small _
  have offset := bankOffset_eq_ok
    ((ofRegisters registers).ramBank.get (Mbc6.Registers.ramWindow address))
    (show Mbc6.Registers.ramBankSize.isPowerOfTwo from ⟨12, rfl⟩) (by decide) address
  rw [bank] at offset
  exact offset

/-! ## The two parts of the saved block -/

/-- The RAM is the front of the block. -/
def ram (region : ByteArray) : Checked ByteArray := slice region (.ofNat 0) (.ofNat ramSize)

/-- The flash array is the rest of it. -/
def flash (region : ByteArray) : Checked ByteArray :=
  slice region (.ofNat ramSize) (.ofNat region.size)

/-- The block with another RAM. -/
def withRam (region ram : ByteArray) : ByteArray := ram ++ region.extract ramSize region.size

/-- The block with another flash array. -/
def withFlash (region flash : ByteArray) : ByteArray := region.extract 0 ramSize ++ flash

/-- The block of a cartridge without an image: the RAM is cleared and the flash chip erased. -/
def blank : Checked ByteArray :=
  modify (Memory.replicate SaveImage.byteSize 0x00).bytes (.ofNat ramSize)
    (.ofNat SaveImage.byteSize) fun _ _ => 0xFF

theorem slice_eq_ok {bytes : ByteArray} {start stop : Nat} (small : bytes.size < UInt32.size)
    (ordered : start ≤ stop) (inside : stop ≤ bytes.size) :
    slice bytes (.ofNat start) (.ofNat stop) = .ok (bytes.extract start stop) := by
  rw [slice, toNat_ofNat (by omega), toNat_ofNat (by omega), if_pos ⟨ordered, inside⟩]

section Image

variable (image : SaveImage)

theorem extract_ram : image.toBytes.extract 0 ramSize = image.ram.bytes :=
  ByteArray.extract_append_eq_left image.ram.size_bytes.symm

theorem extract_flash : image.toBytes.extract ramSize image.toBytes.size = image.flash.bytes :=
  ByteArray.extract_append_eq_right image.ram.size_bytes.symm ByteArray.size_append

theorem size_toBytes_lt : image.toBytes.size < UInt32.size := by
  rw [SaveImage.size_toBytes]
  decide

theorem ram_toBytes : ram image.toBytes = .ok image.ram.bytes := by
  have inside : ramSize ≤ image.toBytes.size := by
    rw [SaveImage.size_toBytes]
    decide
  rw [ram, slice_eq_ok (size_toBytes_lt image) (Nat.zero_le _) inside, extract_ram]

theorem flash_toBytes : flash image.toBytes = .ok image.flash.bytes := by
  have inside : ramSize ≤ image.toBytes.size := by
    rw [SaveImage.size_toBytes]
    decide
  rw [flash, slice_eq_ok (size_toBytes_lt image) inside (Nat.le_refl _), extract_flash]

theorem withRam_toBytes (ram : Memory ramSize) :
    withRam image.toBytes ram.bytes = SaveImage.toBytes { image with ram } := by
  rw [withRam, extract_flash]
  rfl

theorem withFlash_toBytes (flash : Flash.FlashArray) :
    withFlash image.toBytes flash.bytes = SaveImage.toBytes { image with flash } := by
  rw [withFlash, extract_ram]
  rfl

end Image

/-- A block whose back is filled is its front followed by a filled block. -/
theorem bytes_mapRange_replicate (front back : Nat) (low high : UInt8) :
    ((Memory.replicate (front + back) low).mapRange front (fun _ _ => high) back).bytes =
      (Memory.replicate front low).bytes ++ (Memory.replicate back high).bytes := by
  apply ByteArray.ext_getElem
  · rw [ByteArray.size_append, Memory.size_bytes, Memory.size_bytes, Memory.size_bytes]
  · intro index inFilled inParts
    have inside : index < front + back := by rwa [Memory.size_bytes] at inFilled
    have byte := Memory.get_fillRange front back high (Memory.replicate (front + back) low)
      ⟨index, inside⟩
    rw [Memory.get_replicate] at byte
    dsimp only at byte
    refine byte.trans ?_
    by_cases inFront : index < front
    · rw [if_neg (by omega), ByteArray.getElem_append_left (by rwa [Memory.size_bytes])]
      exact (Memory.get_replicate low ⟨index, inFront⟩).symm
    · have behind : index - front < back := by omega
      have start : (Memory.replicate front low).bytes.size ≤ index := by
        rw [Memory.size_bytes]
        omega
      rw [if_pos (by omega), ByteArray.getElem_append_right start]
      simp only [Memory.size_bytes]
      exact (Memory.get_replicate high ⟨index - front, behind⟩).symm

theorem blank_eq_ok : blank = .ok SaveImage.blank.toBytes := by
  rw [blank, modify_ofNat _ (by decide) (Nat.le_refl _), bytes_mapRange_replicate]
  rfl

end Checked
end FlashCartridge
