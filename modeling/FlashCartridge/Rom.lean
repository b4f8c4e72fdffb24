import FlashCartridge.Text.Hex

/-!
# Cartridge ROM

A ROM consists of one or more banks of 16 KiB. Its length is checked once, when the cartridge is
powered on, so that the fixed part of the ROM area is always backed by ROM.
-/

namespace FlashCartridge

/-- A broken promise of the caller, after which no result is defined. -/
inductive Fault
  /-- The ROM is empty or ends inside a bank. -/
  | romLength (length : Nat)
  /-- The bank controller was asked for an address outside of the ROM area. -/
  | outsideRomArea (address : UInt16)
  deriving DecidableEq, Repr

/-- The wording of a fault. -/
def Fault.message : Fault → String
  | .romLength length =>
    s!"ROM length {Text.marked 1 length} is not a non-zero multiple of 16KiB"
  | .outsideRomArea _ => "internal error: entered unreachable code"

/-- The contents of a ROM. -/
structure Rom where
  /-- The bytes, from the first bank on. -/
  bytes : ByteArray
  /-- There is at least one bank. -/
  size_pos : 0 < bytes.size
  /-- Every bank is complete. -/
  size_mod : bytes.size % 0x4000 = 0

namespace Rom

/-- The ROM with the given bytes, unless their number is not a legal length. -/
def ofBytes (bytes : ByteArray) : Except Fault Rom :=
  if legal : 0 < bytes.size ∧ bytes.size % 0x4000 = 0 then
    .ok ⟨bytes, legal.1, legal.2⟩
  else
    .error (.romLength bytes.size)

/-- The byte at an offset. Every bit is set behind the end of the ROM. -/
def read (rom : Rom) (offset : Nat) : UInt8 :=
  if inside : offset < rom.bytes.size then rom.bytes.get offset inside else 0xFF

theorem size_ge (rom : Rom) : 0x4000 ≤ rom.bytes.size := by
  have := rom.size_pos
  have := rom.size_mod
  omega

end Rom

end FlashCartridge
