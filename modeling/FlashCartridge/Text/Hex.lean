/-!
# Hexadecimal text

Bytes and addresses are shown in lower-case hexadecimal, with leading zeros up to a fixed width.
-/

namespace FlashCartridge
namespace Text

/-- The hexadecimal digits of `value`, with leading zeros up to `width` digits. -/
def hex (width value : Nat) : String :=
  let digits := Nat.toDigits 16 value
  String.ofList (List.replicate (width - digits.length) '0' ++ digits)

/-- Hexadecimal digits behind the mark `0x`. -/
def marked (width value : Nat) : String := "0x" ++ hex width value

/-- A byte has two digits. -/
def byte (value : UInt8) : String := marked 2 value.toNat

/-- An address on the bus has four digits. -/
def word (value : UInt16) : String := marked 4 value.toNat

end Text
end FlashCartridge
