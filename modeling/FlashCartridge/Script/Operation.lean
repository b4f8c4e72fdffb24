/-!
# Bus scripts

A bus script is a list of operations on the bus, each with the number of the line that asks for it.
-/

namespace FlashCartridge
namespace Script

/-- One operation of a script. -/
inductive Operation
  /-- Write a byte. -/
  | write (address : UInt16) (byte : UInt8)
  /-- Read a byte, and compare it with the expected one if there is one. -/
  | read (address : UInt16) (expected : Option UInt8)
  /-- Save everything that has changed. -/
  | flush
  deriving DecidableEq, Repr

/-- An operation together with the number of its line, where the first line has number one. -/
structure Line where
  /-- The number of the line. -/
  number : Nat
  /-- What the line asks for. -/
  operation : Operation
  deriving DecidableEq, Repr

end Script
end FlashCartridge
