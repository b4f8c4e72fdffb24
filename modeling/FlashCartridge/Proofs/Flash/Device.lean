import FlashCartridge.Flash.Action

/-!
# The flash chip with its array

Seen from its pins, the chip receives writes and stores into its two control bits. A run performs a
list of such accesses on the chip and on the array behind it, and its history lists the writes, each
with the control bits that it met.
-/

namespace FlashCartridge
namespace Flash

/-- One access to the chip. -/
inductive Access
  /-- A byte reaches the command interpreter. -/
  | write (address : Address) (byte : UInt8)
  /-- The enable bit is stored. -/
  | enable (byte : UInt8)
  /-- The write enable bit is stored. -/
  | writeEnable (byte : UInt8)
  deriving DecidableEq, Repr

/-- The chip and the array that belongs to it. -/
structure Device where
  /-- The state of the chip. -/
  chip : Chip
  /-- The stored bytes. -/
  array : FlashArray

/-- One write, with the control bits that it met. -/
structure Write where
  /-- Where the byte was written. -/
  address : Address
  /-- The byte. -/
  byte : UInt8
  /-- The control bits at that moment. -/
  master : MasterBits
  deriving DecidableEq, Repr

namespace Device

/-- A write takes the action that the chip decides on, to the chip and to the array. -/
def write (address : Address) (byte : UInt8) (device : Device) : Device where
  chip := device.chip.accept address byte
  array := (device.chip.action address byte).apply device.array

/-- Perform one access. -/
def perform : Access → Device → Device
  | .write address byte, device => device.write address byte
  | .enable byte, device => { device with chip := device.chip.storeEnable byte }
  | .writeEnable byte, device => { device with chip := device.chip.storeWriteEnable byte }

/-- Perform accesses one after the other. -/
def run : List Access → Device → Device
  | [], device => device
  | access :: rest, device => run rest (device.perform access)

/-- The write that an access is, if any. -/
def written : Access → Device → List Write
  | .write address byte, device => [⟨address, byte, device.chip.master⟩]
  | .enable _, _ | .writeEnable _, _ => []

/-- The writes of a run, in order. -/
def history : List Access → Device → List Write
  | [], _ => []
  | access :: rest, device => device.written access ++ history rest (device.perform access)

/-- Whether an access modifies the array. -/
def modifies : Access → Device → Bool
  | .write address byte, device => (device.chip.action address byte).modifies
  | .enable _, _ | .writeEnable _, _ => false

/-- Whether any access of a run modifies the array. -/
def modified : List Access → Device → Bool
  | [], _ => false
  | access :: rest, device => device.modifies access || modified rest (device.perform access)

theorem run_append (front back : List Access) (device : Device) :
    run (front ++ back) device = run back (run front device) := by
  induction front generalizing device with
  | nil => rfl
  | cons access front ih => exact ih _

theorem history_append (front back : List Access) (device : Device) :
    history (front ++ back) device = history front device ++ history back (run front device) := by
  induction front generalizing device with
  | nil => rfl
  | cons access front ih => simp [history, run, ih]

theorem modified_append (front back : List Access) (device : Device) :
    modified (front ++ back) device =
      (modified front device || modified back (run front device)) := by
  induction front generalizing device with
  | nil => rfl
  | cons access front ih => simp [modified, run, ih, Bool.or_assoc]

theorem modifies_of_get_ne {device : Device} {address place : Address} {byte : UInt8}
    (changed : (device.write address byte).array.get place ≠ device.array.get place) :
    (device.chip.action address byte).modifies = true := by
  cases modifies : (device.chip.action address byte).modifies with
  | true => rfl
  | false =>
      have same := Action.apply_eq_self modifies device.array
      exact absurd (congrArg (Memory.get · place) same) changed

end Device
end Flash
end FlashCartridge
