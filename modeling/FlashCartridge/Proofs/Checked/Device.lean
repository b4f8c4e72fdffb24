import FlashCartridge.Proofs.Checked.Chip
import FlashCartridge.Proofs.Flash.Invariant

/-!
# The flash chip on words, with its array

As long as writes are only made while writing is enabled, accesses to the chip on words and blocks
never trap, and come to the same state as those to `Flash.Device`. Every state that is reached from
power on is well formed, and the page that is collected begins at a multiple of the page size inside
the array.
-/

namespace FlashCartridge
namespace Checked

open Flash (Access FlashArray)

/-- The chip and the array that belongs to it. -/
structure Device where
  /-- The state of the chip. -/
  chip : Chip
  /-- The stored bytes. -/
  array : ByteArray

namespace Device

/-- Perform one access. -/
def perform : Access → Device → Checked Device
  | .write address byte, device => do
    let accepted ← device.chip.accept device.array (.ofNat address.val) byte
    .ok ⟨accepted.chip, accepted.array⟩
  | .enable byte, device => .ok { device with chip := device.chip.storeEnable byte }
  | .writeEnable byte, device => .ok { device with chip := device.chip.storeWriteEnable byte }

/-- Perform accesses one after the other. -/
def run : List Access → Device → Checked Device
  | [], device => .ok device
  | access :: rest, device => do
    let next ← device.perform access
    run rest next

/-- A chip with its array, with the collected page as an address. -/
def ofDevice (device : Flash.Device) : Device where
  chip := .ofChip device.chip
  array := device.array.bytes

theorem perform_ofDevice {access : Access} {device : Flash.Device}
    (enabled : ∀ write ∈ Flash.Device.written access device, write.master.writeEnabled = true) :
    perform access (ofDevice device) = .ok (ofDevice (device.perform access)) := by
  cases access with
  | write address byte =>
      have writable : device.chip.master.writeEnabled = true := by
        simpa [Flash.Device.written] using enabled
      rw [perform, ofDevice, Chip.accept_ofChip writable, ok_bind]
      rfl
  | enable byte =>
      rw [perform, ofDevice, Chip.storeEnable_ofChip]
      rfl
  | writeEnable byte => rfl

theorem run_ofDevice {accesses : List Access} {device : Flash.Device}
    (enabled : ∀ write ∈ Flash.Device.history accesses device,
      write.master.writeEnabled = true) :
    run accesses (ofDevice device) = .ok (ofDevice (Flash.Device.run accesses device)) := by
  induction accesses generalizing device with
  | nil => rfl
  | cons access rest ih =>
      rw [Flash.Device.history, List.forall_mem_append] at enabled
      rw [run, perform_ofDevice enabled.1, ok_bind]
      exact ih enabled.2

theorem base?_ofDevice (device : Flash.Device) :
    (ofDevice device).chip.buffer.base? =
      device.chip.buffer.page?.map fun page => .ofNat (Flash.Page.start page) := rfl

theorem base_ofDevice {device : Flash.Device} {base : UInt32}
    (latched : (ofDevice device).chip.buffer.base? = some base) :
    base.toNat % Flash.pageSize = 0 ∧ base.toNat < Flash.size := by
  rw [base?_ofDevice] at latched
  obtain ⟨page, -, rfl⟩ := Option.map_eq_some_iff.mp latched
  rw [toNat_ofNat (Chip.start_lt page)]
  exact ⟨Nat.mul_mod_left page.val Flash.pageSize, page.start_add_lt ⟨0, by decide⟩⟩

/-- As long as a fresh chip is only written to while writing is enabled, nothing traps on words and
blocks, and every state that is reached is well formed. -/
theorem wellFormed_run_initial (array : FlashArray) {accesses : List Access}
    (enabled : ∀ write ∈ Flash.Device.history accesses ⟨.initial, array⟩,
      write.master.writeEnabled = true) :
    let reached := Flash.Device.run accesses ⟨.initial, array⟩
    run accesses (ofDevice ⟨.initial, array⟩) = .ok (ofDevice reached) ∧
    reached.WellFormed ∧
    (∀ base, (ofDevice reached).chip.buffer.base? = some base →
      base.toNat % Flash.pageSize = 0 ∧ base.toNat < Flash.size) ∧
    (reached.chip.state = .committed → ∀ page, reached.chip.buffer.page? = some page →
      reached.write (page.address Flash.lastOffset) 0xF0 =
        ⟨{ reached.chip with state := .idle }, reached.array⟩) ∧
    (reached.chip.identified = true →
      ∀ later, (Flash.Device.run later reached).chip.identified = true) := by
  intro reached
  have wellFormed : reached.WellFormed := (Flash.Device.wellFormed_initial array).run accesses
  refine ⟨run_ofDevice enabled, wellFormed, fun base => base_ofDevice, ?_, fun identified =>
    Flash.Device.identified_run identified⟩
  intro waits page chosen
  obtain ⟨other, committed⟩ := wellFormed.committed waits
  obtain rfl : page = other := Option.some.inj (chosen.symm.trans committed.chosen)
  exact committed.write_acknowledge waits

/-- The last page of the array is committed by an identified chip. The acknowledgement is still
possible after a store into the enable bit. -/
theorem wellFormed_run_initial_of_lastPage :
    let page : Flash.Page := 0x1FFF
    let accesses : List Access :=
      [.writeEnable 0x01] ++ Access.command 0x90 ++ [.enable 0x03, .enable 0x02] ++
        Access.command 0xA0 ++
        [.write (page.address 3) 0x0F, .write (Flash.Page.address 0 3) 0x00,
          .write (page.address Flash.lastOffset) 0x12, .write (page.address Flash.lastOffset) 0x00,
          .enable 0x01]
    let array : FlashArray := Memory.replicate Flash.size 0xF7
    let reached := Flash.Device.run accesses ⟨.initial, array⟩
    (∀ write ∈ Flash.Device.history accesses ⟨.initial, array⟩,
      write.master.writeEnabled = true) ∧
    reached.chip.state = .committed ∧ reached.chip.buffer.page? = some page ∧
    run accesses (ofDevice ⟨.initial, array⟩) = .ok (ofDevice reached) ∧
    (ofDevice reached).chip.buffer.base? = some 0xFFF80 ∧ reached.Committed page ∧
    (reached.write (page.address Flash.lastOffset) 0xF0).chip.state = .idle ∧
    reached.chip.master.enabled = true ∧ reached.chip.identified = true := by
  intro page accesses array
  have enabled : ∀ write ∈ Flash.Device.history accesses ⟨.initial, array⟩,
      write.master.writeEnabled = true := by
    have all : (Flash.Device.history accesses ⟨.initial, array⟩).all
        (·.master.writeEnabled) = true := by decide +kernel
    exact List.all_eq_true.mp all
  have waits : (Flash.Device.run accesses ⟨.initial, array⟩).chip.state = .committed := by
    decide +kernel
  have chosen : (Flash.Device.run accesses ⟨.initial, array⟩).chip.buffer.page? = some page := by
    decide +kernel
  have bit : (Flash.Device.run accesses ⟨.initial, array⟩).chip.master.enabled = true := by
    decide +kernel
  have facts := wellFormed_run_initial array enabled
  -- From here on, what the run comes to is no longer computed.
  generalize Flash.Device.run accesses ⟨.initial, array⟩ = reached at waits chosen bit facts ⊢
  obtain ⟨ran, wellFormed, -, acknowledged, -⟩ := facts
  obtain ⟨other, committed⟩ := wellFormed.committed waits
  obtain rfl : page = other := Option.some.inj (chosen.symm.trans committed.chosen)
  have base : (ofDevice reached).chip.buffer.base? = some 0xFFF80 := by
    rw [base?_ofDevice, chosen]
    decide +kernel
  have idle := congrArg (·.chip.state) (acknowledged waits page chosen)
  exact ⟨enabled, waits, chosen, ran, base, committed, idle, bit, wellFormed.identified bit⟩

end Device

end Checked
end FlashCartridge
