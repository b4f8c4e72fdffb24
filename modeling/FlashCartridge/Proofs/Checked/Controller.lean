import FlashCartridge.Proofs.Checked.Banks
import FlashCartridge.Proofs.Checked.Chip
import FlashCartridge.Proofs.Mbc6.Saving

/-!
# The bank controller on words and blocks

The controller with everything made explicit that could go wrong: it traps where it is asked for an
address outside of its areas, where a branch is entered that has to be unreachable, where an
assertion of the chip fails, where an index or a slice leaves its block, and where the computation
of an address leaves the range of words. For addresses of its areas it does what `Mbc6` does.
-/

namespace FlashCartridge
namespace Checked

open Mbc6 (LoadTarget StoreTarget Window)

/-- The controller, whose RAM and flash are one block. -/
structure Controller (σ : Type) where
  /-- The bytes of the cartridge ROM. -/
  rom : ByteArray
  /-- RAM and flash. -/
  region : ByteArray
  /-- The bank registers. -/
  registers : Registers
  /-- The flash chip. -/
  chip : Chip
  /-- The save store, if the cartridge has a battery. -/
  battery : Option σ
  /-- Whether the region has changed since the last successful save. -/
  dirty : Bool

namespace Controller

variable {σ : Type}

/-- Read through a window of the ROM area. A bank behind the end of the ROM is no error. -/
def loadWindow (controller : Controller σ) (window : Window) (address : UInt16) :
    Checked UInt8 := do
  let register := controller.registers.romBank.get window
  let offset ← windowOffset register address
  if showsFlash register then
    let array ← flash controller.region
    controller.chip.load array offset
  else
    .ok ((read controller.rom offset).toOption.getD 0xFF)

/-- Read a byte of the ROM area. -/
def loadRom (controller : Controller σ) (address : UInt16) : Checked UInt8 := do
  require (address.toNat < 0x8000) .outsideArea
  match LoadTarget.ofAddress? address with
  | some .fixed => read controller.rom (.ofNat address.toNat)
  | some (.window window) => controller.loadWindow window address
  | none => .error .unreachable

/-- Read a byte of the RAM area. -/
def loadRam (controller : Controller σ) (address : UInt16) : Checked UInt8 := do
  require (address.toNat < 0x2000) .outsideArea
  if controller.registers.ramEnabled then
    let bytes ← ram controller.region
    let offset ← ramOffset controller.registers address
    read bytes offset
  else
    .ok 0xFF

/-- Write a byte of the RAM area. -/
def storeRam (controller : Controller σ) (address : UInt16) (byte : UInt8) :
    Checked (Controller σ) := do
  require (address.toNat < 0x2000) .outsideArea
  if controller.registers.ramEnabled then
    let offset ← ramOffset controller.registers address
    let bytes ← ram controller.region
    let present ← read bytes offset
    if present = byte then
      .ok controller
    else
      let changed ← write bytes offset byte
      .ok { controller with region := withRam controller.region changed, dirty := true }
  else
    .ok controller

/-- Write through a window of the ROM area. -/
def storeWindow (controller : Controller σ) (window : Window) (address : UInt16) (byte : UInt8) :
    Checked (Controller σ) := do
  let register := controller.registers.romBank.get window
  if !showsFlash register then
    .ok controller
  else if !controller.chip.master.writeEnabled then
    .ok controller
  else
    let offset ← windowOffset register address
    let array ← flash controller.region
    let accepted ← controller.chip.accept array offset byte
    .ok
      { controller with
        chip := accepted.chip
        region := withFlash controller.region accepted.array
        dirty := controller.dirty || accepted.modified }

variable [SaveStore σ]

/-- Save the region if it has changed and there is a battery. Save stores keep regions of one length
only. -/
def flush (controller : Controller σ) : Checked (Controller σ × Except SaveError Unit) :=
  if controller.dirty then
    match controller.battery with
    | none => .ok (controller, .ok ())
    | some store =>
      match SaveImage.ofBytes? controller.region with
      | none => .error .regionLength
      | some image =>
        let reply := SaveStore.save image store
        match reply.result with
        | .ok () => .ok ({ controller with battery := some reply.store, dirty := false }, .ok ())
        | .error cause =>
          .ok ({ controller with battery := some reply.store }, .error (.write cause))
  else
    .ok (controller, .ok ())

/-- Enable or disable the RAM, with a save when it gets disabled. -/
def storeRamEnable (controller : Controller σ) (byte : UInt8) : Checked (Controller σ) := do
  let enable := byte == 0x0A
  let flushed ←
    if controller.registers.ramEnabled && !enable then
      Except.map Prod.fst controller.flush
    else
      .ok controller
  .ok { flushed with registers := { flushed.registers with ramEnabled := enable } }

/-- Write a byte of the ROM area. -/
def storeRom (controller : Controller σ) (address : UInt16) (byte : UInt8) :
    Checked (Controller σ) := do
  require (address.toNat < 0x8000) .outsideArea
  match StoreTarget.ofAddress? address with
  | some .ramEnable => controller.storeRamEnable byte
  | some (.ramBank window) =>
    .ok { controller with registers := controller.registers.setRamBank window byte }
  | some .flashEnable => .ok { controller with chip := controller.chip.storeEnable byte }
  | some .flashWriteEnable => .ok { controller with chip := controller.chip.storeWriteEnable byte }
  | some .nothing => .ok controller
  | some (.bank window) =>
    .ok { controller with
      registers := controller.registers.modifyRomBank window (setBank · byte) }
  | some (.memory window) =>
    .ok { controller with
      registers := controller.registers.modifyRomBank window (setFlash · byte) }
  | some (.window window) => controller.storeWindow window address byte
  | none => .error .unreachable

/-! ## Agreement with the controller -/

/-- The controller on words and blocks. -/
def ofController (controller : Mbc6 σ) : Controller σ where
  rom := controller.rom.bytes
  region := controller.memory.toBytes
  registers := ofRegisters controller.registers
  chip := .ofChip controller.chip
  battery := controller.battery
  dirty := controller.dirty

section Components

variable (controller : Mbc6 σ)

omit [SaveStore σ]

@[simp]
theorem ramEnabled_ofController :
    (ofController controller).registers.ramEnabled = controller.registers.ramEnabled := rfl

theorem register_ofController (window : Window) :
    (ofController controller).registers.romBank.get window =
      ofMapping (controller.registers.mapping.get window) :=
  romBank_ofRegisters controller.registers window

theorem ram_ofController :
    ram (ofController controller).region = .ok controller.memory.ram.bytes :=
  ram_toBytes controller.memory

theorem flash_ofController :
    flash (ofController controller).region = .ok controller.memory.flash.bytes :=
  flash_toBytes controller.memory

theorem ramOffset_ofController (address : UInt16) :
    ramOffset (ofController controller).registers address =
      .ok (.ofNat (controller.registers.ramOffset address).val) :=
  ramOffset_ofRegisters controller.registers address

end Components

theorem read_rom (rom : Rom) {offset : Nat} (inside : offset < rom.bytes.size)
    (small : offset < UInt32.size) : read rom.bytes (.ofNat offset) = .ok (rom.read offset) := by
  have word := toNat_ofNat small
  have insideWord : (UInt32.ofNat offset).toNat < rom.bytes.size := by rwa [word]
  rw [read, dif_pos insideWord, Rom.read, dif_pos inside]
  generalize (UInt32.ofNat offset).toNat = index at word insideWord
  subst word
  rfl

theorem getD_read_rom (rom : Rom) {offset : Nat} (small : offset < UInt32.size) :
    (read rom.bytes (.ofNat offset)).toOption.getD 0xFF = rom.read offset := by
  by_cases inside : offset < rom.bytes.size
  · rw [read_rom rom inside small]
    rfl
  · rw [read, dif_neg (by rwa [toNat_ofNat small]), Rom.read, dif_neg inside]
    rfl

omit [SaveStore σ] in
theorem loadWindow_ofController (controller : Mbc6 σ) (window : Window) (address : UInt16) :
    (ofController controller).loadWindow window address =
      .ok (controller.loadWindow window address) := by
  rw [loadWindow, register_ofController, windowOffset_ofMapping, ok_bind, showsFlash_ofMapping,
    flash_ofController, ok_bind, Mbc6.loadWindow]
  cases shown : (controller.registers.mapping.get window).flash with
  | true => exact Chip.load_ofChip controller.chip controller.memory.flash _
  | false =>
      have small : ((controller.registers.mapping.get window).offset address).val < UInt32.size :=
        Nat.lt_trans (Fin.isLt _) (by decide)
      exact congrArg Except.ok (getD_read_rom controller.rom small)

theorem ofAddress?_ne_none {address : UInt16} (inside : address.toNat < 0x8000) :
    LoadTarget.ofAddress? address ≠ none ∧ StoreTarget.ofAddress? address ≠ none := by
  have pass {τ : Type} {condition : Prop} [Decidable condition] {target : τ} {rest : Option τ}
      (later : rest ≠ none) : (if condition then some target else rest) ≠ none := by
    split
    · simp
    · exact later
  have last {τ : Type} (target : τ) : (if address < 0x8000 then some target else none) ≠ none := by
    rw [if_pos (UInt16.lt_iff_toNat_lt.mpr inside)]
    simp
  constructor
  · rw [LoadTarget.ofAddress?]
    iterate 2 refine pass ?_
    exact last _
  · rw [StoreTarget.ofAddress?]
    iterate 11 refine pass ?_
    exact last _

theorem toNat_lt_of_fixed {address : UInt16} (found : LoadTarget.ofAddress? address = some .fixed) :
    address.toNat < 0x4000 := by
  by_cases lower : address < 0x4000
  · exact UInt16.lt_iff_toNat_lt.mp lower
  · rw [LoadTarget.ofAddress?, if_neg lower] at found
    split at found
    · simp at found
    · split at found <;> simp at found

omit [SaveStore σ] in
theorem loadRom_ofController (controller : Mbc6 σ) {address : UInt16}
    (inside : address.toNat < 0x8000) :
    ∃ byte, (ofController controller).loadRom address = .ok byte ∧
      controller.loadRom address = .ok byte := by
  rw [loadRom, require_eq_ok inside, ok_bind, Mbc6.loadRom]
  cases found : LoadTarget.ofAddress? address with
  | none => exact absurd found (ofAddress?_ne_none inside).1
  | some target =>
      cases target with
      | fixed =>
          have backed : address.toNat < controller.rom.bytes.size :=
            Nat.lt_of_lt_of_le (toNat_lt_of_fixed found) controller.rom.size_ge
          have small : address.toNat < UInt32.size := Nat.lt_trans inside (by decide)
          exact ⟨_, read_rom controller.rom backed small, rfl⟩
      | window window => exact ⟨_, loadWindow_ofController controller window address, rfl⟩

omit [SaveStore σ] in
theorem loadRam_ofController (controller : Mbc6 σ) {address : UInt16}
    (inside : address.toNat < 0x2000) :
    (ofController controller).loadRam address = .ok (controller.loadRam address) := by
  rw [loadRam, require_eq_ok inside, ok_bind, ramEnabled_ofController, ram_ofController, ok_bind,
    ramOffset_ofController, ok_bind, read_ofNat controller.memory.ram (by decide), Mbc6.loadRam]
  split <;> rfl

omit [SaveStore σ] in
theorem storeRam_ofController (controller : Mbc6 σ) {address : UInt16}
    (inside : address.toNat < 0x2000) (byte : UInt8) :
    (ofController controller).storeRam address byte =
      .ok (ofController (controller.storeRam address byte)) := by
  rw [storeRam, require_eq_ok inside, ok_bind, ramEnabled_ofController, ramOffset_ofController,
    ok_bind, ram_ofController, ok_bind, read_ofNat controller.memory.ram (by decide), ok_bind,
    write_ofNat controller.memory.ram (by decide), ok_bind, Mbc6.storeRam]
  split
  · dsimp only
    split
    · rfl
    · have changed : withRam (ofController controller).region _ = _ :=
        withRam_toBytes controller.memory
          (controller.memory.ram.set (controller.registers.ramOffset address) byte)
      rw [changed]
      rfl
  · rfl

omit [SaveStore σ] in
theorem storeWindow_ofController (controller : Mbc6 σ) (window : Window) (address : UInt16)
    (byte : UInt8) :
    (ofController controller).storeWindow window address byte =
      .ok (ofController (controller.storeWindow window address byte).state) := by
  have writeEnabled : (ofController controller).chip.master.writeEnabled =
      controller.chip.master.writeEnabled := rfl
  rw [storeWindow, register_ofController, windowOffset_ofMapping, ok_bind, showsFlash_ofMapping,
    flash_ofController, ok_bind, writeEnabled, Mbc6.storeWindow]
  split
  · rfl
  · split
    · rfl
    · rename_i writable
      rw [Bool.not_eq_true, Bool.not_eq_false'] at writable
      have accepted : (ofController controller).chip.accept controller.memory.flash.bytes _ _ = _ :=
        Chip.accept_ofChip writable controller.memory.flash
          ((controller.registers.mapping.get window).offset address) byte
      rw [accepted, ok_bind, Mbc6.storeFlash]
      generalize controller.chip.action _ byte = action
      have changed : withFlash (ofController controller).region
          (Chip.outcome controller.chip controller.memory.flash action).array = _ :=
        withFlash_toBytes controller.memory (action.apply controller.memory.flash)
      rw [changed]
      rfl

theorem flush_ofController (controller : Mbc6 σ) :
    (ofController controller).flush =
      .ok (ofController controller.flush.state, controller.flush.value) := by
  have region : SaveImage.ofBytes? (ofController controller).region = some controller.memory :=
    SaveImage.ofBytes?_toBytes controller.memory
  have dirty : (ofController controller).dirty = controller.dirty := rfl
  have battery : (ofController controller).battery = controller.battery := rfl
  rw [flush, Mbc6.flush, region, dirty, battery]
  split
  · cases controller.battery with
    | none => rfl
    | some store =>
        dsimp only
        cases (SaveStore.save controller.memory store).result with
        | ok => rfl
        | error cause => rfl
  · rfl

theorem storeRamEnable_ofController (controller : Mbc6 σ) (byte : UInt8) :
    (ofController controller).storeRamEnable byte =
      .ok (ofController (controller.storeRamEnable byte).state) := by
  rw [storeRamEnable, Mbc6.storeRamEnable, ramEnabled_ofController, flush_ofController]
  dsimp only
  split
  · rw [Mbc6.state_flushQuietly]
    rfl
  · rfl

theorem storeRom_ofController (controller : Mbc6 σ) {address : UInt16}
    (inside : address.toNat < 0x8000) (byte : UInt8) :
    (ofController controller).storeRom address byte =
        .ok (ofController (controller.storeRom address byte).state) ∧
      (controller.storeRom address byte).value = .ok () := by
  rw [storeRom, require_eq_ok inside, ok_bind, Mbc6.storeRom]
  cases found : StoreTarget.ofAddress? address with
  | none => exact absurd found (ofAddress?_ne_none inside).2
  | some target =>
      refine ⟨?_, rfl⟩
      dsimp only
      cases target with
      | ramEnable => exact storeRamEnable_ofController controller byte
      | ramBank window =>
          have registers : (ofController controller).registers.setRamBank window byte = _ :=
            setRamBank_ofRegisters controller.registers window byte
          dsimp only
          rw [registers]
          rfl
      | flashEnable =>
          have chip : (ofController controller).chip.storeEnable byte = _ :=
            Chip.storeEnable_ofChip controller.chip byte
          dsimp only
          rw [chip]
          rfl
      | flashWriteEnable =>
          have chip : (ofController controller).chip.storeWriteEnable byte = _ :=
            Chip.storeWriteEnable_ofChip controller.chip byte
          dsimp only
          rw [chip]
          rfl
      | nothing => rfl
      | bank window =>
          have registers : (ofController controller).registers.modifyRomBank window
              (setBank · byte) = _ :=
            modifyRomBank_ofRegisters controller.registers window (setBank_ofMapping · byte)
          dsimp only
          rw [registers]
          rfl
      | memory window =>
          have registers : (ofController controller).registers.modifyRomBank window
              (setFlash · byte) = _ :=
            modifyRomBank_ofRegisters controller.registers window (setFlash_ofMapping · byte)
          dsimp only
          rw [registers]
          rfl
      | window window => exact storeWindow_ofController controller window address byte

end Controller

end Checked
end FlashCartridge
