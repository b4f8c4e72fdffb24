import FlashCartridge.Proofs.Flash.PageProgram
import FlashCartridge.Proofs.Mbc6.Driver
import FlashCartridge.Proofs.Mbc6.FlashAccess

/-!
# Bringing the flash chip back to plain reads

Whatever a console has left unfinished, a reset returns the flash chip to idle without touching the
memories. An armed erasure swallows the first reset and keeps the erase flags, so two resets are
needed to be sure. Behind them every window that shows the chip shows its stored bytes, until the
next byte reaches the chip.
-/

namespace FlashCartridge

namespace Flash

/-- The chip is in the state in which reads show the stored bytes. -/
structure Chip.ReadsArray (chip : Chip) : Prop where
  /-- No command is in progress. -/
  idle : chip.state = .idle
  /-- No erasure waits for its acknowledgement. -/
  acknowledged : chip.erase = {}

theorem Chip.ReadsArray.load {chip : Chip} (reads : chip.ReadsArray) (array : FlashArray)
    (place : Address) : chip.load array place = array.get place := by
  simp [Chip.load, EraseFlags.any, reads.idle, reads.acknowledged]

namespace Device

/-- As long as no byte reaches the chip, reads show the same stored bytes. -/
theorem readsArray_run {device : Device} (reads : device.chip.ReadsArray) {accesses : List Access}
    (quiet : Access.writes accesses = []) :
    (run accesses device).chip.ReadsArray ∧
      (run accesses device).array = device.array := by
  induction accesses generalizing device with
  | nil => exact ⟨reads, rfl⟩
  | cons access rest ih =>
      cases access with
      | write address byte => contradiction
      | enable byte =>
          have kept : (device.chip.storeEnable byte).ReadsArray :=
            ⟨(Chip.state_storeEnable _ _).trans reads.idle,
              (Chip.erase_storeEnable _ _).trans reads.acknowledged⟩
          exact @ih (device.perform (.enable byte)) kept quiet
      | writeEnable byte =>
          exact @ih (device.perform (.writeEnable byte)) ⟨reads.idle, reads.acknowledged⟩ quiet

end Device

end Flash

namespace Mbc6

open Flash

variable {σ : Type} [SaveStore σ]

omit [SaveStore σ] in
theorem flashPlace?_eq_some {controller : Mbc6 σ} {window : Window} {bank : Fin 128}
    (shown : controller.registers.mapping.get window = ⟨bank, true⟩) {offset : Nat}
    (inside : offset < 0x2000) {address : UInt16}
    (found : address.toNat = (StoreTarget.window window).bounds.1 + offset) {place : Address}
    (at_place : place.val = bank.val * 0x2000 + offset) :
    controller.flashPlace? address = some place := by
  have inWindow : romWindow? address = some window := by
    rw [← ofAddress?_eq_window_iff, StoreTarget.ofAddress?_eq_some_iff, found]
    cases window <;> simp only [StoreTarget.bounds] <;> omega
  rw [flashPlace?, inWindow, Option.bind_some]
  dsimp only
  rw [shown, if_pos rfl, Option.some.injEq, Fin.ext_iff, at_place, val_bankPlace, found]
  cases window <;> simp only [StoreTarget.bounds] <;> omega

theorem load_run_of_readsArray {controller : Mbc6 σ} (reads : controller.chip.ReadsArray)
    {later : List Bus.Operation} (quiet : Access.writes (flashAccesses later controller) = [])
    {address : UInt16} {place : Address}
    (shown : (Bus.run later controller).state.flashPlace? address = some place) :
    (Bus.load address (Bus.run later controller).state).value =
      .ok (controller.memory.flash.get place) := by
  obtain ⟨readsAfter, array⟩ := @Device.readsArray_run controller.device reads _ quiet
  rw [← device_run later controller] at readsAfter array
  have flash : (Bus.run later controller).state.memory.flash = controller.memory.flash := array
  rw [load_flashPlace shown, flash]
  exact congrArg Except.ok (readsAfter.load _ place)

namespace Driver

/-- Show bank 2 and bank 1 of the chip, and lift the write protection. -/
def showFlash : List Bus.Operation :=
  [.store 0x2000 2, .store 0x2800 1, .store 0x3000 1, .store 0x3800 1, .store 0x1000 1]

theorem run_showFlash (controller : Mbc6 σ) :
    let shown := (Bus.run showFlash controller).state
    Ready ⟨2, 1⟩ shown ∧
      shown.chip = { controller.chip with master.writeEnabled := true } ∧
      shown.memory = controller.memory := by
  rw [showFlash, state_run_store rfl, state_run_store rfl, state_run_store rfl, state_run_store rfl,
    state_run_store rfl]
  refine ⟨⟨?_, rfl⟩, rfl, rfl⟩
  intro window
  cases window <;> rfl

/-- What a reset leaves of a cartridge. Behind the erase setup command it is swallowed by the armed
erasure, and the erase flags are kept. -/
structure ResetLeaves (before after : Mbc6 σ) : Prop where
  memory : after.memory = before.memory
  idle : after.chip.state = .idle
  cleared : before.chip.state ≠ .eraseArmed → after.chip.erase = {}
  kept : before.chip.state = .eraseArmed → after.chip.erase = before.chip.erase

theorem run_reset {controller : Mbc6 σ} (ready : Ready ⟨2, 1⟩ controller) :
    let after := (Bus.run (command 0xF0) controller).state
    Ready ⟨2, 1⟩ after ∧ ResetLeaves controller after := by
  intro after
  obtain ⟨readyAfter, device, ram, _⟩ := (routes_command 0xF0).run ready
  obtain ⟨erase, reset⟩ := Device.exists_run_reset controller.chip controller.memory.flash
  have chip : after.chip = { controller.chip with state := .idle, erase } :=
    congrArg Device.chip (device.trans reset)
  have flash : after.memory.flash = controller.memory.flash :=
    congrArg Device.array (device.trans reset)
  refine ⟨readyAfter, SaveImage.ext ram flash, congrArg Chip.state chip, ?cleared, ?kept⟩
  case cleared =>
    intro unarmed
    exact congrArg (·.chip.erase) (device.trans (Device.run_reset unarmed))
  case kept =>
    intro armed
    exact congrArg (·.chip.erase) (device.trans (Device.run_reset_of_eraseArmed armed))

/-- From every state, a console that resets the chip reads back the stored bytes, unless an armed
erasure has swallowed the reset; a second one helps in any case. -/
theorem load_run_reset (controller : Mbc6 σ) :
    let shown := (Bus.run showFlash controller).state
    let once := (Bus.run (command 0xF0) shown).state
    let twice := (Bus.run (command 0xF0) once).state
    (once.memory = controller.memory ∧ once.chip.state = .idle ∧
      (shown.chip.state ≠ .eraseArmed → once.chip.erase = {}) ∧
      (shown.chip.state = .eraseArmed → once.chip.erase = shown.chip.erase)) ∧
    (twice.memory = controller.memory ∧ twice.chip.state = .idle ∧ twice.chip.erase = {}) ∧
    ∀ later, Access.writes (flashAccesses later twice) = [] →
      let after := (Bus.run later twice).state
      ∀ window (bank : Fin 128) (offset : Nat) (address : UInt16) (place : Address),
        after.registers.mapping.get window = ⟨bank, true⟩ → offset < 0x2000 →
          address.toNat = (StoreTarget.window window).bounds.1 + offset →
          place.val = bank.val * 0x2000 + offset →
            (Bus.load address after).value = .ok (controller.memory.flash.get place) := by
  intro shown once twice
  obtain ⟨ready, _, memoryShown⟩ := run_showFlash controller
  obtain ⟨readyOnce, resets⟩ := run_reset ready
  have first : ResetLeaves shown once := resets
  have second : ResetLeaves once twice := (run_reset readyOnce).2
  have memoryOnce : once.memory = controller.memory := first.memory.trans memoryShown
  have memoryTwice : twice.memory = controller.memory := second.memory.trans memoryOnce
  have acknowledged : twice.chip.erase = {} := by
    apply second.cleared
    rw [first.idle]
    decide
  refine ⟨⟨memoryOnce, first.idle, first.cleared, first.kept⟩,
    ⟨memoryTwice, second.idle, acknowledged⟩, ?_⟩
  intro later quiet after window bank offset address place mapping inside found at_place
  rw [load_run_of_readsArray ⟨second.idle, acknowledged⟩ quiet
    (flashPlace?_eq_some mapping inside found at_place), memoryTwice]

/-- An armed erasure swallows the first reset, so that the flag of an earlier erasure is kept until
the second one. -/
theorem load_run_reset_of_eraseArmed :
    let before := showFlash ++ command 0x80 ++ command 0x10 ++ command 0x80
    ∃ start : Mbc6 FailingStore,
      (powerOn smallestRom (some (⟨none, 1⟩ : FailingStore))).1 = .ok start ∧
      let controller := (Bus.run before start).state
      let shown := (Bus.run showFlash controller).state
      let once := (Bus.run (command 0xF0) shown).state
      let twice := (Bus.run (command 0xF0) once).state
      (shown.chip.state = .eraseArmed ∧ once.chip.erase = ⟨true, false⟩) ∧
      twice.chip.erase = {} ∧
      (Bus.load 0x7FFF (Bus.run [.store 0x3000 0x7F] twice).state).value =
        .ok (controller.memory.flash.get ⟨0xFFFFF, by decide⟩) := by
  intro before
  have yields : Yields (some (⟨none, 1⟩ : FailingStore)) none := rfl
  refine ⟨_, powerOn_eq_ok legal_smallestRom yields, ?_⟩
  intro controller
  obtain ⟨⟨_, _, _, kept⟩, ⟨_, _, cleared⟩, loads⟩ := load_run_reset controller
  have armed : (Bus.run showFlash controller).state.chip.state = .eraseArmed := rfl
  have flags : (Bus.run showFlash controller).state.chip.erase = ⟨true, false⟩ := rfl
  refine ⟨⟨armed, (kept armed).trans flags⟩, cleared, ?_⟩
  -- The store shows the last bank in the second window, and is no write to the chip.
  have shows : Routes ⟨2, 1⟩ [.store 0x3000 0x7F] [] ⟨2, 0x7F⟩ := .bank rfl (.nil _)
  obtain ⟨ready, _⟩ := run_showFlash controller
  obtain ⟨readyLater, _⟩ := shows.run (run_reset (run_reset ready).1).1
  refine loads _ ?quiet .b 0x7F 0x1FFF 0x7FFF ⟨0xFFFFF, by decide⟩ (readyLater.mapping .b)
    (by decide) rfl rfl
  simp [flashAccesses, flashAccess?, flashPlace?, romWindow?, Access.writes]

end Driver

end Mbc6
end FlashCartridge
