import FlashCartridge.Proofs.Flash.Protocol

/-!
# The writes that execute a command

A command is executed by one write in one state of the chip, and an action tells the command. The
erase flags are set by erasures only, and only a reset or the acknowledgement of a sector clears
them; the software identification command is the only one that identifies the chip.
-/

namespace FlashCartridge
namespace Flash

namespace Chip

/-- Commands are not written to the start of a sector. -/
theorem ne_unlockAddress1 {address : Address} (start : address.isSectorStart = true) :
    address ≠ unlockAddress1 := by
  rintro rfl
  contradiction

/-! ## Commands by their writes -/

variable {chip : Chip} {address : Address} {byte : UInt8}

theorem action_eq_eraseChip_iff :
    chip.action address byte = .eraseChip ↔
      chip.state = .eraseUnlocked ∧ address = unlockAddress1 ∧ byte = 0x10 := by
  constructor
  · intro decided
    have means := chip.action_means address byte
    rw [decided] at means
    cases means with
    | eraseChip state place command => exact ⟨state, place, command⟩
  · rintro ⟨state, rfl, rfl⟩
    rw [action_of_not_unlock (not_isUnlock_of_byte (by decide) (by decide) _)]
    simp [state]

theorem action_eraseSector (state : chip.state = .eraseUnlocked)
    (aligned : address.isSectorStart = true) :
    chip.action address 0x30 = .eraseSector address.sector := by
  rw [action_of_not_unlock (not_isUnlock_of_byte (by decide) (by decide) _)]
  simp [state, aligned]

theorem exists_action_eq_eraseSector_iff :
    (∃ sector, chip.action address byte = .eraseSector sector) ↔
      chip.state = .eraseUnlocked ∧ address.isSectorStart = true ∧ byte = 0x30 := by
  constructor
  · rintro ⟨sector, decided⟩
    have means := chip.action_means address byte
    rw [decided] at means
    cases means with
    | eraseSector state start command => exact ⟨state, start, command⟩
  · rintro ⟨state, start, rfl⟩
    exact ⟨address.sector, action_eraseSector state start⟩

theorem exists_action_eq_reset_iff :
    (∃ reported, chip.action address byte = .reset reported) ↔
      chip.state = .unlocked ∧ address = unlockAddress1 ∧ byte = 0xF0 := by
  constructor
  · rintro ⟨reported, decided⟩
    have means := chip.action_means address byte
    rw [decided] at means
    cases means with
    | reset state place command => exact ⟨state, place, command⟩
  · rintro ⟨state, rfl, rfl⟩
    refine ⟨chip.identified || chip.erase.any, ?_⟩
    rw [action_of_not_unlock (not_isUnlock_of_byte (by decide) (by decide) _)]
    simp [state, commandAction]

theorem action_eq_acknowledgeSector_iff :
    chip.action address byte = .acknowledgeSector ↔
      chip.state = .unlocked ∧ address.isSectorStart = true ∧ byte = 0xF0 := by
  constructor
  · intro decided
    have means := chip.action_means address byte
    rw [decided] at means
    cases means with
    | acknowledgeSector state start acknowledged => exact ⟨state, start, acknowledged⟩
  · rintro ⟨state, start, rfl⟩
    rw [action_of_not_unlock (not_isUnlock_of_byte (by decide) (by decide) _)]
    simp [state, start, ne_unlockAddress1 start]

theorem action_eq_identify_iff :
    chip.action address byte = .identify ↔
      chip.state = .unlocked ∧ address = unlockAddress1 ∧ byte = 0x90 := by
  constructor
  · intro decided
    have means := chip.action_means address byte
    rw [decided] at means
    cases means with
    | identify state place command => exact ⟨state, place, command⟩
  · rintro ⟨state, rfl, rfl⟩
    rw [action_of_not_unlock (not_isUnlock_of_byte (by decide) (by decide) _)]
    simp [state, commandAction]

/-! ## What commands leave behind -/

section Control

variable (chip : Chip) (byte : UInt8)

theorem erase_storeEnable : (chip.storeEnable byte).erase = chip.erase := by
  rw [storeEnable]
  split <;> rfl

theorem identified_storeEnable : (chip.storeEnable byte).identified = chip.identified := by
  rw [storeEnable]
  split <;> rfl

end Control

section Perform

variable (chip : Chip) (action : Action)

theorem erase_chip_perform :
    (chip.perform action).erase.chip = true ↔
      action = .eraseChip ∨
        chip.erase.chip = true ∧ ¬ ∃ reported, action = .reset reported := by
  cases action <;> simp [perform]

theorem erase_sector_perform :
    (chip.perform action).erase.sector = true ↔
      (∃ sector, action = .eraseSector sector) ∨
        chip.erase.sector = true ∧
          ¬ ((∃ reported, action = .reset reported) ∨ action = .acknowledgeSector) := by
  cases action <;> simp [perform]

theorem identified_perform_iff :
    (chip.perform action).identified = true ↔ action = .identify ∨ chip.identified = true := by
  cases action <;> simp [perform]

end Perform

end Chip
end Flash
end FlashCartridge
