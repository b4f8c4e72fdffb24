import FlashCartridge.Proofs.Flash.PageProgram

/-!
# What the erase chains do

An erasure takes six writes: the erase setup command, both unlock writes again, and a write that
chooses between the whole array and one sector. From every state of the chip but one, these six
writes erase exactly what was chosen. Behind an erase setup command the first two of them continue
that command, the third one abandons it, and the last three only return the chip to idle.
-/

namespace FlashCartridge
namespace Flash

/-- The writes of an erasure before the last one: the erase setup command, and both unlock writes
again. -/
def Access.eraseSetup : List Access := command 0x80 ++ unlock

/-- The erasure of the whole array, behind the erase setup command. -/
def Access.eraseChip : List Access := unlock ++ [.write unlockAddress1 0x10]

/-- Only an erasure and the commit of a page modify the array, and each of them has its byte. -/
theorem Chip.modifies_action_eq_false {byte : UInt8} (noCommit : byte ≠ 0x00)
    (notWhole : byte ≠ 0x10) (notOne : byte ≠ 0x30) (chip : Chip) (address : Address) :
    (chip.action address byte).modifies = false := by
  have means := chip.action_means address byte
  generalize chip.action address byte = action at means
  cases means with
  | eraseChip _ _ command => exact absurd command notWhole
  | eraseSector _ _ command => exact absurd command notOne
  | commit _ _ _ _ zero => exact absurd zero noCommit
  | _ => rfl

namespace Device

open Access

variable {chip : Chip} {array : FlashArray}

/-- What the writes of a run return, in order: whether each has modified the array. -/
def returned (accesses : List Access) (device : Device) : List Bool :=
  (answers accesses device).map (·.1)

/-! ## Before the last write -/

theorem run_eraseSetup (unarmed : chip.state ≠ .eraseArmed)
    (allowed : chip.master.allowArming = true) :
    run eraseSetup ⟨chip, array⟩ =
      ⟨{ chip with state := .eraseUnlocked, buffer := .empty }, array⟩ := by
  rw [eraseSetup, run_append, run_armErase unarmed allowed, run_unlock_of_eraseArmed rfl]

/-- Behind the erase setup command, a second one is taken for an erasure that does not exist. The
unlock writes after it only lead on to an ordinary command. -/
theorem run_eraseSetup_of_eraseArmed (armed : chip.state = .eraseArmed) :
    run eraseSetup ⟨chip, array⟩ = ⟨{ chip with state := .unlocked }, array⟩ := by
  have abandoned : run (command 0x80) ⟨chip, array⟩ = ⟨{ chip with state := .idle }, array⟩ := by
    rw [command, run_append, run_unlock_of_eraseArmed armed]
    rfl
  have idle : CommandState.idle ≠ .eraseArmed := by decide
  rw [eraseSetup, run_append, abandoned, run_unlock idle]

/-- None of the writes before the last one modifies the array, in no state of the chip. -/
theorem returned_eraseSetup_append (device : Device) (place : Address) (byte : UInt8) :
    returned (eraseSetup ++ [.write place byte]) device =
      [false, false, false, false, false,
        (run eraseSetup device).modifies (.write place byte)] := by
  have harmless (byte : UInt8) (noErasure : byte = 0xAA ∨ byte = 0x55 ∨ byte = 0x80)
      (device : Device) (address : Address) : device.modifies (.write address byte) = false := by
    apply Chip.modifies_action_eq_false <;> rintro rfl <;> contradiction
  simp only [returned, eraseSetup, command, unlock, answers_append, run_append, List.map_append]
  simp [answers, answer?, Access.write?, harmless]

/-! ## The last write -/

theorem run_eraseSetup_append {reached : Chip} {place : Address} {byte : UInt8} {action : Action}
    (reaches : run eraseSetup ⟨chip, array⟩ = ⟨reached, array⟩)
    (decided : reached.action place byte = action) :
    let accesses := eraseSetup ++ [.write place byte]
    (run accesses ⟨chip, array⟩).chip = reached.perform action ∧
      (run accesses ⟨chip, array⟩).array = action.apply array ∧
      returned accesses ⟨chip, array⟩ =
        [false, false, false, false, false, action.modifies] := by
  have ran : run (eraseSetup ++ [.write place byte]) ⟨chip, array⟩ =
      ⟨reached.perform action, action.apply array⟩ := by
    rw [run_append, reaches, run, perform_write decided]
    rfl
  refine ⟨congrArg Device.chip ran, congrArg Device.array ran, ?_⟩
  rw [returned_eraseSetup_append, reaches, modifies, decided]

theorem get_eraseSector_of_start {start : Address} (aligned : start.isSectorStart = true)
    (array : FlashArray) (address : Address) :
    (Action.apply (.eraseSector start.sector) array).get address =
      if start.val ≤ address.val ∧ address.val < start.val + sectorSize then 0xFF
      else array.get address := by
  rw [Action.apply, Memory.get_fillRange, ← Address.eq_start_sector aligned]

/-- The six writes of an erasure erase exactly what they name, and only the last one returns that.
Behind an erase setup command, the same writes change nothing. -/
theorem run_erasure {chip : Chip} (writable : chip.master.writeEnabled = true)
    (disabled : chip.master.enabled = false) (array : FlashArray) {start : Address}
    (aligned : start.isSectorStart = true) :
    let before : Device := ⟨chip, array⟩
    let eraseAll := command 0x80 ++ eraseChip
    let eraseOne := command 0x80 ++ eraseSector start
    (chip.state ≠ .eraseArmed →
      ((∀ address, (run eraseAll before).array.get address = 0xFF) ∧
        (run eraseAll before).chip.erase = ⟨true, chip.erase.sector⟩ ∧
        (run eraseAll before).chip.state = .idle ∧
        returned eraseAll before = [false, false, false, false, false, true]) ∧
      ((∀ address, (run eraseOne before).array.get address =
          if start.val ≤ address.val ∧ address.val < start.val + sectorSize then 0xFF
          else array.get address) ∧
        (run eraseOne before).chip.erase = ⟨chip.erase.chip, true⟩ ∧
        (run eraseOne before).chip.state = .idle ∧
        returned eraseOne before = [false, false, false, false, false, true])) ∧
    (chip.state = .eraseArmed →
      ∀ accesses, accesses = eraseAll ∨ accesses = eraseOne →
        (run accesses before).array = array ∧ (run accesses before).chip.erase = chip.erase ∧
        (run accesses before).chip.state = .idle ∧
        returned accesses before = [false, false, false, false, false, false]) := by
  intro before eraseAll eraseOne
  have allowed : chip.master.allowArming = true := by
    rw [MasterBits.allowArming, writable, disabled]
    rfl
  refine ⟨?erased, ?abandoned⟩
  case erased =>
    intro unarmed
    have setup := @run_eraseSetup chip array unarmed allowed
    let reached : Chip := { chip with state := .eraseUnlocked, buffer := .empty }
    have erasesWhole : reached.action unlockAddress1 0x10 = .eraseChip :=
      Chip.action_eq_eraseChip_iff.mpr ⟨rfl, rfl, rfl⟩
    have erasesOne : reached.action start 0x30 = .eraseSector start.sector :=
      Chip.action_eraseSector rfl aligned
    obtain ⟨chipWhole, arrayWhole, returnedWhole⟩ := run_eraseSetup_append setup erasesWhole
    obtain ⟨chipOne, arrayOne, returnedOne⟩ := run_eraseSetup_append setup erasesOne
    refine ⟨⟨?_, congrArg Chip.erase chipWhole, congrArg Chip.state chipWhole, returnedWhole⟩,
      ?_, congrArg Chip.erase chipOne, congrArg Chip.state chipOne, returnedOne⟩
    · intro address
      exact (congrArg (Memory.get · address) arrayWhole).trans
        (Action.get_apply_eraseChip array address)
    · intro address
      exact (congrArg (Memory.get · address) arrayOne).trans
        (get_eraseSector_of_start aligned array address)
  case abandoned =>
    intro armed
    have setup := @run_eraseSetup_of_eraseArmed chip array armed
    let reached : Chip := { chip with state := .unlocked }
    have unknown : reached.action unlockAddress1 0x10 = .unknownCommand := rfl
    have relaxes : reached.action start 0x30 = .relax := by
      rw [Chip.action_of_not_unlock (not_isUnlock_of_byte (by decide) (by decide) _)]
      simp [reached, aligned, Chip.ne_unlockAddress1 aligned]
    rintro accesses (rfl | rfl)
    · obtain ⟨chipAfter, arrayAfter, returns⟩ := run_eraseSetup_append setup unknown
      have kept : (reached.perform .unknownCommand).erase = chip.erase := rfl
      exact ⟨arrayAfter, (congrArg Chip.erase chipAfter).trans kept,
        congrArg Chip.state chipAfter, returns⟩
    · obtain ⟨chipAfter, arrayAfter, returns⟩ := run_eraseSetup_append setup relaxes
      have kept : (reached.perform .relax).erase = chip.erase := rfl
      exact ⟨arrayAfter, (congrArg Chip.erase chipAfter).trans kept,
        congrArg Chip.state chipAfter, returns⟩

/-- The last sector is erased while a commit and the erasure of the array wait for their
acknowledgement. -/
theorem run_erasure_of_lastSector :
    let chip : Chip :=
      { state := .committed, master := ⟨false, true⟩, identified := true, erase := ⟨true, false⟩,
        buffer := ⟨Memory.replicate pageSize 0x00, some 5, true⟩ }
    let array : FlashArray := Memory.replicate size 0x12
    let start : Address := ⟨0xFE000, by decide⟩
    let eraseOne := command 0x80 ++ eraseSector start
    let one := run eraseOne ⟨chip, array⟩
    let none := run eraseOne ⟨{ chip with state := .eraseArmed }, array⟩
    (chip.master.writeEnabled = true ∧ chip.master.enabled = false ∧
      start.isSectorStart = true ∧ chip.state ≠ .eraseArmed) ∧
    (one.array.get ⟨0xFDFFF, by decide⟩ = 0x12 ∧ one.array.get start = 0xFF ∧
      one.array.get ⟨0xFFFFF, by decide⟩ = 0xFF) ∧
    one.chip.erase = ⟨true, true⟩ ∧
    returned eraseOne ⟨chip, array⟩ = [false, false, false, false, false, true] ∧
    none.array = array ∧ none.chip.erase = ⟨true, false⟩ ∧ none.chip.state = .idle := by
  intro chip array start eraseOne one none
  have aligned : start.isSectorStart = true := by decide
  have unarmed : chip.state ≠ .eraseArmed := by decide
  obtain ⟨erased, _⟩ := @run_erasure chip rfl rfl array start aligned
  obtain ⟨_, bytes, flags, _, returns⟩ := erased unarmed
  obtain ⟨_, abandoned⟩ :=
    @run_erasure { chip with state := .eraseArmed } rfl rfl array start aligned
  obtain ⟨arrayKept, flagsKept, idle, _⟩ := abandoned rfl _ (.inr rfl)
  refine ⟨⟨rfl, rfl, aligned, unarmed⟩, ⟨?_, ?_, ?_⟩, flags, returns, arrayKept, flagsKept, idle⟩
  · rw [bytes, Memory.get_replicate]
    decide
  · rw [bytes, Memory.get_replicate]
    decide
  · rw [bytes, Memory.get_replicate]
    decide

end Device
end Flash
end FlashCartridge
