import FlashCartridge.Proofs.Bus.Moments
import FlashCartridge.Proofs.Flash.Command
import FlashCartridge.Proofs.Mbc6.FlashAccess

/-!
# Commands in a run

A moment of a run executes a command of the flash chip if it lets the right byte reach the chip at
the right place and in the right state. Erase flags and identification of the chip only change at
such moments.
-/

namespace FlashCartridge
namespace Mbc6

open Flash

variable {σ : Type}

/-! ## Moments of execution -/

section Moment

variable (moment : Bus.Moment (Mbc6 σ))

/-- A byte reaches the chip at a place, in a state of the chip. -/
def Reaches (state : CommandState) (address : Address) (byte : UInt8) : Prop :=
  moment.before.chip.state = state ∧
    moment.before.flashWrite? moment.operation = some (address, byte)

/-- A byte reaches the chip at the start of any sector, in a state of the chip. -/
def ReachesSector (state : CommandState) (byte : UInt8) : Prop :=
  ∃ start : Address, start.val % sectorSize = 0 ∧ Reaches moment state start byte

/-- The whole array is erased. -/
def ErasesChip : Prop := Reaches moment .eraseUnlocked unlockAddress1 0x10

/-- A sector is erased. -/
def ErasesSector : Prop := ReachesSector moment .eraseUnlocked 0x30

/-- The chip is reset. -/
def Resets : Prop := Reaches moment .unlocked unlockAddress1 0xF0

/-- The erasure of a sector is acknowledged. -/
def AcknowledgesSector : Prop := ReachesSector moment .unlocked 0xF0

/-- The software identification command is executed. -/
def Identifies : Prop := Reaches moment .unlocked unlockAddress1 0x90

end Moment

section Reached

variable {moment : Bus.Moment (Mbc6 σ)} {state : CommandState} {byte : UInt8}

theorem not_reaches (unreached : moment.before.flashWrite? moment.operation = none)
    (address : Address) : ¬ Reaches moment state address byte := by
  simp [Reaches, unreached]

theorem not_reachesSector (unreached : moment.before.flashWrite? moment.operation = none) :
    ¬ ReachesSector moment state byte := fun ⟨start, _, reaches⟩ =>
  not_reaches unreached start reaches

variable {write : Address × UInt8}
  (reached : moment.before.flashWrite? moment.operation = some write)
include reached

theorem reaches_iff {address : Address} :
    Reaches moment state address byte ↔
      moment.before.chip.state = state ∧ write.1 = address ∧ write.2 = byte := by
  simp [Reaches, reached, Prod.ext_iff]

theorem reachesSector_iff :
    ReachesSector moment state byte ↔
      moment.before.chip.state = state ∧ write.1.isSectorStart = true ∧ write.2 = byte := by
  simp only [ReachesSector, reaches_iff reached, Address.isSectorStart, beq_iff_eq]
  constructor
  · rintro ⟨_, aligned, state, rfl, byte⟩
    exact ⟨state, aligned, byte⟩
  · rintro ⟨state, aligned, byte⟩
    exact ⟨_, aligned, state, rfl, byte⟩

end Reached

/-! ## What changes at them -/

variable [SaveStore σ]

/-- What the control bits have no part in changes by the bytes that reach the chip only. -/
theorem view_chip_after {α : Type} (view : Chip → α)
    (enable : ∀ chip byte, view (chip.storeEnable byte) = view chip)
    (writeEnable : ∀ chip byte, view (chip.storeWriteEnable byte) = view chip)
    (moment : Bus.Moment (Mbc6 σ)) :
    view moment.after.chip =
      (moment.before.flashWrite? moment.operation).elim (view moment.before.chip)
        fun write => view (moment.before.chip.accept write.1 write.2) := by
  obtain ⟨controller, operation⟩ := moment
  have accessed := congrArg (fun device => view device.chip) (device_perform operation controller)
  refine accessed.trans ?_
  cases operation with
  | store address byte =>
      rw [flashAccess?_store, flashWrite?_store]
      cases StoreTarget.ofAddress? address with
      | none => rfl
      | some target =>
          cases target with
          | flashEnable => exact enable _ _
          | flashWriteEnable => exact writeEnable _ _
          | window window =>
              dsimp only
              split <;> rfl
          | _ => rfl
  | _ => rfl

/-- The chip counts as erased from the erasure of its array to the next reset. -/
theorem erase_chip_after (moment : Bus.Moment (Mbc6 σ)) :
    moment.after.chip.erase.chip = true ↔
      ErasesChip moment ∨ moment.before.chip.erase.chip = true ∧ ¬ Resets moment := by
  have after := view_chip_after (fun chip => chip.erase.chip)
    (fun chip byte => congrArg EraseFlags.chip (chip.erase_storeEnable byte))
    (fun _ _ => rfl) moment
  cases reached : moment.before.flashWrite? moment.operation with
  | none => simp [after, ErasesChip, Resets, not_reaches, reached]
  | some write =>
      rw [after, reached, Option.elim, Chip.accept, Chip.erase_chip_perform,
        Chip.action_eq_eraseChip_iff, Chip.exists_action_eq_reset_iff, ErasesChip, Resets,
        reaches_iff reached, reaches_iff reached]

theorem erase_sector_after (moment : Bus.Moment (Mbc6 σ)) :
    moment.after.chip.erase.sector = true ↔
      ErasesSector moment ∨
        moment.before.chip.erase.sector = true ∧
          ¬ (Resets moment ∨ AcknowledgesSector moment) := by
  have after := view_chip_after (fun chip => chip.erase.sector)
    (fun chip byte => congrArg EraseFlags.sector (chip.erase_storeEnable byte))
    (fun _ _ => rfl) moment
  cases reached : moment.before.flashWrite? moment.operation with
  | none =>
      simp [after, ErasesSector, Resets, AcknowledgesSector, not_reaches, not_reachesSector,
        reached]
  | some write =>
      rw [after, reached, Option.elim, Chip.accept, Chip.erase_sector_perform,
        Chip.exists_action_eq_eraseSector_iff, Chip.exists_action_eq_reset_iff,
        Chip.action_eq_acknowledgeSector_iff, ErasesSector, Resets, AcknowledgesSector,
        reaches_iff reached, reachesSector_iff reached, reachesSector_iff reached]

theorem identified_after (moment : Bus.Moment (Mbc6 σ)) :
    moment.after.chip.identified = true ↔
      Identifies moment ∨ moment.before.chip.identified = true := by
  have after := view_chip_after Chip.identified Chip.identified_storeEnable
    (fun _ _ => rfl) moment
  cases reached : moment.before.flashWrite? moment.operation with
  | none => simp [after, Identifies, not_reaches, reached]
  | some write =>
      rw [after, reached, Option.elim, Chip.accept, Chip.identified_perform_iff,
        Chip.action_eq_identify_iff, Identifies, reaches_iff reached]

end Mbc6
end FlashCartridge
