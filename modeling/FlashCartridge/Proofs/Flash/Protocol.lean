import FlashCartridge.Flash.Action

/-!
# The command protocol of the flash chip

The chip decides from its state what a write means. Read backwards, an action tells the state in
which it was taken and the write that caused it: `action_means` lists all ways to come to an action,
and whatever is kept by each of them is kept by every write.
-/

namespace FlashCartridge
namespace Flash

/-- The first unlock write. -/
def IsFirstUnlock (address : Address) (byte : UInt8) : Prop :=
  address = unlockAddress1 ∧ byte = 0xAA

/-- The second unlock write. -/
def IsSecondUnlock (address : Address) (byte : UInt8) : Prop :=
  address = unlockAddress2 ∧ byte = 0x55

/-- One of the two unlock writes. -/
def IsUnlock (address : Address) (byte : UInt8) : Prop :=
  IsFirstUnlock address byte ∨ IsSecondUnlock address byte

theorem not_isUnlock_of_byte {byte : UInt8} (first : byte ≠ 0xAA) (second : byte ≠ 0x55)
    (address : Address) : ¬ IsUnlock address byte := by
  rintro (⟨_, same⟩ | ⟨_, same⟩)
  · exact first same
  · exact second same

theorem not_isUnlock_zero (address : Address) : ¬ IsUnlock address 0x00 :=
  not_isUnlock_of_byte (by decide) (by decide) address

namespace Chip

/-! ## The control bits are independent of the protocol -/

section Control

variable (chip : Chip) (byte : UInt8)

@[simp]
theorem state_storeEnable : (chip.storeEnable byte).state = chip.state := by
  rw [storeEnable]
  split <;> rfl

@[simp]
theorem buffer_storeEnable : (chip.storeEnable byte).buffer = chip.buffer := by
  rw [storeEnable]
  split <;> rfl

@[simp]
theorem state_storeWriteEnable : (chip.storeWriteEnable byte).state = chip.state := rfl

@[simp]
theorem buffer_storeWriteEnable : (chip.storeWriteEnable byte).buffer = chip.buffer := rfl

@[simp]
theorem master_perform (action : Action) : (chip.perform action).master = chip.master := by
  cases action <;> rfl

theorem identified_perform (action : Action) (identified : chip.identified = true) :
    (chip.perform action).identified = true := by
  cases action <;> first | exact identified | rfl

end Control

/-! ## Actions and the writes that cause them -/

/-- The ways to come to an action by one write. -/
inductive Means (chip : Chip) (address : Address) (byte : UInt8) : Action → Prop
  | firstUnlock (write : IsFirstUnlock address byte) (state : chip.state ≠ .eraseArmed) :
      Means chip address byte (.unlock .unlocking)
  | firstEraseUnlock (write : IsFirstUnlock address byte) (state : chip.state = .eraseArmed) :
      Means chip address byte (.unlock .eraseUnlocking)
  | secondUnlock (write : IsSecondUnlock address byte) (state : chip.state = .unlocking) :
      Means chip address byte (.unlock .unlocked)
  | secondEraseUnlock (write : IsSecondUnlock address byte)
      (state : chip.state = .eraseUnlocking) :
      Means chip address byte (.unlock .eraseUnlocked)
  | lostUnlock (write : IsSecondUnlock address byte) (notUnlocking : chip.state ≠ .unlocking)
      (notEraseUnlocking : chip.state ≠ .eraseUnlocking) :
      Means chip address byte (.unlock .idle)
  | armProgram (state : chip.state = .unlocked) (place : address = unlockAddress1)
      (command : byte = 0xA0) (allowed : chip.master.allowArming = true) :
      Means chip address byte .armProgram
  | armErase (state : chip.state = .unlocked) (place : address = unlockAddress1)
      (command : byte = 0x80) (allowed : chip.master.allowArming = true) :
      Means chip address byte .armErase
  | rejectCommand (state : chip.state = .unlocked) (place : address = unlockAddress1)
      (command : byte = 0xA0 ∨ byte = 0x80) (refused : chip.master.allowArming = false) :
      Means chip address byte .rejectCommand
  | reset (state : chip.state = .unlocked) (place : address = unlockAddress1)
      (command : byte = 0xF0) :
      Means chip address byte (.reset (chip.identified || chip.erase.any))
  | identify (state : chip.state = .unlocked) (place : address = unlockAddress1)
      (command : byte = 0x90) :
      Means chip address byte .identify
  | unknownCommand (state : chip.state = .unlocked) (place : address = unlockAddress1) :
      Means chip address byte .unknownCommand
  | acknowledgeSector (state : chip.state = .unlocked) (start : address.isSectorStart = true)
      (acknowledged : byte = 0xF0) :
      Means chip address byte .acknowledgeSector
  | eraseChip (state : chip.state = .eraseUnlocked) (place : address = unlockAddress1)
      (command : byte = 0x10) :
      Means chip address byte .eraseChip
  | eraseSector (state : chip.state = .eraseUnlocked) (start : address.isSectorStart = true)
      (command : byte = 0x30) :
      Means chip address byte (.eraseSector address.sector)
  | otherPage (current : Page) (state : chip.state = .programming)
      (other : ¬ IsUnlock address byte) (chosen : chip.buffer.page? = some current)
      (different : current ≠ address.page) :
      Means chip address byte (.otherPage current)
  | collect (state : chip.state = .programming) (other : ¬ IsUnlock address byte)
      (chosen : chip.buffer.page? = none ∨ chip.buffer.page? = some address.page)
      (incomplete : ¬ (address.pageOffset = lastOffset ∧ chip.buffer.lastWritten = true ∧
        byte = 0)) :
      Means chip address byte (.collect address.page address.pageOffset byte)
  | commit (state : chip.state = .programming)
      (chosen : chip.buffer.page? = none ∨ chip.buffer.page? = some address.page)
      (last : address.pageOffset = lastOffset) (again : chip.buffer.lastWritten = true)
      (zero : byte = 0) :
      Means chip address byte (.commit address.page (chip.buffer.data.set lastOffset byte))
  | acknowledgeCommit (state : chip.state = .committed) (other : ¬ IsUnlock address byte)
      (acknowledged : chip.isCommitAcknowledgement address byte = true) :
      Means chip address byte .acknowledgeCommit
  | ignore (state : chip.state = .committed) (other : ¬ IsUnlock address byte)
      (unacknowledged : chip.isCommitAcknowledgement address byte = false) :
      Means chip address byte .ignore
  | relax (other : ¬ IsUnlock address byte)
      (state : chip.state = .idle ∨ chip.state = .unlocked) :
      Means chip address byte .relax
  | unexpected (other : ¬ IsUnlock address byte) (state : chip.state ≠ .idle)
      (notProgramming : chip.state ≠ .programming) (notCommitted : chip.state ≠ .committed) :
      Means chip address byte (.unexpected chip.state)

variable {chip : Chip} {address : Address} {byte : UInt8}

theorem action_of_firstUnlock (unlock : IsFirstUnlock address byte) :
    chip.action address byte =
      .unlock (if chip.state = .eraseArmed then .eraseUnlocking else .unlocking) :=
  if_pos unlock

theorem action_of_secondUnlock (unlock : IsSecondUnlock address byte) :
    chip.action address byte =
      .unlock
        (match chip.state with
        | .unlocking => .unlocked
        | .eraseUnlocking => .eraseUnlocked
        | _ => .idle) := by
  obtain ⟨rfl, rfl⟩ := unlock
  rfl

/-- Away from the unlock writes, only four states give a write a meaning of its own. -/
theorem action_of_not_unlock (other : ¬ IsUnlock address byte) :
    chip.action address byte =
      match chip.state with
      | .unlocked =>
        if address = unlockAddress1 then chip.commandAction byte
        else if address.isSectorStart then
          if byte = 0xF0 then .acknowledgeSector else .relax
        else chip.strayAction
      | .eraseUnlocked =>
        if address = unlockAddress1 ∧ byte = 0x10 then .eraseChip
        else if address.isSectorStart ∧ byte = 0x30 then .eraseSector address.sector
        else chip.strayAction
      | .programming => chip.programAction address byte
      | .committed =>
        if chip.isCommitAcknowledgement address byte then .acknowledgeCommit else .ignore
      | _ => chip.strayAction := by
  have notFirst : ¬ IsFirstUnlock address byte := fun unlock => other (.inl unlock)
  have notSecond : ¬ IsSecondUnlock address byte := fun unlock => other (.inr unlock)
  rw [action]
  exact (if_neg notFirst).trans (if_neg notSecond)

theorem commandAction_means (state : chip.state = .unlocked) (place : address = unlockAddress1) :
    chip.Means address byte (chip.commandAction byte) := by
  rw [commandAction]
  split
  · rename_i command
    split
    · rename_i allowed
      exact .armProgram state place command allowed
    · rename_i refused
      exact .rejectCommand state place (.inl command) (by simpa using refused)
  · split
    · rename_i command
      split
      · rename_i allowed
        exact .armErase state place command allowed
      · rename_i refused
        exact .rejectCommand state place (.inr command) (by simpa using refused)
    · split
      · rename_i command
        exact .reset state place command
      · split
        · rename_i command
          exact .identify state place command
        · exact .unknownCommand state place

theorem programAction_means (state : chip.state = .programming)
    (other : ¬ IsUnlock address byte) :
    chip.Means address byte (chip.programAction address byte) := by
  rw [programAction]
  cases chosen : chip.buffer.page? with
  | none =>
      simp only [Option.getD_none, ne_eq, not_true_eq_false, if_false]
      split
      · rename_i complete
        exact .commit state (.inl chosen) complete.1 complete.2.1 complete.2.2
      · rename_i incomplete
        exact .collect state other (.inl chosen) incomplete
  | some current =>
      simp only [Option.getD_some]
      split
      · rename_i different
        exact .otherPage current state other chosen different
      · rename_i same
        obtain rfl : current = address.page := Decidable.not_not.mp same
        split
        · rename_i complete
          exact .commit state (.inr chosen) complete.1 complete.2.1 complete.2.2
        · rename_i incomplete
          exact .collect state other (.inr chosen) incomplete

theorem strayAction_means (other : ¬ IsUnlock address byte)
    (notProgramming : chip.state ≠ .programming) (notCommitted : chip.state ≠ .committed) :
    chip.Means address byte chip.strayAction := by
  rw [strayAction]
  split
  · rename_i idle
    exact .relax other (.inl idle)
  · rename_i state
    exact .unexpected other state notProgramming notCommitted

/-- The action that the chip decides on has come about in one of the ways listed. -/
theorem action_means (chip : Chip) (address : Address) (byte : UInt8) :
    chip.Means address byte (chip.action address byte) := by
  by_cases first : IsFirstUnlock address byte
  · rw [action_of_firstUnlock first]
    split
    · rename_i armed
      exact .firstEraseUnlock first armed
    · rename_i unarmed
      exact .firstUnlock first unarmed
  by_cases second : IsSecondUnlock address byte
  · rw [action_of_secondUnlock second]
    split
    · rename_i state
      exact .secondUnlock second state
    · rename_i state
      exact .secondEraseUnlock second state
    · rename_i notUnlocking notEraseUnlocking
      exact .lostUnlock second notUnlocking notEraseUnlocking
  have other : ¬ IsUnlock address byte := fun unlock => unlock.elim first second
  rw [action_of_not_unlock other]
  split
  · rename_i state
    split
    · rename_i place
      exact commandAction_means state place
    · split
      · rename_i start
        split
        · rename_i acknowledged
          exact .acknowledgeSector state start acknowledged
        · exact .relax other (.inr state)
      · exact strayAction_means other (by simp [state]) (by simp [state])
  · rename_i state
    split
    · rename_i erased
      exact .eraseChip state erased.1 erased.2
    · split
      · rename_i erased
        exact .eraseSector state erased.1 erased.2
      · exact strayAction_means other (by simp [state]) (by simp [state])
  · rename_i state
    exact programAction_means state other
  · rename_i state
    split
    · rename_i acknowledged
      exact .acknowledgeCommit state other acknowledged
    · rename_i unacknowledged
      exact .ignore state other (by simpa using unacknowledged)
  · rename_i notProgramming notCommitted
    exact strayAction_means other notProgramming notCommitted

end Chip
end Flash
end FlashCartridge
