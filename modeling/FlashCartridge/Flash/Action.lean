import FlashCartridge.Flash.Chip
import FlashCartridge.Log
import FlashCartridge.Text.Hex

/-!
# What a write to the flash chip does

Every write that reaches the chip is first classified as one `Action`. The action alone decides how
the chip state moves (`Chip.perform`), how the array changes (`Action.apply`) and what is reported
(`Action.entry?`). The array only changes by an erasure or by a page commit.
-/

namespace FlashCartridge
namespace Flash

/-- The meaning of one write to the chip. -/
inductive Action
  /-- An unlock write, which moves to the given state. -/
  | unlock (next : CommandState)
  /-- The program command was accepted. -/
  | armProgram
  /-- The erase setup command was accepted. -/
  | armErase
  /-- The control bits forbid the program or erase setup command. -/
  | rejectCommand
  /-- The reset command. It clears the erase flags, and it is reported if it may have had any
  effect on them. -/
  | reset (reported : Bool)
  /-- The software identification command. -/
  | identify
  /-- A command that does not exist. -/
  | unknownCommand
  /-- The acknowledgement of a sector erasure. -/
  | acknowledgeSector
  /-- The erasure of the whole array. -/
  | eraseChip
  /-- The erasure of one sector. -/
  | eraseSector (sector : Sector)
  /-- One byte for the page buffer. -/
  | collect (page : Page) (offset : Fin pageSize) (byte : UInt8)
  /-- A byte for another page than the given one that is being collected. -/
  | otherPage (current : Page)
  /-- The write that completes a page and merges the collected bytes into the array. -/
  | commit (page : Page) (data : Memory pageSize)
  /-- The acknowledgement of a page commit. -/
  | acknowledgeCommit
  /-- A write without any effect, made while a page commit waits for its acknowledgement. -/
  | ignore
  /-- A write that returns the chip to idle and nothing else. -/
  | relax
  /-- A write that has no place in the given state and abandons the command in progress. -/
  | unexpected (state : CommandState)

/-- The address of the first unlock write and of all commands. -/
def unlockAddress1 : Address := ⟨0x5555, by decide⟩

/-- The address of the second unlock write. -/
def unlockAddress2 : Address := ⟨0x2AAA, by decide⟩

namespace Chip

/-- The meaning of a command byte behind both unlock writes. -/
def commandAction (chip : Chip) (command : UInt8) : Action :=
  if command = 0xA0 then
    if chip.master.allowArming then .armProgram else .rejectCommand
  else if command = 0x80 then
    if chip.master.allowArming then .armErase else .rejectCommand
  else if command = 0xF0 then
    .reset (chip.identified || chip.erase.any)
  else if command = 0x90 then
    .identify
  else
    .unknownCommand

/-- The meaning of a write while a page is collected. The first write chooses the page, and a
second write to its last byte completes the page if the byte is zero. -/
def programAction (chip : Chip) (address : Address) (byte : UInt8) : Action :=
  let current := chip.buffer.page?.getD address.page
  if current ≠ address.page then
    .otherPage current
  else if address.pageOffset = lastOffset ∧ chip.buffer.lastWritten ∧ byte = 0 then
    .commit current (chip.buffer.data.set lastOffset byte)
  else
    .collect current address.pageOffset byte

/-- A commit is acknowledged at the last byte of its page. -/
def isCommitAcknowledgement (chip : Chip) (address : Address) (byte : UInt8) : Bool :=
  chip.buffer.page? = some address.page && address.pageOffset = lastOffset && byte = 0xF0

/-- The meaning of a write that has no place in the present state. -/
def strayAction (chip : Chip) : Action :=
  if chip.state = .idle then .relax else .unexpected chip.state

/-- The meaning of a write. The unlock writes are recognised in every state. They continue their
sequence, also the one behind the erase setup command, and abandon whatever else was in progress. -/
def action (chip : Chip) (address : Address) (byte : UInt8) : Action :=
  if address = unlockAddress1 ∧ byte = 0xAA then
    .unlock (if chip.state = .eraseArmed then .eraseUnlocking else .unlocking)
  else if address = unlockAddress2 ∧ byte = 0x55 then
    .unlock
      (match chip.state with
      | .unlocking => .unlocked
      | .eraseUnlocking => .eraseUnlocked
      | _ => .idle)
  else
    match chip.state with
    | .unlocked =>
      if address = unlockAddress1 then
        chip.commandAction byte
      else if address.isSectorStart then
        if byte = 0xF0 then .acknowledgeSector else .relax
      else
        chip.strayAction
    | .eraseUnlocked =>
      if address = unlockAddress1 ∧ byte = 0x10 then
        .eraseChip
      else if address.isSectorStart ∧ byte = 0x30 then
        .eraseSector address.sector
      else
        chip.strayAction
    | .programming => chip.programAction address byte
    | .committed =>
      if chip.isCommitAcknowledgement address byte then .acknowledgeCommit else .ignore
    | _ => chip.strayAction

/-- The chip after an action. -/
def perform (chip : Chip) : Action → Chip
  | .unlock next => { chip with state := next }
  | .armProgram => { chip with state := .programming, buffer := .empty }
  | .armErase => { chip with state := .eraseArmed, buffer := .empty }
  | .rejectCommand => { chip with state := .idle, buffer := .empty }
  | .reset _ => { chip with state := .idle, erase := {} }
  | .identify => { chip with state := .idle, identified := true }
  | .unknownCommand => { chip with state := .idle }
  | .acknowledgeSector =>
    { chip with state := .idle, erase := { chip.erase with sector := false } }
  | .eraseChip => { chip with state := .idle, erase := { chip.erase with chip := true } }
  | .eraseSector _ => { chip with state := .idle, erase := { chip.erase with sector := true } }
  | .collect page offset byte => { chip with buffer := chip.buffer.put page offset byte }
  | .otherPage _ => chip
  | .commit page data => { chip with state := .committed, buffer := ⟨data, some page, true⟩ }
  | .acknowledgeCommit => { chip with state := .idle }
  | .ignore => chip
  | .relax => { chip with state := .idle }
  | .unexpected _ => { chip with state := .idle }

/-- The chip after a write that reached it. -/
def accept (chip : Chip) (address : Address) (byte : UInt8) : Chip :=
  chip.perform (chip.action address byte)

end Chip

namespace Action

/-- Whether an action writes to the array. -/
def modifies : Action → Bool
  | .eraseChip | .eraseSector _ | .commit _ _ => true
  | _ => false

theorem modifies_iff {action : Action} :
    action.modifies = true ↔ action = .eraseChip ∨ (∃ sector, action = .eraseSector sector) ∨
      ∃ page data, action = .commit page data := by
  cases action <;> simp [modifies]

/-- The array after an action. An erasure sets bits, and a commit only clears bits. -/
def apply : Action → FlashArray → FlashArray
  | .eraseChip, array => array.fillRange 0 size 0xFF
  | .eraseSector sector, array => array.fillRange (Sector.start sector) sectorSize 0xFF
  | .commit page data, array =>
    array.mapRange (Page.start page)
      (fun offset stored =>
        if inside : offset < pageSize then stored &&& data.get ⟨offset, inside⟩ else stored)
      pageSize
  | _, array => array

theorem apply_eq_self {action : Action} (unmodified : action.modifies = false)
    (array : FlashArray) : action.apply array = array := by
  cases action <;> simp_all [modifies, apply]

@[simp]
theorem get_apply_eraseChip (array : FlashArray) (address : Address) :
    (apply .eraseChip array).get address = 0xFF := by
  have inside := address.isLt
  rw [apply, Memory.get_fillRange, if_pos (by omega)]

theorem get_apply_eraseSector (sector : Sector) (array : FlashArray) (address : Address) :
    (apply (.eraseSector sector) array).get address =
      if address.sector = sector then 0xFF else array.get address := by
  have inside : (Sector.start sector ≤ address.val ∧
      address.val < Sector.start sector + sectorSize) ↔ address.sector = sector := by
    simp only [Sector.start, Address.sector, sectorSize, Fin.ext_iff]
    omega
  rw [apply, Memory.get_fillRange]
  simp only [inside]

/-- A commit merges the collected byte into every byte of its page, and touches no other page. -/
theorem get_apply_commit (page : Page) (data : Memory pageSize) (array : FlashArray)
    (address : Address) :
    (apply (.commit page data) array).get address =
      if address.page = page then array.get address &&& data.get address.pageOffset
      else array.get address := by
  rw [apply, Memory.get_mapRange]
  by_cases same : address.page = page
  · have split_address := address.eq_start_page_add
    have offset_lt := address.pageOffset.isLt
    rw [same] at split_address
    have offset_eq : address.val - Page.start page = address.pageOffset.val := by omega
    rw [if_pos same, if_pos (by omega), dif_pos (by omega)]
    congr 2
    exact Fin.ext offset_eq
  · rw [if_neg same, if_neg]
    rintro ⟨lower, upper⟩
    apply same
    simp only [Page.start, pageSize] at lower upper
    simp only [Address.page, pageSize, Fin.ext_iff]
    omega

/-- A place in the array is shown with five digits. -/
def place (address : Nat) : String := Text.marked 5 address

/-- The report on an action that was caused by writing a byte to an address. -/
def entry? (address : Address) (byte : UInt8) : Action → Option Log.Entry
  | .armProgram => some ⟨.debug, "[flash] program armed"⟩
  | .armErase => some ⟨.debug, "[flash] erase armed"⟩
  | .rejectCommand =>
    some ⟨.debug, s!"[flash] command {Text.byte byte} rejected by master bits"⟩
  | .reset true => some ⟨.debug, "[flash] reset, clearing erase status"⟩
  | .identify => some ⟨.debug, "[flash] software ID, erase suspend allowed"⟩
  | .unknownCommand => some ⟨.trace, s!"[flash] unknown command {Text.byte byte}"⟩
  | .acknowledgeSector =>
    some ⟨.debug, s!"[flash] sector erase acknowledged at {place address}"⟩
  | .eraseChip => some ⟨.debug, "[flash] chip erase"⟩
  | .eraseSector _ => some ⟨.debug, s!"[flash] sector erase at {place address}"⟩
  | .otherPage current =>
    let base := place (Page.start current)
    some ⟨.trace, s!"[flash] write to {place address} outside of page {base} dropped"⟩
  | .commit page _ => some ⟨.debug, s!"[flash] committing page {place (Page.start page)}"⟩
  | .acknowledgeCommit => some ⟨.debug, "[flash] page commit acknowledged"⟩
  | .unexpected state =>
    let write := s!"[flash] unexpected write {Text.byte byte} to {place address}"
    some ⟨.trace, s!"{write} in state {state.name}"⟩
  | .reset false | .unlock _ | .collect _ _ _ | .ignore | .relax => none

end Action

end Flash
end FlashCartridge
