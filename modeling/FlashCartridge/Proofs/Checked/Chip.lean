import FlashCartridge.Flash.Action
import FlashCartridge.Proofs.Checked.Operations

/-!
# The flash chip on words and blocks

The chip with everything made explicit that could go wrong: addresses are words, the page that is
collected is known by the address of its first byte, array and page buffer are blocks that are
indexed and sliced with a check, and what a write relies on is asserted. Reads and writes at
addresses of the array never trap, and do what they do to `Flash.Chip`.
-/

namespace FlashCartridge
namespace Checked

open Flash (CommandState MasterBits EraseFlags FlashArray)

/-- The bytes that are collected for one page. -/
structure PageBuffer where
  /-- The collected bytes. -/
  data : ByteArray
  /-- The address of the first byte of the page. -/
  base? : Option UInt32
  /-- Whether the last byte of the page was written. -/
  lastWritten : Bool

/-- The buffer before the first write. -/
def PageBuffer.empty : PageBuffer where
  data := (Memory.replicate Flash.pageSize 0xFF).bytes
  base? := none
  lastWritten := false

/-- What the chip remembers between two writes. -/
structure Chip where
  /-- The position in the command protocol. -/
  state : CommandState
  /-- The control bits. -/
  master : MasterBits
  /-- Whether the software identification command was ever executed. -/
  identified : Bool
  /-- The erasures that wait for their acknowledgement. -/
  erase : EraseFlags
  /-- The page buffer. -/
  buffer : PageBuffer

/-- What comes of a write to the chip. -/
structure Accepted where
  /-- Whether the array was written to. -/
  modified : Bool
  /-- The chip afterwards. -/
  chip : Chip
  /-- The array afterwards. -/
  array : ByteArray

namespace Chip

/-- Read a byte of the array, or a status. -/
def load (chip : Chip) (array : ByteArray) (address : UInt32) : Checked UInt8 :=
  if chip.erase.any || chip.state = .committed then
    .ok 0x80
  else if chip.state = .programming then
    .ok 0x00
  else
    read array address

/-- Store the enable bit. -/
def storeEnable (chip : Chip) (byte : UInt8) : Chip :=
  if chip.identified then
    { chip with master := { chip.master with enabled := byte &&& 1 != 0 } }
  else
    chip

/-- Store the write enable bit. -/
def storeWriteEnable (chip : Chip) (byte : UInt8) : Chip :=
  { chip with master := { chip.master with writeEnabled := byte &&& 1 != 0 } }

/-- A command byte behind both unlock writes. -/
def command (chip : Chip) (byte : UInt8) : Chip :=
  if byte = 0xA0 ∨ byte = 0x80 then
    { chip with
      buffer := .empty
      state :=
        if !chip.master.allowArming then .idle
        else if byte = 0xA0 then .programming
        else .eraseArmed }
  else if byte = 0xF0 then
    { chip with
      erase := if chip.identified || chip.erase.any then {} else chip.erase
      state := .idle }
  else if byte = 0x90 then
    { chip with identified := true, state := .idle }
  else
    { chip with state := .idle }

/-- Keep the bits that both bytes have set. -/
def merge (data : ByteArray) (offset : Nat) (stored : UInt8) : UInt8 :=
  if inside : offset < data.size then stored &&& data.get offset inside else stored

/-- Collect one byte of a page, and commit the page if that completes it. -/
def collect (chip : Chip) (array : ByteArray) (base offset : UInt32) (byte : UInt8) :
    Checked Accepted := do
  let data ← write chip.buffer.data offset byte
  let last ← sub (.ofNat Flash.pageSize) (.ofNat 1)
  if offset ≠ last then
    .ok ⟨false, { chip with buffer := ⟨data, some base, chip.buffer.lastWritten⟩ }, array⟩
  else if chip.buffer.lastWritten ∧ byte = 0 then
    let stop ← add base (.ofNat Flash.pageSize)
    let merged ← modify array base stop (merge data)
    .ok ⟨true, { chip with buffer := ⟨data, some base, true⟩, state := .committed }, merged⟩
  else
    .ok ⟨false, { chip with buffer := ⟨data, some base, true⟩ }, array⟩

/-- A write while a page is collected. The first one chooses the page. -/
def program (chip : Chip) (array : ByteArray) (address : UInt32) (byte : UInt8) :
    Checked Accepted := do
  let mask ← sub (.ofNat Flash.pageSize) (.ofNat 1)
  let page := address &&& ~~~mask
  let base := chip.buffer.base?.getD page
  if base ≠ page then
    .ok ⟨false, { chip with buffer := { chip.buffer with base? := some base } }, array⟩
  else
    chip.collect array base (address &&& mask) byte

/-- The address of the last byte of the page that is collected. -/
def lastAddress? (chip : Chip) : Checked (Option UInt32) :=
  match chip.buffer.base? with
  | none => .ok none
  | some base => do
    let stop ← add base (.ofNat Flash.pageSize)
    let last ← sub stop (.ofNat 1)
    .ok (some last)

/-- A write that is not an unlock write. -/
def interpret (chip : Chip) (array : ByteArray) (address : UInt32) (byte : UInt8) :
    Checked Accepted :=
  let abandoned : Accepted := ⟨false, { chip with state := .idle }, array⟩
  let aligned := address % .ofNat Flash.sectorSize = 0
  match chip.state with
  | .unlocked =>
    if address = .ofNat 0x5555 then
      .ok ⟨false, chip.command byte, array⟩
    else if aligned then
      if byte = 0xF0 then
        .ok { abandoned with
          chip := { abandoned.chip with erase := { chip.erase with sector := false } } }
      else
        .ok abandoned
    else
      .ok abandoned
  | .eraseUnlocked =>
    if address = .ofNat 0x5555 ∧ byte = 0x10 then do
      let erased ← modify array (.ofNat 0) (.ofNat array.size) fun _ _ => 0xFF
      .ok ⟨true, { chip with state := .idle, erase := { chip.erase with chip := true } }, erased⟩
    else if aligned ∧ byte = 0x30 then do
      let stop ← add address (.ofNat Flash.sectorSize)
      let erased ← modify array address stop fun _ _ => 0xFF
      .ok ⟨true, { chip with state := .idle, erase := { chip.erase with sector := true } }, erased⟩
    else
      .ok abandoned
  | .programming => chip.program array address byte
  | .committed => do
    let last? ← chip.lastAddress?
    if last? = some address ∧ byte = 0xF0 then .ok abandoned else .ok ⟨false, chip, array⟩
  | _ => .ok abandoned

/-- A write that reaches the chip. -/
def accept (chip : Chip) (array : ByteArray) (address : UInt32) (byte : UInt8) :
    Checked Accepted := do
  require (chip.master.writeEnabled = true) .assertion
  require (array.size = Flash.size) .assertion
  require (address.toNat < Flash.size) .assertion
  if address = .ofNat 0x5555 ∧ byte = 0xAA then
    let next := if chip.state = .eraseArmed then .eraseUnlocking else .unlocking
    .ok ⟨false, { chip with state := next }, array⟩
  else if address = .ofNat 0x2AAA ∧ byte = 0x55 then
    let next :=
      match chip.state with
      | .unlocking => .unlocked
      | .eraseUnlocking => .eraseUnlocked
      | _ => .idle
    .ok ⟨false, { chip with state := next }, array⟩
  else
    chip.interpret array address byte

/-! ## Agreement with the chip -/

/-- A chip, with the collected page as an address. -/
def ofChip (chip : Flash.Chip) : Chip where
  state := chip.state
  master := chip.master
  identified := chip.identified
  erase := chip.erase
  buffer :=
    { data := chip.buffer.data.bytes
      base? := chip.buffer.page?.map fun page => .ofNat (Flash.Page.start page)
      lastWritten := chip.buffer.lastWritten }

@[simp]
theorem storeEnable_ofChip (chip : Flash.Chip) (byte : UInt8) :
    (ofChip chip).storeEnable byte = ofChip (chip.storeEnable byte) := by
  rw [storeEnable, Flash.Chip.storeEnable, ofChip]
  split <;> rfl

@[simp]
theorem storeWriteEnable_ofChip (chip : Flash.Chip) (byte : UInt8) :
    (ofChip chip).storeWriteEnable byte = ofChip (chip.storeWriteEnable byte) := rfl

theorem load_ofChip (chip : Flash.Chip) (array : FlashArray) (address : Flash.Address) :
    (ofChip chip).load array.bytes (.ofNat address.val) = .ok (chip.load array address) := by
  have unfolded : (ofChip chip).load array.bytes (.ofNat address.val) =
      if chip.erase.any || chip.state = .committed then .ok 0x80
      else if chip.state = .programming then .ok 0x00
      else read array.bytes (.ofNat address.val) := rfl
  rw [unfolded, read_ofNat array (by decide), Flash.Chip.load]
  split
  · rfl
  · split <;> rfl

/-- What is to come of an action. -/
def outcome (chip : Flash.Chip) (array : FlashArray) (action : Flash.Action) : Accepted where
  modified := action.modifies
  chip := ofChip (chip.perform action)
  array := (action.apply array).bytes

theorem command_ofChip (chip : Flash.Chip) (array : FlashArray) (byte : UInt8) :
    (⟨false, (ofChip chip).command byte, array.bytes⟩ : Accepted) =
      outcome chip array (chip.commandAction byte) := by
  rw [command, Flash.Chip.commandAction]
  by_cases program : byte = 0xA0
  · rw [if_pos (.inl program), if_pos program]
    cases allowed : chip.master.allowArming <;> simp [ofChip, allowed, program] <;> rfl
  · by_cases erase : byte = 0x80
    · rw [if_pos (.inr erase), if_neg program, if_pos erase]
      cases allowed : chip.master.allowArming <;> simp [ofChip, allowed, program] <;> rfl
    · rw [if_neg (by simp [program, erase]), if_neg program, if_neg erase]
      by_cases reset : byte = 0xF0
      · have cleared : (if chip.identified || chip.erase.any then {} else chip.erase) =
            ({} : EraseFlags) := by
          obtain ⟨state, master, identified, ⟨chip, sector⟩, buffer⟩ := chip
          cases identified <;> cases chip <;> cases sector <;> rfl
        rw [if_pos reset, if_pos reset]
        change (⟨false, { ofChip chip with
          erase := if chip.identified || chip.erase.any then {} else chip.erase
          state := .idle }, array.bytes⟩ : Accepted) = _
        rw [cleared]
        rfl
      · rw [if_neg reset, if_neg reset]
        split <;> rfl

theorem address_lt (address : Flash.Address) : address.val < UInt32.size :=
  Nat.lt_trans address.isLt (by decide)

theorem start_add_lt (page : Flash.Page) :
    Flash.Page.start page + Flash.pageSize < UInt32.size :=
  Nat.lt_of_le_of_lt page.start_add_le (by decide)

theorem start_lt (page : Flash.Page) : Flash.Page.start page < UInt32.size :=
  Nat.lt_of_le_of_lt (Nat.le_add_right _ _) (start_add_lt page)

theorem pageMask : sub (.ofNat Flash.pageSize) (.ofNat 1) = .ok (.ofNat (Flash.pageSize - 1)) :=
  sub_ofNat (by decide) (by decide)

theorem isPowerOfTwo_pageSize : Flash.pageSize.isPowerOfTwo := ⟨7, rfl⟩

theorem start_inj {left right : Flash.Page} :
    UInt32.ofNat (Flash.Page.start left) = .ofNat (Flash.Page.start right) ↔ left = right := by
  rw [ofNat_inj (start_lt left) (start_lt right), Fin.ext_iff]
  simp only [Flash.Page.start, Flash.pageSize]
  omega

theorem merge_bytes {size : Nat} (data : Memory size) :
    merge data.bytes = fun offset stored =>
      if inside : offset < size then stored &&& data.get ⟨offset, inside⟩ else stored := by
  obtain ⟨bytes, rfl⟩ := data
  rfl

theorem collect_ofChip (chip : Flash.Chip) (array : FlashArray) (page : Flash.Page)
    (offset : Fin Flash.pageSize) (byte : UInt8) :
    (ofChip chip).collect array.bytes (.ofNat (Flash.Page.start page)) (.ofNat offset.val) byte =
      .ok (outcome chip array
        (if offset = Flash.lastOffset ∧ chip.buffer.lastWritten ∧ byte = 0 then
          .commit page (chip.buffer.data.set Flash.lastOffset byte)
        else
          .collect page offset byte)) := by
  have inside := page.start_add_le
  have collected : write (ofChip chip).buffer.data (.ofNat offset.val) byte =
      .ok (chip.buffer.data.set offset byte).bytes :=
    write_ofNat chip.buffer.data (by decide) offset byte
  have stop : add (.ofNat (Flash.Page.start page)) (.ofNat Flash.pageSize) =
      .ok (.ofNat (Flash.Page.start page + Flash.pageSize)) :=
    add_ofNat (start_add_lt page)
  have isLast : UInt32.ofNat offset.val = .ofNat (Flash.pageSize - 1) ↔
      offset = Flash.lastOffset := by
    have small : offset.val < UInt32.size := Nat.lt_trans offset.isLt (by decide)
    rw [ofNat_inj small (by decide), Fin.ext_iff]
    rfl
  have lastWritten : (ofChip chip).buffer.lastWritten = chip.buffer.lastWritten := rfl
  rw [collect, collected, ok_bind, pageMask, ok_bind, stop, ok_bind, lastWritten]
  by_cases last : offset = Flash.lastOffset
  · rw [if_neg (fun different => different (isLast.mpr last))]
    by_cases complete : chip.buffer.lastWritten = true ∧ byte = 0
    · rw [if_pos complete, if_pos ⟨last, complete⟩, modify_ofNat array (by decide) inside, ok_bind,
        merge_bytes, last]
      rfl
    · rw [if_neg complete, if_neg (fun both => complete both.2)]
      simp [outcome, ofChip, Flash.Chip.perform, Flash.PageBuffer.put, Flash.Action.modifies,
        Flash.Action.apply, last]
  · rw [if_pos (fun equal => last (isLast.mp equal)), if_neg (fun both => last both.1)]
    simp [outcome, ofChip, Flash.Chip.perform, Flash.PageBuffer.put, Flash.Action.modifies,
      Flash.Action.apply, last]

theorem program_ofChip (chip : Flash.Chip) (array : FlashArray) (address : Flash.Address)
    (byte : UInt8) :
    (ofChip chip).program array.bytes (.ofNat address.val) byte =
      .ok (outcome chip array (chip.programAction address byte)) := by
  have page : UInt32.ofNat (address.val / Flash.pageSize * Flash.pageSize) =
      .ofNat (Flash.Page.start address.page) := rfl
  have offset : UInt32.ofNat (address.val % Flash.pageSize) = .ofNat address.pageOffset.val := rfl
  have base : (ofChip chip).buffer.base?.getD (.ofNat (Flash.Page.start address.page)) =
      .ofNat (Flash.Page.start (chip.buffer.page?.getD address.page)) := by
    cases chosen : chip.buffer.page? <;> simp [ofChip, chosen]
  rw [program, pageMask, ok_bind, ofNat_and_mask isPowerOfTwo_pageSize,
    ofNat_and_not_mask isPowerOfTwo_pageSize, page, offset]
  simp only [base]
  rw [Flash.Chip.programAction]
  by_cases same : chip.buffer.page?.getD address.page = address.page
  · simp only [same, ne_eq, not_true_eq_false, if_false]
    exact collect_ofChip chip array address.page address.pageOffset byte
  · have different : UInt32.ofNat (Flash.Page.start (chip.buffer.page?.getD address.page)) ≠
        .ofNat (Flash.Page.start address.page) := fun equal => same (start_inj.mp equal)
    rw [if_pos different, if_pos same]
    cases chosen : chip.buffer.page? with
    | none => simp [chosen] at same
    | some current =>
        simp [outcome, ofChip, Flash.Chip.perform, Flash.Action.modifies, Flash.Action.apply,
          chosen]

theorem address_inj {left right : Flash.Address} :
    UInt32.ofNat left.val = .ofNat right.val ↔ left = right := by
  rw [ofNat_inj (address_lt left) (address_lt right), Fin.ext_iff]

theorem aligned_iff (address : Flash.Address) :
    UInt32.ofNat address.val % .ofNat Flash.sectorSize = 0 ↔ address.isSectorStart = true := by
  have sector : (UInt32.ofNat Flash.sectorSize).toNat = Flash.sectorSize := toNat_ofNat (by decide)
  rw [← UInt32.toNat_inj, UInt32.toNat_mod, toNat_ofNat (address_lt address), sector]
  simp [Flash.Address.isSectorStart]

theorem lastAddress?_ofChip (chip : Flash.Chip) :
    (ofChip chip).lastAddress? = .ok (chip.buffer.page?.map fun page =>
      .ofNat (Flash.Page.start page + Flash.lastOffset.val)) := by
  rw [lastAddress?]
  cases chosen : chip.buffer.page? with
  | none => simp [ofChip, chosen]
  | some page =>
      have base : (ofChip chip).buffer.base? = some (.ofNat (Flash.Page.start page)) := by
        simp [ofChip, chosen]
      have last : sub (.ofNat (Flash.Page.start page + Flash.pageSize)) (.ofNat 1) =
          .ok (.ofNat (Flash.Page.start page + Flash.lastOffset.val)) :=
        sub_ofNat (start_add_lt page) (Nat.le_trans (by decide) (Nat.le_add_left _ _))
      rw [base]
      simp only [add_ofNat (start_add_lt page), ok_bind, last, Option.map_some]

theorem lastAddress_inj (page : Flash.Page) (address : Flash.Address) :
    UInt32.ofNat (Flash.Page.start page + Flash.lastOffset.val) = .ofNat address.val ↔
      page = address.page ∧ address.pageOffset = Flash.lastOffset := by
  have inside : Flash.Page.start page + Flash.lastOffset.val < UInt32.size :=
    Nat.lt_trans (Nat.add_lt_add_left Flash.lastOffset.isLt _) (start_add_lt page)
  rw [ofNat_inj inside (address_lt address), address.eq_start_page_add, Fin.ext_iff, Fin.ext_iff]
  have := address.pageOffset.isLt
  simp only [Flash.Page.start, Flash.pageSize] at *
  omega

theorem isAcknowledged_iff (chip : Flash.Chip) (address : Flash.Address) (byte : UInt8) :
    (chip.buffer.page?.map fun page =>
      UInt32.ofNat (Flash.Page.start page + Flash.lastOffset.val)) = some (.ofNat address.val) ∧
        byte = 0xF0 ↔ chip.isCommitAcknowledgement address byte = true := by
  rw [Flash.Chip.isCommitAcknowledgement]
  cases chosen : chip.buffer.page? with
  | none => simp
  | some page =>
      rw [Option.map_some, Option.some.injEq, lastAddress_inj]
      simp [and_assoc]

theorem eraseChip_ofChip (array : FlashArray) :
    modify array.bytes (.ofNat 0) (.ofNat array.bytes.size) (fun _ _ => 0xFF) =
      .ok (Flash.Action.eraseChip.apply array).bytes := by
  rw [array.size_bytes]
  have inside : 0 + Flash.size ≤ Flash.size := Nat.le_of_eq (Nat.zero_add _)
  have filled := modify_ofNat array (by decide) inside fun _ _ => 0xFF
  rwa [Nat.zero_add] at filled

/-- The last sector ends with the array: its end is no index there, but it is still a bound. -/
theorem eraseSector_ofChip (array : FlashArray) {address : Flash.Address}
    (start : address.isSectorStart = true) :
    add (.ofNat address.val) (.ofNat Flash.sectorSize) =
        .ok (.ofNat (address.val + Flash.sectorSize)) ∧
      modify array.bytes (.ofNat address.val) (.ofNat (address.val + Flash.sectorSize))
          (fun _ _ => 0xFF) =
        .ok ((Flash.Action.eraseSector address.sector).apply array).bytes := by
  have inside : address.val + Flash.sectorSize ≤ Flash.size := by
    rw [Flash.Address.eq_start_sector start]
    exact address.sector.start_add_le
  refine ⟨add_ofNat (Nat.lt_of_le_of_lt inside (by decide)), ?_⟩
  rw [modify_ofNat array (by decide) inside, Flash.Address.eq_start_sector start]
  rfl

theorem outcome_strayAction (chip : Flash.Chip) (array : FlashArray) :
    outcome chip array chip.strayAction = outcome chip array .relax := by
  rw [Flash.Chip.strayAction]
  split <;> rfl

theorem interpret_ofChip (chip : Flash.Chip) (array : FlashArray) (address : Flash.Address)
    {byte : UInt8} (notFirst : ¬ (address = Flash.unlockAddress1 ∧ byte = 0xAA))
    (notSecond : ¬ (address = Flash.unlockAddress2 ∧ byte = 0x55)) :
    (ofChip chip).interpret array.bytes (.ofNat address.val) byte =
      .ok (outcome chip array (chip.action address byte)) := by
  have atCommand : UInt32.ofNat address.val = .ofNat 0x5555 ↔ address = Flash.unlockAddress1 :=
    @address_inj address Flash.unlockAddress1
  have state : (ofChip chip).state = chip.state := rfl
  have abandoned : (⟨false, { ofChip chip with state := .idle }, array.bytes⟩ : Accepted) =
      outcome chip array .relax := rfl
  rw [Flash.Chip.action, if_neg notFirst, if_neg notSecond, interpret, state]
  dsimp only
  rw [abandoned]
  cases found : chip.state with
  | idle | unlocking | eraseArmed | eraseUnlocking =>
      exact congrArg Except.ok (outcome_strayAction chip array).symm
  | unlocked =>
      dsimp only
      by_cases command : address = Flash.unlockAddress1
      · rw [if_pos (atCommand.mpr command), if_pos command, command_ofChip]
      · rw [if_neg (command ∘ atCommand.mp), if_neg command]
        by_cases start : address.isSectorStart = true
        · rw [if_pos ((aligned_iff address).mpr start), if_pos start]
          split <;> rfl
        · rw [if_neg (start ∘ (aligned_iff address).mp), if_neg start, outcome_strayAction]
  | eraseUnlocked =>
      dsimp only
      by_cases whole : address = Flash.unlockAddress1 ∧ byte = 0x10
      · rw [if_pos ⟨atCommand.mpr whole.1, whole.2⟩, if_pos whole]
        rw [eraseChip_ofChip]
        rfl
      · rw [if_neg (fun both => whole ⟨atCommand.mp both.1, both.2⟩), if_neg whole]
        by_cases sector : address.isSectorStart = true ∧ byte = 0x30
        · rw [if_pos ⟨(aligned_iff address).mpr sector.1, sector.2⟩, if_pos sector]
          obtain ⟨stop, erased⟩ := eraseSector_ofChip array sector.1
          rw [stop, ok_bind, erased]
          rfl
        · rw [if_neg (fun both => sector ⟨(aligned_iff address).mp both.1, both.2⟩), if_neg sector,
            outcome_strayAction]
  | programming => exact program_ofChip chip array address byte
  | committed =>
      dsimp only
      rw [lastAddress?_ofChip, ok_bind]
      by_cases acknowledged : chip.isCommitAcknowledgement address byte = true
      · rw [if_pos ((isAcknowledged_iff chip address byte).mpr acknowledged), if_pos acknowledged]
        rfl
      · rw [if_neg (acknowledged ∘ (isAcknowledged_iff chip address byte).mp), if_neg acknowledged]
        rfl

/-- While writing is enabled, a write to an address of the array never traps. -/
theorem accept_ofChip {chip : Flash.Chip} (writable : chip.master.writeEnabled = true)
    (array : FlashArray) (address : Flash.Address) (byte : UInt8) :
    (ofChip chip).accept array.bytes (.ofNat address.val) byte =
      .ok (outcome chip array (chip.action address byte)) := by
  have enabled : (ofChip chip).master.writeEnabled = true := writable
  have inside : (UInt32.ofNat address.val).toNat < Flash.size := by
    rw [toNat_ofNat (address_lt address)]
    exact address.isLt
  have atFirst : UInt32.ofNat address.val = .ofNat 0x5555 ↔ address = Flash.unlockAddress1 :=
    @address_inj address Flash.unlockAddress1
  have atSecond : UInt32.ofNat address.val = .ofNat 0x2AAA ↔ address = Flash.unlockAddress2 :=
    @address_inj address Flash.unlockAddress2
  rw [accept, require_eq_ok enabled, ok_bind, require_eq_ok array.size_bytes, ok_bind,
    require_eq_ok inside, ok_bind]
  by_cases first : address = Flash.unlockAddress1 ∧ byte = 0xAA
  · rw [if_pos ⟨atFirst.mpr first.1, first.2⟩, Flash.Chip.action, if_pos first]
    rfl
  · rw [if_neg (fun both => first ⟨atFirst.mp both.1, both.2⟩)]
    by_cases second : address = Flash.unlockAddress2 ∧ byte = 0x55
    · rw [if_pos ⟨atSecond.mpr second.1, second.2⟩, Flash.Chip.action, if_neg first,
        if_pos second]
      rfl
    · rw [if_neg (fun both => second ⟨atSecond.mp both.1, both.2⟩)]
      exact interpret_ofChip chip array address first second

end Chip

end Checked
end FlashCartridge
