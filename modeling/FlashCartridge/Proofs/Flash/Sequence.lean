import FlashCartridge.Proofs.Flash.Command
import FlashCartridge.Proofs.Flash.Device

/-!
# Command sequences

What complete command sequences do to a chip and its array: the unlock writes, a reset, the setup
commands, the erasure of a sector, and the programming of a page. Together they replace a page in an
erased sector, from any state of the chip.
-/

namespace FlashCartridge
namespace Flash

/-- The place of a byte of a page. -/
def Page.address (page : Page) (offset : Fin pageSize) : Address :=
  ⟨page.start + offset.val, page.start_add_lt offset⟩

@[simp]
theorem Page.page_address (page : Page) (offset : Fin pageSize) :
    (page.address offset).page = page := by
  have := offset.isLt
  simp only [Address.page, Page.address, Page.start, Fin.ext_iff, pageSize] at *
  omega

@[simp]
theorem Page.pageOffset_address (page : Page) (offset : Fin pageSize) :
    (page.address offset).pageOffset = offset := by
  have := offset.isLt
  simp only [Address.pageOffset, Page.address, Page.start, Fin.ext_iff, pageSize] at *
  omega

/-! ## The sequences -/

namespace Access

/-- Both unlock writes. -/
def unlock : List Access := [.write unlockAddress1 0xAA, .write unlockAddress2 0x55]

/-- A command behind both unlock writes. -/
def command (byte : UInt8) : List Access := unlock ++ [.write unlockAddress1 byte]

/-- The erasure of the sector that starts at an address, behind the erase setup command. -/
def eraseSector (start : Address) : List Access := unlock ++ [.write start 0x30]

/-- Bytes for some places of a page. -/
def collect (page : Page) (data : Fin pageSize → UInt8) (offsets : List (Fin pageSize)) :
    List Access :=
  offsets.map fun offset => .write (page.address offset) (data offset)

/-- A whole page, its commit, and the acknowledgement of that, behind the program command. -/
def programPage (page : Page) (data : Fin pageSize → UInt8) : List Access :=
  collect page data (List.finRange pageSize) ++
    [.write (page.address lastOffset) 0x00, .write (page.address lastOffset) 0xF0]

/-- The erasure of a sector, and the programming of a page. -/
def replacePage (start : Address) (page : Page) (data : Fin pageSize → UInt8) : List Access :=
  command 0xF0 ++ (command 0x80 ++ eraseSector start) ++ command 0xF0 ++
    (command 0xA0 ++ programPage page data)

end Access

/-! ## The page buffer -/

namespace PageBuffer

variable (page : Page) (data : Fin pageSize → UInt8)

/-- The buffer after bytes for some places were collected. -/
def collect (offsets : List (Fin pageSize)) (buffer : PageBuffer) : PageBuffer :=
  offsets.foldl (fun collected offset => collected.put page offset (data offset)) buffer

theorem get_data_collect_of_not_mem {offsets : List (Fin pageSize)} {place : Fin pageSize}
    (other : place ∉ offsets) (buffer : PageBuffer) :
    (buffer.collect page data offsets).data.get place = buffer.data.get place := by
  induction offsets generalizing buffer with
  | nil => rfl
  | cons offset rest ih =>
      rw [List.mem_cons, not_or] at other
      obtain ⟨different, later⟩ := other
      rw [collect, List.foldl_cons, ← collect, ih later, put, Memory.get_set,
        if_neg (Ne.symm different)]

theorem get_data_collect {offsets : List (Fin pageSize)} {place : Fin pageSize}
    (member : place ∈ offsets) (buffer : PageBuffer) :
    (buffer.collect page data offsets).data.get place = data place := by
  induction offsets generalizing buffer with
  | nil => contradiction
  | cons offset rest ih =>
      rw [collect, List.foldl_cons, ← collect]
      by_cases later : place ∈ rest
      · exact ih later _
      · obtain rfl : place = offset := (List.mem_cons.mp member).resolve_right later
        rw [get_data_collect_of_not_mem page data later, put, Memory.get_set_self]

theorem page?_collect {offsets : List (Fin pageSize)} {buffer : PageBuffer}
    (chosen : offsets ≠ [] ∨ buffer.page? = some page) :
    (buffer.collect page data offsets).page? = some page := by
  induction offsets generalizing buffer with
  | nil => exact chosen.resolve_left (· rfl)
  | cons offset rest ih => exact ih (.inr rfl)

theorem lastWritten_collect {offsets : List (Fin pageSize)} {buffer : PageBuffer}
    (written : lastOffset ∈ offsets ∨ buffer.lastWritten = true) :
    (buffer.collect page data offsets).lastWritten = true := by
  induction offsets generalizing buffer with
  | nil => simpa [collect] using written
  | cons offset rest ih =>
      apply ih
      rcases written with member | before
      · rcases List.mem_cons.mp member with here | later
        · exact .inr (by simp [put, here])
        · exact .inl later
      · exact .inr (by simp [put, before])

/-- What a commit merges into the array after all bytes of a page were collected. The byte that
triggers the commit replaces the last one. -/
def programmed : Memory pageSize :=
  (empty.collect page data (List.finRange pageSize)).data.set lastOffset 0x00

theorem get_programmed (place : Fin pageSize) :
    (programmed page data).get place = if place = lastOffset then 0x00 else data place := by
  rw [programmed, Memory.get_set, get_data_collect page data (List.mem_finRange place)]
  simp only [eq_comm]

end PageBuffer

/-! ## Their effect -/

namespace Device

open Access

variable {chip : Chip} {array : FlashArray}

theorem perform_write {address : Address} {byte : UInt8} {action : Action}
    (decided : chip.action address byte = action) :
    perform (.write address byte) ⟨chip, array⟩ = ⟨chip.perform action, action.apply array⟩ := by
  rw [perform, write, Chip.accept, decided]

theorem run_unlock (unarmed : chip.state ≠ .eraseArmed) :
    run unlock ⟨chip, array⟩ = ⟨{ chip with state := .unlocked }, array⟩ := by
  have first : chip.action unlockAddress1 0xAA = .unlock .unlocking := by
    rw [Chip.action_of_firstUnlock ⟨rfl, rfl⟩, if_neg unarmed]
  rw [unlock, run, perform_write first]
  rfl

/-- Behind the erase setup command, the unlock writes lead on to the choice of an erasure. -/
theorem run_unlock_of_eraseArmed (armed : chip.state = .eraseArmed) :
    run unlock ⟨chip, array⟩ = ⟨{ chip with state := .eraseUnlocked }, array⟩ := by
  have first : chip.action unlockAddress1 0xAA = .unlock .eraseUnlocking := by
    rw [Chip.action_of_firstUnlock ⟨rfl, rfl⟩, if_pos armed]
  rw [unlock, run, perform_write first]
  rfl

theorem run_reset (unarmed : chip.state ≠ .eraseArmed) :
    run (command 0xF0) ⟨chip, array⟩ = ⟨{ chip with state := .idle, erase := {} }, array⟩ := by
  rw [command, run_append, run_unlock unarmed]
  rfl

/-- Behind the erase setup command, a reset is taken for an unknown erasure. It returns to idle, and
keeps the erase flags. -/
theorem run_reset_of_eraseArmed (armed : chip.state = .eraseArmed) :
    run (command 0xF0) ⟨chip, array⟩ = ⟨{ chip with state := .idle }, array⟩ := by
  rw [command, run_append, run_unlock_of_eraseArmed armed]
  rfl

theorem exists_run_reset (chip : Chip) (array : FlashArray) :
    ∃ erase, run (command 0xF0) ⟨chip, array⟩ = ⟨{ chip with state := .idle, erase }, array⟩ := by
  by_cases armed : chip.state = .eraseArmed
  · exact ⟨chip.erase, run_reset_of_eraseArmed armed⟩
  · exact ⟨{}, run_reset armed⟩

theorem run_armErase (unarmed : chip.state ≠ .eraseArmed)
    (allowed : chip.master.allowArming = true) :
    run (command 0x80) ⟨chip, array⟩ =
      ⟨{ chip with state := .eraseArmed, buffer := .empty }, array⟩ := by
  have arm : ({ chip with state := .unlocked } : Chip).action unlockAddress1 0x80 = .armErase :=
    if_pos allowed
  rw [command, run_append, run_unlock unarmed, run, perform_write arm]
  rfl

theorem run_armProgram (unarmed : chip.state ≠ .eraseArmed)
    (allowed : chip.master.allowArming = true) :
    run (command 0xA0) ⟨chip, array⟩ =
      ⟨{ chip with state := .programming, buffer := .empty }, array⟩ := by
  have arm : ({ chip with state := .unlocked } : Chip).action unlockAddress1 0xA0 = .armProgram :=
    if_pos allowed
  rw [command, run_append, run_unlock unarmed, run, perform_write arm]
  rfl

theorem run_eraseSector (armed : chip.state = .eraseArmed) {start : Address}
    (aligned : start.isSectorStart = true) :
    run (eraseSector start) ⟨chip, array⟩ =
        ⟨{ chip with state := .idle, erase := { chip.erase with sector := true } },
          Action.apply (.eraseSector start.sector) array⟩ ∧
      modified (eraseSector start) ⟨chip, array⟩ = true := by
  have erase : ({ chip with state := .eraseUnlocked } : Chip).action start 0x30 =
      .eraseSector start.sector := Chip.action_eraseSector rfl aligned
  constructor
  · rw [eraseSector, run_append, run_unlock_of_eraseArmed armed, run, perform_write erase]
    rfl
  · rw [eraseSector, modified_append, run_unlock_of_eraseArmed armed, modified, modifies, erase]
    simp [Action.modifies]

/-! ### Programming a page -/

variable {page : Page} {data : Fin pageSize → UInt8}

theorem action_collect (programming : chip.state = .programming)
    (chosen : chip.buffer.page? = none ∨ chip.buffer.page? = some page) {offset : Fin pageSize}
    {byte : UInt8} (plain : ¬ IsUnlock (page.address offset) byte)
    (incomplete : ¬ (offset = lastOffset ∧ chip.buffer.lastWritten = true ∧ byte = 0)) :
    chip.action (page.address offset) byte = .collect page offset byte := by
  rw [Chip.action_of_not_unlock plain]
  rcases chosen with fresh | same
  · simp [programming, Chip.programAction, fresh, incomplete]
  · simp [programming, Chip.programAction, same, incomplete]

/-- Bytes for different places of a page end up in the buffer, as long as the last byte of the page
was not written before. -/
theorem run_collect {offsets : List (Fin pageSize)} (distinct : offsets.Nodup)
    (plain : ∀ offset ∈ offsets, ¬ IsUnlock (page.address offset) (data offset))
    (programming : chip.state = .programming)
    (chosen : chip.buffer.page? = none ∨ chip.buffer.page? = some page)
    (unwritten : chip.buffer.lastWritten = true → lastOffset ∉ offsets) :
    run (collect page data offsets) ⟨chip, array⟩ =
      ⟨{ chip with buffer := chip.buffer.collect page data offsets }, array⟩ := by
  induction offsets generalizing chip with
  | nil => rfl
  | cons offset rest ih =>
      obtain ⟨fresh, distinct⟩ := List.nodup_cons.mp distinct
      obtain ⟨plainHere, plain⟩ := List.forall_mem_cons.mp plain
      have incomplete : ¬ (offset = lastOffset ∧ chip.buffer.lastWritten = true ∧
          data offset = 0) := by
        rintro ⟨rfl, written, _⟩
        exact unwritten written List.mem_cons_self
      rw [collect, List.map_cons, ← collect, run,
        perform_write (action_collect programming chosen plainHere incomplete)]
      refine ih distinct plain programming (.inr rfl) ?_
      intro written member
      simp only [Chip.perform, PageBuffer.put, Bool.or_eq_true, decide_eq_true_eq] at written
      rcases written with before | here
      · exact unwritten before (List.mem_cons_of_mem _ member)
      · exact fresh (here ▸ member)

theorem action_commit (programming : chip.state = .programming)
    (chosen : chip.buffer.page? = some page) (written : chip.buffer.lastWritten = true) :
    chip.action (page.address lastOffset) 0x00 =
      .commit page (chip.buffer.data.set lastOffset 0x00) := by
  rw [Chip.action_of_not_unlock (not_isUnlock_zero _)]
  simp [programming, Chip.programAction, chosen, written]

theorem action_acknowledgeCommit (committed : chip.state = .committed)
    (chosen : chip.buffer.page? = some page) :
    chip.action (page.address lastOffset) 0xF0 = .acknowledgeCommit := by
  rw [Chip.action_of_not_unlock (not_isUnlock_of_byte (by decide) (by decide) _)]
  simp [committed, Chip.isCommitAcknowledgement, chosen]

theorem run_programPage (programming : chip.state = .programming) (fresh : chip.buffer = .empty)
    (plain : ∀ offset, ¬ IsUnlock (page.address offset) (data offset)) :
    run (programPage page data) ⟨chip, array⟩ =
      ⟨{ chip with
          state := .idle, buffer := ⟨PageBuffer.programmed page data, some page, true⟩ },
        Action.apply (.commit page (PageBuffer.programmed page data)) array⟩ := by
  let filled := PageBuffer.empty.collect page data (List.finRange pageSize)
  have collected : run (collect page data (List.finRange pageSize)) ⟨chip, array⟩ =
      ⟨{ chip with buffer := filled }, array⟩ := by
    rw [run_collect (List.nodup_finRange _) (fun offset _ => plain offset) programming
      (.inl (by rw [fresh]; rfl)) (fun written => by simp [fresh, PageBuffer.empty] at written),
      fresh]
  have chosen : filled.page? = some page :=
    PageBuffer.page?_collect page data (.inl (by decide))
  have written : filled.lastWritten = true :=
    PageBuffer.lastWritten_collect page data (.inl (List.mem_finRange _))
  have commit : ({ chip with buffer := filled } : Chip).action (page.address lastOffset) 0x00 =
      .commit page (PageBuffer.programmed page data) := action_commit programming chosen written
  rw [programPage, run_append, collected, run, perform_write commit, run,
    perform_write (action_acknowledgeCommit rfl rfl)]
  rfl

/-! ### Replacing a page -/

/-- A page that is programmed into its erased sector holds what was programmed, and the rest of the
sector stays erased. -/
theorem get_replacePage {sector : Sector}
    (inSector : ∀ place : Address, place.page = page → place.sector = sector) (place : Address) :
    (Action.apply (.commit page (PageBuffer.programmed page data))
        (Action.apply (.eraseSector sector) array)).get place =
      if place.page = page then
        if place.pageOffset = lastOffset then 0x00 else data place.pageOffset
      else if place.sector = sector then 0xFF
      else array.get place := by
  rw [Action.get_apply_commit, Action.get_apply_eraseSector, PageBuffer.get_programmed]
  by_cases within : place.page = page
  · rw [if_pos within, if_pos within, if_pos (inSector place within)]
    exact UInt8.neg_one_and
  · rw [if_neg within, if_neg within]

/-- Whatever the chip was doing before, it ends up idle without erase flags, the sector is erased,
and the page is programmed. -/
theorem run_replacePage (allowed : chip.master.allowArming = true) {start : Address}
    (aligned : start.isSectorStart = true)
    (plain : ∀ offset, ¬ IsUnlock (page.address offset) (data offset)) :
    run (replacePage start page data) ⟨chip, array⟩ =
        ⟨{ chip with
            state := .idle, erase := {},
            buffer := ⟨PageBuffer.programmed page data, some page, true⟩ },
          Action.apply (.commit page (PageBuffer.programmed page data))
            (Action.apply (.eraseSector start.sector) array)⟩ ∧
      modified (replacePage start page data) ⟨chip, array⟩ = true := by
  have idle : CommandState.idle ≠ .eraseArmed := by decide
  obtain ⟨erase, reset⟩ := exists_run_reset chip array
  have armErase : run (command 0x80) ⟨{ chip with state := .idle, erase }, array⟩ =
      ⟨{ chip with state := .eraseArmed, erase, buffer := .empty }, array⟩ :=
    run_armErase idle allowed
  obtain ⟨erased, modifies⟩ := @run_eraseSector
    { chip with state := .eraseArmed, erase, buffer := .empty } array rfl start aligned
  have resetErased : run (command 0xF0)
      ⟨{ chip with state := .idle, erase := { erase with sector := true }, buffer := .empty },
        Action.apply (.eraseSector start.sector) array⟩ =
      ⟨{ chip with state := .idle, erase := {}, buffer := .empty },
        Action.apply (.eraseSector start.sector) array⟩ := run_reset idle
  have armProgram : run (command 0xA0)
      ⟨{ chip with state := .idle, erase := {}, buffer := .empty },
        Action.apply (.eraseSector start.sector) array⟩ =
      ⟨{ chip with state := .programming, erase := {}, buffer := .empty },
        Action.apply (.eraseSector start.sector) array⟩ := run_armProgram idle allowed
  constructor
  · simp only [replacePage, run_append, reset, armErase, erased, resetErased, armProgram]
    exact run_programPage rfl rfl plain
  · simp only [replacePage, modified_append, run_append, reset, armErase, modifies, Bool.or_true,
      Bool.true_or]

end Device
end Flash
end FlashCartridge
