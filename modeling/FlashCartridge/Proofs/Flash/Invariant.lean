import FlashCartridge.Proofs.Flash.Sequence

/-!
# What holds in every state of the chip

The page buffer is tied to the state of the chip. Without a chosen page it is empty, and so it is as
long as an erasure is prepared: what an abandoned program has left behind is dropped before anything
else is collected. Behind a commit, the array has lost every bit of the page that the buffer lacks,
and there is a write that acknowledges the commit. The enable bit is tied to the identification.
Every access keeps all of this, whatever the chip is doing, so it holds in every state that is
reached from power on.
-/

namespace FlashCartridge
namespace Flash

/-- An erasure is prepared: the erase setup command was accepted, and it was not abandoned since. -/
def CommandState.preparesErasure : CommandState → Bool
  | .eraseArmed | .eraseUnlocking | .eraseUnlocked => true
  | _ => false

namespace Device

/-- A page was committed, and its bytes have reached the array. -/
structure Committed (page : Page) (device : Device) : Prop where
  /-- The buffer still belongs to the page. -/
  chosen : device.chip.buffer.page? = some page
  /-- The last byte was written before the write that has committed the page. -/
  lastWritten : device.chip.buffer.lastWritten = true
  /-- That write has left a zero in the buffer. -/
  lastCollected : device.chip.buffer.data.get lastOffset = 0x00
  /-- The zero has reached the array. -/
  lastStored : device.array.get (page.address lastOffset) = 0x00
  /-- A bit of the page that is set in the array is set in the buffer. -/
  merged : ∀ offset,
    device.array.get (page.address offset) &&& device.chip.buffer.data.get offset =
      device.array.get (page.address offset)

/-- What every access keeps. -/
structure WellFormed (device : Device) : Prop where
  /-- Without a chosen page, nothing is collected. -/
  blank : device.chip.buffer.page? = none → device.chip.buffer = .empty
  /-- While an erasure is prepared, nothing is collected. -/
  erasing : device.chip.state.preparesErasure = true → device.chip.buffer = .empty
  /-- While a commit waits for its acknowledgement, the page has reached the array. -/
  committed : device.chip.state = .committed → ∃ page, device.Committed page
  /-- The enable bit can only be set once the chip was identified. -/
  identified : device.chip.master.enabled = true → device.chip.identified = true

end Device

/-! ## The page buffer -/

namespace Chip

variable {chip : Chip} {address : Address} {byte : UInt8}

theorem buffer_perform_of_page?_eq_none (blank : chip.buffer.page? = none → chip.buffer = .empty)
    {action : Action} (unchosen : (chip.perform action).buffer.page? = none) :
    (chip.perform action).buffer = .empty := by
  cases action with
  | armProgram | armErase | rejectCommand => rfl
  | collect page offset byte => contradiction
  | commit page data => contradiction
  | _ => exact blank unchosen

/-- The erase setup command empties the buffer, and no write that keeps the erasure prepared
collects anything. -/
theorem buffer_accept_of_preparesErasure
    (erasing : chip.state.preparesErasure = true → chip.buffer = .empty)
    (prepares : (chip.accept address byte).state.preparesErasure = true) :
    (chip.accept address byte).buffer = .empty := by
  have means := chip.action_means address byte
  rw [accept] at prepares ⊢
  generalize chip.action address byte = action at means prepares ⊢
  cases means with
  | armErase => rfl
  | firstEraseUnlock _ state => exact erasing (by rw [state]; rfl)
  | secondEraseUnlock _ state => exact erasing (by rw [state]; rfl)
  -- These writes leave the state as it is, and it prepares no erasure.
  | otherPage _ state => simp [perform, state, CommandState.preparesErasure] at prepares
  | collect state => simp [perform, state, CommandState.preparesErasure] at prepares
  | ignore state => simp [perform, state, CommandState.preparesErasure] at prepares
  | _ => contradiction

end Chip

namespace Device

/-! ## Commits -/

theorem committed_commit (chip : Chip) (array : FlashArray) (page : Page)
    {data : Memory pageSize} (last : data.get lastOffset = 0x00) :
    Committed page ⟨chip.perform (.commit page data), Action.apply (.commit page data) array⟩ where
  chosen := rfl
  lastWritten := rfl
  lastCollected := last
  lastStored := by
    rw [Action.get_apply_commit, if_pos (page.page_address _), page.pageOffset_address, last]
    exact UInt8.and_zero
  merged offset := by
    rw [Action.get_apply_commit, if_pos (page.page_address _), page.pageOffset_address]
    change _ &&& data.get offset &&& data.get offset = _
    rw [UInt8.and_assoc, UInt8.and_self]

/-- The state behind a commit is entered by a commit only, and left by its acknowledgement or an
unlock write. -/
theorem exists_committed_write {device : Device} {address : Address} {byte : UInt8}
    (committed : device.chip.state = .committed → ∃ page, device.Committed page)
    (waits : (device.write address byte).chip.state = .committed) :
    ∃ page, (device.write address byte).Committed page := by
  have means := device.chip.action_means address byte
  rw [write, Chip.accept] at waits ⊢
  generalize device.chip.action address byte = action at means waits ⊢
  cases means with
  | commit _ _ _ _ zero =>
      refine ⟨address.page, committed_commit _ _ _ ?_⟩
      rw [Memory.get_set_self, zero]
  | ignore state => exact committed state
  | otherPage _ state => simp [Chip.perform, state] at waits
  | collect state => simp [Chip.perform, state] at waits
  | _ => contradiction

/-- A commit can always be acknowledged, and the array stays as it is. -/
theorem Committed.write_acknowledge {page : Page} {device : Device}
    (committed : device.Committed page) (waits : device.chip.state = .committed) :
    device.write (page.address lastOffset) 0xF0 =
      ⟨{ device.chip with state := .idle }, device.array⟩ :=
  perform_write (action_acknowledgeCommit waits committed.chosen)

/-! ## Accesses -/

/-- Only the chosen page is committed, with the bytes that were collected for it. -/
theorem WellFormed.of_commit {device : Device} (wellFormed : device.WellFormed) {address : Address}
    {byte : UInt8} {page : Page} {data : Memory pageSize}
    (commits : device.chip.action address byte = .commit page data) :
    device.chip.buffer.page? = some page ∧
      data = device.chip.buffer.data.set lastOffset 0x00 := by
  have means := device.chip.action_means address byte
  rw [commits] at means
  cases means with
  | commit state chosen last again zero =>
      refine ⟨chosen.resolve_left ?_, by rw [zero]⟩
      intro unchosen
      rw [wellFormed.blank unchosen] at again
      contradiction

theorem identified_perform_access {device : Device} (identified : device.chip.identified = true)
    (access : Access) : (device.perform access).chip.identified = true := by
  cases access with
  | write address byte => exact device.chip.identified_perform _ identified
  | enable byte => exact (device.chip.identified_storeEnable byte).trans identified
  | writeEnable byte => exact identified

theorem identified_run {device : Device} (identified : device.chip.identified = true)
    (accesses : List Access) : (run accesses device).chip.identified = true := by
  induction accesses generalizing device with
  | nil => exact identified
  | cons access rest ih => exact ih (identified_perform_access identified access)

theorem wellFormed_initial (array : FlashArray) : WellFormed ⟨.initial, array⟩ where
  blank _ := rfl
  erasing := nofun
  committed := nofun
  identified := nofun

namespace WellFormed

variable {device : Device}

theorem write (wellFormed : WellFormed device) (address : Address) (byte : UInt8) :
    WellFormed (device.write address byte) where
  blank := Chip.buffer_perform_of_page?_eq_none wellFormed.blank
  erasing := Chip.buffer_accept_of_preparesErasure wellFormed.erasing
  committed := exists_committed_write wellFormed.committed
  identified enabled := by
    have before : device.chip.master.enabled = true := by
      rwa [Device.write, Chip.accept, Chip.master_perform] at enabled
    exact identified_perform_access (wellFormed.identified before) (.write address byte)

/-- A store into a control bit: the state and the buffer stay as they are. -/
theorem control (wellFormed : WellFormed device) {chip : Chip}
    (state : chip.state = device.chip.state) (buffer : chip.buffer = device.chip.buffer)
    (identified : chip.master.enabled = true → chip.identified = true) :
    WellFormed ⟨chip, device.array⟩ where
  blank := by
    rw [buffer]
    exact wellFormed.blank
  erasing := by
    rw [state, buffer]
    exact wellFormed.erasing
  committed waits := by
    obtain ⟨page, chosen, lastWritten, lastCollected, lastStored, merged⟩ :=
      wellFormed.committed (state ▸ waits)
    rw [← buffer] at chosen lastWritten lastCollected merged
    exact ⟨page, chosen, lastWritten, lastCollected, lastStored, merged⟩
  identified := identified

theorem perform (wellFormed : WellFormed device) (access : Access) :
    WellFormed (device.perform access) := by
  cases access with
  | write address byte => exact wellFormed.write address byte
  | enable byte =>
      refine wellFormed.control (device.chip.state_storeEnable byte)
        (device.chip.buffer_storeEnable byte) ?_
      rw [Chip.identified_storeEnable]
      by_cases identified : device.chip.identified = true
      · exact fun _ => identified
      · rw [Chip.storeEnable, if_neg identified]
        exact wellFormed.identified
  | writeEnable byte => exact wellFormed.control rfl rfl wellFormed.identified

theorem run (wellFormed : WellFormed device) (accesses : List Access) :
    WellFormed (device.run accesses) := by
  induction accesses generalizing device with
  | nil => exact wellFormed
  | cons access rest ih => exact ih (wellFormed.perform access)

end WellFormed

end Device
end Flash
end FlashCartridge
