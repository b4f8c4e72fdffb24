import FlashCartridge.Proofs.Flash.Device
import FlashCartridge.Proofs.Flash.Protocol

/-!
# Only complete command chains modify the array

Each state of the command interpreter stands for what the latest writes were. The trail of a chip
says so for every state, and it is kept by every access. A write that modifies the array is then
seen to end a complete chain: both unlock writes and an accepted setup command, followed by both
unlock writes and an erase command, or by the bytes of a page whose last byte is written twice.
-/

namespace FlashCartridge
namespace Flash

/-- Both unlock writes. -/
def Unlocks (writes : List Write) : Prop :=
  ∃ first second : Write, writes = [first, second] ∧
    IsFirstUnlock first.address first.byte ∧ IsSecondUnlock second.address second.byte

/-- Both unlock writes and a setup command, which met a clear enable bit and a set write enable
bit. -/
def Arms (command : UInt8) (writes : List Write) : Prop :=
  ∃ (unlock : List Write) (setup : Write), writes = unlock ++ [setup] ∧ Unlocks unlock ∧
    setup.address = unlockAddress1 ∧ setup.byte = command ∧
    setup.master.writeEnabled = true ∧ setup.master.enabled = false

/-- The chains of writes that modify the array. -/
inductive Chain : List Write → Prop
  /-- The whole array is erased. -/
  | eraseChip {setup unlock : List Write} {last : Write} (arms : Arms 0x80 setup)
      (unlocks : Unlocks unlock) (place : last.address = unlockAddress1)
      (command : last.byte = 0x10) :
      Chain (setup ++ unlock ++ [last])
  /-- One sector is erased. -/
  | eraseSector {setup unlock : List Write} {last : Write} (arms : Arms 0x80 setup)
      (unlocks : Unlocks unlock) (start : last.address.val % sectorSize = 0)
      (command : last.byte = 0x30) :
      Chain (setup ++ unlock ++ [last])
  /-- One page is programmed. The first write chooses the page, and a second write to its last
  byte commits it. -/
  | program {setup middle : List Write} {first last : Write} (arms : Arms 0xA0 setup)
      (plain : ∀ write ∈ first :: middle ++ [last], ¬ IsUnlock write.address write.byte)
      (page : first.address.page = last.address.page)
      (offset : last.address.val % pageSize = 0x7F) (zero : last.byte = 0x00)
      (earlier : ∃ write ∈ first :: middle, write.address = last.address) :
      Chain (setup ++ (first :: middle ++ [last]))

/-- What a page buffer owes to the writes since the program command. -/
structure Collects (writes : List Write) (buffer : PageBuffer) : Prop where
  /-- No write was an unlock write. -/
  plain : ∀ write ∈ writes, ¬ IsUnlock write.address write.byte
  /-- The first write has chosen the page. -/
  page : buffer.page? = writes.head?.map (·.address.page)
  /-- The last byte of that page was written if the buffer says so. -/
  last : buffer.lastWritten = true →
    ∃ write ∈ writes, buffer.page? = some write.address.page ∧
      write.address.pageOffset = lastOffset

/-- What the latest writes were, by the state of the chip. -/
def Trail (writes : List Write) (chip : Chip) : Prop :=
  match chip.state with
  | .idle | .committed => True
  | .unlocking => ∃ first : Write, IsFirstUnlock first.address first.byte ∧ [first] <:+ writes
  | .unlocked => ∃ unlock, Unlocks unlock ∧ unlock <:+ writes
  | .eraseArmed => ∃ setup, Arms 0x80 setup ∧ setup <:+ writes
  | .eraseUnlocking => ∃ (setup : List Write) (first : Write), Arms 0x80 setup ∧
      IsFirstUnlock first.address first.byte ∧ setup ++ [first] <:+ writes
  | .eraseUnlocked => ∃ setup unlock, Arms 0x80 setup ∧ Unlocks unlock ∧
      setup ++ unlock <:+ writes
  | .programming => ∃ setup collected, Arms 0xA0 setup ∧ Collects collected chip.buffer ∧
      setup ++ collected <:+ writes

theorem suffix_snoc {recent writes : List Write} (recent_suffix : recent <:+ writes)
    (write : Write) : recent ++ [write] <:+ writes ++ [write] := by
  obtain ⟨front, rfl⟩ := recent_suffix
  exact ⟨front, by rw [List.append_assoc]⟩

namespace Collects

variable {writes : List Write} {buffer : PageBuffer}

theorem put (collects : Collects writes buffer) (write : Write)
    (plain : ¬ IsUnlock write.address write.byte)
    (chosen : buffer.page? = none ∨ buffer.page? = some write.address.page) :
    Collects (writes ++ [write])
      (buffer.put write.address.page write.address.pageOffset write.byte) where
  plain := List.forall_mem_append.mpr ⟨collects.plain, List.forall_mem_singleton.mpr plain⟩
  page := by
    rcases chosen with none_chosen | same
    · have page := collects.page
      rw [none_chosen] at page
      cases writes with
      | nil => rfl
      | cons => simp at page
    · have page := collects.page
      rw [same] at page
      cases writes with
      | nil => rfl
      | cons => simpa [PageBuffer.put] using page
  last := by
    intro written
    simp only [PageBuffer.put, Bool.or_eq_true, decide_eq_true_eq] at written ⊢
    rcases written with before | now
    · obtain ⟨other, member, page, offset⟩ := collects.last before
      rcases chosen with none_chosen | same
      · rw [none_chosen] at page
        contradiction
      · exact ⟨other, List.mem_append_left _ member, same ▸ page, offset⟩
    · exact ⟨write, by simp, rfl, now⟩

theorem drop (collects : Collects writes buffer) (write : Write)
    (plain : ¬ IsUnlock write.address write.byte) {current : Page}
    (chosen : buffer.page? = some current) : Collects (writes ++ [write]) buffer where
  plain := List.forall_mem_append.mpr ⟨collects.plain, List.forall_mem_singleton.mpr plain⟩
  page := by
    have page := collects.page
    cases writes with
    | nil =>
        rw [chosen] at page
        contradiction
    | cons => simpa using page
  last := by
    intro written
    obtain ⟨other, member, page, offset⟩ := collects.last written
    exact ⟨other, List.mem_append_left _ member, page, offset⟩

end Collects

namespace Trail

variable {writes : List Write} {chip : Chip} {address : Address}

/-- The control bits are no part of the trail. -/
theorem congr {other : Chip} (trail : Trail writes chip) (state : other.state = chip.state)
    (buffer : other.buffer = chip.buffer) : Trail writes other := by
  rw [Trail, state, buffer]
  exact trail

theorem unlocking (trail : Trail writes chip) (state : chip.state = .unlocking) :
    ∃ first : Write, IsFirstUnlock first.address first.byte ∧ [first] <:+ writes := by
  simpa only [Trail, state] using trail

theorem unlocked (trail : Trail writes chip) (state : chip.state = .unlocked) :
    ∃ unlock, Unlocks unlock ∧ unlock <:+ writes := by
  simpa only [Trail, state] using trail

theorem eraseArmed (trail : Trail writes chip) (state : chip.state = .eraseArmed) :
    ∃ setup, Arms 0x80 setup ∧ setup <:+ writes := by
  simpa only [Trail, state] using trail

theorem eraseUnlocking (trail : Trail writes chip) (state : chip.state = .eraseUnlocking) :
    ∃ (setup : List Write) (first : Write), Arms 0x80 setup ∧
      IsFirstUnlock first.address first.byte ∧ setup ++ [first] <:+ writes := by
  simpa only [Trail, state] using trail

theorem eraseUnlocked (trail : Trail writes chip) (state : chip.state = .eraseUnlocked) :
    ∃ setup unlock, Arms 0x80 setup ∧ Unlocks unlock ∧ setup ++ unlock <:+ writes := by
  simpa only [Trail, state] using trail

theorem programming (trail : Trail writes chip) (state : chip.state = .programming) :
    ∃ setup collected, Arms 0xA0 setup ∧ Collects collected chip.buffer ∧
      setup ++ collected <:+ writes := by
  simpa only [Trail, state] using trail

theorem of_programming {setup collected : List Write} (state : chip.state = .programming)
    (arms : Arms 0xA0 setup) (collects : Collects collected chip.buffer)
    (recent : setup ++ collected <:+ writes) : Trail writes chip := by
  rw [Trail, state]
  exact ⟨setup, collected, arms, collects, recent⟩

/-- A setup command that the control bits accept completes the unlock writes to a setup. -/
theorem arms (trail : Trail writes chip) (byte : UInt8) (state : chip.state = .unlocked)
    (place : address = unlockAddress1) (allowed : chip.master.allowArming = true) :
    ∃ setup, Arms byte setup ∧ setup <:+ writes ++ [⟨address, byte, chip.master⟩] := by
  obtain ⟨unlock, unlocks, recent⟩ := trail.unlocked state
  have bits : chip.master.writeEnabled = true ∧ chip.master.enabled = false := by
    simpa [MasterBits.allowArming] using allowed
  exact ⟨unlock ++ [⟨address, byte, chip.master⟩],
    ⟨unlock, _, rfl, unlocks, place, rfl, bits.1, bits.2⟩, suffix_snoc recent _⟩

theorem accept (trail : Trail writes chip) (address : Address) (byte : UInt8) :
    Trail (writes ++ [⟨address, byte, chip.master⟩]) (chip.accept address byte) := by
  have means := chip.action_means address byte
  rw [Chip.accept]
  generalize chip.action address byte = action at means ⊢
  cases means with
  | firstUnlock write =>
      exact ⟨⟨address, byte, chip.master⟩, write, List.suffix_append _ _⟩
  | firstEraseUnlock write state =>
      obtain ⟨setup, arms, recent⟩ := trail.eraseArmed state
      exact ⟨setup, ⟨address, byte, chip.master⟩, arms, write, suffix_snoc recent _⟩
  | secondUnlock write state =>
      obtain ⟨first, unlock, recent⟩ := trail.unlocking state
      exact ⟨_, ⟨first, ⟨address, byte, chip.master⟩, rfl, unlock, write⟩, suffix_snoc recent _⟩
  | secondEraseUnlock write state =>
      obtain ⟨setup, first, arms, unlock, recent⟩ := trail.eraseUnlocking state
      refine ⟨setup, [first, ⟨address, byte, chip.master⟩], arms,
        ⟨first, _, rfl, unlock, write⟩, ?_⟩
      simpa using suffix_snoc recent ⟨address, byte, chip.master⟩
  | armProgram state place command allowed =>
      obtain ⟨setup, arms, recent⟩ := trail.arms byte state place allowed
      have blank : Collects [] PageBuffer.empty := ⟨by simp, rfl, by simp [PageBuffer.empty]⟩
      refine ⟨setup, [], command ▸ arms, blank, ?_⟩
      simpa using recent
  | armErase state place command allowed =>
      obtain ⟨setup, arms, recent⟩ := trail.arms byte state place allowed
      exact ⟨setup, command ▸ arms, recent⟩
  | otherPage current state other chosen different =>
      obtain ⟨setup, collected, arms, collects, recent⟩ := trail.programming state
      have dropped := collects.drop ⟨address, byte, chip.master⟩ other chosen
      refine of_programming state arms dropped ?_
      simpa using suffix_snoc recent ⟨address, byte, chip.master⟩
  | collect state other chosen incomplete =>
      obtain ⟨setup, collected, arms, collects, recent⟩ := trail.programming state
      have put := collects.put ⟨address, byte, chip.master⟩ other chosen
      refine of_programming state arms put ?_
      simpa using suffix_snoc recent ⟨address, byte, chip.master⟩
  | ignore state => simp [Trail, Chip.perform, state]
  -- The remaining actions lead to a state that says nothing about the latest writes.
  | _ => exact trivial

theorem run (trail : Trail writes chip) (accesses : List Access) (array : FlashArray) :
    Trail (writes ++ Device.history accesses ⟨chip, array⟩)
      (Device.run accesses ⟨chip, array⟩).chip := by
  induction accesses generalizing writes chip array with
  | nil =>
      rw [Device.history, List.append_nil]
      exact trail
  | cons access rest ih =>
      rw [Device.history, ← List.append_assoc]
      cases access with
      | write address byte => exact ih (trail.accept address byte) _
      | enable byte =>
          rw [Device.written, List.append_nil]
          exact ih (trail.congr (chip.state_storeEnable byte) (chip.buffer_storeEnable byte)) array
      | writeEnable byte =>
          rw [Device.written, List.append_nil]
          exact ih (trail.congr (chip.state_storeWriteEnable byte)
            (chip.buffer_storeWriteEnable byte)) array

end Trail

/-- A write that modifies the array ends a complete chain of the writes before it. -/
theorem Trail.chain {writes : List Write} {chip : Chip} (trail : Trail writes chip)
    {address : Address} {byte : UInt8} (modifies : (chip.action address byte).modifies = true) :
    ∃ chain, Chain chain ∧ chain <:+ writes ++ [⟨address, byte, chip.master⟩] := by
  have means := chip.action_means address byte
  generalize chip.action address byte = action at means modifies
  cases means with
  | eraseChip state place command =>
      obtain ⟨setup, unlock, arms, unlocks, recent⟩ := trail.eraseUnlocked state
      exact ⟨_, .eraseChip arms unlocks place command, suffix_snoc recent _⟩
  | eraseSector state start command =>
      obtain ⟨setup, unlock, arms, unlocks, recent⟩ := trail.eraseUnlocked state
      have aligned : address.val % sectorSize = 0 := by
        simpa [Address.isSectorStart] using start
      exact ⟨_, .eraseSector arms unlocks aligned command, suffix_snoc recent _⟩
  | commit state chosen last again zero =>
      obtain ⟨setup, collected, arms, collects, recent⟩ := trail.programming state
      subst zero
      obtain ⟨earlier, member, page, offset⟩ := collects.last again
      have same : earlier.address.page = address.page := by
        rw [page] at chosen
        simpa using chosen
      cases collected with
      | nil => contradiction
      | cons first middle =>
          have first_page : first.address.page = address.page := by
            have chosen_first := collects.page
            rw [page, same] at chosen_first
            exact (Option.some.inj chosen_first).symm
          let commit : Write := ⟨address, 0x00, chip.master⟩
          have plain : ∀ write ∈ first :: middle ++ [commit],
              ¬ IsUnlock write.address write.byte :=
            List.forall_mem_append.mpr
              ⟨collects.plain, List.forall_mem_singleton.mpr (not_isUnlock_zero address)⟩
          refine ⟨_, .program arms plain first_page (congrArg Fin.val last) rfl ?_, ?_⟩
          · exact ⟨earlier, member, Address.ext_page same (offset.trans last.symm)⟩
          · simpa using suffix_snoc recent commit
  | _ => simp [Action.modifies] at modifies

/-- Whatever was done with a fresh chip, a write that modifies the array ends a complete chain. -/
theorem exists_chain_of_modification (array : FlashArray) (front : List Access)
    (address : Address) (byte : UInt8)
    (modification :
      ((Device.run front ⟨.initial, array⟩).chip.action address byte).modifies = true ∨
        ∃ place, (Device.run (front ++ [.write address byte]) ⟨.initial, array⟩).array.get place ≠
          (Device.run front ⟨.initial, array⟩).array.get place) :
    ∃ chain, Chain chain ∧
      chain <:+ Device.history (front ++ [.write address byte]) ⟨.initial, array⟩ := by
  have fresh : Trail [] Chip.initial := trivial
  have trail := fresh.run front array
  have modifies :
      ((Device.run front ⟨.initial, array⟩).chip.action address byte).modifies = true := by
    rcases modification with modifies | ⟨place, changed⟩
    · exact modifies
    · rw [Device.run_append] at changed
      exact Device.modifies_of_get_ne changed
  rw [Device.history_append]
  exact trail.chain modifies

/-- The erasure of a sector in an array of zeros ends a complete chain. -/
theorem exists_chain_of_sector_erasure :
    let array : FlashArray := Memory.replicate size 0x00
    let front : List Access :=
      [.writeEnable 1, .write unlockAddress1 0xAA, .write unlockAddress2 0x55,
        .write unlockAddress1 0x80, .write unlockAddress1 0xAA, .write unlockAddress2 0x55]
    let sector : Address := ⟨0x2000, by decide⟩
    ((Device.run front ⟨.initial, array⟩).chip.action sector 0x30).modifies = true ∧
      ∃ chain, Chain chain ∧
        chain <:+ Device.history (front ++ [.write sector 0x30]) ⟨.initial, array⟩ :=
  ⟨rfl, exists_chain_of_modification _ _ _ _ (.inl rfl)⟩

end Flash
end FlashCartridge
