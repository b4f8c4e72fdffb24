import FlashCartridge.Proofs.Mbc6.Durability
import FlashCartridge.Proofs.Mbc6.SaveAccounting
import FlashCartridge.Proofs.Storage.SaveFile

/-!
# Power cycling loses nothing

A cartridge is used in sessions, from power on to power off, that share one save file. Within a
session the file keeps RAM and flash whenever the controller is clean. Powering off cleans the
controller unless its last save fails, so the next session starts from the memories that the last
one ended with, and from nothing else.
-/

namespace FlashCartridge
namespace Mbc6

open Storage

/-- What is done between power on and power off. -/
structure Session where
  /-- The bytes of the cartridge ROM. -/
  rom : ByteArray
  /-- The operations on the bus. -/
  operations : List Bus.Operation

/-- A session whose cartridge was powered on. -/
structure Played where
  /-- The session. -/
  session : Session
  /-- The disk before power on. -/
  disk : Disk
  /-- The controller after power on. -/
  start : Mbc6 DiskStore

namespace Played

/-- The controller before power off. -/
def final (played : Played) : Mbc6 DiskStore :=
  (Bus.run played.session.operations played.start).state

/-- The end of the session, with the store that it leaves. -/
def off (played : Played) : Reply (Option DiskStore) Unit := played.final.powerOff

/-- There was never anything to save. -/
def NeverDirty (played : Played) : Prop :=
  ∀ front, front <+: played.session.operations → (Bus.run front played.start).state.dirty = false

end Played

/-- Play sessions with one save file in turn, each on the disk that the one before it left. Nothing
more is played after a cartridge that cannot be powered on. -/
def play (file : SaveFile) : List Session → Disk → List Played
  | [], _ => []
  | session :: later, disk =>
    match (powerOnCartridge session.rom (some (⟨file, disk⟩ : DiskStore))).1 with
    | .error _ => []
    | .ok start =>
      let played : Played := ⟨session, disk, start⟩
      played ::
        match played.off.state with
        | none => []
        | some store => play file later store.disk

/-- Everything but the memories is as it has to be after power on. -/
structure AtPowerOn {σ : Type} (controller : Mbc6 σ) : Prop where
  ramDisabled : controller.registers.ramEnabled = false
  ramBanks : ∀ window, controller.registers.ramBank.get window = 0
  banks : ∀ window, (controller.registers.mapping.get window).bank = 0
  romShown : ∀ window, (controller.registers.mapping.get window).flash = false
  flashDisabled : controller.chip.master.enabled = false
  writeProtected : controller.chip.master.writeEnabled = false
  unidentified : controller.chip.identified = false
  chipNotErased : controller.chip.erase.chip = false
  sectorNotErased : controller.chip.erase.sector = false
  idle : controller.chip.state = .idle
  clean : controller.dirty = false

theorem atPowerOn_initial {σ : Type} (rom : Rom) (memory : SaveImage) (battery : Option σ) :
    AtPowerOn (initial rom memory battery) where
  ramDisabled := rfl
  ramBanks window := by cases window <;> rfl
  banks window := by cases window <;> rfl
  romShown window := by cases window <;> rfl
  flashDisabled := rfl
  writeProtected := rfl
  unidentified := rfl
  chipNotErased := rfl
  sectorNotErased := rfl
  idle := rfl
  clean := rfl

/-! ## One session -/

section Clean

variable {σ : Type} [SaveStore σ] {controller : Mbc6 σ}

theorem settledBattery_of_clean (clean : controller.dirty = false) :
    controller.settledBattery = controller.battery := by
  have idle : controller.due? = none := due?_eq_none_iff.mpr (.inl clean)
  rw [settledBattery, idle, Option.elim]

theorem battery_run_of_clean {operations : List Bus.Operation}
    (clean : ∀ front, front <+: operations → (Bus.run front controller).state.dirty = false) :
    (Bus.run operations controller).state.battery = controller.battery := by
  -- From the end of the run, since every shorter run is clean as well.
  induction operations using List.reverseRecOn with
  | nil => rfl
  | append_singleton front operation ih =>
      have before := ih fun shorter inside => clean shorter (inside.trans (List.prefix_append _ _))
      have cleanBefore := clean front (List.prefix_append _ _)
      have settled := (settle_perform operation (Bus.run front controller).state).2
      rw [settledBattery_of_clean cleanBefore, ite_self, before] at settled
      rw [Bus.run_append]
      exact settled

/-- Unless the last save fails, powering off a controller with a battery leaves nothing to save. -/
theorem dirty_flush_of_saved {store : σ} (battery : controller.battery = some store)
    (saved : ∀ image cause, .saveAttempt image (.error cause) ∉ controller.powerOff.events) :
    controller.flush.state.dirty = false := by
  by_contra notClean
  have dirtyAfter : controller.flush.state.dirty = true := by simpa using notClean
  obtain ⟨dirty, unsaved⟩ := (dirty_flush controller).mp dirtyAfter
  have attempts := dueAttempts_of_dirty battery dirty
  cases result : (SaveStore.save controller.memory store).result with
  | ok =>
      apply unsaved controller.memory
      simp [attempts, result]
  | error cause =>
      apply saved controller.memory cause
      rw [← Event.mem_attempts_iff, attempts_powerOff]
      simp [attempts, result]

end Clean

/-- The battery is the save file, which keeps RAM and flash whenever the controller is clean. -/
def BackedBy (file : SaveFile) (controller : Mbc6 DiskStore) : Prop :=
  ∃ disk, controller.battery = some ⟨file, disk⟩ ∧
    (controller.dirty = false → disk.files.Keeps file.path controller.memory)

theorem BackedBy.step {file : SaveFile} {before after : Mbc6 DiskStore} {events : List Event}
    (step : Step before events after) (backed : BackedBy file before) : BackedBy file after := by
  obtain ⟨disk, battery, keeps⟩ := backed
  cases step with
  | note | registers | enable | writeEnable => exact ⟨disk, battery, keeps⟩
  | ram =>
      refine ⟨disk, battery, ?_⟩
      intro clean
      contradiction
  | flash address byte =>
      refine ⟨disk, battery, ?_⟩
      intro clean
      obtain ⟨unchanged, cleanBefore⟩ := storeFlash_of_clean clean
      rw [unchanged]
      exact keeps cleanBefore
  | saved store dirty present success =>
      obtain rfl := Option.some.inj (present.symm.trans battery)
      obtain ⟨left, saved, keepsNow⟩ := DiskStore.exists_store_save before.memory file disk
      exact ⟨left, congrArg some saved, fun _ => keepsNow success⟩
  | saveFailed store cause dirty present failure =>
      obtain rfl := Option.some.inj (present.symm.trans battery)
      obtain ⟨left, saved, -⟩ := DiskStore.exists_store_save before.memory file disk
      refine ⟨left, congrArg some saved, ?_⟩
      intro clean
      rw [dirty] at clean
      contradiction

theorem powerOnCartridge_of_keeps {rom : ByteArray} (legal : 0 < rom.size ∧ rom.size % 0x4000 = 0)
    {file : SaveFile} {disk : Disk} {image : SaveImage} (keeps : disk.files.Keeps file.path image) :
    (powerOnCartridge rom (some (⟨file, disk⟩ : DiskStore))).1 =
      .ok (initial ⟨rom, legal.1, legal.2⟩ image (some ⟨file, disk⟩)) := by
  obtain ⟨kept, loads, rfl⟩ := DiskStore.load_of_keeps keeps
  have yields : Yields (some (⟨file, disk⟩ : DiskStore)) kept := loads
  rw [powerOnCartridge_fst, powerOn_eq_ok legal yields]
  rfl

namespace Played

variable {file : SaveFile} {played : Played}

/-- A session leaves a disk that keeps the memories it ended with, unless its last save failed. -/
theorem keeps_of_saved (backed : BackedBy file played.start)
    (saved : ∀ image cause, .saveAttempt image (.error cause) ∉ played.off.events) :
    ∃ disk, played.off.state = some ⟨file, disk⟩ ∧
      disk.files.Keeps file.path played.final.memory := by
  have atEnd : BackedBy file played.final :=
    (steps_run played.session.operations played.start).preserve BackedBy.step backed
  have flushed : BackedBy file played.final.flush.state :=
    (steps_flush played.final).preserve BackedBy.step atEnd
  obtain ⟨_, battery, -⟩ := atEnd
  obtain ⟨disk, left, keeps⟩ := flushed
  rw [memory_flush] at keeps
  refine ⟨disk, ?_, keeps (dirty_flush_of_saved battery saved)⟩
  rw [off, powerOff, state_flushQuietly, left]

end Played

/-! ## Sessions in turn -/

theorem mem_play {file : SaveFile} {sessions : List Session} {disk : Disk} {played : Played}
    (member : played ∈ play file sessions disk) :
    (powerOnCartridge played.session.rom (some (⟨file, played.disk⟩ : DiskStore))).1 =
      .ok played.start := by
  induction sessions generalizing disk with
  | nil => contradiction
  | cons session later ih =>
      rw [play] at member
      split at member
      · contradiction
      · rename_i start on
        rcases List.mem_cons.mp member with rfl | afterwards
        · exact on
        · split at afterwards
          · contradiction
          · exact ih afterwards

theorem start_of_mem_play {file : SaveFile} {sessions : List Session} {disk : Disk}
    {played : Played} (member : played ∈ play file sessions disk) :
    ∃ rom memory, played.start = initial rom memory (some ⟨file, played.disk⟩) := by
  have on := mem_play member
  rw [powerOnCartridge_fst] at on
  obtain ⟨rom, kept, -, -, start⟩ := (powerOn_eq_ok_iff _ _ _).mp on
  exact ⟨rom, _, start⟩

/-- The disk of a session that never had anything to save is left as it was. -/
theorem off_of_neverDirty {file : SaveFile} {sessions : List Session} {disk : Disk}
    {played : Played} (member : played ∈ play file sessions disk) (clean : played.NeverDirty) :
    played.off.state = some ⟨file, played.disk⟩ := by
  obtain ⟨rom, memory, start⟩ := start_of_mem_play member
  have cleanAtEnd := clean played.session.operations (List.prefix_refl _)
  calc played.off.state
      = played.final.settledBattery := state_powerOff played.final
    _ = played.final.battery := settledBattery_of_clean cleanAtEnd
    _ = played.start.battery := battery_run_of_clean clean
    _ = some ⟨file, played.disk⟩ := by rw [start, initial]

/-- A session with a legal ROM, on a disk that keeps an image. -/
def Session.opening (session : Session)
    (legal : 0 < session.rom.size ∧ session.rom.size % 0x4000 = 0) (file : SaveFile) (disk : Disk)
    (image : SaveImage) : Played where
  session
  disk
  start := initial ⟨session.rom, legal.1, legal.2⟩ image (some ⟨file, disk⟩)

theorem play_cons (session : Session)
    (legal : 0 < session.rom.size ∧ session.rom.size % 0x4000 = 0) (later : List Session)
    {file : SaveFile} {disk : Disk} {image : SaveImage} (keeps : disk.files.Keeps file.path image) :
    play file (session :: later) disk =
      session.opening legal file disk image ::
        match (session.opening legal file disk image).off.state with
        | none => []
        | some store => play file later store.disk := by
  rw [play, powerOnCartridge_of_keeps legal keeps]
  rfl

theorem play_of_saved {file : SaveFile} {sessions : List Session}
    (legal : ∀ session ∈ sessions, 0 < session.rom.size ∧ session.rom.size % 0x4000 = 0)
    {disk : Disk} {image : SaveImage} (keeps : disk.files.Keeps file.path image)
    (saved : ∀ played ∈ play file sessions disk, ∀ image cause,
      .saveAttempt image (.error cause) ∉ played.off.events) :
    (play file sessions disk).map (·.session) = sessions ∧
      (∀ first ∈ (play file sessions disk).head?, first.start.memory = image) ∧
      (play file sessions disk).IsChain fun earlier later =>
        later.start.memory = earlier.final.memory := by
  induction sessions generalizing disk image with
  | nil => simp [play]
  | cons session later ih =>
      obtain ⟨legalFirst, legalLater⟩ := List.forall_mem_cons.mp legal
      rw [play_cons session legalFirst later keeps] at saved ⊢
      obtain ⟨savedFirst, savedLater⟩ := List.forall_mem_cons.mp saved
      have backed : BackedBy file (session.opening legalFirst file disk image).start :=
        ⟨disk, rfl, fun _ => keeps⟩
      obtain ⟨left, off, keepsFinal⟩ := Played.keeps_of_saved backed savedFirst
      rw [off] at savedLater ⊢
      dsimp only at savedLater ⊢
      obtain ⟨sessions, memory, chain⟩ := ih legalLater keepsFinal savedLater
      refine ⟨congrArg (session :: ·) sessions, ?_, ?_⟩
      · intro first isFirst
        obtain rfl := Option.some.inj isFirst
        rfl
      · cases others : play file later left with
        | nil => exact .singleton _
        | cons second rest =>
            rw [others] at memory chain
            exact List.isChain_cons_cons.mpr ⟨memory second rfl, chain⟩

/-- Unless the save at the end of some session fails, each session starts with the RAM and flash
that the one before it ended with, and apart from that as after power on. -/
theorem play_continues {file : SaveFile} {disk : Disk}
    (fits : disk.files.read file.path = .error .noSuchFile ∨
      ∃ content, disk.files.read file.path = .ok content ∧ content.size = SaveImage.byteSize)
    {sessions : List Session}
    (legal : ∀ session ∈ sessions, 0 < session.rom.size ∧ session.rom.size % 0x4000 = 0)
    (saved : ∀ played ∈ play file sessions disk, ∀ image cause,
      .saveAttempt image (.error cause) ∉ played.off.events) :
    (play file sessions disk).map (·.session) = sessions ∧
      (∀ first ∈ (play file sessions disk).head?,
        disk.files.Keeps file.path first.start.memory) ∧
      (play file sessions disk).IsChain
        (fun earlier later => later.start.memory = earlier.final.memory) ∧
      ∀ played ∈ play file sessions disk, played.start.AtPowerOn ∧
        (played.NeverDirty → played.off.state = some ⟨file, played.disk⟩) := by
  obtain ⟨image, keeps⟩ := FileSystem.exists_keeps_iff.mpr fits
  obtain ⟨sessions, memory, chain⟩ := play_of_saved legal keeps saved
  refine ⟨sessions, ?_, chain, ?_⟩
  · intro first isFirst
    rw [memory first isFirst]
    exact keeps
  · intro played member
    obtain ⟨rom, memory, start⟩ := start_of_mem_play member
    refine ⟨?_, off_of_neverDirty member⟩
    rw [start]
    exact atPowerOn_initial rom memory _

/-- A byte of the RAM is written, and the save fails when the RAM is disabled. -/
theorem run_failedSave {σ : Type} [SaveStore σ] (rom : Rom) {store : σ}
    {reply : StoreReply σ Unit} {cause : StoreError} (failure : reply.result = .error cause)
    (answer : ∀ image, SaveStore.save image store = reply) :
    let after := (Bus.run [.store 0x0000 0x0A, .store 0xA000 0x42, .store 0x0000 0x00]
      (initial rom .blank (some store))).state
    after.dirty = true ∧ after.battery = some reply.store ∧ after.memory.ram.get 0 = 0x42 := by
  have last : (Bus.run [.store 0x0000 0x0A, .store 0xA000 0x42, .store 0x0000 0x00]
      (initial rom .blank (some store))).state = (Bus.perform (.store 0x0000 0x00)
        (Bus.run [.store 0x0000 0x0A, .store 0xA000 0x42]
          (initial rom .blank (some store))).state).state := by
    simp only [Bus.run]
  obtain ⟨dirty, enabled, battery, written⟩ := run_writeRam rom (some store)
  dsimp only
  rw [last]
  generalize (Bus.run _ (_ : Mbc6 σ)).state = before at dirty enabled battery written ⊢
  have due : before.due? = some reply :=
    due?_eq_some_iff.mpr ⟨dirty, store, battery, answer before.memory⟩
  have occasion : before.isSaveOccasion (.store 0x0000 0x00) = true := by
    simp [isSaveOccasion, enabled]
  rw [perform_disable occasion, flush_of_failure due failure]
  exact ⟨dirty, rfl, written⟩

/-- The RAM is written, and the save at its disabling is refused; that at power off makes the file.
The next session finds the byte that was written. -/
theorem play_continues_of_refusal :
    let file : SaveFile := ⟨"game.sav"⟩
    let disk : Disk := ⟨.empty, [some (.noSuchFile, .empty)]⟩
    let sessions : List Session :=
      [⟨smallestRom, [.store 0x0000 0x0A, .store 0xA000 0x42, .store 0x0000 0x00]⟩,
        ⟨smallestRom, []⟩]
    (play file sessions disk).map (·.session) = sessions ∧
      ∀ last ∈ (play file sessions disk).getLast?, last.start.memory.ram.get 0 = 0x42 := by
  have legal := legal_smallestRom
  generalize smallestRom = rom at legal ⊢
  intro file disk sessions
  have names : pathNames "game.sav" = ["game.sav"] := by cbv
  have noZero : "game.sav".contains '\x00' = false := by simp
  have located : FileSystem.empty.locate "game.sav" = .ok ["work", "game.sav"] := by
    rw [FileSystem.locate, noZero, names]
    rfl
  have missing : disk.files.read file.path = .error .noSuchFile := by
    rw [FileSystem.read, located]
    rfl
  have writable (content : ByteArray) : FileSystem.empty.write "game.sav" content =
      .ok (FileSystem.empty.put ["work", "game.sav"] (.file content)) := by
    rw [FileSystem.write, located]
    rfl
  have keeps : disk.files.Keeps file.path .blank := .inl ⟨missing, rfl⟩
  let idle : Session := ⟨rom, []⟩
  let session : Session := ⟨rom, [.store 0x0000 0x0A, .store 0xA000 0x42, .store 0x0000 0x00]⟩
  generalize begun : session.opening legal file disk .blank = first
  have ended : first.final.dirty = true ∧ first.final.battery = some ⟨file, .empty, []⟩ ∧
      first.final.memory.ram.get 0 = 0x42 := by
    have refused (image : SaveImage) : SaveStore.save image (⟨file, disk⟩ : DiskStore) =
        ⟨⟨file, .empty, []⟩, .error (.unwritable "game.sav" .noSuchFile), []⟩ := rfl
    have ran := run_failedSave ⟨rom, legal.1, legal.2⟩ rfl refused
    have final : first.final = (Bus.run
        [.store 0x0000 0x0A, .store 0xA000 0x42, .store 0x0000 0x00]
        (initial ⟨rom, legal.1, legal.2⟩ .blank (some ⟨file, disk⟩))).state := by
      rw [← begun, Played.final, Session.opening]
    rw [final]
    exact ran
  obtain ⟨dirty, battery, written⟩ := ended
  have backed : BackedBy file first.start := by
    rw [← begun]
    exact ⟨disk, rfl, fun _ => keeps⟩
  have attempts : first.final.dueAttempts = [(first.final.memory, .ok ())] := by
    simp [dueAttempts, due?, dirty, battery, SaveStore.save, SaveFile.save, file, writable]
  have savedFirst (image : SaveImage) (cause : StoreError) :
      .saveAttempt image (.error cause) ∉ first.off.events := by
    rw [← Event.mem_attempts_iff, Played.off, attempts_powerOff, attempts]
    simp
  obtain ⟨left, off, keepsFinal⟩ := Played.keeps_of_saved backed savedFirst
  generalize begunLater : idle.opening legal file left first.final.memory = second
  have played : play file sessions disk = [first, second] := by
    rw [play_cons session legal [idle] keeps, begun, off]
    dsimp only
    rw [play_cons idle legal [] keepsFinal, begunLater]
    cases second.off.state <;> rfl
  have nothingDue : second.final.due? = none := by
    rw [← begunLater]
    exact due?_eq_none_iff.mpr (.inl rfl)
  have savedSecond (image : SaveImage) (cause : StoreError) :
      .saveAttempt image (.error cause) ∉ second.off.events := by
    rw [← Event.mem_attempts_iff, Played.off, attempts_powerOff, dueAttempts, nothingDue]
    exact List.not_mem_nil
  have saved : ∀ played ∈ play file sessions disk, ∀ image cause,
      .saveAttempt image (.error cause) ∉ played.off.events := by
    simpa only [played, List.forall_mem_cons, List.not_mem_nil, false_imp_iff, implies_true,
      and_true] using ⟨savedFirst, savedSecond⟩
  have allLegal : ∀ session ∈ sessions, 0 < session.rom.size ∧ session.rom.size % 0x4000 = 0 := by
    simpa [sessions] using legal
  obtain ⟨all, -, chain, -⟩ := play_continues (.inl missing) allLegal saved
  refine ⟨all, ?_⟩
  intro last isLast
  rw [played] at chain isLast
  obtain rfl : second = last := Option.some.inj isLast
  rw [(List.isChain_cons_cons.mp chain).1]
  exact written

end Mbc6
end FlashCartridge
