import FlashCartridge.Proofs.CommandLine.Replay
import FlashCartridge.Proofs.Mbc6.WritableFile
import FlashCartridge.Proofs.Script.Flushes

/-!
# What the program leaves in the save file

Before the program performs the first line of the script, it finds a ROM, an image and the lines; if
one of them is not there or not in order, it leaves all files alone. From then on the save file is
written whenever there is something to save and an occasion for it, and powering off is the last
occasion. Where no write is refused, the file therefore holds the memories after the performed lines
at the end, unless there was never anything to save.
-/

namespace FlashCartridge
namespace CommandLine

open Mbc6 Script Storage

/-! ## Before the first line -/

/-- All that is needed to perform the first line of a script. -/
structure Prepared where
  /-- The cartridge ROM. -/
  rom : Rom
  /-- The RAM and flash that the cartridge starts with. -/
  memory : SaveImage
  /-- The lines of the script. -/
  lines : List Line

/-- What has to go well before the first line is performed, in this order: the ROM is read, and its
length is checked; the save file is loaded; the script is read as text, and its lines are parsed. -/
def prepare (options : Options) (path : String) (files : FileSystem) (input : ByteArray) :
    Except Stop Prepared := do
  let bytes ← (files.read options.rom).mapError .rom
  let rom ← (Rom.ofBytes bytes).mapError fun fault => .powerOn (.fault fault)
  let memory ← (savedImage path files).mapError fun cause => .powerOn (.save (.load cause))
  let source ← readScript options.script files input
  let lines ← (parse source).mapError .parse
  return { rom, memory, lines }

/-- The cartridge that is powered on with the save file at a path. -/
def Prepared.start (prepared : Prepared) (path : String) (files : FileSystem) : Mbc6 FileStore :=
  initial prepared.rom prepared.memory (some ⟨⟨path⟩, files⟩)

/-- The same cartridge without its battery. -/
def Prepared.bare (prepared : Prepared) : Mbc6 FileStore :=
  initial prepared.rom prepared.memory none

theorem Prepared.view_start (prepared : Prepared) (path : String) (files : FileSystem) :
    (prepared.start path files).view = prepared.bare.view :=
  rfl

theorem Prepared.view_after (prepared : Prepared) (path : String) (files : FileSystem)
    (passed : List Line) :
    (after passed (prepared.start path files)).view = (after passed prepared.bare).view :=
  (view_run_congr (prepared.view_start path files) (operations passed)).1

theorem Prepared.everDirty_start_iff (prepared : Prepared) (path : String) (files : FileSystem)
    (passed : List Line) :
    EverDirty (operations passed) (prepared.start path files) ↔
      (after passed prepared.bare).dirty = true :=
  everDirty_iff rfl (prepared.view_start path files) rfl rfl (operations passed)

theorem powerOnCartridge_fileStore (bytes : ByteArray) (path : String) (files : FileSystem) :
    (powerOnCartridge bytes (some (⟨⟨path⟩, files⟩ : FileStore))).1 =
      ((Rom.ofBytes bytes).mapError .fault).bind fun rom =>
        ((savedImage path files).mapError fun cause => .save (.load cause)).map fun memory =>
          initial rom memory (some ⟨⟨path⟩, files⟩) := by
  rw [powerOnCartridge_fst, powerOn, ← load_fileStore]
  cases Rom.ofBytes bytes with
  | error fault => rfl
  | ok rom =>
      dsimp only
      cases (SaveStore.load (⟨⟨path⟩, files⟩ : FileStore)).result <;> rfl

theorem readScript_toUTF8 (files : FileSystem) (source : String) :
    readScript none files source.toUTF8 = .ok source := by
  have valid : source.toUTF8.IsValidUTF8 := source.isValidUTF8
  have decoded : decodeText source.toUTF8 = .ok source := by
    rw [decodeText, String.fromUTF8?, dif_pos valid]
    rfl
  rw [readScript, decoded]
  rfl

/-- Only a stage that succeeds is followed by another one. -/
theorem exists_of_stage {ε ε' α β : Type} {found : Except ε α} {explain : ε → ε'}
    {next : α → Except ε' β} {result : β}
    (succeeds : found.mapError explain >>= next = .ok result) :
    ∃ value, found = .ok value ∧ next value = .ok result := by
  cases found with
  | error => contradiction
  | ok value => exact ⟨value, rfl, succeeds⟩

theorem savedImage_of_prepared {options : Options} {path : String} {files : FileSystem}
    {input : ByteArray} {prepared : Prepared}
    (ready : prepare options path files input = .ok prepared) :
    savedImage path files = .ok prepared.memory := by
  obtain ⟨bytes, -, checked⟩ := exists_of_stage ready
  obtain ⟨rom, -, loaded⟩ := exists_of_stage checked
  obtain ⟨memory, saved, later⟩ := exists_of_stage loaded
  cases found : readScript options.script files input with
  | error stop => simp [found, bind, Except.bind] at later
  | ok source =>
      rw [found] at later
      obtain ⟨lines, -, all⟩ := exists_of_stage later
      rw [saved, ← Except.ok.inj all]

theorem powerOff_initial (rom : Rom) (memory : SaveImage) (store : FileStore) :
    (initial rom memory (some store)).powerOff.state = some store := by
  rw [state_powerOff, settledBattery_of_clean rfl]
  rfl

theorem exists_runAll_eq {options : Options} {path : String} (named : options.save = some path)
    (files : FileSystem) (input : ByteArray) :
    ∃ log, runAll options files input =
      match prepare options path files input with
      | .error stop => finish (some stop) [] log files
      | .ok prepared =>
        let replayed := replayLines prepared.lines (prepared.start path files)
        finish replayed.stop replayed.output log
          (replayed.cartridge.powerOff.state.elim files FileStore.files) := by
  rw [runAll, prepare]
  -- Every stage that fails ends both sides alike. Once the save file is loaded there is a cartridge
  -- to power off, which has nothing to save before the first line.
  cases files.read options.rom with
  | error reason => exact ⟨_, rfl⟩
  | ok bytes =>
      simp only [Options.battery, named, Option.map_some, powerOnCartridge_fileStore,
        Except.mapError, bind, Except.bind]
      cases Rom.ofBytes bytes with
      | error fault => exact ⟨_, rfl⟩
      | ok rom =>
          cases savedImage path files with
          | error cause => exact ⟨_, rfl⟩
          | ok memory =>
              simp only [Except.map, replay]
              cases readScript options.script files input with
              | error stop =>
                  simp only [powerOff_initial]
                  exact ⟨_, rfl⟩
              | ok source =>
                  simp only
                  cases parse source with
                  | error error =>
                      simp only [powerOff_initial]
                      exact ⟨_, rfl⟩
                  | ok lines =>
                      refine ⟨_, congrArg (finish _ _ _) ?_⟩
                      dsimp only
                      split <;> simp [Prepared.start, *]

section Finish

variable (stop : Option Stop) (output : List String) (log : List Log.Entry) (files : FileSystem)

theorem status_finish : (finish stop output log files).status = stop.elim 0 Stop.status := by
  cases stop <;> rfl

theorem output_finish :
    (finish stop output log files).output = output ++ stop.elim [] Stop.output := by
  cases stop <;> simp [finish]

theorem files_finish : (finish stop output log files).files = files := by
  cases stop <;> rfl

end Finish

/-- A program that stops before the first line leaves all files alone. -/
theorem run_of_prepare_eq_error {options : Options} {path : String}
    (named : options.save = some path) {files : FileSystem} {input : ByteArray} {stop : Stop}
    (failed : prepare options path files input = .error stop) :
    (run options files input).status = stop.status ∧
      (run options files input).output = stop.output ∧
      (run options files input).files = files := by
  obtain ⟨log, all⟩ := exists_runAll_eq named files input
  rw [failed] at all
  simp only [run, all]
  exact ⟨rfl, rfl, rfl⟩

/-! ## From the first line on -/

/-- With a save file that can be written, only expectations fail. -/
theorem exists_executes {path : String} {start : Mbc6 FileStore}
    (saves : SavesTo path False start) (lines : List Line) :
    ∃ passed failure, Executes start lines passed failure ∧
      (replayLines lines start).stop = failure.map .line ∧
      ((replayLines lines start).cartridge = after passed start ∨
        (replayLines lines start).cartridge = (after passed start).flush.state) := by
  obtain ⟨done, ends, reached⟩ := ends_replayLines lines start
  have savesAfter (passed : List Line) : SavesTo path False (after passed start) :=
    saves.steps (steps_run (operations passed) start)
  cases stopped : (replayLines lines start).stop with
  | none =>
      rw [stopped] at ends
      cases ends with
      | success passes _ =>
          refine ⟨lines, none, .all passes, rfl, .inr ?_⟩
          rw [reached, state_run_flush]
  | some stop =>
      rw [stopped] at ends
      cases ends with
      | @line passed rest line error split passes fails =>
          cases fails with
          | mismatch found different =>
              refine ⟨passed, _, .mismatch split passes (.mismatch found different), rfl, .inl ?_⟩
              rw [reached, operations, List.map_append, Bus.run_append]
              exact state_load _ _
          | flush failed =>
              rw [show (Bus.flush _).value = _ from (savesAfter passed).value_flush] at failed
              contradiction
      | flush passes failed =>
          rw [(savesAfter lines).value_flush] at failed
          contradiction

/-- Powering off writes the memories after the performed lines, if there was ever something to save,
and leaves the save store alone otherwise. -/
theorem powerOff_of_executed {path : String} {start cartridge : Mbc6 FileStore}
    (saves : SavesTo path False start) {passed : List Line}
    (ended : cartridge = after passed start ∨ cartridge = (after passed start).flush.state) :
    (EverDirty (operations passed) start → ∃ left,
      cartridge.powerOff.state = some ⟨⟨path⟩, left⟩ ∧
        left.read path = .ok (after passed start).memory.toBytes) ∧
    (¬ EverDirty (operations passed) start → cartridge.powerOff.state = start.battery) := by
  constructor
  · intro dirty
    have savesAfter : SavesTo path True (after passed start) := saves.run_of_everDirty dirty
    rcases ended with rfl | rfl
    · exact savesAfter.powerOff
    · rw [← memory_flush]
      exact (savesAfter.steps (steps_flush _)).powerOff
  · intro neverDirty
    obtain ⟨clean, off⟩ := powerOff_run_of_not_everDirty neverDirty
    rcases ended with rfl | rfl
    · exact off
    · have idle : (after passed start).due? = none := due?_eq_none_iff.mpr (.inl clean)
      rw [flush_of_not_due idle]
      exact off

section Executed

variable {options : Options} {path : String} {files : FileSystem} {input : ByteArray}

theorem run_of_prepared (named : options.save = some path) (writable : files.Writable path)
    {prepared : Prepared} (ready : prepare options path files input = .ok prepared) :
    let outcome := run options files input
    let start := prepared.start path files
    ∃ passed failure, Executes start prepared.lines passed failure ∧
      outcome.status = (if failure = none then 0 else 1) ∧
      (failure.elim [] fun error => (Stop.line error).output) <:+ outcome.output ∧
      (EverDirty (operations passed) start →
        outcome.files.read path = .ok (after passed start).memory.toBytes) ∧
      (¬ EverDirty (operations passed) start →
        outcome.files = files ∧ savedImage path files = .ok (after passed start).memory) := by
  intro outcome start
  have begun : prepared.start path files = start := rfl
  have saves : SavesTo path False start := ⟨files, rfl, writable, False.elim⟩
  obtain ⟨log, all⟩ := exists_runAll_eq named files input
  simp only [ready, begun] at all
  obtain ⟨passed, failure, executes, stop, ended⟩ := exists_executes saves prepared.lines
  obtain ⟨ofDirty, ofClean⟩ := powerOff_of_executed saves ended
  refine ⟨passed, failure, executes, ?status, ?output, ?dirty, ?clean⟩
  case status =>
    simp only [outcome, run, all, status_finish, stop]
    cases executes <;> rfl
  case output =>
    simp only [outcome, run, all, output_finish, stop]
    cases failure <;> exact List.suffix_append _ _
  case dirty =>
    intro dirty
    obtain ⟨left, off, holds⟩ := ofDirty dirty
    simp only [outcome, run, all, files_finish, off, Option.elim_some]
    exact holds
  case clean =>
    intro neverDirty
    constructor
    · simp only [outcome, run, all, files_finish, ofClean neverDirty]
      rfl
    · rw [prepared.everDirty_start_iff, Bool.not_eq_true] at neverDirty
      have unchanged : (after passed start).memory = prepared.memory :=
        (congrArg View.memory (prepared.view_after path files passed)).trans
          (memory_run_of_unpowered rfl neverDirty)
      rw [unchanged]
      exact savedImage_of_prepared ready

/-- The save file at the end, from a run of the script without a battery. -/
theorem read_run_of_prepared (named : options.save = some path) (writable : files.Writable path)
    {prepared : Prepared} (ready : prepare options path files input = .ok prepared) :
    let left := (Script.run prepared.lines prepared.bare).1
    (run options files input).files.read path =
      if left.dirty then .ok left.memory.toBytes else files.read path := by
  obtain ⟨passed, failure, executes, -, -, ofDirty, ofClean⟩ :=
    run_of_prepared named writable ready
  have unpowered : prepared.bare.battery = none := rfl
  dsimp only
  rw [executes.state_run_without_battery unpowered (prepared.view_start path files)]
  have marked := prepared.everDirty_start_iff path files passed
  by_cases dirty : EverDirty (operations passed) (prepared.start path files)
  · rw [ofDirty dirty, if_pos (marked.mp dirty)]
    exact congrArg (fun view => Except.ok view.memory.toBytes)
      (prepared.view_after path files passed)
  · rw [(ofClean dirty).1, if_neg fun marking => dirty (marked.mpr marking)]

/-! ## Scripts that differ in their flushes -/

theorem savedImage_congr {files' : FileSystem} (same : files'.read path = files.read path) :
    savedImage path files' = savedImage path files := by
  rw [savedImage, savedImage, same]

section Flushes

variable {options' : Options} {files' : FileSystem} {input' : ByteArray}
  (sameRom : files'.read options'.rom = files.read options.rom)
  (sameSave : files'.read path = files.read path) {source source' : String}
  (found : readScript options.script files input = .ok source)
  (found' : readScript options'.script files' input' = .ok source')
  (same : withoutFlushes source' = withoutFlushes source)
include sameRom sameSave found found' same

theorem prepare_congr :
    (prepare options' path files' input').toOption.map
        (fun prepared => (prepared.rom, prepared.memory, requests prepared.lines)) =
      (prepare options path files input).toOption.map
        (fun prepared => (prepared.rom, prepared.memory, requests prepared.lines)) := by
  have sameRequests := requests_parse same
  simp only [prepare, sameRom, savedImage_congr sameSave, found, found']
  cases files.read options.rom with
  | error => rfl
  | ok bytes =>
      simp only [Except.mapError, bind, Except.bind]
      cases Rom.ofBytes bytes with
      | error => rfl
      | ok rom =>
          cases savedImage path files with
          | error => rfl
          | ok memory =>
              revert sameRequests
              cases parse source <;> cases parse source' <;>
                simp +contextual [Except.toOption, pure, Except.pure]

/-- Flushes do not matter to what is left in the save file. -/
theorem read_run_congr (named : options.save = some path) (named' : options'.save = some path)
    (writable : files.Writable path) (writable' : files'.Writable path) :
    (run options' files' input').files.read path = (run options files input).files.read path := by
  have agree := prepare_congr sameRom sameSave found found' same
  cases ready : prepare options path files input with
  | error stop =>
      cases ready' : prepare options' path files' input' with
      | error stop' =>
          rw [(run_of_prepare_eq_error named ready).2.2,
            (run_of_prepare_eq_error named' ready').2.2, sameSave]
      | ok prepared' => simp [ready, ready', Except.toOption] at agree
  | ok prepared =>
      cases ready' : prepare options' path files' input' with
      | error stop' => simp [ready, ready', Except.toOption] at agree
      | ok prepared' =>
          obtain ⟨rom, memory, lines⟩ := prepared
          obtain ⟨rom', memory', lines'⟩ := prepared'
          simp only [ready, ready', Except.toOption, Option.map_some, Option.some.injEq,
            Prod.mk.injEq] at agree
          obtain ⟨rfl, rfl, sameRequests⟩ := agree
          rw [read_run_of_prepared named writable ready,
            read_run_of_prepared named' writable' ready', sameSave]
          dsimp only
          rw [state_run_requests rfl lines, state_run_requests rfl lines', sameRequests]
          rfl

end Flushes

end Executed

/-- A program that stops before the script leaves all files alone. Any other leaves RAM and flash
after the performed lines in the save file, if there was ever something to save, and flushes never
make a difference to that. -/
theorem run_saves_memory {options : Options} {path : String} (named : options.save = some path)
    {files : FileSystem} (writable : files.Writable path) (input : ByteArray) :
    let outcome := run options files input
    (∀ stop, prepare options path files input = .error stop →
      outcome.status = stop.status ∧ outcome.output = stop.output ∧ outcome.files = files) ∧
    (∀ content, files.read path = .ok content → content.size ≠ SaveImage.byteSize →
      outcome.files = files) ∧
    (∀ prepared, prepare options path files input = .ok prepared →
      let start := prepared.start path files
      ∃ passed failure, Executes start prepared.lines passed failure ∧
        outcome.status = (if failure = none then 0 else 1) ∧
        (failure.elim [] fun error => (Stop.line error).output) <:+ outcome.output ∧
        (EverDirty (operations passed) start →
          outcome.files.read path = .ok (after passed start).memory.toBytes) ∧
        (¬ EverDirty (operations passed) start →
          outcome.files = files ∧ savedImage path files = .ok (after passed start).memory)) ∧
    ∀ (options' : Options) (files' : FileSystem) (input' : ByteArray) (source source' : String),
      options'.save = some path → files'.Writable path →
      files'.read options'.rom = files.read options.rom → files'.read path = files.read path →
      readScript options.script files input = .ok source →
      readScript options'.script files' input' = .ok source' →
      withoutFlushes source' = withoutFlushes source →
      (run options' files' input').files.read path = outcome.files.read path := by
  refine ⟨fun stop => run_of_prepare_eq_error named, ?wrongSize,
    fun prepared => run_of_prepared named writable, ?flushes⟩
  case wrongSize =>
    intro content present incomplete
    cases ready : prepare options path files input with
    | error stop => exact (run_of_prepare_eq_error named ready).2.2
    | ok prepared =>
        have loaded := savedImage_of_prepared ready
        simp [savedImage, present, SaveImage.ofBytes?, incomplete] at loaded
  case flushes =>
    intro options' files' input' source source' named' writable' sameRom sameSave found found' same
    exact read_run_congr sameRom sameSave found found' same named named' writable writable'

/-- A byte of the RAM is written before an expectation fails. The save file, which was not there
before, holds the byte. -/
theorem run_saves_memory_of_mismatch :
    let options : Options := ⟨"game.gb", some "game.sav", none, none⟩
    let files := FileSystem.empty.put ["work", "game.gb"] (.file smallestRom)
    let outcome := run options files "w 0 a\nw a000 42\nr c000 ff".toUTF8
    files.read "game.sav" = .error .noSuchFile ∧ outcome.status = 1 ∧
      ∃ image : SaveImage, outcome.files.read "game.sav" = .ok image.toBytes ∧
        image.ram.get 0 = 0x42 := by
  have legal := legal_smallestRom
  generalize smallestRom = rom at legal ⊢
  intro options files outcome
  have locatedRom : files.locate "game.gb" = .ok ["work", "game.gb"] := by
    have noZero : "game.gb".contains '\x00' = false := by simp
    have names : pathNames "game.gb" = ["game.gb"] := by cbv
    rw [FileSystem.locate, noZero, names]
    rfl
  have located : files.locate "game.sav" = .ok ["work", "game.sav"] := by
    have noZero : "game.sav".contains '\x00' = false := by simp
    have names : pathNames "game.sav" = ["game.sav"] := by cbv
    rw [FileSystem.locate, noZero, names]
    rfl
  have romRead : files.read "game.gb" = .ok rom := by
    rw [FileSystem.read, locatedRom]
    rfl
  have missing : files.read "game.sav" = .error .noSuchFile := by
    rw [FileSystem.read, located]
    rfl
  have writable : files.Writable "game.sav" := by
    intro content
    refine ⟨files.put ["work", "game.sav"] (.file content), ?_⟩
    rw [FileSystem.write, located]
    rfl
  let passed : List Line := [⟨1, .write 0x0000 0x0A⟩, ⟨2, .write 0xA000 0x42⟩]
  let last : Line := ⟨3, .read 0xC000 (some 0xFF)⟩
  have ready : prepare options "game.sav" files "w 0 a\nw a000 42\nr c000 ff".toUTF8 =
      .ok ⟨⟨rom, legal.1, legal.2⟩, .blank, passed ++ [last]⟩ := by
    have text := readScript_toUTF8 files "w 0 a\nw a000 42\nr c000 ff"
    have parsed : parse "w 0 a\nw a000 42\nr c000 ff" = .ok
        [⟨1, .write 0x0000 0x0A⟩, ⟨2, .write 0xA000 0x42⟩, ⟨3, .read 0xC000 (some 0xFF)⟩] := by
      decide +kernel
    simp only [prepare, options, romRead, Rom.ofBytes, dif_pos legal, savedImage, missing, text,
      parsed, Except.mapError, bind, Except.bind, pure, Except.pure]
    rfl
  have named : options.save = some "game.sav" := rfl
  obtain ⟨-, -, performs, -⟩ := run_saves_memory named writable
    "w 0 a\nw a000 42\nr c000 ff".toUTF8
  obtain ⟨done, failure, executes, status, -, saves, -⟩ := performs _ ready
  obtain ⟨dirty, -, -, written⟩ := run_writeRam ⟨rom, legal.1, legal.2⟩
    (some (⟨⟨"game.sav"⟩, files⟩ : FileStore))
  generalize begun : Prepared.start _ _ _ = start at executes saves
  have passes : Passes passed start := by
    refine ⟨?_, ?_, trivial⟩ <;> rintro error ⟨⟩
  have fails : Fails (after passed start) last (.mismatch 3 0xC000 0x00 0xFF) :=
    .mismatch rfl (by decide)
  obtain ⟨rfl, rfl⟩ := executes.unique (.mismatch rfl passes fails)
  have reached : after passed start = (Bus.run [.store 0x0000 0x0A, .store 0xA000 0x42]
      (initial ⟨rom, legal.1, legal.2⟩ .blank (some ⟨⟨"game.sav"⟩, files⟩))).state := by
    rw [← begun]
    rfl
  rw [← reached] at dirty written
  exact ⟨missing, status, _, saves ⟨_, List.prefix_refl _, dirty⟩, written⟩

end CommandLine
end FlashCartridge
