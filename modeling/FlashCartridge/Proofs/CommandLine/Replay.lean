import FlashCartridge.CommandLine.Program
import FlashCartridge.Proofs.Mbc6.PowerCycle
import FlashCartridge.Proofs.Script.Execution

/-!
# A script that succeeds is saved

A script succeeds if no line fails and the flush behind the last line saves. Whatever saves have
failed before, RAM and flash are durable then. A script that does not succeed leaves that to
powering off, which makes one more attempt if there is something to save.
-/

namespace FlashCartridge
namespace CommandLine

open Mbc6 Script

variable {σ : Type} [SaveStore σ]

/-- How a script ends on a cartridge: what was done on the bus, and why it stops early, if it
does. -/
inductive Ends (start : Mbc6 σ) (lines : List Line) : List Bus.Operation → Option Stop → Prop
  /-- Some line is the first one that fails, and the last one that is performed. -/
  | line {passed rest : List Line} {line : Line} {error : LineError}
      (split : lines = passed ++ line :: rest) (passes : Passes passed start)
      (fails : Fails (after passed start) line error) :
      Ends start lines (operations (passed ++ [line])) (some (.line error))
  /-- No line fails, but the flush behind the last one does. -/
  | flush {error : SaveError} (passes : Passes lines start)
      (failed : (after lines start).flush.value = .error error) :
      Ends start lines (operations lines ++ [.flush]) (some (.flush error))
  /-- Nothing fails. -/
  | success (passes : Passes lines start) (saved : (after lines start).flush.value = .ok ()) :
      Ends start lines (operations lines ++ [.flush]) none

theorem state_run_flush (lines : List Line) (start : Mbc6 σ) :
    (Bus.run (operations lines ++ [.flush]) start).state = (after lines start).flush.state := by
  rw [Bus.run_append]
  rfl

/-- A script is performed up to the first line that fails, and flushed if there is none. -/
theorem ends_replayLines (lines : List Line) (start : Mbc6 σ) :
    ∃ done, Ends start lines done (replayLines lines start).stop ∧
      (replayLines lines start).cartridge = (Bus.run done start).state := by
  rcases passes_or_fails lines start with
    passes | ⟨passed, line, rest, error, rfl, passes, fails⟩
  · obtain ⟨state, -, unfailed⟩ := run_of_passes passes
    simp only [replayLines, unfailed, state]
    split
    · rename_i error failed
      exact ⟨_, .flush passes failed, (state_run_flush lines start).symm⟩
    · rename_i saved
      exact ⟨_, .success passes saved, (state_run_flush lines start).symm⟩
  · obtain ⟨state, -, failed⟩ := run_of_fails passes fails rest
    simp only [replayLines, failed, state]
    exact ⟨_, .line rfl passes fails, rfl⟩

theorem Ends.eq_none_iff {start : Mbc6 σ} {lines : List Line} {done : List Bus.Operation}
    {stop : Option Stop} (ends : Ends start lines done stop) :
    stop = none ↔ Passes lines start ∧ (after lines start).flush.value = .ok () := by
  cases ends with
  | @line passed rest failing error split passes fails =>
      refine iff_of_false (by simp) ?_
      rintro ⟨all, -⟩
      subst split
      have unfailed := (run_of_passes all).2.2
      rw [(run_of_fails passes fails rest).2.2] at unfailed
      contradiction
  | flush passes failed => simp [failed]
  | success passes saved => simp [passes, saved]

/-- RAM and flash of a controller with a battery that is powered off are durable, unless the attempt
that this makes fails. -/
theorem memory_eq_durable_of_powerOff {image : SaveImage} {controller : Mbc6 σ}
    (holds : HoldsWhenClean image controller) {store : σ}
    (battery : controller.battery = some store)
    (saved : ∀ saved cause, (saved, .error cause) ∉ Event.attempts controller.powerOff.events) :
    controller.memory = durable image controller.powerOff.events := by
  have off := holds.steps (steps_flushQuietly controller)
  rw [HoldsWhenClean, state_flushQuietly, memory_flush] at off
  apply off
  apply dirty_flush_of_saved battery
  intro saved' cause
  rw [← Event.mem_attempts_iff]
  exact saved saved' cause

/-- A script that succeeds leaves RAM and flash durable. After one that stops, powering off makes
them durable unless its one attempt to save fails. -/
theorem memory_eq_durable_of_replayLines {bytes : ByteArray}
    (legal : 0 < bytes.size ∧ bytes.size % 0x4000 = 0) {store : σ} {kept : Option SaveImage}
    (yields : Yields (some store) kept) :
    ∃ start : Mbc6 σ, (powerOn bytes (some store)).1 = .ok start ∧ ∀ lines,
      let replayed := replayLines lines start
      let off := replayed.cartridge.powerOff
      (replayed.stop = none ↔
        Passes lines start ∧ (after lines start).flush.value = .ok ()) ∧
      ∃ done, Ends start lines done replayed.stop ∧
        replayed.cartridge = (Bus.run done start).state ∧
        let history := (Bus.run done start).events
        (replayed.stop = none →
          durable (kept.getD .blank) history = (after lines start).memory) ∧
        (replayed.stop ≠ none →
          (replayed.cartridge.dirty = true → ∃ left, replayed.cartridge.battery = some left ∧
            Event.attempts off.events = [(replayed.cartridge.memory,
              (SaveStore.save replayed.cartridge.memory left).result)]) ∧
          (replayed.cartridge.dirty = false → Event.attempts off.events = []) ∧
          ((∀ image cause, (image, .error cause) ∉ Event.attempts off.events) →
            durable (kept.getD .blank) (history ++ off.events) = replayed.cartridge.memory)) := by
  refine ⟨_, powerOn_eq_ok legal yields, ?_⟩
  intro lines replayed off
  obtain ⟨done, ends, reached⟩ : ∃ done, Ends _ lines done replayed.stop ∧
      replayed.cartridge = (Bus.run done _).state := ends_replayLines lines _
  refine ⟨ends.eq_none_iff, done, ends, reached, ?success, ?failure⟩
  all_goals
    generalize begin : initial _ _ _ = start at *
    have powered : start.battery = some (SaveStore.load store).store := by
      rw [← begin]
      rfl
    have started : HoldsWhenClean (kept.getD .blank) start := by
      rw [← begin]
      exact fun _ => rfl
    have holds := started.steps (steps_run done start)
  case success =>
    intro succeeds
    rw [succeeds] at ends
    cases ends with
    | success passes saved =>
        obtain ⟨left, battery⟩ := exists_battery_run powered (operations lines)
        rw [HoldsWhenClean, state_run_flush, memory_flush] at holds
        exact (holds (dirty_flush_of_ok battery saved)).symm
  case failure =>
    intro _
    obtain ⟨left, battery⟩ := exists_battery_run powered done
    rw [← reached] at holds battery
    have attempts : Event.attempts off.events = _ := attempts_powerOff replayed.cartridge
    refine ⟨?dirty, ?clean, ?durable⟩
    case dirty =>
      intro dirty
      exact ⟨left, battery, attempts.trans (dueAttempts_of_dirty battery dirty)⟩
    case clean =>
      intro clean
      exact attempts.trans (dueAttempts_of_clean clean)
    case durable =>
      intro saved
      rw [durable_append]
      exact (memory_eq_durable_of_powerOff holds battery saved).symm

/-- The save at the disabling of the RAM fails, and the final flush makes up for it. -/
theorem memory_eq_durable_of_replayLines_of_failedSave :
    let lines : List Line :=
      [⟨1, .write 0x0000 0x0A⟩, ⟨2, .write 0xA000 0x42⟩, ⟨3, .write 0x0000 0x00⟩]
    ∃ start : Mbc6 FailingStore,
      (powerOn smallestRom (some (⟨none, 1⟩ : FailingStore))).1 = .ok start ∧
        (after lines start).dirty = true ∧ (replayLines lines start).stop = none ∧
        (durable .blank (Bus.run (operations lines ++ [.flush]) start).events).ram.get 0 =
          0x42 := by
  intro lines
  have yields : Yields (some (⟨none, 1⟩ : FailingStore)) none := rfl
  obtain ⟨start, on, law⟩ := memory_eq_durable_of_replayLines legal_smallestRom yields
  obtain ⟨succeeds, done, ends, -, saved, -⟩ := law lines
  have passes : Passes lines start := by
    refine ⟨?_, ?_, ?_, trivial⟩ <;> rintro error ⟨⟩
  have refused (image : SaveImage) : SaveStore.save image (⟨none, 1⟩ : FailingStore) =
      ⟨⟨none, 0⟩, .error (.device "disk full"), []⟩ := rfl
  have failed : (after lines start).dirty = true ∧
      (after lines start).battery = some ⟨none, 0⟩ ∧
      (after lines start).memory.ram.get 0 = 0x42 := by
    have begun := on
    rw [powerOn_eq_ok legal_smallestRom yields] at begun
    rw [← Except.ok.inj begun]
    exact run_failedSave ⟨smallestRom, legal_smallestRom.1, legal_smallestRom.2⟩ rfl refused
  obtain ⟨dirty, battery, written⟩ := failed
  have flushed : (after lines start).flush.value = .ok () := by
    rw [flush_of_due (due?_eq_some_iff.mpr ⟨dirty, _, battery, rfl⟩)]
    rfl
  have stop := succeeds.mpr ⟨passes, flushed⟩
  refine ⟨start, on, dirty, stop, ?_⟩
  have unfailed := saved stop
  rw [stop] at ends
  cases ends with
  | success =>
      rw [Option.getD_none] at unfailed
      rw [unfailed]
      exact written

end CommandLine
end FlashCartridge
