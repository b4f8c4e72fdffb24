import FlashCartridge.Proofs.Mbc6.PowerCycle
import FlashCartridge.Proofs.Mbc6.WithoutBattery

/-!
# A save file that can be written

Where no write is refused, no flush fails. Once something was to be saved, the file holds RAM and
flash whenever the controller is clean, so that powering off leaves them in the file. Before that,
the save store is left alone.
-/

namespace FlashCartridge
namespace Mbc6

open Storage

/-- The battery is the save file at a path, where no write is refused. Once something was to be
saved, the file holds RAM and flash whenever the controller is clean. -/
def SavesTo (path : String) (touched : Prop) (controller : Mbc6 FileStore) : Prop :=
  ∃ files, controller.battery = some ⟨⟨path⟩, files⟩ ∧ files.Writable path ∧
    (touched → controller.dirty = false → files.read path = .ok controller.memory.toBytes)

variable {path : String} {touched : Prop} {controller : Mbc6 FileStore}

theorem SavesTo.step {before after : Mbc6 FileStore} {events : List Event}
    (step : Step before events after) (saves : SavesTo path touched before) :
    SavesTo path touched after := by
  obtain ⟨files, battery, writable, holds⟩ := saves
  cases step with
  | note | registers | enable | writeEnable => exact ⟨files, battery, writable, holds⟩
  | ram => exact ⟨files, battery, writable, fun _ clean => nomatch clean⟩
  | flash address byte =>
      refine ⟨files, battery, writable, ?_⟩
      intro isTouched clean
      obtain ⟨unchanged, cleanBefore⟩ := storeFlash_of_clean clean
      rw [unchanged]
      exact holds isTouched cleanBefore
  | saved store dirty present =>
      obtain rfl := Option.some.inj (present.symm.trans battery)
      obtain ⟨-, saved, left, writable, holds⟩ := save_fileStore writable before.memory
      exact ⟨saved, congrArg some left, writable, fun _ _ => holds⟩
  | saveFailed store cause dirty present failure =>
      obtain rfl := Option.some.inj (present.symm.trans battery)
      rw [(save_fileStore writable before.memory).1] at failure
      contradiction

theorem SavesTo.steps {before after : Mbc6 FileStore} {events : List Event}
    (steps : Steps before events after) (saves : SavesTo path touched before) :
    SavesTo path touched after :=
  steps.preserve SavesTo.step saves

theorem SavesTo.value_flush (saves : SavesTo path touched controller) :
    controller.flush.value = .ok () := by
  obtain ⟨files, battery, writable, -⟩ := saves
  cases due : controller.due? with
  | none => rw [flush_of_not_due due]
  | some reply =>
      obtain ⟨-, store, present, rfl⟩ := due?_eq_some_iff.mp due
      obtain rfl := Option.some.inj (present.symm.trans battery)
      rw [flush_of_due due, (save_fileStore writable controller.memory).1]
      rfl

/-- If there was ever something to save, powering off leaves RAM and flash in the file. -/
theorem SavesTo.powerOff (saves : SavesTo path True controller) :
    ∃ files, controller.powerOff.state = some ⟨⟨path⟩, files⟩ ∧
      files.read path = .ok controller.memory.toBytes := by
  have ⟨_, battery, _⟩ := saves
  obtain ⟨files, left, -, holds⟩ := saves.steps (steps_flush controller)
  have clean := dirty_flush_of_ok battery saves.value_flush
  rw [memory_flush] at holds
  refine ⟨files, ?_, holds trivial clean⟩
  rw [Mbc6.powerOff, state_flushQuietly, left]

theorem SavesTo.run_of_everDirty {operations : List Bus.Operation}
    (saves : SavesTo path False controller) (dirty : EverDirty operations controller) :
    SavesTo path True (Bus.run operations controller).state := by
  obtain ⟨front, ⟨back, rfl⟩, dirtyThen⟩ := dirty
  obtain ⟨files, battery, writable, -⟩ := saves.steps (steps_run front controller)
  have savesThen : SavesTo path True (Bus.run front controller).state := by
    refine ⟨files, battery, writable, ?_⟩
    intro _ clean
    rw [dirtyThen] at clean
    contradiction
  rw [Bus.run_append]
  exact savesThen.steps (steps_run back _)

theorem powerOff_run_of_not_everDirty {σ : Type} [SaveStore σ] {controller : Mbc6 σ}
    {operations : List Bus.Operation} (neverDirty : ¬ EverDirty operations controller) :
    (Bus.run operations controller).state.dirty = false ∧
      (Bus.run operations controller).state.powerOff.state = controller.battery := by
  have clean (front : List Bus.Operation) (inside : front <+: operations) :
      (Bus.run front controller).state.dirty = false := by
    by_contra dirty
    exact neverDirty ⟨front, inside, by simpa using dirty⟩
  have cleanAtEnd := clean operations (List.prefix_refl _)
  refine ⟨cleanAtEnd, ?_⟩
  rw [state_powerOff, settledBattery_of_clean cleanAtEnd]
  exact battery_run_of_clean clean

end Mbc6
end FlashCartridge
