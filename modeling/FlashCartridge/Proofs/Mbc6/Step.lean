import FlashCartridge.Bus.Run
import FlashCartridge.Mbc6.Basic

/-!
# Elementary steps of the bank controller

Every bus operation is a succession of elementary steps, each with the event that reports it. A step
notes something, sets a register, sets a control bit of the flash chip, changes a byte of the RAM,
lets a byte reach the flash chip, or asks the save store. What every step keeps is therefore kept by
every run, and nothing else about the bus has to be known for it.
-/

namespace FlashCartridge

/-- An event that neither reaches the flash chip nor the save store. -/
def Event.isNote : Event → Bool
  | .flashWrite _ _ _ | .saveAttempt _ _ => false
  | _ => true

namespace Mbc6

variable {σ : Type} [SaveStore σ]

/-- One elementary step, with the events that report it. -/
inductive Step : Mbc6 σ → List Event → Mbc6 σ → Prop
  /-- Something is noted. -/
  | note (controller : Mbc6 σ) {event : Event} (isNote : event.isNote = true) :
      Step controller [event] controller
  /-- A bank register or the RAM enable register is stored. -/
  | registers (controller : Mbc6 σ) (registers : Registers) :
      Step controller [] { controller with registers }
  /-- The enable bit of the flash chip is stored. -/
  | enable (controller : Mbc6 σ) (byte : UInt8) :
      Step controller [] { controller with chip := controller.chip.storeEnable byte }
  /-- The write enable bit of the flash chip is stored. -/
  | writeEnable (controller : Mbc6 σ) (byte : UInt8) :
      Step controller [] { controller with chip := controller.chip.storeWriteEnable byte }
  /-- A byte of the RAM changes. -/
  | ram (controller : Mbc6 σ) (offset : Fin ramSize) (byte : UInt8)
      (enabled : controller.registers.ramEnabled = true)
      (different : controller.memory.ram.get offset ≠ byte) :
      Step controller []
        { controller with
          memory := { controller.memory with ram := controller.memory.ram.set offset byte }
          dirty := true }
  /-- A byte reaches the flash chip. -/
  | flash (controller : Mbc6 σ) (address : Flash.Address) (byte : UInt8)
      (writable : controller.chip.master.writeEnabled = true) :
      Step controller (controller.storeFlash address byte).events
        (controller.storeFlash address byte).state
  /-- The save store keeps the present image. -/
  | saved (controller : Mbc6 σ) (store : σ) (dirty : controller.dirty = true)
      (battery : controller.battery = some store)
      (success : (SaveStore.save controller.memory store).result = .ok ()) :
      Step controller [.saveAttempt controller.memory (.ok ())]
        { controller with
          battery := some (SaveStore.save controller.memory store).store
          dirty := false }
  /-- The save store fails to keep the present image. -/
  | saveFailed (controller : Mbc6 σ) (store : σ) (cause : StoreError)
      (dirty : controller.dirty = true) (battery : controller.battery = some store)
      (failure : (SaveStore.save controller.memory store).result = .error cause) :
      Step controller [.saveAttempt controller.memory (.error cause)]
        { controller with battery := some (SaveStore.save controller.memory store).store }

/-- A succession of elementary steps, with all events in order. -/
inductive Steps : Mbc6 σ → List Event → Mbc6 σ → Prop
  | refl (controller : Mbc6 σ) : Steps controller [] controller
  | tail {before middle after : Mbc6 σ} {events later : List Event} :
      Steps before events middle → Step middle later after →
      Steps before (events ++ later) after

namespace Steps

variable {before middle after : Mbc6 σ} {events later : List Event}

theorem single (step : Step before events after) : Steps before events after := by
  simpa using (refl before).tail step

theorem trans (front : Steps before events middle) (back : Steps middle later after) :
    Steps before (events ++ later) after := by
  induction back with
  | refl => simpa using front
  | tail _ step ih =>
      rw [← List.append_assoc]
      exact ih.tail step

theorem notes (controller : Mbc6 σ) {events : List Event}
    (areNotes : ∀ event ∈ events, event.isNote = true) : Steps controller events controller := by
  induction events with
  | nil => exact .refl controller
  | cons event rest ih =>
      have first : Steps controller [event] controller :=
        .single (.note controller (areNotes event List.mem_cons_self))
      exact first.trans (ih fun later member => areNotes later (List.mem_cons_of_mem _ member))

theorem silent (front : Steps before events middle) (step : Step middle [] after) :
    Steps before events after := by
  simpa using front.tail step

/-- What each step keeps is kept by every succession. -/
theorem preserve {invariant : Mbc6 σ → Prop}
    (step : ∀ {before after : Mbc6 σ} {events}, Step before events after →
      invariant before → invariant after)
    (steps : Steps before events after) (holds : invariant before) : invariant after := by
  induction steps with
  | refl => exact holds
  | tail _ last ih => exact step last ih

end Steps

/-! ## The operations as steps -/

theorem steps_flush (controller : Mbc6 σ) :
    Steps controller controller.flush.events controller.flush.state := by
  have storeNotes (entries : List Log.Entry) :
      ∀ event ∈ entries.map Event.storeNote, event.isNote = true := by
    intro event member
    obtain ⟨entry, _, rfl⟩ := List.mem_map.mp member
    rfl
  cases dirty : controller.dirty with
  | false => simpa [flush, dirty] using Steps.refl controller
  | true =>
      cases battery : controller.battery with
      | none => simpa [flush, dirty, battery] using Steps.refl controller
      | some store =>
          rw [flush, if_pos dirty]
          cases result : (SaveStore.save controller.memory store).result with
          | ok =>
              simp only [battery, result]
              exact (Steps.single (.saved controller store dirty battery result)).trans
                (.notes _ (storeNotes _))
          | error cause =>
              simp only [battery, result]
              exact (Steps.single (.saveFailed controller store cause dirty battery result)).trans
                (.notes _ (storeNotes _))

theorem steps_flushQuietly (controller : Mbc6 σ) :
    Steps controller controller.flushQuietly.events controller.flushQuietly.state := by
  have flushed := steps_flush controller
  rw [flushQuietly]
  cases controller.flush.value with
  | ok => exact flushed
  | error error => exact flushed.tail (.note _ rfl)

theorem steps_storeRamEnable (controller : Mbc6 σ) (byte : UInt8) :
    Steps controller (controller.storeRamEnable byte).events
      (controller.storeRamEnable byte).state := by
  rw [storeRamEnable]
  split
  · exact (steps_flushQuietly controller).silent (.registers _ _)
  · exact (Steps.refl controller).silent (.registers _ _)

theorem steps_storeWindow (controller : Mbc6 σ) (window : Window) (address : UInt16)
    (byte : UInt8) :
    Steps controller (controller.storeWindow window address byte).events
      (controller.storeWindow window address byte).state := by
  rw [storeWindow]
  split
  · exact .single (.note controller rfl)
  · split
    · exact .single (.note controller rfl)
    · rename_i writable
      exact .single (.flash controller _ byte (by simpa using writable))

theorem steps_storeTarget (controller : Mbc6 σ) (address : UInt16) (byte : UInt8)
    (target : StoreTarget) :
    Steps controller (controller.storeTarget address byte target).events
      (controller.storeTarget address byte target).state := by
  cases target with
  | ramEnable => exact steps_storeRamEnable controller byte
  | ramBank window => exact .single (.registers controller _)
  | flashEnable =>
      have stored := Steps.single (.enable controller byte)
      rw [storeTarget]
      split
      · exact stored
      · exact stored.tail (.note _ rfl)
  | flashWriteEnable => exact .single (.writeEnable controller byte)
  | nothing => exact .refl controller
  | bank window => exact .single (.registers controller _)
  | memory window => exact .single (.registers controller _)
  | window window => exact steps_storeWindow controller window address byte

theorem steps_storeRom (controller : Mbc6 σ) (address : UInt16) (byte : UInt8) :
    Steps controller (controller.storeRom address byte).events
      (controller.storeRom address byte).state := by
  have noted : Steps controller [.romAreaStore address byte] controller :=
    .single (.note controller rfl)
  rw [storeRom]
  split
  · exact noted
  · exact noted.trans (steps_storeTarget controller address byte _)

theorem steps_storeRam (controller : Mbc6 σ) (address : UInt16) (byte : UInt8) :
    Steps controller [] (controller.storeRam address byte) := by
  rw [storeRam]
  split
  · rename_i enabled
    dsimp only
    split
    · exact .refl controller
    · rename_i different
      exact .single (.ram controller _ byte enabled different)
  · exact .refl controller

theorem steps_perform (operation : Bus.Operation) (controller : Mbc6 σ) :
    Steps controller (Bus.perform operation controller).events
      (Bus.perform operation controller).state := by
  cases operation with
  | load address =>
      rw [Bus.perform, Bus.load]
      split <;> exact .refl controller
  | store address byte =>
      rw [Bus.perform, Bus.store]
      split
      · exact steps_storeRom controller address byte
      · exact steps_storeRam controller _ byte
      · exact .single (.note controller rfl)
  | flush => exact steps_flush controller

/-- A run of bus operations is a succession of elementary steps. -/
theorem steps_run (operations : List Bus.Operation) (controller : Mbc6 σ) :
    Steps controller (Bus.run operations controller).events
      (Bus.run operations controller).state := by
  induction operations generalizing controller with
  | nil => exact .refl controller
  | cons operation rest ih => exact (steps_perform operation controller).trans (ih _)

end Mbc6
end FlashCartridge
