import FlashCartridge.Proofs.Mbc6.SaveAccounting

/-!
# A clean cartridge is saved

The durable image is what would be left if the power were cut: the image of the last successful
save, or the image of the last session if there was none. The attempts in a history are what the
save store was asked and has answered. Every step that changes a byte of RAM or flash marks the
controller as dirty, and only a successful save takes that mark away, so that the memories of a
clean controller are durable.
-/

namespace FlashCartridge
namespace Mbc6

variable {σ : Type} [SaveStore σ]

/-- The image that outlives a history of events, where `image` was kept before it. -/
def durable (image : SaveImage) : List Event → SaveImage
  | [] => image
  | .saveAttempt saved (.ok ()) :: later => durable saved later
  | _ :: later => durable image later

theorem durable_append (image : SaveImage) (front back : List Event) :
    durable image (front ++ back) = durable (durable image front) back := by
  induction front generalizing image with
  | nil => rfl
  | cons event front ih =>
      rcases event with _ | _ | _ | _ | _ | _ | _ | ⟨saved, _ | _⟩ | _ | _ <;> exact ih _

theorem durable_note (image : SaveImage) {event : Event} (isNote : event.isNote = true) :
    durable image [event] = image := by
  cases event <;> first | rfl | simp [Event.isNote] at isNote

/-- A clean controller holds the given image. -/
def HoldsWhenClean (image : SaveImage) (controller : Mbc6 σ) : Prop :=
  controller.dirty = false → controller.memory = image

omit [SaveStore σ] in
/-- A byte that reaches the flash chip either leaves the memories as they are or marks the
controller. -/
theorem storeFlash_of_clean {controller : Mbc6 σ} {address : Flash.Address} {byte : UInt8}
    (clean : (controller.storeFlash address byte).state.dirty = false) :
    (controller.storeFlash address byte).state.memory = controller.memory ∧
      controller.dirty = false := by
  simp only [storeFlash, Bool.or_eq_false_iff] at clean ⊢
  obtain ⟨cleanBefore, unmodified⟩ := clean
  rw [Flash.Action.apply_eq_self unmodified]
  exact ⟨rfl, cleanBefore⟩

omit [SaveStore σ] in
theorem HoldsWhenClean.storeFlash {image : SaveImage} {controller : Mbc6 σ}
    (holds : HoldsWhenClean image controller) (address : Flash.Address) (byte : UInt8) :
    HoldsWhenClean image (controller.storeFlash address byte).state := by
  intro clean
  obtain ⟨unchanged, cleanBefore⟩ := storeFlash_of_clean clean
  rw [unchanged]
  exact holds cleanBefore

theorem HoldsWhenClean.step {image : SaveImage} {before after : Mbc6 σ} {events : List Event}
    (step : Step before events after) (holds : HoldsWhenClean image before) :
    HoldsWhenClean (durable image events) after := by
  cases step with
  | note isNote =>
      rw [durable_note image isNote]
      exact holds
  | registers | enable | writeEnable => exact holds
  | ram =>
      intro clean
      contradiction
  | flash address byte => exact holds.storeFlash address byte
  | saved =>
      intro _
      rfl
  | saveFailed => exact holds

theorem HoldsWhenClean.steps {image : SaveImage} {before after : Mbc6 σ} {events : List Event}
    (steps : Steps before events after) (holds : HoldsWhenClean image before) :
    HoldsWhenClean (durable image events) after := by
  induction steps with
  | refl => exact holds
  | tail _ last ih =>
      rw [durable_append]
      exact ih.step last

/-- An attempt to save hands RAM and flash to the battery, and its result is the answer. -/
theorem exists_save_of_attempt {operation : Bus.Operation} {controller : Mbc6 σ}
    {image : SaveImage} {result : Except StoreError Unit}
    (attempt : .saveAttempt image result ∈ (Bus.perform operation controller).events) :
    ∃ store, controller.battery = some store ∧ image = controller.memory ∧
      result = (SaveStore.save image store).result ∧
      (Bus.perform operation controller).state.battery =
        some (SaveStore.save image store).store := by
  obtain ⟨attempts, battery⟩ := settle_perform operation controller
  rw [← Event.mem_attempts_iff, attempts] at attempt
  cases occasion : controller.isSaveOccasion operation with
  | false => simp [occasion] at attempt
  | true =>
      rw [occasion, if_pos rfl] at attempt battery
      obtain ⟨reply, isDue, same⟩ := List.mem_map.mp attempt
      obtain ⟨rfl, rfl⟩ := Prod.mk.inj same
      have due := Option.mem_toList.mp isDue
      obtain ⟨-, store, present, rfl⟩ := due?_eq_some_iff.mp due
      refine ⟨store, present, rfl, rfl, ?_⟩
      rw [battery, settledBattery, due]
      rfl

/-- Whatever is done with a cartridge, and whichever saves fail, its memories are durable whenever
it is clean. -/
theorem memory_eq_durable_of_clean {bytes : ByteArray}
    (legal : 0 < bytes.size ∧ bytes.size % 0x4000 = 0) {battery : Option σ}
    {kept : Option SaveImage} (yields : Yields battery kept) :
    ∃ start : Mbc6 σ, (powerOn bytes battery).1 = .ok start ∧
      start.memory = kept.getD .blank ∧
      ∀ operations,
        let after := (Bus.run operations start).state
        (after.dirty = false →
          after.memory = durable (kept.getD .blank) (Bus.run operations start).events) ∧
        ∀ operation image result,
          .saveAttempt image result ∈ (Bus.perform operation after).events →
            ∃ store, after.battery = some store ∧ image = after.memory ∧
              result = (SaveStore.save image store).result ∧
              (Bus.perform operation after).state.battery =
                some (SaveStore.save image store).store := by
  refine ⟨_, powerOn_eq_ok legal yields, rfl, ?_⟩
  intro operations after
  refine ⟨?_, fun _ _ _ => exists_save_of_attempt⟩
  intro clean
  have holds : HoldsWhenClean (kept.getD .blank)
      (initial ⟨bytes, legal.1, legal.2⟩ (kept.getD .blank) (loaded battery)) := fun _ => rfl
  exact holds.steps (steps_run operations _) clean

/-- The RAM is written, its disabling fails to save, and the flush that follows succeeds. -/
theorem memory_eq_durable_of_retried_save :
    ∃ start : Mbc6 FailingStore,
      let operations : List Bus.Operation :=
        [.store 0x0000 0x0A, .store 0xA000 0x42, .store 0x0000 0x00, .flush]
      (powerOn smallestRom (some (⟨none, 1⟩ : FailingStore))).1 = .ok start ∧
        (Bus.run operations start).state.dirty = false ∧
          (Bus.run operations start).state.memory =
            durable .blank (Bus.run operations start).events := by
  have yields : Yields (some (⟨none, 1⟩ : FailingStore)) none := rfl
  obtain ⟨start, on, _, durable_of_clean⟩ := memory_eq_durable_of_clean legal_smallestRom yields
  rw [powerOn_eq_ok legal_smallestRom yields] at on
  obtain rfl := Except.ok.inj on
  refine ⟨_, powerOn_eq_ok legal_smallestRom yields, ?clean, (durable_of_clean _).1 ?clean⟩
  simp [Bus.run, Bus.perform, Bus.store, Bus.flush, Bus.area, BankController.storeRom,
    BankController.storeRam, BankController.flush, storeRom, StoreTarget.ofAddress?, storeTarget,
    storeRamEnable, flushQuietly, flush, storeRam, initial, loaded, Registers.initial,
    SaveImage.blank, SaveStore.load, SaveStore.save]

end Mbc6
end FlashCartridge
