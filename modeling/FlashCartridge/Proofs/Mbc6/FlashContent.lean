import FlashCartridge.Proofs.Flash.Content
import FlashCartridge.Proofs.Mbc6.FlashAccess

/-!
# What the flash chip of a cartridge holds

Over a whole run the array changes by the actions of the chip and by nothing else, so that each byte
is its last erased or loaded value masked by the pages committed since. What is committed are the
bytes that the chip has collected.
-/

namespace FlashCartridge
namespace Mbc6

open Flash

variable {σ : Type} [SaveStore σ]

theorem Step.flash_eq {before after : Mbc6 σ} {events : List Event}
    (step : Step before events after) :
    after.memory.flash = Action.applyAll (Event.actions events) before.memory.flash := by
  cases step with
  | note isNote =>
      rw [Event.actions_of_note isNote]
      rfl
  | _ => rfl

/-- The array changes by the actions of the chip only. -/
theorem Steps.flash_eq {before after : Mbc6 σ} {events : List Event}
    (steps : Steps before events after) :
    after.memory.flash = Action.applyAll (Event.actions events) before.memory.flash := by
  induction steps with
  | refl => rfl
  | tail _ last ih =>
      rw [Event.actions_append, Action.applyAll_append, ← ih]
      exact last.flash_eq

theorem flash_perform (operation : Bus.Operation) (controller : Mbc6 σ) :
    (Bus.perform operation controller).state.memory.flash =
      (controller.flashWrite? operation).elim controller.memory.flash
        fun write => (controller.chip.action write.1 write.2).apply controller.memory.flash := by
  rw [(steps_perform operation controller).flash_eq, actions_perform]
  cases controller.flashWrite? operation with
  | none => rfl
  | some write => rfl

/-- Only a byte that reaches the chip, and erases the place or commits its page, changes the array
there. -/
theorem exists_write_of_get_ne {operation : Bus.Operation} {controller : Mbc6 σ} {place : Address}
    (changed : (Bus.perform operation controller).state.memory.flash.get place ≠
      controller.memory.flash.get place) :
    ∃ address byte, controller.flashWrite? operation = some (address, byte) ∧
      ((controller.chip.action address byte).erases place = true ∨
        ((controller.chip.action address byte).merged? place).isSome = true) := by
  rw [flash_perform] at changed
  cases reached : controller.flashWrite? operation with
  | none => simp [reached] at changed
  | some write =>
      rw [reached] at changed
      exact ⟨write.1, write.2, rfl, Action.covers_of_get_ne changed⟩

theorem exists_erasure_of_testBit {operation : Bus.Operation} {controller : Mbc6 σ}
    {place : Address} {bit : Nat}
    (clear : (controller.memory.flash.get place).toNat.testBit bit = false)
    (set : ((Bus.perform operation controller).state.memory.flash.get place).toNat.testBit bit =
      true) :
    ∃ address byte, controller.flashWrite? operation = some (address, byte) ∧
      (controller.chip.action address byte).erases place = true := by
  rw [flash_perform] at set
  cases reached : controller.flashWrite? operation with
  | none => simp [reached, clear] at set
  | some write =>
      rw [reached] at set
      exact ⟨write.1, write.2, rfl, Action.erases_of_testBit clear set⟩

/-- What an operation commits is the page that the chip has collected. -/
theorem buffer_of_commit {controller : Mbc6 σ} (reachable : Reachable controller)
    {operation : Bus.Operation} {page : Page} {data : Memory pageSize}
    (commits : .commit page data ∈ Event.actions (Bus.perform operation controller).events) :
    controller.chip.buffer.page? = some page ∧
      data = controller.chip.buffer.data.set lastOffset 0x00 := by
  rw [actions_perform] at commits
  cases reached : controller.flashWrite? operation with
  | none => simp [reached] at commits
  | some write =>
      rw [reached] at commits
      exact reachable.wellFormed_device.of_commit (List.mem_singleton.mp commits).symm

/-- Every byte of the array is what the last erasure or the battery has left there, masked by the
pages that were committed since. -/
theorem flash_get_run {bytes : ByteArray} (legal : 0 < bytes.size ∧ bytes.size % 0x4000 = 0)
    {battery : Option σ} {kept : Option SaveImage} (yields : Yields battery kept) :
    ∃ start : Mbc6 σ, (powerOn bytes battery).1 = .ok start ∧ ∀ operations place,
      let after := Bus.run operations start
      after.state.memory.flash.get place =
          Action.content place (Event.actions after.events)
            ((kept.getD .blank).flash.get place) ∧
        ∀ operation,
          let next := Bus.perform operation after.state
          (next.state.memory.flash.get place ≠ after.state.memory.flash.get place →
            ∃ address byte, after.state.flashWrite? operation = some (address, byte) ∧
              ((after.state.chip.action address byte).erases place = true ∨
                ((after.state.chip.action address byte).merged? place).isSome = true)) ∧
          (∀ bit, (after.state.memory.flash.get place).toNat.testBit bit = false →
            (next.state.memory.flash.get place).toNat.testBit bit = true →
              ∃ address byte, after.state.flashWrite? operation = some (address, byte) ∧
                (after.state.chip.action address byte).erases place = true) ∧
          ∀ page data, .commit page data ∈ Event.actions next.events →
            after.state.chip.buffer.page? = some page ∧
              data = after.state.chip.buffer.data.set lastOffset 0x00 := by
  refine ⟨_, powerOn_eq_ok legal yields, ?_⟩
  intro operations place after
  have reachable : Reachable after.state := (reachable_initial legal yields).run operations
  constructor
  · rw [(steps_run operations _).flash_eq]
    exact Action.get_applyAll _ _ place
  · intro operation next
    refine ⟨exists_write_of_get_ne, ?_, fun page data => buffer_of_commit reachable⟩
    intro bit clear set
    exact exists_erasure_of_testBit clear set

/-- A sector of the loaded image is erased and a page of it committed, then a page of a sector that
was not erased. -/
theorem flash_get_run_of_loadedImage :
    let image : SaveImage := { SaveImage.blank with flash := Memory.replicate size 0xF7 }
    let command (byte : UInt8) : List Bus.Operation :=
      [.store 0x5555 0xAA, .store 0x6AAA 0x55, .store 0x5555 byte]
    let operations : List Bus.Operation :=
      [.store 0x2000 0x02, .store 0x2800 0x01, .store 0x3000 0x01, .store 0x3800 0x01,
        .store 0x1000 0x01] ++
      command 0x80 ++ [.store 0x5555 0xAA, .store 0x6AAA 0x55, .store 0x4000 0x30] ++
      command 0xA0 ++ [.store 0x4003 0x0F, .store 0x407F 0x12, .store 0x407F 0x00,
        .store 0x407F 0xF0] ++
      command 0xA0 ++ [.store 0x6003 0x0F, .store 0x607F 0x12, .store 0x607F 0x00]
    ∃ start : Mbc6 FailingStore,
      (powerOn smallestRom (some (⟨some image, 1⟩ : FailingStore))).1 = .ok start ∧
        let flash := (Bus.run operations start).state.memory.flash
        flash.get 0x4003 = 0x0F ∧ flash.get 0x4103 = 0xFF ∧ flash.get 0x2003 = 0x07 ∧
          flash.get 0x6003 = 0xF7 := by
  intro image command operations
  have yields : Yields (some (⟨some image, 1⟩ : FailingStore)) (some image) := rfl
  obtain ⟨start, on, law⟩ := flash_get_run legal_smallestRom yields
  have content (place : Address) : (Bus.run operations start).state.memory.flash.get place =
      Action.content place (Event.actions (Bus.run operations start).events) 0xF7 := by
    have loaded : image.flash.get place = 0xF7 := Memory.get_replicate ..
    rw [← loaded]
    exact (law operations place).1
  refine ⟨start, on, ?_⟩
  simp only [content]
  rw [powerOn_eq_ok legal_smallestRom yields] at on
  obtain rfl := Except.ok.inj on
  refine ⟨?_, ?_, ?_, ?_⟩
  all_goals decide +kernel

end Mbc6
end FlashCartridge
