import FlashCartridge.Proofs.Mbc6.RamContent

/-!
# When a cartridge saves

A controller is dirty exactly if something has changed since the last successful save. The save
store is asked once on every occasion at which a controller with a battery is dirty, and at no other
time; an occasion is a flush, a store that disables the enabled RAM, or the end of the session. A
save that fails changes nothing but the store.
-/

namespace FlashCartridge

theorem Event.mem_attempts_iff {image : SaveImage} {result : Except StoreError Unit}
    {events : List Event} :
    (image, result) ∈ Event.attempts events ↔ .saveAttempt image result ∈ events := by
  rw [Event.attempts, List.mem_filterMap]
  constructor
  · rintro ⟨event, member, reported⟩
    cases event <;>
      simp only [Event.attempt?, Option.some.injEq, Prod.mk.injEq, reduceCtorEq] at reported
    obtain ⟨rfl, rfl⟩ := reported
    exact member
  · intro member
    exact ⟨_, member, rfl⟩

/-- No attempt to save was a success. -/
def Event.NothingSaved (events : List Event) : Prop :=
  ∀ image, .saveAttempt image (.ok ()) ∉ events

namespace Mbc6

theorem StoreTarget.ofAddress?_eq_ramEnable_iff {address : UInt16} :
    StoreTarget.ofAddress? address = some .ramEnable ↔ address < 0x0400 := by
  have pass {condition : Prop} [Decidable condition] {target : StoreTarget}
      {rest : Option StoreTarget} (other : target ≠ .ramEnable)
      (later : rest ≠ some .ramEnable) :
      (if condition then some target else rest) ≠ some .ramEnable := by
    by_cases holds : condition
    · rw [if_pos holds]
      exact fun same => other (Option.some.inj same)
    · rwa [if_neg holds]
  by_cases below : address < 0x0400
  · exact iff_of_true (if_pos below) below
  · rw [StoreTarget.ofAddress?, if_neg below]
    refine iff_of_false ?_ below
    iterate 11 refine pass (by decide) ?_
    simp

variable {σ : Type} [SaveStore σ]

/-! ## The requests to the save store -/

/-- Whether an operation is an occasion to save. -/
def isSaveOccasion (controller : Mbc6 σ) : Bus.Operation → Bool
  | .flush => true
  | .store address byte => address < 0x0400 && byte != 0x0A && controller.registers.ramEnabled
  | .load _ => false

/-- The request that is due, with the answer of the store. -/
def dueAttempts (controller : Mbc6 σ) : List (SaveImage × Except StoreError Unit) :=
  controller.due?.toList.map fun reply => (controller.memory, reply.result)

/-- The battery once the request that is due was made. -/
def settledBattery (controller : Mbc6 σ) : Option σ :=
  controller.due?.elim controller.battery fun reply => some reply.store

theorem dueAttempts_of_dirty {controller : Mbc6 σ} {store : σ}
    (battery : controller.battery = some store) (dirty : controller.dirty = true) :
    controller.dueAttempts =
      [(controller.memory, (SaveStore.save controller.memory store).result)] := by
  have due : controller.due? = some (SaveStore.save controller.memory store) :=
    due?_eq_some_iff.mpr ⟨dirty, store, battery, rfl⟩
  rw [dueAttempts, due]
  rfl

theorem dueAttempts_of_clean {controller : Mbc6 σ} (clean : controller.dirty = false) :
    controller.dueAttempts = [] := by
  have idle : controller.due? = none := due?_eq_none_iff.mpr (.inl clean)
  rw [dueAttempts, idle]
  rfl

theorem attempts_flush (controller : Mbc6 σ) :
    Event.attempts controller.flush.events = controller.dueAttempts := by
  cases due : controller.due? with
  | none =>
      rw [flush_of_not_due due, dueAttempts, due]
      rfl
  | some reply =>
      rw [flush_of_due due, dueAttempts, due]
      have notes := Event.attempts_storeNotes reply.log
      simp only [Event.attempts] at notes
      simp [Event.attempts, Event.attempt?, notes]

theorem battery_flush (controller : Mbc6 σ) :
    controller.flush.state.battery = controller.settledBattery := by
  cases due : controller.due? with
  | none => rw [flush_of_not_due due, settledBattery, due, Option.elim]
  | some reply => rw [flush_of_due due, settledBattery, due, Option.elim]

theorem events_flushQuietly (controller : Mbc6 σ) :
    controller.flushQuietly.events =
      controller.flush.events ++
        match controller.flush.value with
        | .ok () => []
        | .error error => [.saveFailed error] := by
  rw [flushQuietly]
  cases controller.flush.value with
  | ok => simp
  | error error => rfl

theorem attempts_flushQuietly (controller : Mbc6 σ) :
    Event.attempts controller.flushQuietly.events = controller.dueAttempts := by
  rw [events_flushQuietly, Event.attempts_append, attempts_flush]
  cases controller.flush.value with
  | ok => exact List.append_nil _
  | error error => exact List.append_nil _

theorem attempts_powerOff (controller : Mbc6 σ) :
    Event.attempts controller.powerOff.events = controller.dueAttempts :=
  attempts_flushQuietly controller

theorem state_powerOff (controller : Mbc6 σ) :
    controller.powerOff.state = controller.settledBattery := by
  rw [powerOff, state_flushQuietly]
  exact battery_flush controller

omit [SaveStore σ] in
theorem battery_storeRam (controller : Mbc6 σ) (distance : UInt16) (byte : UInt8) :
    (controller.storeRam distance byte).battery = controller.battery := by
  simp only [storeRam]
  split_ifs <;> rfl

theorem settle_storeRamEnable (controller : Mbc6 σ) (byte : UInt8) :
    Event.attempts (controller.storeRamEnable byte).events =
        (if byte != 0x0A && controller.registers.ramEnabled then controller.dueAttempts else []) ∧
      (controller.storeRamEnable byte).state.battery =
        if byte != 0x0A && controller.registers.ramEnabled then controller.settledBattery
        else controller.battery := by
  rw [storeRamEnable, Bool.and_comm (byte != 0x0A)]
  dsimp only [bne]
  split
  · rw [attempts_flushQuietly, state_flushQuietly, battery_flush]
    exact ⟨rfl, rfl⟩
  · exact ⟨rfl, rfl⟩

theorem settle_storeTarget (controller : Mbc6 σ) (address : UInt16) (byte : UInt8)
    {target : StoreTarget} (other : target ≠ .ramEnable) :
    Event.attempts (controller.storeTarget address byte target).events = [] ∧
      (controller.storeTarget address byte target).state.battery = controller.battery := by
  cases target with
  | ramEnable => exact absurd rfl other
  | flashEnable =>
      rw [storeTarget]
      split <;> exact ⟨rfl, rfl⟩
  | window window =>
      rw [storeTarget, storeWindow]
      split_ifs <;> exact ⟨rfl, rfl⟩
  | _ => exact ⟨rfl, rfl⟩

/-- The save store is asked for what is due on every occasion to save, and at no other time. -/
theorem settle_perform (operation : Bus.Operation) (controller : Mbc6 σ) :
    Event.attempts (Bus.perform operation controller).events =
        (if controller.isSaveOccasion operation then controller.dueAttempts else []) ∧
      (Bus.perform operation controller).state.battery =
        if controller.isSaveOccasion operation then controller.settledBattery
        else controller.battery := by
  cases operation with
  | load address =>
      rw [Bus.perform, Bus.load]
      split <;> exact ⟨rfl, rfl⟩
  | store address byte =>
      cases found : StoreTarget.ofAddress? address with
      | some target =>
          have stored : Event.attempts (Bus.perform (.store address byte) controller).events =
              Event.attempts (controller.storeTarget address byte target).events := by
            rw [Bus.perform, events_store found]
            rfl
          rw [stored, Bus.perform, state_store found]
          by_cases enable : target = .ramEnable
          · subst enable
            have below := StoreTarget.ofAddress?_eq_ramEnable_iff.mp found
            simpa [isSaveOccasion, below, storeTarget] using settle_storeRamEnable controller byte
          · have above : ¬ address < 0x0400 := fun below => by
              rw [StoreTarget.ofAddress?_eq_ramEnable_iff.mpr below] at found
              exact enable (Option.some.inj found).symm
            simpa [isSaveOccasion, above] using settle_storeTarget controller address byte enable
      | none =>
          have above : ¬ address < 0x0400 := fun below => by
            rw [StoreTarget.ofAddress?_eq_ramEnable_iff.mpr below] at found
            contradiction
          have notOccasion : controller.isSaveOccasion (.store address byte) = false := by
            simp [isSaveOccasion, above]
          rw [notOccasion, Bus.perform, Bus.store]
          split
          · simp only [BankController.storeRom, storeRom, found]
            exact ⟨rfl, rfl⟩
          · exact ⟨rfl, battery_storeRam controller _ byte⟩
          · exact ⟨rfl, rfl⟩
  | flush => exact ⟨attempts_flush controller, battery_flush controller⟩

/-! ## The mark of a change -/

/-- Whether an operation changes what a save would keep: it stores another byte than the present one
into a cell of the RAM, or lets a byte reach the chip that erases flash or commits a page. -/
def Changes (controller : Mbc6 σ) (operation : Bus.Operation) : Prop :=
  (∃ bank offset byte, controller.ramStore? bank offset operation = some byte ∧
    controller.memory.ram.get (ramCell bank offset) ≠ byte) ∨
  ∃ address byte, controller.flashWrite? operation = some (address, byte) ∧
    let action := controller.chip.action address byte
    action = .eraseChip ∨ (∃ sector, action = .eraseSector sector) ∨
      ∃ page data, action = .commit page data

omit [SaveStore σ] in
theorem dirty_storeRam (controller : Mbc6 σ) (distance : UInt16) (byte : UInt8) :
    (controller.storeRam distance byte).dirty = true ↔
      (controller.registers.ramEnabled = true ∧
        controller.memory.ram.get (controller.registers.ramOffset distance) ≠ byte) ∨
      controller.dirty = true := by
  rw [storeRam]
  by_cases enabled : controller.registers.ramEnabled = true
  · rw [if_pos enabled]
    by_cases same : controller.memory.ram.get (controller.registers.ramOffset distance) = byte <;>
      simp [enabled, same]
  · rw [if_neg enabled]
    simp [enabled]

omit [SaveStore σ] in
theorem changes_ramStore_iff (controller : Mbc6 σ) (window : Window)
    (place : Fin Registers.ramBankSize) (byte : UInt8) :
    controller.Changes (.store (ramAddress window place) byte) ↔
      controller.registers.ramEnabled = true ∧
        controller.memory.ram.get (ramCell (controller.registers.ramBank.get window) place) ≠
          byte := by
  have unreached : controller.flashWrite? (.store (ramAddress window place) byte) = none := by
    obtain ⟨distance, inside, _⟩ := area_ramAddress window place
    cases found : StoreTarget.ofAddress? (ramAddress window place) with
    | none => rw [flashWrite?_store, found]
    | some target =>
        rw [area_of_storeTarget found] at inside
        contradiction
  constructor
  · rintro (⟨bank, offset, stored, store, different⟩ | ⟨address, stored, reached, _⟩)
    · rw [ramStore?_store] at store
      split at store
      · rename_i shown
        obtain rfl := Option.some.inj store
        rw [shown.2]
        exact ⟨shown.1, different⟩
      · contradiction
    · rw [unreached] at reached
      contradiction
  · rintro ⟨enabled, different⟩
    refine .inl ⟨controller.registers.ramBank.get window, place, byte, ?_, different⟩
    rw [ramStore?_store, if_pos ⟨enabled, rfl⟩]

omit [SaveStore σ] in
theorem changes_iff_of_ne {operation : Bus.Operation}
    (other : ∀ window offset byte, operation ≠ .store (ramAddress window offset) byte)
    (controller : Mbc6 σ) :
    controller.Changes operation ↔
      ∃ address byte, controller.flashWrite? operation = some (address, byte) ∧
        (controller.chip.action address byte).modifies = true := by
  simp only [Flash.Action.modifies_iff]
  rw [Changes, or_iff_right]
  rintro ⟨bank, offset, byte, store, _⟩
  rw [ramStore?_eq_none other] at store
  contradiction

theorem dirty_flush (controller : Mbc6 σ) :
    controller.flush.state.dirty = true ↔
      controller.dirty = true ∧ ∀ image, (image, .ok ()) ∉ controller.dueAttempts := by
  rw [dueAttempts]
  cases due : controller.due? with
  | none =>
      rw [flush_of_not_due due]
      simp
  | some reply =>
      have dirty := (due?_eq_some_iff.mp due).1
      rw [flush_of_due due]
      cases result : reply.result with
      | ok => simp [result, Except.toBool]
      | error cause => simp [result, dirty, Except.toBool]

theorem dirty_flush_of_ok {controller : Mbc6 σ} {store : σ}
    (battery : controller.battery = some store) (flushed : controller.flush.value = .ok ()) :
    controller.flush.state.dirty = false := by
  cases due : controller.due? with
  | none =>
      have clean : controller.dirty = false := by
        simpa [battery] using due?_eq_none_iff.mp due
      rw [flush_of_not_due due, clean]
  | some reply =>
      rw [flush_of_due due] at flushed ⊢
      cases result : reply.result with
      | ok => rfl
      | error cause => simp [result, Except.mapError] at flushed

theorem dirty_storeTarget (controller : Mbc6 σ) {address : UInt16} (byte : UInt8)
    {target : StoreTarget} (found : StoreTarget.ofAddress? address = some target)
    (quiet : controller.isSaveOccasion (.store address byte) = false) :
    (controller.storeTarget address byte target).state.dirty = true ↔
      (∃ place stored, controller.flashWrite? (.store address byte) = some (place, stored) ∧
        (controller.chip.action place stored).modifies = true) ∨ controller.dirty = true := by
  rw [flashWrite?_store, found]
  cases target with
  | ramEnable =>
      have below := StoreTarget.ofAddress?_eq_ramEnable_iff.mp found
      have enabling : (controller.registers.ramEnabled && !(byte == 0x0A)) = false := by
        simpa [isSaveOccasion, below, Bool.and_comm, bne] using quiet
      simp [storeTarget, storeRamEnable, enabling]
  | window window =>
      cases shown : (controller.registers.mapping.get window).flash with
      | false => simp [storeTarget, storeWindow, shown]
      | true =>
          cases writable : controller.chip.master.writeEnabled with
          | false => simp [storeTarget, storeWindow, shown, writable]
          | true =>
              rw [storeTarget, storeWindow_eq_storeFlash shown writable]
              simp [storeFlash, shown, or_comm]
  | _ => simp [storeTarget]

omit [SaveStore σ] in
theorem target_of_saveOccasion {controller : Mbc6 σ} {address : UInt16} {byte : UInt8}
    (occasion : controller.isSaveOccasion (.store address byte) = true) :
    StoreTarget.ofAddress? address = some .ramEnable ∧ byte ≠ 0x0A ∧
      controller.registers.ramEnabled = true := by
  simp only [isSaveOccasion, Bool.and_eq_true, decide_eq_true_eq, bne_iff_ne] at occasion
  exact ⟨StoreTarget.ofAddress?_eq_ramEnable_iff.mpr occasion.1.1, occasion.1.2, occasion.2⟩

/-- The RAM is disabled whatever the attempt to save comes to. -/
theorem perform_disable {controller : Mbc6 σ} {address : UInt16} {byte : UInt8}
    (occasion : controller.isSaveOccasion (.store address byte) = true) :
    Bus.perform (.store address byte) controller =
      { state :=
          { controller.flush.state with
            registers := { controller.flush.state.registers with ramEnabled := false } }
        value := .stored (.ok ())
        events := .romAreaStore address byte :: controller.flushQuietly.events } := by
  obtain ⟨found, disabling, enabled⟩ := target_of_saveOccasion occasion
  have notEnable : (byte == 0x0A) = false := by simpa using disabling
  simp [Bus.perform, Bus.store, area_of_storeTarget found, BankController.storeRom, storeRom, found,
    storeTarget, storeRamEnable, enabled, notEnable, state_flushQuietly]

omit [SaveStore σ] in
theorem not_changes_of_saveOccasion {controller : Mbc6 σ} {operation : Bus.Operation}
    (occasion : controller.isSaveOccasion operation = true) : ¬ controller.Changes operation := by
  cases operation with
  | load => contradiction
  | store address byte =>
      have found := (target_of_saveOccasion occasion).1
      have outside : ∀ distance, Bus.area address ≠ .ram distance := by
        simp [area_of_storeTarget found]
      rw [changes_iff_of_ne (store_ne_ramStore outside byte), flashWrite?_store, found]
      rintro ⟨_, _, reached, _⟩
      contradiction
  | flush =>
      have other : ∀ window offset byte,
          Bus.Operation.flush ≠ .store (ramAddress window offset) byte := by simp
      rw [changes_iff_of_ne other]
      rintro ⟨_, _, reached, _⟩
      contradiction

/-- The mark is set by a change and cleared by a successful save. -/
theorem dirty_perform (operation : Bus.Operation) (controller : Mbc6 σ) :
    (Bus.perform operation controller).state.dirty = true ↔
      controller.Changes operation ∨ controller.dirty = true ∧
        Event.NothingSaved (Bus.perform operation controller).events := by
  simp only [Event.NothingSaved, ← Event.mem_attempts_iff, (settle_perform operation controller).1]
  cases occasion : controller.isSaveOccasion operation with
  | true =>
      have flushed : (Bus.perform operation controller).state.dirty =
          controller.flush.state.dirty := by
        cases operation with
        | load => contradiction
        | store address byte => rw [perform_disable occasion]
        | flush => rfl
      rw [flushed, dirty_flush, or_iff_right (not_changes_of_saveOccasion occasion)]
      simp only [if_true]
  | false =>
      simp only [Bool.false_eq_true, if_false, List.not_mem_nil, not_false_eq_true, implies_true,
        and_true]
      cases operation with
      | load address =>
          have same : (Bus.perform (.load address) controller).state = controller :=
            state_load address controller
          have other : ∀ window offset byte,
              Bus.Operation.load address ≠ .store (ramAddress window offset) byte := by simp
          have unreached : controller.flashWrite? (.load address) = none := rfl
          rw [changes_iff_of_ne other, unreached, same]
          simp
      | store address byte =>
          cases found : StoreTarget.ofAddress? address with
          | some target =>
              have outside : ∀ distance, Bus.area address ≠ .ram distance := by
                simp [area_of_storeTarget found]
              rw [changes_iff_of_ne (store_ne_ramStore outside byte), Bus.perform,
                state_store found]
              exact dirty_storeTarget controller byte found occasion
          | none =>
              have unreached : controller.flashWrite? (.store address byte) = none := by
                rw [flashWrite?_store, found]
              cases inside : Bus.area address with
              | ram distance =>
                  obtain ⟨offset, rfl, shown⟩ := area_eq_ram inside
                  rw [changes_ramStore_iff, ← shown, ← dirty_storeRam]
                  simp only [Bus.perform, Bus.store, inside]
                  rfl
              | rom | unmapped =>
                  have outside : ∀ distance, Bus.area address ≠ .ram distance := by simp [inside]
                  rw [changes_iff_of_ne (store_ne_ramStore outside byte), unreached]
                  simp [Bus.perform, Bus.store, inside, BankController.storeRom, storeRom, found]
      | flush => contradiction

section Failure

variable {controller : Mbc6 σ} {reply : StoreReply σ Unit} {cause : StoreError}
  (due : controller.due? = some reply) (failure : reply.result = .error cause)
include due failure

/-- A save that fails is an error of the flush and leaves everything but the store alone. -/
theorem flush_of_failure :
    controller.flush =
      { state := { controller with battery := some reply.store }
        value := .error (.write cause)
        events := .saveAttempt controller.memory (.error cause) :: reply.log.map .storeNote } := by
  have stays : controller.dirty = !(Except.error cause : Except StoreError Unit).toBool :=
    (due?_eq_some_iff.mp due).1
  rw [flush_of_due due, failure, ← stays]
  rfl

end Failure

/-! ## The account of a run -/

theorem battery_run_of_none {controller : Mbc6 σ} (unpowered : controller.battery = none)
    (operations : List Bus.Operation) :
    (Bus.run operations controller).state.battery = none := by
  refine @Steps.preserve σ _ _ _ _ (fun reached => reached.battery = none) ?_
    (steps_run operations controller) unpowered
  intro before after events step none_before
  cases step with
  | saved store _ battery => simp [none_before] at battery
  | saveFailed store cause _ battery => simp [none_before] at battery
  | _ => exact none_before

theorem exists_battery_run {controller : Mbc6 σ} {store : σ}
    (battery : controller.battery = some store) (operations : List Bus.Operation) :
    ∃ left, (Bus.run operations controller).state.battery = some left := by
  refine @Steps.preserve σ _ _ _ _ (fun reached => ∃ left, reached.battery = some left) ?_
    (steps_run operations controller) ⟨store, battery⟩
  intro before after events step present
  cases step with
  | saved | saveFailed => exact ⟨_, rfl⟩
  | _ => exact present

theorem run_writeRam (rom : Rom) (battery : Option σ) :
    let after := (Bus.run [.store 0x0000 0x0A, .store 0xA000 0x42]
      (initial rom .blank battery)).state
    after.dirty = true ∧ after.registers.ramEnabled = true ∧ after.battery = battery ∧
      after.memory.ram.get 0 = 0x42 := by
  simp [Bus.run, Bus.perform, Bus.store, Bus.area, BankController.storeRom,
    BankController.storeRam, storeRom, StoreTarget.ofAddress?, storeTarget, storeRamEnable,
    storeRam, initial, Registers.initial, SaveImage.blank]
  rw [show Registers.ramOffset _ 0 = 0 from Fin.ext rfl, Memory.get_set_self]

end Mbc6
end FlashCartridge
