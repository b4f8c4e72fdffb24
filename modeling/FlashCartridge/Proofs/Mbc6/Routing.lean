import Mathlib.Logic.Basic
import FlashCartridge.Proofs.Flash.Device
import FlashCartridge.Proofs.Mbc6.Step

/-!
# Which operations reach the flash chip

Among all bus operations only a store through a window that shows the flash chip, made while the
chip is not write protected, lets a byte reach it. `flashWrite?` finds that byte and its place;
every other operation reports no action of the chip.
-/

namespace FlashCartridge

/-- The action of the chip that an event reports, if any. -/
def Event.action? : Event → Option Flash.Action
  | .flashWrite _ _ action => some action
  | _ => none

/-- The actions of the chip in a history. -/
def Event.actions (events : List Event) : List Flash.Action := events.filterMap Event.action?

theorem Event.actions_append (front back : List Event) :
    Event.actions (front ++ back) = Event.actions front ++ Event.actions back :=
  List.filterMap_append

theorem Event.actions_of_note {event : Event} (isNote : event.isNote = true) :
    Event.actions [event] = [] := by
  cases event <;> first | rfl | simp [Event.isNote] at isNote

namespace Mbc6

theorem StoreTarget.ofAddress?_eq_none {address : UInt16} (outside : ¬ address < 0x8000) :
    StoreTarget.ofAddress? address = none := by
  have above (bound : UInt16) (le : bound ≤ 0x8000) : ¬ address < bound := fun below =>
    outside (UInt16.lt_of_lt_of_le below le)
  have other : address ≠ 0x1000 := by
    rintro rfl
    contradiction
  simp [StoreTarget.ofAddress?, above, other]

/-- The addresses from which a write reaches a target: the first one, and the one behind the last
one. -/
def StoreTarget.bounds : StoreTarget → Nat × Nat
  | .ramEnable => (0x0000, 0x0400)
  | .ramBank .a => (0x0400, 0x0800)
  | .ramBank .b => (0x0800, 0x0C00)
  | .flashEnable => (0x0C00, 0x1000)
  | .flashWriteEnable => (0x1000, 0x1001)
  | .nothing => (0x1001, 0x2000)
  | .bank .a => (0x2000, 0x2800)
  | .memory .a => (0x2800, 0x3000)
  | .bank .b => (0x3000, 0x3800)
  | .memory .b => (0x3800, 0x4000)
  | .window .a => (0x4000, 0x6000)
  | .window .b => (0x6000, 0x8000)

/-- A write reaches a target exactly from the addresses that belong to it. -/
theorem StoreTarget.ofAddress?_eq_some_iff {address : UInt16} {target : StoreTarget} :
    StoreTarget.ofAddress? address = some target ↔
      target.bounds.1 ≤ address.toNat ∧ address.toNat < target.bounds.2 := by
  simp only [StoreTarget.ofAddress?, UInt16.lt_iff_toNat_lt, ← UInt16.toNat_inj,
    UInt16.reduceToNat, ite_eq_iff, Option.some.injEq]
  constructor
  · intro found
    iterate 12
      rcases found with ⟨inside, rfl⟩ | ⟨outside, found⟩
      · dsimp only [bounds]
        omega
    contradiction
  · intro inside
    rcases target with _ | (_ | _) | _ | _ | _ | (_ | _) | (_ | _) | (_ | _) <;>
      simp [bounds] at inside ⊢ <;> omega

theorem area_of_storeTarget {address : UInt16} {target : StoreTarget}
    (found : StoreTarget.ofAddress? address = some target) : Bus.area address = .rom := by
  by_cases inside : address < 0x8000
  · exact if_pos inside
  · rw [StoreTarget.ofAddress?_eq_none inside] at found
    contradiction

variable {σ : Type} [SaveStore σ]

/-- The flash chip of a controller, with its array. -/
def device (controller : Mbc6 σ) : Flash.Device := ⟨controller.chip, controller.memory.flash⟩

theorem state_load (address : UInt16) (controller : Mbc6 σ) :
    (Bus.load address controller).state = controller := by
  rw [Bus.load]
  split <;> rfl

theorem state_store {address : UInt16} {target : StoreTarget}
    (found : StoreTarget.ofAddress? address = some target) (byte : UInt8)
    (controller : Mbc6 σ) :
    (Bus.store address byte controller).state =
      (controller.storeTarget address byte target).state := by
  simp [Bus.store, area_of_storeTarget found, BankController.storeRom, storeRom, found]

theorem events_store {address : UInt16} {target : StoreTarget}
    (found : StoreTarget.ofAddress? address = some target) (byte : UInt8)
    (controller : Mbc6 σ) :
    (Bus.store address byte controller).events =
      .romAreaStore address byte :: (controller.storeTarget address byte target).events := by
  simp [Bus.store, area_of_storeTarget found, BankController.storeRom, storeRom, found]

/-! ## Places in flash -/

/-- The window of the ROM area that an address lies in, if it lies in one. -/
def romWindow? (address : UInt16) : Option Window :=
  if 0x4000 ≤ address ∧ address < 0x6000 then some .a
  else if 0x6000 ≤ address ∧ address < 0x8000 then some .b
  else none

theorem ofAddress?_eq_window_iff {address : UInt16} {window : Window} :
    StoreTarget.ofAddress? address = some (.window window) ↔ romWindow? address = some window := by
  simp only [StoreTarget.ofAddress?_eq_some_iff, romWindow?, UInt16.lt_iff_toNat_lt,
    UInt16.le_iff_toNat_le, UInt16.reduceToNat, ite_eq_iff, Option.some.injEq]
  cases window with
  | a => simp [StoreTarget.bounds]
  | b =>
      simp [StoreTarget.bounds]
      omega

/-- The place in the array that an address shows in a window with the given bank. -/
def bankPlace (bank : Fin 128) (address : UInt16) : Flash.Address :=
  ⟨bank.val * 0x2000 + address.toNat % 0x2000, by
    have := bank.isLt
    simp only [Flash.size]
    omega⟩

theorem val_bankPlace (bank : Fin 128) (address : UInt16) :
    (bankPlace bank address).val = bank.val * 0x2000 + address.toNat % 0x2000 := rfl

theorem offset_eq_bankPlace (mapping : Mapping) (address : UInt16) :
    mapping.offset address = bankPlace mapping.bank address := rfl

omit [SaveStore σ] in
theorem storeWindow_eq_storeFlash {controller : Mbc6 σ} {window : Window}
    (shown : (controller.registers.mapping.get window).flash = true)
    (writable : controller.chip.master.writeEnabled = true) (address : UInt16) (byte : UInt8) :
    controller.storeWindow window address byte =
      controller.storeFlash (bankPlace (controller.registers.mapping.get window).bank address)
        byte := by
  simp [storeWindow, shown, writable, offset_eq_bankPlace]

/-- The place in the array that an address on the bus shows, if it shows one. -/
def flashPlace? (controller : Mbc6 σ) (address : UInt16) : Option Flash.Address :=
  (romWindow? address).bind fun window =>
    let mapping := controller.registers.mapping.get window
    if mapping.flash then some (bankPlace mapping.bank address) else none

/-- The write to the flash chip that a bus operation comes to, if any. -/
def flashWrite? (controller : Mbc6 σ) : Bus.Operation → Option (Flash.Address × UInt8)
  | .store address byte =>
    if controller.chip.master.writeEnabled then
      (controller.flashPlace? address).map fun place => (place, byte)
    else none
  | .load _ | .flush => none

omit [SaveStore σ] in
theorem flashWrite?_store (controller : Mbc6 σ) (address : UInt16) (byte : UInt8) :
    controller.flashWrite? (.store address byte) =
      match StoreTarget.ofAddress? address with
      | some (.window window) =>
        let mapping := controller.registers.mapping.get window
        if mapping.flash && controller.chip.master.writeEnabled then
          some (bankPlace mapping.bank address, byte)
        else
          none
      | _ => none := by
  simp only [flashWrite?, flashPlace?]
  cases inside : romWindow? address with
  | some window =>
      rw [ofAddress?_eq_window_iff.mpr inside]
      cases shown : (controller.registers.mapping.get window).flash <;> simp [shown]
  | none =>
      have outside (window : Window) : StoreTarget.ofAddress? address ≠ some (.window window) := by
        rw [ne_eq, ofAddress?_eq_window_iff, inside]
        simp
      cases found : StoreTarget.ofAddress? address with
      | none => simp
      | some target =>
          cases target with
          | window window => exact absurd found (outside window)
          | _ => simp

/-! ## The actions of the chip -/

theorem actions_flush (controller : Mbc6 σ) : Event.actions controller.flush.events = [] := by
  have notes (entries : List Log.Entry) : Event.actions (entries.map Event.storeNote) = [] := by
    simp [Event.actions, Event.action?, List.filterMap_map]
  have attempt (image : SaveImage) (result : Except StoreError Unit) (entries : List Log.Entry) :
      Event.actions (.saveAttempt image result :: entries.map Event.storeNote) = [] := notes entries
  rw [flush]
  split
  · cases controller.battery with
    | none => rfl
    | some store =>
        cases result : (SaveStore.save controller.memory store).result with
        | ok => simpa only [result] using attempt _ _ _
        | error cause => simpa only [result] using attempt _ _ _
  · rfl

theorem actions_flushQuietly (controller : Mbc6 σ) :
    Event.actions controller.flushQuietly.events = [] := by
  have flushed := actions_flush controller
  rw [flushQuietly]
  cases controller.flush.value with
  | ok => exact flushed
  | error error =>
      rw [Event.actions_append, flushed]
      rfl

theorem actions_storeTarget (controller : Mbc6 σ) (address : UInt16) (byte : UInt8)
    {target : StoreTarget} (found : StoreTarget.ofAddress? address = some target) :
    Event.actions (controller.storeTarget address byte target).events =
      (controller.flashWrite? (.store address byte)).elim []
        fun write => [controller.chip.action write.1 write.2] := by
  rw [flashWrite?_store, found]
  cases target with
  | ramEnable =>
      rw [storeTarget, storeRamEnable]
      split
      · exact actions_flushQuietly controller
      · rfl
  | flashEnable =>
      rw [storeTarget]
      split <;> rfl
  | window window =>
      cases shown : (controller.registers.mapping.get window).flash with
      | false => simp [storeTarget, storeWindow, shown, Event.actions, Event.action?]
      | true =>
          cases writable : controller.chip.master.writeEnabled with
          | false => simp [storeTarget, storeWindow, shown, writable, Event.actions, Event.action?]
          | true =>
              rw [storeTarget, storeWindow_eq_storeFlash shown writable]
              simp [shown, storeFlash, Event.actions, Event.action?]
  | _ => rfl

/-- An operation reports the action for the byte that it lets reach the chip, and no other. -/
theorem actions_perform (operation : Bus.Operation) (controller : Mbc6 σ) :
    Event.actions (Bus.perform operation controller).events =
      (controller.flashWrite? operation).elim []
        fun write => [controller.chip.action write.1 write.2] := by
  cases operation with
  | load address =>
      rw [Bus.perform, Bus.load]
      split <;> rfl
  | store address byte =>
      cases found : StoreTarget.ofAddress? address with
      | some target =>
          rw [Bus.perform, events_store found, ← actions_storeTarget controller address byte found]
          rfl
      | none =>
          rw [Bus.perform, Bus.store, flashWrite?_store, found]
          split
          · simp [BankController.storeRom, storeRom, found, Event.actions, Event.action?]
          · rfl
          · rfl
  | flush => exact actions_flush controller

end Mbc6
end FlashCartridge
