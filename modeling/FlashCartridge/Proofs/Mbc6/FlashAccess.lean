import FlashCartridge.Proofs.Flash.Invariant
import FlashCartridge.Proofs.Mbc6.Reachable
import FlashCartridge.Proofs.Mbc6.Routing
import FlashCartridge.Proofs.Mbc6.Saving
import FlashCartridge.Proofs.SaveStore

/-!
# The flash chip behind the controller

The controller is nothing but a source of accesses to the flash chip: `flashAccess?` finds the one
that an operation comes to, and chip and array behind the bus are those of the bare chip after these
accesses. What a console reads from flash therefore depends on nothing else.
-/

namespace FlashCartridge
namespace Mbc6

open Flash

variable {σ : Type} [SaveStore σ]

/-! ## Operations and accesses -/

/-- The access to the flash chip that an operation comes to, if any. -/
def flashAccess? (controller : Mbc6 σ) : Bus.Operation → Option Access
  | .store address byte =>
    if 0x0C00 ≤ address ∧ address < 0x1000 then some (.enable byte)
    else if address = 0x1000 then some (.writeEnable byte)
    else if controller.chip.master.writeEnabled then
      (controller.flashPlace? address).map fun place => .write place byte
    else none
  | .load _ | .flush => none

/-- The accesses to the flash chip that a run comes to, in order. -/
def flashAccesses : List Bus.Operation → Mbc6 σ → List Access
  | [], _ => []
  | operation :: rest, controller =>
    (controller.flashAccess? operation).toList ++
      flashAccesses rest (Bus.perform operation controller).state

/-! ## One operation -/

theorem ofAddress?_eq_flashEnable_iff {address : UInt16} :
    StoreTarget.ofAddress? address = some .flashEnable ↔ 0x0C00 ≤ address ∧ address < 0x1000 := by
  rw [StoreTarget.ofAddress?_eq_some_iff, UInt16.le_iff_toNat_le, UInt16.lt_iff_toNat_lt]
  rfl

theorem ofAddress?_eq_flashWriteEnable_iff {address : UInt16} :
    StoreTarget.ofAddress? address = some .flashWriteEnable ↔ address = 0x1000 := by
  rw [StoreTarget.ofAddress?_eq_some_iff, ← UInt16.toNat_inj]
  simp only [StoreTarget.bounds, UInt16.reduceToNat]
  omega

omit [SaveStore σ] in
theorem flashAccess?_store (controller : Mbc6 σ) (address : UInt16) (byte : UInt8) :
    controller.flashAccess? (.store address byte) =
      match StoreTarget.ofAddress? address with
      | some .flashEnable => some (.enable byte)
      | some .flashWriteEnable => some (.writeEnable byte)
      | some (.window window) =>
        let mapping := controller.registers.mapping.get window
        if mapping.flash && controller.chip.master.writeEnabled then
          some (.write (bankPlace mapping.bank address) byte)
        else
          none
      | _ => none := by
  have written : (if controller.chip.master.writeEnabled then
        (controller.flashPlace? address).map fun place => Access.write place byte
      else none) =
      (controller.flashWrite? (.store address byte)).map fun write => .write write.1 write.2 := by
    rw [flashWrite?]
    split
    · rw [Option.map_map]
      rfl
    · rfl
  rw [flashAccess?, written, flashWrite?_store]
  simp only [← ofAddress?_eq_flashEnable_iff, ← ofAddress?_eq_flashWriteEnable_iff]
  cases StoreTarget.ofAddress? address with
  | none => simp
  | some target =>
      cases target with
      | window window =>
          cases shown : (controller.registers.mapping.get window).flash <;> simp [shown]
      | _ => simp

theorem device_flush (controller : Mbc6 σ) :
    controller.flush.state.device = controller.device := by
  cases due : controller.due? with
  | none => rw [flush_of_not_due due]
  | some reply =>
      rw [flush_of_due due]
      rfl

theorem device_storeTarget (controller : Mbc6 σ) (address : UInt16) (byte : UInt8)
    {target : StoreTarget} (found : StoreTarget.ofAddress? address = some target) :
    (controller.storeTarget address byte target).state.device =
      (controller.flashAccess? (.store address byte)).elim controller.device
        fun access => controller.device.perform access := by
  rw [flashAccess?_store, found]
  cases target with
  | ramEnable =>
      rw [storeTarget, storeRamEnable]
      split
      · exact (congrArg device (state_flushQuietly controller)).trans (device_flush controller)
      · rfl
  | window window =>
      cases shown : (controller.registers.mapping.get window).flash with
      | false => simp [storeTarget, storeWindow, shown]
      | true =>
          cases writable : controller.chip.master.writeEnabled with
          | false => simp [storeTarget, storeWindow, shown, writable]
          | true =>
              rw [storeTarget, storeWindow_eq_storeFlash shown writable]
              simp [shown, storeFlash, device, Device.perform, Device.write, Chip.accept]
  | _ => rfl

/-- The chip takes the access that an operation comes to, and nothing else happens to it. -/
theorem device_perform (operation : Bus.Operation) (controller : Mbc6 σ) :
    (Bus.perform operation controller).state.device =
      (controller.flashAccess? operation).elim controller.device
        fun access => controller.device.perform access := by
  cases operation with
  | load address =>
      rw [Bus.perform, Bus.load]
      split <;> rfl
  | store address byte =>
      cases found : StoreTarget.ofAddress? address with
      | some target =>
          rw [Bus.perform, state_store found]
          exact device_storeTarget controller address byte found
      | none =>
          rw [flashAccess?_store, found, Bus.perform, Bus.store]
          split
          · simp [BankController.storeRom, storeRom, found]
          · simp only [BankController.storeRam, storeRam]
            split
            · split <;> rfl
            · rfl
          · rfl
  | flush => exact device_flush controller

theorem load_flashPlace {controller : Mbc6 σ} {address : UInt16} {place : Address}
    (shown : controller.flashPlace? address = some place) :
    (Bus.load address controller).value =
      .ok (controller.chip.load controller.memory.flash place) := by
  obtain ⟨window, inside, shows⟩ := Option.bind_eq_some_iff.mp shown
  have area := area_of_storeTarget (ofAddress?_eq_window_iff.mpr inside)
  have target : LoadTarget.ofAddress? address = some (.window window) := by
    simp only [romWindow?, LoadTarget.ofAddress?, UInt16.lt_iff_toNat_lt, UInt16.le_iff_toNat_le,
      UInt16.reduceToNat, ite_eq_iff, Option.some.injEq] at inside ⊢
    cases window <;> simp at inside ⊢ <;> omega
  dsimp only at shows
  split at shows
  · rename_i flash
    obtain rfl := Option.some.inj shows
    simp only [Bus.load, area, BankController.loadRom, loadRom, target, loadWindow, flash, if_true,
      offset_eq_bankPlace]
  · contradiction

/-! ## A whole run -/

/-- Chip and array behind the bus are those of the bare chip after the same accesses. -/
theorem device_run (operations : List Bus.Operation) (controller : Mbc6 σ) :
    (Bus.run operations controller).state.device =
      Device.run (flashAccesses operations controller) controller.device := by
  induction operations generalizing controller with
  | nil => rfl
  | cons operation rest ih =>
      rw [Bus.run, flashAccesses, Device.run_append]
      dsimp only
      rw [ih, device_perform]
      cases controller.flashAccess? operation <;> rfl

/-! ## Write protection -/

theorem device_perform_of_protected {operation : Bus.Operation} {controller : Mbc6 σ}
    (isProtected : controller.chip.master.writeEnabled = false)
    (even : ∀ byte, operation = .store 0x1000 byte → byte &&& 1 = 0) :
    ∃ enabled, (Bus.perform operation controller).state.device =
        { controller.device with chip.master.enabled := enabled } ∧
      ((∀ address byte, operation = .store address byte →
          ¬ (0x0C00 ≤ address ∧ address < 0x1000)) →
        enabled = controller.chip.master.enabled) := by
  rw [device_perform]
  cases operation with
  | load address => exact ⟨_, rfl, fun _ => rfl⟩
  | flush => exact ⟨_, rfl, fun _ => rfl⟩
  | store address byte =>
      rw [flashAccess?]
      split
      · rename_i enable
        have only : controller.chip.storeEnable byte =
            { controller.chip with
              master.enabled := (controller.chip.storeEnable byte).master.enabled } := by
          rw [Chip.storeEnable]
          split <;> rfl
        refine ⟨_, congrArg (Device.mk · controller.memory.flash) only, ?_⟩
        intro noEnable
        exact absurd enable (noEnable address byte rfl)
      · split
        · rename_i writeEnable
          have clear : (byte &&& 1 != 0) = false := by simp [even byte (by rw [writeEnable])]
          refine ⟨_, ?_, fun _ => rfl⟩
          simp only [Option.elim, Device.perform, device, Chip.storeWriteEnable, clear]
          rw [← isProtected]
        · rw [isProtected]
          exact ⟨_, rfl, fun _ => rfl⟩

/-- A write protected chip stays as it is until an odd byte is stored to its write enable bit, but
for the enable bit. -/
theorem device_run_of_protected {operations : List Bus.Operation} {controller : Mbc6 σ}
    (isProtected : controller.chip.master.writeEnabled = false)
    (even : ∀ byte, .store 0x1000 byte ∈ operations → byte &&& 1 = 0) :
    ∃ enabled, (Bus.run operations controller).state.device =
        { controller.device with chip.master.enabled := enabled } ∧
      ((∀ address byte, .store address byte ∈ operations →
          ¬ (0x0C00 ≤ address ∧ address < 0x1000)) →
        enabled = controller.chip.master.enabled) := by
  induction operations generalizing controller with
  | nil => exact ⟨_, rfl, fun _ => rfl⟩
  | cons operation rest ih =>
      have evenFirst : ∀ byte, operation = .store 0x1000 byte → byte &&& 1 = 0 :=
        fun byte same => even byte (by simp [same])
      obtain ⟨first, after, kept⟩ := device_perform_of_protected isProtected evenFirst
      have chip_after : (Bus.perform operation controller).state.chip =
          { controller.chip with master.enabled := first } := congrArg Device.chip after
      obtain ⟨last, final, keptLater⟩ := ih (by rw [chip_after]; exact isProtected)
        fun byte member => even byte (List.mem_cons_of_mem _ member)
      refine ⟨last, ?_, ?_⟩
      · rw [Bus.run]
        dsimp only
        rw [final, after]
      · intro noEnable
        have later : last = (Bus.perform operation controller).state.chip.master.enabled :=
          keptLater fun address byte member => noEnable address byte (List.mem_cons_of_mem _ member)
        rw [later, chip_after]
        exact kept fun address byte same => noEnable address byte (by simp [same])

/-! ## From power on -/

/-- Behind the bus, chip and array are well formed as well. -/
theorem Reachable.wellFormed_device {controller : Mbc6 σ} (reachable : Reachable controller) :
    controller.device.WellFormed := by
  obtain ⟨bytes, battery, start, operations, on, rfl⟩ := reachable
  obtain ⟨rom, kept, _, _, rfl⟩ := (powerOn_eq_ok_iff _ _ _).mp on
  rw [device_run]
  exact (Device.wellFormed_initial _).run _

/-- Behind the bus, the flash chip is the bare chip after the accesses that the operations come to,
and a console can tell nothing else from it. A write protected chip keeps everything but its enable
bit. -/
theorem flash_refines_device {τ : Type} [SaveStore τ] {bytes : ByteArray}
    (legal : 0 < bytes.size ∧ bytes.size % 0x4000 = 0) {battery : Option σ}
    {kept : Option SaveImage} (yields : Yields battery kept) :
    ∃ start : Mbc6 σ, (powerOn bytes battery).1 = .ok start ∧ ∀ operations,
      let after := (Bus.run operations start).state
      after.device =
          Device.run (flashAccesses operations start) ⟨.initial, (kept.getD .blank).flash⟩ ∧
      (∀ address place, after.flashPlace? address = some place →
        (Bus.load address after).value =
          .ok (after.device.chip.load after.device.array place)) ∧
      (∀ (other : Mbc6 τ) others, other.device = start.device →
        flashAccesses others other = flashAccesses operations start →
          let same := (Bus.run others other).state
          same.device = after.device ∧
            ∀ address address' place, after.flashPlace? address = some place →
              same.flashPlace? address' = some place →
                (Bus.load address' same).value = (Bus.load address after).value) ∧
      (after.chip.master.writeEnabled = false →
        ∀ later, (∀ byte, .store 0x1000 byte ∈ later → byte &&& 1 = 0) →
          ∃ enabled, (Bus.run later after).state.device =
              { after.device with chip.master.enabled := enabled } ∧
            ((∀ address byte, .store address byte ∈ later →
                ¬ (0x0C00 ≤ address ∧ address < 0x1000)) →
              enabled = after.chip.master.enabled)) := by
  refine ⟨_, powerOn_eq_ok legal yields, ?_⟩
  intro operations after
  have refines : after.device = Device.run (flashAccesses operations _) _ :=
    device_run operations _
  refine ⟨refines, fun address place shown => load_flashPlace shown, ?same, ?isProtected⟩
  case same =>
    intro other others started accesses same
    have agree : same.device = after.device := by
      rw [refines, ← accesses, ← started]
      exact device_run others other
    refine ⟨agree, ?_⟩
    intro address address' place shown shown'
    have chip : same.chip = after.chip := congrArg Device.chip agree
    have array : same.memory.flash = after.memory.flash := congrArg Device.array agree
    rw [load_flashPlace shown, load_flashPlace shown', chip, array]
  case isProtected =>
    intro writeProtected later even
    exact device_run_of_protected writeProtected even

/-- The first unlock write reaches the chip through either window, also after a save that failed. -/
theorem flash_refines_device_of_two_windows :
    let operations : List Bus.Operation :=
      [.store 0x2000 0x02, .store 0x2800 0x01, .store 0x1000 0x01, .store 0x5555 0xAA]
    let others : List Bus.Operation :=
      [.store 0x0000 0x0A, .store 0xA000 0x42, .store 0x0000 0x00, .store 0x1000 0x01,
        .store 0x3800 0x01, .store 0x3000 0x02, .flush, .store 0x7555 0xAA]
    ∃ start : Mbc6 FailingStore,
      (powerOn smallestRom (some (⟨none, 1⟩ : FailingStore))).1 = .ok start ∧
        (Bus.run operations start).state.chip.state = .unlocking ∧
        (Bus.run others start).state.device = (Bus.run operations start).state.device := by
  intro operations others
  have yields : Yields (some (⟨none, 1⟩ : FailingStore)) none := rfl
  obtain ⟨start, on, refines⟩ :=
    @flash_refines_device _ _ FailingStore _ _ legal_smallestRom _ _ yields
  rw [powerOn_eq_ok legal_smallestRom yields] at on
  obtain rfl := Except.ok.inj on
  refine ⟨_, powerOn_eq_ok legal_smallestRom yields, ?_⟩
  generalize begin : initial _ _ _ = start at *
  have accesses : flashAccesses operations start =
      [.writeEnable 0x01, .write unlockAddress1 0xAA] := by
    simp [operations, ← begin, flashAccesses, flashAccess?, flashPlace?, romWindow?, Bus.perform,
      Bus.store, Bus.area, BankController.storeRom, storeRom, StoreTarget.ofAddress?, storeTarget,
      initial, Registers.initial, Registers.modifyMapping, Mapping.setBank, Mapping.setFlash,
      PerWindow.get, PerWindow.set, Chip.initial, Chip.storeWriteEnable, bankPlace,
      unlockAddress1]
  have accessesOther : flashAccesses others start =
      [.writeEnable 0x01, .write unlockAddress1 0xAA] := by
    simp [others, ← begin, flashAccesses, flashAccess?, flashPlace?, romWindow?, Bus.perform,
      Bus.store, Bus.area, BankController.storeRom, storeRom, StoreTarget.ofAddress?, storeTarget,
      initial, Registers.initial, Registers.modifyMapping, Mapping.setBank, Mapping.setFlash,
      PerWindow.get, PerWindow.set, Chip.initial, Chip.storeWriteEnable, bankPlace,
      unlockAddress1, BankController.storeRam, storeRam, storeRamEnable,
      flushQuietly, flush, SaveImage.blank, SaveStore.save, SaveStore.load, loaded,
      BankController.flush, Bus.flush]
  obtain ⟨device, _, same, _⟩ := refines operations
  refine ⟨?_, (same start others rfl (by rw [accesses, accessesOther])).1⟩
  have state := congrArg (fun device : Device => device.chip.state) device
  rw [accesses] at state
  exact state

end Mbc6
end FlashCartridge
