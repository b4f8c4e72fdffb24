import FlashCartridge.Proofs.Mbc6.FlashContent
import FlashCartridge.Proofs.Mbc6.Saving

/-!
# What the RAM of a cartridge holds

The RAM is one memory of 32 KiB behind two windows, and either window may show any of its banks,
also both of them the same one. Whichever window a byte was stored through, each cell holds the last
byte that was stored into it while the RAM was enabled, and nothing else ever changes it.
-/

namespace FlashCartridge
namespace Mbc6

/-! ## Cells and their addresses -/

/-- The place of an offset of a RAM bank. -/
def ramCell (bank : Fin 8) (offset : Fin Registers.ramBankSize) : Fin ramSize :=
  ⟨bank.val * Registers.ramBankSize + offset.val, by
    have := bank.isLt
    have := offset.isLt
    simp only [Registers.ramBankSize, ramSize] at *
    omega⟩

theorem ramCell_inj {bank bank' : Fin 8} {offset offset' : Fin Registers.ramBankSize} :
    ramCell bank offset = ramCell bank' offset' ↔ bank = bank' ∧ offset = offset' := by
  have := offset.isLt
  have := offset'.isLt
  simp only [ramCell, Fin.ext_iff, Registers.ramBankSize] at *
  omega

/-- The address on the bus at which a window of the RAM area starts. -/
def ramBase : Window → UInt16
  | .a => 0xA000
  | .b => 0xB000

/-- The address on the bus at which a window of the RAM area shows an offset of its bank. -/
def ramAddress (window : Window) (offset : Fin Registers.ramBankSize) : UInt16 :=
  ramBase window + UInt16.ofNat offset.val

theorem toNat_ramAddress (window : Window) (offset : Fin Registers.ramBankSize) :
    (ramAddress window offset).toNat = (ramBase window).toNat + offset.val := by
  have offset_lt : offset.val < 0x1000 := offset.isLt
  have base_le : (ramBase window).toNat ≤ 0xB000 := by cases window <;> decide
  rw [ramAddress, UInt16.toNat_add, UInt16.toNat_ofNat']
  omega

theorem ramAddress_inj {window window' : Window} {offset offset' : Fin Registers.ramBankSize} :
    ramAddress window offset = ramAddress window' offset' ↔
      window = window' ∧ offset = offset' := by
  have offset_lt : offset.val < 0x1000 := offset.isLt
  have offset_lt' : offset'.val < 0x1000 := offset'.isLt
  have first : (ramBase .a).toNat = 0xA000 := rfl
  have second : (ramBase .b).toNat = 0xB000 := rfl
  rw [← UInt16.toNat_inj, toNat_ramAddress, toNat_ramAddress, Fin.ext_iff]
  cases window <;> cases window' <;> simp [first, second] <;> omega

theorem area_eq_ram {address distance : UInt16} (inside : Bus.area address = .ram distance) :
    ∃ offset, address = ramAddress (Registers.ramWindow distance) offset ∧
      ∀ registers : Registers, registers.ramOffset distance =
        ramCell (registers.ramBank.get (Registers.ramWindow distance)) offset := by
  obtain ⟨distance_lt, address_eq⟩ := Bus.area_eq_ram_iff.mp inside
  have first : (ramBase .a).toNat = 0xA000 := rfl
  have second : (ramBase .b).toNat = 0xB000 := rfl
  have bound : (0x1000 : UInt16).toNat = 0x1000 := rfl
  have offset_lt : distance.toNat % 0x1000 < 0x1000 := Nat.mod_lt _ (by decide)
  refine ⟨⟨distance.toNat % 0x1000, offset_lt⟩, UInt16.toNat_inj.mp ?_, fun _ => rfl⟩
  rw [toNat_ramAddress, address_eq]
  -- bit 12 of the distance has chosen the window and does not count again inside the bank
  by_cases front : distance < 0x1000
  · rw [Registers.ramWindow, if_pos front, first]
    rw [UInt16.lt_iff_toNat_lt, bound] at front
    dsimp only
    omega
  · rw [Registers.ramWindow, if_neg front, second]
    rw [UInt16.lt_iff_toNat_lt, bound] at front
    dsimp only
    omega

theorem area_ramAddress (window : Window) (offset : Fin Registers.ramBankSize) :
    ∃ distance, Bus.area (ramAddress window offset) = .ram distance ∧
      ∀ registers : Registers, registers.ramOffset distance =
        ramCell (registers.ramBank.get window) offset := by
  have offset_lt : offset.val < 0x1000 := offset.isLt
  have address_eq := toNat_ramAddress window offset
  have bounds : 0xA000 ≤ (ramBase window).toNat ∧ (ramBase window).toNat ≤ 0xB000 := by
    cases window <;> decide
  obtain ⟨distance, inside⟩ : ∃ distance, Bus.area (ramAddress window offset) = .ram distance := by
    refine ⟨UInt16.ofNat ((ramAddress window offset).toNat - 0xA000), Bus.area_eq_ram_iff.mpr ?_⟩
    rw [UInt16.toNat_ofNat']
    omega
  obtain ⟨offset', same, shown⟩ := area_eq_ram inside
  obtain ⟨rfl, rfl⟩ := ramAddress_inj.mp same
  exact ⟨distance, inside, shown⟩

theorem store_ne_ramStore {address : UInt16}
    (outside : ∀ distance, Bus.area address ≠ .ram distance) (byte : UInt8) (window : Window)
    (offset : Fin Registers.ramBankSize) (other : UInt8) :
    Bus.Operation.store address byte ≠ .store (ramAddress window offset) other := by
  intro same
  obtain ⟨distance, inside, _⟩ := area_ramAddress window offset
  rw [Bus.Operation.store.injEq] at same
  exact outside distance (same.1 ▸ inside)

/-! ## One operation -/

variable {σ : Type} [SaveStore σ]

/-- The byte that an operation stores into a cell, if any: the RAM has to be enabled, and the window
of the address has to show the bank of the cell. -/
def ramStore? (controller : Mbc6 σ) (bank : Fin 8) (offset : Fin Registers.ramBankSize) :
    Bus.Operation → Option UInt8
  | .store address byte =>
    if controller.registers.ramEnabled ∧
        (address = ramAddress .a offset ∧ controller.registers.ramBank.a = bank ∨
          address = ramAddress .b offset ∧ controller.registers.ramBank.b = bank) then
      some byte
    else
      none
  | .load _ | .flush => none

omit [SaveStore σ] in
theorem ramStore?_store (controller : Mbc6 σ) (bank : Fin 8)
    (offset place : Fin Registers.ramBankSize) (window : Window) (byte : UInt8) :
    controller.ramStore? bank offset (.store (ramAddress window place) byte) =
      if controller.registers.ramEnabled ∧
          ramCell (controller.registers.ramBank.get window) place = ramCell bank offset then
        some byte
      else
        none := by
  cases window <;> simp [ramStore?, ramAddress_inj, ramCell_inj, PerWindow.get, and_comm]

omit [SaveStore σ] in
theorem ramStore?_eq_none {operation : Bus.Operation}
    (other : ∀ window offset byte, operation ≠ .store (ramAddress window offset) byte)
    (controller : Mbc6 σ) (bank : Fin 8) (offset : Fin Registers.ramBankSize) :
    controller.ramStore? bank offset operation = none := by
  cases operation with
  | store address byte =>
      rw [ramStore?, if_neg]
      rintro ⟨_, ⟨rfl, _⟩ | ⟨rfl, _⟩⟩
      · exact other .a offset byte rfl
      · exact other .b offset byte rfl
  | _ => rfl

omit [SaveStore σ] in
theorem get_storeRam (controller : Mbc6 σ) (distance : UInt16) (byte : UInt8)
    (cell : Fin ramSize) :
    (controller.storeRam distance byte).memory.ram.get cell =
      if controller.registers.ramEnabled ∧ controller.registers.ramOffset distance = cell then byte
      else controller.memory.ram.get cell := by
  rw [storeRam]
  cases enabled : controller.registers.ramEnabled with
  | false => simp
  | true =>
      simp only [if_true, true_and]
      by_cases same : controller.memory.ram.get (controller.registers.ramOffset distance) = byte
      · rw [if_pos same]
        split
        · rename_i here
          rw [← here, same]
        · rfl
      · rw [if_neg same]
        exact Memory.get_set _ _ _ _

omit [SaveStore σ] in
theorem flash_storeRam (controller : Mbc6 σ) (distance : UInt16) (byte : UInt8) :
    (controller.storeRam distance byte).memory.flash = controller.memory.flash := by
  simp only [storeRam]
  split_ifs <;> rfl

theorem ram_storeTarget (controller : Mbc6 σ) (address : UInt16) (byte : UInt8)
    (target : StoreTarget) :
    (controller.storeTarget address byte target).state.memory.ram = controller.memory.ram := by
  cases target with
  | ramEnable => exact congrArg SaveImage.ram (memory_storeRamEnable controller byte)
  | window window =>
      rw [storeTarget, storeWindow]
      split_ifs <;> rfl
  | _ => rfl

/-- Only a store to the RAM area can change the RAM. -/
theorem ram_perform_of_ne {operation : Bus.Operation}
    (other : ∀ window offset byte, operation ≠ .store (ramAddress window offset) byte)
    (controller : Mbc6 σ) :
    (Bus.perform operation controller).state.memory.ram = controller.memory.ram := by
  cases operation with
  | load address =>
      rw [Bus.perform, Bus.load]
      split <;> rfl
  | store address byte =>
      rw [Bus.perform, Bus.store]
      split
      · simp only [BankController.storeRom, storeRom]
        split
        · rfl
        · exact ram_storeTarget controller address byte _
      · rename_i distance inside
        obtain ⟨offset, rfl, _⟩ := area_eq_ram inside
        exact absurd rfl (other _ offset byte)
      · rfl
  | flush => exact congrArg SaveImage.ram (memory_flush controller)

/-- A store to the RAM area does nothing besides. -/
theorem perform_ramStore (window : Window) (place : Fin Registers.ramBankSize) (byte : UInt8)
    (controller : Mbc6 σ) :
    ∃ distance, (∀ registers : Registers, registers.ramOffset distance =
        ramCell (registers.ramBank.get window) place) ∧
      (Bus.perform (.store (ramAddress window place) byte) controller).state =
        controller.storeRam distance byte := by
  obtain ⟨distance, inside, shown⟩ := area_ramAddress window place
  refine ⟨distance, shown, ?_⟩
  simp only [Bus.perform, Bus.store, inside]
  rfl

theorem ram_perform (operation : Bus.Operation) (controller : Mbc6 σ) (bank : Fin 8)
    (offset : Fin Registers.ramBankSize) :
    (Bus.perform operation controller).state.memory.ram.get (ramCell bank offset) =
      (controller.ramStore? bank offset operation).getD
        (controller.memory.ram.get (ramCell bank offset)) := by
  by_cases store : ∃ window place byte, operation = .store (ramAddress window place) byte
  · obtain ⟨window, place, byte, rfl⟩ := store
    obtain ⟨distance, shown, after⟩ := perform_ramStore window place byte controller
    rw [after, get_storeRam, shown, ramStore?_store]
    split <;> rfl
  · have other : ∀ window place byte, operation ≠ .store (ramAddress window place) byte :=
      fun window place byte same => store ⟨window, place, byte, same⟩
    rw [ram_perform_of_ne other, ramStore?_eq_none other]
    rfl

/-! ## A whole run -/

/-- The bytes that a run stores into a cell, in order. -/
def ramStores (bank : Fin 8) (offset : Fin Registers.ramBankSize) :
    List Bus.Operation → Mbc6 σ → List UInt8
  | [], _ => []
  | operation :: rest, controller =>
    (controller.ramStore? bank offset operation).toList ++
      ramStores bank offset rest (Bus.perform operation controller).state

/-- The last store wins. -/
theorem ram_run (operations : List Bus.Operation) (controller : Mbc6 σ) (bank : Fin 8)
    (offset : Fin Registers.ramBankSize) :
    (Bus.run operations controller).state.memory.ram.get (ramCell bank offset) =
      (ramStores bank offset operations controller).getLast?.getD
        (controller.memory.ram.get (ramCell bank offset)) := by
  induction operations generalizing controller with
  | nil => rfl
  | cons operation rest ih =>
      have later := ih (Bus.perform operation controller).state
      rw [ram_perform] at later
      rw [Bus.run, ramStores, List.getLast?_append]
      dsimp only
      rw [later]
      cases controller.ramStore? bank offset operation <;>
        cases (ramStores bank offset rest (Bus.perform operation controller).state).getLast? <;>
        rfl

theorem load_ramAddress (window : Window) (offset : Fin Registers.ramBankSize)
    (controller : Mbc6 σ) :
    (Bus.load (ramAddress window offset) controller).value =
      .ok (if controller.registers.ramEnabled then
          controller.memory.ram.get (ramCell (controller.registers.ramBank.get window) offset)
        else 0xFF) := by
  obtain ⟨distance, inside, shown⟩ := area_ramAddress window offset
  simp only [Bus.load, inside, BankController.loadRam, loadRam, shown]

/-- Every cell of the RAM holds the last byte that was stored into it through either window while
the RAM was enabled, and nothing else changes it. -/
theorem ram_get_run {bytes : ByteArray} (legal : 0 < bytes.size ∧ bytes.size % 0x4000 = 0)
    {battery : Option σ} {kept : Option SaveImage} (yields : Yields battery kept) :
    ∃ start : Mbc6 σ, (powerOn bytes battery).1 = .ok start ∧ ∀ operations,
      let after := (Bus.run operations start).state
      (∀ bank offset, after.memory.ram.get (ramCell bank offset) =
        (ramStores bank offset operations start).getLast?.getD
          (kept.elim 0x00 fun image => image.ram.get (ramCell bank offset))) ∧
      (∀ window offset, (Bus.load (ramAddress window offset) after).value =
        .ok (if after.registers.ramEnabled then
            after.memory.ram.get (ramCell (after.registers.ramBank.get window) offset)
          else 0xFF)) ∧
      (∀ operation,
        (∀ window offset byte, operation ≠ .store (ramAddress window offset) byte) →
          (Bus.perform operation after).state.memory.ram = after.memory.ram) ∧
      ∀ window offset byte,
        (Bus.perform (.store (ramAddress window offset) byte) after).state.memory.flash =
          after.memory.flash := by
  refine ⟨_, powerOn_eq_ok legal yields, ?_⟩
  intro operations after
  refine ⟨?stored, fun window offset => load_ramAddress window offset after,
    fun operation other => ram_perform_of_ne other after, ?flash⟩
  case stored =>
    intro bank offset
    rw [ram_run]
    cases kept with
    | none => simp [initial, SaveImage.blank]
    | some image => rfl
  case flash =>
    intro window offset byte
    obtain ⟨distance, _, stored⟩ := perform_ramStore window offset byte after
    rw [stored]
    exact flash_storeRam after distance byte

/-- A byte that is stored through the second window is loaded through the first one, once that shows
the same bank. -/
theorem ram_get_run_of_shared_bank :
    let operations : List Bus.Operation :=
      [.store 0x0000 0x0A, .store 0x0800 0x03, .store 0xB005 0x22, .store 0x0400 0x03]
    ∃ start : Mbc6 FailingStore,
      (powerOn smallestRom (some (⟨none, 1⟩ : FailingStore))).1 = .ok start ∧
        (Bus.load 0xA005 (Bus.run operations start).state).value = .ok 0x22 := by
  intro operations
  have yields : Yields (some (⟨none, 1⟩ : FailingStore)) none := rfl
  obtain ⟨start, on, law⟩ := ram_get_run legal_smallestRom yields
  rw [powerOn_eq_ok legal_smallestRom yields] at on
  obtain rfl := Except.ok.inj on
  refine ⟨_, powerOn_eq_ok legal_smallestRom yields, ?_⟩
  generalize begin : initial _ _ _ = start at *
  obtain ⟨stored, loaded, _⟩ := law operations
  have first : ramAddress .a 5 = 0xA005 := rfl
  have second : ramAddress .b 5 = 0xB005 := rfl
  have bytes : ramStores 3 5 operations start = [0x22] := by
    simp [operations, ← begin, ramStores, ramStore?, first, second, Bus.perform, Bus.store,
      Bus.area, BankController.storeRom, BankController.storeRam, storeRom, StoreTarget.ofAddress?,
      storeTarget, storeRamEnable, storeRam, initial, Registers.initial, Registers.setRamBank,
      PerWindow.set]
  have registers : (Bus.run operations start).state.registers.ramEnabled = true ∧
      (Bus.run operations start).state.registers.ramBank.get .a = 3 := by
    simp [operations, ← begin, Bus.run, Bus.perform, Bus.store, Bus.area, BankController.storeRom,
      BankController.storeRam, storeRom, StoreTarget.ofAddress?, storeTarget, storeRamEnable,
      storeRam, initial, Registers.initial, Registers.setRamBank, PerWindow.set, PerWindow.get,
      SaveImage.blank]
  have shown := loaded .a 5
  rw [registers.1, if_pos rfl, registers.2, stored, bytes] at shown
  exact shown

end Mbc6
end FlashCartridge
