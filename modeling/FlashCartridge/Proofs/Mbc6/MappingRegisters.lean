import FlashCartridge.Proofs.Mbc6.Command
import FlashCartridge.Proofs.Mbc6.View

/-!
# The registers of the controller

A register keeps a part of the byte that was stored to its own addresses last, and no other
operation has an effect on it. Only the enable bit of the flash chip is more particular: it does not
hear the stores before the chip was identified. What a console reads from the ROM depends on two of
the registers and on nothing else.
-/

namespace FlashCartridge
namespace Mbc6

open Flash

variable {σ : Type}

/-! ## Registers and the bytes stored to them -/

/-- What is kept of a byte stored to a target. -/
def StoreTarget.kept : StoreTarget → UInt8 → Nat
  | .ramEnable, byte => (byte == 0x0A).toNat
  | .ramBank _, byte => byte.toNat % 8
  | .bank _, byte => byte.toNat % 128
  | .memory _, byte | .flashEnable, byte | .flashWriteEnable, byte => byte.toNat % 2
  | .nothing, _ | .window _, _ => 0

/-- The byte that an operation stores to one of the addresses of a target. -/
def StoreTarget.stored? (target : StoreTarget) : Bus.Operation → Option UInt8
  | .store address byte =>
    if target.bounds.1 ≤ address.toNat ∧ address.toNat < target.bounds.2 then some byte else none
  | .load _ | .flush => none

theorem StoreTarget.stored?_store_of_found {address : UInt16} {reached : StoreTarget}
    (found : StoreTarget.ofAddress? address = some reached) (target : StoreTarget) (byte : UInt8) :
    target.stored? (.store address byte) = if reached = target then some byte else none := by
  simp only [stored?, ← ofAddress?_eq_some_iff, found, Option.some.injEq]

theorem StoreTarget.stored?_store_of_not_found {address : UInt16}
    (found : StoreTarget.ofAddress? address = none) (target : StoreTarget) (byte : UInt8) :
    target.stored? (.store address byte) = none := by
  simp [stored?, ← ofAddress?_eq_some_iff, found]

/-- The register behind a target, as a number. The memory behind a window is no register. -/
def register (controller : Mbc6 σ) : StoreTarget → Nat
  | .ramEnable => controller.registers.ramEnabled.toNat
  | .ramBank window => (controller.registers.ramBank.get window).val
  | .bank window => (controller.registers.mapping.get window).bank.val
  | .memory window => (controller.registers.mapping.get window).flash.toNat
  | .flashEnable => controller.chip.master.enabled.toNat
  | .flashWriteEnable => controller.chip.master.writeEnabled.toNat
  | .nothing | .window _ => 0

instance : DecidablePred (Identifies (σ := σ)) := fun _ => inferInstanceAs (Decidable (_ ∧ _))

/-- The operations that a target hears: all of them, but for the enable bit of the flash chip, which
hears those that follow the first software identification. -/
def StoreTarget.heard (target : StoreTarget) (moments : List (Bus.Moment (Mbc6 σ))) :
    List Bus.Operation :=
  match target with
  | .flashEnable => (moments.dropWhile (¬ Identifies ·)).tail.map (·.operation)
  | _ => moments.map (·.operation)

theorem StoreTarget.heard_flashEnable_cons (moment : Bus.Moment (Mbc6 σ))
    (rest : List (Bus.Moment (Mbc6 σ))) :
    StoreTarget.flashEnable.heard (moment :: rest) =
      if Identifies moment then rest.map (·.operation) else StoreTarget.flashEnable.heard rest := by
  by_cases identifies : Identifies moment <;> simp [heard, identifies]

/-- The byte that was stored to a target last, among the operations that it hears. -/
def StoreTarget.lastStored? (target : StoreTarget) (moments : List (Bus.Moment (Mbc6 σ))) :
    Option UInt8 :=
  ((target.heard moments).filterMap target.stored?).getLast?

/-- The byte that a target takes from an operation in the state that the operation meets. -/
def StoreTarget.taken? (target : StoreTarget) (moment : Bus.Moment (Mbc6 σ)) : Option UInt8 :=
  if target = .flashEnable ∧ moment.before.chip.identified = false then none
  else target.stored? moment.operation

/-! ## One operation -/

theorem register_eq_of_view {left right : Mbc6 σ} (same : left.view = right.view)
    (target : StoreTarget) : left.register target = right.register target := by
  have registers : left.registers = right.registers := congrArg View.registers same
  have chip : left.chip = right.chip := congrArg View.chip same
  cases target <;> simp only [register, registers, chip]

theorem toNat_bit (byte : UInt8) : (byte &&& 1 != 0).toNat = byte.toNat % 2 := by
  have low : (byte &&& 1).toNat = byte.toNat % 2 := Nat.and_one_is_mod _
  by_cases even : byte.toNat % 2 = 0
  · have clear : byte &&& 1 = 0 := UInt8.toNat_inj.mp (low.trans even)
    simp [clear, even]
  · have set : byte &&& 1 ≠ 0 := fun clear => even (low.symm.trans (congrArg UInt8.toNat clear))
    simp only [bne_iff_ne.mpr set, Bool.toNat_true]
    omega

theorem register_storeWindow (controller : Mbc6 σ) (window : Window) (address : UInt16)
    (byte : UInt8) (target : StoreTarget) :
    (controller.storeWindow window address byte).state.register target =
      controller.register target := by
  rw [storeWindow]
  split_ifs
  · rfl
  · rfl
  · cases target <;> simp [storeFlash, register]

variable [SaveStore σ]

/-- A byte that reaches a target changes the register behind it and no other. -/
theorem register_storeTarget (controller : Mbc6 σ) (address : UInt16) (byte : UInt8)
    (reached target : StoreTarget) :
    (controller.storeTarget address byte reached).state.register target =
      if reached = target ∧ ¬ (target = .flashEnable ∧ controller.chip.identified = false) then
        target.kept byte
      else
        controller.register target := by
  cases reached with
  | ramEnable =>
      let enabled : Mbc6 σ :=
        { controller with
          registers := { controller.registers with ramEnabled := byte == 0x0A } }
      have same : (controller.storeRamEnable byte).state.view = enabled.view :=
        view_storeRamEnable controller byte
      rw [storeTarget, register_eq_of_view same]
      cases target <;> rfl
  | ramBank window =>
      cases target <;>
        simp [storeTarget, register, Registers.setRamBank, PerWindow.get_set, StoreTarget.kept,
          apply_ite Fin.val]
  | flashEnable =>
      cases identified : controller.chip.identified <;> cases target <;>
        simp [storeTarget, register, Chip.storeEnable, identified, StoreTarget.kept, toNat_bit]
  | flashWriteEnable =>
      cases target <;>
        simp [storeTarget, register, Chip.storeWriteEnable, StoreTarget.kept, toNat_bit]
  | nothing => cases target <;> rfl
  | bank window =>
      cases target with
      | bank other | memory other =>
          obtain rfl | different := eq_or_ne window other <;>
            simp [storeTarget, register, Registers.modifyMapping, PerWindow.get_set,
              Mapping.setBank, StoreTarget.kept, *]
      | _ => rfl
  | memory window =>
      cases target with
      | bank other | memory other =>
          obtain rfl | different := eq_or_ne window other <;>
            simp [storeTarget, register, Registers.modifyMapping, PerWindow.get_set,
              Mapping.setFlash, StoreTarget.kept, toNat_bit, *]
      | _ => rfl
  | window window =>
      rw [storeTarget, register_storeWindow]
      split_ifs with reaches
      · obtain rfl := reaches.1
        rfl
      · rfl

theorem register_after (target : StoreTarget) (moment : Bus.Moment (Mbc6 σ)) :
    moment.after.register target =
      ((target.taken? moment).map target.kept).getD (moment.before.register target) := by
  obtain ⟨controller, operation⟩ := moment
  cases operation with
  | load address =>
      have same : (Bus.perform (.load address) controller).state = controller :=
        state_load address controller
      simp [Bus.Moment.after, same, StoreTarget.taken?, StoreTarget.stored?]
  | flush =>
      have same : (Bus.perform .flush controller).state.register target =
          controller.register target := register_eq_of_view (view_flush controller) target
      simp [Bus.Moment.after, same, StoreTarget.taken?, StoreTarget.stored?]
  | store address byte =>
      cases found : StoreTarget.ofAddress? address with
      | some reached =>
          rw [Bus.Moment.after, Bus.perform, state_store found, register_storeTarget,
            StoreTarget.taken?, StoreTarget.stored?_store_of_found found]
          split_ifs <;> simp_all
      | none =>
          have same : (Bus.perform (.store address byte) controller).state.register target =
              controller.register target := by
            rw [Bus.perform, Bus.store]
            split
            · simp [BankController.storeRom, storeRom, found]
            · simp only [BankController.storeRam, storeRam]
              split_ifs <;> cases target <;> rfl
            · rfl
          simp [Bus.Moment.after, same, StoreTarget.taken?,
            StoreTarget.stored?_store_of_not_found found]

theorem register_perform_of_not_stored {target : StoreTarget} {operation : Bus.Operation}
    (elsewhere : target.stored? operation = none) (controller : Mbc6 σ) :
    (Bus.perform operation controller).state.register target = controller.register target := by
  have law := register_after target ⟨controller, operation⟩
  rwa [StoreTarget.taken?, elsewhere, ite_self] at law

/-! ## A whole run -/

theorem identified_of_mem_moments {operations : List Bus.Operation} {controller : Mbc6 σ}
    (identified : controller.chip.identified = true) {moment : Bus.Moment (Mbc6 σ)}
    (member : moment ∈ Bus.moments operations controller) :
    moment.before.chip.identified = true := by
  induction operations generalizing controller with
  | nil => contradiction
  | cons operation rest ih =>
      obtain rfl | later := List.mem_cons.mp member
      · exact identified
      · exact ih ((identified_after ⟨controller, operation⟩).mpr (.inr identified)) later

theorem filterMap_taken?_of_identified (target : StoreTarget) (operations : List Bus.Operation)
    {controller : Mbc6 σ} (identified : controller.chip.identified = true) :
    (Bus.moments operations controller).filterMap target.taken? =
      ((Bus.moments operations controller).map (·.operation)).filterMap target.stored? := by
  rw [List.filterMap_map]
  apply List.filterMap_congr
  intro moment member
  simp [StoreTarget.taken?, identified_of_mem_moments identified member]

/-- From an unidentified chip on, a target takes what is stored by the operations it hears. -/
theorem filterMap_taken? (target : StoreTarget) (operations : List Bus.Operation)
    {controller : Mbc6 σ} (unidentified : controller.chip.identified = false) :
    (Bus.moments operations controller).filterMap target.taken? =
      (target.heard (Bus.moments operations controller)).filterMap target.stored? := by
  by_cases enable : target = .flashEnable
  · subst enable
    -- The first identification is the operation behind which the chip counts as identified.
    induction operations generalizing controller with
    | nil => rfl
    | cons operation rest ih =>
        let first : Bus.Moment (Mbc6 σ) := ⟨controller, operation⟩
        have deaf : StoreTarget.flashEnable.taken? first = none := if_pos ⟨rfl, unidentified⟩
        rw [Bus.moments, List.filterMap_cons_none deaf]
        by_cases identifies : Identifies first
        · have identified : first.after.chip.identified = true :=
            (identified_after first).mpr (.inl identifies)
          rw [StoreTarget.heard_flashEnable_cons, if_pos identifies]
          exact filterMap_taken?_of_identified .flashEnable rest identified
        · have later : first.after.chip.identified = false := by
            rw [← Bool.not_eq_true, identified_after first]
            simp [identifies, first, unidentified]
          rw [StoreTarget.heard_flashEnable_cons, if_neg identifies]
          exact ih later
  · have all : target.heard (Bus.moments operations controller) =
        (Bus.moments operations controller).map (·.operation) := by
      cases target <;> first | rfl | contradiction
    rw [all, List.filterMap_map]
    apply List.filterMap_congr
    intro moment _
    simp [StoreTarget.taken?, enable]

theorem register_run_initial (rom : Rom) (memory : SaveImage) (battery : Option σ)
    (target : StoreTarget) (operations : List Bus.Operation) :
    (Bus.run operations (initial rom memory battery)).state.register target =
      (target.lastStored? (Bus.moments operations (initial rom memory battery))).elim 0
        target.kept := by
  have start : (initial rom memory battery).register target = 0 := by
    cases target with
    | ramBank window | bank window | memory window => cases window <;> rfl
    | _ => rfl
  have law := Bus.register_run (·.register target) (register_after target) operations
    (initial rom memory battery)
  rw [← List.map_filterMap, List.getLast?_map, filterMap_taken? target operations rfl, start,
    ← StoreTarget.lastStored?] at law
  rw [law]
  cases target.lastStored? _ <;> rfl

theorem rom_run (operations : List Bus.Operation) (controller : Mbc6 σ) :
    (Bus.run operations controller).state.rom = controller.rom := by
  have keeps {before after : Mbc6 σ} {events : List Event} (step : Step before events after)
      (same : before.rom = controller.rom) : after.rom = controller.rom := by
    cases step <;> exact same
  exact (steps_run operations controller).preserve keeps rfl

/-! ## What is read from the ROM -/

theorem load_fixed {address : UInt16} (below : address < 0x4000) (controller : Mbc6 σ) :
    (Bus.load address controller).value = .ok (controller.rom.read address.toNat) := by
  have inside : Bus.area address = .rom :=
    Bus.area_eq_rom_iff.mpr (Nat.lt_trans (UInt16.lt_iff_toNat_lt.mp below) (by decide))
  simp [Bus.load, inside, BankController.loadRom, loadRom, LoadTarget.ofAddress?, below]

theorem load_rom_window {window : Window} {offset : Nat} {address : UInt16}
    (small : offset < 0x2000)
    (shown : address.toNat = (StoreTarget.window window).bounds.1 + offset)
    {controller : Mbc6 σ} (rom : controller.register (.memory window) = 0) :
    (Bus.load address controller).value =
      .ok (controller.rom.read (controller.register (.bank window) * 0x2000 + offset)) := by
  have target : LoadTarget.ofAddress? address = some (.window window) ∧ address.toNat < 0x8000 ∧
      address.toNat % 0x2000 = offset := by
    simp only [LoadTarget.ofAddress?, UInt16.lt_iff_toNat_lt, UInt16.reduceToNat]
    cases window <;> simp only [StoreTarget.bounds] at shown
    · rw [if_neg (by omega), if_pos (by omega)]
      exact ⟨rfl, by omega, by omega⟩
    · rw [if_neg (by omega), if_neg (by omega), if_pos (by omega)]
      exact ⟨rfl, by omega, by omega⟩
  obtain ⟨found, inside, place⟩ := target
  have flash : (controller.registers.mapping.get window).flash = false := by
    simpa [register] using rom
  simp [Bus.load, Bus.area_eq_rom_iff.mpr inside, BankController.loadRom, loadRom, found,
    loadWindow, flash, Mapping.offset, register, Mapping.bankSize, place]

/-! ## From power on -/

/-- Each register keeps its part of the byte that was stored to it last, and a window that shows the
ROM shows the bank in its register. -/
theorem register_eq_lastStored {bytes : ByteArray}
    (legal : 0 < bytes.size ∧ bytes.size % 0x4000 = 0) {battery : Option σ}
    {kept : Option SaveImage} (yields : Yields battery kept) :
    ∃ start : Mbc6 σ, (powerOn bytes battery).1 = .ok start ∧ ∀ operations,
      let after := (Bus.run operations start).state
      (∀ target, after.register target =
        (target.lastStored? (Bus.moments operations start)).elim 0 target.kept) ∧
      (∀ target operation, target.stored? operation = none →
        (Bus.perform operation after).state.register target = after.register target) ∧
      (∀ window offset address, offset < 0x2000 →
        address.toNat = (StoreTarget.window window).bounds.1 + offset →
        after.register (.memory window) = 0 →
          let place := after.register (.bank window) * 0x2000 + offset
          (Bus.load address after).value =
            .ok (if inside : place < bytes.size then bytes.get place inside else 0xFF)) ∧
      ∀ address, address < 0x4000 → ∃ inside : address.toNat < bytes.size,
        (Bus.load address after).value = .ok (bytes.get address.toNat inside) := by
  refine ⟨_, powerOn_eq_ok legal yields, ?_⟩
  intro operations after
  have rom : after.rom = ⟨bytes, legal.1, legal.2⟩ := rom_run operations _
  refine ⟨?registers, ?others, ?window, ?fixed⟩
  case registers =>
    intro target
    exact register_run_initial _ _ _ target operations
  case others =>
    intro target operation elsewhere
    exact register_perform_of_not_stored elsewhere after
  case window =>
    intro window offset address small shown isRom place
    rw [load_rom_window small shown isRom, rom]
    rfl
  case fixed =>
    intro address below
    have inside : address.toNat < bytes.size :=
      Nat.lt_of_lt_of_le (UInt16.lt_iff_toNat_lt.mp below) (Rom.size_ge ⟨bytes, legal.1, legal.2⟩)
    refine ⟨inside, ?_⟩
    rw [load_fixed below, rom, Rom.read, dif_pos inside]

/-- The RAM is disabled although the save fails, and the first window shows a bank behind the end of
the ROM. -/
theorem register_eq_lastStored_of_failedSave :
    let operations : List Bus.Operation :=
      [.store 0x0000 0x0A, .store 0xA000 0x42, .store 0x0C00 0x01,
        .store 0x2000 0x82, .store 0x2FFF 1, .store 0x3000 1, .store 0x3800 1, .store 0x1000 1,
        .store 0x5555 0xAA, .store 0x6AAA 0x55, .store 0x5555 0x90,
        .store 0x03FF 0x0B, .store 0x2800 0x02, .flush]
    ∃ start : Mbc6 FailingStore,
      (powerOn smallestRom (some (⟨none, 1⟩ : FailingStore))).1 = .ok start ∧
        let after := (Bus.run operations start).state
        after.register .ramEnable = 0 ∧ after.register (.bank .a) = 2 ∧
          after.register (.memory .a) = 0 ∧ after.register (.memory .b) = 1 ∧
          after.register .flashWriteEnable = 1 ∧ after.register .flashEnable = 0 ∧
          (Bus.perform (.store 0x0FFF 0x81) after).state.register (.bank .a) = 2 ∧
          (Bus.load 0x4003 after).value = .ok 0xFF ∧
          ∃ inside, (Bus.load 0x3FFF after).value = .ok (smallestRom.get 0x3FFF inside) := by
  intro operations
  have yields : Yields (some (⟨none, 1⟩ : FailingStore)) none := rfl
  obtain ⟨start, on, law⟩ := register_eq_lastStored legal_smallestRom yields
  rw [powerOn_eq_ok legal_smallestRom yields] at on
  obtain rfl := Except.ok.inj on
  refine ⟨_, powerOn_eq_ok legal_smallestRom yields, ?_⟩
  intro after
  obtain ⟨registers, others, window, fixed⟩ := law operations
  have bank : after.register (.bank .a) = 2 := registers (.bank .a)
  have memory : after.register (.memory .a) = 0 := registers (.memory .a)
  have behind : ¬ after.register (.bank .a) * 0x2000 + 3 < smallestRom.size := by
    rw [bank]
    simp [smallestRom, ByteArray.size]
  refine ⟨registers .ramEnable, bank, memory, registers (.memory .b),
    registers .flashWriteEnable, registers .flashEnable,
    (others (.bank .a) (.store 0x0FFF 0x81) rfl).trans bank, ?_, fixed 0x3FFF (by decide)⟩
  exact (window .a 3 0x4003 (by decide) rfl memory).trans (congrArg Except.ok (dif_neg behind))

end Mbc6
end FlashCartridge
