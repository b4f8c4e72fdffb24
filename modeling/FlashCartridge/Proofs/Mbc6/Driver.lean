import FlashCartridge.Proofs.Mbc6.FlashAccess

/-!
# Driving the flash chip over the bus

A console that wants to write the flash chip shows two of its banks in the windows and stores
through them. As long as both windows show the chip and it is not write protected, a program of such
stores amounts to a list of accesses to the chip (`Routes`), so that what is known about command
sequences holds for it.
-/

namespace FlashCartridge
namespace Mbc6

open Flash

/-! ## Programs of stores -/

theorem selected_lt (byte : UInt8) : byte.toNat % 128 < 128 := Nat.mod_lt _ (by decide)

/-- The bank that a byte selects. -/
def selected (byte : UInt8) : Fin 128 := ⟨byte.toNat % 128, selected_lt byte⟩

/-- Stores and the accesses to the chip that they come to, with the banks that both windows show
before and after them. -/
inductive Routes :
    PerWindow (Fin 128) → List Bus.Operation → List Access → PerWindow (Fin 128) → Prop
  | nil (banks : PerWindow (Fin 128)) : Routes banks [] [] banks
  /-- A store through a window is a write to the chip. -/
  | write {banks later operations accesses} {window : Window} {address : UInt16} {byte : UInt8}
      {target : Address} (found : StoreTarget.ofAddress? address = some (.window window))
      (shown : bankPlace (banks.get window) address = target)
      (rest : Routes banks operations accesses later) :
      Routes banks (.store address byte :: operations) (.write target byte :: accesses) later
  /-- A store into a bank register shows another bank. -/
  | bank {banks later operations accesses} {window : Window} {address : UInt16} {byte : UInt8}
      (found : StoreTarget.ofAddress? address = some (.bank window))
      (rest : Routes (banks.set window (selected byte)) operations accesses later) :
      Routes banks (.store address byte :: operations) accesses later

theorem Routes.append {banks middle later : PerWindow (Fin 128)}
    {front back : List Bus.Operation} {first second : List Access}
    (left : Routes banks front first middle) (right : Routes middle back second later) :
    Routes banks (front ++ back) (first ++ second) later := by
  induction left with
  | nil => exact right
  | write found shown _ ih => exact .write found shown (ih right)
  | bank found _ ih => exact .bank found (ih right)

variable {σ : Type}

/-- Both windows show a bank of the chip, which is not write protected. -/
structure Ready (banks : PerWindow (Fin 128)) (controller : Mbc6 σ) : Prop where
  mapping : ∀ window, controller.registers.mapping.get window = ⟨banks.get window, true⟩
  writable : controller.chip.master.writeEnabled = true

variable [SaveStore σ]

theorem state_run_store {address : UInt16} {target : StoreTarget}
    (found : StoreTarget.ofAddress? address = some target) (byte : UInt8)
    (operations : List Bus.Operation) (controller : Mbc6 σ) :
    (Bus.run (.store address byte :: operations) controller).state =
      (Bus.run operations (controller.storeTarget address byte target).state).state := by
  rw [← state_store found]
  rfl

/-- A program of stores does to the chip what the accesses do that it comes to, leaves the RAM
alone, and marks the controller if the array is modified. -/
theorem Routes.run {banks later : PerWindow (Fin 128)} {operations : List Bus.Operation}
    {accesses : List Access} (routes : Routes banks operations accesses later)
    {controller : Mbc6 σ} (ready : Ready banks controller) :
    let after := (Bus.run operations controller).state
    Ready later after ∧ after.device = Device.run accesses controller.device ∧
      after.memory.ram = controller.memory.ram ∧
      after.dirty = (controller.dirty || Device.modified accesses controller.device) := by
  induction routes generalizing controller with
  | nil => exact ⟨ready, rfl, rfl, (Bool.or_false _).symm⟩
  | @write banks later operations accesses window address byte target found shown rest ih =>
      have reached : controller.storeTarget address byte (.window window) =
          controller.storeFlash target byte := by
        rw [storeTarget, storeWindow_eq_storeFlash (by rw [ready.mapping]) ready.writable,
          ready.mapping, shown]
      have readyNext : Ready banks (controller.storeFlash target byte).state :=
        ⟨ready.mapping, by simpa [storeFlash] using ready.writable⟩
      obtain ⟨readyLater, device, ram, dirty⟩ := ih readyNext
      rw [state_run_store found, reached]
      exact ⟨readyLater, device, ram, dirty.trans (Bool.or_assoc _ _ _)⟩
  | @bank banks later operations accesses window address byte found rest ih =>
      rw [state_run_store found]
      apply ih
      refine ⟨fun other => ?_, ready.writable⟩
      rw [storeTarget, Registers.modifyMapping, PerWindow.get_set, PerWindow.get_set]
      split
      · simp [ready.mapping, Mapping.setBank, selected]
      · exact ready.mapping other

/-! ## The driver -/

namespace Driver

/-- Show bank 2 and bank 1 of the chip, lift the write protection and clear the enable bit. -/
def prepare : List Bus.Operation :=
  [.store 0x2000 2, .store 0x2800 1, .store 0x3000 1, .store 0x3800 1, .store 0x1000 1,
    .store 0x0C00 0]

/-- A command behind both unlock writes. -/
def command (byte : UInt8) : List Bus.Operation :=
  [.store 0x5555 0xAA, .store 0x6AAA 0x55, .store 0x5555 byte]

/-- Show a bank of the chip in the second window. -/
def select (sector : Sector) : Bus.Operation := .store 0x3000 (UInt8.ofNat sector.val)

/-- The erasure of a sector, which is shown in the second window for its last write only. -/
def eraseSector (sector : Sector) : List Bus.Operation :=
  command 0x80 ++
    [.store 0x5555 0xAA, .store 0x6AAA 0x55, select sector, .store 0x6000 0x30, .store 0x3000 1]

/-- Where the second window shows a byte of the page at an offset of its bank. -/
def place (offset : UInt16) (index : Fin pageSize) : UInt16 :=
  0x6000 + offset + UInt16.ofNat index.val

/-- The programming of a page, with its commit and the acknowledgement. -/
def programPage (sector : Sector) (offset : UInt16) (data : Fin pageSize → UInt8) :
    List Bus.Operation :=
  command 0xA0 ++ select sector ::
    ((List.finRange pageSize).map fun index => .store (place offset index) (data index)) ++
      [.store (place offset lastOffset) 0x00, .store (place offset lastOffset) 0xF0]

/-- The whole driver: the erasure of a sector, and the programming of one page in it. -/
def replacePage (sector : Sector) (offset : UInt16) (data : Fin pageSize → UInt8) :
    List Bus.Operation :=
  prepare ++ (command 0xF0 ++ eraseSector sector ++ command 0xF0 ++
    programPage sector offset data)

/-! ### Where the stores of the driver go -/

theorem routes_command (byte : UInt8) : Routes ⟨2, 1⟩ (command byte) (Access.command byte) ⟨2, 1⟩ :=
  .write rfl rfl (.write rfl rfl (.write rfl rfl (.nil _)))

theorem toNat_secondWindow : (0x6000 : UInt16).toNat = 0x6000 := by decide

/-- The first address of a sector. -/
def start (sector : Sector) : Address := bankPlace sector 0x6000

theorem val_start (sector : Sector) : (start sector).val = Sector.start sector := by
  rw [start, val_bankPlace, toNat_secondWindow]
  simp only [Sector.start, sectorSize]
  omega

theorem isSectorStart_start (sector : Sector) : (start sector).isSectorStart = true := by
  rw [Address.isSectorStart, val_start, Sector.start, Nat.mul_mod_left]
  rfl

theorem sector_start (sector : Sector) : (start sector).sector = sector := by
  rw [Address.sector, Fin.ext_iff]
  simp only [val_start, Sector.start]
  exact Nat.mul_div_cancel _ (by decide)

theorem selected_ofNat (sector : Sector) : selected (UInt8.ofNat sector.val) = sector := by
  have := sector.isLt
  simp only [selected, Fin.ext_iff, UInt8.toNat_ofNat']
  omega

theorem routes_eraseSector (sector : Sector) :
    Routes ⟨2, 1⟩ (eraseSector sector)
      (Access.command 0x80 ++ Access.eraseSector (start sector)) ⟨2, 1⟩ := by
  refine (routes_command 0x80).append (.write rfl rfl (.write rfl rfl (.bank rfl ?_)))
  rw [selected_ofNat]
  exact .write rfl rfl (.bank rfl (.nil _))

/-- The page of a sector that starts at an offset. -/
def page (sector : Sector) (offset : UInt16) : Page :=
  (bankPlace sector (0x6000 + offset)).page

section Placement

variable {offset : UInt16} (inside : offset.toNat < 0x2000) (aligned : offset.toNat % 0x80 = 0)
include inside aligned

theorem toNat_place (index : Fin pageSize) :
    (place offset index).toNat = 0x6000 + offset.toNat + index.val := by
  have := index.isLt
  simp only [place, UInt16.toNat_add, UInt16.toNat_ofNat', toNat_secondWindow, pageSize] at *
  omega

theorem area_place (index : Fin pageSize) :
    0x6000 ≤ place offset index ∧ place offset index < 0x8000 := by
  have := index.isLt
  have place_eq := toNat_place inside aligned index
  have upper : (0x8000 : UInt16).toNat = 0x8000 := by decide
  simp only [UInt16.le_iff_toNat_le, UInt16.lt_iff_toNat_lt, toNat_secondWindow, upper, place_eq,
    pageSize] at *
  omega

theorem storeTarget_place (index : Fin pageSize) :
    StoreTarget.ofAddress? (place offset index) = some (.window .b) := by
  obtain ⟨lower, upper⟩ := area_place inside aligned index
  have above {bound : UInt16} (le : bound ≤ 0x6000) : ¬ place offset index < bound :=
    UInt16.not_lt.mpr (UInt16.le_trans le lower)
  have other : place offset index ≠ 0x1000 := by
    intro same
    rw [same] at lower
    contradiction
  simp [StoreTarget.ofAddress?, above, other, upper]

theorem address_page (sector : Sector) (index : Fin pageSize) :
    ((page sector offset).address index).val =
      Sector.start sector + offset.toNat + index.val := by
  have base : (0x6000 + offset).toNat = 0x6000 + offset.toNat := by
    have := toNat_place inside aligned 0
    simpa [place] using this
  simp only [page, Page.address, Page.start, Address.page, val_bankPlace, base, Sector.start,
    pageSize, sectorSize]
  omega

theorem sector_eq_of_page_eq {sector : Sector} {address : Address}
    (within : address.page = page sector offset) : address.sector = sector := by
  have base := address_page inside aligned sector 0
  have split_address := address.eq_start_page_add
  have := address.pageOffset.isLt
  rw [within] at split_address
  simp only [Page.address, Sector.start, Address.sector, Fin.ext_iff, sectorSize, pageSize,
    Fin.val_zero] at *
  omega

theorem bankPlace_place (sector : Sector) (index : Fin pageSize) :
    bankPlace sector (place offset index) = (page sector offset).address index := by
  have := index.isLt
  rw [Fin.ext_iff, address_page inside aligned, val_bankPlace, toNat_place inside aligned]
  simp only [Sector.start, pageSize, sectorSize] at *
  omega

theorem routes_programPage (sector : Sector) (data : Fin pageSize → UInt8) :
    Routes ⟨2, 1⟩ (programPage sector offset data)
      (Access.command 0xA0 ++ Access.programPage (page sector offset) data) ⟨2, sector⟩ := by
  have write (index : Fin pageSize) (byte : UInt8) : Routes ⟨2, sector⟩
      [.store (place offset index) byte] [.write ((page sector offset).address index) byte]
      ⟨2, sector⟩ :=
    .write (storeTarget_place inside aligned index) (bankPlace_place inside aligned sector index)
      (.nil _)
  have collect (indices : List (Fin pageSize)) : Routes ⟨2, sector⟩
      (indices.map fun index => .store (place offset index) (data index))
      (Access.collect (page sector offset) data indices) ⟨2, sector⟩ := by
    induction indices with
    | nil => exact .nil _
    | cons index rest ih => exact (write index (data index)).append ih
  rw [programPage, List.append_assoc]
  refine (routes_command 0xA0).append (.bank rfl ?_)
  rw [selected_ofNat, Access.programPage]
  exact (collect _).append ((write lastOffset 0x00).append (write lastOffset 0xF0))

theorem routes_replacePage (sector : Sector) (data : Fin pageSize → UInt8) :
    Routes ⟨2, 1⟩
      (command 0xF0 ++ eraseSector sector ++ command 0xF0 ++ programPage sector offset data)
      (Access.replacePage (start sector) (page sector offset) data) ⟨2, sector⟩ :=
  (((routes_command 0xF0).append (routes_eraseSector sector)).append (routes_command 0xF0)).append
    (routes_programPage inside aligned sector data)

theorem not_isUnlock_address {sector : Sector} {data : Fin pageSize → UInt8}
    (notFirst : ¬ (Sector.start sector + offset.toNat = 0x5500 ∧ data 0x55 = 0xAA))
    (notSecond : ¬ (Sector.start sector + offset.toNat = 0x2A80 ∧ data 0x2A = 0x55))
    (index : Fin pageSize) :
    ¬ IsUnlock ((page sector offset).address index) (data index) := by
  have here := address_page inside aligned sector index
  have := index.isLt
  simp only [Sector.start, sectorSize, pageSize] at *
  rintro (⟨unlock, byte⟩ | ⟨unlock, byte⟩)
  · have first : unlockAddress1.val = 0x5555 := rfl
    rw [unlock, first] at here
    obtain rfl : index = 0x55 := Fin.ext (show index.val = 0x55 by omega)
    exact notFirst ⟨by omega, byte⟩
  · have second : unlockAddress2.val = 0x2AAA := rfl
    rw [unlock, second] at here
    obtain rfl : index = 0x2A := Fin.ext (show index.val = 0x2A by omega)
    exact notSecond ⟨by omega, byte⟩

end Placement

/-! ### The preparation -/

variable {σ : Type} [SaveStore σ]

/-- From every reachable controller, the preparation shows a chip that can be armed, and touches
neither its protocol nor the memories. -/
theorem run_prepare {controller : Mbc6 σ} (reachable : Reachable controller) :
    let prepared := (Bus.run prepare controller).state
    Ready ⟨2, 1⟩ prepared ∧
      prepared.device =
        ⟨{ controller.chip with master := ⟨false, true⟩ }, controller.memory.flash⟩ ∧
      prepared.memory.ram = controller.memory.ram := by
  have identified : controller.chip.master.enabled = true → controller.chip.identified = true :=
    reachable.wellFormed_device.identified
  rw [prepare, state_run_store rfl, state_run_store rfl, state_run_store rfl, state_run_store rfl,
    state_run_store rfl, state_run_store rfl]
  refine ⟨⟨?_, ?_⟩, ?_, rfl⟩
  · intro window
    cases window <;> rfl
  · cases known : controller.chip.identified <;>
      simp [storeTarget, Chip.storeEnable, Chip.storeWriteEnable, known]
  · cases known : controller.chip.identified with
    | true => simp [storeTarget, device, Chip.storeEnable, Chip.storeWriteEnable, known]
    | false =>
        have disabled : controller.chip.master.enabled = false := by
          cases enabled : controller.chip.master.enabled with
          | true => simp [identified enabled] at known
          | false => rfl
        simp [storeTarget, device, Chip.storeEnable, Chip.storeWriteEnable, known, disabled]

/-! ### The whole driver -/

theorem load_place {offset : UInt16} (inside : offset.toNat < 0x2000)
    (aligned : offset.toNat % 0x80 = 0) {sector : Sector} (index : Fin pageSize)
    {controller : Mbc6 σ} (shown : controller.registers.mapping.get .b = ⟨sector, true⟩)
    (idle : controller.chip.state = .idle) (acknowledged : controller.chip.erase = {}) :
    (Bus.load (place offset index) controller).value =
      .ok (controller.memory.flash.get ((page sector offset).address index)) := by
  obtain ⟨lower, upper⟩ := area_place inside aligned index
  have target : LoadTarget.ofAddress? (place offset index) = some (.window .b) := by
    have notFixed : ¬ place offset index < 0x4000 :=
      UInt16.not_lt.mpr (UInt16.le_trans (by decide) lower)
    simp [LoadTarget.ofAddress?, notFixed, UInt16.not_lt.mpr lower, upper]
  rw [Bus.load, Bus.area, if_pos upper]
  simp only [BankController.loadRom, loadRom, target, loadWindow, shown, Chip.load, idle,
    acknowledged, offset_eq_bankPlace, bankPlace_place inside aligned]
  simp [EraseFlags.any]

theorem run_replacePage {controller : Mbc6 σ} (reachable : Reachable controller)
    (sector : Sector) {offset : UInt16} (inside : offset.toNat < 0x2000)
    (aligned : offset.toNat % 0x80 = 0) {data : Fin pageSize → UInt8}
    (notFirst : ¬ (Sector.start sector + offset.toNat = 0x5500 ∧ data 0x55 = 0xAA))
    (notSecond : ¬ (Sector.start sector + offset.toNat = 0x2A80 ∧ data 0x2A = 0x55)) :
    let after := (Bus.run (replacePage sector offset data) controller).state
    after.registers.mapping.get .b = ⟨sector, true⟩ ∧
      (after.chip.state = .idle ∧ after.chip.erase = {}) ∧
      after.memory.flash =
        Action.apply
          (.commit (page sector offset) (PageBuffer.programmed (page sector offset) data))
          (Action.apply (.eraseSector sector) controller.memory.flash) ∧
      after.memory.ram = controller.memory.ram ∧ after.dirty = true := by
  have plain := not_isUnlock_address inside aligned notFirst notSecond
  obtain ⟨ready, deviceBefore, ramBefore⟩ := run_prepare reachable
  obtain ⟨⟨shown, _⟩, deviceAfter, ram, dirty⟩ :=
    (routes_replacePage inside aligned sector data).run ready
  obtain ⟨replaced, modified⟩ := @Device.run_replacePage
    { controller.chip with master := ⟨false, true⟩ } controller.memory.flash
    (page sector offset) data rfl (start sector) (isSectorStart_start sector) plain
  rw [deviceBefore, replaced, sector_start] at deviceAfter
  rw [deviceBefore, modified, Bool.or_true] at dirty
  have chip := congrArg Device.chip deviceAfter
  rw [replacePage, Bus.run_append]
  generalize (Bus.run _ (Bus.run prepare controller).state).state = after at *
  exact ⟨shown .b, ⟨congrArg Chip.state chip, congrArg Chip.erase chip⟩,
    congrArg Device.array deviceAfter, ram.trans ramBefore, dirty⟩

/-- A console replaces a page from every reachable state, unless its data looks like an unlock
write. The page is read back, the rest of its sector is erased, and nothing else has changed. -/
theorem load_run_replacePage {controller : Mbc6 σ} (reachable : Reachable controller)
    (sector : Sector) {offset : UInt16} (inside : offset.toNat < 0x2000)
    (aligned : offset.toNat % 0x80 = 0) {data : Fin pageSize → UInt8}
    (notFirst : ¬ (Sector.start sector + offset.toNat = 0x5500 ∧ data 0x55 = 0xAA))
    (notSecond : ¬ (Sector.start sector + offset.toNat = 0x2A80 ∧ data 0x2A = 0x55)) :
    let after := (Bus.run (replacePage sector offset data) controller).state
    (∀ index, (Bus.load (place offset index) after).value =
        .ok (if index = lastOffset then 0x00 else data index)) ∧
      (∀ address : Address, address.sector = sector →
        (∀ index : Fin pageSize,
          address.val ≠ Sector.start sector + offset.toNat + index.val) →
        after.memory.flash.get address = 0xFF) ∧
      (∀ address : Address, address.sector ≠ sector →
        after.memory.flash.get address = controller.memory.flash.get address) ∧
      after.memory.ram = controller.memory.ram ∧
      after.chip.state = .idle ∧ after.chip.erase = {} ∧ after.dirty = true := by
  obtain ⟨shown, ⟨idle, acknowledged⟩, flash, ram, dirty⟩ :=
    run_replacePage reachable sector inside aligned notFirst notSecond
  have inSector (address : Address) (within : address.page = page sector offset) :
      address.sector = sector := sector_eq_of_page_eq inside aligned within
  refine ⟨?loaded, ?erased, ?untouched, ram, idle, acknowledged, dirty⟩
  case loaded =>
    intro index
    rw [load_place inside aligned index shown idle acknowledged, flash,
      Device.get_replacePage inSector]
    simp
  case erased =>
    intro address same other
    have outside : address.page ≠ page sector offset := by
      intro within
      apply other address.pageOffset
      rw [← address_page inside aligned sector, ← within]
      exact address.eq_start_page_add
    rw [flash, Device.get_replacePage inSector, if_neg outside, if_pos same]
  case untouched =>
    intro address different
    have outside : address.page ≠ page sector offset := fun within =>
      different (inSector address within)
    rw [flash, Device.get_replacePage inSector, if_neg outside, if_neg different]

/-- The page of zeros around the place of the first unlock write, from an armed erasure. -/
theorem load_run_replacePage_of_eraseArmed :
    ∃ controller : Mbc6 FailingStore, Reachable controller ∧
      controller.chip.state = .eraseArmed ∧
      let after := (Bus.run (replacePage 2 0x1500 fun _ => 0x00) controller).state
      (∀ index, (Bus.load (place 0x1500 index) after).value = .ok 0x00) ∧
        after.chip.state = .idle ∧ after.dirty = true := by
  have yields : Yields (some (⟨none, 0⟩ : FailingStore)) none := rfl
  have idle : CommandState.idle ≠ .eraseArmed := by decide
  obtain ⟨start, on, unarmed⟩ :
      ∃ start : Mbc6 FailingStore, Reachable start ∧ start.chip.state ≠ .eraseArmed :=
    ⟨_, reachable_initial legal_smallestRom yields, idle⟩
  obtain ⟨ready, deviceBefore, _⟩ := run_prepare on
  obtain ⟨_, armed, _⟩ := (routes_command 0x80).run ready
  rw [deviceBefore] at armed
  have armErase := @Device.run_armErase
    { start.chip with master := ⟨false, true⟩ } start.memory.flash unarmed rfl
  have reachable := (on.run prepare).run (command 0x80)
  obtain ⟨loaded, _, _, _, idle, _, dirty⟩ := @load_run_replacePage _ _ _ reachable 2 0x1500
    (by decide) (by decide) (fun _ => 0x00) (by decide) (by decide)
  refine ⟨_, reachable, ?_, ?_, idle, dirty⟩
  · exact congrArg (fun after => after.chip.state) (armed.trans armErase)
  · intro index
    rw [loaded]
    simp

end Driver

end Mbc6
end FlashCartridge
