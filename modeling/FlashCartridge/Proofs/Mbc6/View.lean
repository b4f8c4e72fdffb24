import Mathlib.Data.List.Forall2
import FlashCartridge.Proofs.Mbc6.SaveAccounting

/-!
# What the console can notice

The view of a controller is all of it but the battery and the mark of a change. Every operation
finds the next view from the present one alone, and a flush leaves it as it is, so that whether and
how a cartridge is saved can only be told from the results of flushes.
-/

namespace FlashCartridge

/-- The same response, unless both are responses to a flush. -/
def Bus.Response.SameButFlush : Bus.Response → Bus.Response → Prop
  | .flushed _, .flushed _ => True
  | left, right => left = right

namespace Mbc6

variable {σ τ : Type} [SaveStore σ] [SaveStore τ]

/-- Everything about a controller but its battery and whether something has changed since the last
successful save. -/
structure View where
  /-- The cartridge ROM. -/
  rom : Rom
  /-- RAM and flash. -/
  memory : SaveImage
  /-- The bank registers. -/
  registers : Registers
  /-- The command interpreter of the flash chip. -/
  chip : Flash.Chip

/-- The view of a controller. -/
def view (controller : Mbc6 σ) : View :=
  ⟨controller.rom, controller.memory, controller.registers, controller.chip⟩

/-! ## One operation -/

theorem view_flush (controller : Mbc6 σ) : controller.flush.state.view = controller.view := by
  cases due : controller.due? with
  | none => rw [flush_of_not_due due]
  | some reply =>
      rw [flush_of_due due]
      rfl

/-- Whatever a save comes to, the RAM is enabled or disabled and nothing else is to be seen. -/
theorem view_storeRamEnable (controller : Mbc6 σ) (byte : UInt8) :
    (controller.storeRamEnable byte).state.view =
      { controller.view with
        registers := { controller.registers with ramEnabled := byte == 0x0A } } := by
  have enable (reached : Mbc6 σ) (same : reached.view = controller.view) :
      view { reached with
          registers := { reached.registers with ramEnabled := byte == 0x0A } } =
        { controller.view with
          registers := { controller.registers with ramEnabled := byte == 0x0A } } := by
    have registers : reached.registers = controller.registers := congrArg View.registers same
    rw [← same, ← registers]
    rfl
  rw [storeRamEnable]
  split
  · exact enable _ ((congrArg view (state_flushQuietly controller)).trans (view_flush controller))
  · exact enable controller rfl

section Congruence

variable {left : Mbc6 σ} {right : Mbc6 τ} (same : left.view = right.view)
include same

omit [SaveStore σ] [SaveStore τ] in
theorem view_storeRam_congr (distance : UInt16) (byte : UInt8) :
    (left.storeRam distance byte).view = (right.storeRam distance byte).view := by
  obtain ⟨rom, memory, registers, chip, battery, dirty⟩ := left
  obtain ⟨_, _, _, _, battery', dirty'⟩ := right
  simp only [view, View.mk.injEq] at same
  obtain ⟨rfl, rfl, rfl, rfl⟩ := same
  simp only [storeRam]
  split_ifs <;> rfl

omit [SaveStore σ] [SaveStore τ] in
theorem view_storeWindow_congr (window : Window) (address : UInt16) (byte : UInt8) :
    (left.storeWindow window address byte).state.view =
      (right.storeWindow window address byte).state.view := by
  obtain ⟨rom, memory, registers, chip, battery, dirty⟩ := left
  obtain ⟨_, _, _, _, battery', dirty'⟩ := right
  simp only [view, View.mk.injEq] at same
  obtain ⟨rfl, rfl, rfl, rfl⟩ := same
  simp only [storeWindow]
  split_ifs <;> rfl

theorem view_storeTarget_congr (address : UInt16) (byte : UInt8) (target : StoreTarget) :
    (left.storeTarget address byte target).state.view =
      (right.storeTarget address byte target).state.view := by
  cases target with
  | ramEnable =>
      have registers : left.registers = right.registers := congrArg View.registers same
      simp only [storeTarget, view_storeRamEnable, same, registers]
  | window window => exact view_storeWindow_congr same window address byte
  | _ =>
      simp only [view, View.mk.injEq] at same
      simp only [storeTarget, view, same]

theorem load_congr (address : UInt16) :
    (Bus.load address left).value = (Bus.load address right).value := by
  obtain ⟨rom, memory, registers, chip, battery, dirty⟩ := left
  obtain ⟨_, _, _, _, battery', dirty'⟩ := right
  simp only [view, View.mk.injEq] at same
  obtain ⟨rfl, rfl, rfl, rfl⟩ := same
  rw [Bus.load, Bus.load]
  split <;> rfl

omit [SaveStore σ] [SaveStore τ] in
theorem changes_congr (operation : Bus.Operation) :
    left.Changes operation ↔ right.Changes operation := by
  obtain ⟨rom, memory, registers, chip, battery, dirty⟩ := left
  obtain ⟨_, _, _, _, battery', dirty'⟩ := right
  simp only [view, View.mk.injEq] at same
  obtain ⟨rfl, rfl, rfl, rfl⟩ := same
  exact Iff.rfl

/-- The view after an operation depends on the view before it only. -/
theorem view_perform_congr (operation : Bus.Operation) :
    (Bus.perform operation left).state.view = (Bus.perform operation right).state.view := by
  cases operation with
  | load address =>
      rw [Bus.perform, Bus.perform, state_load, state_load, same]
  | store address byte =>
      cases found : StoreTarget.ofAddress? address with
      | some target =>
          rw [Bus.perform, Bus.perform, state_store found, state_store found]
          exact view_storeTarget_congr same address byte target
      | none =>
          simp only [Bus.perform, Bus.store]
          split
          · simpa only [BankController.storeRom, storeRom, found] using same
          · exact view_storeRam_congr same _ byte
          · exact same
  | flush =>
      calc (Bus.perform .flush left).state.view
          = left.view := view_flush left
        _ = right.view := same
        _ = (Bus.perform .flush right).state.view := (view_flush right).symm

/-- So does the response, unless it is the result of a flush. -/
theorem response_perform_congr (operation : Bus.Operation) :
    (Bus.perform operation left).value.SameButFlush (Bus.perform operation right).value := by
  cases operation with
  | load address =>
      have loaded := load_congr same address
      simp only [Bus.perform, Bus.Response.SameButFlush, loaded]
  | store address byte =>
      simp only [Bus.perform, Bus.Response.SameButFlush, Bus.store]
      split
      · simp only [BankController.storeRom, storeRom]
        split <;> rfl
      · rfl
      · rfl
  | flush => trivial

end Congruence

/-! ## A whole run -/

theorem view_run_congr {left : Mbc6 σ} {right : Mbc6 τ} (same : left.view = right.view)
    (operations : List Bus.Operation) :
    (Bus.run operations left).state.view = (Bus.run operations right).state.view ∧
      List.Forall₂ Bus.Response.SameButFlush (Bus.run operations left).value
        (Bus.run operations right).value := by
  induction operations generalizing left right with
  | nil => exact ⟨same, .nil⟩
  | cons operation rest ih =>
      obtain ⟨after, responses⟩ := ih (view_perform_congr same operation)
      exact ⟨after, .cons (response_perform_congr same operation) responses⟩

/-- Two cartridges that start with the same ROM, RAM and flash show the same in every run, whatever
their batteries; only the results of flushes can tell them apart. -/
theorem view_run_eq_of_image_eq {bytes : ByteArray}
    (legal : 0 < bytes.size ∧ bytes.size % 0x4000 = 0) {battery : Option σ} {battery' : Option τ}
    {kept kept' : Option SaveImage} (yields : Yields battery kept) (yields' : Yields battery' kept')
    (same : kept.getD .blank = kept'.getD .blank) :
    ∃ (start : Mbc6 σ) (start' : Mbc6 τ),
      (powerOn bytes battery).1 = .ok start ∧ (powerOn bytes battery').1 = .ok start' ∧
        ∀ operations,
          let reply := Bus.run operations start
          let reply' := Bus.run operations start'
          reply.state.memory = reply'.state.memory ∧
            reply.state.rom = reply'.state.rom ∧
            reply.state.registers = reply'.state.registers ∧
            reply.state.chip = reply'.state.chip ∧
            (∀ address, (Bus.load address reply.state).value =
              (Bus.load address reply'.state).value) ∧
            List.Forall₂ Bus.Response.SameButFlush reply.value reply'.value := by
  refine ⟨_, _, powerOn_eq_ok legal yields, powerOn_eq_ok legal yields', ?_⟩
  intro operations reply reply'
  have started : view (initial ⟨bytes, legal.1, legal.2⟩ (kept.getD .blank) (loaded battery)) =
      view (initial ⟨bytes, legal.1, legal.2⟩ (kept'.getD .blank) (loaded battery')) := by
    rw [same]
    rfl
  obtain ⟨after, responses⟩ := view_run_congr started operations
  exact ⟨congrArg View.memory after, congrArg View.rom after, congrArg View.registers after,
    congrArg View.chip after, load_congr after, responses⟩

/-- A save that succeeds with a battery, and is not even tried without one, leaves the same RAM. -/
theorem view_run_eq_of_image_eq_without_battery :
    let operations : List Bus.Operation :=
      [.store 0x0000 0x0A, .store 0xA000 0x42, .store 0x0000 0x00]
    ∃ start start' : Mbc6 FailingStore,
      (powerOn smallestRom (some (⟨none, 0⟩ : FailingStore))).1 = .ok start ∧
        (powerOn smallestRom (none : Option FailingStore)).1 = .ok start' ∧
        (Bus.run operations start).state.dirty = false ∧
        (Bus.run operations start').state.dirty = true ∧
        (Bus.run operations start).state.memory = (Bus.run operations start').state.memory := by
  intro operations
  have yields : Yields (some (⟨none, 0⟩ : FailingStore)) none := rfl
  have yields' : Yields (none : Option FailingStore) none := rfl
  obtain ⟨start, start', on, on', agree⟩ :=
    view_run_eq_of_image_eq legal_smallestRom yields yields' rfl
  refine ⟨start, start', on, on', ?clean, ?dirty, (agree operations).1⟩
  case clean =>
    rw [powerOn_eq_ok legal_smallestRom yields] at on
    obtain rfl := Except.ok.inj on
    simp [operations, Bus.run, Bus.perform, Bus.store, Bus.area, BankController.storeRom,
      BankController.storeRam, storeRom, StoreTarget.ofAddress?, storeTarget, storeRamEnable,
      flushQuietly, flush, storeRam, initial, loaded, Registers.initial, SaveImage.blank,
      SaveStore.load, SaveStore.save]
  case dirty =>
    rw [powerOn_eq_ok legal_smallestRom yields'] at on'
    obtain rfl := Except.ok.inj on'
    simp [operations, Bus.run, Bus.perform, Bus.store, Bus.area, BankController.storeRom,
      BankController.storeRam, storeRom, StoreTarget.ofAddress?, storeTarget, storeRamEnable,
      flushQuietly, flush, storeRam, initial, loaded, Registers.initial, SaveImage.blank]

end Mbc6
end FlashCartridge
