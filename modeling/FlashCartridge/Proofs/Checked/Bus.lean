import FlashCartridge.Proofs.Checked.Controller
import FlashCartridge.Proofs.Mbc6.Reachable
import FlashCartridge.Proofs.SaveStore

/-!
# The bus never traps

The whole cartridge on words and blocks, from power on to any run of bus operations. The bus asks
the controller for addresses of its areas only, so that nothing traps but power on with an illegal
ROM, and every run gives the responses of `Mbc6` and ends in its state.
-/

namespace FlashCartridge

/-- A response that is not the report of a fault. -/
def Bus.Response.Faultless : Bus.Response → Prop
  | .loaded result => ∃ byte, result = .ok byte
  | .stored result => result = .ok ()
  | .flushed _ => True

namespace Checked
namespace Controller

variable {σ : Type}

/-- The controller after power on. -/
def initial (rom region : ByteArray) (battery : Option σ) : Controller σ where
  rom
  region
  registers := ⟨false, ⟨0, 0⟩, ⟨0, 0⟩⟩
  chip := ⟨.idle, {}, false, {}, .empty⟩
  battery
  dirty := false

variable [SaveStore σ]

/-- Power on, which asserts that the ROM is legal. -/
def powerOn (rom : ByteArray) (battery : Option σ) :
    Checked (Except SaveError (Controller σ)) := do
  require (0 < rom.size ∧ rom.size % 0x4000 = 0) .assertion
  let region ← blank
  match battery with
  | none => .ok (.ok (initial rom region none))
  | some store =>
    let reply := SaveStore.load store
    match reply.result with
    | .error cause => .ok (.error (.load cause))
    | .ok kept => .ok (.ok (initial rom (kept.elim region SaveImage.toBytes) (some reply.store)))

/-- Read a byte from the bus. -/
def load (controller : Controller σ) (address : UInt16) : Checked UInt8 :=
  match Bus.area address with
  | .rom => controller.loadRom address
  | .ram offset => controller.loadRam offset
  | .unmapped => .ok 0x00

/-- Write a byte to the bus. -/
def store (controller : Controller σ) (address : UInt16) (byte : UInt8) :
    Checked (Controller σ) :=
  match Bus.area address with
  | .rom => controller.storeRom address byte
  | .ram offset => controller.storeRam offset byte
  | .unmapped => .ok controller

/-- Perform one operation. -/
def perform (controller : Controller σ) : Bus.Operation → Checked (Controller σ × Bus.Response)
  | .load address => do
    let byte ← controller.load address
    .ok (controller, .loaded (.ok byte))
  | .store address byte => do
    let after ← controller.store address byte
    .ok (after, .stored (.ok ()))
  | .flush => do
    let (after, result) ← controller.flush
    .ok (after, .flushed result)

/-- Perform operations one after the other. -/
def run (controller : Controller σ) :
    List Bus.Operation → Checked (Controller σ × List Bus.Response)
  | [] => .ok (controller, [])
  | operation :: rest => do
    let (next, response) ← controller.perform operation
    let (after, responses) ← next.run rest
    .ok (after, response :: responses)

/-! ## Agreement with the cartridge -/

/-- Power on traps exactly where it reports a fault. -/
theorem powerOn_eq (bytes : ByteArray) (battery : Option σ) :
    powerOn bytes battery =
      match (Mbc6.powerOn bytes battery).1 with
      | .error (.fault _) => .error .assertion
      | .error (.save error) => .ok (.error error)
      | .ok start => .ok (.ok (ofController start)) := by
  rw [powerOn, Mbc6.powerOn, Rom.ofBytes, blank_eq_ok]
  by_cases legal : 0 < bytes.size ∧ bytes.size % 0x4000 = 0
  · rw [require_eq_ok legal, dif_pos legal, ok_bind, ok_bind]
    cases battery with
    | none => rfl
    | some store =>
        dsimp only
        rcases (SaveStore.load store).result with cause | _ | image
        · rfl
        · rfl
        · rfl
  · rw [require, if_neg legal, dif_neg legal]
    rfl

/-- No operation traps. -/
theorem perform_ofController (controller : Mbc6 σ) (operation : Bus.Operation) :
    (ofController controller).perform operation =
      .ok (ofController (Bus.perform operation controller).state,
        (Bus.perform operation controller).value) := by
  cases operation with
  | load address =>
      rw [perform, load, Bus.perform, Bus.load]
      cases inside : Bus.area address with
      | rom =>
          obtain ⟨byte, checked, loaded⟩ :=
            loadRom_ofController controller (Bus.area_eq_rom_iff.mp inside)
          simp only [checked, BankController.loadRom, loaded]
          rfl
      | ram offset =>
          dsimp only
          rw [loadRam_ofController controller (Bus.area_eq_ram_iff.mp inside).1]
          rfl
      | unmapped => rfl
  | store address byte =>
      rw [perform, store, Bus.perform, Bus.store]
      cases inside : Bus.area address with
      | rom =>
          obtain ⟨checked, stored⟩ :=
            storeRom_ofController controller (Bus.area_eq_rom_iff.mp inside) byte
          simp only [checked, BankController.storeRom, stored]
          rfl
      | ram offset =>
          dsimp only
          rw [storeRam_ofController controller (Bus.area_eq_ram_iff.mp inside).1 byte]
          rfl
      | unmapped => rfl
  | flush =>
      rw [perform, flush_ofController]
      rfl

theorem run_ofController (controller : Mbc6 σ) (operations : List Bus.Operation) :
    (ofController controller).run operations =
      .ok (ofController (Bus.run operations controller).state,
        (Bus.run operations controller).value) := by
  induction operations generalizing controller with
  | nil => rfl
  | cons operation rest ih =>
      rw [run, perform_ofController, ok_bind]
      dsimp only
      rw [ih, ok_bind]
      rfl

theorem faultless_perform {controller after : Controller σ} {operation : Bus.Operation}
    {response : Bus.Response} (done : controller.perform operation = .ok (after, response)) :
    response.Faultless := by
  cases operation with
  | load address =>
      obtain ⟨byte, -, loaded⟩ := bind_eq_ok_iff.mp done
      obtain ⟨-, rfl⟩ := Prod.mk.inj (Except.ok.inj loaded)
      exact ⟨byte, rfl⟩
  | store address byte =>
      obtain ⟨next, -, stored⟩ := bind_eq_ok_iff.mp done
      obtain ⟨-, rfl⟩ := Prod.mk.inj (Except.ok.inj stored)
      rfl
  | flush =>
      obtain ⟨⟨next, result⟩, -, flushed⟩ := bind_eq_ok_iff.mp done
      obtain ⟨-, rfl⟩ := Prod.mk.inj (Except.ok.inj flushed)
      trivial

theorem faultless_run {controller after : Controller σ} {operations : List Bus.Operation}
    {responses : List Bus.Response} (done : controller.run operations = .ok (after, responses)) :
    ∀ response ∈ responses, response.Faultless := by
  induction operations generalizing controller after responses with
  | nil =>
      obtain ⟨-, rfl⟩ := Prod.mk.inj (Except.ok.inj done)
      exact nofun
  | cons operation rest ih =>
      obtain ⟨⟨next, response⟩, performed, later⟩ := bind_eq_ok_iff.mp done
      obtain ⟨⟨final, others⟩, ran, joined⟩ := bind_eq_ok_iff.mp later
      obtain ⟨-, rfl⟩ := Prod.mk.inj (Except.ok.inj joined)
      exact List.forall_mem_cons.mpr ⟨faultless_perform performed, ih ran⟩

end Controller

variable {σ : Type} [SaveStore σ]

theorem exists_fault_iff (bytes : ByteArray) (battery : Option σ) :
    (∃ fault, (Mbc6.powerOn bytes battery).1 = .error (.fault fault)) ↔
      bytes.size = 0 ∨ bytes.size % 0x4000 ≠ 0 := by
  rw [Mbc6.powerOn, Rom.ofBytes]
  by_cases legal : 0 < bytes.size ∧ bytes.size % 0x4000 = 0
  · rw [dif_pos legal]
    refine iff_of_false ?_ (by omega)
    cases battery with
    | none => simp
    | some store =>
        dsimp only
        rcases (SaveStore.load store).result with cause | kept <;> simp
  · rw [dif_neg legal]
    exact iff_of_true ⟨_, rfl⟩ (by omega)

/-- Power on traps exactly if the ROM is illegal. After that, no run of bus operations traps or
reports a fault. -/
theorem bus_never_traps (bytes : ByteArray) (battery : Option σ) :
    ((∃ fault, (Mbc6.powerOn bytes battery).1 = .error (.fault fault)) ↔
      bytes.size = 0 ∨ bytes.size % 0x4000 ≠ 0) ∧
    ((∃ trap, Controller.powerOn bytes battery = .error trap) ↔
      bytes.size = 0 ∨ bytes.size % 0x4000 ≠ 0) ∧
    ∀ start : Mbc6 σ, (Mbc6.powerOn bytes battery).1 = .ok start →
      Controller.powerOn bytes battery = .ok (.ok (.ofController start)) ∧
      ∀ operations,
        (Controller.ofController start).run operations =
            .ok (.ofController (Bus.run operations start).state,
              (Bus.run operations start).value) ∧
          ∀ response ∈ (Bus.run operations start).value, response.Faultless := by
  have faults := exists_fault_iff bytes battery
  have agreement := Controller.powerOn_eq bytes battery
  refine ⟨faults, ?traps, ?runs⟩
  case traps =>
    rw [← faults, agreement]
    rcases (Mbc6.powerOn bytes battery).1 with (fault | error) | start <;> simp
  case runs =>
    intro start on
    rw [on] at agreement
    refine ⟨agreement, ?_⟩
    intro operations
    have ran := Controller.run_ofController start operations
    exact ⟨ran, Controller.faultless_run ran⟩

/-- A page is programmed up to the end of the array, and its last byte is read. -/
theorem bus_never_traps_of_last_page :
    let operations : List Bus.Operation :=
      [.store 0x1000 0x01, .store 0x2000 0x02, .store 0x2800 0x01, .store 0x3000 0x01,
        .store 0x3800 0x01, .store 0x5555 0xAA, .store 0x6AAA 0x55, .store 0x5555 0xA0,
        .store 0x3000 0x7F, .store 0x7FFF 0x12, .store 0x7FFF 0x00, .store 0x7FFF 0xF0,
        .load 0x7FFF]
    ∃ start : Mbc6 FailingStore,
      (Mbc6.powerOn Mbc6.smallestRom (some (⟨none, 1⟩ : FailingStore))).1 = .ok start ∧
        ∃ after responses,
          (Controller.ofController start).run operations = .ok (after, responses) ∧
            responses.length = operations.length ∧ ∀ response ∈ responses, response.Faultless := by
  intro operations
  have yields : Mbc6.Yields (some (⟨none, 1⟩ : FailingStore)) none := rfl
  have on := Mbc6.powerOn_eq_ok Mbc6.legal_smallestRom yields
  obtain ⟨-, -, runs⟩ := bus_never_traps Mbc6.smallestRom (some (⟨none, 1⟩ : FailingStore))
  obtain ⟨-, neverTraps⟩ := runs _ on
  obtain ⟨ran, faultless⟩ := neverTraps operations
  exact ⟨_, on, _, _, ran, Bus.length_value_run _ _, faultless⟩

end Checked
end FlashCartridge
