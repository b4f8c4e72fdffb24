import FlashCartridge.Proofs.Mbc6.Command

/-!
# How long the flash chip is busy

An erasure makes the chip busy until it is acknowledged. The erasure of the array is acknowledged by
a reset only, and that of a sector by a reset or at the start of any sector. Until then, whatever
else a console does, loads from flash show the busy status.
-/

namespace FlashCartridge
namespace Mbc6

open Flash

variable {σ : Type} [SaveStore σ]

/-- The erasure of a sector is over. -/
def EndsSectorErasure (moment : Bus.Moment (Mbc6 σ)) : Prop :=
  Resets moment ∨ AcknowledgesSector moment

/-- The array was erased, and the chip was not reset since. -/
def ChipUnacknowledged (moments : List (Bus.Moment (Mbc6 σ))) : Prop :=
  Bus.Since ErasesChip Resets moments

/-- A sector was erased, and that was not acknowledged since. -/
def SectorUnacknowledged (moments : List (Bus.Moment (Mbc6 σ))) : Prop :=
  Bus.Since ErasesSector EndsSectorErasure moments

theorem load_of_erased {controller : Mbc6 σ}
    (erased : controller.chip.erase.chip = true ∨ controller.chip.erase.sector = true)
    {address : UInt16} {place : Address} (shown : controller.flashPlace? address = some place) :
    (Bus.load address controller).value = .ok 0x80 := by
  have any : controller.chip.erase.any = true := by
    rw [EraseFlags.any, Bool.or_eq_true]
    exact erased
  rw [load_flashPlace shown, Chip.load, any]
  rfl

omit [SaveStore σ] in
theorem not_resets_of_acknowledgesSector {moment : Bus.Moment (Mbc6 σ)}
    (acknowledges : AcknowledgesSector moment) : ¬ Resets moment := by
  obtain ⟨start, aligned, _, reached⟩ := acknowledges
  rintro ⟨_, same⟩
  rw [reached, Option.some.injEq, Prod.mk.injEq] at same
  rw [same.1] at aligned
  contradiction

/-- The erase flags tell exactly which erasures wait to be acknowledged, and as long as one of them
does, loads from flash show the busy status. -/
theorem busy_until_acknowledged {bytes : ByteArray}
    (legal : 0 < bytes.size ∧ bytes.size % 0x4000 = 0) {battery : Option σ}
    {kept : Option SaveImage} (yields : Yields battery kept) :
    ∃ start : Mbc6 σ, (powerOn bytes battery).1 = .ok start ∧ ∀ operations,
      let after := (Bus.run operations start).state
      let moments := Bus.moments operations start
      (after.chip.erase.chip = true ↔ ChipUnacknowledged moments) ∧
      (after.chip.erase.sector = true ↔ SectorUnacknowledged moments) ∧
      (ChipUnacknowledged moments ∨ SectorUnacknowledged moments →
        ∀ address place, after.flashPlace? address = some place →
          (Bus.load address after).value = .ok 0x80) ∧
      ∀ operation, AcknowledgesSector ⟨after, operation⟩ → ChipUnacknowledged moments →
        let next := (Bus.perform operation after).state
        next.chip.erase.chip = true ∧
          ∀ address place, next.flashPlace? address = some place →
            (Bus.load address next).value = .ok 0x80 := by
  refine ⟨_, powerOn_eq_ok legal yields, ?_⟩
  intro operations after moments
  have chip : after.chip.erase.chip = true ↔ ChipUnacknowledged moments := by
    have law := Bus.flag_run_iff (·.chip.erase.chip = true) erase_chip_after operations
      (initial ⟨bytes, legal.1, legal.2⟩ (kept.getD .blank) (loaded battery))
    rwa [or_iff_left (fun erased => nomatch erased.1)] at law
  have sector : after.chip.erase.sector = true ↔ SectorUnacknowledged moments := by
    have law := Bus.flag_run_iff (·.chip.erase.sector = true) erase_sector_after operations
      (initial ⟨bytes, legal.1, legal.2⟩ (kept.getD .blank) (loaded battery))
    rwa [or_iff_left (fun erased => nomatch erased.1)] at law
  refine ⟨chip, sector, ?busy, ?acknowledged⟩
  case busy =>
    intro unacknowledged address place shown
    exact load_of_erased (unacknowledged.imp chip.mpr sector.mpr) shown
  case acknowledged =>
    intro operation acknowledges unacknowledged next
    have erased : next.chip.erase.chip = true :=
      (erase_chip_after ⟨after, operation⟩).mpr
        (.inr ⟨chip.mpr unacknowledged, not_resets_of_acknowledgesSector acknowledges⟩)
    exact ⟨erased, fun address place shown => load_of_erased (.inl erased) shown⟩

/-- The array was erased. Neither a failed save nor the acknowledgement of a sector ends that. -/
theorem busy_until_acknowledged_of_eraseChip :
    let operations : List Bus.Operation :=
      [.store 0x2000 2, .store 0x2800 1, .store 0x3000 1, .store 0x3800 1, .store 0x1000 1,
        .store 0x5555 0xAA, .store 0x6AAA 0x55, .store 0x5555 0x80,
        .store 0x5555 0xAA, .store 0x6AAA 0x55, .store 0x5555 0x10,
        .flush, .store 0x5555 0xAA, .store 0x6AAA 0x55]
    ∃ start : Mbc6 FailingStore,
      (powerOn smallestRom (some (⟨none, 1⟩ : FailingStore))).1 = .ok start ∧
        let after := (Bus.run operations start).state
        ChipUnacknowledged (Bus.moments operations start) ∧
          AcknowledgesSector ⟨after, .store 0x6000 0xF0⟩ ∧
          (Bus.load 0x4000 (Bus.perform (.store 0x6000 0xF0) after).state).value = .ok 0x80 := by
  intro operations
  have yields : Yields (some (⟨none, 1⟩ : FailingStore)) none := rfl
  obtain ⟨start, on, law⟩ := busy_until_acknowledged legal_smallestRom yields
  rw [powerOn_eq_ok legal_smallestRom yields] at on
  obtain rfl := Except.ok.inj on
  refine ⟨_, powerOn_eq_ok legal_smallestRom yields, ?_⟩
  intro after
  obtain ⟨chip, _, _, acknowledged⟩ := law operations
  have erased : ChipUnacknowledged (Bus.moments operations _) := chip.mp rfl
  have mapping : after.registers.mapping.get .b = ⟨1, true⟩ := rfl
  have writable : after.chip.master.writeEnabled = true := rfl
  have target : StoreTarget.ofAddress? 0x6000 = some (.window .b) := rfl
  have acknowledges : AcknowledgesSector ⟨after, .store 0x6000 0xF0⟩ := by
    refine ⟨⟨0x2000, by decide⟩, rfl, rfl, ?_⟩
    simp only [flashWrite?_store, target, mapping, writable]
    rfl
  obtain ⟨_, busy⟩ := acknowledged _ acknowledges erased
  refine ⟨erased, acknowledges, busy 0x4000 ⟨0x4000, by decide⟩ ?_⟩
  let next := (Bus.perform (.store 0x6000 0xF0) after).state
  have shown : next.registers.mapping.get .a = ⟨2, true⟩ := rfl
  have window : romWindow? 0x4000 = some .a := rfl
  simp only [flashPlace?, window, Option.bind_some]
  rw [shown]
  rfl

end Mbc6
end FlashCartridge
