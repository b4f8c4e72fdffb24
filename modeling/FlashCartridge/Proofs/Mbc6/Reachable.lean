import FlashCartridge.Proofs.Mbc6.Step

/-!
# Reachable controllers

Power on succeeds exactly for a legal ROM and a save store that can be loaded, and it starts from
the image that the store holds. From there, bus operations lead to the reachable controllers.
-/

namespace FlashCartridge
namespace Mbc6

variable {σ : Type} [SaveStore σ]

/-- A battery that yields what was kept in the last session. Without a battery nothing is kept. -/
def Yields : Option σ → Option SaveImage → Prop
  | none, kept => kept = none
  | some store, kept => (SaveStore.load store).result = .ok kept

/-- The battery after its image was loaded. -/
def loaded (battery : Option σ) : Option σ := battery.map fun store => (SaveStore.load store).store

theorem powerOn_eq_ok_iff (bytes : ByteArray) (battery : Option σ) (start : Mbc6 σ) :
    (powerOn bytes battery).1 = .ok start ↔
      ∃ rom kept, Rom.ofBytes bytes = .ok rom ∧ Yields battery kept ∧
        start = initial rom (kept.getD .blank) (loaded battery) := by
  rw [powerOn]
  cases Rom.ofBytes bytes with
  | error fault => simp
  | ok rom =>
      cases battery with
      | none => simp [Yields, loaded, eq_comm]
      | some store =>
          cases result : (SaveStore.load store).result with
          | error cause => simp [Yields, result]
          | ok kept => simp [Yields, loaded, result, eq_comm]

theorem powerOn_eq_ok {bytes : ByteArray} (legal : 0 < bytes.size ∧ bytes.size % 0x4000 = 0)
    {battery : Option σ} {kept : Option SaveImage} (yields : Yields battery kept) :
    (powerOn bytes battery).1 =
      .ok (initial ⟨bytes, legal.1, legal.2⟩ (kept.getD .blank) (loaded battery)) := by
  rw [powerOn_eq_ok_iff]
  exact ⟨⟨bytes, legal.1, legal.2⟩, kept, by rw [Rom.ofBytes, dif_pos legal], yields, rfl⟩

/-- The smallest legal ROM, one bank of zeros. -/
def smallestRom : ByteArray := ⟨Array.replicate 0x4000 0⟩

theorem legal_smallestRom : 0 < smallestRom.size ∧ smallestRom.size % 0x4000 = 0 := by
  simp [smallestRom, ByteArray.size]

theorem powerOnCartridge_fst (bytes : ByteArray) (battery : Option σ) :
    (powerOnCartridge bytes battery).1 = (powerOn bytes battery).1 := by
  rw [powerOnCartridge]
  cases result : (powerOn bytes battery).1 <;> simp [result]

/-- A controller that bus operations lead to after power on. -/
def Reachable (controller : Mbc6 σ) : Prop :=
  ∃ bytes battery start operations,
    (powerOn bytes battery).1 = .ok start ∧ (Bus.run operations start).state = controller

theorem reachable_initial {bytes : ByteArray} (legal : 0 < bytes.size ∧ bytes.size % 0x4000 = 0)
    {battery : Option σ} {kept : Option SaveImage} (yields : Yields battery kept) :
    Reachable (initial ⟨bytes, legal.1, legal.2⟩ (kept.getD .blank) (loaded battery)) :=
  ⟨bytes, battery, _, [], powerOn_eq_ok legal yields, rfl⟩

theorem Reachable.run {controller : Mbc6 σ} (reachable : Reachable controller)
    (operations : List Bus.Operation) : Reachable (Bus.run operations controller).state := by
  obtain ⟨bytes, battery, start, before, on, rfl⟩ := reachable
  refine ⟨bytes, battery, start, before ++ operations, on, ?_⟩
  rw [Bus.run_append]

end Mbc6
end FlashCartridge
