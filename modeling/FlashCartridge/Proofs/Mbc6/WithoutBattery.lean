import FlashCartridge.Proofs.Mbc6.Durability
import FlashCartridge.Proofs.Mbc6.View

/-!
# A cartridge without a battery

Without a battery a flush does nothing, and once something has changed the controller stays dirty.
So it remembers at the end of a run whether a controller with a battery, the same to all
appearances, was dirty at any time of the same run.
-/

namespace FlashCartridge
namespace Mbc6

variable {σ τ : Type} [SaveStore σ] [SaveStore τ]

/-- There was something to save at some time of a run. -/
def EverDirty (operations : List Bus.Operation) (controller : Mbc6 σ) : Prop :=
  ∃ front, front <+: operations ∧ (Bus.run front controller).state.dirty = true

theorem everDirty_append_singleton {front : List Bus.Operation} {operation : Bus.Operation}
    {controller : Mbc6 σ} :
    EverDirty (front ++ [operation]) controller ↔
      EverDirty front controller ∨
        (Bus.run (front ++ [operation]) controller).state.dirty = true := by
  simp only [EverDirty, List.prefix_concat_iff, or_and_right, exists_or, exists_eq_left]
  exact or_comm

section Unpowered

variable {bare : Mbc6 σ} (unpowered : bare.battery = none)
include unpowered

theorem flush_of_unpowered : bare.flush = ⟨bare, .ok (), []⟩ :=
  flush_of_not_due (due?_eq_none_iff.mpr (.inr unpowered))

theorem dirty_perform_of_unpowered (operation : Bus.Operation) :
    (Bus.perform operation bare).state.dirty = true ↔
      bare.Changes operation ∨ bare.dirty = true := by
  have idle : bare.due? = none := due?_eq_none_iff.mpr (.inr unpowered)
  have unsaved : Event.NothingSaved (Bus.perform operation bare).events := by
    intro image
    rw [← Event.mem_attempts_iff, (settle_perform operation bare).1, dueAttempts, idle]
    split <;> exact List.not_mem_nil
  rw [dirty_perform, and_iff_left unsaved]

theorem memory_run_of_unpowered {operations : List Bus.Operation}
    (clean : (Bus.run operations bare).state.dirty = false) :
    (Bus.run operations bare).state.memory = bare.memory := by
  let invariant (reached : Mbc6 σ) : Prop :=
    reached.battery = none ∧ HoldsWhenClean bare.memory reached
  suffices kept : invariant (Bus.run operations bare).state from kept.2 clean
  refine @Steps.preserve σ _ _ _ _ invariant ?_ (steps_run operations bare)
    ⟨unpowered, fun _ => rfl⟩
  intro before after events step ⟨absent, holds⟩
  cases step with
  | saved _ _ battery | saveFailed _ _ _ battery =>
      rw [absent] at battery
      contradiction
  | ram => exact ⟨absent, fun clean => nomatch clean⟩
  | flash address byte => exact ⟨absent, holds.storeFlash address byte⟩
  | _ => exact ⟨absent, holds⟩

/-- Without a battery, the end tells whether there was ever anything to save. -/
theorem everDirty_iff {controller : Mbc6 τ} (same : controller.view = bare.view)
    (clean : controller.dirty = false) (bareClean : bare.dirty = false)
    (operations : List Bus.Operation) :
    EverDirty operations controller ↔ (Bus.run operations bare).state.dirty = true := by
  -- From the end of the run, since what is ever dirty in a shorter run is so in a longer one.
  induction operations using List.reverseRecOn with
  | nil => simp [EverDirty, clean, bareClean]
  | append_singleton front operation ih =>
      have bareAfter := battery_run_of_none unpowered front
      have views := (view_run_congr same front).1
      rw [everDirty_append_singleton, ih, Bus.run_append, Bus.run_append]
      simp only [Bus.run]
      rw [dirty_perform_of_unpowered bareAfter, dirty_perform, changes_congr views]
      constructor
      · rintro (before | changes | ⟨before, -⟩)
        · exact .inr before
        · exact .inl changes
        · exact .inr (ih.mp ⟨front, List.prefix_refl _, before⟩)
      · rintro (changes | before)
        · exact .inr (.inl changes)
        · exact .inl before

end Unpowered

end Mbc6
end FlashCartridge
