import FlashCartridge.Bus.Run

/-!
# The moments of a run

A moment is an operation together with the controller that it meets. Two kinds of laws about the end
of a run follow from what happens at its moments: a flag is set if some moment has set it and no
later one has cleared it, and a register holds what was stored into it last.
-/

namespace FlashCartridge
namespace Bus

/-- An operation, and the controller that it meets. -/
structure Moment (μ : Type) where
  /-- The controller before the operation. -/
  before : μ
  /-- The operation. -/
  operation : Operation

/-- Something has begun at one of the moments, and it has not ended since. -/
def Since {μ : Type} (begins ends : Moment μ → Prop) (moments : List (Moment μ)) : Prop :=
  ∃ front moment back, moments = front ++ moment :: back ∧ begins moment ∧
    ∀ later ∈ back, ¬ ends later

theorem since_cons_iff {μ : Type} {begins ends : Moment μ → Prop} {moment : Moment μ}
    {rest : List (Moment μ)} :
    Since begins ends (moment :: rest) ↔
      Since begins ends rest ∨ begins moment ∧ ∀ later ∈ rest, ¬ ends later := by
  constructor
  · rintro ⟨front, first, back, split, begun, lasting⟩
    cases front with
    | nil =>
        obtain ⟨rfl, rfl⟩ := List.cons.inj split
        exact .inr ⟨begun, lasting⟩
    | cons earlier front =>
        obtain ⟨rfl, rfl⟩ := List.cons.inj split
        exact .inl ⟨front, first, back, rfl, begun, lasting⟩
  · rintro (⟨front, first, back, rfl, begun, lasting⟩ | ⟨begun, lasting⟩)
    · exact ⟨moment :: front, first, back, rfl, begun, lasting⟩
    · exact ⟨[], moment, rest, rfl, begun, lasting⟩

variable {μ : Type} [BankController μ]

/-- The controller after a moment. -/
def Moment.after (moment : Moment μ) : μ := (perform moment.operation moment.before).state

/-- The moments of a run, in order. -/
def moments : List Operation → μ → List (Moment μ)
  | [], _ => []
  | operation :: rest, controller =>
    ⟨controller, operation⟩ :: moments rest (perform operation controller).state

/-- A flag that moments set and clear is set at the end of a run if some moment has set it, or it
was set before, and it was not cleared since. -/
theorem flag_run_iff (flag : μ → Prop) {begins ends : Moment μ → Prop}
    (step : ∀ moment, flag moment.after ↔ begins moment ∨ flag moment.before ∧ ¬ ends moment)
    (operations : List Operation) (controller : μ) :
    flag (run operations controller).state ↔
      Since begins ends (moments operations controller) ∨
        flag controller ∧ ∀ moment ∈ moments operations controller, ¬ ends moment := by
  induction operations generalizing controller with
  | nil => simp [moments, Since]
  | cons operation rest ih =>
      let first : Moment μ := ⟨controller, operation⟩
      have later := ih first.after
      rw [step first, or_and_right, ← or_assoc, ← since_cons_iff, and_assoc] at later
      rw [moments, List.forall_mem_cons]
      exact later

/-- A register into which moments store holds what the last of them has stored, or what it held
before. -/
theorem register_run {α : Type} (register : μ → α) {stored? : Moment μ → Option α}
    (step : ∀ moment, register moment.after = (stored? moment).getD (register moment.before))
    (operations : List Operation) (controller : μ) :
    register (run operations controller).state =
      ((moments operations controller).filterMap stored?).getLast?.getD (register controller) := by
  induction operations generalizing controller with
  | nil => rfl
  | cons operation rest ih =>
      let first : Moment μ := ⟨controller, operation⟩
      have later := ih first.after
      rw [step first] at later
      rw [moments, List.filterMap_cons]
      cases stored : stored? first with
      | none =>
          rw [stored] at later
          exact later
      | some value =>
          rw [stored, Option.getD_some] at later
          rw [List.getLast?_cons, Option.getD_some]
          exact later

end Bus
end FlashCartridge
