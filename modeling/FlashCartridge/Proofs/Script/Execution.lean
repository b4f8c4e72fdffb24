import FlashCartridge.Proofs.Checked.Bus
import FlashCartridge.Script.Execution

/-!
# Which lines of a script are performed

The lines of a script are performed in order. Either no line fails and all of them are performed, or
the run stops at the first one that fails, whose operation is its last one on the bus.
-/

namespace FlashCartridge
namespace Script

variable {σ : Type} [SaveStore σ]

/-- The bus operations that lines ask for. -/
def operations (lines : List Line) : List Bus.Operation := lines.map (·.operation.onBus)

/-- The controller after all lines, whatever they expect. -/
def after (lines : List Line) (controller : Mbc6 σ) : Mbc6 σ :=
  (Bus.run (operations lines) controller).state

/-- A line fails on a controller: a read finds another byte than the expected one, or a flush cannot
save. -/
inductive Fails (controller : Mbc6 σ) : Line → LineError → Prop
  | mismatch {number : Nat} {address : UInt16} {actual expected : UInt8}
      (found : (Bus.load address controller).value = .ok actual) (different : actual ≠ expected) :
      Fails controller ⟨number, .read address (some expected)⟩
        (.mismatch number address actual expected)
  | flush {number : Nat} {cause : SaveError}
      (failed : (Bus.flush controller).value = .error cause) :
      Fails controller ⟨number, .flush⟩ (.flush number cause)

/-- No line fails when all are performed in order. -/
def Passes : List Line → Mbc6 σ → Prop
  | [], _ => True
  | line :: rest, controller =>
    (∀ error, ¬ Fails controller line error) ∧
      Passes rest (Bus.perform line.operation.onBus controller).state

/-- The lines of a script that are performed with success if only its expectations can fail: all of
them, or those before the first one that fails, with its error. -/
inductive Executes (start : Mbc6 σ) (lines : List Line) : List Line → Option LineError → Prop
  | all (passes : Passes lines start) : Executes start lines lines none
  | mismatch {passed rest : List Line} {line : Line} {number : Nat} {address : UInt16}
      {actual expected : UInt8} (split : lines = passed ++ line :: rest)
      (passes : Passes passed start)
      (fails : Fails (after passed start) line (.mismatch number address actual expected)) :
      Executes start lines passed (some (.mismatch number address actual expected))

/-! ## One line -/

theorem faultless_perform (operation : Bus.Operation) (controller : Mbc6 σ) :
    (Bus.perform operation controller).value.Faultless :=
  Checked.Controller.faultless_perform
    (Checked.Controller.perform_ofController controller operation)

theorem value_execute_write (number : Nat) (address : UInt16) (byte : UInt8)
    (controller : Mbc6 σ) :
    (execute ⟨number, .write address byte⟩ controller).value = .ok none := by
  have stored : (Bus.store address byte controller).value = .ok () :=
    faultless_perform (.store address byte) controller
  simp only [execute, stored]
  rfl

theorem value_execute_flush (number : Nat) (controller : Mbc6 σ) :
    (execute ⟨number, .flush⟩ controller).value =
      ((Bus.flush controller).value.mapError (.flush number)).map fun _ => none :=
  rfl

theorem execute_eq_error_iff {line : Line} {controller : Mbc6 σ} {error : LineError} :
    (execute line controller).value = .error error ↔ Fails controller line error := by
  obtain ⟨number, operation⟩ := line
  constructor
  · intro failed
    cases operation with
    | write address byte =>
        rw [value_execute_write] at failed
        contradiction
    | read address expected =>
        obtain ⟨actual, loaded⟩ :
            ∃ actual, (Bus.load address controller).value = .ok actual :=
          faultless_perform (.load address) controller
        cases expected with
        | none => simp [execute, loaded, check] at failed
        | some expected =>
            by_cases same : actual = expected
            · simp [execute, loaded, check, same] at failed
            · simp only [execute, loaded, check, same, if_false, Except.error.injEq] at failed
              rw [← failed]
              exact .mismatch loaded same
    | flush =>
        rw [value_execute_flush] at failed
        cases flushed : (Bus.flush controller).value with
        | ok =>
            rw [flushed] at failed
            contradiction
        | error cause =>
            rw [flushed] at failed
            obtain rfl := Except.error.inj failed
            exact .flush flushed
  · intro fails
    cases fails with
    | mismatch found different => simp [execute, found, check, different]
    | flush failed =>
        rw [value_execute_flush, failed]
        rfl

/-! ## All lines -/

theorem passes_or_fails (lines : List Line) (controller : Mbc6 σ) :
    Passes lines controller ∨ ∃ passed line rest error, lines = passed ++ line :: rest ∧
      Passes passed controller ∧ Fails (after passed controller) line error := by
  induction lines generalizing controller with
  | nil => exact .inl trivial
  | cons line rest ih =>
      cases executed : (execute line controller).value with
      | error error =>
          exact .inr ⟨[], line, rest, error, rfl, trivial, execute_eq_error_iff.mp executed⟩
      | ok text =>
          have succeeds : ∀ error, ¬ Fails controller line error := by
            intro error fails
            rw [execute_eq_error_iff.mpr fails] at executed
            contradiction
          rcases ih (Bus.perform line.operation.onBus controller).state with
            passes | ⟨passed, failing, others, error, rfl, passes, fails⟩
          · exact .inl ⟨succeeds, passes⟩
          · exact .inr ⟨line :: passed, failing, others, error, rfl, ⟨succeeds, passes⟩, fails⟩

theorem run_cons_of_succeeds {line : Line} {controller : Mbc6 σ}
    (succeeds : ∀ error, ¬ Fails controller line error) (rest : List Line) :
    ∃ text, run (line :: rest) controller =
      let others := run rest (Bus.perform line.operation.onBus controller).state
      (others.1, ⟨line, .ok text, (execute line controller).events⟩ :: others.2) := by
  cases executed : (execute line controller).value with
  | error error => exact absurd (execute_eq_error_iff.mp executed) (succeeds error)
  | ok text =>
      refine ⟨text, ?_⟩
      rw [run, ← state_execute]
      simp only [executed]

theorem run_of_passes {lines : List Line} {controller : Mbc6 σ}
    (passes : Passes lines controller) :
    (run lines controller).1 = after lines controller ∧
      (run lines controller).2.map (·.line) = lines ∧
      failure? (run lines controller).2 = none := by
  induction lines generalizing controller with
  | nil => exact ⟨rfl, rfl, rfl⟩
  | cons line rest ih =>
      obtain ⟨succeeds, later⟩ := passes
      obtain ⟨text, ran⟩ := run_cons_of_succeeds succeeds rest
      obtain ⟨state, performed, unfailed⟩ := ih later
      rw [ran]
      refine ⟨state, ?_, ?_⟩
      · simpa using performed
      · simpa [failure?] using unfailed

/-- Behind the first failing line, nothing is performed. -/
theorem run_of_fails {passed : List Line} {line : Line} {controller : Mbc6 σ} {error : LineError}
    (passes : Passes passed controller) (fails : Fails (after passed controller) line error)
    (rest : List Line) :
    (run (passed ++ line :: rest) controller).1 = after (passed ++ [line]) controller ∧
      (run (passed ++ line :: rest) controller).2.map (·.line) = passed ++ [line] ∧
      failure? (run (passed ++ line :: rest) controller).2 = some error := by
  induction passed generalizing controller with
  | nil =>
      have failed : (execute line controller).value = .error error :=
        execute_eq_error_iff.mpr fails
      rw [List.nil_append, run]
      simp only [failed]
      exact ⟨state_execute line controller, rfl, rfl⟩
  | cons first passed ih =>
      obtain ⟨succeeds, later⟩ := passes
      obtain ⟨text, ran⟩ := run_cons_of_succeeds succeeds (passed ++ line :: rest)
      obtain ⟨state, performed, failed⟩ := ih later fails
      rw [List.cons_append, ran]
      refine ⟨state, ?_, ?_⟩
      · simpa using performed
      · simpa [failure?] using failed

/-- A script is performed in only one way. -/
theorem Executes.unique {start : Mbc6 σ} {lines passed passed' : List Line}
    {failure failure' : Option LineError} (executes : Executes start lines passed failure)
    (executes' : Executes start lines passed' failure') :
    passed = passed' ∧ failure = failure' := by
  cases executes with
  | all passes =>
      obtain ⟨-, -, unfailed⟩ := run_of_passes passes
      cases executes' with
      | all => exact ⟨rfl, rfl⟩
      | mismatch split passes' fails' =>
          rw [split, (run_of_fails passes' fails' _).2.2] at unfailed
          contradiction
  | mismatch split passes fails =>
      obtain ⟨-, performed, failed⟩ := run_of_fails passes fails _
      rw [← split] at performed failed
      cases executes' with
      | all passes' =>
          rw [(run_of_passes passes').2.2] at failed
          contradiction
      | mismatch split' passes' fails' =>
          obtain ⟨-, performed', failed'⟩ := run_of_fails passes' fails' _
          rw [← split'] at performed' failed'
          exact ⟨List.append_inj_left' (performed.symm.trans performed') rfl,
            failed.symm.trans failed'⟩

end Script
end FlashCartridge
