import FlashCartridge.Proofs.Mbc6.WithoutBattery
import FlashCartridge.Proofs.Script.Execution
import FlashCartridge.Script.Parser

/-!
# Flushes in a script

Flushes can be put into a script or taken out of it, and the script still asks for the same reads
and writes. On a cartridge without a battery it then leaves the same behind, since a flush does
nothing there, and all other operations stop it at the same place.
-/

namespace FlashCartridge
namespace Script

/-- What some lines ask for apart from flushes. -/
def requests (lines : List Line) : List Operation :=
  (lines.map (·.operation)).filter (· != .flush)

theorem requests_cons (line : Line) (rest : List Line) :
    requests (line :: rest) =
      if line.operation = .flush then requests rest else line.operation :: requests rest := by
  by_cases flush : line.operation = .flush <;> simp [requests, flush]

/-! ## Reading a script -/

/-- Whether the words of a line ask for anything but a flush. -/
def isRequest (words : List (List Char)) : Bool := words != [] && words != ["flush".toList]

/-- The lines of a script that ask for anything but a flush, each as its words. -/
def withoutFlushes (source : String) : List (List (List Char)) :=
  ((Text.lines source.toList).map lineWords).filter isRequest

theorem ne_flush_of_isRequest {words : List (List Char)} (request : isRequest words = true)
    {operation : Operation} (parsed : parseOperation words = .ok operation) :
    operation ≠ .flush := by
  rintro rfl
  unfold parseOperation at parsed
  split at parsed
  · rename_i address byte
    cases place : parseAddress address <;> cases value : parseByte byte <;>
      simp [place, value, bind, Except.bind, pure, Except.pure] at parsed
  · rename_i address
    cases place : parseAddress address <;>
      simp [place, bind, Except.bind, pure, Except.pure] at parsed
  · rename_i address byte
    cases place : parseAddress address <;> cases value : parseByte byte <;>
      simp [place, value, bind, Except.bind, pure, Except.pure] at parsed
  · contradiction
  · contradiction

/-- Apart from flushes, a script asks for what its other lines ask for. -/
theorem requests_parseLines (number : Nat) (lines : List (List Char)) :
    (parseLines number lines).toOption.map requests =
      (((lines.map lineWords).filter isRequest).mapM parseOperation).toOption := by
  induction lines generalizing number with
  | nil => rfl
  | cons line rest ih =>
      have later := ih (number + 1)
      rw [List.map_cons, parseLines]
      cases lineWords line with
      | nil => exact later
      | cons word words =>
          dsimp only
          cases request : isRequest (word :: words) with
          | true =>
              rw [List.filter_cons_of_pos request, List.mapM_cons]
              cases parsed : parseOperation (word :: words) with
              | error cause => rfl
              | ok operation =>
                  have other := ne_flush_of_isRequest request parsed
                  revert later
                  cases parseLines (number + 1) rest <;>
                    cases ((rest.map lineWords).filter isRequest).mapM parseOperation <;>
                    simp +contextual [Except.toOption, requests_cons, other, bind, Except.bind,
                      pure, Except.pure]
          | false =>
              rw [List.filter_cons_of_neg (by simp [request]), ← later]
              have flush : word :: words = [['f', 'l', 'u', 's', 'h']] := by
                simpa [isRequest] using request
              rw [flush]
              simp only [parseOperation]
              cases parseLines (number + 1) rest with
              | error error => rfl
              | ok lines => simp [Except.toOption, requests_cons]

theorem requests_parse {source source' : String}
    (same : withoutFlushes source = withoutFlushes source') :
    (parse source).toOption.map requests = (parse source').toOption.map requests := by
  rw [parse, parse, requests_parseLines, requests_parseLines]
  exact congrArg (fun words => (words.mapM parseOperation).toOption) same

/-! ## Performing it without a battery -/

variable {σ τ : Type} [SaveStore σ] [SaveStore τ]

theorem toBool_execute (number other : Nat) (operation : Operation) (controller : Mbc6 σ) :
    (execute ⟨number, operation⟩ controller).value.toBool =
      (execute ⟨other, operation⟩ controller).value.toBool := by
  cases operation with
  | write => rfl
  | read address expected =>
      simp only [execute]
      cases (Bus.load address controller).value with
      | error => rfl
      | ok actual =>
          cases expected with
          | none => rfl
          | some expected =>
              by_cases same : actual = expected <;> simp [check, same, Except.toBool]
  | flush =>
      simp only [execute]
      cases (Bus.flush controller).value <;> rfl

theorem state_run_cons (line : Line) (rest : List Line) (controller : Mbc6 σ) :
    (run (line :: rest) controller).1 =
      if (execute line controller).value.toBool then
        (run rest (Bus.perform line.operation.onBus controller).state).1
      else
        (Bus.perform line.operation.onBus controller).state := by
  rw [run, ← state_execute]
  cases (execute line controller).value <;> rfl

section Unpowered

variable {bare : Mbc6 σ} (unpowered : bare.battery = none)
include unpowered

theorem battery_perform_of_unpowered (operation : Bus.Operation) :
    (Bus.perform operation bare).state.battery = none :=
  Mbc6.battery_run_of_none unpowered [operation]

/-- Without a battery, flushes and the numbers of lines do not matter to what a script leaves. -/
theorem state_run_requests (lines : List Line) :
    (run lines bare).1 = (run ((requests lines).map (Line.mk 0)) bare).1 := by
  induction lines generalizing bare with
  | nil => rfl
  | cons line rest ih =>
      obtain ⟨number, operation⟩ := line
      rw [requests_cons]
      -- A flush is taken out and has no effect. Any other operation stops both runs or none.
      split
      · rename_i flush
        subst flush
        have idle : Bus.flush bare = ⟨bare, .ok (), []⟩ := Mbc6.flush_of_unpowered unpowered
        rw [state_run_cons, ← ih unpowered]
        simp [execute, Operation.onBus, Bus.perform, idle, Except.mapError, Except.map,
          Except.toBool]
      · rw [List.map_cons, state_run_cons, state_run_cons, toBool_execute number 0,
          ih (battery_perform_of_unpowered unpowered _)]

variable {controller : Mbc6 τ} (same : controller.view = bare.view)
include same

theorem Passes.without_battery {lines : List Line} (passes : Passes lines controller) :
    Passes lines bare := by
  induction lines generalizing controller bare with
  | nil => trivial
  | cons line rest ih =>
      obtain ⟨succeeds, later⟩ := passes
      refine ⟨?_, ih (battery_perform_of_unpowered unpowered _)
        (Mbc6.view_perform_congr same _) later⟩
      intro error fails
      cases fails with
      | mismatch found different =>
          exact succeeds _ (.mismatch ((Mbc6.load_congr same _).trans found) different)
      | flush failed =>
          have idle : Bus.flush bare = ⟨bare, .ok (), []⟩ := Mbc6.flush_of_unpowered unpowered
          rw [idle] at failed
          contradiction

/-- If only expectations fail, the same lines are performed without the battery. -/
theorem Executes.state_run_without_battery {lines passed : List Line}
    {failure : Option LineError}
    (executes : Executes controller lines passed failure) :
    (run lines bare).1 = after passed bare := by
  cases executes with
  | all passes => exact (run_of_passes (passes.without_battery unpowered same)).1
  | @mismatch passed rest line number address actual expected split passes fails =>
      subst split
      have views : (after passed controller).view = (after passed bare).view :=
        (Mbc6.view_run_congr same _).1
      cases fails with
      | mismatch found different =>
          have failsToo : Fails (after passed bare) ⟨number, .read address (some expected)⟩
              (.mismatch number address actual expected) :=
            .mismatch ((Mbc6.load_congr views address).symm.trans found) different
          rw [(run_of_fails (passes.without_battery unpowered same) failsToo rest).1, after,
            operations, List.map_append, Bus.run_append]
          exact Mbc6.state_load address _

end Unpowered

end Script
end FlashCartridge
