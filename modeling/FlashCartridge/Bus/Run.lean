import FlashCartridge.Bus

/-!
# Runs of bus operations

A console uses a cartridge by one load, store or flush after the other. A run performs a list of
them and keeps the response to each one; running two lists in turn is the same as running both as
one.
-/

namespace FlashCartridge
namespace Bus

/-- One operation on the bus. -/
inductive Operation
  /-- Read a byte. -/
  | load (address : UInt16)
  /-- Write a byte. -/
  | store (address : UInt16) (byte : UInt8)
  /-- Save everything that has changed. -/
  | flush
  deriving DecidableEq, Repr

/-- The response to one operation. -/
inductive Response
  /-- The byte that was read. -/
  | loaded (result : Except Fault UInt8)
  /-- A byte was written. -/
  | stored (result : Except Fault Unit)
  /-- Everything was saved, or the save failed. -/
  | flushed (result : Except SaveError Unit)

variable {μ : Type} [BankController μ]

/-- Perform one operation. -/
def perform (operation : Operation) (controller : μ) : Reply μ Response :=
  match operation with
  | .load address =>
    let reply := load address controller
    ⟨reply.state, .loaded reply.value, reply.events⟩
  | .store address byte =>
    let reply := store address byte controller
    ⟨reply.state, .stored reply.value, reply.events⟩
  | .flush =>
    let reply := flush controller
    ⟨reply.state, .flushed reply.value, reply.events⟩

/-- Perform operations one after the other. -/
def run : List Operation → μ → Reply μ (List Response)
  | [], controller => ⟨controller, [], []⟩
  | operation :: rest, controller =>
    let first := perform operation controller
    let others := run rest first.state
    ⟨others.state, first.value :: others.value, first.events ++ others.events⟩

@[simp]
theorem run_nil (controller : μ) : run [] controller = ⟨controller, [], []⟩ := rfl

theorem run_append (front back : List Operation) (controller : μ) :
    run (front ++ back) controller =
      let first := run front controller
      let second := run back first.state
      ⟨second.state, first.value ++ second.value, first.events ++ second.events⟩ := by
  induction front generalizing controller with
  | nil => rfl
  | cons operation front ih => simp [run, ih]

@[simp]
theorem length_value_run (operations : List Operation) (controller : μ) :
    (run operations controller).value.length = operations.length := by
  induction operations generalizing controller with
  | nil => rfl
  | cons operation rest ih => simp [run, ih]

end Bus
end FlashCartridge
