import FlashCartridge.Bus.Run
import FlashCartridge.Script.Operation

/-!
# Running bus scripts

The operations of a script are performed in order, until one fails: a read that finds another byte
than the expected one, or a flush that cannot save. A read without an expectation prints what it
finds.
-/

namespace FlashCartridge
namespace Script

/-- Why the operation of a line failed. -/
inductive LineError
  /-- A read found another byte than the expected one. -/
  | mismatch (number : Nat) (address : UInt16) (actual expected : UInt8)
  /-- A flush could not save. -/
  | flush (number : Nat) (cause : SaveError)
  /-- The bank controller was used against its rules. -/
  | fault (fault : Fault)
  deriving DecidableEq, Repr

/-- The texts that describe a failed line. -/
def LineError.report : LineError → Report
  | .mismatch number address actual expected =>
    let found := s!"line {number}: read {Text.byte actual} from {Text.word address}"
    .root s!"{found}, expected {Text.byte expected}"
  | .flush number cause => cause.report.within s!"line {number}: flush failed"
  | .fault broken => .root broken.message

/-- What a read without an expectation prints. -/
def readout (address : UInt16) (byte : UInt8) : String :=
  Text.hex 4 address.toNat ++ ": " ++ Text.hex 2 byte.toNat

variable {μ : Type} [BankController μ]

/-- Compare a byte that was read with the expected one. The result is what is printed, if
anything. -/
def check (number : Nat) (address : UInt16) (expected : Option UInt8) (actual : UInt8) :
    Except LineError (Option String) :=
  match expected with
  | none => .ok (some (readout address actual))
  | some expected =>
    if actual = expected then .ok none else .error (.mismatch number address actual expected)

/-- Perform the operation of a line. The result is what it prints, if anything. -/
def execute (line : Line) (controller : μ) : Reply μ (Except LineError (Option String)) :=
  match line.operation with
  | .write address byte =>
    let reply := Bus.store address byte controller
    { reply with value := reply.value.mapError .fault |>.map fun _ => none }
  | .read address expected =>
    let reply := Bus.load address controller
    { reply with
      value :=
        match reply.value with
        | .error fault => .error (.fault fault)
        | .ok actual => check line.number address expected actual }
  | .flush =>
    let reply := Bus.flush controller
    { reply with value := reply.value.mapError (.flush line.number) |>.map fun _ => none }

/-- What an operation does on the bus, whatever it expects. -/
def Operation.onBus : Operation → Bus.Operation
  | .write address byte => .store address byte
  | .read address _ => .load address
  | .flush => .flush

@[simp]
theorem state_execute (line : Line) (controller : μ) :
    (execute line controller).state = (Bus.perform line.operation.onBus controller).state := by
  obtain ⟨number, operation⟩ := line
  cases operation <;> rfl

@[simp]
theorem events_execute (line : Line) (controller : μ) :
    (execute line controller).events = (Bus.perform line.operation.onBus controller).events := by
  obtain ⟨number, operation⟩ := line
  cases operation <;> rfl

/-- A line that was performed. -/
structure Performed where
  /-- The line. -/
  line : Line
  /-- What it printed, or why it failed. -/
  value : Except LineError (Option String)
  /-- What happened meanwhile. -/
  events : List Event

/-- Perform lines until one fails. The failing line is the last one in the result. -/
def run : List Line → μ → μ × List Performed
  | [], controller => (controller, [])
  | line :: rest, controller =>
    let reply := execute line controller
    let performed : Performed := ⟨line, reply.value, reply.events⟩
    match reply.value with
    | .error _ => (reply.state, [performed])
    | .ok _ =>
      let (final, others) := run rest reply.state
      (final, performed :: others)

/-- The error that stopped a run, if one did. -/
def failure? (performed : List Performed) : Option LineError :=
  performed.findSome? fun line =>
    match line.value with
    | .error error => some error
    | .ok _ => none

end Script
end FlashCartridge
