/-!
# Log messages

Every message has a level. A threshold admits the messages of one level and of all more severe
levels.
-/

namespace FlashCartridge
namespace Log

/-- How severe a message is. -/
inductive Level
  | error
  | warn
  | info
  | debug
  | trace
  deriving DecidableEq, Repr

namespace Level

/-- The shown name of a level. -/
def name : Level → String
  | .error => "ERROR"
  | .warn => "WARN"
  | .info => "INFO"
  | .debug => "DEBUG"
  | .trace => "TRACE"

/-- The position of a level; the most severe one comes first. -/
def rank : Level → Nat
  | .error => 1
  | .warn => 2
  | .info => 3
  | .debug => 4
  | .trace => 5

end Level

/-- The least severe level that is shown, or `off` to show no message at all. -/
inductive Threshold
  | off
  | upTo (level : Level)
  deriving DecidableEq, Repr

namespace Threshold

/-- The shown name of a threshold. -/
def name : Threshold → String
  | .off => "OFF"
  | .upTo level => level.name

/-- Whether messages of a level are shown. -/
def admits : Threshold → Level → Bool
  | .off, _ => false
  | .upTo least, level => level.rank ≤ least.rank

/-- The threshold with a given name in lower case. -/
def ofName? : String → Option Threshold
  | "off" => some .off
  | "error" => some (.upTo .error)
  | "warn" => some (.upTo .warn)
  | "info" => some (.upTo .info)
  | "debug" => some (.upTo .debug)
  | "trace" => some (.upTo .trace)
  | _ => none

end Threshold

/-- One message. -/
structure Entry where
  /-- How severe the message is. -/
  level : Level
  /-- The wording of the message. -/
  text : String
  deriving DecidableEq, Repr

/-- The messages that a threshold admits. -/
def Threshold.select (threshold : Threshold) (entries : List Entry) : List Entry :=
  entries.filter (threshold.admits ·.level)

end Log
end FlashCartridge
