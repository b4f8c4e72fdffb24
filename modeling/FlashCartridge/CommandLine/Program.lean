import FlashCartridge.CommandLine.Options
import FlashCartridge.Mbc6.Basic
import FlashCartridge.Script.Execution
import FlashCartridge.Script.Parser
import FlashCartridge.Storage.SaveFile

/-!
# The command line program

The program replays a bus script against a cartridge. It reads the ROM, powers on the cartridge
with its save file, reads and checks the script, performs its lines, and saves; it stops at the
first of these stages that fails. Whenever the cartridge was powered on, it is powered off in the
end, which saves what has changed.
-/

namespace FlashCartridge
namespace CommandLine

open Storage

/-- Why a text could not be read. -/
inductive TextError
  /-- The file with the text could not be read. -/
  | system (reason : SystemError)
  /-- The bytes are no text in UTF-8. -/
  | encoding
  deriving DecidableEq, Repr

/-- The wording of a text error. -/
def TextError.message : TextError → String
  | .system reason => reason.message
  | .encoding => "stream did not contain valid UTF-8"

/-- Why the program stops early. -/
inductive Stop
  /-- The ROM could not be read. -/
  | rom (reason : SystemError)
  /-- The cartridge could not be powered on. -/
  | powerOn (error : PowerOnError)
  /-- The script at a path, or that of the standard input, could not be read. -/
  | script (path : Option String) (reason : TextError)
  /-- The script was refused. -/
  | parse (error : Script.ParseError)
  /-- A line of the script failed. -/
  | line (error : Script.LineError)
  /-- The last save failed. -/
  | flush (error : SaveError)
  deriving DecidableEq, Repr

namespace Stop

/-- The texts that describe an early stop, unless it is due to a fault. -/
def report? : Stop → Option Report
  | .rom reason => some ((Report.root reason.message).within "failed to load ROM file")
  | .powerOn (.fault _) => none
  | .powerOn (.save error) => some error.report
  | .script (some path) reason =>
    some ((Report.root reason.message).within s!"failed to read script '{path}'")
  | .script none reason =>
    some ((Report.root reason.message).within "failed to read script from stdin")
  | .parse error => some error.report
  | .line (.fault _) => none
  | .line error => some error.report
  | .flush error => some error.report

/-- The exit status of a program that stops early. -/
def status (stop : Stop) : Nat := if stop.report?.isSome then 1 else 101

/-- What is printed about an early stop. -/
def output (stop : Stop) : List String :=
  match stop.report? with
  | none => []
  | some report =>
    s!"ERROR: {report.message}" :: report.causes.map fun cause => s!"  ... caused by: {cause}"

end Stop

/-- The text in UTF-8 that some bytes are. -/
def decodeText (bytes : ByteArray) : Except TextError String :=
  match String.fromUTF8? bytes with
  | some text => .ok text
  | none => .error .encoding

/-- The source of the script, from a file or from the standard input. -/
def readScript (path : Option String) (files : FileSystem) (input : ByteArray) :
    Except Stop String :=
  let text : Except TextError String :=
    match path with
    | none => decodeText input
    | some path => (files.read path).mapError .system |>.bind decodeText
  text.mapError (.script path)

/-- What a program has done when it ends. -/
structure Outcome where
  /-- The exit status. -/
  status : Nat
  /-- What was printed. -/
  output : List String
  /-- The log messages that the threshold admits. -/
  log : List Log.Entry
  /-- The files afterwards. -/
  files : FileSystem

/-- What happened while a cartridge was powered on. -/
structure Replay (σ : Type) where
  /-- The cartridge before it is powered off. -/
  cartridge : Mbc6 σ
  /-- What was printed. -/
  output : List String
  /-- The log messages. -/
  log : List Log.Entry
  /-- Why the program stops early, if it does. -/
  stop : Option Stop

/-- What the performed lines of a script printed. -/
def printed (performed : List Script.Performed) : List String :=
  performed.filterMap fun line =>
    match line.value with
    | .ok text => text
    | .error _ => none

section Replay

variable {σ : Type} [SaveStore σ]

/-- Perform the lines of a script, and then save. -/
def replayLines (lines : List Script.Line) (cartridge : Mbc6 σ) : Replay σ :=
  let started : Log.Entry := ⟨.info, s!"[cli] running {lines.length} bus operations"⟩
  let (cartridge, performed) := Script.run lines cartridge
  let output := printed performed
  let log := started :: performed.flatMap fun line => Event.messages line.events
  match Script.failure? performed with
  | some error => { cartridge, output, log, stop := some (.line error) }
  | none =>
    let reply := cartridge.flush
    let log := log ++ Event.messages reply.events
    match reply.value with
    | .error error => { cartridge := reply.state, output, log, stop := some (.flush error) }
    | .ok () => { cartridge := reply.state, output, log, stop := none }

/-- Read, check and perform a script on a cartridge that was powered on. -/
def replay (script : Option String) (files : FileSystem) (input : ByteArray)
    (cartridge : Mbc6 σ) : Replay σ :=
  match readScript script files input with
  | .error stop => { cartridge, output := [], log := [], stop := some stop }
  | .ok source =>
    match Script.parse source with
    | .error error => { cartridge, output := [], log := [], stop := some (.parse error) }
    | .ok lines => replayLines lines cartridge

end Replay

/-- The end of a program that stops early, or not at all. -/
def finish (stop : Option Stop) (output : List String) (log : List Log.Entry)
    (files : FileSystem) : Outcome :=
  match stop with
  | none => { status := 0, output, log, files }
  | some stop => { status := stop.status, output := output ++ stop.output, log, files }

/-- The save file that the options name, in its file system. -/
def Options.battery (options : Options) (files : FileSystem) : Option FileStore :=
  options.save.map fun path => ⟨⟨path⟩, files⟩

/-- The message about the save file that the options name. -/
def Options.announcement (options : Options) : List Log.Entry :=
  options.save.toList.map fun path => ⟨.info, s!"[cli] using save file '{path}'"⟩

/-- Everything that the program does with given options, with all messages. -/
def runAll (options : Options) (files : FileSystem) (input : ByteArray) : Outcome :=
  match files.read options.rom with
  | .error reason => finish (some (.rom reason)) [] [] files
  | .ok rom =>
    let (result, events) := powerOnCartridge rom (options.battery files)
    let log := options.announcement ++ Event.messages events
    match result with
    | .error error => finish (some (.powerOn error)) [] log files
    | .ok cartridge =>
      let replayed := replay options.script files input cartridge
      let off := replayed.cartridge.powerOff
      let after :=
        match off.state with
        | some store => store.files
        | none => files
      finish replayed.stop replayed.output (log ++ replayed.log ++ Event.messages off.events) after

/-- What the program does with given options. Unless they say otherwise, warnings and errors are
logged. -/
def run (options : Options) (files : FileSystem) (input : ByteArray) : Outcome :=
  let outcome := runAll options files input
  let threshold := options.threshold.getD (.upTo .warn)
  { outcome with log := threshold.select outcome.log }

/-- The exit status for a command line that does not lead to options. Help and version are no
errors. -/
def Refusal.status : Refusal → Nat
  | .help | .version => 0
  | _ => 1

/-- What the program does with a command line. -/
def runArguments (arguments : List String) (files : FileSystem) (input : ByteArray) : Outcome :=
  match Options.parse arguments with
  | .error refusal => { status := refusal.status, output := [], log := [], files }
  | .ok options => run options files input

end CommandLine
end FlashCartridge
