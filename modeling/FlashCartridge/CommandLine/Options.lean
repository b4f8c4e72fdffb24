import FlashCartridge.Log

/-!
# Command line options

A command line names one ROM and may set a save file, a script and a log threshold. A setting takes
its value from the same argument (`-sVALUE`, `-s=VALUE`, `--save=VALUE`) or from the next one. An
argument that starts with a hyphen is never the value of the setting before it, and behind `--`
every argument is positional.
-/

namespace FlashCartridge
namespace CommandLine

/-- What a command line asks for. -/
structure Options where
  /-- The path of the ROM. -/
  rom : String
  /-- The path of the save file. -/
  save : Option String
  /-- The path of the script. -/
  script : Option String
  /-- The messages to show. -/
  threshold : Option Log.Threshold
  deriving DecidableEq, Repr

/-- Why a command line does not lead to options. -/
inductive Refusal
  /-- The help text is wanted. -/
  | help
  /-- The version is wanted. -/
  | version
  /-- An argument has no meaning. -/
  | unknownArgument
  /-- There is no ROM. -/
  | missingRom
  /-- A setting has no value. -/
  | missingValue
  /-- The value of a setting is not one. -/
  | invalidValue
  /-- A setting is given more than once. -/
  | repeatedSetting
  deriving DecidableEq, Repr

/-- Something with a value that a command line can set. -/
inductive Setting
  | save
  | script
  | logLevel
  deriving DecidableEq, Repr

namespace Setting

/-- The setting with a given long name. -/
def ofName? (name : List Char) : Option Setting :=
  if name = "save".toList then some .save
  else if name = "script".toList then some .script
  else if name = "log-level".toList then some .logLevel
  else none

/-- The setting with a given letter. -/
def ofLetter? : Char → Option Setting
  | 's' => some .save
  | 'l' => some .logLevel
  | _ => none

end Setting

/-- How often a setting was given, and with which values. -/
structure Usage where
  /-- How often the setting was given. -/
  count : Nat := 0
  /-- The values, in order. -/
  values : List String := []

/-- What has been read of a command line so far. -/
structure Progress where
  /-- The positional argument. -/
  rom : Option String := none
  /-- The use of the save file setting. -/
  save : Usage := {}
  /-- The use of the script setting. -/
  script : Usage := {}
  /-- The use of the log level setting. -/
  logLevel : Usage := {}
  /-- The setting that waits for its value. -/
  waiting : Option Setting := none
  /-- Whether every further argument is positional. -/
  positionalOnly : Bool := false

namespace Progress

/-- The use of a setting. -/
def usage (progress : Progress) : Setting → Usage
  | .save => progress.save
  | .script => progress.script
  | .logLevel => progress.logLevel

/-- Change the use of a setting. -/
def modifyUsage (progress : Progress) (change : Usage → Usage) : Setting → Progress
  | .save => { progress with save := change progress.save }
  | .script => { progress with script := change progress.script }
  | .logLevel => { progress with logLevel := change progress.logLevel }

/-- Read a setting, whose value may be in the same argument behind any number of equals signs. -/
def give (progress : Progress) (setting : Setting) (value : Option (List Char)) : Progress :=
  match value with
  | none =>
    { progress.modifyUsage (fun use => { use with count := use.count + 1 }) setting with
      waiting := some setting }
  | some text =>
    let value := String.ofList (text.dropWhile (· == '='))
    { progress.modifyUsage (fun use => ⟨use.count + 1, use.values ++ [value]⟩) setting with
      waiting := none }

/-- Read the value of the setting that waits for it. -/
def giveValue (progress : Progress) (setting : Setting) (value : String) : Progress :=
  { progress.modifyUsage (fun use => { use with values := use.values ++ [value] }) setting with
    waiting := none }

/-- Read a positional argument, of which there can be one. -/
def givePositional (progress : Progress) (argument : String) : Except Refusal Progress :=
  match progress.rom with
  | none => .ok { progress with rom := some argument }
  | some _ => .error .unknownArgument

/-- Read an argument behind two hyphens. -/
def readLong (progress : Progress) (text : List Char) : Except Refusal Progress :=
  let text := text.dropWhile (· == '-')
  let name := text.takeWhile (· != '=')
  let value := (text.dropWhile (· != '=')).tail?
  match Setting.ofName? name with
  | some setting => .ok (progress.give setting value)
  | none =>
    if name = "help".toList then .error .help
    else if name = "version".toList then .error .version
    else .error .unknownArgument

/-- Read an argument behind one hyphen. -/
def readShort (progress : Progress) (letter : Char) (rest : List Char) : Except Refusal Progress :=
  match Setting.ofLetter? letter with
  | some setting => .ok (progress.give setting (if rest = [] then none else some rest))
  | none =>
    if letter = 'h' then .error .help
    else if letter = 'V' then .error .version
    else .error .unknownArgument

/-- Read the next argument. -/
def readArgument (progress : Progress) (argument : String) : Except Refusal Progress :=
  if progress.positionalOnly then
    progress.givePositional argument
  else
    match argument.toList with
    | ['-', '-'] => .ok { progress with positionalOnly := true }
    | '-' :: '-' :: text => progress.readLong text
    | '-' :: letter :: rest => progress.readShort letter rest
    | _ =>
      match progress.waiting with
      | some setting => .ok (progress.giveValue setting argument)
      | none => progress.givePositional argument

/-- The value of a setting that was given at most once. -/
def single (use : Usage) : Except Refusal (Option String) :=
  if use.count = 0 then .ok none
  else if use.values = [] then .error .missingValue
  else if 1 < use.count then .error .repeatedSetting
  else .ok use.values.head?

/-- The log threshold. A value that names none is noticed before a setting that is repeated. -/
def singleThreshold (use : Usage) : Except Refusal (Option Log.Threshold) :=
  if use.values.any fun value => (Log.Threshold.ofName? value).isNone then
    .error .invalidValue
  else
    (single use).map (·.bind Log.Threshold.ofName?)

/-- The options after the last argument. The ROM has to be there before anything else is looked
at. -/
def finish (progress : Progress) : Except Refusal Options := do
  match progress.rom with
  | none => .error .missingRom
  | some rom =>
    if (progress.waiting.map fun setting => (progress.usage setting).values) = some [] then
      .error .missingValue
    else
      let save ← single progress.save
      let script ← single progress.script
      let threshold ← singleThreshold progress.logLevel
      return { rom, save, script, threshold }

end Progress

/-- The options that a list of arguments asks for. -/
def Options.parse (arguments : List String) : Except Refusal Options :=
  (arguments.foldlM Progress.readArgument {}).bind Progress.finish

end CommandLine
end FlashCartridge
