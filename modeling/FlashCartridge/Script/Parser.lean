import FlashCartridge.Report
import FlashCartridge.Script.Operation
import FlashCartridge.Text.Lines
import FlashCartridge.Text.Numeral

/-!
# Reading bus scripts

A line asks for at most one operation: `w ADDR VALUE` writes, `r ADDR` reads, `r ADDR VALUE` reads
and compares, and `flush` saves. Numbers are hexadecimal, `#` starts a comment, and a line without
words asks for nothing. Reading stops at the first line that asks for anything else.
-/

namespace FlashCartridge
namespace Script

/-- Why the words of a line do not ask for an operation. -/
inductive OperationError
  /-- The words fit no operation. -/
  | unknown (words : List (List Char))
  /-- The word for an address is no numeral in range. -/
  | address (word : List Char) (cause : Text.NumeralError)
  /-- The word for a byte is no numeral in range. -/
  | byte (word : List Char) (cause : Text.NumeralError)
  deriving DecidableEq, Repr

/-- The wording for a word that is no numeral, with an example of one. -/
def numeralMessage (kind : String) (word : List Char) (cause : Text.NumeralError)
    (model : String) : String :=
  let failure := s!"failed to parse {kind} '{String.ofList word}': {cause.message}"
  s!"{failure} (values like '{model}' are valid -- no leading `0x`!)"

/-- The wording of an operation error. -/
def OperationError.message : OperationError → String
  | .unknown words =>
    let found := " ".intercalate (words.map String.ofList)
    s!"expected 'w ADDR VALUE', 'r ADDR [VALUE]' or 'flush', found '{found}'"
  | .address word cause => numeralMessage "address" word cause "4000"
  | .byte word cause => numeralMessage "byte" word cause "ff"

/-- A script is refused at its first line that asks for no operation. -/
structure ParseError where
  /-- The number of the line. -/
  number : Nat
  /-- What is wrong with it. -/
  cause : OperationError
  deriving DecidableEq, Repr

/-- The texts that describe a refused script. -/
def ParseError.report (error : ParseError) : Report :=
  (Report.root error.cause.message).within s!"invalid script line {error.number}"

/-- The address that a word stands for. -/
def parseAddress (word : List Char) : Except OperationError UInt16 :=
  match Text.readNumeral 0xFFFF word with
  | .ok value => .ok (UInt16.ofNat value)
  | .error cause => .error (.address word cause)

/-- The byte that a word stands for. -/
def parseByte (word : List Char) : Except OperationError UInt8 :=
  match Text.readNumeral 0xFF word with
  | .ok value => .ok (UInt8.ofNat value)
  | .error cause => .error (.byte word cause)

/-- The operation that the words of a line ask for. An address is read before a byte. -/
def parseOperation (words : List (List Char)) : Except OperationError Operation :=
  match words with
  | [['w'], address, byte] => do
    let address ← parseAddress address
    let byte ← parseByte byte
    return .write address byte
  | [['r'], address] => do
    let address ← parseAddress address
    return .read address none
  | [['r'], address, byte] => do
    let address ← parseAddress address
    let byte ← parseByte byte
    return .read address (some byte)
  | [['f', 'l', 'u', 's', 'h']] => .ok .flush
  | _ => .error (.unknown words)

/-- The words of a line before its comment. -/
def lineWords (line : List Char) : List (List Char) := Text.words (line.takeWhile (· != '#'))

/-- The operations that some lines ask for, of which the first one has the given number. -/
def parseLines (number : Nat) : List (List Char) → Except ParseError (List Line)
  | [] => .ok []
  | line :: rest =>
    match lineWords line with
    | [] => parseLines (number + 1) rest
    | words =>
      match parseOperation words with
      | .error cause => .error ⟨number, cause⟩
      | .ok operation =>
        match parseLines (number + 1) rest with
        | .error error => .error error
        | .ok lines => .ok (⟨number, operation⟩ :: lines)

/-- The operations that a script asks for. -/
def parse (source : String) : Except ParseError (List Line) :=
  parseLines 1 (Text.lines source.toList)

end Script
end FlashCartridge
