/-!
# Plain text

Plain text holds nothing that would steer a terminal. Control characters are left out unless they
are white space, and so are whole escape sequences.
-/

namespace FlashCartridge
namespace Text

/-- What the characters so far have opened. -/
inductive Sequence
  /-- Nothing, so that characters stand for themselves. -/
  | closed
  /-- An escape character. -/
  | escape
  /-- An escape sequence that its next character from `0` on ends. -/
  | escapeIntermediate
  /-- A control sequence, which a letter or another character from `@` on ends. -/
  | control
  /-- A device control string without parameters so far. -/
  | device
  /-- The parameters of a device control string. -/
  | deviceParameters
  /-- A device control string whose body its next character from `0` on opens. -/
  | deviceIntermediate
  /-- The body of a string that goes on until the byte `9C`. -/
  | body
  /-- The body of an operating system command, which goes on until a bell. -/
  | command
  deriving DecidableEq, Repr

/-- Whether a character lies between two code points, which are included. -/
def between (first last : Nat) (character : Char) : Bool :=
  first ≤ character.toNat && character.toNat ≤ last

/-- The white space among the control characters that is kept. -/
def isSpacing (character : Char) : Bool :=
  character = '\t' || character = '\n' || character = '\x0C' || character = '\r'

/-- Whether a character is kept by itself. -/
def isKept (character : Char) : Bool :=
  isSpacing character || 0x20 ≤ character.toNat && character != '\x7F'

namespace Sequence

/-- What an escape character and one more character open. -/
def afterEscape (character : Char) : Sequence :=
  if between 0x20 0x2F character then .escapeIntermediate
  else if character = '[' then .control
  else if character = ']' then .command
  else if character = 'P' then .device
  else if character = 'X' || character = '^' || character = '_' then .body
  else if between 0x30 0x7E character then .closed
  else .escape

/-- What is open after one more character that is left out. Cancelling and a new escape character
take effect everywhere. -/
def next (sequence : Sequence) (character : Char) : Sequence :=
  if character = '\x18' || character = '\x1A' then .closed
  else if character = '\x1B' then .escape
  else
    match sequence with
    | .closed => .closed
    | .escape => afterEscape character
    | .escapeIntermediate => if between 0x30 0x7E character then .closed else .escapeIntermediate
    | .control => if between 0x40 0x7E character then .closed else .control
    | .device =>
      if between 0x20 0x2F character then .deviceIntermediate
      else if between 0x30 0x3F character then .deviceParameters
      else if between 0x40 0x7E character then .body
      else .device
    | .deviceParameters =>
      if between 0x20 0x2F character then .deviceIntermediate
      else if between 0x3C 0x7E character then .body
      else .deviceParameters
    | .deviceIntermediate =>
      if between 0x30 0x7E character then .body else .deviceIntermediate
    | .body => if 0x9C ∈ String.utf8EncodeChar character then .closed else .body
    | .command => if character = '\x07' then .closed else .command

/-- Whether a character is kept while something is open. White space is kept within a sequence, but
not within a string. -/
def keeps : Sequence → Char → Bool
  | .closed, character => isKept character
  | .escape, character | .escapeIntermediate, character | .control, character =>
    isSpacing character
  | _, _ => false

end Sequence

/-- The characters to keep. White space within a sequence interrupts it: characters then stand for
themselves until one is left out, and a character beyond ASCII also closes the sequence. -/
def plainFrom (sequence : Sequence) (interrupted : Bool) : List Char → List Char
  | [] => []
  | character :: rest =>
    if (if interrupted then .closed else sequence).keeps character then
      let sequence := if 0x80 ≤ character.toNat then .closed else sequence
      character :: plainFrom sequence true rest
    else
      plainFrom (sequence.next character) false rest

/-- The plain part of a text. -/
def plain (text : List Char) : List Char := plainFrom .closed false text

end Text
end FlashCartridge
