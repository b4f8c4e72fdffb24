/-!
# Hexadecimal numerals

A numeral is one or more hexadecimal digits of either case, behind an optional plus sign, and its
value may not exceed a limit. Digits are read from the left; at each one, a character that is no
digit is noticed before a value that has grown too large.
-/

namespace FlashCartridge
namespace Text

/-- Why a word is not a numeral within its limit. -/
inductive NumeralError
  /-- There is not even one character. -/
  | empty
  /-- A character is not a hexadecimal digit, or there is no digit at all. -/
  | invalidDigit
  /-- The value exceeds the limit. -/
  | overflow
  deriving DecidableEq, Repr

/-- The wording of a numeral error. -/
def NumeralError.message : NumeralError → String
  | .empty => "cannot parse integer from empty string"
  | .invalidDigit => "invalid digit found in string"
  | .overflow => "number too large to fit in target type"

/-- The value of a hexadecimal digit. -/
def digitValue? (character : Char) : Option Nat :=
  if '0' ≤ character ∧ character ≤ '9' then
    some (character.toNat - '0'.toNat)
  else if 'a' ≤ character ∧ character ≤ 'f' then
    some (character.toNat - 'a'.toNat + 10)
  else if 'A' ≤ character ∧ character ≤ 'F' then
    some (character.toNat - 'A'.toNat + 10)
  else
    none

/-- Append further digits to a value that has been read so far. -/
def readDigits (limit : Nat) : Nat → List Char → Except NumeralError Nat
  | value, [] => .ok value
  | value, character :: rest =>
    match digitValue? character with
    | none => .error .invalidDigit
    | some digit =>
      let next := 16 * value + digit
      if limit < next then .error .overflow else readDigits limit next rest

/-- The digits of a numeral, without a plus sign in front. -/
def withoutSign : List Char → List Char
  | '+' :: digits => digits
  | digits => digits

/-- The value of a numeral that may not exceed `limit`. -/
def readNumeral (limit : Nat) (word : List Char) : Except NumeralError Nat :=
  if word = [] then
    .error .empty
  else
    match withoutSign word with
    | [] => .error .invalidDigit
    | first :: rest => readDigits limit 0 (first :: rest)

end Text
end FlashCartridge
