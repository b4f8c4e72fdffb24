import FlashCartridge.Proofs.Text.Numeral
import FlashCartridge.Script.Parser

/-!
# Numbers in scripts

Addresses and bytes are read from words by the same rules, each up to its own limit. A word is
accepted exactly if it is a numeral, however many digits it has. Any other word is refused, and the
error tells whether it begins with digits of too large a value.
-/

namespace FlashCartridge
namespace Script

open Text

/-- Words are read as the numerals up to a limit. -/
structure ReadsNumerals {α : Type} (limit : Nat) (toNat : α → Nat)
    (refuse : List Char → NumeralError → OperationError)
    (parse : List Char → Except OperationError α) : Prop where
  /-- The numerals are accepted, and nothing else is. -/
  accepts_iff : ∀ word,
    (∃ value, parse word = .ok value) ↔ ∃ number, IsNumeral limit word number
  /-- What a numeral is read as has its value. -/
  ok_iff : ∀ word value, parse word = .ok value ↔ IsNumeral limit word (toNat value)
  /-- A word that begins with digits of too large a value is refused for that. -/
  overflow_iff : ∀ word, parse word = .error (refuse word .overflow) ↔ Exceeds limit word
  /-- A word without characters is refused for that. -/
  empty_iff : ∀ word, parse word = .error (refuse word .empty) ↔ word = []
  /-- All other words are refused for the lack of a digit. -/
  invalidDigit_iff : ∀ word, parse word = .error (refuse word .invalidDigit) ↔
    word ≠ [] ∧ (∀ number, ¬ IsNumeral limit word number) ∧ ¬ Exceeds limit word
  /-- A plus sign is not enough. -/
  plus : parse ['+'] = .error (refuse ['+'] .invalidDigit)
  /-- A minus sign is no digit. -/
  minus : ∀ rest, parse ('-' :: rest) = .error (refuse ('-' :: rest) .invalidDigit)

section

variable {α : Type} {limit : Nat} {toNat : α → Nat} {ofNat : Nat → α}
  {refuse : List Char → NumeralError → OperationError}
  {parse : List Char → Except OperationError α}

/-- Reading a numeral and storing its value reads the numerals, if the values up to the limit can
be stored. -/
theorem ReadsNumerals.of_readNumeral
    (toNat_ofNat : ∀ number ≤ limit, toNat (ofNat number) = number)
    (ofNat_toNat : ∀ value, ofNat (toNat value) = value)
    (refuse_inj : ∀ {word cause other}, refuse word cause = refuse word other → cause = other)
    (parse_eq : ∀ word, parse word =
      match readNumeral limit word with
      | .ok number => .ok (ofNat number)
      | .error cause => .error (refuse word cause)) :
    ReadsNumerals limit toNat refuse parse := by
  have ok_iff (word : List Char) (value : α) :
      parse word = .ok value ↔ IsNumeral limit word (toNat value) := by
    rw [parse_eq, ← readNumeral_eq_ok_iff]
    cases read : readNumeral limit word with
    | error cause => simp
    | ok number =>
        have stored := toNat_ofNat number (readNumeral_eq_ok_iff.mp read).le
        constructor
        · intro same
          rw [← Except.ok.inj same, stored]
        · intro same
          rw [← ofNat_toNat value, ← Except.ok.inj same]
  have error_iff (word : List Char) (cause : NumeralError) :
      parse word = .error (refuse word cause) ↔ readNumeral limit word = .error cause := by
    rw [parse_eq]
    cases readNumeral limit word with
    | ok number => simp
    | error other => simpa using ⟨refuse_inj, congrArg (refuse word)⟩
  refine ⟨?accepts, ok_iff, ?overflow, ?empty, ?invalidDigit, ?plus, ?minus⟩
  case accepts =>
    intro word
    simp only [ok_iff]
    constructor
    · rintro ⟨value, isNumeral⟩
      exact ⟨toNat value, isNumeral⟩
    · rintro ⟨number, isNumeral⟩
      rw [← toNat_ofNat number isNumeral.le] at isNumeral
      exact ⟨ofNat number, isNumeral⟩
  case overflow => exact fun word => (error_iff word _).trans readNumeral_eq_overflow_iff
  case empty => exact fun word => (error_iff word _).trans readNumeral_eq_empty_iff
  case invalidDigit => exact fun word => (error_iff word _).trans readNumeral_eq_invalidDigit_iff
  case plus => exact (error_iff _ _).mpr rfl
  case minus => exact fun rest => (error_iff _ _).mpr rfl

end

theorem readsNumerals_parseAddress :
    ReadsNumerals 0xFFFF UInt16.toNat .address parseAddress :=
  .of_readNumeral (fun _ small => UInt16.toNat_ofNat_of_lt' (Nat.lt_succ_of_le small))
    (fun _ => UInt16.ofNat_toNat) (fun same => (OperationError.address.inj same).2) fun _ => rfl

theorem readsNumerals_parseByte : ReadsNumerals 0xFF UInt8.toNat .byte parseByte :=
  .of_readNumeral (fun _ small => UInt8.toNat_ofNat_of_lt' (Nat.lt_succ_of_le small))
    (fun _ => UInt8.ofNat_toNat) (fun same => (OperationError.byte.inj same).2) fun _ => rfl

theorem parseAddress_eq_ok_iff {word : List Char} {address : UInt16} :
    parseAddress word = .ok address ↔ IsNumeral 0xFFFF word address.toNat :=
  readsNumerals_parseAddress.ok_iff word address

theorem parseByte_eq_ok_iff {word : List Char} {byte : UInt8} :
    parseByte word = .ok byte ↔ IsNumeral 0xFF word byte.toNat :=
  readsNumerals_parseByte.ok_iff word byte

/-- Addresses are read as the numerals up to `0xFFFF`, and bytes as those up to `0xFF`, with the
same rules for words of any length. -/
theorem readsNumerals_address_byte :
    ReadsNumerals 0xFFFF UInt16.toNat .address parseAddress ∧
      ReadsNumerals 0xFF UInt8.toNat .byte parseByte :=
  ⟨readsNumerals_parseAddress, readsNumerals_parseByte⟩

/-- Leading zeros do not count, and what is behind too large a value is not looked at. -/
example : parseByte "+0000ff".toList = .ok 0xFF ∧
    parseByte "0100g".toList = .error (.byte "0100g".toList .overflow) ∧
    parseByte "00ffg".toList = .error (.byte "00ffg".toList .invalidDigit) :=
  ⟨rfl, rfl, rfl⟩

end Script
end FlashCartridge
