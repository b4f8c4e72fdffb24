import Mathlib.Data.List.Forall2
import Mathlib.Data.Nat.Digits.Defs
import Mathlib.Tactic.IntervalCases
import FlashCartridge.Text.Numeral

/-!
# What counts as a numeral

The grammar of hexadecimal numerals says what a word has to look like and which value it then has,
without reading it from either end. The reader accepts exactly the numerals within its limit. Its
accumulator never exceeds the limit, whatever the length of the word. Of all other words it tells
those that begin with digits of too large a value, whatever follows them.
-/

namespace FlashCartridge
namespace Text

/-- A hexadecimal digit of either case, and its value. -/
def IsDigit (character : Char) (value : Nat) : Prop :=
  "0123456789abcdef".toList[value]? = some character ∨
    "0123456789ABCDEF".toList[value]? = some character

/-- One or more digits, behind an optional plus sign, whose value does not exceed the limit. -/
def IsNumeral (limit : Nat) (word : List Char) (value : Nat) : Prop :=
  ∃ sign digits values, word = sign ++ digits ∧ (sign = [] ∨ sign = ['+']) ∧ digits ≠ [] ∧
    List.Forall₂ IsDigit digits values ∧ value = Nat.ofDigits 16 values.reverse ∧ value ≤ limit

/-- Behind an optional plus sign, the word begins with digits of too large a value. -/
def Exceeds (limit : Nat) (word : List Char) : Prop :=
  ∃ sign digits, word = sign ++ digits ∧ (sign = [] ∨ sign = ['+']) ∧
    ∃ front, front <+: digits ∧ ∃ values, List.Forall₂ IsDigit front values ∧
      limit < Nat.ofDigits 16 values.reverse

theorem IsNumeral.le {limit : Nat} {word : List Char} {value : Nat}
    (isNumeral : IsNumeral limit word value) : value ≤ limit := by
  obtain ⟨_, _, _, _, _, _, _, _, small⟩ := isNumeral
  exact small

/-! ## Digits -/

theorem digitValue?_of_isDigit {character : Char} {value : Nat}
    (isDigit : IsDigit character value) : digitValue? character = some value := by
  have small : value < 16 := by
    rcases isDigit with found | found <;>
      exact (List.getElem?_eq_some_iff.mp found).1
  rcases isDigit with found | found <;> interval_cases value <;>
    (obtain rfl := Option.some.inj found; rfl)

theorem isDigit_of_digitValue? {character : Char} {value : Nat}
    (read : digitValue? character = some value) : IsDigit character value := by
  rw [digitValue?] at read
  split_ifs at read with decimal lower upper
  all_goals
    obtain rfl := Option.some.inj read
    rw [← Char.ofNat_toNat character]
  · have first : 48 ≤ character.toNat := decimal.1
    have last : character.toNat ≤ 57 := decimal.2
    interval_cases character.toNat <;> exact .inl rfl
  · have first : 97 ≤ character.toNat := lower.1
    have last : character.toNat ≤ 102 := lower.2
    interval_cases character.toNat <;> exact .inl rfl
  · have first : 65 ≤ character.toNat := upper.1
    have last : character.toNat ≤ 70 := upper.2
    interval_cases character.toNat <;> exact .inr rfl

theorem digitValue?_eq_some_iff {character : Char} {value : Nat} :
    digitValue? character = some value ↔ IsDigit character value :=
  ⟨isDigit_of_digitValue?, digitValue?_of_isDigit⟩

/-! ## Words -/

theorem ofDigits_reverse_cons_add (digit start : Nat) (values : List Nat) :
    Nat.ofDigits 16 (digit :: values).reverse + 16 ^ (digit :: values).length * start =
      Nat.ofDigits 16 values.reverse + 16 ^ values.length * (16 * start + digit) := by
  rw [Nat.ofDigits_reverse_cons, List.length_cons]
  ring

theorem exists_forall₂_isDigit_cons_iff {character : Char} {digit : Nat}
    (read : digitValue? character = some digit) {rest : List Char} {property : List Nat → Prop} :
    (∃ values, List.Forall₂ IsDigit (character :: rest) values ∧ property values) ↔
      ∃ values, List.Forall₂ IsDigit rest values ∧ property (digit :: values) := by
  constructor
  · rintro ⟨_, isDigit | ⟨isDigit, others⟩, holds⟩
    rename_i other values
    have same := (digitValue?_of_isDigit isDigit).symm.trans read
    obtain rfl := Option.some.inj same
    exact ⟨values, others, holds⟩
  · rintro ⟨values, others, holds⟩
    exact ⟨digit :: values, .cons (isDigit_of_digitValue? read) others, holds⟩

/-- The reader takes all digits. Since the value behind a digit never exceeds that behind a later
one, a limit on the last one is a limit on all of them. -/
theorem readDigits_eq_ok_iff {limit : Nat} {digits : List Char} {start value : Nat}
    (small : start ≤ limit) :
    readDigits limit start digits = .ok value ↔
      ∃ values, List.Forall₂ IsDigit digits values ∧
        value = Nat.ofDigits 16 values.reverse + 16 ^ values.length * start ∧ value ≤ limit := by
  induction digits generalizing start with
  | nil =>
      simp only [readDigits, Except.ok.injEq, List.forall₂_nil_left_iff, exists_eq_left,
        List.reverse_nil, Nat.ofDigits_nil, List.length_nil]
      omega
  | cons character rest ih =>
      rw [readDigits]
      cases read : digitValue? character with
      | none => simp [List.forall₂_cons_left_iff, ← digitValue?_eq_some_iff, read]
      | some digit =>
          rw [exists_forall₂_isDigit_cons_iff read]
          simp only [ofDigits_reverse_cons_add]
          split
          · rename_i exceeds
            refine iff_of_false nofun ?_
            rintro ⟨values, _, rfl, bounded⟩
            have grown : 16 * start + digit ≤ 16 ^ values.length * (16 * start + digit) :=
              Nat.le_mul_of_pos_left _ (by positivity)
            omega
          · rename_i within
            exact ih (Nat.le_of_not_lt within)

theorem exists_prefix_isDigit_cons_iff {character : Char} {digit : Nat}
    (read : digitValue? character = some digit) {rest : List Char} {property : List Nat → Prop} :
    (∃ front, front <+: character :: rest ∧
        ∃ values, List.Forall₂ IsDigit front values ∧ property values) ↔
      property [] ∨ ∃ front, front <+: rest ∧
        ∃ values, List.Forall₂ IsDigit front values ∧ property (digit :: values) := by
  simp only [List.prefix_cons_iff, or_and_right, exists_or, exists_eq_left,
    List.forall₂_nil_left_iff]
  refine or_congr_right ?_
  constructor
  · rintro ⟨_, ⟨front, rfl, isPrefix⟩, digits⟩
    exact ⟨front, isPrefix, (exists_forall₂_isDigit_cons_iff read).mp digits⟩
  · rintro ⟨front, isPrefix, digits⟩
    exact ⟨_, ⟨front, rfl, isPrefix⟩, (exists_forall₂_isDigit_cons_iff read).mpr digits⟩

/-- The reader notices that a value is too large at the first digit that makes it so. -/
theorem readDigits_eq_overflow_iff {limit : Nat} {digits : List Char} {start : Nat}
    (small : start ≤ limit) :
    readDigits limit start digits = .error .overflow ↔
      ∃ front, front <+: digits ∧ ∃ values, List.Forall₂ IsDigit front values ∧
        limit < Nat.ofDigits 16 values.reverse + 16 ^ values.length * start := by
  induction digits generalizing start with
  | nil => simp [readDigits, small]
  | cons character rest ih =>
      rw [readDigits]
      cases read : digitValue? character with
      | none =>
          simp [List.prefix_cons_iff, or_and_right, exists_or, List.forall₂_cons_left_iff,
            ← digitValue?_eq_some_iff, read, small]
      | some digit =>
          rw [exists_prefix_isDigit_cons_iff read]
          simp only [ofDigits_reverse_cons_add]
          split
          · rename_i exceeds
            exact iff_of_true rfl (.inr ⟨[], List.nil_prefix, [], .nil, by simpa using exceeds⟩)
          · rename_i within
            rw [ih (Nat.le_of_not_lt within)]
            simp [small]

theorem readDigits_ne_empty {limit : Nat} {digits : List Char} {start : Nat} :
    readDigits limit start digits ≠ .error .empty := by
  fun_induction readDigits limit start digits with
  | case4 start character rest digit read next within ih => exact ih
  | _ => simp

theorem eq_append_withoutSign (word : List Char) :
    ∃ sign, word = sign ++ withoutSign word ∧ (sign = [] ∨ sign = ['+']) := by
  fun_cases withoutSign word with
  | case1 digits => exact ⟨['+'], rfl, .inr rfl⟩
  | case2 => exact ⟨[], rfl, .inl rfl⟩

/-- The plus sign is no digit. -/
theorem withoutSign_of_digits {digits : List Char} {values : List Nat}
    (isDigits : List.Forall₂ IsDigit digits values) : withoutSign digits = digits := by
  fun_cases withoutSign digits with
  | case1 rest =>
      obtain _ | ⟨isDigit, _⟩ := isDigits
      exact nomatch digitValue?_of_isDigit isDigit
  | case2 => rfl

theorem isNumeral_iff {limit : Nat} {word : List Char} {value : Nat} :
    IsNumeral limit word value ↔ withoutSign word ≠ [] ∧
      ∃ values, List.Forall₂ IsDigit (withoutSign word) values ∧
        value = Nat.ofDigits 16 values.reverse ∧ value ≤ limit := by
  constructor
  · rintro ⟨sign, digits, values, rfl, signed, visible, isDigits, holds⟩
    have digits_eq : withoutSign (sign ++ digits) = digits := by
      obtain rfl | rfl := signed
      · exact withoutSign_of_digits isDigits
      · rfl
    rw [digits_eq]
    exact ⟨visible, values, isDigits, holds⟩
  · rintro ⟨visible, values, isDigits, holds⟩
    obtain ⟨sign, split, signed⟩ := eq_append_withoutSign word
    exact ⟨sign, withoutSign word, values, split, signed, visible, isDigits, holds⟩

theorem prefix_withoutSign {front word : List Char} {values : List Nat}
    (isPrefix : front <+: word) (isDigits : List.Forall₂ IsDigit front values) :
    front <+: withoutSign word := by
  fun_cases withoutSign word with
  | case1 rest =>
      obtain rfl | ⟨others, rfl, _⟩ := List.prefix_cons_iff.mp isPrefix
      · exact List.nil_prefix
      · obtain _ | ⟨isDigit, _⟩ := isDigits
        exact nomatch digitValue?_of_isDigit isDigit
  | case2 => exact isPrefix

theorem exceeds_iff {limit : Nat} {word : List Char} :
    Exceeds limit word ↔ ∃ front, front <+: withoutSign word ∧
      ∃ values, List.Forall₂ IsDigit front values ∧ limit < Nat.ofDigits 16 values.reverse := by
  constructor
  · rintro ⟨sign, digits, rfl, rfl | rfl, front, isPrefix, values, isDigits, large⟩
    · exact ⟨front, prefix_withoutSign isPrefix isDigits, values, isDigits, large⟩
    · exact ⟨front, isPrefix, values, isDigits, large⟩
  · intro exceeds
    obtain ⟨sign, split, signed⟩ := eq_append_withoutSign word
    exact ⟨sign, withoutSign word, split, signed, exceeds⟩

theorem readNumeral_eq_ok_iff {limit : Nat} {word : List Char} {value : Nat} :
    readNumeral limit word = .ok value ↔ IsNumeral limit word value := by
  rw [isNumeral_iff, readNumeral]
  by_cases blank : word = []
  · simp [blank, withoutSign]
  · rw [if_neg blank]
    cases withoutSign word with
    | nil => simp
    | cons first rest => simp [readDigits_eq_ok_iff]

theorem readNumeral_eq_overflow_iff {limit : Nat} {word : List Char} :
    readNumeral limit word = .error .overflow ↔ Exceeds limit word := by
  rw [exceeds_iff, readNumeral]
  by_cases blank : word = []
  · simp [blank, withoutSign]
  · rw [if_neg blank]
    cases withoutSign word with
    | nil => simp
    | cons first rest => simp [readDigits_eq_overflow_iff]

theorem readNumeral_eq_empty_iff {limit : Nat} {word : List Char} :
    readNumeral limit word = .error .empty ↔ word = [] := by
  rw [readNumeral]
  by_cases blank : word = []
  · simp [blank]
  · rw [if_neg blank]
    cases withoutSign word with
    | nil => simp [blank]
    | cons first rest => simp [blank, readDigits_ne_empty]

theorem readNumeral_eq_invalidDigit_iff {limit : Nat} {word : List Char} :
    readNumeral limit word = .error .invalidDigit ↔
      word ≠ [] ∧ (∀ value, ¬ IsNumeral limit word value) ∧ ¬ Exceeds limit word := by
  rw [ne_eq, ← @readNumeral_eq_empty_iff limit word]
  simp only [← readNumeral_eq_ok_iff, ← readNumeral_eq_overflow_iff]
  rcases readNumeral limit word with (_ | _ | _) | value <;> simp

end Text
end FlashCartridge
