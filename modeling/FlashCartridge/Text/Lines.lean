import FlashCartridge.Text.Blank

/-!
# Lines and words

Text is split at line feeds, and a line is split at blank characters.
-/

namespace FlashCartridge
namespace Text

/-- A line without the carriage return that belongs to its end. -/
def withoutReturn (line : List Char) : List Char :=
  if line.getLast? = some '\r' then line.dropLast else line

/-- The lines of a text. A carriage return before a line feed belongs to the line end, and a final
line feed opens no further line. -/
def lines (text : List Char) : List (List Char) :=
  match text with
  | [] => []
  | first :: others =>
    let line := (first :: others).takeWhile (· != '\n')
    match _rest_eq : (first :: others).dropWhile (· != '\n') with
    | [] => [line]
    | _ :: rest => withoutReturn line :: lines rest
termination_by text.length
decreasing_by
  have suffix := (List.dropWhile_suffix (l := first :: others) (· != '\n')).length_le
  rw [_rest_eq] at suffix
  simp only [List.length_cons] at suffix ⊢
  omega

@[simp]
theorem lines_nil : lines [] = [] := by rw [lines]

theorem takeWhile_unbroken {line : List Char} (unbroken : '\n' ∉ line) (rest : List Char) :
    (line ++ rest).takeWhile (· != '\n') = line ++ rest.takeWhile (· != '\n') := by
  induction line with
  | nil => rfl
  | cons first others ih =>
      simp only [List.mem_cons, not_or] at unbroken
      simp [ih unbroken.2, Ne.symm unbroken.1]

theorem dropWhile_unbroken {line : List Char} (unbroken : '\n' ∉ line) (rest : List Char) :
    (line ++ rest).dropWhile (· != '\n') = rest.dropWhile (· != '\n') := by
  induction line with
  | nil => rfl
  | cons first others ih =>
      simp only [List.mem_cons, not_or] at unbroken
      simp [ih unbroken.2, Ne.symm unbroken.1]

theorem lines_append_cons {line : List Char} (unbroken : '\n' ∉ line) (rest : List Char) :
    lines (line ++ '\n' :: rest) = withoutReturn line :: lines rest := by
  have taken := takeWhile_unbroken unbroken ('\n' :: rest)
  have dropped := dropWhile_unbroken unbroken ('\n' :: rest)
  cases whole_eq : line ++ '\n' :: rest with
  | nil => simp at whole_eq
  | cons first others =>
      rw [whole_eq] at taken dropped
      rw [lines]
      split
      · rename_i empty
        simp [dropped] at empty
      · rename_i cut
        simp only [dropped, bne_self_eq_false, Bool.false_eq_true, not_false_eq_true,
          List.dropWhile_cons_of_neg, List.cons.injEq] at cut
        simp [taken, cut.2]

/-- Text without a line feed is one line, unless it is empty. -/
theorem lines_of_unbroken {line : List Char} (unbroken : '\n' ∉ line) (visible : line ≠ []) :
    lines line = [line] := by
  have taken := takeWhile_unbroken unbroken []
  have dropped := dropWhile_unbroken unbroken []
  rw [List.append_nil] at taken dropped
  cases line with
  | nil => exact absurd rfl visible
  | cons first others =>
      rw [lines]
      split
      · simp [taken]
      · rename_i cut
        simp [dropped] at cut

/-- The maximal runs of characters between separators. -/
def runs (isSeparator : Char → Bool) : List Char → List (List Char)
  | [] => []
  | first :: rest =>
    if isSeparator first then
      runs isSeparator rest
    else
      let run := first :: rest.takeWhile (!isSeparator ·)
      run :: runs isSeparator (rest.dropWhile (!isSeparator ·))
termination_by text => text.length
decreasing_by
  · simp
  · have suffix := (List.dropWhile_suffix (l := rest) (!isSeparator ·)).length_le
    simp only [List.length_cons]
    omega

/-- The words of a line are its maximal runs of characters that are not blank. -/
def words (line : List Char) : List (List Char) := runs isBlank line

end Text
end FlashCartridge
