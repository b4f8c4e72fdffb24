import FlashCartridge.Proofs.Script.Grammar

/-!
# Scripts behind each other

A line feed between two scripts joins them into one. The joined script asks for what the first one
asks for and then for what the second one asks for, with later line numbers. It is refused where
the first of the two is refused that does not fit the grammar. The exact ends of lines play no part
in this: a script can be read from its pieces between line feeds, even though a carriage return at
the end of a piece is no part of a line, and an empty last piece is no line.
-/

namespace FlashCartridge
namespace Script

open Text

/-- How many lines a script takes up in front of another one: one more than it has line feeds. -/
def lineCount (source : String) : Nat := 1 + source.toList.count '\n'

/-- The same line of a script with some more lines in front. -/
def Line.later (count : Nat) (line : Line) : Line := { line with number := count + line.number }

/-- The same error in a script with some more lines in front. -/
def ParseError.later (count : Nat) (error : ParseError) : ParseError :=
  { error with number := count + error.number }

/-! ## Reading lines -/

section Reading

variable {number : Nat} {text : List Char} {front back : List (List Char)}

theorem parseLines_cons_of_visible (visible : lineWords text ≠ []) :
    parseLines number (text :: back) = do
      let operation ← (parseOperation (lineWords text)).mapError (⟨number, ·⟩)
      let later ← parseLines (number + 1) back
      return ⟨number, operation⟩ :: later := by
  rw [parseLines]
  split
  · contradiction
  · cases parseOperation (lineWords text) <;> cases parseLines (number + 1) back <;> rfl

/-- What is read depends on the words of the lines only. -/
theorem parseLines_congr (same : front.map lineWords = back.map lineWords) :
    parseLines number front = parseLines number back := by
  induction front generalizing number back with
  | nil => rw [List.map_eq_nil_iff.mp same.symm]
  | cons text rest ih =>
      obtain ⟨other, later, rfl, words, behind⟩ := List.map_eq_cons_iff.mp same.symm
      rw [parseLines, parseLines, words, ih behind.symm]

theorem parseLines_append :
    parseLines number (front ++ back) = do
      let before ← parseLines number front
      let behind ← parseLines (number + front.length) back
      return before ++ behind := by
  induction front generalizing number with
  | nil => exact (bind_pure _).symm
  | cons text rest ih =>
      have shift : number + (text :: rest).length = number + 1 + rest.length := by
        simp only [List.length_cons]
        omega
      rw [List.cons_append, shift]
      by_cases blank : lineWords text = []
      · rw [parseLines_cons_of_blank blank, parseLines_cons_of_blank blank, ih]
      · rw [parseLines_cons_of_visible blank, parseLines_cons_of_visible blank, ih]
        simp

theorem parseLines_add (count : Nat) :
    parseLines (count + number) back =
      ((parseLines number back).map (List.map (.later count))).mapError (.later count) := by
  induction back generalizing number with
  | nil => rfl
  | cons text rest ih =>
      by_cases blank : lineWords text = []
      · rw [parseLines_cons_of_blank blank, parseLines_cons_of_blank blank, Nat.add_assoc, ih]
      · rw [parseLines_cons_of_visible blank, parseLines_cons_of_visible blank, Nat.add_assoc, ih]
        cases parseOperation (lineWords text) <;> cases parseLines (number + 1) rest <;> rfl

end Reading

/-! ## Pieces between line feeds -/

/-- A carriage return at the end of a line is blank or belongs to a comment. -/
theorem lineWords_concat_return (line : List Char) :
    lineWords (line ++ ['\r']) = lineWords line := by
  rw [lineWords_eq_splitOnP, lineWords_eq_splitOnP, List.takeWhile_append]
  split
  · rename_i uncommented
    have whole : line.takeWhile (· != '#') = line :=
      (List.takeWhile_prefix _).eq_of_length uncommented
    rw [whole, List.takeWhile_cons_of_pos (by decide), List.takeWhile_nil,
      List.splitOnP_append_cons _ _ (by decide)]
    simp
  · rfl

theorem lineWords_withoutReturn (line : List Char) :
    lineWords (withoutReturn line) = lineWords line := by
  unfold withoutReturn
  split
  · rename_i ends
    obtain ⟨front, rfl⟩ := List.getLast?_eq_some_iff.mp ends
    rw [List.dropLast_concat, lineWords_concat_return]
  · rfl

theorem parseLines_concat_nil (texts : List (List Char)) (number : Nat) :
    parseLines number (texts ++ [[]]) = parseLines number texts := by
  have blank : lineWords [] = [] := lineWords_eq_splitOnP []
  rw [parseLines_append, parseLines_cons_of_blank blank, parseLines]
  change (do let before ← parseLines number texts; return before ++ []) = _
  simp only [List.append_nil, bind_pure]

/-- A script can be read from its pieces between line feeds. -/
theorem parse_eq_parseLines_splitOn (source : String) :
    parse source = parseLines 1 (source.toList.splitOn '\n') := by
  obtain ⟨front, last, pieces⟩ :=
    (List.eq_nil_or_concat' _).resolve_left (List.splitOn_ne_nil '\n' source.toList)
  rw [parse, lines_eq_splitOn, pieces, List.dropLast_concat, List.getLast?_concat]
  by_cases empty : last = []
  · subst empty
    rw [parseLines_concat_nil]
    exact parseLines_congr (by simp [lineWords_withoutReturn])
  · exact parseLines_congr (by simp [lineWords_withoutReturn, empty])

theorem length_splitOn (text : List Char) :
    (text.splitOn '\n').length = 1 + text.count '\n' := by
  induction text with
  | nil => rfl
  | cons first rest ih =>
      rw [List.splitOn_cons_eq_if_modifyHead]
      split <;> simp_all [Nat.add_comm]

/-! ## Scripts -/

/-- The second script is read after the first one, with later numbers. -/
theorem parse_append_eq_bind (front back : String) :
    parse (front ++ "\n" ++ back) = do
      let before ← parse front
      let behind ← ((parse back).map (List.map (.later (lineCount front)))).mapError
        (.later (lineCount front))
      return before ++ behind := by
  have pieces : (front ++ "\n" ++ back).toList.splitOn '\n' =
      front.toList.splitOn '\n' ++ back.toList.splitOn '\n' := by
    rw [← List.splitOn_append_cons_self]
    simp
  simp only [parse_eq_parseLines_splitOn, pieces, parseLines_append, length_splitOn, lineCount,
    ← parseLines_add]
  simp only [Nat.add_comm 1]

/-- Reading is compatible with a line feed between two scripts, but for the numbers of the lines in
the second one. -/
theorem parse_append (front back : String) :
    (∀ error, parse front = .error error → parse (front ++ "\n" ++ back) = .error error) ∧
    (∀ before error, parse front = .ok before → parse back = .error error →
      parse (front ++ "\n" ++ back) = .error (error.later (lineCount front)) ∧
        (error.later (lineCount front)).report =
          ⟨s!"invalid script line {lineCount front + error.number}", error.report.causes⟩) ∧
    ∀ before behind, parse front = .ok before → parse back = .ok behind →
      parse (front ++ "\n" ++ back) = .ok (before ++ behind.map (.later (lineCount front))) := by
  rw [parse_append_eq_bind]
  refine ⟨?_, ?_, ?_⟩
  · intro error refused
    rw [refused]
    rfl
  · intro before error accepted refused
    rw [accepted, refused]
    exact ⟨rfl, rfl⟩
  · intro before behind accepted later
    rw [accepted, later]
    rfl

/-- The first script ends in a comment and a carriage return, and the second one is refused. -/
theorem parse_append_of_openComment :
    ∃ error,
      parse ("w 0000 0a\nr a010 # open\r" ++ "\n" ++ "flush\r\n\nflush now") = .error error ∧
      error.report.message = "invalid script line 5" ∧
      error.report.causes =
        ["expected 'w ADDR VALUE', 'r ADDR [VALUE]' or 'flush', found 'flush now'"] := by
  have accepted : parse "w 0000 0a\nr a010 # open\r" =
      .ok [⟨1, .write 0x0000 0x0A⟩, ⟨2, .read 0xA010 none⟩] := by
    rw [parse_eq_parseLines_splitOn]
    change parseLines 1 ["w 0000 0a".toList, "r a010 # open\r".toList] = _
    simp only [parseLines, lineWords_eq_splitOnP]
    rfl
  have refused : parse "flush\r\n\nflush now" =
      .error ⟨3, .unknown ["flush".toList, "now".toList]⟩ := by
    rw [parse_eq_parseLines_splitOn]
    change parseLines 1 ["flush\r".toList, [], "flush now".toList] = _
    simp only [parseLines, lineWords_eq_splitOnP]
    rfl
  obtain ⟨_, stops, _⟩ := parse_append "w 0000 0a\nr a010 # open\r" "flush\r\n\nflush now"
  obtain ⟨joined, report⟩ := stops _ _ accepted refused
  exact ⟨_, joined, congrArg Report.message report, congrArg Report.causes report⟩

end Script
end FlashCartridge
