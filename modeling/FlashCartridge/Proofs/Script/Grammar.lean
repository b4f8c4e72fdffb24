import FlashCartridge.Proofs.Script.Numeral
import FlashCartridge.Proofs.Text.Lines

/-!
# The grammar of scripts

The words of a line either ask for an operation or they do not, and a script is accepted if every
line with words asks for one. This grammar mentions neither the order in which a script is read nor
where reading it stops. The parser accepts exactly the scripts of the grammar, finds what each of
their lines asks for, and refuses any other script at its first line that does not fit.
-/

namespace FlashCartridge
namespace Script

open Text

/-! ## The grammar -/

/-- The words of each line of a script. Lines end with a line feed, and a carriage return before it
belongs to the line end; a final line feed opens no further line. The words of a line are its
maximal runs of characters before the first `#` that are not blank. -/
def sentences (source : String) : List (List (List Char)) :=
  let pieces := source.toList.splitOn '\n'
  let lines := pieces.dropLast.map withoutReturn ++ pieces.getLast?.toList.filter (· != [])
  lines.map fun line => ((line.takeWhile (· != '#')).splitOnP isBlank).filter (· != [])

/-- The words of a line ask for an operation. -/
inductive Asks : List (List Char) → Operation → Prop
  /-- Write a byte. -/
  | write {place value : List Char} {address : UInt16} {byte : UInt8}
      (isAddress : IsNumeral 0xFFFF place address.toNat)
      (isByte : IsNumeral 0xFF value byte.toNat) :
      Asks [['w'], place, value] (.write address byte)
  /-- Read a byte. -/
  | read {place : List Char} {address : UInt16}
      (isAddress : IsNumeral 0xFFFF place address.toNat) :
      Asks [['r'], place] (.read address none)
  /-- Read a byte and compare it. -/
  | compare {place value : List Char} {address : UInt16} {byte : UInt8}
      (isAddress : IsNumeral 0xFFFF place address.toNat)
      (isByte : IsNumeral 0xFF value byte.toNat) :
      Asks [['r'], place, value] (.read address (some byte))
  /-- Save everything that has changed. -/
  | flush : Asks [['f', 'l', 'u', 's', 'h']] .flush

/-- The words of a line fit the grammar: there are none, or they ask for an operation. -/
def Fits (words : List (List Char)) : Prop := words = [] ∨ ∃ operation, Asks words operation

/-! ## Words -/

theorem exists_of_bind_eq_ok {ε α β : Type} {first : Except ε α} {next : α → Except ε β}
    {result : β} (done : first >>= next = .ok result) :
    ∃ value, first = .ok value ∧ next value = .ok result := by
  cases first with
  | error => contradiction
  | ok value => exact ⟨value, rfl, done⟩

theorem asks_of_parseOperation {words : List (List Char)} {operation : Operation}
    (parsed : parseOperation words = .ok operation) : Asks words operation := by
  unfold parseOperation at parsed
  split at parsed
  · obtain ⟨address, isAddress, rest⟩ := exists_of_bind_eq_ok parsed
    obtain ⟨byte, isByte, done⟩ := exists_of_bind_eq_ok rest
    obtain rfl := Except.ok.inj done
    exact .write (parseAddress_eq_ok_iff.mp isAddress) (parseByte_eq_ok_iff.mp isByte)
  · obtain ⟨address, isAddress, done⟩ := exists_of_bind_eq_ok parsed
    obtain rfl := Except.ok.inj done
    exact .read (parseAddress_eq_ok_iff.mp isAddress)
  · obtain ⟨address, isAddress, rest⟩ := exists_of_bind_eq_ok parsed
    obtain ⟨byte, isByte, done⟩ := exists_of_bind_eq_ok rest
    obtain rfl := Except.ok.inj done
    exact .compare (parseAddress_eq_ok_iff.mp isAddress) (parseByte_eq_ok_iff.mp isByte)
  · obtain rfl := Except.ok.inj parsed
    exact .flush
  · contradiction

theorem parseOperation_of_asks {words : List (List Char)} {operation : Operation}
    (asks : Asks words operation) : parseOperation words = .ok operation := by
  cases asks with
  | write isAddress isByte =>
      rw [parseOperation, parseAddress_eq_ok_iff.mpr isAddress, parseByte_eq_ok_iff.mpr isByte]
      rfl
  | read isAddress =>
      rw [parseOperation, parseAddress_eq_ok_iff.mpr isAddress]
      rfl
  | compare isAddress isByte =>
      rw [parseOperation, parseAddress_eq_ok_iff.mpr isAddress, parseByte_eq_ok_iff.mpr isByte]
      rfl
  | flush => rfl

theorem parseOperation_eq_ok_iff {words : List (List Char)} {operation : Operation} :
    parseOperation words = .ok operation ↔ Asks words operation :=
  ⟨asks_of_parseOperation, parseOperation_of_asks⟩

/-! ## Lines -/

theorem lineWords_eq_splitOnP (line : List Char) :
    lineWords line = ((line.takeWhile (· != '#')).splitOnP isBlank).filter (· != []) := by
  rw [lineWords, words_eq_splitOnP]

theorem map_lineWords_lines (source : String) :
    (lines source.toList).map lineWords = sentences source := by
  simp only [lines_eq_splitOn, sentences]
  exact List.map_congr_left fun line _ => lineWords_eq_splitOnP line

section Lines

variable {number : Nat} {text : List Char} {rest : List (List Char)}

theorem parseLines_cons_of_blank (blank : lineWords text = []) :
    parseLines number (text :: rest) = parseLines (number + 1) rest := by
  rw [parseLines, blank]

theorem parseLines_cons_eq_ok_iff (visible : lineWords text ≠ []) {found : List Line} :
    parseLines number (text :: rest) = .ok found ↔
      ∃ operation later, Asks (lineWords text) operation ∧
        parseLines (number + 1) rest = .ok later ∧ found = ⟨number, operation⟩ :: later := by
  simp only [← parseOperation_eq_ok_iff]
  rw [parseLines]
  split
  · contradiction
  · cases parseOperation (lineWords text) <;> cases parseLines (number + 1) rest <;>
      simp [eq_comm]

/-- Reading stops at a line that does not fit, whatever follows. -/
theorem parseLines_cons_of_not_fits (misfit : ¬ Fits (lineWords text)) :
    ∃ cause, parseLines number (text :: rest) = .error ⟨number, cause⟩ := by
  rw [parseLines]
  split
  · rename_i blank
    exact absurd (.inl blank) misfit
  · cases parsed : parseOperation (lineWords text) with
    | error cause => exact ⟨cause, rfl⟩
    | ok operation => exact absurd (.inr ⟨operation, asks_of_parseOperation parsed⟩) misfit

theorem parseLines_cons_of_error (fits : Fits (lineWords text)) {error : ParseError}
    (refused : parseLines (number + 1) rest = .error error) :
    parseLines number (text :: rest) = .error error := by
  obtain blank | ⟨operation, asks⟩ := fits
  · rw [parseLines_cons_of_blank blank, refused]
  · rw [parseLines]
    split
    · exact refused
    · rw [parseOperation_of_asks asks, refused]

end Lines

/-- The sentences with words, each with its number, where the first sentence has the given one. -/
def numbered (number : Nat) (sentences : List (List (List Char))) :
    List (List (List Char) × Nat) :=
  (sentences.zipIdx number).filter (·.1 != [])

/-- A line of a script has the number of a sentence and the operation that the sentence asks for. -/
def Answers (sentence : List (List Char) × Nat) (line : Line) : Prop :=
  line.number = sentence.2 ∧ Asks sentence.1 line.operation

theorem parseLines_eq_ok_iff {number : Nat} {texts : List (List Char)} {found : List Line} :
    parseLines number texts = .ok found ↔
      List.Forall₂ Answers (numbered number (texts.map lineWords)) found := by
  induction texts generalizing number found with
  | nil => simp [parseLines, numbered, eq_comm]
  | cons text rest ih =>
      rw [List.map_cons, numbered, List.zipIdx_cons]
      by_cases blank : lineWords text = []
      · rw [parseLines_cons_of_blank blank, List.filter_cons_of_neg (by simp [blank])]
        exact ih
      · rw [List.filter_cons_of_pos (by simpa using blank), List.forall₂_cons_left_iff,
          parseLines_cons_eq_ok_iff blank]
        simp only [ih, Answers]
        constructor
        · rintro ⟨operation, later, asks, answers, rfl⟩
          exact ⟨⟨number, operation⟩, later, ⟨rfl, asks⟩, answers, rfl⟩
        · rintro ⟨⟨_, operation⟩, later, ⟨rfl, asks⟩, answers, rfl⟩
          exact ⟨operation, later, asks, answers, rfl⟩

theorem exists_parseLines_eq_ok_iff {number : Nat} {texts : List (List Char)} :
    (∃ found, parseLines number texts = .ok found) ↔
      ∀ words ∈ texts.map lineWords, Fits words := by
  induction texts generalizing number with
  | nil => simp [parseLines]
  | cons text rest ih =>
      rw [List.map_cons, List.forall_mem_cons, ← @ih (number + 1)]
      by_cases blank : lineWords text = []
      · simp [parseLines_cons_of_blank blank, Fits, blank]
      · simp [parseLines_cons_eq_ok_iff blank, Fits, blank]

theorem parseLines_eq_error {number : Nat} {texts : List (List Char)}
    {front back : List (List (List Char))} {misfit : List (List Char)}
    (split : texts.map lineWords = front ++ misfit :: back) (fit : ∀ words ∈ front, Fits words)
    (unfit : ¬ Fits misfit) :
    ∃ cause, parseLines number texts = .error ⟨number + front.length, cause⟩ := by
  induction front generalizing number texts with
  | nil =>
      obtain ⟨text, rest, rfl, rfl, _⟩ := List.map_eq_cons_iff.mp split
      exact parseLines_cons_of_not_fits unfit
  | cons words front ih =>
      obtain ⟨text, rest, rfl, rfl, later⟩ := List.map_eq_cons_iff.mp split
      rw [List.forall_mem_cons] at fit
      obtain ⟨cause, stopped⟩ := @ih (number + 1) rest later fit.2
      rw [Nat.add_right_comm] at stopped
      exact ⟨cause, parseLines_cons_of_error fit.1 stopped⟩

/-! ## Scripts -/

/-- A script is accepted exactly if the words of each line fit the grammar, and refused at the first
line whose words do not fit otherwise. -/
theorem parse_eq_grammar (source : String) :
    ((∃ lines, parse source = .ok lines) ↔ ∀ words ∈ sentences source, Fits words) ∧
    (∀ lines, parse source = .ok lines ↔
      List.Forall₂ Answers (numbered 1 (sentences source)) lines) ∧
    ∀ front misfit back, sentences source = front ++ misfit :: back →
      (∀ words ∈ front, Fits words) → ¬ Fits misfit →
        ∃ error, parse source = .error error ∧
          error.report.message = s!"invalid script line {front.length + 1}" := by
  rw [← map_lineWords_lines]
  refine ⟨exists_parseLines_eq_ok_iff, fun lines => parseLines_eq_ok_iff, ?_⟩
  intro front misfit back split fit unfit
  obtain ⟨cause, refused⟩ := @parseLines_eq_error 1 _ _ _ _ split fit unfit
  refine ⟨_, refused, ?_⟩
  rw [Nat.add_comm front.length]
  rfl

/-- The first line that does not fit is the fourth one, and the last one is not looked at. -/
theorem parse_eq_grammar_of_misfit :
    ∃ error, parse "w 0000 +00a# first\r\n\nr\t a010 \nflush now\nw 10000" = .error error ∧
      error.report.message = "invalid script line 4" := by
  obtain ⟨_, _, refused⟩ :=
    parse_eq_grammar "w 0000 +00a# first\r\n\nr\t a010 \nflush now\nw 10000"
  let front : List (List (List Char)) :=
    [["w".toList, "0000".toList, "+00a".toList], [], ["r".toList, "a010".toList]]
  have fit : ∀ words ∈ front, Fits words := by
    simp only [front, List.forall_mem_cons, List.not_mem_nil, false_imp_iff, implies_true, and_true]
    exact ⟨.inr ⟨.write 0x0000 0x0A, asks_of_parseOperation rfl⟩, .inl rfl,
      .inr ⟨.read 0xA010 none, asks_of_parseOperation rfl⟩⟩
  have unfit : ¬ Fits ["flush".toList, "now".toList] := by
    rintro (empty | ⟨operation, asks⟩)
    · contradiction
    · exact nomatch parseOperation_of_asks asks
  obtain ⟨error, stopped, message⟩ :=
    refused front _ [["w".toList, "10000".toList]] (by decide) fit unfit
  exact ⟨error, stopped, message.trans (by decide)⟩

end Script
end FlashCartridge
