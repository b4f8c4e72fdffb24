import Mathlib.Data.List.TakeWhile
import FlashCartridge.Text.Lines

/-!
# Lines and words as pieces

Lines and words are pieces of a text between separators. The pieces between line feeds are the
lines, but for the carriage returns at their ends and for an empty last piece; the pieces between
blank characters are the words, but for the empty ones.
-/

namespace FlashCartridge
namespace Text

/-- Lines are the pieces between line feeds, without a carriage return at the end and without a last
piece that is empty. -/
theorem lines_eq_splitOn (text : List Char) :
    lines text = (text.splitOn '\n').dropLast.map withoutReturn ++
      (text.splitOn '\n').getLast?.toList.filter (· != []) := by
  -- A line feed leaves a shorter text behind it, which need not be a tail that a case of the
  -- definition names.
  induction length : text.length using Nat.strongRecOn generalizing text with
  | ind _ shorter =>
      by_cases broken : '\n' ∈ text
      · obtain ⟨line, rest, rfl, unbroken⟩ := List.eq_append_cons_of_mem broken
        have pieces := List.splitOn_ne_nil '\n' rest
        have later := shorter rest.length (by simp [← length]; omega) rest rfl
        rw [lines_append_cons unbroken, later, List.splitOn_append_cons_self_of_not_mem unbroken,
          List.dropLast_cons_of_ne_nil pieces, List.getLast?_cons_of_ne_nil pieces]
        rfl
      · rw [List.splitOn_eq_singleton broken]
        by_cases empty : text = []
        · simp [empty]
        · simp [lines_of_unbroken broken empty, empty]

theorem runs_eq_splitOnP (isSeparator : Char → Bool) (text : List Char) :
    runs isSeparator text = (text.splitOnP isSeparator).filter (· != []) := by
  fun_induction runs isSeparator text with
  | case1 => simp
  | case2 first rest separator ih => simp [List.splitOnP_cons_eq_if_modifyHead, separator, ih]
  | case3 first rest visible run ih =>
      have inside : ∀ character ∈ run, isSeparator character = false := by
        intro character member
        obtain rfl | later := List.mem_cons.mp member
        · simpa using visible
        · simpa using List.mem_takeWhile_imp later
      have split : first :: rest = run ++ rest.dropWhile (!isSeparator ·) := by
        rw [List.cons_append, List.takeWhile_append_dropWhile]
      rw [ih, split]
      cases behind : rest.dropWhile (!isSeparator ·) with
      | nil =>
          rw [List.append_nil, List.splitOnP_eq_singleton inside]
          simp [run]
      | cons separator others =>
          have ends : isSeparator separator = true := by
            have head := List.head?_dropWhile_not (!isSeparator ·) rest
            simpa [behind] using head
          rw [List.splitOnP_append_cons_of_forall_mem inside separator ends,
            List.splitOnP_cons_eq_if_modifyHead, if_pos ends]
          simp [run]

theorem words_eq_splitOnP (line : List Char) :
    words line = (line.splitOnP isBlank).filter (· != []) :=
  runs_eq_splitOnP isBlank line

end Text
end FlashCartridge
