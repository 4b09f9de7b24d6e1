import InterfaceGen.Text.Position
import Mathlib.Data.List.DropRight

/-!
# Positions counted

The position right after a text is followed character by character. Counted at once, its line is
given by the newlines of the text, and its column by the characters behind the last of them.
-/

namespace InterfaceGen.Text

namespace Position

/-- The position right after a text, counted from its newlines and its last line. -/
def counted (text : List Char) : Position :=
  ⟨text.count '\n' + 1, (text.rtakeWhile (· ≠ '\n')).length + 1⟩

theorem after_append (left right : List Char) :
    after (left ++ right) = right.foldl advance (after left) :=
  List.foldl_append

/-- One more character ends the line or takes the next column. -/
theorem counted_concat (text : List Char) (char : Char) :
    counted (text ++ [char]) = (counted text).advance char := by
  by_cases newline : char = '\n'
  · subst newline
    simp [counted, advance]
  · simp [counted, advance, newline]

/-- Counting gives the position that is reached character by character. -/
theorem after_eq_counted (text : List Char) : after text = counted text := by
  induction text using List.reverseRecOn with
  | nil => rfl
  | append_singleton text char inductionHypothesis =>
      rw [after_append, inductionHypothesis, counted_concat]
      rfl

end Position

end InterfaceGen.Text
